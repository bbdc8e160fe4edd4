import Tunebook.Midi.File

/-!
# Reading Standard MIDI files

Reads a file of the messages that this library writes: the header, the chunks by their lengths, and in each
track the ticks and the message behind them. A message of a channel without a status byte has the one before
it; messages about the track reset that.

* `readVariableLength?_variableLength` and `readBigEndian?_bigEndian` say that numbers are read back as they were
  written, whatever stands behind them.
* `readFile?` reads a whole file; nothing may be left over, neither in a track nor behind the last one.
-/

namespace Tunebook

/-! ## Numbers -/

/-- The number whose higher groups of seven bits were read already, and what stands behind it. -/
def readGroups? (high : Nat) : List UInt8 → Option (Nat × List UInt8)
  | [] => none
  | b :: rest =>
    if b.toNat < 128 then some (high * 128 + b.toNat, rest)
    else readGroups? (high * 128 + (b.toNat - 128)) rest

def readVariableLength? (bytes : List UInt8) : Option (Nat × List UInt8) := readGroups? 0 bytes

def bigEndianValue (bytes : List UInt8) : Nat := bytes.foldl (fun n b => n * 256 + b.toNat) 0

/-- The bytes up to a number of them, if there are so many, and what stands behind them. -/
def readBytes? (count : Nat) (bytes : List UInt8) : Option (List UInt8 × List UInt8) :=
  if count ≤ bytes.length then some (bytes.take count, bytes.drop count) else none

def readBigEndian? (width : Nat) (bytes : List UInt8) : Option (Nat × List UInt8) :=
  (readBytes? width bytes).map fun r => (bigEndianValue r.1, r.2)

theorem readGroups?_marked (high n : Nat) (rest : List UInt8) :
    readGroups? high (.ofNat (128 + n % 128) :: rest) = readGroups? (high * 128 + n % 128) rest := by
  have h : (UInt8.ofNat (128 + n % 128)).toNat = 128 + n % 128 := by
    rw [UInt8.toNat_ofNat']
    omega
  rw [readGroups?, h, if_neg (by omega), Nat.add_sub_cancel_left]

theorem readGroups?_variableLengthFrom (n : Nat) (rest : List UInt8) :
    readGroups? 0 (variableLengthFrom n rest) = readGroups? n rest := by
  induction n using Nat.strongRecOn generalizing rest with
  | ind n ih =>
    rw [variableLengthFrom]
    split
    · next h => rw [h]
    · next h =>
      rw [ih (n / 128) (by omega), readGroups?_marked]
      congr 1
      omega

theorem variableLengthFrom_append (n : Nat) (rest behind : List UInt8) :
    variableLengthFrom n rest ++ behind = variableLengthFrom n (rest ++ behind) := by
  induction n using Nat.strongRecOn generalizing rest with
  | ind n ih =>
    rw [variableLengthFrom]
    conv => rhs; rw [variableLengthFrom]
    split
    · rfl
    · exact ih (n / 128) (by omega) _

/-- A number of variable length is read back. -/
theorem readVariableLength?_variableLength (n : Nat) (behind : List UInt8) :
    readVariableLength? (variableLength n ++ behind) = some (n, behind) := by
  have h : (UInt8.ofNat (n % 128)).toNat = n % 128 := by
    rw [UInt8.toNat_ofNat']
    omega
  rw [readVariableLength?, variableLength, variableLengthFrom_append, readGroups?_variableLengthFrom,
    List.cons_append, List.nil_append, readGroups?, h, if_pos (by omega)]
  congr 2
  omega

theorem bigEndian_length (width n : Nat) : (bigEndian width n).length = width := by
  induction width generalizing n with
  | zero => rfl
  | succ k ih => rw [bigEndian, List.length_append, ih, List.length_singleton]

theorem bigEndianValue_bigEndian (width n : Nat) :
    bigEndianValue (bigEndian width n) = n % Nat.pow 256 width := by
  induction width generalizing n with
  | zero => simp [bigEndian, bigEndianValue, Nat.mod_one]
  | succ k ih =>
    have h : (UInt8.ofNat (n % 256)).toNat = n % 256 := by
      rw [UInt8.toNat_ofNat']
      omega
    have hk := ih (n / 256)
    have hp : Nat.pow 256 (k + 1) = 256 * Nat.pow 256 k := Nat.pow_succ'
    rw [bigEndianValue] at hk
    rw [bigEndian, bigEndianValue, List.foldl_append, hk, List.foldl_cons, List.foldl_nil, h, hp, Nat.mod_mul]
    omega

theorem readBytes?_append (bytes behind : List UInt8) :
    readBytes? bytes.length (bytes ++ behind) = some (bytes, behind) := by
  rw [readBytes?, if_pos (by simp), List.take_left, List.drop_left]

/-- A number that fits into its bytes is read back. -/
theorem readBigEndian?_bigEndian {width n : Nat} (h : n < Nat.pow 256 width) (behind : List UInt8) :
    readBigEndian? width (bigEndian width n ++ behind) = some (n, behind) := by
  have hr := readBytes?_append (bigEndian width n) behind
  rw [bigEndian_length] at hr
  rw [readBigEndian?, hr, Option.map_some, bigEndianValue_bigEndian, Nat.mod_eq_of_lt h]

/-! ## Messages -/

def dataByte? (b : UInt8) : Option DataByte :=
  if h : b.toNat < 128 then some ⟨b.toNat, h⟩ else none

/-- The message of a channel that has the status byte and starts the bytes, and what stands behind it. -/
def readChannel? (status : UInt8) (bytes : List UInt8) : Option (Message × List UInt8) :=
  let channel : Channel := ⟨status.toNat % 16, by omega⟩
  match status.toNat / 16, bytes with
  | 0xc, p :: rest => do
    let number ← dataByte? p
    some (.program channel number, rest)
  | 0xb, n :: v :: rest => do
    let number ← dataByte? n
    let value ← dataByte? v
    some (.controller channel number value, rest)
  | 0x9, k :: v :: rest => do
    let key ← dataByte? k
    let velocity ← dataByte? v
    some (.noteOn channel key velocity, rest)
  | 0x8, k :: v :: rest => do
    let key ← dataByte? k
    let velocity ← dataByte? v
    some (.noteOff channel key velocity, rest)
  | _, _ => none

def textOfBytes? (bytes : List UInt8) : Option String :=
  match decodeText bytes with
  | .ok cs => some (String.ofList cs)
  | .error _ => none

def metaMessage? (kind : UInt8) (content : List UInt8) : Option Message :=
  if kind = 0x51 ∧ content.length = 3 then
    some (.tempo ⟨bigEndianValue content % 16777216, by omega⟩)
  else if kind = 0x01 then (textOfBytes? content).map fun s => .text s
  else if kind = 0x03 then (textOfBytes? content).map fun s => .trackName s
  else none

def readMeta? : List UInt8 → Option (UInt8 × List UInt8 × List UInt8)
  | [] => none
  | kind :: bytes => do
    let (length, rest) ← readVariableLength? bytes
    let (content, behind) ← readBytes? length rest
    some (kind, content, behind)

/-- What can stand behind the ticks: the end of the track, or a message with the status byte it leaves. -/
inductive TrackItem where
  | finish
  | message (m : Message) (running : Option UInt8)

/-- The item at the start behind a status byte that may be left out, and what stands behind it. -/
def readItem? (running : Option UInt8) : List UInt8 → Option (TrackItem × List UInt8)
  | [] => none
  | b :: rest =>
    if b = 0xff then do
      let (kind, content, behind) ← readMeta? rest
      if kind = 0x2f ∧ content = [] then some (.finish, behind)
      else
        let m ← metaMessage? kind content
        some (.message m none, behind)
    else if b.toNat < 128 then do
      let status ← running
      let (m, behind) ← readChannel? status (b :: rest)
      some (.message m (some status), behind)
    else do
      let (m, behind) ← readChannel? b rest
      some (.message m (some b), behind)

/-! ## Tracks and files -/

structure ReadTrack where
  messages : Track
  last : Nat
  deriving DecidableEq, Repr

def ReadTrack.cons (t : Timed) (track : ReadTrack) : ReadTrack := ⟨t :: track.messages, track.last⟩

def readItems? : Nat → Option UInt8 → List UInt8 → Option ReadTrack
  | 0, _, _ => none
  | budget + 1, running, bytes => do
    let (delta, rest) ← readVariableLength? bytes
    let (item, behind) ← readItem? running rest
    match item with
    | .finish => if behind = [] then some ⟨[], delta⟩ else none
    | .message m left => (readItems? budget left behind).map (.cons ⟨delta, m⟩)

/-- The track that a chunk holds. Each item takes up at least a byte. -/
def readTrack? (bytes : List UInt8) : Option ReadTrack := readItems? bytes.length none bytes

/-- The content of the chunk at the start, which has to have the name, and what stands behind it. -/
def readChunk? (name : String) (bytes : List UInt8) : Option (List UInt8 × List UInt8) := do
  let (found, rest) ← readBytes? 4 bytes
  if found = encodeText name.toList then
    let (length, content) ← readBigEndian? 4 rest
    readBytes? length content
  else none

def readTracks? : Nat → List UInt8 → Option (List ReadTrack)
  | 0, bytes => if bytes = [] then some [] else none
  | count + 1, bytes => do
    let (content, behind) ← readChunk? "MTrk" bytes
    let track ← readTrack? content
    let more ← readTracks? count behind
    some (track :: more)

/-- What a file holds: the number of its format, the ticks of a beat, and its tracks. -/
structure ReadFile where
  format : Nat
  resolution : Nat
  tracks : List ReadTrack
  deriving DecidableEq, Repr

def readFile? (bytes : List UInt8) : Option ReadFile := do
  let (header, behind) ← readChunk? "MThd" bytes
  let (format, more) ← readBigEndian? 2 header
  let (count, last) ← readBigEndian? 2 more
  let (resolution, left) ← readBigEndian? 2 last
  let tracks ← readTracks? count behind
  if left = [] then some ⟨format, resolution, tracks⟩ else none

end Tunebook
