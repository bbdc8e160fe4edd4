import Tunebook.Midi.Message

/-!
# Standard MIDI files

A file is a header chunk and one chunk for each track. In a track every message follows the number of ticks
since the one before it; its status byte is left out where it repeats the one before, and messages about the
track reset that.

* `variableLength` writes a number seven bits at a time.
* `trackBytes`, `chunk`, `fileBytes` write tracks, chunks and whole files. A track with a torn text cannot be written.
-/

namespace Tunebook

def variableLengthFrom (n : Nat) (rest : List UInt8) : List UInt8 :=
  if n = 0 then rest else variableLengthFrom (n / 128) (.ofNat (128 + n % 128) :: rest)
termination_by n
decreasing_by omega

/-- A number in groups of seven bits, the highest first; all but the last have the high bit set. -/
def variableLength (n : Nat) : List UInt8 := variableLengthFrom (n / 128) [.ofNat (n % 128)]

def bigEndian : Nat → Nat → List UInt8
  | 0, _ => []
  | width + 1, n => bigEndian width (n / 256) ++ [.ofNat (n % 256)]

/-- A message about the track: its kind, its length and its content. -/
def metaBytes (kind : UInt8) (content : List UInt8) : List UInt8 :=
  0xff :: kind :: variableLength content.length ++ content

namespace Message

def channelBytes? : Message → Option (UInt8 × List UInt8)
  | program c p => some (.ofNat (0xc0 + c), [.ofNat p])
  | controller c n v => some (.ofNat (0xb0 + c), [.ofNat n, .ofNat v])
  | noteOn c k v => some (.ofNat (0x90 + c), [.ofNat k, .ofNat v])
  | noteOff c k v => some (.ofNat (0x80 + c), [.ofNat k, .ofNat v])
  | _ => none

/-- The bytes of a message, its status byte included. A torn text has none. -/
def bytes (m : Message) : Except Fault (List UInt8) :=
  match m with
  | tempo beat => .ok (metaBytes 0x51 (bigEndian 3 beat))
  | text w => w.encode.map (metaBytes 0x01)
  | trackName w => w.encode.map (metaBytes 0x03)
  | _ =>
    match m.channelBytes? with
    | some (status, data) => .ok (status :: data)
    | none => .ok []

def following (m : Message) (running : Option UInt8) : Except Fault (List UInt8) :=
  match m.channelBytes? with
  | some (status, data) => .ok (if running = some status then data else status :: data)
  | none => m.bytes

def left (m : Message) : Option UInt8 := m.channelBytes?.map Prod.fst

end Message

def messagesBytes (running : Option UInt8) : Track → Except Fault (List UInt8)
  | [] => .ok []
  | t :: rest => do
    let body ← t.message.following running
    let more ← messagesBytes t.message.left rest
    .ok (variableLength t.delta ++ (body ++ more))

def trackBytes (track : Track) : Except Fault (List UInt8) :=
  (messagesBytes none track).map (· ++ [0x00, 0xff, 0x2f, 0x00])

/-- A chunk: its name, its length in four bytes and its content, which may not be too long for these. -/
def chunk (name : String) (content : List UInt8) : Except Fault (List UInt8) :=
  if content.length < 4294967296 then .ok (encodeText name.toList ++ bigEndian 4 content.length ++ content)
  else .error .chunkTooLong

/-- The formats of files: one track, or several that are played together. -/
inductive FileFormat where
  | single
  | several
  deriving DecidableEq, Repr, Inhabited

def FileFormat.number : FileFormat → Int
  | single => 0
  | several => 1

def headerField (n : Int) : Except Fault (List UInt8) :=
  if n < -9223372036854775808 ∨ 9223372036854775807 < n then .error .headerFieldTooLong
  else if n < -32768 ∨ 32767 < n then .error .headerFieldOutOfRange
  else .ok (bigEndian 2 (n % 65536).toNat)

/-- The bytes of a file: format, number of tracks, ticks of a beat, and the tracks. -/
def fileBytes (format : FileFormat) (resolution : Int) (tracks : List Track) : Except Fault (List UInt8) := do
  let kind ← headerField format.number
  let count ← headerField tracks.length
  let division ← headerField resolution
  let header ← chunk "MThd" (kind ++ count ++ division)
  let chunks ← tracks.mapM fun t => trackBytes t >>= chunk "MTrk"
  .ok (header ++ chunks.flatten)

end Tunebook
