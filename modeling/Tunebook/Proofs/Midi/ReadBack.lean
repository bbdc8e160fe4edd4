import Tunebook.Midi.Reader
import Tunebook.Proofs.Stage
import Tunebook.Proofs.Text.Utf8

/-!
# Files are read back

`Midi/File.lean` writes a file and `Midi/Reader.lean` reads one.  This file says that the
reader undoes the writer.  The only state that runs through a track is the status byte
that may be left out: the writer drops it where it repeats the one before, and the reader
puts in the last one it saw.  Both keep it by one rule, `Message.left`, so one step of the
reader undoes one step of the writer (`readItem?_following`), and a whole track is an
induction over its messages.

* `readChannel?_of_channelBytes?`, `readItem?_metaBytes`: the two kinds of messages.
* `readItem?_following`: **a message is read back behind any status byte**, and leaves the
  status byte that the writer goes on with.
* `readTrack?_trackBytes`: a track is read back up to the mark of its end.
* `trackBytes_eq_error`: **a track has bytes unless one of its texts is torn.**
* `readFile?_of_fileBytes`: what `fileBytes` has written is read back, with nothing left over.
* `fileBytes_ok`: when there is a file at all; `fileBytes_eq_error`: **why there may be none**.
-/

namespace Tunebook

/-! ### Messages of a channel -/

theorem dataByte?_ofNat (d : DataByte) : dataByte? (.ofNat d) = some d := by
  have h := octet_toNat (n := d) (by omega)
  rw [dataByte?, dif_pos (by omega)]
  exact congrArg some (Fin.ext h)

theorem status_toNat (kind : Nat) (hk : kind < 16) (c : Channel) :
    (UInt8.ofNat (kind * 16 + c)).toNat / 16 = kind ∧
    (UInt8.ofNat (kind * 16 + c)).toNat % 16 = c := by
  have h := octet_toNat (n := kind * 16 + c) (by omega)
  omega

theorem readChannel?_of_channelBytes? {m : Message} {status : UInt8} {data : List UInt8}
    (h : m.channelBytes? = some (status, data)) (behind : List UInt8) :
    readChannel? status (data ++ behind) = some (m, behind) := by
  cases m with
  | tempo beat => cases h
  | text s => cases h
  | trackName s => cases h
  | program c p =>
    obtain ⟨hd, hm⟩ := status_toNat 0xc (by omega) c
    cases h
    simp only [readChannel?, List.cons_append, List.nil_append, hd, hm, dataByte?_ofNat]
    rfl
  | controller c n v =>
    obtain ⟨hd, hm⟩ := status_toNat 0xb (by omega) c
    cases h
    simp only [readChannel?, List.cons_append, List.nil_append, hd, hm, dataByte?_ofNat]
    rfl
  | noteOn c k v =>
    obtain ⟨hd, hm⟩ := status_toNat 0x9 (by omega) c
    cases h
    simp only [readChannel?, List.cons_append, List.nil_append, hd, hm, dataByte?_ofNat]
    rfl
  | noteOff c k v =>
    obtain ⟨hd, hm⟩ := status_toNat 0x8 (by omega) c
    cases h
    simp only [readChannel?, List.cons_append, List.nil_append, hd, hm, dataByte?_ofNat]
    rfl

theorem channelBytes?_bounds {m : Message} {status : UInt8} {data : List UInt8}
    (h : m.channelBytes? = some (status, data)) :
    0x80 ≤ status.toNat ∧ status.toNat < 0xff ∧ ∃ d : DataByte,
      ∃ rest, data = .ofNat d :: rest := by
  cases m with
  | tempo beat => cases h
  | text s => cases h
  | trackName s => cases h
  | program c p =>
    have hs : (UInt8.ofNat (0xc0 + c)).toNat / 16 = 0xc := (status_toNat 0xc (by omega) c).1
    cases h
    exact ⟨by omega, by omega, p, _, rfl⟩
  | controller c n v =>
    have hs : (UInt8.ofNat (0xb0 + c)).toNat / 16 = 0xb := (status_toNat 0xb (by omega) c).1
    cases h
    exact ⟨by omega, by omega, n, _, rfl⟩
  | noteOn c k v =>
    have hs : (UInt8.ofNat (0x90 + c)).toNat / 16 = 0x9 := (status_toNat 0x9 (by omega) c).1
    cases h
    exact ⟨by omega, by omega, k, _, rfl⟩
  | noteOff c k v =>
    have hs : (UInt8.ofNat (0x80 + c)).toNat / 16 = 0x8 := (status_toNat 0x8 (by omega) c).1
    cases h
    exact ⟨by omega, by omega, k, _, rfl⟩

/-! ### Messages about the track -/

theorem readMeta?_content (kind : UInt8) (content behind : List UInt8) :
    readMeta? (kind :: variableLength content.length ++ content ++ behind)
      = some (kind, content, behind) := by
  have hv := readVariableLength?_variableLength content.length (content ++ behind)
  have hb := readBytes?_append content behind
  rw [List.cons_append, List.cons_append, List.append_assoc, readMeta?]
  simp only [bind, Option.bind, hv, hb]

/-- A message about the track is read by its kind and content, unless it marks the end. -/
theorem readItem?_metaBytes {kind : UInt8} {content : List UInt8} {m : Message}
    (running : Option UInt8)
    (behind : List UInt8) (hk : kind ≠ 0x2f) (hm : metaMessage? kind content = some m) :
    readItem? running (metaBytes kind content ++ behind) = some (.message m none, behind) := by
  have hr := readMeta?_content kind content behind
  rw [metaBytes, List.cons_append, List.cons_append, readItem?, if_pos rfl]
  simp only [bind, Option.bind, List.cons_append] at hr ⊢
  rw [hr]
  simp only [hk, false_and, if_false, hm]

theorem textOfBytes?_encodeText (s : String) : textOfBytes? (encodeText s.toList) = some s := by
  rw [textOfBytes?, decodeText_encodeText]
  exact congrArg some String.ofList_toList

theorem encode_map_eq_ok {w : Wording} {f : List UInt8 → List UInt8} {body : List UInt8}
    (h : w.encode.map f = .ok body) : ∃ s : String, w = s ∧ f (encodeText s.toList) = body := by
  obtain ⟨content, hw, hbody⟩ := map_eq_ok.1 h
  cases w with
  | whole s =>
    cases hw
    exact ⟨s, rfl, hbody⟩
  | torn t => cases hw

theorem metaMessage?_tempo (beat : BeatTime) :
    metaMessage? 0x51 (bigEndian 3 beat) = some (.tempo beat) := by
  rw [metaMessage?, if_pos ⟨rfl, bigEndian_length 3 _⟩]
  refine congrArg (fun b => some (Message.tempo b)) (Fin.ext ?_)
  show bigEndianValue (bigEndian 3 beat) % 16777216 = beat
  have hp : Nat.pow 256 3 = 16777216 := rfl
  rw [bigEndianValue_bigEndian, hp]
  omega

theorem metaMessage?_text (s : String) :
    metaMessage? 0x01 (encodeText s.toList) = some (.text s) := by
  rw [metaMessage?, if_neg (by simp), if_pos rfl, textOfBytes?_encodeText]
  rfl

theorem metaMessage?_trackName (s : String) :
    metaMessage? 0x03 (encodeText s.toList) = some (.trackName s) := by
  rw [metaMessage?, if_neg (by simp), if_neg (by decide), if_pos rfl, textOfBytes?_encodeText]
  rfl

/-! ### The status byte that may be left out -/

theorem readItem?_channel {m : Message} {status : UInt8} {data : List UInt8}
    (running : Option UInt8)
    (h : m.channelBytes? = some (status, data)) (behind : List UInt8) :
    readItem? running ((if running = some status then data else status :: data) ++ behind)
      = some (.message m (some status), behind) := by
  obtain ⟨hlow, hhigh, d, rest, hd⟩ := channelBytes?_bounds h
  have hr := readChannel?_of_channelBytes? h behind
  split
  · next same =>
    -- a data byte stands first, so the reader takes the status byte that it kept
    have hb := octet_toNat (n := d) (by omega)
    have first : UInt8.ofNat d ≠ 0xff := fun e => by
      rw [e] at hb
      exact absurd hb (by simp; omega)
    rw [hd, List.cons_append] at hr ⊢
    rw [readItem?, if_neg first, if_pos (by omega)]
    simp only [bind, Option.bind, same, hr]
  · have first : status ≠ 0xff := fun e => by
      rw [e] at hhigh
      exact absurd hhigh (by simp)
    rw [List.cons_append, readItem?, if_neg first, if_neg (by omega)]
    simp only [bind, Option.bind, hr]

/-- **A message is read back behind any status byte**, and the reader goes on with the status byte
that the writer goes on with. -/
theorem readItem?_following {m : Message} {running : Option UInt8} {body : List UInt8}
    (h : m.following running = .ok body) (behind : List UInt8) :
    readItem? running (body ++ behind) = some (.message m m.left, behind) := by
  cases m with
  | tempo beat =>
    cases h
    exact readItem?_metaBytes running behind (by decide) (metaMessage?_tempo beat)
  | text w =>
    obtain ⟨s, rfl, rfl⟩ := encode_map_eq_ok h
    exact readItem?_metaBytes running behind (by decide) (metaMessage?_text s)
  | trackName w =>
    obtain ⟨s, rfl, rfl⟩ := encode_map_eq_ok h
    exact readItem?_metaBytes running behind (by decide) (metaMessage?_trackName s)
  | program c p =>
    cases h
    exact readItem?_channel running rfl behind
  | controller c n v =>
    cases h
    exact readItem?_channel running rfl behind
  | noteOn c k v =>
    cases h
    exact readItem?_channel running rfl behind
  | noteOff c k v =>
    cases h
    exact readItem?_channel running rfl behind

/-! ### Tracks -/

/-- The track as a reader gives it back: no ticks stand before the mark of its end. -/
def Track.ended (track : Track) : ReadTrack := ⟨track, 0⟩

theorem messagesBytes_cons_eq_ok {running : Option UInt8} {t : Timed} {rest : Track} {bytes : List UInt8}
    (h : messagesBytes running (t :: rest) = .ok bytes) : ∃ body more,
      t.message.following running = .ok body ∧ messagesBytes t.message.left rest = .ok more ∧
      bytes = variableLength t.delta ++ (body ++ more) := by
  obtain ⟨body, hbody, h⟩ := bind_eq_ok.1 h
  obtain ⟨more, hmore, h⟩ := bind_eq_ok.1 h
  cases h
  exact ⟨body, more, hbody, hmore, rfl⟩

theorem readItems?_messagesBytes {track : Track} {running : Option UInt8} {bytes : List UInt8} {budget : Nat}
    (hbytes : messagesBytes running track = .ok bytes) (h : track.length < budget) :
    readItems? budget running (bytes ++ [0x00, 0xff, 0x2f, 0x00]) = some track.ended := by
  induction track generalizing running budget bytes with
  | nil =>
    obtain ⟨b, rfl⟩ := Nat.exists_eq_add_of_lt h
    cases hbytes
    rfl
  | cons t rest ih =>
    obtain ⟨b, rfl⟩ : ∃ b, budget = b + 1 := ⟨budget - 1, by omega⟩
    rw [List.length_cons] at h
    obtain ⟨body, more, hbody, hmore, rfl⟩ := messagesBytes_cons_eq_ok hbytes
    rw [readItems?, List.append_assoc, readVariableLength?_variableLength]
    simp only [bind, Option.bind, List.append_assoc]
    rw [readItem?_following hbody]
    simp only
    rw [ih hmore (by omega)]
    rfl

theorem variableLengthFrom_length (n : Nat) (rest : List UInt8) :
    rest.length ≤ (variableLengthFrom n rest).length := by
  have h := congrArg List.length (variableLengthFrom_append n [] rest)
  rw [List.length_append, List.nil_append] at h
  omega

theorem length_le_messagesBytes {track : Track} {running : Option UInt8} {bytes : List UInt8}
    (h : messagesBytes running track = .ok bytes) : track.length ≤ bytes.length := by
  induction track generalizing running bytes with
  | nil => exact Nat.zero_le _
  | cons t rest ih =>
    have hv := variableLengthFrom_length (t.delta / 128) [.ofNat (t.delta % 128)]
    obtain ⟨body, more, _, hmore, rfl⟩ := messagesBytes_cons_eq_ok h
    have hr := ih hmore
    rw [List.length_append, List.length_append, List.length_cons, variableLength]
    rw [List.length_singleton] at hv
    omega

theorem length_lt_trackBytes {track : Track} {content : List UInt8} (h : trackBytes track = .ok content) :
    track.length < content.length := by
  obtain ⟨bytes, hbytes, rfl⟩ := map_eq_ok.1 h
  have hlen := length_le_messagesBytes hbytes
  rw [List.length_append, List.length_cons]
  omega

/-- **A track is read back** up to the mark of its end. -/
theorem readTrack?_trackBytes {track : Track} {content : List UInt8} (h : trackBytes track = .ok content) :
    readTrack? content = some track.ended := by
  have hlen := length_lt_trackBytes h
  obtain ⟨bytes, hbytes, rfl⟩ := map_eq_ok.1 h
  rw [readTrack?]
  exact readItems?_messagesBytes hbytes (by omega)

/-! ### Texts of tracks -/

/-- The texts that a message is made of. -/
def Message.wordings : Message → List Wording
  | text w => [w]
  | trackName w => [w]
  | _ => []

/-- The texts of a track, in order. -/
def Track.wordings (track : Track) : List Wording := track.flatMap fun t => t.message.wordings

theorem Track.wordings_append (track more : Track) :
    wordings (track ++ more) = wordings track ++ wordings more := List.flatMap_append

/-- Why some texts cannot be written: the first torn one has no octets. -/
def tornFault? (texts : List Wording) : Option Fault :=
  texts.findSome? fun
    | .whole _ => none
    | .torn t => some t.fault

theorem tornFault?_append (texts more : List Wording) :
    tornFault? (texts ++ more) = (tornFault? texts).or (tornFault? more) := List.findSome?_append

theorem tornFault?_eq_none {texts : List Wording} :
    tornFault? texts = none ↔ ∀ w ∈ texts, w.isWhole = true := by
  rw [tornFault?, List.findSome?_eq_none_iff]
  refine forall₂_congr fun w _ => ?_
  cases w with
  | whole s => exact iff_of_true rfl rfl
  | torn t => exact iff_of_false nofun nofun

theorem following_eq_error {m : Message} {running : Option UInt8} {f : Fault} :
    m.following running = .error f ↔ tornFault? m.wordings = some f := by
  have htext (kind : UInt8) (w : Wording) :
      w.encode.map (metaBytes kind) = .error f ↔ tornFault? [w] = some f := by
    cases w with
    | whole s => exact iff_of_false nofun nofun
    | torn t =>
      show Except.error t.fault = .error f ↔ some t.fault = some f
      rw [Except.error.injEq, Option.some.injEq]
  cases m with
  | text w => exact htext 0x01 w
  | trackName w => exact htext 0x03 w
  | _ => exact iff_of_false nofun nofun

theorem messagesBytes_eq_error {track : Track} {running : Option UInt8} {f : Fault} :
    messagesBytes running track = .error f ↔ tornFault? track.wordings = some f := by
  induction track generalizing running f with
  | nil => exact iff_of_false nofun nofun
  | cons t rest ih =>
    rw [messagesBytes, Track.wordings, List.flatMap_cons, tornFault?_append]
    exact bind_eq_error_iff_or (fun _ => following_eq_error) fun _ _ _ => bind_ok_eq_error.trans ih

/-- **A track has bytes unless one of its texts is torn**, and the first one is the reason. -/
theorem trackBytes_eq_error {track : Track} {f : Fault} :
    trackBytes track = .error f ↔ tornFault? track.wordings = some f := by
  rw [← @messagesBytes_eq_error track none, trackBytes]
  cases messagesBytes none track with
  | ok bytes => exact iff_of_false nofun nofun
  | error g => exact Iff.rfl

theorem trackBytes_ok {track : Track} (h : ∀ w ∈ track.wordings, w.isWhole = true) :
    ∃ content, trackBytes track = .ok content :=
  (exists_eq_ok_iff fun _ => trackBytes_eq_error).2 (tornFault?_eq_none.2 h)

/-! ### Chunks -/

theorem readBigEndian?_two {n : Nat} (h : n < 65536) (behind : List UInt8) :
    readBigEndian? 2 (bigEndian 2 n ++ behind) = some (n, behind) :=
      @readBigEndian?_bigEndian 2 n h behind

theorem readBigEndian?_four {n : Nat} (h : n < 4294967296) (behind : List UInt8) :
    readBigEndian? 4 (bigEndian 4 n ++ behind) = some (n, behind) :=
      @readBigEndian?_bigEndian 4 n h behind

theorem chunk_eq_ok {name : String} {content : List UInt8} (h : content.length < 4294967296) :
    chunk name content = .ok (encodeText name.toList ++ bigEndian 4 content.length ++ content) := by
  rw [chunk, if_pos h]

theorem readChunk?_chunk {name : String} {content bytes : List UInt8}
    (hn : (encodeText name.toList).length = 4) (h : chunk name content = .ok bytes)
    (behind : List UInt8) :
    readChunk? name (bytes ++ behind) = some (content, behind) := by
  rw [chunk] at h
  split at h
  · next hl =>
    cases h
    have h4 :=
      readBytes?_append (encodeText name.toList) (bigEndian 4 content.length ++ (content ++ behind))
    have hlen := readBigEndian?_four hl (content ++ behind)
    rw [hn] at h4
    rw [List.append_assoc, List.append_assoc, readChunk?, h4]
    simp only [bind, Option.bind, if_true, hlen, readBytes?_append]
  · cases h

theorem readTracks?_chunks {tracks : List Track} {chunks : List (List UInt8)}
    (h : List.Forall₂ (fun t bytes => (trackBytes t >>= chunk "MTrk") = .ok bytes) tracks chunks) :
    readTracks? tracks.length chunks.flatten = some (tracks.map Track.ended) := by
  induction h with
  | nil => rfl
  | cons h _ ih =>
    obtain ⟨content, hcontent, hc⟩ := bind_eq_ok.1 h
    rw [List.flatten_cons, List.length_cons, readTracks?, readChunk?_chunk (by decide) hc]
    simp only [bind, Option.bind, readTrack?_trackBytes hcontent, ih]
    rfl

/-! ### Files -/

theorem headerField_eq_ok {n : Int} {field : List UInt8} (h : headerField n = .ok field)
    (hn : 0 ≤ n) :
    n.toNat < 65536 ∧ field = bigEndian 2 n.toNat := by
  rw [headerField] at h
  split at h
  · cases h
  · split at h
    · cases h
    · cases h
      refine ⟨by omega, ?_⟩
      congr 1
      omega

theorem headerField_ok {n : Int} (hn : 0 ≤ n) (h : n ≤ 32767) :
    headerField n = .ok (bigEndian 2 n.toNat) := by
  rw [headerField, if_neg (by omega), if_neg (by omega)]
  congr 2
  omega

def FileFormat.held (format : FileFormat) (resolution : Nat) (tracks : List Track) : ReadFile :=
  ⟨format.number.toNat, resolution, tracks.map Track.ended⟩

theorem FileFormat.number_nonneg (format : FileFormat) : 0 ≤ format.number := by
  cases format <;> decide

theorem fileBytes_eq_ok {format : FileFormat} {resolution : Int} {tracks : List Track}
    {bytes : List UInt8}
    (h : fileBytes format resolution tracks = .ok bytes) :
    ∃ kind count division header chunks, headerField format.number = .ok kind ∧
      headerField tracks.length = .ok count ∧ headerField resolution = .ok division ∧
      chunk "MThd" (kind ++ count ++ division) = .ok header ∧
      List.Forall₂ (fun t bytes => (trackBytes t >>= chunk "MTrk") = .ok bytes) tracks chunks ∧
      bytes = header ++ chunks.flatten := by
  obtain ⟨kind, hk, h⟩ := bind_eq_ok.1 h
  obtain ⟨count, hc, h⟩ := bind_eq_ok.1 h
  obtain ⟨division, hd, h⟩ := bind_eq_ok.1 h
  obtain ⟨header, hh, h⟩ := bind_eq_ok.1 h
  obtain ⟨chunks, ht, h⟩ := bind_eq_ok.1 h
  cases h
  exact ⟨kind, count, division, header, chunks, hk, hc, hd, hh, mapM_eq_ok.1 ht, rfl⟩

/-- **What was written as a file is read back**, with nothing left over. -/
theorem readFile?_of_fileBytes {format : FileFormat} {resolution : Int} {tracks : List Track}
    {bytes : List UInt8} (hr : 0 ≤ resolution)
    (h : fileBytes format resolution tracks = .ok bytes) :
    readFile? bytes = some (format.held resolution.toNat tracks) := by
  obtain ⟨kind, count, division, header, chunks, hk, hc, hd, hh, ht, rfl⟩ := fileBytes_eq_ok h
  obtain ⟨bk, rfl⟩ := headerField_eq_ok hk format.number_nonneg
  obtain ⟨bc, rfl⟩ := headerField_eq_ok hc (Int.natCast_nonneg _)
  obtain ⟨bd, rfl⟩ := headerField_eq_ok hd hr
  rw [Int.toNat_natCast] at bc hh
  have hlast := readBigEndian?_two bd []
  rw [List.append_nil] at hlast
  rw [readFile?, readChunk?_chunk (by decide) hh]
  simp only [bind, Option.bind, List.append_assoc, readBigEndian?_two bk, readBigEndian?_two bc,
    hlast, readTracks?_chunks ht, if_true]
  rfl

theorem chunks_ok {tracks : List Track} (whole : ∀ t ∈ tracks, ∀ w ∈ t.wordings, w.isWhole = true)
    (short : ∀ t ∈ tracks, ∀ content, trackBytes t = .ok content → content.length < 4294967296) :
    ∃ chunks, (tracks.mapM fun t => trackBytes t >>= chunk "MTrk") = .ok chunks := by
  refine mapM_ok fun t ht => ?_
  obtain ⟨content, hcontent⟩ := trackBytes_ok (whole t ht)
  exact ⟨_, bind_eq_ok.2 ⟨content, hcontent, chunk_eq_ok (short t ht content hcontent)⟩⟩

/-- There is a file where the tracks can be counted, the resolution fits, and so does each track, whose texts
are whole. -/
theorem fileBytes_ok (format : FileFormat) {resolution : Int} {tracks : List Track}
    (hn : tracks.length ≤ 32767) (hr : 0 ≤ resolution) (hr' : resolution ≤ 32767)
    (whole : ∀ t ∈ tracks, ∀ w ∈ t.wordings, w.isWhole = true)
    (short : ∀ t ∈ tracks, ∀ content, trackBytes t = .ok content → content.length < 4294967296) :
    ∃ bytes, fileBytes format resolution tracks = .ok bytes := by
  obtain ⟨chunks, hm⟩ := chunks_ok whole short
  have hk : format.number ≤ 32767 := by cases format <;> decide
  rw [fileBytes, headerField_ok format.number_nonneg hk,
    headerField_ok (Int.natCast_nonneg _) (by omega),
    headerField_ok hr hr', hm]
  have hlen : (bigEndian 2 format.number.toNat ++ bigEndian 2 (tracks.length : Int).toNat
      ++ bigEndian 2 resolution.toNat).length < 4294967296 := by
    simp only [List.length_append, bigEndian_length]
    omega
  exact ⟨_, by simp only [bind, Except.bind, chunk_eq_ok hlen]; rfl⟩

/-! ### Where there is no file -/

theorem headerField_length {n : Int} {field : List UInt8} (h : headerField n = .ok field) :
    field.length = 2 := by
  rw [headerField] at h
  split at h
  · cases h
  · split at h
    · cases h
    · cases h
      exact bigEndian_length 2 _

theorem chunk_eq_error {name : String} {content : List UInt8} {f : Fault}
    (h : chunk name content = .error f) : f = .chunkTooLong ∧ 4294967296 ≤ content.length := by
  rw [chunk] at h
  split at h
  · cases h
  · next hl =>
    cases h
    exact ⟨rfl, by omega⟩

section

variable {format : FileFormat} {resolution : Int} {tracks : List Track} {f : Fault}

theorem fileBytes_eq (few : tracks.length ≤ 32767) :
    ∃ kind count : List UInt8, kind.length = 2 ∧ count.length = 2 ∧
      fileBytes format resolution tracks = (do
        let division ← headerField resolution
        let header ← chunk "MThd" (kind ++ count ++ division)
        let chunks ← tracks.mapM fun t => trackBytes t >>= chunk "MTrk"
        .ok (header ++ chunks.flatten)) := by
  have hk : format.number ≤ 32767 := by cases format <;> decide
  refine ⟨bigEndian 2 format.number.toNat, bigEndian 2 (tracks.length : Int).toNat,
    bigEndian_length 2 _, bigEndian_length 2 _, ?_⟩
  rw [fileBytes, headerField_ok format.number_nonneg hk,
    headerField_ok (Int.natCast_nonneg _) (by omega), ok_bind, ok_bind]

theorem chunks_eq_error (short : (tracks.mapM fun t => trackBytes t >>= chunk "MTrk") ≠ .error .chunkTooLong) :
    (tracks.mapM fun t => trackBytes t >>= chunk "MTrk") = .error f ↔
      tornFault? (tracks.flatMap Track.wordings) = some f := by
  induction tracks generalizing f with
  | nil => exact iff_of_false nofun nofun
  | cons t rest ih =>
    rw [List.mapM_cons] at short ⊢
    rw [List.flatMap_cons, tornFault?_append]
    refine bind_eq_error_iff_or (fun g => ?_) fun bytes hbytes g => ?_
    · rw [← trackBytes_eq_error, bind_eq_error]
      refine or_iff_left_of_imp fun ⟨content, hcontent, hchunk⟩ => absurd ?_ short
      obtain ⟨rfl, _⟩ := chunk_eq_error hchunk
      exact bind_eq_error.2 (.inl (bind_eq_error.2 (.inr ⟨content, hcontent, hchunk⟩)))
    · exact bind_ok_eq_error.trans (ih fun h => short (bind_eq_error.2 (.inr ⟨bytes, hbytes, bind_ok_eq_error.2 h⟩)))

/-- **A file fails at its resolution, or at the first torn text of its tracks**, if no track is too long for its
chunk. -/
theorem fileBytes_eq_error (few : tracks.length ≤ 32767)
    (short : fileBytes format resolution tracks ≠ .error .chunkTooLong) :
    fileBytes format resolution tracks = .error f ↔ headerField resolution = .error f ∨
      (∃ division, headerField resolution = .ok division) ∧
        tornFault? (tracks.flatMap Track.wordings) = some f := by
  obtain ⟨kind, count, hk, hc, e⟩ := @fileBytes_eq format resolution tracks few
  rw [e] at short ⊢
  rw [bind_eq_error]
  refine or_congr_right ?_
  rw [← exists_and_right]
  refine exists_congr fun division => and_congr_right fun hd => ?_
  -- the header chunk always has six bytes
  have hsix : (kind ++ count ++ division).length < 4294967296 := by
    rw [List.length_append, List.length_append, hk, hc, headerField_length hd]
    decide
  rw [hd, ok_bind, chunk_eq_ok hsix, ok_bind] at short
  rw [chunk_eq_ok hsix, ok_bind, bind_ok_eq_error]
  exact chunks_eq_error fun h => short (bind_ok_eq_error.2 h)

end

/-! ### The whole format -/

/-- **Reading undoes writing over the whole format.**  Whatever messages the tracks hold, in any
order and after any delays, if only their texts are whole, the file of up to 32767 tracks is read as
its format, its resolution and each track's messages up to the mark of its end, and no byte is left
over. -/
theorem readFile?_fileBytes (format : FileFormat) (resolution : Nat) (tracks : List Track)
    (few : tracks.length ≤ 32767) (fits : resolution ≤ 32767)
    (whole : ∀ t ∈ tracks, ∀ w ∈ t.wordings, w.isWhole = true)
    (short : ∀ t ∈ tracks, ∀ content, trackBytes t = .ok content → content.length < 4294967296) :
    ∃ bytes, fileBytes format resolution tracks = .ok bytes ∧ readFile? bytes = some
      { format := format.number.toNat, resolution := resolution,
        tracks := tracks.map fun t => { messages := t, last := 0 } } := by
  obtain ⟨bytes, h⟩ := fileBytes_ok format few (Int.natCast_nonneg resolution) (by omega) whole short
  exact ⟨bytes, h, readFile?_of_fileBytes (Int.natCast_nonneg _) h⟩

/-- Two tracks: a text between controllers of one status byte, and a note with a text inside it. -/
theorem readFile?_fileBytes_two :
    ∃ bytes, fileBytes .several 960
        [[⟨0, .controller 0 64 127⟩, ⟨0, .text "é"⟩, ⟨0, .controller 0 1 64⟩, ⟨0, .controller 0 1 0⟩],
          [⟨0, .noteOn 3 60 100⟩, ⟨300, .tempo 500000⟩, ⟨0, .noteOff 3 60 0⟩]] = .ok bytes ∧
      readFile? bytes = some ⟨1, 960,
        [⟨[⟨0, .controller 0 64 127⟩, ⟨0, .text "é"⟩, ⟨0, .controller 0 1 64⟩,
            ⟨0, .controller 0 1 0⟩], 0⟩,
          ⟨[⟨0, .noteOn 3 60 100⟩, ⟨300, .tempo 500000⟩, ⟨0, .noteOff 3 60 0⟩], 0⟩]⟩ :=
  readFile?_fileBytes .several 960 _ (by decide) (by decide) (by decide) (by decide +kernel)

end Tunebook
