import Tunebook.Proofs.Conversion.Playback
import Tunebook.Proofs.Json.Values
import Tunebook.Proofs.Midi.Tempo
import Tunebook.Proofs.Tune.Numbers

/-!
# An exported history is read back

An export is the indented JSON of all results, from the oldest.  Whatever a result holds,
and however deep its metadata are nested, reading the export gives the results back, if
only they have a JSON form.  A result that was recorded may have none.  A result of a
conversion always has one: its texts are texts, its tempo was read and so is not too long
to be written, and of a file that could be written neither the size nor the notes are too
many.

* `Result.exported`: what a result reads as; `Result.hasJson`: when it has a JSON form.
* `Tune.tempo_lt`, `sizes_of_generate`: the numbers in the result of a conversion.
* `convert_hasJson`: **the result of a conversion has a JSON form.**
* `History.exportJson_reads_back`: **an exported history is read back.**
-/

namespace Tunebook

namespace Result

/-- What a result reads as in an export: the size of its file stands for the file. -/
def exported (r : Result) : Json :=
  .object [("success", .flag r.success), ("midi_size", .ofInt r.midiSize),
    ("error", match r.error with
      | some e => .text e
      | none => .null),
    ("details", .list (r.details.map fun s : String => .text s)),
    ("metadata", .object (Value.entriesAsJson r.metadata)), ("timestamp", .text r.timestamp)]

/-- Whether a result has a JSON form: its metadata do, and the size of its file can be written. -/
def hasJson (r : Result) : Bool :=
  decide ((Nat.toDigits 10 r.midiSize).length ≤ digitLimit) && Value.entriesHaveJson r.metadata

theorem itemsHaveJson_texts (details : List String) :
    Value.itemsHaveJson (details.map .text) = true := by
  induction details with
  | nil => rfl
  | cons s rest ih => simp [Value.itemsHaveJson, Value.hasJson, ih]

theorem itemsAsJson_texts (details : List String) :
    Value.itemsAsJson (details.map .text) = details.map fun s : String => .text s := by
  induction details with
  | nil => rfl
  | cons s rest ih => simp [Value.itemsAsJson, Value.asJson, ih]

theorem toValue_hasJson {r : Result} (h : r.hasJson = true) : r.toValue.hasJson = true := by
  rw [hasJson, Bool.and_eq_true, decide_eq_true_eq] at h
  cases he : r.error with
  | none =>
    simp [toValue, Value.hasJson, Value.entriesHaveJson, he, h.1, h.2, itemsHaveJson_texts]
  | some e =>
    simp [toValue, Value.hasJson, Value.entriesHaveJson, he, h.1, h.2, itemsHaveJson_texts]

theorem toValue_asJson (r : Result) : r.toValue.asJson = r.exported := by
  cases he : r.error with
  | none =>
    simp [toValue, exported, Value.asJson, Value.entriesAsJson, Value.keyText, he,
      itemsAsJson_texts]
  | some e =>
    simp [toValue, exported, Value.asJson, Value.entriesAsJson, Value.keyText, he,
      itemsAsJson_texts]

end Result

/-! ### Exporting results -/

theorem itemsHaveJson_results {rs : List Result} (h : ∀ r ∈ rs, r.hasJson = true) :
    Value.itemsHaveJson (rs.map Result.toValue) = true := by
  induction rs with
  | nil => rfl
  | cons r rest ih =>
    rw [List.forall_mem_cons] at h
    simp [Value.itemsHaveJson, Result.toValue_hasJson h.1, ih h.2]

theorem itemsAsJson_results (rs : List Result) :
    Value.itemsAsJson (rs.map Result.toValue) = rs.map Result.exported := by
  induction rs with
  | nil => rfl
  | cons r rest ih => simp [Value.itemsAsJson, Result.toValue_asJson, ih]

theorem History.read?_exportJson {h : History} (hjson : ∀ r ∈ h.results, r.hasJson = true) :
    ∃ text, h.exportJson = .ok text ∧
      Json.read? text = some (.list (h.results.map Result.exported)) := by
  have hform : (Value.list (h.results.map Result.toValue)).hasJson = true := by
    rw [Value.hasJson]
    exact itemsHaveJson_results hjson
  have hasJson : (Value.list (h.results.map Result.toValue)).asJson
      = .list (h.results.map Result.exported) := by
    rw [Value.asJson, itemsAsJson_results]
  have hvalid := Value.isValid_asJson (.list (h.results.map Result.toValue))
  rw [hasJson] at hvalid
  refine ⟨_, ?_, (Json.read?_indented hvalid).1⟩
  rw [exportJson, toJson, Value.toJson_eq hform, hasJson]
  rfl

/-! ### The numbers of a conversion -/

theorem Tune.tempo_lt {text : String} {tune : Tune} (h : Tune.read text = .ok tune) :
    tune.header.tempo.natAbs < Nat.pow 10 digitLimit := by
  have htempo := Tune.tempoOver_of_read h
  cases hstated : Header.statedTempo? (headerLines text) with
  | none =>
    rw [hstated] at htempo
    rw [← Except.ok.inj htempo]
    exact usualTempo_lt
  | some value =>
    rw [hstated] at htempo
    exact tempoOf_lt htempo

/-! ### The sizes of a conversion -/

theorem length_of_chunk {name : String} {content bytes : List UInt8}
    (hname : (encodeText name.toList).length = 4) (h : chunk name content = .ok bytes) :
    bytes.length = content.length + 8 ∧ content.length < 4294967296 := by
  rw [chunk] at h
  split at h
  · next hlt =>
    cases h
    refine ⟨?_, hlt⟩
    simp only [List.length_append, hname, bigEndian_length]
    omega
  · cases h

theorem sizes_of_fileBytes {resolution : Int} {track : Track} {bytes : List UInt8}
    (h : fileBytes .single resolution [track] = .ok bytes) :
    bytes.length < 4294967318 ∧ track.length < 4294967296 := by
  obtain ⟨kind, count, division, header, chunks, hk, hc, hd, hh, ht, rfl⟩ := fileBytes_eq_ok h
  obtain ⟨chunk, more, hchunk, hmore, rfl⟩ := List.forall₂_cons_left_iff.1 ht
  obtain rfl := List.forall₂_nil_left_iff.1 hmore
  obtain ⟨hheader, _⟩ := length_of_chunk (by decide) hh
  obtain ⟨content, hcontent, hchunk⟩ := bind_eq_ok.1 hchunk
  obtain ⟨htrack, hlt⟩ := length_of_chunk (by decide) hchunk
  have hmessages := length_lt_trackBytes hcontent
  simp only [List.length_append, List.length_nil, List.flatten_cons,
    List.flatten_nil, headerField_length hk, headerField_length hc, headerField_length hd]
    at hheader htrack hlt ⊢
  omega

theorem length_le_of_sounds {m : Manner} {notes : List Note} {parts : List Track}
    (h : List.Forall₂ (fun n part => m.Sounds n.pitch n.length part) notes parts) :
    notes.length ≤ parts.flatten.length := by
  induction h with
  | nil => exact Nat.le_refl _
  | cons hpart _ ih =>
    obtain ⟨key, ticks, _, _, rfl⟩ := hpart
    simp only [List.length_cons, List.flatten_cons, List.length_append, List.length_nil]
    omega

theorem sizes_of_generate {tune : Tune} {settings : Value} {midi : List UInt8}
    (h : generate tune.score settings = .ok midi) (hne : tune.notes ≠ []) :
    midi.length < 4294967318 ∧ tune.notes.length < 4294967296 := by
  obtain ⟨m, _, parts, hparts, hfile⟩ := Tune.generate_eq_ok hne h
  obtain ⟨hmidi, htrack⟩ := sizes_of_fileBytes hfile
  have hnotes := length_le_of_sounds hparts
  rw [List.length_append] at htrack
  exact ⟨hmidi, by omega⟩

theorem length_toDigits_size {n : Nat} (h : n < 4294967318) :
    (Nat.toDigits 10 n).length ≤ digitLimit := by
  have hlimit : 10 ≤ digitLimit := by decide
  refine length_toDigits_le (Nat.lt_of_lt_of_le h (Nat.le_trans ?_ (pow_ten_le hlimit)))
  decide

/-! ### Results of conversions -/

theorem failed_eq {c : Clock} {text : Source} {optimize settings : Value}
    (h : (convert c text optimize settings).success = false) :
    (convert c text optimize settings).metadata = [(.text "duration_ms", .double c.elapsed)] ∧
      (convert c text optimize settings).midiSize = 0 := by
  have hfailure (error : String) (details : List String)
      (hr : convertUntimed c text optimize settings = .failure c error details) :
      (convert c text optimize settings).metadata = [(.text "duration_ms", .double c.elapsed)] ∧
        (convert c text optimize settings).midiSize = 0 := by
    rw [convert, hr]
    exact ⟨rfl, rfl⟩
  rcases convertUntimed_cases c text optimize settings with
    ⟨_, hr⟩ | ⟨_, ⟨tune, midi, _, hr⟩ | ⟨complaints, _, hr⟩ | ⟨f, _, hr⟩⟩
  · exact hfailure _ _ hr
  · rw [convert, Result.timed_eq, hr] at h
    cases h
  · exact hfailure _ _ hr
  · exact hfailure _ _ hr

/-- **The result of a conversion has a JSON form**, whatever was converted and however it ended. -/
theorem convert_hasJson (c : Clock) (text : Source) (optimize settings : Value) :
    (convert c text optimize settings).hasJson = true := by
  have hone : 1 ≤ digitLimit := by decide
  cases hs : (convert c text optimize settings).success with
  | true =>
    obtain ⟨tune, midi, htune, ⟨report, hreport, hvalid⟩, hmidi, hr⟩ := convert_eq_ok hs
    obtain ⟨s, _, hread⟩ := ofSource_eq_ok htune
    obtain ⟨hsize, hcount⟩ := sizes_of_generate hmidi (notes_ne_nil hreport hvalid)
    have htempo := length_toDigits_le (Tune.tempo_lt hread)
    have hnotes := length_toDigits_size (Nat.lt_trans hcount (by decide))
    have hmetadata : (convert c text optimize settings).metadata
        = tune.metadata ++ [(.text "duration_ms", .double c.elapsed)] := by
      rw [hr]
      rfl
    have hsize' : (convert c text optimize settings).midiSize = midi.length := by
      rw [hr]
      rfl
    rw [Result.hasJson, hmetadata, hsize']
    simp [Tune.metadata, Value.entriesHaveJson, Value.hasJson, htempo, hnotes,
      length_toDigits_size hsize]
  | false =>
    obtain ⟨hmetadata, hsize⟩ := failed_eq hs
    rw [Result.hasJson, hmetadata, hsize]
    simp [Value.entriesHaveJson, Value.hasJson, hone]

/-- **An exported history is read back.**  Where every result was converted, or was recorded with
metadata that have a JSON form, the export is a text, and what is read from it are the results in
their order: every text as it was, every number by its text, and for a file its size. -/
theorem History.exportJson_reads_back (h : History)
    (exportable : ∀ r ∈ h.results, r.hasJson = true ∨ ∃ c text optimize settings,
      r = Tunebook.convert c text optimize settings) :
    ∃ text, h.exportJson = .ok text ∧
      Json.read? text = some (.list (h.results.map Result.exported)) := by
  refine read?_exportJson ?_
  intro r hr
  rcases exportable r hr with hjson | ⟨c, text, optimize, settings, rfl⟩
  · exact hjson
  · exact convert_hasJson c text optimize settings

/-- A refused conversion and a record with a quotation mark, a character beyond the UTF-16 units
and nested metadata. -/
theorem History.exportJson_reads_back_nested :
    let refused := Tunebook.convert {} (.text "") .null .null
    let recorded : Result :=
      { success := true, midi := some [0x4d, 0x54], details := ["say \"𝄞\""], timestamp := "now"
        metadata := [(.text "parts", .list [.map [], .list [.int (-7), .null]])] }
    ∃ text, (History.mk [refused, recorded]).exportJson = .ok text ∧
      Json.read? text = some (.list [refused.exported,
        .object [("success", .flag true), ("midi_size", .number "2"), ("error", .null),
          ("details", .list [.text "say \"𝄞\""]),
          ("metadata", .object [("parts", .list [.object [], .list [.number "-7", .null]])]),
          ("timestamp", .text "now")]]) := by
  intro refused recorded
  have hrecorded : recorded.hasJson = true := by decide +kernel
  have hsize : Json.ofInt (2 : Int) = .number "2" := congrArg Json.number (by decide)
  have hseven : Json.ofInt (-7 : Int) = .number "-7" := congrArg Json.number (by decide)
  rw [← hsize, ← hseven]
  obtain ⟨text, hexport, hread⟩ := History.exportJson_reads_back ⟨[refused, recorded]⟩ (by
    intro r hr
    simp only [List.mem_cons, List.not_mem_nil, or_false] at hr
    rcases hr with rfl | rfl
    · exact .inr ⟨_, _, _, _, rfl⟩
    · exact .inl hrecorded)
  exact ⟨text, hexport, hread⟩

end Tunebook
