import Tunebook.Proofs.Mapping
import Tunebook.Proofs.Midi.PitchGate
import Tunebook.Proofs.Pitch

/-!
# Settings that cannot be read

Five settings are read where a score becomes events: four as integers, and one as the name of an
instrument.  What cannot be read as such is meant to count as not being there.  It does, with two
exceptions: an infinite number is a fault instead of no integer, and what is given as an instrument but
is neither a text nor octets is asked for its letters.

* `Unreadable`, `Refused`: a value that cannot be read under a name, and one of those that are faults.
* `integer_eq_error_iff`, `chosenProgram_eq_error_iff`: what is refused is all that fails in a reading.
* `integer_without`, `chosenProgram_without`: what is unreadable and not refused might as well be absent.
* `settings_fall_back`: **both for the events of a score and for the ticks of a beat.**
-/

namespace Tunebook

/-! ### Values -/

/-- A value cannot be read as the setting with a name: it is no text where an instrument is looked for,
and no integer elsewhere. -/
def Unreadable (name : String) (v : Value) : Prop :=
  if name = "instrument" then v.isText = false else ∀ n, v.integer? ≠ .ok (some n)

/-- A value is refused as the setting with a name, and with which fault. -/
inductive Refused : String → Value → Fault → Prop
  | infinite {name : String} (number : name ≠ "instrument") (negative : Bool) :
      Refused name (.double (.infinite negative)) .infiniteToInteger
  | instrument {v : Value} (given : v.isGiven = true) (noText : v.isText = false)
      (noOctets : ∀ bytes, v ≠ .octets bytes) : Refused "instrument" v (.noMember v.kind "strip")

/-- Settings hold under a name what is refused there. -/
def Refuses (m : Mapping) (name : String) (f : Fault) : Prop :=
  ∃ v, Mapping.field? name m = some v ∧ Refused name v f

theorem integer?_eq_error_iff {v : Value} {f : Fault} :
    v.integer? = .error f ↔ ∃ negative, v = .double (.infinite negative) ∧ f = .infiniteToInteger := by
  constructor
  · intro h
    rw [Value.integer?.eq_def] at h
    split at h
    · cases h
    · cases h
    · next negative =>
      cases h
      exact ⟨negative, rfl, rfl⟩
    all_goals cases h
  · rintro ⟨negative, rfl, rfl⟩
    rfl

theorem integer?_of_unreadable {name : String} {v : Value} (number : name ≠ "instrument")
    (unreadable : Unreadable name v) (taken : ∀ f, ¬ Refused name v f) : v.integer? = .ok none := by
  rw [Unreadable, if_neg number] at unreadable
  cases h : v.integer? with
  | error f =>
    obtain ⟨negative, rfl, rfl⟩ := integer?_eq_error_iff.1 h
    exact absurd (.infinite number negative) (taken _)
  | ok n =>
    cases n with
    | none => rfl
    | some n => exact absurd h (unreadable n)

theorem isText_eq_false_iff {v : Value} :
    v.isText = false ↔ (∀ s, v ≠ .text s) ∧ ∀ t, v ≠ .torn t := by
  cases v with
  | text s => exact iff_of_false nofun fun h => h.1 s rfl
  | torn t => exact iff_of_false nofun fun h => h.2 t rfl
  | _ => exact iff_of_true rfl ⟨nofun, nofun⟩

theorem programOfValue_eq_error_iff {v : Value} {f : Fault} :
    programOfValue v = .error f ↔ Refused "instrument" v f := by
  constructor
  · intro h
    rw [programOfValue.eq_def] at h
    split at h
    · cases h
    · cases h
    · cases h
    · next noString noTorn noOctets =>
      split at h
      · next given =>
        cases h
        exact .instrument given (isText_eq_false_iff.2 ⟨noString, noTorn⟩) noOctets
      · cases h
  · intro h
    cases h with
    | infinite number => exact absurd rfl number
    | instrument given noText noOctets =>
      obtain ⟨noString, noTorn⟩ := isText_eq_false_iff.1 noText
      rw [programOfValue]
      · rw [if_pos given]
      · exact noString
      · exact noTorn
      · exact noOctets

theorem programOfValue_of_unreadable {v : Value} (unreadable : Unreadable "instrument" v)
    (taken : ∀ f, ¬ Refused "instrument" v f) :
    programOfValue v = .ok (instrumentProgram usualInstrument) := by
  have husual : instrumentProgram "" = instrumentProgram usualInstrument := by decide +kernel
  rw [Unreadable, if_pos rfl] at unreadable
  cases h : programOfValue v with
  | error f => exact absurd (programOfValue_eq_error_iff.1 h) (taken f)
  | ok program =>
    rw [programOfValue.eq_def] at h
    split at h
    · cases unreadable
    · rw [← h, husual]
    · rw [← h, husual]
    · split at h
      · cases h
      · rw [← h, husual]

/-! ### Readings -/

section

variable {m : Mapping} {name other : String} {f : Fault}

theorem integer_eq (m : Mapping) (name : String) (usual : Int) :
    Settings.integer (.map m) name usual
      = (((Mapping.field? name m).getD (.int usual)).integer? >>= fun n => .ok (n.getD usual)) := rfl

/-- **A setting that is an integer fails to be read exactly where it is refused.** -/
theorem integer_eq_error_iff (number : name ≠ "instrument") (usual : Int) :
    Settings.integer (.map m) name usual = .error f ↔ Refuses m name f := by
  rw [integer_eq, bind_ok_eq_error, integer?_eq_error_iff, Refuses]
  constructor
  · rintro ⟨negative, hv, rfl⟩
    cases hfield : Mapping.field? name m with
    | none =>
      rw [hfield] at hv
      cases hv
    | some v =>
      rw [hfield] at hv
      obtain rfl : v = .double (.infinite negative) := hv
      exact ⟨_, rfl, .infinite number negative⟩
  · rintro ⟨v, hfield, hv⟩
    rw [hfield]
    cases hv with
    | infinite _ negative => exact ⟨negative, rfl, rfl⟩
    | instrument => exact absurd rfl number

theorem chosenProgram_eq (m : Mapping) : chosenProgram (.map m) .null
    = programOfValue ((Mapping.field? "instrument" m).getD (.text usualInstrument)) := rfl

/-- **An instrument fails to be read exactly where it is refused.** -/
theorem chosenProgram_eq_error_iff :
    chosenProgram (.map m) .null = .error f ↔ Refuses m "instrument" f := by
  rw [chosenProgram_eq, programOfValue_eq_error_iff, Refuses]
  constructor
  · intro h
    cases hfield : Mapping.field? "instrument" m with
    | none =>
      rw [hfield] at h
      cases h with
      | instrument _ noText => cases noText
    | some v =>
      rw [hfield] at h
      exact ⟨v, rfl, h⟩
  · rintro ⟨v, hfield, hv⟩
    rwa [hfield]

theorem configuredResolution_eq (m : Mapping) : configuredResolution (.map m)
    = (Settings.integer (.map m) "ticks_per_beat" usualResolution >>= fun n =>
      .ok (if 0 < n then n else usualResolution)) := by
  have husual : (0 < usualResolution) = True := by decide
  rw [configuredResolution, integer_eq, bind_assoc]
  refine bind_congr fun n => ?_
  cases n with
  | none => simp only [Option.getD_none, ok_bind, husual, if_true]
  | some n => rfl

variable {v : Value}

/-- **An unreadable value that is not refused might as well be absent**, wherever an integer is read. -/
theorem integer_without (held : Mapping.field? name m = some v) (unreadable : Unreadable name v)
    (taken : ∀ f, ¬ Refused name v f) (number : other ≠ "instrument") (usual : Int) :
    Settings.integer (.map (m.without name)) other usual = Settings.integer (.map m) other usual := by
  rw [integer_eq, integer_eq, Mapping.field?_without]
  by_cases hname : name = other
  · subst hname
    rw [if_pos rfl, held, Option.getD_none, Option.getD_some,
      integer?_of_unreadable number unreadable taken]
    rfl
  · rw [if_neg hname]

theorem chosenProgram_without (held : Mapping.field? name m = some v)
    (unreadable : Unreadable name v) (taken : ∀ f, ¬ Refused name v f) :
    chosenProgram (.map (m.without name)) .null = chosenProgram (.map m) .null := by
  rw [chosenProgram_eq, chosenProgram_eq, Mapping.field?_without]
  by_cases hname : name = "instrument"
  · subst hname
    rw [if_pos rfl, held, Option.getD_none, Option.getD_some,
      programOfValue_of_unreadable unreadable taken]
    rfl
  · rw [if_neg hname]

end

/-! ### Events -/

/-- The settings that are read where a score becomes events. -/
def eventSettings : List String := ["default_tempo", "instrument", "channel", "velocity"]

section

variable {m m' : Mapping} {tempo : Int} {notes : List (Int × Number)} {f : Fault}

theorem events_congr {s : Score}
    (integers : ∀ name ≠ "instrument", ∀ usual,
      Settings.integer (.map m) name usual = Settings.integer (.map m') name usual)
    (instrument : chosenProgram (.map m) .null = chosenProgram (.map m') .null) :
    s.events (.map m) .null .null .null = s.events (.map m') .null .null .null := by
  have htempo := integers "default_tempo" (by decide) usualTempo
  have hchannel := integers "channel" (by decide) usualChannel
  have hvelocity := integers "velocity" (by decide) usualVelocity
  rw [Score.events_eq, Score.events_eq, Score.bpm, Score.bpm, noteEvents, noteEvents, htempo,
    instrument, hchannel, hvelocity]

theorem mapM_noteEvent_eq_error {velocity channel : Int}
    (h : (notes.map Tone.ofNumbers).mapM (noteEvent velocity channel) = .error f) :
    ∃ n ∈ notes, ¬ Nameable n.1 ∧ f = .tooLongToWrite := by
  obtain ⟨t, ht, h⟩ := mapM_eq_error h
  obtain ⟨n, hn, rfl⟩ := List.mem_map.1 ht
  rw [Tone.ofNumbers, noteEvent_numbers, bind_ok_eq_error, pitchName_eq_error_iff] at h
  exact ⟨n, hn, h⟩

theorem nameable_of_mapM_noteEvent {velocity channel : Int} {events : List Event}
    (h : (notes.map Tone.ofNumbers).mapM (noteEvent velocity channel) = .ok events) :
    ∀ n ∈ notes, Nameable n.1 := by
  intro n hn
  obtain ⟨e, _, hnote⟩ :=
    mem_of_forall₂ (mapM_eq_ok.1 h).flip (List.mem_map_of_mem (f := Tone.ofNumbers) hn)
  by_contra hunnamed
  have hno : pitchName n.1 = .error .tooLongToWrite := pitchName_eq_error_iff.2 ⟨hunnamed, rfl⟩
  rw [Tone.ofNumbers, noteEvent_numbers, hno] at hnote
  cases hnote

/-- **Where a score has no events, a setting is refused or a pitch has no name.** -/
theorem refuses_of_events_eq_error
    (h : (Score.ofNumbers tempo notes).events (.map m) .null .null .null = .error f) :
    (∃ name ∈ eventSettings, Refuses m name f) ∨
      ∃ n ∈ notes, ¬ Nameable n.1 ∧ f = .tooLongToWrite := by
  rw [Score.events_eq] at h
  rcases bind_eq_error.1 h with htempo | ⟨bpm, _, h⟩
  · rw [Score.bpm, bind_ok_eq_error] at htempo
    exact .inl ⟨"default_tempo", by decide, (integer_eq_error_iff (by decide) _).1 htempo⟩
  rcases bind_eq_error.1 h with hprogram | ⟨program, _, h⟩
  · exact .inl ⟨"instrument", by decide, chosenProgram_eq_error_iff.1 hprogram⟩
  rcases bind_eq_error.1 h with hchannel | ⟨channel, hchannel, h⟩
  · exact .inl ⟨"channel", by decide, (integer_eq_error_iff (by decide) _).1 hchannel⟩
  have hnotes := bind_ok_eq_error.1 h
  rw [noteEvents, hchannel] at hnotes
  rcases bind_eq_error.1 hnotes with hvelocity | ⟨velocity, _, hnotes⟩
  · exact .inl ⟨"velocity", by decide, (integer_eq_error_iff (by decide) _).1 hvelocity⟩
  · exact .inr (mapM_noteEvent_eq_error hnotes)

theorem not_refuses_of_events_eq_ok {events : List Event}
    (h : (Score.ofNumbers tempo notes).events (.map m) .null .null .null = .ok events) :
    (∀ name ∈ eventSettings, ∀ f, ¬ Refuses m name f) ∧ ∀ n ∈ notes, Nameable n.1 := by
  rw [Score.events_eq] at h
  obtain ⟨bpm, htempo, h⟩ := bind_eq_ok.1 h
  obtain ⟨program, hprogram, h⟩ := bind_eq_ok.1 h
  obtain ⟨channel, hchannel, h⟩ := bind_eq_ok.1 h
  obtain ⟨played, hnotes, _⟩ := bind_eq_ok.1 h
  obtain ⟨configured, htempo, _⟩ := bind_eq_ok.1 htempo
  obtain ⟨velocity, hvelocity, hnotes⟩ := bind_eq_ok.1 hnotes
  obtain ⟨channel', _, hnotes⟩ := bind_eq_ok.1 hnotes
  have hread : ∀ {name : String} {usual n : Int}, name ≠ "instrument" →
      Settings.integer (.map m) name usual = .ok n → ∀ f, ¬ Refuses m name f := by
    intro name usual n number hok f hrefused
    have herror := (integer_eq_error_iff number usual).2 hrefused
    rw [hok] at herror
    cases herror
  refine ⟨?_, nameable_of_mapM_noteEvent hnotes⟩
  intro name hname
  simp only [eventSettings, List.mem_cons, List.not_mem_nil, or_false] at hname
  rcases hname with rfl | rfl | rfl | rfl
  · exact hread (by decide) htempo
  · intro f hrefused
    have herror := chosenProgram_eq_error_iff.2 hrefused
    rw [hprogram] at herror
    cases herror
  · exact hread (by decide) hchannel
  · exact hread (by decide) hvelocity

end

/-- **What settings cannot say counts as not said, unless it is refused.**  With any settings a score
has events exactly where none of four settings is refused and all its octaves can be written, and a
beat has ticks, at least one, exactly where their number is not refused; no other fault comes of
settings.  Whatever else is unreadable under a name might as well be absent. -/
theorem settings_fall_back (tempo : Int) (notes : List (Int × Number)) (m : Mapping) :
    let events := fun settings : Mapping =>
      (Score.ofNumbers tempo notes).events (.map settings) .null .null .null
    ((∃ played, events m = .ok played) ↔ (∀ name ∈ eventSettings, ∀ f, ¬ Refuses m name f) ∧
      ∀ n ∈ notes, Nameable n.1) ∧
    (∀ f, events m = .error f → (∃ name ∈ eventSettings, Refuses m name f) ∨
      ∃ n ∈ notes, ¬ Nameable n.1 ∧ f = .tooLongToWrite) ∧
    (∀ f, configuredResolution (.map m) = .error f ↔ Refuses m "ticks_per_beat" f) ∧
    (∀ n, configuredResolution (.map m) = .ok n → 1 ≤ n) ∧
    ∀ name v, Mapping.field? name m = some v → Unreadable name v → (∀ f, ¬ Refused name v f) →
      events m = events (m.without name) ∧
        configuredResolution (.map m) = configuredResolution (.map (m.without name)) := by
  intro events
  refine ⟨⟨?_, ?_⟩, fun f => refuses_of_events_eq_error, ?_, ?_, ?_⟩
  · rintro ⟨played, h⟩
    exact not_refuses_of_events_eq_ok h
  · rintro ⟨hsettings, hnotes⟩
    cases h : events m with
    | ok played => exact ⟨played, rfl⟩
    | error f =>
      rcases refuses_of_events_eq_error h with ⟨name, hname, hrefused⟩ | ⟨n, hn, hunnamed, _⟩
      · exact absurd hrefused (hsettings name hname f)
      · exact absurd (hnotes n hn) hunnamed
  · intro f
    rw [configuredResolution_eq, bind_ok_eq_error, integer_eq_error_iff (by decide)]
  · intro n h
    exact configuredResolution_pos h
  · intro name v held unreadable taken
    have hintegers : ∀ other ≠ "instrument", ∀ usual,
        Settings.integer (.map m) other usual = Settings.integer (.map (m.without name)) other usual :=
      fun other number usual => (integer_without held unreadable taken number usual).symm
    refine ⟨events_congr hintegers (chosenProgram_without held unreadable taken).symm, ?_⟩
    rw [configuredResolution_eq, configuredResolution_eq, hintegers _ (by decide)]

theorem infinite_setting_escapes :
    ¬ ∀ (tempo : Int) (notes : List (Int × Number)) (m : Mapping),
      (∃ events, (Score.ofNumbers tempo notes).events (.map m) .null .null .null = .ok events) ∧
        ∃ n, configuredResolution (.map m) = .ok n := by
  intro h
  obtain ⟨⟨events, played⟩, _⟩ := h 120 [] [(.text "velocity", .double (.infinite false))]
  have herror : (Score.ofNumbers 120 []).events (.map [(.text "velocity", .double (.infinite false))])
      .null .null .null = .error .infiniteToInteger := rfl
  rw [played] at herror
  cases herror

end Tunebook
