import Tunebook.Proofs.Midi.Emission
import Tunebook.Proofs.Tune.Fields

/-!
# The tempo of a tune

Three places have a word on the tempo: the last tempo field of a header, the tempo that a header has
without such a field, and the tempo that settings configure.  A header always ends up with a number, so
what is played is that number, except where it is zero.  The configured tempo therefore reaches only
tunes whose header states a tempo of zero; a tune that states none is played at the usual tempo,
whatever is configured.

* `Header.statedTempo?`: the tempo field that counts; `Header.tempoOver_of_readFrom`: the tempo of a
  header is that of its field, or the one that it began with.
* `Score.PlayedAt`: what it is to be played at a tempo, in events and in the plain file.
* `playedAt_of_stated`: **the tempo of a tune, by what its header states.**
* `unstated_tempo`: a tune without a tempo is not played at the configured one.
-/

namespace Tunebook

/-! ### What a header states -/

def Line.tempo? (line : List Char) : Option (List Char) :=
  match Line.classify line with
  | .field .tempo value => some value
  | _ => none

namespace Header

/-- The value of the last tempo field, which is the one that counts. -/
def statedTempo? (ls : List (List Char)) : Option (List Char) :=
  (ls.filterMap Line.tempo?).getLast?

def tempoOver (tempo : Int) : Option (List Char) → Except Fault Int
  | none => .ok tempo
  | some value => tempoOf value

theorem tempo?_eq_value? (line : List Char) : Line.tempo? line = Field.tempo.value? line := by
  rw [Line.tempo?]
  split
  · next value h => exact (classify_eq_field_iff.1 h).symm
  · next h => exact (Field.value?_eq_none h).symm

theorem tempo_of_set {h header : Header} {f : Field} {value : List Char}
    (hset : h.set f value = .ok header) (hf : f ≠ .tempo) : header.tempo = h.tempo :=
  carries_tempo.other (sets_of_set hset) hf

/-- **The tempo of a header is that of its last tempo field**, or the one that it began with. -/
theorem tempoOver_of_readFrom {ls : List (List Char)} (fields : ∀ line ∈ ls, endsAt line = false)
    {h header : Header} {n : Nat} (hr : readFrom h ls = .ok (header, n)) :
    tempoOver h.tempo (statedTempo? ls) = .ok header.tempo := by
  have hover := carries_tempo.restated_of_readFrom fields hr
  rw [statedTempo?, funext tempo?_eq_value?, ← Field.stated?]
  cases hstated : Field.tempo.stated? ls with
  | none =>
    rw [hstated] at hover
    exact hover
  | some value =>
    rw [hstated] at hover
    exact hover

end Header

/-- The header lines of a text. -/
def headerLines (text : String) : List (List Char) :=
  (lines text.toList).takeWhile fun line => !Header.endsAt line

theorem Tune.tempoOver_of_read {text : String} {tune : Tune} (h : Tune.read text = .ok tune) :
    Header.tempoOver usualTempo (Header.statedTempo? (headerLines text)) = .ok tune.header.tempo := by
  obtain ⟨hr, _⟩ := Tune.read_eq_ok h
  refine Header.tempoOver_of_readFrom ?_ hr
  intro line hline
  have hkept := List.mem_takeWhile_imp hline
  rwa [Bool.not_eq_true'] at hkept

/-! ### What is played -/

/-- A score is played at a tempo: its tempo event is of that tempo, no other one is among its events,
and a plain file of it sets the time of a beat at that tempo before anything else. -/
structure Score.PlayedAt (s : Score) (settings : Value) (bpm : Int) : Prop where
  event : s.tempoEvent settings = .ok (.tempo (.int bpm))
  only : ∀ instrument title composer events,
    s.events settings instrument title composer = .ok events →
    events.filter Event.isTempo = [.tempo (.int bpm)]
  message : ∀ bytes, generate s settings = .ok bytes →
    ∃ (resolution : Nat) (p : Performance), tempoOfValue (.int bpm) = .ok p.beat ∧
      readFile? bytes = some (FileFormat.single.held resolution [p.track])

section

variable {s : Score} {settings : Value} {bpm : Int}

theorem tempoEvent_eq (s : Score) (settings : Value) :
    s.tempoEvent settings = (s.bpm settings >>= fun bpm => .ok (.tempo bpm)) := by
  rw [Score.bpm, bind_assoc]
  rfl

theorem filter_isTempo_textEvents (content : Value) :
    (textEvents content).filter Event.isTempo = [] := by
  rw [textEvents]
  split
  · rfl
  · rfl

theorem filter_isTempo_notes {events : List Event} (h : ∀ e ∈ events, e.isNote = true) :
    events.filter Event.isTempo = [] := by
  rw [List.filter_eq_nil_iff]
  intro e he
  have hnote := h e he
  cases e with
  | note pitch length velocity channel => exact Bool.false_ne_true
  | _ => cases hnote

/-- **A score is played at its tempo**, in all its events and in its file. -/
theorem playedAt_of_bpm (h : s.bpm settings = .ok (.int bpm)) : s.PlayedAt settings bpm := by
  constructor
  case event => rw [tempoEvent_eq, h, ok_bind]
  case only =>
    intro instrument title composer events hevents
    rw [Score.events_eq, h, ok_bind] at hevents
    obtain ⟨program, _, hevents⟩ := bind_eq_ok.1 hevents
    obtain ⟨channel, _, hevents⟩ := bind_eq_ok.1 hevents
    obtain ⟨notes, hnotes, hevents⟩ := bind_eq_ok.1 hevents
    cases hevents
    rw [List.filter_append, List.filter_append, List.filter_append, filter_isTempo_textEvents,
      filter_isTempo_textEvents, filter_isTempo_notes (isNote_of_mem_noteEvents hnotes)]
    rfl
  case message =>
    intro bytes hbytes
    rw [generate_eq] at hbytes
    obtain ⟨resolution, p, _, hp, hback⟩ := Score.file_eq_ok hbytes
    obtain ⟨bpm', _, _, _, _, hbpm', _, _, _, hbeat, _⟩ := Score.performance_eq_ok hp
    cases h.symm.trans hbpm'
    exact ⟨resolution, p, hbeat, hback⟩

theorem Score.PlayedAt.unique {bpm' : Int} (h : s.PlayedAt settings bpm)
    (h' : s.PlayedAt settings bpm') : bpm = bpm' := by
  cases h.event.symm.trans h'.event
  rfl

theorem playedAt_of_configured {tune : Tune} {d : Int}
    (configured : Settings.integer settings "default_tempo" usualTempo = .ok d) :
    tune.score.PlayedAt settings (if tune.header.tempo = 0 then d else tune.header.tempo) := by
  cases hbpm : tune.score.bpm settings with
  | error f =>
    rw [Score.bpm, configured] at hbpm
    cases hbpm
  | ok bpm =>
    obtain ⟨d', hd', rfl⟩ := Tune.bpm_eq_ok hbpm
    cases configured.symm.trans hd'
    exact playedAt_of_bpm hbpm

end

/-- **The tempo of a tune, by what its header states.**  Without a tempo field a tune is played at the
usual tempo, so at the configured one exactly where that is the same.  With one it is played at the
tempo of that field, or at the configured one where that is zero. -/
theorem playedAt_of_stated {text : String} {tune : Tune} (parsed : Tune.read text = .ok tune)
    {settings : Value} {d : Int}
    (configured : Settings.integer settings "default_tempo" usualTempo = .ok d) :
    (Header.statedTempo? (headerLines text) = none → tune.score.PlayedAt settings usualTempo ∧
      (tune.score.PlayedAt settings d ↔ d = usualTempo)) ∧
    ∀ value, Header.statedTempo? (headerLines text) = some value →
      ∃ n, tempoOf value = .ok n ∧ tune.score.PlayedAt settings (if n = 0 then d else n) := by
  have htempo := Tune.tempoOver_of_read parsed
  have hplayed := @playedAt_of_configured settings tune d configured
  constructor
  · intro unstated
    rw [unstated] at htempo
    rw [← Except.ok.inj htempo, if_neg (by decide)] at hplayed
    refine ⟨hplayed, ?_⟩
    constructor
    · intro h
      exact h.unique hplayed
    · rintro rfl
      exact hplayed
  · intro value stated
    rw [stated] at htempo
    exact ⟨tune.header.tempo, htempo, hplayed⟩

/-- A tempo of zero leaves the tempo to the settings, whatever an earlier field states. -/
theorem playedAt_of_stated_zero :
    let settings := Value.map [(.text "default_tempo", .int 90)]
    ∃ tune, Tune.read "Q:60\nM:4/4\nQ:0\nK:C\nC" = .ok tune ∧ tune.score.PlayedAt settings 90 := by
  intro settings
  have hread : (Tune.read "Q:60\nM:4/4\nQ:0\nK:C\nC" >>= fun tune => .ok tune.header.tempo)
      = .ok 0 := by
    decide +kernel
  obtain ⟨tune, parsed, _⟩ := bind_eq_ok.1 hread
  have configured : Settings.integer settings "default_tempo" usualTempo = .ok 90 := by
    decide +kernel
  obtain ⟨n, hn, played⟩ := (playedAt_of_stated parsed configured).2 ['0'] (by decide +kernel)
  have hzero : tempoOf ['0'] = .ok 0 := by decide +kernel
  cases hzero.symm.trans hn
  exact ⟨tune, parsed, played⟩

/-- A tune without a tempo is not played at the configured one. -/
theorem unstated_tempo :
    ¬ ∀ (text : String) (tune : Tune) (settings : Value) (d : Int), Tune.read text = .ok tune →
      Header.statedTempo? (headerLines text) = none →
      Settings.get? settings "default_tempo" = .ok (some (.int d)) → 1 ≤ d →
      tune.score.PlayedAt settings d := by
  intro h
  have hread : (Tune.read "M:4/4\nK:C\nC" >>= fun tune => .ok tune.header.tempo) = .ok 120 := by
    decide +kernel
  obtain ⟨tune, parsed, htempo⟩ := bind_eq_ok.1 hread
  have played := h "M:4/4\nK:C\nC" tune (.map [(.text "default_tempo", .int 90)]) 90 parsed
    (by decide +kernel) rfl (by decide)
  have configured : Settings.integer (.map [(.text "default_tempo", .int 90)]) "default_tempo"
      usualTempo = .ok 90 := by
    decide +kernel
  have usual := @playedAt_of_configured _ tune 90 configured
  rw [Except.ok.inj htempo, if_neg (by decide)] at usual
  exact absurd (played.unique usual) (by decide)

end Tunebook
