import Tunebook.Proofs.Midi.Emission
import Tunebook.Proofs.TickLengths

/-!
# What is heard of a track

A listener takes the messages of a track one after another and adds up the ticks between them.  A note
is heard from the message that begins it up to the first one behind it that ends its key on its
channel.  Nothing here knows how the track was made, so a note may overlap others, take no time, or
never end.

* `Track.soundings`: the notes that are heard of a track, with the ticks until they end.
* `Successive`: notes of which each begins when the one before it ends;
  `Successive.pairwise_lt_iff`: **they begin one after another where all but the last take time.**
* `soundings_of_sounds`: what is heard of the notes that a tune is written as.
* `Manner.Plays.takesTime_iff`: which of them take time.
-/

namespace Tunebook

/-! ### Listening -/

/-- A note that is heard: when it begins, its key on a channel, how hard it is struck, and the ticks
until it ends, if it does. -/
structure Sounding where
  start : ℕ
  channel : Channel
  key : DataByte
  velocity : DataByte
  ticks : Option ℕ
  deriving DecidableEq, Repr

/-- A note ends, at least one tick after it began. -/
def Sounding.TakesTime (s : Sounding) : Prop := ∃ ticks, s.ticks = some ticks ∧ 1 ≤ ticks

def Message.releases (channel : Channel) (key : DataByte) : Message → Bool
  | noteOff c k _ => c == channel && k == key
  | _ => false

namespace Track

def release? (channel : Channel) (key : DataByte) : Track → Option ℕ
  | [] => none
  | t :: rest =>
    if t.message.releases channel key then some t.delta
    else (release? channel key rest).map (t.delta + ·)

def soundingsFrom (now : ℕ) : Track → List Sounding
  | [] => []
  | t :: rest =>
    let start := now + t.delta
    match t.message with
    | .noteOn c k v => ⟨start, c, k, v, release? c k rest⟩ :: soundingsFrom start rest
    | _ => soundingsFrom start rest

/-- The notes that are heard of a track. -/
def soundings (track : Track) : List Sounding := soundingsFrom 0 track

end Track

/-! ### Notes one after another -/

/-- Each note begins when the one before it ends, and the first one at a time. -/
inductive Successive : ℕ → List Sounding → Prop
  | nil {now : ℕ} : Successive now []
  | cons {now ticks : ℕ} {s : Sounding} {rest : List Sounding} :
      s.start = now → s.ticks = some ticks → Successive (now + ticks) rest →
      Successive now (s :: rest)

namespace Successive

variable {now : ℕ} {heard : List Sounding}

theorem le_start (h : Successive now heard) : ∀ s ∈ heard, now ≤ s.start := by
  induction h with
  | nil => exact nofun
  | cons hstart _ _ ih =>
    intro s hs
    rcases List.mem_cons.1 hs with rfl | hs
    · exact hstart.ge
    · exact Nat.le_trans (Nat.le_add_right _ _) (ih s hs)

/-- **Notes begin one after another where all but the last take time.** -/
theorem pairwise_lt_iff (h : Successive now heard) :
    (heard.map Sounding.start).Pairwise (· < ·) ↔ ∀ s ∈ heard.dropLast, s.TakesTime := by
  induction h with
  | nil => exact iff_of_true .nil nofun
  | @cons now ticks s rest hstart hticks hrest ih =>
    cases rest with
    | nil => exact iff_of_true (List.pairwise_singleton _ _) nofun
    | cons next rest =>
      have hnext : next.start = now + ticks := by
        cases hrest with
        | cons hnext _ _ => exact hnext
      have htime : s.TakesTime ↔ 1 ≤ ticks := by
        simp [Sounding.TakesTime, hticks]
      rw [List.dropLast_cons_cons, List.forall_mem_cons, List.map_cons, List.pairwise_cons, ih, htime]
      refine and_congr_left fun _ => ?_
      constructor
      · intro hless
        have hfirst := hless next.start List.mem_cons_self
        omega
      · intro hpos start hmem
        obtain ⟨later, hlater, rfl⟩ := List.mem_map.1 hmem
        have hle := hrest.le_start later hlater
        omega

end Successive

/-! ### The notes of a tune -/

namespace Manner

/-- A note that is heard is a tone: it has its number, and it ends when the note value of its length is
over. -/
structure Plays (m : Manner) (pitch : ℤ) (length : ℕ) (s : Sounding) : Prop where
  channel : s.channel = m.channel
  key : (s.key.val : ℤ) = pitch
  velocity : s.velocity = m.velocity
  ticks : ∃ ticks : ℕ, s.ticks = some ticks ∧
    (TickClass.ofLength (.int length)).ticks m.resolution = .ok ticks

theorem soundingsFrom_opening (m : Manner) (now : ℕ) (rest : Track) :
    Track.soundingsFrom now (m.opening ++ rest) = Track.soundingsFrom now rest := rfl

theorem soundingsFrom_tone (m : Manner) (key : DataByte) (ticks now : ℕ) (rest : Track) :
    Track.soundingsFrom now
        (⟨0, .noteOn m.channel key m.velocity⟩ ::
          ⟨ticks, .noteOff m.channel key releaseVelocity⟩ :: rest)
      = ⟨now, m.channel, key, m.velocity, some ticks⟩ :: Track.soundingsFrom (now + ticks) rest := by
  have hrelease : (Message.noteOff m.channel key releaseVelocity).releases m.channel key = true := by
    simp [Message.releases]
  simp only [Track.soundingsFrom, Track.release?, hrelease, if_true, Nat.add_zero]

/-- **The tones of a tune are heard one after another**, each of them once. -/
theorem soundings_of_sounds {m : Manner} {α : Type} {pitch : α → ℤ} {length : α → ℕ}
    {tones : List α} {parts : List Track}
    (h : List.Forall₂ (fun t part => m.Sounds (pitch t) (length t) part) tones parts) (now : ℕ) :
    Successive now (Track.soundingsFrom now parts.flatten) ∧
      List.Forall₂ (fun t s => m.Plays (pitch t) (length t) s) tones
        (Track.soundingsFrom now parts.flatten) := by
  induction h generalizing now with
  | nil => exact ⟨.nil, .nil⟩
  | cons hpart _ ih =>
    obtain ⟨key, ticks, hkey, hticks, rfl⟩ := hpart
    obtain ⟨hsuccessive, hplays⟩ := ih (now + ticks)
    rw [List.flatten_cons, List.cons_append, List.cons_append, List.nil_append, soundingsFrom_tone]
    exact ⟨.cons rfl rfl hsuccessive, .cons ⟨rfl, hkey, rfl, ticks, rfl, hticks⟩ hplays⟩

end Manner

/-- A length is rounded to nothing: it is played as an eighth, and there is one tick for a beat. -/
def Vanishes (resolution length : ℕ) : Prop := resolution = 1 ∧ length ∉ [2, 4, 8]

instance (resolution length : ℕ) : Decidable (Vanishes resolution length) :=
  inferInstanceAs (Decidable (_ ∧ _))

/-- **A tone takes time unless its length is rounded to nothing.** -/
theorem Manner.Plays.takesTime_iff {m : Manner} {pitch : ℤ} {length : ℕ} {s : Sounding}
    (h : m.Plays pitch length s) (pos : 0 < m.resolution) (small : m.resolution < Nat.pow 2 53) :
    s.TakesTime ↔ ¬Vanishes m.resolution length := by
  obtain ⟨ticks, hs, hticks⟩ := h.ticks
  have hzero := TickClass.ticks_ofLength_eq_zero_iff pos small hticks
  rw [Vanishes, ← hzero, Sounding.TakesTime, hs]
  simp [Nat.pos_iff_ne_zero, Nat.succ_le_iff]

end Tunebook
