import Mathlib.Data.List.DropRight
import Tunebook.History
import Tunebook.Proofs.Double.Finite

/-!
# A history is a log

Six things are done with a history, in any order and any number of times, and some of them
may fail.  A conversion and a record add one result at the end, clearing takes all results
away, and the others only look.  So what a history holds can be read off the steps: the
results of those since the last clearing, in their order.

Statistics are the only look that may fail on results which can be recorded one by one: the
times they took have to be numbers.  Those of conversions are doubles, and these are always
summed up; so are integers, if they are not absurdly great.

* `History.Step`, `History.step`: what may be done, and what comes of it.
* `History.Step.logged`: what the steps add up to, without following them.
* `History.results_step`, `History.results_after`: **one step adds to the log, and so a run
  is its log.**
* `History.stats_eq_ok`, `History.stats_ok`: what statistics say, and when they say it.
* `History.after_is_log`: all of this about what is seen of a history after any steps.
-/

namespace Tunebook

/-- The time that a result took, zero where it does not say. -/
def Result.duration (r : Result) : Value :=
  (Mapping.field? "duration_ms" r.metadata).getD (.int 0)

namespace History

/-! ### Steps and runs -/

/-- What may be done with a history. -/
inductive Step where
  | convert (c : Clock) (text : Source) (optimize settings : Value)
  | record (r : Result)
  | get (index : Value)
  | stats
  | exportJson
  | clear

/-- What a step answers. -/
inductive Answer where
  | nothing
  | converted (r : Result)
  | found (r : Option Result)
  | counted (s : Stats)
  | exported (text : String)

/-- The history after a step, and the answer of the step or its fault. -/
def step (h : History) : Step → History × Except Fault Answer
  | .convert c text optimize settings =>
    let (h, r) := h.convert c text optimize settings
    (h, .ok (.converted r))
  | .record r => (h.record r, .ok .nothing)
  | .get index => (h, (h.getOfValue index).map .found)
  | .stats => (h, h.stats.map .counted)
  | .exportJson => (h, h.exportJson.map .exported)
  | .clear => (h.clear, .ok .nothing)

/-- The history after steps that begin with an empty one.  A fault stops no later step. -/
def after (steps : List Step) : History := steps.foldl (fun h s => (h.step s).1) {}

namespace Step

def clears : Step → Bool
  | clear => true
  | _ => false

/-- Whether a step only looks at the history. -/
def looks : Step → Bool
  | get _ | stats | exportJson => true
  | _ => false

def result? : Step → Option Result
  | convert c text optimize settings => some (Tunebook.convert c text optimize settings)
  | record r => some r
  | _ => none

/-- The steps since the last clearing. -/
def sinceCleared (steps : List Step) : List Step := steps.rtakeWhile fun s => !s.clears

/-- The results of the steps since the last clearing, in their order. -/
def logged (steps : List Step) : List Result := (sinceCleared steps).filterMap result?

theorem logged_concat (steps : List Step) (s : Step) :
    logged (steps ++ [s]) = if s.clears then [] else logged steps ++ s.result?.toList := by
  by_cases hs : s.clears = true
  · simp [logged, sinceCleared, hs]
  · cases hr : s.result? with
    | none => simp [logged, sinceCleared, hs, hr]
    | some r => simp [logged, sinceCleared, hs, hr]

theorem mem_logged {steps : List Step} {r : Result} (hr : r ∈ logged steps) :
    .record r ∈ sinceCleared steps ∨ ∃ c text optimize settings,
      r = Tunebook.convert c text optimize settings := by
  obtain ⟨s, hmem, h⟩ := List.mem_filterMap.1 hr
  cases s with
  | convert c text optimize settings =>
    cases h
    exact .inr ⟨c, text, optimize, settings, rfl⟩
  | record r' =>
    cases h
    exact .inl hmem
  | get => cases h
  | stats => cases h
  | exportJson => cases h
  | clear => cases h

end Step

@[simp] theorem after_nil : after [] = {} := rfl

@[simp] theorem after_concat (steps : List Step) (s : Step) :
    after (steps ++ [s]) = ((after steps).step s).1 := by
  simp [after]

theorem step_looks {s : Step} (hs : s.looks = true) (h : History) : (h.step s).1 = h := by
  cases s with
  | get => rfl
  | stats => rfl
  | exportJson => rfl
  | convert => cases hs
  | record => cases hs
  | clear => cases hs

/-- **A step clears the results, or adds its own at their end.** -/
theorem results_step (h : History) (s : Step) :
    (h.step s).1.results = if s.clears then [] else h.results ++ s.result?.toList := by
  cases s with
  | convert => rfl
  | record => rfl
  | clear => rfl
  | get => simp [step, Step.clears, Step.result?]
  | stats => simp [step, Step.clears, Step.result?]
  | exportJson => simp [step, Step.clears, Step.result?]

/-- **After any steps a history holds what they logged.** -/
theorem results_after (steps : List Step) : (after steps).results = Step.logged steps := by
  induction steps using List.reverseRecOn with
  | nil => rfl
  | append_singleton steps s ih => rw [after_concat, results_step, Step.logged_concat, ih]

/-! ### Looking up a result -/

theorem get?_eq_some {h : History} {i : Nat} (hi : i < h.results.length) :
    h.get? i = some h.results[i] := by
  simp [get?, hi]

theorem get?_eq_none {h : History} {index : Int} (hi : index < 0 ∨ h.results.length ≤ index) :
    h.get? index = none := by
  rw [get?]
  split
  · rfl
  · rw [List.getElem?_eq_none_iff]
    omega

theorem get?_last (h : History) : h.get? (h.size - 1) = h.results.getLast? := by
  rw [size, List.getLast?_eq_getElem?]
  cases hr : h.results with
  | nil => rfl
  | cons r rest =>
    rw [get?, if_neg (by simp), hr]
    congr 1
    simp

/-! ### What statistics say -/

/-- **What statistics say, if they say something.** -/
theorem stats_eq_ok {h : History} {st : Stats} (hs : h.stats = .ok st) :
    st.total = h.size ∧ st.successful = h.results.countP (fun r => r.success) ∧
      st.failed = st.total - st.successful ∧ st.successful ≤ st.total ∧
      st.last = h.get? (h.size - 1) := by
  have hle : h.results.countP (fun r => r.success) ≤ h.size := List.countP_le_length
  rw [get?_last]
  rw [stats] at hs
  split at hs
  · next hsize =>
    have hnil : h.results = [] := List.eq_nil_of_length_eq_zero hsize
    cases hs
    simp [hsize, hnil]
  · obtain ⟨share, _, hs⟩ := bind_eq_ok.1 hs
    obtain ⟨sum, _, hs⟩ := bind_eq_ok.1 hs
    obtain ⟨mean, _, hs⟩ := bind_eq_ok.1 hs
    cases hs
    exact ⟨rfl, rfl, rfl, hle, rfl⟩

theorem durations_eq (h : History) : h.durations = h.results.map Result.duration := rfl

end History

/-! ### When times can be summed up -/

/-- Whether a value is a number. -/
def Value.IsNumber (v : Value) : Prop := (∃ x, v = .double x) ∨ ∃ n, v.asInt? = some n

/-- The integers up to this one are far from the largest double, and so are sums of them. -/
def timeBound : Nat := Nat.pow 2 900

/-- A number whose sums stay far from the largest double: a double, or an integer of no absurd
size. -/
def Value.IsSummable (v : Value) : Prop :=
  (∃ x, v = .double x) ∨ ∃ n, v.asInt? = some n ∧ n.natAbs ≤ timeBound

def Number.IsSum (count : Nat) (sum : Number) : Prop :=
  (∃ x, sum = .double x) ∨ ∃ n, sum = .int n ∧ n.natAbs ≤ count * timeBound

theorem sum_lt_bound {count : Nat} (h : count < Nat.pow 2 63) :
    count * timeBound < Nat.pow 2 1023 := by
  refine Nat.lt_of_le_of_lt (Nat.mul_le_mul_right _ (Nat.le_of_lt h)) ?_
  decide +kernel

theorem summable_lt_bound : timeBound < Nat.pow 2 1023 := by decide +kernel

theorem count_lt_bound {count : Nat} (h : count < Nat.pow 2 63) : count < Nat.pow 2 1023 :=
  Nat.lt_trans h (by decide +kernel)

theorem quotient_ok {n : Int} (h : n.natAbs < Nat.pow 2 1023) (den : Nat) :
    ∃ x, quotient n den = .ok x := by
  obtain ⟨m, e, hfinite⟩ := Double.ofRatio_finite h (decide (n < 0)) den
  refine ⟨.finite (decide (n < 0)) m e, ?_⟩
  rw [quotient, Double.ofSignedRatio, hfinite]
  rfl

theorem addValue_ok {count : Nat} {sum : Number} {v : Value} (hsum : sum.IsSum count)
    (hv : v.IsSummable) (hcount : count < Nat.pow 2 63) :
    ∃ sum', addValue sum v = .ok sum' ∧ sum'.IsSum (count + 1) := by
  rcases hsum with ⟨x, rfl⟩ | ⟨m, rfl, hm⟩
  · rcases hv with ⟨y, rfl⟩ | ⟨n, hn, hsize⟩
    · exact ⟨_, rfl, .inl ⟨_, rfl⟩⟩
    · have hdouble := toDouble_ok (Nat.lt_of_le_of_lt hsize summable_lt_bound)
      refine ⟨.double (x.add (.ofInt n)), ?_, .inl ⟨_, rfl⟩⟩
      cases v <;> cases hn <;> simp only [addValue, Value.asInt?, hdouble, ok_bind]
  · rcases hv with ⟨y, rfl⟩ | ⟨n, hn, hsize⟩
    · have hdouble := toDouble_ok (Nat.lt_of_le_of_lt hm (sum_lt_bound hcount))
      refine ⟨.double ((Double.ofInt m).add y), ?_, .inl ⟨_, rfl⟩⟩
      simp only [addValue, hdouble, ok_bind]
    · refine ⟨.int (m + n), ?_, .inr ⟨_, rfl, ?_⟩⟩
      · cases v <;> cases hn <;> rfl
      · have hadd := Int.natAbs_add_le m n
        rw [Nat.add_mul, Nat.one_mul]
        exact Nat.le_trans hadd (Nat.add_le_add hm hsize)

theorem foldlM_addValue_ok {count : Nat} {sum : Number} {vs : List Value} (hsum : sum.IsSum count)
    (hvs : ∀ v ∈ vs, v.IsSummable) (hcount : count + vs.length ≤ Nat.pow 2 63) :
    ∃ sum', vs.foldlM addValue sum = .ok sum' ∧ sum'.IsSum (count + vs.length) := by
  induction vs generalizing count sum with
  | nil => exact ⟨sum, rfl, hsum⟩
  | cons v rest ih =>
    rw [List.length_cons] at hcount
    obtain ⟨next, hnext, hsum'⟩ := addValue_ok hsum (hvs v List.mem_cons_self) (by omega)
    obtain ⟨sum', hrest, hdone⟩ := ih hsum' (fun w hw => hvs w (List.mem_cons_of_mem _ hw)) (by omega)
    refine ⟨sum', ?_, ?_⟩
    · rw [List.foldlM_cons, hnext, ok_bind, hrest]
    · rw [List.length_cons, ← Nat.add_assoc, Nat.add_right_comm]
      exact hdone

theorem average_ok {count : Nat} {sum : Number} (hsum : sum.IsSum count)
    (hcount : count < Nat.pow 2 63) : ∃ mean, average sum count = .ok mean := by
  rcases hsum with ⟨x, rfl⟩ | ⟨n, rfl, hn⟩
  · have hdouble : (Number.int count).toDouble = .ok (.ofInt count) :=
      toDouble_ok (n := count) (count_lt_bound hcount)
    exact ⟨x.div (.ofInt count), by simp only [average, hdouble, ok_bind]⟩
  · exact quotient_ok (Nat.lt_of_le_of_lt hn (sum_lt_bound hcount)) count

theorem isNumber_of_foldlM_addValue {vs : List Value} {sum sum' : Number}
    (h : vs.foldlM addValue sum = .ok sum') : ∀ v ∈ vs, v.IsNumber := by
  induction vs generalizing sum with
  | nil => simp
  | cons v rest ih =>
    rw [List.foldlM_cons] at h
    obtain ⟨next, hnext, hrest⟩ := bind_eq_ok.1 h
    rw [List.forall_mem_cons]
    refine ⟨?_, ih hrest⟩
    by_contra hno
    rw [Value.IsNumber, not_or] at hno
    have hint : v.asInt? = none := by
      cases hv : v.asInt? with
      | none => rfl
      | some n => exact absurd ⟨n, hv⟩ hno.2
    have hdouble : ∀ x, v ≠ .double x := fun x hx => hno.1 ⟨x, hx⟩
    rw [addValue.eq_def] at hnext
    split at hnext
    · exact hdouble _ rfl
    · rw [hint] at hnext
      cases hnext
    · exact hdouble _ rfl
    · rw [hint] at hnext
      split at hnext
      · next hnone => cases hnone
      · cases hnext

namespace History

/-- **Statistics are made of every history whose times are numbers of no absurd size.** -/
theorem stats_ok {h : History} (htimes : ∀ r ∈ h.results, r.duration.IsSummable)
    (hsize : h.size < Nat.pow 2 63) : ∃ st, h.stats = .ok st := by
  rw [stats]
  split
  · exact ⟨_, rfl⟩
  · have hle : h.results.countP (fun r => r.success) ≤ h.size := List.countP_le_length
    have hlen : h.durations.length = h.size := by simp [durations_eq, size]
    obtain ⟨share, hshare⟩ := quotient_ok (n := h.results.countP fun r => r.success)
      (count_lt_bound (Nat.lt_of_le_of_lt hle hsize)) h.size
    have hzero : (Number.int 0).IsSum 0 := .inr ⟨0, rfl, Nat.zero_le _⟩
    have hsummable : ∀ v ∈ h.durations, v.IsSummable := by simpa [durations_eq] using htimes
    obtain ⟨sum, hsum, hdone⟩ := foldlM_addValue_ok hzero hsummable (by omega)
    rw [hlen, Nat.zero_add] at hdone
    obtain ⟨mean, hmean⟩ := average_ok hdone hsize
    rw [hshare, ok_bind, hsum, ok_bind, hmean, ok_bind]
    exact ⟨_, rfl⟩

theorem isNumber_of_stats {h : History} {st : Stats} (hs : h.stats = .ok st) :
    ∀ r ∈ h.results, r.duration.IsNumber := by
  rw [stats] at hs
  split at hs
  · next hsize =>
    have hnil : h.results = [] := List.eq_nil_of_length_eq_zero hsize
    simp [hnil]
  · obtain ⟨share, _, hs⟩ := bind_eq_ok.1 hs
    obtain ⟨sum, hsum, _⟩ := bind_eq_ok.1 hs
    have hnumbers := isNumber_of_foldlM_addValue hsum
    simpa [durations_eq] using hnumbers

end History

/-! ### Times of conversions -/

theorem convert_duration (c : Clock) (text : Source) (optimize settings : Value) :
    (convert c text optimize settings).duration = .double c.elapsed := by
  have huntimed : Mapping.field? "duration_ms" (convertUntimed c text optimize settings).metadata
      = none := by
    rw [convertUntimed]
    split
    · split <;> rfl
    · rfl
  rw [convert, Result.timed, huntimed, Result.duration]
  show ((Mapping.get? (.text "duration_ms") (Mapping.insert _ _ _)).getD _) = _
  rw [Mapping.get?_insert_self]
  rfl

namespace History

/-! ### After any steps -/

/-- **A history is an exact log.**  After any steps it holds the results converted or recorded since
the last clearing, in their order.  Its size is their number; each index from zero below it finds
its result, and any other integer none.  Statistics count them, wherever the times that were
recorded are numbers of no absurd size, and nowhere else than where these are numbers.  A
conversion adds its result, however it ends, and a look changes nothing, even one that fails. -/
theorem after_is_log (steps : List Step) :
    let h := after steps
    let log := Step.logged steps
    h.results = log ∧ h.size = log.length ∧
      (∀ (i : Nat) (hi : i < log.length), h.getOfValue (.int i) = .ok (some log[i])) ∧
      (∀ index : Int, index < 0 ∨ log.length ≤ index → h.getOfValue (.int index) = .ok none) ∧
      (∀ st, h.stats = .ok st → st.total = log.length ∧
        st.successful = log.countP (fun r => r.success) ∧
        st.failed = st.total - st.successful ∧ st.successful ≤ st.total ∧
        st.last = h.get? (h.size - 1)) ∧
      ((∀ r, .record r ∈ Step.sinceCleared steps → r.duration.IsSummable) → log.length < Nat.pow 2 63 →
        ∃ st, h.stats = .ok st) ∧
      (∀ st, h.stats = .ok st → ∀ r ∈ log, r.duration.IsNumber) ∧
      (∀ (c : Clock) (text : Source) (optimize settings : Value),
        let r := Tunebook.convert c text optimize settings
        (h.step (.convert c text optimize settings)).1.results = log ++ [r] ∧
          (h.step (.convert c text optimize settings)).2 = .ok (.converted r)) ∧
      ∀ s : Step, s.looks = true → (h.step s).1 = h := by
  intro h log
  have hlog : h.results = log := results_after steps
  have hsize : h.size = log.length := by rw [size, hlog]
  refine ⟨hlog, hsize, ?_, ?_, ?_, ?_, ?_, ?_, ?_⟩
  · intro i hi
    show Except.ok (h.get? i) = _
    rw [← hlog] at hi
    rw [get?_eq_some hi]
    simp [hlog]
  · intro index hindex
    show Except.ok (h.get? index) = _
    rw [get?_eq_none (by rwa [hlog])]
  · intro st hst
    have hstats := stats_eq_ok hst
    rw [hlog] at hstats
    rw [← hsize]
    exact hstats
  · intro htimes hlen
    refine stats_ok ?_ (by rwa [hsize])
    intro r hr
    rw [hlog] at hr
    rcases Step.mem_logged hr with hmem | ⟨c, text, optimize, settings, rfl⟩
    · exact htimes r hmem
    · exact .inl ⟨_, convert_duration c text optimize settings⟩
  · intro st hst
    rw [← hlog]
    exact isNumber_of_stats hst
  · intro c text optimize settings r
    refine ⟨?_, rfl⟩
    rw [results_step, hlog]
    rfl
  · intro s hs
    exact step_looks hs h

/-- A result whose time is a text stops the statistics, but only until the history is cleared. -/
theorem after_is_log_cleared :
    let broken : Result :=
      { success := true, metadata := [(.text "duration_ms", .text "soon")], timestamp := "" }
    let fine : Result := { success := true, timestamp := "" }
    let refused := Tunebook.convert {} (.text "") .null .null
    let h := after [.record broken]
    let h' := after [.record broken, .stats, .exportJson, .clear, .record fine,
      .get (.int (-1)), .convert {} (.text "") .null .null]
    (∀ st, h.stats ≠ .ok st) ∧ h'.results = [fine, refused] ∧
      h'.getOfValue (.int 0) = .ok (some fine) ∧ h'.getOfValue (.int (-1)) = .ok none ∧
      ∃ st, h'.stats = .ok st ∧ st.total = 2 ∧ st.successful = 1 ∧ st.failed = 1 := by
  intro broken fine refused h h'
  have hlog : Step.logged [.record broken] = [broken] := rfl
  have hlog' : Step.logged [.record broken, .stats, .exportJson, .clear, .record fine,
      .get (.int (-1)), .convert {} (.text "") .null .null] = [fine, refused] := rfl
  obtain ⟨_, _, _, _, _, _, hnumbers, _⟩ := after_is_log [.record broken]
  obtain ⟨hresults, _, hget, hnone, hstats, hsum, _⟩ := after_is_log [.record broken, .stats,
    .exportJson, .clear, .record fine, .get (.int (-1)), .convert {} (.text "") .null .null]
  rw [hlog] at hnumbers
  simp only [hlog'] at hresults hget hnone hstats hsum
  refine ⟨?_, hresults, hget 0 (by decide), hnone (-1) (.inl (by decide)), ?_⟩
  · intro st hst
    rcases hnumbers st hst broken List.mem_cons_self with ⟨x, hx⟩ | ⟨n, hn⟩
    · cases hx
    · cases hn
  · obtain ⟨st, hst⟩ := hsum (by
      intro r hr
      have hfine : r = fine := by simpa [Step.sinceCleared, Step.clears, List.rtakeWhile] using hr
      rw [hfine]
      exact .inr ⟨0, rfl, Nat.zero_le _⟩) (by decide +kernel)
    obtain ⟨htotal, hsuccessful, hfailed, _⟩ := hstats st hst
    have hcount : [fine, refused].countP (fun r => r.success) = 1 := by decide +kernel
    rw [htotal, hsuccessful, hcount] at hfailed
    exact ⟨st, hst, htotal, hsuccessful.trans hcount, hfailed⟩

end History

end Tunebook
