/-
  Metrics after a history of runs.

  What is recorded of an address changes its own series only, so the series of
  each address can be followed by themselves.  After any history the status and
  the duration are those of the last run that lists the address, and the
  counter is the number of runs on which it was listed and nothing failed.

  * `series`: the series of one address.
  * `series_record`, `series_recordRun`: what one step makes of them.
  * `series_after`: what a history makes of them.
  * `history_told`: what the series tell of the history.
-/
import Mathlib.Data.List.Induction
import Mathlib.Data.List.Nodup
import Mathlib.Logic.Function.Iterate
import Concord.Metrics
import Concord.Proofs.Dict

namespace Concord.Metrics

variable {m : Metrics} {r : RunReport} {reports : List RunReport} {a b : String}

/-! ## The series of an address -/

/-- The series of one address, each with its value if it exists. -/
structure Series where
  failed : Option Bool
  successes : Option Nat
  seconds : Option Measure
  deriving DecidableEq

/-- The series of an address. -/
def series (m : Metrics) (a : String) : Series :=
  ⟨m.failed.get? a, m.successes.get? a, m.seconds.get? a⟩

/-- Series after one more outcome. -/
def Series.record (s : Series) (success : Bool) (duration : Measure) : Series where
  failed := some (!success)
  successes := if success then some (s.successes.getD 0 + 1) else s.successes
  seconds := some duration

/-- The value of the status series. -/
def Series.status (s : Series) : Option String := s.failed.map statusText

/-- An outcome changes the series of its own address. -/
theorem series_record (m : Metrics) (b : String) (success : Bool) (duration : Measure)
    (a : String) :
    (m.record b success duration).series a =
      if a = b then (m.series a).record success duration else m.series a := by
  by_cases h : a = b
  · subst h
    cases success <;> simp [series, record, Series.record]
  · cases success <;> simp [series, record, h]

/-! ## One run -/

/-- Series after a run that lists their address. -/
def Series.recordRun (r : RunReport) (a : String) (s : Series) : Series :=
  s.record (!r.invalid.contains a) (.finite r.stamp.duration)

/-- A run changes the series of an address as often as it lists it. -/
theorem series_recordRun_iterate (m : Metrics) (r : RunReport) (a : String) :
    (m.recordRun r).series a = (Series.recordRun r a)^[r.instances.count a] (m.series a) := by
  -- every listed address is recorded on its own, one after the other
  unfold recordRun
  induction r.instances generalizing m with
  | nil => rfl
  | cons b l ih =>
    rw [List.foldl_cons, ih, series_record, List.count_cons]
    by_cases h : a = b
    · subst h
      rw [if_pos rfl, if_pos (beq_self_eq_true a), Function.iterate_succ_apply]
      rfl
    · have hne : ¬ (b == a) = true := fun hb => h (beq_iff_eq.1 hb).symm
      rw [if_neg h, if_neg hne, Nat.add_zero]

/-- **A run leaves the series of an address alone** that it does not list. -/
theorem series_recordRun_of_notMem (m : Metrics) (h : a ∉ r.instances) :
    (m.recordRun r).series a = m.series a := by
  rw [series_recordRun_iterate, List.count_eq_zero.2 h, Function.iterate_zero, id]

theorem series_recordRun_of_mem (m : Metrics) (hn : r.instances.Nodup) (h : a ∈ r.instances) :
    (m.recordRun r).series a = (m.series a).recordRun r a := by
  rw [series_recordRun_iterate, List.count_eq_one_of_mem hn h, Function.iterate_one]

/-! ## Histories -/

/-- The metrics after some runs. -/
def after (reports : List RunReport) : Metrics := reports.foldl recordRun empty

theorem after_concat (reports : List RunReport) (r : RunReport) :
    after (reports ++ [r]) = (after reports).recordRun r :=
  List.foldl_concat ..

/-- The last run that lists an address. -/
def lastListing (reports : List RunReport) (a : String) : Option RunReport :=
  reports.reverse.find? fun r => a ∈ r.instances

/-- On how many runs an address was listed and did not fail. -/
def successCount (reports : List RunReport) (a : String) : Nat :=
  reports.countP fun r => a ∈ r.instances ∧ a ∉ r.invalid

/-- A number that is shown only if it is positive. -/
def positive? (n : Nat) : Option Nat := if n = 0 then none else some n

theorem lastListing_concat (reports : List RunReport) (r : RunReport) (a : String) :
    lastListing (reports ++ [r]) a =
      if a ∈ r.instances then some r else lastListing reports a := by
  by_cases h : a ∈ r.instances <;> simp [lastListing, h]

theorem successCount_concat (reports : List RunReport) (r : RunReport) (a : String) :
    successCount (reports ++ [r]) a =
      successCount reports a + if a ∈ r.instances ∧ a ∉ r.invalid then 1 else 0 := by
  simp [successCount, List.countP_append, List.countP_singleton]

theorem getD_positive? (n : Nat) : (positive? n).getD 0 = n := by
  cases n <;> rfl

/-- **The series of an address after a history of runs.** -/
theorem series_after (h : ∀ r ∈ reports, r.instances.Nodup) (a : String) :
    (after reports).series a =
      ⟨(lastListing reports a).map fun r => decide (a ∈ r.invalid),
        positive? (successCount reports a),
        (lastListing reports a).map fun r => .finite r.stamp.duration⟩ := by
  induction reports using List.reverseRecOn with
  | nil => rfl
  | append_singleton reports r ih =>
    have hn : r.instances.Nodup := h r (by simp)
    have before := ih fun r' hr' => h r' (List.mem_append_left _ hr')
    rw [after_concat, lastListing_concat, successCount_concat]
    by_cases ha : a ∈ r.instances
    · rw [series_recordRun_of_mem _ hn ha, before, Series.recordRun, Series.record, getD_positive?]
      by_cases hv : a ∈ r.invalid
      · simp [ha, hv]
      · simp [ha, hv, positive?]
    · rw [series_recordRun_of_notMem _ ha, before]
      simp [ha]

/-! ## What the series tell -/

theorem isSome_lastListing_iff :
    (lastListing reports a).isSome ↔ ∃ r ∈ reports, a ∈ r.instances := by
  simp [lastListing]

theorem lastListing_of_split {earlier later : List RunReport} (h : a ∈ r.instances)
    (hl : ∀ r' ∈ later, a ∉ r'.instances) :
    lastListing (earlier ++ r :: later) a = some r := by
  have hlater : later.reverse.find? (fun r' => a ∈ r'.instances) = none := by
    simpa using hl
  rw [lastListing, List.reverse_append, List.reverse_cons, List.find?_append, List.find?_append,
    hlater]
  simp [h]

/-- What metrics tell of an address after a history of runs. -/
structure Told (reports : List RunReport) (a : String) (m : Metrics) : Prop where
  /-- There is a status if some run lists the address. -/
  status_exists : (m.series a).failed.isSome ↔ ∃ r ∈ reports, a ∈ r.instances
  /-- There is a duration if some run lists the address. -/
  seconds_exists : (m.series a).seconds.isSome ↔ ∃ r ∈ reports, a ∈ r.instances
  /-- Status and duration are those of the last run that lists it. -/
  last : ∀ earlier r later, reports = earlier ++ r :: later → a ∈ r.instances →
    (∀ r' ∈ later, a ∉ r'.instances) →
      (m.series a).status = some (if a ∈ r.invalid then "1" else "0") ∧
        (m.series a).seconds = some (.finite r.stamp.duration)
  /-- There is a counter if the address was ever listed without a failure. -/
  counter_exists : (m.series a).successes.isSome ↔ 0 < successCount reports a
  /-- The counter has the number of such runs. -/
  counter : ∀ n, (m.series a).successes = some n → n = successCount reports a
  /-- A further run that does not list the address changes none of its
      series. -/
  frame : ∀ r, a ∉ r.instances → (m.recordRun r).series a = m.series a

/-- **Metrics tell the history of runs**, whatever addresses the runs list,
    if no run lists one twice. -/
theorem history_told (h : ∀ r ∈ reports, r.instances.Nodup) (a : String) :
    Told reports a (after reports) where
  status_exists := by
    rw [series_after h, Option.isSome_map, isSome_lastListing_iff]
  seconds_exists := by
    rw [series_after h, Option.isSome_map, isSome_lastListing_iff]
  last := by
    rintro earlier r later rfl ha hl
    rw [series_after h, lastListing_of_split ha hl, Series.status]
    by_cases hv : a ∈ r.invalid <;> simp [hv, statusText]
  counter_exists := by
    rw [series_after h, positive?]
    split
    · rename_i hzero
      simp [hzero]
    · rename_i hpos
      simp [Nat.pos_of_ne_zero hpos]
  counter := by
    intro n hn
    rw [series_after h] at hn
    have hshown : positive? (successCount reports a) = some n := hn
    have hvalue := getD_positive? (successCount reports a)
    rw [hshown] at hvalue
    exact hvalue
  frame _ := series_recordRun_of_notMem _

/-- A run over some instances, of which some failed. -/
def finishedRun (instances invalid : List String) (duration : Decimal) : RunReport where
  stamp := ⟨"", ⟨0, 0⟩, duration⟩
  dryRun := false
  kinds := []
  instances := instances
  invalid := invalid

/-- Two and a half seconds. -/
def shortTime : Decimal := ⟨false, 25, -1, .inl (by decide)⟩

/-- Two minutes. -/
def longTime : Decimal := ⟨false, 12, 1, .inl (by decide)⟩

/-- Runs over changing instances: `a` fails and recovers, `b` fails and is left
    out, `c` comes later. -/
def changingRuns : List RunReport :=
  [finishedRun ["a", "b"] ["a"] shortTime, finishedRun ["b", "a"] ["b"] longTime,
    finishedRun ["a", "c"] [] shortTime]

theorem history_told_changing :
    (∀ r ∈ changingRuns, r.instances.Nodup) ∧ (∀ a, Told changingRuns a (after changingRuns)) ∧
      (after changingRuns).series "a" = ⟨some false, some 2, some (.finite shortTime)⟩ ∧
      (after changingRuns).series "b" = ⟨some true, some 1, some (.finite longTime)⟩ ∧
      (after changingRuns).series "c" = ⟨some false, some 1, some (.finite shortTime)⟩ := by
  have h : ∀ r ∈ changingRuns, r.instances.Nodup := by decide
  exact ⟨h, history_told h, by decide⟩

end Concord.Metrics
