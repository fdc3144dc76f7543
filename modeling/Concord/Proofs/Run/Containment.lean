/-
  What becomes of an instance on which something fails, against any server.

  An address is valid after some passes of a run just if none of them recorded
  an error on it: a run begins with a fresh registry, and only errors are
  marked there.  So an address with an error is left alone by the rest of the
  run, and the addresses that a report calls invalid are those with an error.

  * `issues_passes`, `issues_perform`: the addresses that calls name.
  * `RunReport.FailedBy`, `isValid_afterPasses_iff`: the invariant.
  * `failures_contained`: the whole report.
-/
import Concord.Proofs.Pass.Attempts
import Concord.Proofs.Run.Kinds

namespace Concord

/-- Whether one of the first `n` passes of a run recorded an error on an
    address. -/
def RunReport.FailedBy (r : RunReport) (n : Nat) (a : String) : Prop :=
  ∃ k ∈ r.kinds.take n, a ∈ k.failed

/-- What a report of a run over configured addresses says of failures. -/
structure RunReport.Contained (r : RunReport) (configured : List String) : Prop where
  instances : r.instances = configured
  /-- Attempted addresses keep their order. -/
  sublist : ∀ k ∈ r.kinds, k.attempted.Sublist configured
  /-- No address is lost, and none is made up. -/
  perm : ∀ k ∈ r.kinds, (k.attempted ++ k.skipped).Perm configured
  /-- Nobody is attempted again after an error. -/
  dropped : ∀ n a, r.FailedBy n a → ∀ k ∈ r.kinds.drop n, a ∉ k.attempted
  /-- Only errors make a pass skip an address. -/
  skipped : configured.Nodup → ∀ n k, r.kinds[n]? = some k →
    ∀ a, a ∈ k.skipped ↔ r.FailedBy n a
  invalid : r.invalid =
    configured.filter fun a => r.outcomes.any fun o => o.address == a && !o.succeeded
  success : r.success = true ↔ ∀ o ∈ r.outcomes, o.error = none
  /-- The count of healthy instances is a difference that exists. -/
  healthy : r.invalid.length ≤ r.instances.length

namespace Run

open Session

variable {σ : Type} {ctx : Context σ} {c : Config} {kinds : List KindName} {a : String}
  {w : World σ}

/-! ## The first passes and the others -/

theorem take_result_passes (kinds : List KindName) (n : Nat) (w : World σ) :
    ((passes ctx c kinds).result w).take n = (passes ctx c (kinds.take n)).result w := by
  induction kinds generalizing n w with
  | nil => rw [List.take_nil]; exact List.take_nil
  | cons k kinds ih =>
    cases n with
    | zero => rfl
    | succ n =>
      rw [List.take_succ_cons, result_passes_cons, result_passes_cons, List.take_succ_cons, ih]

theorem drop_result_passes (kinds : List KindName) (n : Nat) (w : World σ) :
    ((passes ctx c kinds).result w).drop n =
      (passes ctx c (kinds.drop n)).result ((passes ctx c (kinds.take n)).after w) := by
  induction kinds generalizing n w with
  | nil => rw [List.drop_nil, List.take_nil]; exact List.drop_nil
  | cons k kinds ih =>
    cases n with
    | zero => rfl
    | succ n => rw [List.take_succ_cons, List.drop_succ_cons, result_passes_cons, after_passes_cons,
        List.drop_succ_cons, ih]

theorem after_passes_drop (kinds : List KindName) (n : Nat) (w : World σ) :
    (passes ctx c (kinds.drop n)).after ((passes ctx c (kinds.take n)).after w) =
      (passes ctx c kinds).after w := by
  induction kinds generalizing n w with
  | nil => rw [List.drop_nil, List.take_nil]; rfl
  | cons k kinds ih =>
    cases n with
    | zero => rfl
    | succ n =>
      rw [List.take_succ_cons, List.drop_succ_cons, after_passes_cons, after_passes_cons, ih]

/-! ## Later passes -/

theorem mem_result_passes {r : KindReport} (h : r ∈ (passes ctx c kinds).result w) :
    ∃ k, ∃ w' : World σ, r = (Pass.perform ctx (c.kind k)).result w' ∧
      w'.registry.configured = w.registry.configured ∧
      ∀ a, w'.registry.isValid a = true → w.registry.isValid a = true := by
  induction kinds generalizing w with
  | nil => cases h
  | cons k kinds ih =>
    rw [result_passes_cons] at h
    rcases List.mem_cons.1 h with rfl | h
    · exact ⟨k, announced k w, rfl, rfl, fun _ => id⟩
    · obtain ⟨k', w', hr, hconfigured, hvalid⟩ := ih h
      refine ⟨k', w', hr, hconfigured.trans (configured_passed ctx c k w), fun a ha => ?_⟩
      exact ((Pass.isValid_perform (c.serves k).asks (announced k w) a).1 (hvalid a ha)).1

/-- Whoever is attempted by some passes is valid before them. -/
theorem isValid_of_mem_passes {r : KindReport} (h : r ∈ (passes ctx c kinds).result w)
    (ha : a ∈ r.attempted) : w.registry.isValid a = true := by
  obtain ⟨k, w', rfl, -, hvalid⟩ := mem_result_passes h
  exact hvalid a (Pass.isValid_of_mem_attempted (c.serves k).asks ha)

/-- Every call of some passes names a configured address that is valid before
    them. -/
theorem issues_valid_passes (kinds : List KindName) (w : World σ) :
    Issues (fun call => call.address ∈ w.registry.valid) w ((passes ctx c kinds).after w) := by
  induction kinds generalizing w with
  | nil => exact refl_of (Issues _) w
  | cons k kinds ih =>
    have hannounced : Issues (fun call => call.address ∈ w.registry.valid) w (announced k w) :=
      issues_of_calls_eq rfl
    have hpass : Issues (fun call => call.address ∈ w.registry.valid) w (passed ctx c k w) :=
      trans_of (Issues _) hannounced (Pass.issues_perform (c.serves k).asks (announced k w))
    rw [after_passes_cons]
    refine trans_of (Issues _) hpass ((ih (passed ctx c k w)).mono fun call hcall => ?_)
    obtain ⟨hconfigured, hvalid⟩ := Registry.mem_valid_iff.1 hcall
    rw [configured_passed] at hconfigured
    exact Registry.mem_valid_iff.2 ⟨hconfigured,
      ((Pass.isValid_perform (c.serves k).asks (announced k w) call.address).1 hvalid).1⟩

/-- No call of some passes names an address that is not valid before them. -/
theorem issues_passes (kinds : List KindName) (w : World σ) :
    Issues (fun call => w.registry.isValid call.address = true) w
      ((passes ctx c kinds).after w) :=
  (issues_valid_passes kinds w).mono fun _ h => (Registry.mem_valid_iff.1 h).2

/-- **Every call of a run** names a configured address. -/
theorem issues_perform (kinds : List KindName) (stamp : RunStamp) (w : World σ) :
    Issues (fun call => call.address ∈ w.registry.configured) w
      ((perform ctx c kinds stamp).after w) := by
  have hopened : Issues (fun call => call.address ∈ w.registry.configured) w (opened kinds w) :=
    issues_of_calls_eq rfl
  have hpasses : Issues (fun call => call.address ∈ w.registry.configured) (opened kinds w)
      ((passes ctx c kinds).after (opened kinds w)) :=
    (issues_valid_passes kinds (opened kinds w)).mono fun _ h => (Registry.mem_valid_iff.1 h).1
  exact trans_of (Issues _) (trans_of (Issues _) hopened hpasses) (issues_of_calls_eq rfl)

/-! ## The invariant -/

/-- The world after the first `n` passes of a run. -/
def afterPasses (ctx : Context σ) (c : Config) (kinds : List KindName) (n : Nat) (w : World σ) :
    World σ := (passes ctx c (kinds.take n)).after (opened kinds w)

/-- **An address is valid** after some passes just if none of them recorded an
    error on it. -/
theorem isValid_afterPasses_iff (kinds : List KindName) (stamp : RunStamp) (w : World σ) (n : Nat)
    (a : String) :
    (afterPasses ctx c kinds n w).registry.isValid a = true ↔
      ¬ ((perform ctx c kinds stamp).result w).FailedBy n a := by
  have hfresh : (opened kinds w).registry.isValid a = true := rfl
  rw [afterPasses, isValid_passes, RunReport.FailedBy, result_perform, take_result_passes]
  simp only [hfresh, true_and, not_exists, not_and, KindReport.notMem_failed_iff]

theorem isValid_after_iff (kinds : List KindName) (stamp : RunStamp) (w : World σ) (a : String) :
    ((passes ctx c kinds).after (opened kinds w)).registry.isValid a = true ↔
      ∀ o ∈ ((perform ctx c kinds stamp).result w).outcomes, o.address = a → o.error = none := by
  have hfresh : (opened kinds w).registry.isValid a = true := rfl
  rw [isValid_passes, RunReport.outcomes, List.forall_mem_flatMap, result_perform]
  simp only [hfresh, true_and]

/-- A report calls those invalid on which an error was recorded. -/
theorem invalid_perform (kinds : List KindName) (stamp : RunStamp) (w : World σ) :
    ((perform ctx c kinds stamp).result w).invalid = w.registry.configured.filter fun a =>
      ((perform ctx c kinds stamp).result w).outcomes.any fun o =>
        o.address == a && !o.succeeded := by
  have hconfigured : ((passes ctx c kinds).after (opened kinds w)).registry.configured =
      w.registry.configured := configured_passes kinds (opened kinds w)
  have hinvalid : ((perform ctx c kinds stamp).result w).invalid =
      ((passes ctx c kinds).after (opened kinds w)).registry.invalid := rfl
  rw [hinvalid, Registry.invalid, hconfigured]
  refine List.filter_congr fun a _ => ?_
  rw [Bool.eq_iff_iff, Bool.not_eq_true', ← Bool.not_eq_true, isValid_after_iff kinds stamp]
  simp [Outcome.succeeded, Option.isSome_iff_ne_none]

/-! ## The whole report -/

theorem configured_afterPasses (kinds : List KindName) (n : Nat) (w : World σ) :
    (afterPasses ctx c kinds n w).registry.configured = w.registry.configured :=
  configured_passes _ (opened kinds w)

theorem drop_kinds_perform (kinds : List KindName) (stamp : RunStamp) (n : Nat) (w : World σ) :
    ((perform ctx c kinds stamp).result w).kinds.drop n =
      (passes ctx c (kinds.drop n)).result (afterPasses ctx c kinds n w) :=
  drop_result_passes kinds n (opened kinds w)

/-- Every pass of a run is about the configured addresses. -/
theorem mem_kinds_perform {stamp : RunStamp} {r : KindReport}
    (h : r ∈ ((perform ctx c kinds stamp).result w).kinds) :
    ∃ k, ∃ w' : World σ, r = (Pass.perform ctx (c.kind k)).result w' ∧
      w'.registry.configured = w.registry.configured := by
  obtain ⟨k, w', hr, hconfigured, -⟩ := mem_result_passes h
  exact ⟨k, w', hr, hconfigured⟩

theorem mem_configured_of_mem_attempted {stamp : RunStamp} {r : KindReport}
    (h : r ∈ ((perform ctx c kinds stamp).result w).kinds) (ha : a ∈ r.attempted) :
    a ∈ w.registry.configured := by
  obtain ⟨k, w', rfl, hconfigured⟩ := mem_kinds_perform h
  exact hconfigured ▸ (Pass.sublist_perform w').subset ha

/-- If no address is listed twice, those are skipped on which an earlier pass
    recorded an error. -/
theorem mem_skipped_iff (stamp : RunStamp) (hn : w.registry.configured.Nodup) {n : Nat}
    {r : KindReport} (h : ((perform ctx c kinds stamp).result w).kinds[n]? = some r) (a : String) :
    a ∈ r.skipped ↔ ((perform ctx c kinds stamp).result w).FailedBy n a := by
  have hfirst : ((perform ctx c kinds stamp).result w).kinds.drop n =
      r :: ((perform ctx c kinds stamp).result w).kinds.drop (n + 1) := by
    rw [List.drop_eq_getElem?_toList_append, h]
    rfl
  rw [drop_kinds_perform] at hfirst
  cases hkinds : kinds.drop n with
  | nil =>
    rw [hkinds] at hfirst
    cases hfirst
  | cons k rest =>
    rw [hkinds, result_passes_cons] at hfirst
    let w' := announced k (afterPasses ctx c kinds n w)
    have hconfigured : w'.registry.configured = w.registry.configured :=
      configured_afterPasses kinds n w
    have hskipped : r.skipped = w'.registry.invalid := by
      rw [← (List.cons.inj hfirst).1]
      exact Pass.skipped_perform_of_nodup (c.serves k).asks (hconfigured.symm ▸ hn)
    have hvalid : w'.registry.isValid a = true ↔ _ := isValid_afterPasses_iff kinds stamp w n a
    rw [hskipped, Registry.invalid, List.mem_filter, hconfigured, Bool.not_eq_true',
      ← Bool.not_eq_true, hvalid, not_not]
    refine and_iff_right_of_imp fun hfailed => ?_
    obtain ⟨r', hr', ha⟩ := hfailed
    exact mem_configured_of_mem_attempted (List.mem_of_mem_take hr')
      (KindReport.mem_attempted_of_mem_failed ha)

/-- A run succeeds if it recorded no error. -/
theorem success_iff_forall (kinds : List KindName) (stamp : RunStamp) (w : World σ) :
    ((perform ctx c kinds stamp).result w).success = true ↔
      ∀ o ∈ ((perform ctx c kinds stamp).result w).outcomes, o.error = none := by
  have haddress : ∀ o ∈ ((perform ctx c kinds stamp).result w).outcomes,
      o.address ∈ w.registry.configured := fun o ho => by
    obtain ⟨r, hr, ho⟩ := List.mem_flatMap.1 ho
    exact mem_configured_of_mem_attempted hr (List.mem_map_of_mem ho)
  rw [RunReport.success, List.isEmpty_iff, invalid_perform, List.filter_eq_nil_iff]
  constructor
  · intro h o ho
    by_contra herror
    refine h o.address (haddress o ho) (List.any_eq_true.2 ⟨o, ho, ?_⟩)
    simpa [Outcome.succeeded, Option.isSome_iff_ne_none] using herror
  · intro h a _ hany
    obtain ⟨o, ho, hfailed⟩ := List.any_eq_true.1 hany
    simp [Outcome.succeeded, h o ho] at hfailed

theorem contained_perform (kinds : List KindName) (stamp : RunStamp) (w : World σ) :
    ((perform ctx c kinds stamp).result w).Contained w.registry.configured where
  instances := rfl
  sublist r hr := by
    obtain ⟨k, w', rfl, hconfigured⟩ := mem_kinds_perform hr
    exact hconfigured ▸ Pass.sublist_perform w'
  perm r hr := by
    obtain ⟨k, w', rfl, hconfigured⟩ := mem_kinds_perform hr
    exact hconfigured ▸ Pass.perm_perform w'
  dropped n a ha r hr hmem := by
    rw [drop_kinds_perform] at hr
    exact (isValid_afterPasses_iff kinds stamp w n a).1 (isValid_of_mem_passes hr hmem) ha
  skipped hn _ _ h a := mem_skipped_iff stamp hn h a
  invalid := invalid_perform kinds stamp w
  success := success_iff_forall kinds stamp w
  healthy := by
    rw [invalid_perform]
    exact List.length_filter_le ..

theorem map_kind_passes (kinds : List KindName) (w : World σ) :
    ((passes ctx c kinds).result w).map (·.kind) = kinds.map KindName.label := by
  induction kinds generalizing w with
  | nil => rfl
  | cons k kinds ih =>
    have hlabel : (c.kind k).label = k.label := by rw [c.kind_eq, k.label_toKind]
    rw [result_passes_cons, List.map_cons, List.map_cons, ih, Pass.result_perform, hlabel]

/-- **Failures are contained.**  A run has a pass for every kind, in order; its
    report says who failed, who was skipped and why; and once a pass has
    recorded an error on an address, no call of the rest of the run names it. -/
theorem failures_contained (ctx : Context σ) (c : Config) (kinds : List KindName)
    (stamp : RunStamp) (w : World σ) :
    let r := (perform ctx c kinds stamp).result w
    r.kinds.map (·.kind) = kinds.map KindName.label ∧ r.Contained w.registry.configured ∧
      ∀ n, Issues (fun call => ¬ r.FailedBy n call.address) (afterPasses ctx c kinds n w)
        ((perform ctx c kinds stamp).after w) := by
  intro r
  refine ⟨map_kind_passes kinds (opened kinds w), contained_perform kinds stamp w, fun n => ?_⟩
  have hlater : Issues
      (fun call => (afterPasses ctx c kinds n w).registry.isValid call.address = true)
      (afterPasses ctx c kinds n w)
      ((passes ctx c (kinds.drop n)).after (afterPasses ctx c kinds n w)) := issues_passes _ _
  obtain ⟨new, hnew, hcalls⟩ := hlater
  refine ⟨new, ?_, fun call hcall => ?_⟩
  · rw [afterPasses, after_passes_drop] at hnew
    exact hnew
  · exact (isValid_afterPasses_iff kinds stamp w n call.address).1 (hcalls call hcall)

end Run

end Concord
