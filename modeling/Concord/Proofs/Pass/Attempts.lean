/-
  Who is attempted in a pass, and who is skipped, against any server.

  Every listed address is either attempted or skipped, as often as it is
  listed; only valid addresses are attempted, and no call of the pass names any
  other.  An address that is listed twice can become invalid in between, so
  what is skipped is known beforehand only if no address is listed twice.

  * `sublist_perform`, `perm_perform`: attempted and skipped addresses.
  * `isValid_of_mem_attempted`, `issues_perform`: only valid ones.
  * `skipped_perform_of_nodup`: who is skipped.
-/
import Concord.Proofs.Pass.Turns

namespace Concord

/-! ## Reports -/

namespace KindReport

/-- The instances that were attempted. -/
def attempted (r : KindReport) : List String := r.outcomes.map (·.address)

theorem mem_failed_iff {r : KindReport} {a : String} :
    a ∈ r.failed ↔ ∃ o ∈ r.outcomes, o.address = a ∧ o.error ≠ none := by
  simp only [failed, List.mem_map, List.mem_filter, Outcome.succeeded, Bool.not_eq_true',
    Option.isNone_eq_false_iff, Option.isSome_iff_ne_none, and_assoc]
  exact exists_congr fun o => and_congr_right fun _ => and_comm

theorem notMem_failed_iff {r : KindReport} {a : String} :
    a ∉ r.failed ↔ ∀ o ∈ r.outcomes, o.address = a → o.error = none := by
  rw [mem_failed_iff]
  push Not
  rfl

theorem mem_attempted_of_mem_failed {r : KindReport} {a : String} (h : a ∈ r.failed) :
    a ∈ r.attempted := by
  obtain ⟨o, ho, rfl, -⟩ := mem_failed_iff.1 h
  exact List.mem_map_of_mem ho

end KindReport

namespace Pass

open Session
open scoped List

variable {σ α : Type} [Item α] {ctx : Context σ} {kind : Kind α} {a : String} {L : List String}
  {w : World σ}

/-! ## One after another -/

theorem sublist_overInstances (L : List String) (w : World σ) :
    (((overInstances ctx kind L).result w).1.map (·.address)).Sublist L := by
  induction L generalizing w with
  | nil => exact .slnil
  | cons b L ih =>
    by_cases h : w.registry.isValid b = true
    · rw [result_overInstances_of_valid h, List.map_cons, result_turn, address_onInstance]
      exact (ih _).cons_cons b
    · rw [result_overInstances_of_invalid h]
      exact (ih _).cons b

theorem perm_overInstances (L : List String) (w : World σ) :
    (((overInstances ctx kind L).result w).1.map (·.address) ++
      ((overInstances ctx kind L).result w).2).Perm L := by
  induction L generalizing w with
  | nil => exact .nil
  | cons b L ih =>
    by_cases h : w.registry.isValid b = true
    · rw [result_overInstances_of_valid h, List.map_cons, result_turn, address_onInstance]
      exact (ih _).cons b
    · rw [result_overInstances_of_invalid h]
      exact List.perm_middle.trans ((ih _).cons b)

/-- Only those are attempted that are valid at the start. -/
theorem isValid_of_mem_overInstances (hkind : kind.OnlyAsks) {o : Outcome}
    (ho : o ∈ ((overInstances ctx kind L).result w).1) : w.registry.isValid o.address = true := by
  induction L generalizing w with
  | nil => cases ho
  | cons b L ih =>
    by_cases h : w.registry.isValid b = true
    · rw [result_overInstances_of_valid h] at ho
      rcases List.mem_cons.1 ho with rfl | ho
      · rw [result_turn, address_onInstance]
        exact h
      · exact ((isValid_turn hkind w o.address).1 (ih ho)).1
    · rw [result_overInstances_of_invalid h] at ho
      exact ih (w := skip kind b w) ho

/-! ## Passes -/

theorem sublist_perform (w : World σ) :
    ((perform ctx kind).result w).attempted.Sublist w.registry.configured :=
  (sublist_overInstances w.registry.valid (opened kind w)).trans List.filter_sublist

/-- **Every configured address** is attempted or skipped, each time it is
    listed. -/
theorem perm_perform (w : World σ) :
    (((perform ctx kind).result w).attempted ++ ((perform ctx kind).result w).skipped).Perm
      w.registry.configured := by
  let turns := (overInstances ctx kind w.registry.valid).result (opened kind w)
  have hturns : (turns.1.map (·.address) ++ turns.2) ~ w.registry.valid :=
    perm_overInstances w.registry.valid (opened kind w)
  calc turns.1.map (·.address) ++ (w.registry.invalid ++ turns.2)
      _ ~ turns.1.map (·.address) ++ (turns.2 ++ w.registry.invalid) :=
        List.perm_append_comm.append_left _
      _ = (turns.1.map (·.address) ++ turns.2) ++ w.registry.invalid :=
        (List.append_assoc ..).symm
      _ ~ w.registry.valid ++ w.registry.invalid := hturns.append_right _
      _ ~ w.registry.configured := List.filter_append_perm _ _

theorem isValid_of_mem_attempted (hkind : kind.OnlyAsks)
    (h : a ∈ ((perform ctx kind).result w).attempted) : w.registry.isValid a = true := by
  obtain ⟨o, ho, rfl⟩ := List.mem_map.1 h
  exact isValid_of_mem_overInstances (w := opened kind w) hkind ho

/-- If no address is listed twice, those are skipped that are invalid at the
    start. -/
theorem skipped_perform_of_nodup (hkind : kind.OnlyAsks) (hn : w.registry.configured.Nodup) :
    ((perform ctx kind).result w).skipped = w.registry.invalid := by
  let turns := (overInstances ctx kind w.registry.valid).result (opened kind w)
  have haddresses : turns.1.map (·.address) = w.registry.valid :=
    (addresses_overInstances (w := opened kind w) hkind (hn.filter _)).trans
      (List.filter_eq_self.2 fun _ hb => (Registry.mem_valid_iff.1 hb).2)
  have hturns : (turns.1.map (·.address) ++ turns.2) ~ w.registry.valid :=
    perm_overInstances w.registry.valid (opened kind w)
  have hnil : turns.2 = [] := by
    have hlength := hturns.length_eq
    rw [List.length_append, haddresses] at hlength
    exact List.eq_nil_of_length_eq_zero (by omega)
  show w.registry.invalid ++ turns.2 = w.registry.invalid
  rw [hnil, List.append_nil]

/-! ## Calls -/

omit [Item α] in
/-- No call of a pass on an instance names another. -/
theorem bears_issues {P : Call → Prop} (hkind : kind.OnlyAsks)
    (h : ∀ operation, P ⟨a, operation⟩) : Bears (Issues P) ctx kind a where
  asks := hkind
  reading :=
    ⟨fun _ _ => issues_of_calls_eq rfl, fun q _ => issues_of_calls_append rfl (h (.query q))⟩
  change _ _ _ m _ _ := issues_of_calls_append rfl (h (.mutation m))

/-- **Every call of a pass** names a configured address that is valid when the
    pass starts. -/
theorem issues_perform (hkind : kind.OnlyAsks) (w : World σ) :
    Issues (fun call => call.address ∈ w.registry.valid) w ((perform ctx kind).after w) := by
  have hopened : Issues (fun call => call.address ∈ w.registry.valid) w (opened kind w) :=
    issues_of_calls_eq rfl
  refine trans_of (Issues _) hopened ?_
  exact keeps_overInstances (fun _ _ => issues_of_calls_eq rfl) (fun _ _ => issues_of_calls_eq rfl)
    (fun b hb => bears_issues hkind fun _ => hb) (opened kind w)

end Pass

end Concord
