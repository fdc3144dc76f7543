/-
  Accepted documents: what the rules of a document promise to a run.

  The accepted documents are those that are well formed.

  * `accepted_iff_wellFormed`.
  * `Accepted.nodup_addresses`: no instance is listed twice.
  * `Accepted.nodup_audits`, `nodup_engines`, `nodup_policies`: no two objects
    of a kind have one key on one instance.
-/
import Mathlib.Data.List.Nodup
import Concord.Proofs.Config.Checks

namespace Concord.Config

variable {c : Config}

/-- A document that breaks no rule. -/
def Accepted (c : Config) : Prop := ∃ warnings, c.validate = .ok warnings

theorem accepted_iff_wellFormed : c.Accepted ↔ c.WellFormed := by
  rw [← problems_eq_nil_iff, Accepted, validate]
  cases c.problems <;> simp

theorem Accepted.nodup_addresses (h : c.Accepted) : c.addresses.Nodup :=
  (accepted_iff_wellFormed.1 h).addresses

/-- What belongs to one instance repeats no key if no instance has a key
    twice. -/
theorem nodup_of_address {γ : Type} {address key : γ → String} {ys : List γ}
    (h : (ys.map fun y => (address y, key y)).Nodup) (a : String) :
    ((ys.filter fun y => address y = a).map key).Nodup := by
  have hsub := h.sublist (List.filter_sublist (p := fun y => address y = a).map _)
  have hpair : ((ys.filter fun y => address y = a).map fun y => (address y, key y)) =
      ((ys.filter fun y => address y = a).map key).map fun k => (a, k) := by
    rw [List.map_map]
    refine List.map_congr_left fun y hy => ?_
    have ha : address y = a := by simpa using (List.mem_filter.1 hy).2
    exact Prod.ext ha rfl
  exact List.Nodup.of_map _ (hpair ▸ hsub)

theorem Accepted.nodup_audits (h : c.Accepted) (a : String) :
    ((Backend.onInstance (c.audits.map Backend.ofSpec) a).map (·.path)).Nodup := by
  refine nodup_of_address ?_ a
  rw [List.map_map]
  exact (accepted_iff_wellFormed.1 h).auditKeys

theorem Accepted.nodup_engines (h : c.Accepted) (a : String) :
    ((Backend.onInstance (c.engines.map Backend.ofSpec) a).map (·.path)).Nodup := by
  refine nodup_of_address ?_ a
  rw [List.map_map]
  exact (accepted_iff_wellFormed.1 h).engineKeys

theorem Accepted.nodup_policies (h : c.Accepted) (a : String) :
    ((Policy.onInstance (c.policies.map Policy.ofSpec) a).map (·.name)).Nodup := by
  refine nodup_of_address ?_ a
  rw [List.map_map]
  exact (accepted_iff_wellFormed.1 h).policyKeys

end Concord.Config
