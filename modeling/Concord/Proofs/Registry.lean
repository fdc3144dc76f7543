/-
  The registry of instances: which addresses are valid after each operation.

  * `isValid_markInvalid`, `isValid_reset`.
  * `mem_valid_iff`, `invalid_eq_nil_iff`: the two halves of the configured
    list.
-/
import Mathlib.Data.List.Basic
import Concord.Registry

namespace Concord.Registry

variable {r : Registry} {a b : String}

theorem isValid_iff : r.isValid a = true ↔ a ∉ r.marked := by
  simp [isValid]

theorem isValid_markInvalid (r : Registry) (a b : String) :
    (r.markInvalid a).isValid b = true ↔ r.isValid b = true ∧ b ≠ a := by
  unfold markInvalid
  split
  · simp [isValid_iff]
  · rename_i h
    constructor
    · intro hb
      refine ⟨hb, ?_⟩
      rintro rfl
      exact h hb
    · exact And.left

@[simp] theorem configured_markInvalid (r : Registry) (a : String) :
    (r.markInvalid a).configured = r.configured := by
  unfold markInvalid
  split <;> rfl

@[simp] theorem configured_reset (r : Registry) : r.reset.configured = r.configured := rfl

@[simp] theorem isValid_reset (r : Registry) (a : String) : r.reset.isValid a = true := rfl

theorem mem_valid_iff : a ∈ r.valid ↔ a ∈ r.configured ∧ r.isValid a = true := List.mem_filter

/-- No instance is left out of the valid ones just if none is invalid. -/
theorem invalid_eq_nil_iff : r.invalid = [] ↔ ∀ a ∈ r.configured, r.isValid a = true := by
  simp [invalid]

end Concord.Registry
