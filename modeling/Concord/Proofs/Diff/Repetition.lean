/-
  The difference where keys are repeated.

  Only the last observed item of a key may be paired, and once.  So whatever
  else is wanted or observed, the observed items of a wanted key but the last
  have no partner, and are to be deleted like those of a key that nobody wants.

  * `Unambiguous`: candidates of which one of each key at most may be paired.
  * `judge_left`: the observed items that are left over.
  * `Diff.count_toDelete`: how many items of a key are to be deleted.
-/
import Mathlib.Data.List.Basic
import Concord.Diff

namespace Concord

variable {α : Type} [Item α]

/-- At most one candidate of each key may be paired. -/
def Unambiguous (cs : List (Candidate α)) : Prop :=
  cs.Pairwise fun c c' => c.available = true → c'.available = true →
    Item.key c.item ≠ Item.key c'.item

theorem mem_of_mem_candidates {c : Candidate α} {xs : List α} (h : c ∈ candidates xs) :
    c.item ∈ xs := by
  induction xs with
  | nil => cases h
  | cons x xs ih =>
    rcases List.mem_cons.1 h with rfl | h
    · exact List.mem_cons_self
    · exact List.mem_cons_of_mem _ (ih h)

theorem unambiguous_candidates (xs : List α) : Unambiguous (candidates xs) := by
  induction xs with
  | nil => exact .nil
  | cons x xs ih =>
    refine List.pairwise_cons.2 ⟨fun c hc hlast _ heq => ?_, ih⟩
    have hother := List.all_eq_true.1 hlast c.item (mem_of_mem_candidates hc)
    exact of_decide_eq_true hother heq.symm

/-- A candidate that is paired when items of some keys are wanted. -/
def Candidate.Claimed (keys : List String) (c : Candidate α) : Prop :=
  c.available = true ∧ Item.key c.item ∈ keys

instance (keys : List String) (c : Candidate α) : Decidable (c.Claimed keys) :=
  inferInstanceAs (Decidable (_ ∧ _))

/-- The candidates that are not paired when items of some keys are wanted. -/
def unclaimed (keys : List String) (cs : List (Candidate α)) : List (Candidate α) :=
  cs.filter fun c => ¬ c.Claimed keys

theorem unclaimed_cons_of_claimed {keys : List String} {c : Candidate α} (h : c.Claimed keys)
    (cs : List (Candidate α)) : unclaimed keys (c :: cs) = unclaimed keys cs :=
  List.filter_cons_of_neg (by simpa using h)

theorem unclaimed_cons_of_not_claimed {keys : List String} {c : Candidate α}
    (h : ¬ c.Claimed keys) (cs : List (Candidate α)) :
    unclaimed keys (c :: cs) = c :: unclaimed keys cs :=
  List.filter_cons_of_pos (decide_eq_true h)

theorem claim_left (k : String) {cs : List (Candidate α)} (h : Unambiguous cs) :
    (claim k cs).2 = unclaimed [k] cs := by
  induction cs with
  | nil => rfl
  | cons c cs ih =>
    obtain ⟨hc, hcs⟩ := List.pairwise_cons.1 h
    have hiff : (c.available && Item.key c.item == k) = true ↔ c.Claimed [k] := by
      simp [Candidate.Claimed]
    rw [claim]
    by_cases hclaimed : c.Claimed [k]
    · -- no other candidate of the key may be paired
      have hrest : unclaimed [k] cs = cs := by
        refine List.filter_eq_self.2 fun c' hc' => decide_eq_true fun hclaimed' => ?_
        refine hc c' hc' hclaimed.1 hclaimed'.1 ?_
        rw [List.mem_singleton.1 hclaimed.2, List.mem_singleton.1 hclaimed'.2]
      rw [if_pos (hiff.2 hclaimed), unclaimed_cons_of_claimed hclaimed, hrest]
    · rw [if_neg (hiff.not.2 hclaimed), unclaimed_cons_of_not_claimed hclaimed]
      exact congrArg (c :: ·) (ih hcs)

/-- The observed items that are left over, whatever repetitions there are. -/
theorem judge_left (ds : List α) {cs : List (Candidate α)} (h : Unambiguous cs) :
    (judge ds cs).2 = (unclaimed (ds.map Item.key) cs).map (·.item) := by
  induction ds generalizing cs with
  | nil => simp [judge, unclaimed, Candidate.Claimed]
  | cons d ds ih =>
    have hrest : Unambiguous (unclaimed [Item.key d] cs) := h.filter _
    rw [judge]
    dsimp only
    rw [claim_left _ h, ih hrest, unclaimed, unclaimed, List.filter_filter]
    refine congrArg (List.map _) (List.filter_congr fun c _ => ?_)
    simp only [Candidate.Claimed, List.map_cons, List.mem_cons]
    grind

theorem count_unclaimed (keys : List String) (xs : List α) (k : String) :
    (((unclaimed keys (candidates xs)).map (·.item)).map Item.key).count k =
      if k ∈ keys then (xs.map Item.key).count k - 1 else (xs.map Item.key).count k := by
  induction xs with
  | nil => simp [candidates, unclaimed]
  | cons x xs ih =>
    have hlast : (xs.all fun y => Item.key y ≠ Item.key x) = true ↔
        (xs.map Item.key).count (Item.key x) = 0 := by
      rw [List.count_eq_zero]
      simp
    rw [candidates, List.map_cons, List.count_cons]
    by_cases hclaimed : Candidate.Claimed keys ⟨x, xs.all fun y => Item.key y ≠ Item.key x⟩
    · obtain ⟨hall, hkey⟩ := id hclaimed
      rw [unclaimed_cons_of_claimed hclaimed, ih]
      by_cases hk : Item.key x = k
      · subst hk
        have hkey' : Item.key x ∈ keys := hkey
        simp [hkey', hlast.1 hall]
      · simp [hk]
    · rw [unclaimed_cons_of_not_claimed hclaimed, List.map_cons, List.map_cons, List.count_cons, ih]
      by_cases hk : Item.key x = k
      · subst hk
        by_cases hkey : Item.key x ∈ keys
        · -- another item of the key comes later
          have hpos : (xs.map Item.key).count (Item.key x) ≠ 0 := fun h =>
            hclaimed ⟨hlast.2 h, hkey⟩
          simp only [hkey, if_true, beq_self_eq_true]
          omega
        · simp [hkey]
      · simp [hk]

/-- **How many items of a key are to be deleted**: all that are observed, but
    for the last one of a wanted key. -/
theorem Diff.count_toDelete (ds xs : List α) (k : String) :
    ((Diff.of ds xs).toDelete.map Item.key).count k =
      if k ∈ ds.map Item.key then (xs.map Item.key).count k - 1
      else (xs.map Item.key).count k := by
  have hleft : (Diff.of ds xs).toDelete =
      (unclaimed (ds.map Item.key) (candidates xs)).map (·.item) :=
    judge_left ds (unambiguous_candidates xs)
  rw [hleft, count_unclaimed]

end Concord
