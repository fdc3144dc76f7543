/-
  The difference of any two lists, position by position.

  Keys may be repeated on both sides.  The first desired item of a key is paired
  with the last observed item of that key, and no other items are: a second
  desired item of a key is created, and observed items before the last of a key
  are deleted.

  * `FirstAt`, `LastAt`, `Partners`: which positions are paired.
  * `judge_judged`, `candidates_eq_finRange`: the pairing of the comparison.
  * `Diff.ByPartners`: the four parts of a difference by the paired positions.
  * `Diff.decided_by_partners`: the difference of any two lists.
-/
import Mathlib.Data.List.FinRange
import Mathlib.Data.List.Indexes
import Concord.Proofs.Diff.Repetition
import Concord.Proofs.Diff.Script

namespace Concord

variable {α : Type} [Item α] {ds xs : List α}

/-! ## Positions -/

/-- A desired item is the first one of its key. -/
def FirstAt (ds : List α) (i : Fin ds.length) : Prop :=
  ∀ i', i' < i → Item.key ds[i'] ≠ Item.key ds[i]

/-- An observed item is the last one of its key. -/
def LastAt (xs : List α) (j : Fin xs.length) : Prop :=
  ∀ j', j < j' → Item.key xs[j'] ≠ Item.key xs[j]

/-- The first desired item of a key and the last observed one. -/
structure Partners (ds xs : List α) (i : Fin ds.length) (j : Fin xs.length) : Prop where
  key : Item.key xs[j] = Item.key ds[i]
  first : FirstAt ds i
  last : LastAt xs j

instance (ds : List α) : DecidablePred (FirstAt ds) :=
  fun _ => inferInstanceAs (Decidable (∀ _, _))

instance (xs : List α) : DecidablePred (LastAt xs) :=
  fun _ => inferInstanceAs (Decidable (∀ _, _))

instance (ds xs : List α) (i : Fin ds.length) (j : Fin xs.length) :
    Decidable (Partners ds xs i j) :=
  decidable_of_iff (Item.key xs[j] = Item.key ds[i] ∧ FirstAt ds i ∧ LastAt xs j)
    ⟨fun ⟨hkey, hfirst, hlast⟩ => ⟨hkey, hfirst, hlast⟩, fun h => ⟨h.key, h.first, h.last⟩⟩

/-- The items at the positions with a property, in order. -/
def itemsAt (xs : List α) (p : Fin xs.length → Prop) [DecidablePred p] : List α :=
  ((List.finRange xs.length).filter fun j => p j).map fun j => xs[j]

theorem LastAt.unique {j j' : Fin xs.length} (h : LastAt xs j) (h' : LastAt xs j')
    (heq : Item.key xs[j] = Item.key xs[j']) : j = j' := by
  rcases lt_trichotomy j j' with hlt | rfl | hgt
  · exact absurd heq.symm (h j' hlt)
  · rfl
  · exact absurd heq (h' j hgt)

theorem firstAt_iff {i : Fin ds.length} :
    FirstAt ds i ↔ Item.key ds[i] ∉ (ds.take i).map Item.key := by
  simp only [FirstAt, List.mem_map, List.mem_take_iff_getElem, not_exists, not_and]
  constructor
  · rintro h _ ⟨n, hn, rfl⟩ hkey
    exact h ⟨n, by omega⟩ (by rw [Fin.lt_def]; exact (Nat.lt_min.1 hn).1) hkey
  · intro h i' hlt hkey
    exact h _ ⟨i', Nat.lt_min.2 ⟨hlt, i'.isLt⟩, rfl⟩ hkey

theorem firstAt_succ (d : α) (i : Fin ds.length) :
    FirstAt (d :: ds) i.succ ↔ Item.key d ≠ Item.key ds[i] ∧ FirstAt ds i := by
  simp [FirstAt, Fin.forall_fin_succ]

theorem lastAt_zero (x : α) (xs : List α) :
    LastAt (x :: xs) 0 ↔ ∀ y ∈ xs, Item.key y ≠ Item.key x := by
  simp [LastAt, Fin.forall_fin_succ, List.forall_mem_iff_getElem, Fin.forall_iff]

theorem lastAt_succ (x : α) (j : Fin xs.length) : LastAt (x :: xs) j.succ ↔ LastAt xs j := by
  simp [LastAt, Fin.forall_fin_succ]

/-- A key that is wanted is wanted for the first time somewhere. -/
theorem exists_firstAt {k : String} (h : k ∈ ds.map Item.key) :
    ∃ i, FirstAt ds i ∧ Item.key ds[i] = k := by
  induction ds with
  | nil => cases h
  | cons d ds ih =>
    by_cases hd : Item.key d = k
    · exact ⟨(0 : Fin (ds.length + 1)), fun i' hlt => absurd hlt (Fin.not_lt_zero i'), hd⟩
    · have hrest : k ∈ ds.map Item.key := (List.mem_cons.1 h).resolve_left (Ne.symm hd)
      obtain ⟨i, hfirst, hi⟩ := ih hrest
      exact ⟨i.succ, (firstAt_succ d i).2 ⟨hi ▸ hd, hfirst⟩, hi⟩

/-- A key that is observed is observed for the last time somewhere. -/
theorem exists_lastAt {k : String} (h : k ∈ xs.map Item.key) :
    ∃ j, LastAt xs j ∧ Item.key xs[j] = k := by
  induction xs with
  | nil => cases h
  | cons x xs ih =>
    by_cases hrest : k ∈ xs.map Item.key
    · obtain ⟨j, hlast, hj⟩ := ih hrest
      exact ⟨j.succ, (lastAt_succ x j).2 hlast, hj⟩
    · have hx : k = Item.key x := (List.mem_cons.1 h).resolve_right hrest
      refine ⟨(0 : Fin (xs.length + 1)), (lastAt_zero x xs).2 fun y hy hkey => ?_, hx.symm⟩
      exact hrest (hx ▸ hkey ▸ List.mem_map_of_mem hy)

theorem exists_partners_iff {i : Fin ds.length} :
    (∃ j, Partners ds xs i j) ↔ FirstAt ds i ∧ Item.key ds[i] ∈ xs.map Item.key := by
  constructor
  · rintro ⟨j, h⟩
    exact ⟨h.first, h.key ▸ List.mem_map_of_mem (List.getElem_mem j.isLt)⟩
  · rintro ⟨hfirst, hobserved⟩
    obtain ⟨j, hlast, hj⟩ := exists_lastAt hobserved
    exact ⟨j, hj, hfirst, hlast⟩

theorem exists_partners_iff' {j : Fin xs.length} :
    (∃ i, Partners ds xs i j) ↔ LastAt xs j ∧ Item.key xs[j] ∈ ds.map Item.key := by
  constructor
  · rintro ⟨i, h⟩
    exact ⟨h.last, h.key ▸ List.mem_map_of_mem (List.getElem_mem i.isLt)⟩
  · rintro ⟨hlast, hwanted⟩
    obtain ⟨i, hfirst, hi⟩ := exists_firstAt hwanted
    exact ⟨i, hi.symm, hfirst, hlast⟩

/-! ## The pairing of the comparison -/

/-- What is found is the only element with a property. -/
theorem find?_eq_some_of_unique {β : Type} {p : β → Bool} {l : List β} {b : β} (hb : b ∈ l)
    (hp : p b = true) (hunique : ∀ c, p c = true → c = b) : l.find? p = some b := by
  obtain ⟨c, hc⟩ := Option.isSome_iff_exists.1 (List.find?_isSome.2 ⟨b, hb, hp⟩)
  rw [hc, hunique c (List.find?_some hc)]

theorem candidates_eq_finRange (xs : List α) :
    candidates xs = (List.finRange xs.length).map fun j => ⟨xs[j], decide (LastAt xs j)⟩ := by
  induction xs with
  | nil => rfl
  | cons x xs ih =>
    have hhead : (xs.all fun y => Item.key y ≠ Item.key x) =
        decide (LastAt (x :: xs) (0 : Fin (xs.length + 1))) := by
      rw [Bool.eq_iff_iff, decide_eq_true_iff, lastAt_zero]
      simp
    have hpositions : List.finRange (x :: xs).length = 0 :: (List.finRange xs.length).map .succ :=
      List.finRange_succ
    rw [candidates, ih, hpositions, List.map_cons, List.map_map, hhead]
    refine congrArg (_ :: ·) (List.map_congr_left fun j _ => ?_)
    simp [lastAt_succ]

/-- The candidate of a key, if one may still be paired. -/
def offered (cs : List (Candidate α)) (k : String) : Option α :=
  (cs.find? fun c => c.available && Item.key c.item == k).map (·.item)

theorem claim_found (k : String) (cs : List (Candidate α)) : (claim k cs).1 = offered cs k := by
  induction cs with
  | nil => rfl
  | cons c cs ih =>
    rw [claim, offered, List.find?_cons]
    by_cases h : (c.available && Item.key c.item == k) = true
    · simp [h]
    · simp only [h, Bool.false_eq_true, if_false]
      exact ih

theorem offered_unclaimed (keys : List String) (cs : List (Candidate α)) (k : String) :
    offered (unclaimed keys cs) k = if k ∈ keys then none else offered cs k := by
  induction cs with
  | nil => simp [offered, unclaimed]
  | cons c cs ih =>
    by_cases hclaimed : c.Claimed keys
    · rw [unclaimed_cons_of_claimed hclaimed, ih]
      by_cases hk : k ∈ keys
      · rw [if_pos hk, if_pos hk]
      · have hne : Item.key c.item ≠ k := fun heq => hk (heq ▸ hclaimed.2)
        simp [hk, offered, hne]
    · rw [unclaimed_cons_of_not_claimed hclaimed, offered, List.find?_cons]
      by_cases hc : (c.available && Item.key c.item == k) = true
      · obtain ⟨havailable, hkey⟩ := Bool.and_eq_true_iff.1 hc
        have hk : k ∉ keys := fun hk => hclaimed ⟨havailable, (beq_iff_eq.1 hkey).symm ▸ hk⟩
        simp [hc, hk, offered]
      · simp only [hc]
        rw [← offered, ih]
        simp [offered, hc]

theorem unclaimed_unclaimed (keys : List String) (k : String) (cs : List (Candidate α)) :
    unclaimed [k] (unclaimed keys cs) = unclaimed (keys ++ [k]) cs := by
  rw [unclaimed, unclaimed, unclaimed, List.filter_filter]
  refine List.filter_congr fun c _ => ?_
  simp only [Candidate.Claimed, List.mem_append]
  grind

/-- The verdict on each desired item, where some keys are taken already: only
    the first item of a key gets what is offered. -/
theorem judge_judged {cs : List (Candidate α)} (h : Unambiguous cs) (keys : List String)
    (ds : List α) :
    (judge ds (unclaimed keys cs)).1 = ds.mapIdx fun i d =>
      (d, verdict d (if Item.key d ∈ keys ++ (ds.take i).map Item.key then none
        else offered cs (Item.key d))) := by
  induction ds generalizing keys with
  | nil => rfl
  | cons d ds ih =>
    have hrest : Unambiguous (unclaimed keys cs) := h.filter _
    rw [judge, List.mapIdx_cons]
    dsimp only
    rw [claim_found, offered_unclaimed, claim_left _ hrest, unclaimed_unclaimed, ih]
    refine congrArg₂ List.cons (by simp) (congrArg (List.mapIdx · ds) ?_)
    funext i e
    simp

/-! ## Partners -/

/-- The observed item that a desired one is paired with. -/
def partnerAt (ds xs : List α) (i : Fin ds.length) : Option α :=
  if FirstAt ds i then offered (candidates xs) (Item.key ds[i]) else none

theorem offered_candidates_eq_some_iff {k : String} {x : α} :
    offered (candidates xs) k = some x ↔ ∃ j, LastAt xs j ∧ Item.key xs[j] = k ∧ xs[j] = x := by
  rw [offered, candidates_eq_finRange, List.find?_map, Option.map_map, Option.map_eq_some_iff]
  constructor
  · rintro ⟨j, hj, rfl⟩
    have hfound := List.find?_some hj
    simp only [Function.comp_apply, Bool.and_eq_true, decide_eq_true_eq, beq_iff_eq] at hfound
    exact ⟨j, hfound.1, hfound.2, rfl⟩
  · rintro ⟨j, hlast, hkey, rfl⟩
    refine ⟨j, find?_eq_some_of_unique (List.mem_finRange j) ?_ fun j' hj' => ?_, rfl⟩
    · simpa using ⟨hlast, hkey⟩
    · simp only [Function.comp_apply, Bool.and_eq_true, decide_eq_true_eq, beq_iff_eq] at hj'
      exact hj'.1.unique hlast (hj'.2.trans hkey.symm)

theorem partnerAt_eq_some_iff {i : Fin ds.length} {x : α} :
    partnerAt ds xs i = some x ↔ ∃ j, Partners ds xs i j ∧ xs[j] = x := by
  unfold partnerAt
  split
  · rename_i hfirst
    rw [offered_candidates_eq_some_iff]
    constructor
    · rintro ⟨j, hlast, hkey, hx⟩
      exact ⟨j, ⟨hkey, hfirst, hlast⟩, hx⟩
    · rintro ⟨j, h, hx⟩
      exact ⟨j, h.last, h.key, hx⟩
  · rename_i hlater
    simp only [reduceCtorEq, false_iff, not_exists, not_and]
    exact fun j h => absurd h.first hlater

theorem partnerAt_eq_none_iff {i : Fin ds.length} :
    partnerAt ds xs i = none ↔ ∀ j, ¬ Partners ds xs i j := by
  rw [Option.eq_none_iff_forall_ne_some]
  simp only [ne_eq, partnerAt_eq_some_iff]
  exact ⟨fun h j hj => h xs[j] ⟨j, hj, rfl⟩, fun h x ⟨j, hj, _⟩ => h j hj⟩

namespace Diff

/-- The desired items of a verdict, by their positions. -/
theorem withVerdict_judge (v : Verdict) (ds xs : List α) :
    withVerdict v (judge ds (candidates xs)).1 =
      itemsAt ds fun i => verdict ds[i] (partnerAt ds xs i) = v := by
  have hnone : unclaimed [] (candidates xs) = candidates xs := by
    simp [unclaimed, Candidate.Claimed]
  have hpartner : ∀ i : Fin ds.length, (if Item.key ds[i] ∈ [] ++ (ds.take i).map Item.key then none
      else offered (candidates xs) (Item.key ds[i])) = partnerAt ds xs i := fun i => by
    rw [partnerAt, List.nil_append]
    simp only [firstAt_iff, ite_not]
  have hjudged : (judge ds (candidates xs)).1 =
      (List.finRange ds.length).map fun i => (ds[i], verdict ds[i] (partnerAt ds xs i)) := by
    have hjudge := judge_judged (unambiguous_candidates xs) [] ds
    rw [hnone, List.mapIdx_eq_ofFn, List.ofFn_eq_map] at hjudge
    rw [hjudge]
    refine List.map_congr_left fun i _ => ?_
    rw [← hpartner i]
    rfl
  rw [hjudged, withVerdict_map, itemsAt]

/-- What a difference is by the paired positions. -/
structure ByPartners (ds xs : List α) (d : Diff α) : Prop where
  toCreate : d.toCreate = itemsAt ds fun i => ∀ j, ¬ Partners ds xs i j
  toUpdate : d.toUpdate = itemsAt ds fun i =>
    ∃ j, Partners ds xs i j ∧ Item.agrees ds[i] xs[j] = false
  unchanged : d.unchanged = (itemsAt ds fun i =>
    ∃ j, Partners ds xs i j ∧ Item.agrees ds[i] xs[j] = true).map Item.key
  toDelete : d.toDelete = itemsAt xs fun j => ∀ i, ¬ Partners ds xs i j

omit [Item α] in
theorem itemsAt_congr {p q : Fin xs.length → Prop} [DecidablePred p] [DecidablePred q]
    (h : ∀ j, p j ↔ q j) : itemsAt xs p = itemsAt xs q := by
  rw [itemsAt, itemsAt]
  exact congrArg (List.map _) (List.filter_congr fun j _ => decide_eq_decide.2 (h j))

theorem byPartners_of (ds xs : List α) : (Diff.of ds xs).ByPartners ds xs where
  toCreate := (withVerdict_judge .create ds xs).trans (itemsAt_congr fun i => by
    rw [verdict_eq_create_iff, partnerAt_eq_none_iff])
  toUpdate := (withVerdict_judge .update ds xs).trans (itemsAt_congr fun i => by
    simp only [verdict_eq_update_iff, partnerAt_eq_some_iff, exists_exists_and_eq_and])
  unchanged := congrArg (List.map Item.key) <| (withVerdict_judge .keep ds xs).trans
    (itemsAt_congr fun i => by
      simp only [verdict_eq_keep_iff, partnerAt_eq_some_iff, exists_exists_and_eq_and])
  toDelete := by
    have hleft : (Diff.of ds xs).toDelete =
        (unclaimed (ds.map Item.key) (candidates xs)).map (·.item) :=
      judge_left ds (unambiguous_candidates xs)
    rw [hleft, unclaimed, candidates_eq_finRange, List.filter_map, List.map_map]
    refine itemsAt_congr fun j => ?_
    rw [← not_exists, exists_partners_iff']
    simp [Candidate.Claimed]

/-! ## Lists without repeated keys -/

/-- What the difference of two lists without repeated keys is. -/
structure Parted (ds xs : List α) (d : Diff α) : Prop where
  toCreate : d.toCreate = ds.filter fun x => Item.key x ∉ xs.map Item.key
  toDelete : d.toDelete = xs.filter fun x => Item.key x ∉ ds.map Item.key
  /-- Items of one key are in sync or not, and nothing else happens to them. -/
  shared : ∀ x ∈ ds, ∀ y ∈ xs, Item.key x = Item.key y →
    (x ∈ d.toUpdate ↔ Item.agrees x y = false) ∧
      (Item.key x ∈ d.unchanged ↔ Item.agrees x y = true) ∧
      Item.key x ∉ d.toCreate.map Item.key ∧ Item.key x ∉ d.toDelete.map Item.key

theorem notMem_keys_filter {k : String} {keys : List String} (h : k ∈ keys) :
    k ∉ (xs.filter fun x => Item.key x ∉ keys).map Item.key := by
  intro hmem
  obtain ⟨x, hx, rfl⟩ := List.mem_map.1 hmem
  exact of_decide_eq_true (List.mem_filter.1 hx).2 h

theorem parted_of (hd : (ds.map Item.key).Nodup) (hx : (xs.map Item.key).Nodup) :
    (Diff.of ds xs).Parted ds xs := by
  have hcreate : (Diff.of ds xs).toCreate = ds.filter fun x => Item.key x ∉ xs.map Item.key := by
    rw [of_eq hd hx]
    refine List.filter_congr fun x _ => ?_
    simp only [verdict_eq_create_iff, partner_eq_none_iff]
  have hdelete : (Diff.of ds xs).toDelete = xs.filter fun x => Item.key x ∉ ds.map Item.key := by
    rw [of_eq hd hx]
  refine ⟨hcreate, hdelete, fun x hxd y hy hkey => ⟨?_, ?_, ?_, ?_⟩⟩
  · have hpartner := (partner_eq_some_iff hx).2 ⟨hy, hkey.symm⟩
    simp [of_eq hd hx, hxd, hpartner, verdict_eq_update_iff]
  · have hpartner := (partner_eq_some_iff hx).2 ⟨hy, hkey.symm⟩
    rw [of_eq hd hx]
    dsimp only
    rw [mem_keys_filter_iff hd, (partner_eq_some_iff hd).2 ⟨hxd, rfl⟩]
    simp [hpartner, verdict_eq_keep_iff]
  · rw [hcreate, hkey]
    exact notMem_keys_filter (List.mem_map_of_mem hy)
  · rw [hdelete]
    exact notMem_keys_filter (List.mem_map_of_mem hxd)

/-- **The difference of any two lists.**  A desired item has a partner exactly
    if none before it has its key and the key is observed, and the partner is
    the last observed item of the key.  Desired items without a partner are
    created, those that disagree with theirs are updated, the others stay; and
    observed items that are nobody's partner are deleted.  So without repeated
    keys each key is decided on its own. -/
theorem decided_by_partners (ds xs : List α) :
    (∀ i, (∃ j, Partners ds xs i j) ↔
        (∀ i', i' < i → Item.key ds[i'] ≠ Item.key ds[i]) ∧ Item.key ds[i] ∈ xs.map Item.key) ∧
      (∀ i j, Partners ds xs i j → Item.key xs[j] = Item.key ds[i] ∧
        ∀ j', j < j' → Item.key xs[j'] ≠ Item.key ds[i]) ∧
      (Diff.of ds xs).ByPartners ds xs ∧
      ((ds.map Item.key).Nodup → (xs.map Item.key).Nodup → (Diff.of ds xs).Parted ds xs) := by
  refine ⟨fun i => exists_partners_iff, fun i j h => ⟨h.key, fun j' hlt => ?_⟩,
    byPartners_of ds xs, parted_of⟩
  exact h.key ▸ h.last j' hlt

theorem decided_by_partners_policies :
    let policy : String → String → Policy := fun name rules => ⟨name, rules, "acl", "", "http://a"⟩
    let ds := [policy "app" "read", policy "dev" "write", policy "ops" "list"]
    let xs := [policy "dev" "read", policy "old" "list", policy "ops" "list"]
    (ds.map Item.key).Nodup ∧ (xs.map Item.key).Nodup ∧ (Diff.of ds xs).Parted ds xs ∧
      (Diff.of ds xs).toCreate = [policy "app" "read"] ∧
      (Diff.of ds xs).toUpdate = [policy "dev" "write"] ∧
      (Diff.of ds xs).toDelete = [policy "old" "list"] ∧ (Diff.of ds xs).unchanged = ["ops"] := by
  intro policy ds xs
  have hd : (ds.map Item.key).Nodup := by decide
  have hx : (xs.map Item.key).Nodup := by decide
  obtain ⟨-, -, -, hparted⟩ := decided_by_partners ds xs
  exact ⟨hd, hx, hparted hd hx, by decide, by decide, by decide, by decide⟩

/-- A key that is wanted twice and observed twice. -/
example :
    let policy : String → String → Policy := fun name rules => ⟨name, rules, "acl", "", "http://a"⟩
    let diff := Diff.of [policy "dev" "read", policy "dev" "write"]
      [policy "dev" "write", policy "old" "list", policy "dev" "read"]
    diff.toCreate = [policy "dev" "write"] ∧ diff.toUpdate = [] ∧ diff.unchanged = ["dev"] ∧
      diff.toDelete = [policy "dev" "write", policy "old" "list"] := by
  decide

end Diff

end Concord
