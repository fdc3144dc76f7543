/-
  The difference of lists without repeated keys.

  When no two desired and no two observed items share a key, every observed
  item stays available until the one desired item of its key asks for it: the
  verdict on a desired item depends on the item and on its partner only.

  * `Diff.of_eq`: the four parts of the difference as filters of the two lists.
  * `verdict_eq_create_iff` and the like: the parts by partners.
  * `Diff.nodup_changedKeys`: no key is changed twice.
-/
import Mathlib.Data.List.Nodup
import Concord.Diff

namespace Concord

variable {α : Type} [Item α]

/-- The item of a key. -/
def partner (observed : List α) (key : String) : Option α :=
  observed.find? fun x => Item.key x == key

/-- An item that may be paired. -/
def Candidate.offer (x : α) : Candidate α := ⟨x, true⟩

/-! ## Partners -/

theorem partner_cons (x : α) (xs : List α) (k : String) :
    partner (x :: xs) k = if Item.key x = k then some x else partner xs k := by
  by_cases h : Item.key x = k <;> simp [partner, h]

theorem partner_eq_none_iff {xs : List α} {k : String} :
    partner xs k = none ↔ k ∉ xs.map Item.key := by
  simp [partner]

theorem key_of_partner {xs : List α} {k : String} {x : α} (h : partner xs k = some x) :
    Item.key x = k := by
  simpa using List.find?_some h

/-- Among items without a repeated key a partner is any item of the key. -/
theorem partner_eq_some_iff {xs : List α} (hx : (xs.map Item.key).Nodup) {k : String} {x : α} :
    partner xs k = some x ↔ x ∈ xs ∧ Item.key x = k := by
  induction xs with
  | nil => simp [partner]
  | cons y ys ih =>
    obtain ⟨hy, hys⟩ := List.nodup_cons.1 hx
    rw [partner_cons, List.mem_cons]
    by_cases h : Item.key y = k
    · rw [if_pos h, Option.some.injEq]
      constructor
      · rintro rfl
        exact ⟨Or.inl rfl, h⟩
      · rintro ⟨rfl | hm, hk⟩
        · rfl
        · exact absurd (List.mem_map.2 ⟨x, hm, hk.trans h.symm⟩) hy
    · rw [if_neg h, ih hys]
      constructor
      · rintro ⟨hm, hk⟩
        exact ⟨Or.inr hm, hk⟩
      · rintro ⟨rfl | hm, hk⟩
        · exact absurd hk h
        · exact ⟨hm, hk⟩

theorem partner_append (xs ys : List α) (k : String) :
    partner (xs ++ ys) k = (partner xs k).or (partner ys k) :=
  List.find?_append

/-- A change of items that keeps their keys. -/
theorem partner_map {f : α → α} (hf : ∀ x, Item.key (f x) = Item.key x) (xs : List α)
    (k : String) : partner (xs.map f) k = (partner xs k).map f := by
  have hsame : (fun y => Item.key y == k) ∘ f = fun x => Item.key x == k :=
    funext fun x => congrArg (· == k) (hf x)
  rw [partner, List.find?_map, hsame, partner]

/-- A choice of items by their keys. -/
theorem partner_filter (p : String → Bool) (xs : List α) (k : String) :
    partner (xs.filter fun x => p (Item.key x)) k = if p k then partner xs k else none := by
  induction xs with
  | nil => simp [partner]
  | cons x xs ih =>
    rw [List.filter_cons, partner_cons]
    by_cases hx : Item.key x = k
    · subst hx
      by_cases hp : p (Item.key x) = true <;> simp [hp, ih, partner_cons]
    · by_cases hp : p (Item.key x) = true <;> simp [hp, ih, partner_cons, hx]

theorem partner_filter_ne {xs : List α} {k k' : String} (h : k' ≠ k) :
    partner (xs.filter fun x => Item.key x ≠ k) k' = partner xs k' :=
  (partner_filter (fun key => key ≠ k) xs k').trans (if_pos (by simpa using h))

/-! ## Pairing -/

theorem candidates_eq {xs : List α} (hx : (xs.map Item.key).Nodup) :
    candidates xs = xs.map Candidate.offer := by
  induction xs with
  | nil => rfl
  | cons x xs ih =>
    obtain ⟨hn, hxs⟩ := List.nodup_cons.1 hx
    have havail : (xs.all fun y => Item.key y ≠ Item.key x) = true :=
      List.all_eq_true.2 fun y hy => decide_eq_true fun h => hn (h ▸ List.mem_map_of_mem hy)
    rw [candidates, ih hxs, havail]
    rfl

/-- What is claimed is the partner, and it is claimed once. -/
theorem claim_eq (k : String) {xs : List α} (hx : (xs.map Item.key).Nodup) :
    claim k (xs.map Candidate.offer) =
      (partner xs k, (xs.filter fun x => Item.key x ≠ k).map Candidate.offer) := by
  induction xs with
  | nil => rfl
  | cons x xs ih =>
    obtain ⟨hn, hxs⟩ := List.nodup_cons.1 hx
    rw [List.map_cons, claim, partner_cons]
    by_cases h : Item.key x = k
    · have hrest : xs.filter (fun y => Item.key y ≠ k) = xs :=
        List.filter_eq_self.2 fun y hy =>
          decide_eq_true fun hk => hn (List.mem_map.2 ⟨y, hy, hk.trans h.symm⟩)
      rw [List.filter_cons_of_neg (by simp [h]), hrest]
      simp [Candidate.offer, h]
    · rw [List.filter_cons_of_pos (by simp [h]), ih hxs]
      simp [Candidate.offer, h]

theorem judge_eq {ds xs : List α} (hd : (ds.map Item.key).Nodup) (hx : (xs.map Item.key).Nodup) :
    judge ds (xs.map Candidate.offer) =
      (ds.map fun d => (d, verdict d (partner xs (Item.key d))),
        xs.filter fun x => Item.key x ∉ ds.map Item.key) := by
  induction ds generalizing xs with
  | nil => simp [judge, Candidate.offer, Function.comp_def]
  | cons d ds ih =>
    obtain ⟨hn, hds⟩ := List.nodup_cons.1 hd
    have hfilter : ((xs.filter fun x => Item.key x ≠ Item.key d).map Item.key).Nodup :=
      hx.sublist (List.filter_sublist.map _)
    rw [judge, claim_eq _ hx]
    dsimp only
    rw [ih hds hfilter, List.filter_filter]
    have hjudged : ∀ e ∈ ds, partner (xs.filter fun x => Item.key x ≠ Item.key d) (Item.key e) =
        partner xs (Item.key e) := fun e he =>
      partner_filter_ne fun h => hn (h ▸ List.mem_map_of_mem he)
    refine Prod.ext ?_ ?_
    · refine congrArg (_ :: ·) (List.map_congr_left fun e he => ?_)
      rw [hjudged e he]
    · refine List.filter_congr fun x _ => ?_
      simp [Bool.and_comm, not_or]

theorem map_fst_judge (ds : List α) (cs : List (Candidate α)) :
    (judge ds cs).1.map Prod.fst = ds := by
  induction ds generalizing cs with
  | nil => rfl
  | cons d ds ih =>
    rw [judge, List.map_cons]
    exact congrArg (d :: ·) (ih _)

/-! ## Verdicts -/

theorem verdict_eq_create_iff {d : α} {p : Option α} : verdict d p = .create ↔ p = none := by
  cases p with
  | none => simp [verdict]
  | some x => cases h : Item.agrees d x <;> simp [verdict, h]

theorem verdict_eq_update_iff {d : α} {p : Option α} :
    verdict d p = .update ↔ ∃ x, p = some x ∧ Item.agrees d x = false := by
  cases p with
  | none => simp [verdict]
  | some x => cases h : Item.agrees d x <;> simp [verdict, h]

theorem verdict_eq_keep_iff {d : α} {p : Option α} :
    verdict d p = .keep ↔ ∃ x, p = some x ∧ Item.agrees d x = true := by
  cases p with
  | none => simp [verdict]
  | some x => cases h : Item.agrees d x <;> simp [verdict, h]

namespace Diff

omit [Item α] in
/-- The desired items of a verdict, where items and verdicts are given by
    something else. -/
theorem withVerdict_map {β : Type} (v : Verdict) (item : β → α) (f : β → Verdict) (bs : List β) :
    withVerdict v (bs.map fun b => (item b, f b)) = (bs.filter fun b => f b = v).map item := by
  induction bs with
  | nil => rfl
  | cons b bs ih =>
    rw [List.map_cons, withVerdict, List.filterMap_cons]
    by_cases h : f b = v
    · rw [List.filter_cons_of_pos (by simp [h]), List.map_cons, ← ih]
      simp [h, withVerdict]
    · rw [List.filter_cons_of_neg (by simp [h]), ← ih]
      simp [h, withVerdict]

/-- Whatever lists are compared, what is created or updated was desired. -/
theorem mem_of_mem_withVerdict {v : Verdict} {ds : List α} {cs : List (Candidate α)} {x : α}
    (h : x ∈ withVerdict v (judge ds cs).1) : x ∈ ds := by
  obtain ⟨⟨y, w⟩, hy, hx⟩ := List.mem_filterMap.1 h
  dsimp only at hx
  split at hx <;> cases hx
  exact map_fst_judge ds cs ▸ List.mem_map_of_mem hy

/-- **The difference of lists without repeated keys.** -/
theorem of_eq {ds xs : List α} (hd : (ds.map Item.key).Nodup) (hx : (xs.map Item.key).Nodup) :
    Diff.of ds xs =
      { toCreate := ds.filter fun d => verdict d (partner xs (Item.key d)) = .create
        toUpdate := ds.filter fun d => verdict d (partner xs (Item.key d)) = .update
        toDelete := xs.filter fun x => Item.key x ∉ ds.map Item.key
        unchanged :=
          (ds.filter fun d => verdict d (partner xs (Item.key d)) = .keep).map Item.key } := by
  unfold Diff.of
  rw [candidates_eq hx, judge_eq hd hx]
  simp only [withVerdict_map, List.map_id']

/-- The keys that a difference changes. -/
def changedKeys (d : Diff α) : List String :=
  d.toCreate.map Item.key ++ (d.toUpdate.map Item.key ++ d.toDelete.map Item.key)

theorem length_changedKeys (d : Diff α) : d.changedKeys.length = d.totalChanges := by
  simp [changedKeys, totalChanges, Nat.add_assoc]

/-- No key is changed twice. -/
theorem nodup_changedKeys {ds xs : List α} (hd : (ds.map Item.key).Nodup)
    (hx : (xs.map Item.key).Nodup) : (Diff.of ds xs).changedKeys.Nodup := by
  rw [of_eq hd hx, changedKeys]
  dsimp only
  have hwanted : ∀ d ∈ ds, ∀ key ∈ (xs.filter fun x => Item.key x ∉ ds.map Item.key).map Item.key,
      Item.key d ≠ key := by
    rintro d hd' key hkey rfl
    obtain ⟨x, hx', heq⟩ := List.mem_map.1 hkey
    exact of_decide_eq_true (List.mem_filter.1 hx').2 (heq ▸ List.mem_map_of_mem hd')
  refine List.nodup_append.2 ⟨hd.sublist (List.filter_sublist.map _), List.nodup_append.2
    ⟨hd.sublist (List.filter_sublist.map _), hx.sublist (List.filter_sublist.map _), ?_⟩, ?_⟩
  · intro key hupdated key' hdeleted
    obtain ⟨d, hmem, rfl⟩ := List.mem_map.1 hupdated
    exact hwanted d (List.mem_filter.1 hmem).1 key' hdeleted
  · intro key hcreated key' hother heq
    obtain ⟨d, hmem, rfl⟩ := List.mem_map.1 hcreated
    obtain ⟨hmem, hcreate⟩ := List.mem_filter.1 hmem
    rcases List.mem_append.1 hother with hupdated | hdeleted
    · obtain ⟨d', hmem', rfl⟩ := List.mem_map.1 hupdated
      obtain ⟨hmem', hupdate⟩ := List.mem_filter.1 hmem'
      obtain rfl := List.inj_on_of_nodup_map hd hmem hmem' heq
      have hboth := (of_decide_eq_true hcreate).symm.trans (of_decide_eq_true hupdate)
      cases hboth
    · exact hwanted d hmem key' hdeleted heq

end Diff

end Concord
