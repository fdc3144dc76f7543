/-
  How a key comes out of a comparison.

  The parts of a difference are searched one after the other.  Without repeated
  keys they share no key, so the order of the search does not matter, and each
  key comes out as its items on the two sides say.

  * `Diff.classify_of`: the classification of a key by its two items.
  * `Diff.mem_changedKeys_iff_classify`: a key is changed if it is to be
    created, updated or deleted.
  * `Diff.classified_by_sides`: every key, and whether anything is to be done.
-/
import Concord.Proofs.Diff.Script

namespace Concord

variable {α : Type} [Item α] {ds xs : List α}

namespace Diff

theorem holds_iff {k : String} {items : List α} :
    holds k items = true ↔ k ∈ items.map Item.key := by
  simp [holds]

/-! ## One key -/

/-- How a key should come out, by its item on the desired and on the observed
    side. -/
def classificationOf : Option α → Option α → Option Classification
  | some _, none => some .create
  | none, some _ => some .delete
  | some d, some x => some (if Item.agrees d x then .noChange else .update)
  | none, none => none

/-- **The classification of a key** depends on its two items only. -/
theorem classify_of (hd : (ds.map Item.key).Nodup) (hx : (xs.map Item.key).Nodup) (k : String) :
    (Diff.of ds xs).classify k = classificationOf (partner ds k) (partner xs k) := by
  have hverdict : ∀ v, k ∈ (ds.filter fun d => verdict d (partner xs (Item.key d)) = v).map Item.key ↔
      ∃ d, partner ds k = some d ∧ verdict d (partner xs k) = v := by
    intro v
    rw [mem_keys_filter_iff hd]
    refine exists_congr fun d => and_congr_right fun hdk => ?_
    rw [key_of_partner hdk, decide_eq_true_iff]
  have hdelete : k ∈ (xs.filter fun x => Item.key x ∉ ds.map Item.key).map Item.key ↔
      ∃ x, partner xs k = some x ∧ partner ds k = none := by
    rw [mem_keys_filter_iff hx]
    refine exists_congr fun x => and_congr_right fun hxk => ?_
    rw [key_of_partner hxk, decide_eq_true_iff, partner_eq_none_iff]
  rw [of_eq hd hx, classify]
  simp only [holds_iff, List.contains_iff_mem, hverdict, hdelete]
  cases partner ds k with
  | none => cases partner xs k <;> simp [classificationOf]
  | some d =>
    cases partner xs k with
    | none => simp [classificationOf, verdict]
    | some x => cases hagree : Item.agrees d x <;> simp [classificationOf, verdict, hagree]

/-! ## Changed keys -/

/-- A key is changed if it comes out as one to create, update or delete,
    whatever the lists compared. -/
theorem mem_changedKeys_iff_classify {d : Diff α} {k : String} :
    k ∈ d.changedKeys ↔ ∃ c, d.classify k = some c ∧ c ≠ .noChange := by
  simp only [changedKeys, List.mem_append, ← holds_iff, classify]
  cases holds k d.toCreate <;> cases holds k d.toUpdate <;> cases holds k d.toDelete <;>
    cases d.unchanged.contains k <;> simp

omit [Item α] in
theorem hasChanges_iff {d : Diff α} : d.hasChanges = true ↔ 0 < d.totalChanges := by
  rw [Nat.pos_iff_ne_zero, ← not_iff_not, Bool.not_eq_true, hasChanges_eq_false_iff, not_not]

theorem totalChanges_pos_iff {d : Diff α} :
    0 < d.totalChanges ↔ ∃ k c, d.classify k = some c ∧ c ≠ .noChange := by
  simp only [← length_changedKeys, List.length_pos_iff_exists_mem, mem_changedKeys_iff_classify]

/-! ## Both sides -/

/-- A key comes out of a difference as its items on the two sides say. -/
structure Classifies (ds xs : List α) (d : Diff α) (k : String) : Prop where
  create : d.classify k = some .create ↔ k ∈ ds.map Item.key ∧ k ∉ xs.map Item.key
  delete : d.classify k = some .delete ↔ k ∉ ds.map Item.key ∧ k ∈ xs.map Item.key
  update : d.classify k = some .update ↔
    ∃ x ∈ ds, ∃ y ∈ xs, Item.key x = k ∧ Item.key y = k ∧ Item.agrees x y = false
  noChange : d.classify k = some .noChange ↔
    ∃ x ∈ ds, ∃ y ∈ xs, Item.key x = k ∧ Item.key y = k ∧ Item.agrees x y = true
  unknown : d.classify k = none ↔ k ∉ ds.map Item.key ∧ k ∉ xs.map Item.key

theorem classifies_of (hd : (ds.map Item.key).Nodup) (hx : (xs.map Item.key).Nodup) (k : String) :
    (Diff.of ds xs).Classifies ds xs k := by
  have hshared : ∀ b, (∃ x ∈ ds, ∃ y ∈ xs, Item.key x = k ∧ Item.key y = k ∧ Item.agrees x y = b) ↔
      ∃ x y, partner ds k = some x ∧ partner xs k = some y ∧ Item.agrees x y = b := by
    intro b
    simp only [partner_eq_some_iff hd, partner_eq_some_iff hx]
    grind
  have hside : ∀ items : List α, k ∈ items.map Item.key ↔ partner items k ≠ none := fun items => by
    rw [ne_eq, partner_eq_none_iff, not_not]
  constructor
  all_goals
    rw [classify_of hd hx]
    simp only [hside, hshared]
    cases partner ds k <;> cases partner xs k <;> grind [classificationOf]

/-- **How keys come out.**  Of lists without repeated keys, a key on the desired
    side only is to be created, one on the observed side only deleted, one on
    both updated or kept, as its two items disagree or agree, and any other key
    is not known.  Something is to be done exactly if changes are counted, and
    if some key is to be created, updated or deleted. -/
theorem classified_by_sides (hd : (ds.map Item.key).Nodup) (hx : (xs.map Item.key).Nodup) :
    (∀ k, (Diff.of ds xs).Classifies ds xs k) ∧
      ((Diff.of ds xs).hasChanges = true ↔ 0 < (Diff.of ds xs).totalChanges) ∧
      (0 < (Diff.of ds xs).totalChanges ↔
        ∃ k, (Diff.of ds xs).classify k = some .create ∨
          (Diff.of ds xs).classify k = some .update ∨
          (Diff.of ds xs).classify k = some .delete) := by
  refine ⟨classifies_of hd hx, hasChanges_iff, totalChanges_pos_iff.trans ?_⟩
  refine exists_congr fun k => ⟨?_, ?_⟩
  · rintro ⟨c, hc, hne⟩
    cases c with
    | create => exact Or.inl hc
    | update => exact Or.inr (Or.inl hc)
    | delete => exact Or.inr (Or.inr hc)
    | noChange => exact absurd rfl hne
  · rintro (hc | hc | hc)
    all_goals exact ⟨_, hc, by decide⟩

theorem classified_by_sides_policies :
    let policy : String → String → Policy := fun name rules => ⟨name, rules, "acl", "", "http://a"⟩
    let ds := [policy "app" "read", policy "dev" "write", policy "ops" "list"]
    let xs := [policy "dev" "read", policy "old" "list", policy "ops" "list"]
    (ds.map Item.key).Nodup ∧ (xs.map Item.key).Nodup ∧
      (∀ k, (Diff.of ds xs).Classifies ds xs k) ∧ (Diff.of ds xs).hasChanges = true ∧
      ["app", "dev", "old", "ops", "web"].map (Diff.of ds xs).classify =
        [some .create, some .update, some .delete, some .noChange, none] := by
  intro policy ds xs
  have hd : (ds.map Item.key).Nodup := by decide
  have hx : (xs.map Item.key).Nodup := by decide
  obtain ⟨hkeys, hchanges, -⟩ := classified_by_sides hd hx
  exact ⟨hd, hx, hkeys, hchanges.2 (by decide), by decide⟩

end Diff

end Concord
