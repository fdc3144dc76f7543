/-
  Dictionaries as finite maps: what a look-up finds after each operation.

  * `get?_insert`, `get?_erase`: the two updates.
  * `get?_filterMap`: the values under a function.
  * `get?_ofList_iff`: a dictionary of a list of entries.
  * `mem_entries_iff`: the listing holds the pairs that a look-up finds.
  * `ext_get?`: a dictionary is known by its look-ups, so that updates of one
    key absorb each other (`insert_insert`, `insert_erase`, `insert_eq_self`).
  * `alter`: the general update of one key.
-/
import Mathlib.Data.List.Induction
import Mathlib.Data.List.Nodup
import Concord.Dict

namespace Concord

variable {α β : Type}

/-! ## Lists of entries -/

theorem lookup_cons_ite (k : String) (e : String × α) (l : List (String × α)) :
    (e :: l).lookup k = if k = e.1 then some e.2 else l.lookup k := by
  obtain ⟨k', v⟩ := e
  by_cases h : k = k'
  · simp [h]
  · simp [List.lookup_cons, beq_false_of_ne h, h]

/-- An entry is found under its key if no key is repeated. -/
theorem lookup_of_mem {l : List (String × α)} {e : String × α}
    (hn : (l.map (·.1)).Nodup) (he : e ∈ l) : l.lookup e.1 = some e.2 := by
  induction l with
  | nil => cases he
  | cons e' l ih =>
    obtain ⟨hnot, hl⟩ := List.nodup_cons.1 hn
    rw [lookup_cons_ite]
    rcases List.mem_cons.1 he with rfl | he
    · rw [if_pos rfl]
    · have hne : e.1 ≠ e'.1 := fun h => hnot (List.mem_map.2 ⟨e, he, h⟩)
      rw [if_neg hne, ih hl he]

theorem mem_of_lookup {k : String} {v : α} {l : List (String × α)} (h : l.lookup k = some v) :
    (k, v) ∈ l := by
  obtain ⟨l₁, l₂, rfl, -⟩ := List.lookup_eq_some_iff.1 h
  simp

/-- Something is found under the key of an entry. -/
theorem exists_lookup_of_mem {k : String} {l : List (String × α)} (hk : k ∈ l.map (·.1)) :
    ∃ v, l.lookup k = some v := by
  induction l with
  | nil => cases hk
  | cons e l ih =>
    rw [lookup_cons_ite]
    split
    · exact ⟨e.2, rfl⟩
    · rename_i hne
      exact ih ((List.mem_cons.1 hk).resolve_left hne)

/-- In a sorted list a look-up finds exactly the entries. -/
theorem lookup_eq_some_iff_mem {k : String} {v : α} {l : List (String × α)}
    (hl : l.Pairwise fun a b => a.1 < b.1) : l.lookup k = some v ↔ (k, v) ∈ l :=
  ⟨mem_of_lookup, lookup_of_mem (hl.map _ fun _ _ => String.ne_of_lt)⟩

theorem lookup_insertEntry (k k' : String) (v : α) (l : List (String × α)) :
    (insertEntry k v l).lookup k' = if k' = k then some v else l.lookup k' := by
  induction l with
  | nil => simp [insertEntry, lookup_cons_ite]
  | cons e r ih =>
    unfold insertEntry
    split
    · rw [lookup_cons_ite]
    · split
      · rename_i hlt
        rw [lookup_cons_ite, ih, lookup_cons_ite]
        by_cases h : k' = e.1
        · have hne : e.1 ≠ k := String.ne_of_lt hlt
          simp [h, hne]
        · simp [h]
      · rename_i h₁ h₂
        have heq : e.1 = k := String.le_antisymm (String.not_lt.1 h₁) (String.not_lt.1 h₂)
        rw [lookup_cons_ite, lookup_cons_ite, heq]
        by_cases h : k' = k <;> simp [h]

theorem lookup_filter_ne (k k' : String) (l : List (String × α)) :
    (l.filter fun e => e.1 ≠ k).lookup k' = if k' = k then none else l.lookup k' := by
  induction l with
  | nil => simp
  | cons e r ih =>
    by_cases he : e.1 = k
    · rw [List.filter_cons_of_neg (by simp [he]), ih, lookup_cons_ite, he]
      by_cases h : k' = k <;> simp [h]
    · rw [List.filter_cons_of_pos (by simp [he]), lookup_cons_ite, ih, lookup_cons_ite]
      by_cases h : k' = e.1
      · simp [h, he]
      · simp [h]

namespace Dict

/-! ## Look-ups -/

theorem mem_entries_iff {d : Dict α} {k : String} {v : α} :
    (k, v) ∈ d.entries ↔ d.get? k = some v :=
  (lookup_eq_some_iff_mem d.sorted).symm

@[simp] theorem get?_insert (d : Dict α) (k k' : String) (v : α) :
    (d.insert k v).get? k' = if k' = k then some v else d.get? k' :=
  lookup_insertEntry k k' v d.entries

@[simp] theorem get?_erase (d : Dict α) (k k' : String) :
    (d.erase k).get? k' = if k' = k then none else d.get? k' :=
  lookup_filter_ne k k' d.entries

@[simp] theorem get?_filterMap (f : α → Option β) (d : Dict α) (k : String) :
    (d.filterMap f).get? k = (d.get? k).bind f := by
  refine Option.ext fun v => ?_
  rw [← mem_entries_iff, Option.bind_eq_some_iff]
  show (k, v) ∈ d.entries.filterMap (fun e => (f e.2).map fun w => (e.1, w)) ↔ _
  rw [List.mem_filterMap]
  constructor
  · rintro ⟨⟨k', x⟩, hmem, hmap⟩
    obtain ⟨w, hw, heq⟩ := Option.map_eq_some_iff.1 hmap
    obtain ⟨rfl, rfl⟩ := Prod.mk.inj heq
    exact ⟨x, mem_entries_iff.1 hmem, hw⟩
  · rintro ⟨x, hx, hv⟩
    exact ⟨(k, x), mem_entries_iff.2 hx, by simp [hv]⟩

theorem mem_keys_iff {d : Dict α} {k : String} : k ∈ d.keys ↔ ∃ v, d.get? k = some v := by
  simp [keys, ← mem_entries_iff]

theorem contains_iff {d : Dict α} {k : String} : d.contains k = true ↔ ∃ v, d.get? k = some v :=
  Option.isSome_iff_exists

/-- A list of entries without repeated keys is found as it is. -/
theorem get?_ofList_iff {l : List (String × α)} (h : (l.map (·.1)).Nodup) {k : String} {v : α} :
    (ofList l).get? k = some v ↔ (k, v) ∈ l := by
  induction l using List.reverseRecOn with
  | nil => simp [ofList]
  | append_singleton l e ih =>
    obtain ⟨hl, -, hne⟩ := List.nodup_append.1 (List.map_append ▸ h)
    have hlast : ofList (l ++ [e]) = (ofList l).insert e.1 e.2 := List.foldl_append
    rw [hlast, get?_insert, List.mem_append, List.mem_singleton, ← ih hl]
    by_cases hk : k = e.1
    · have hnot : (ofList l).get? k ≠ some v := fun hmem =>
        hne k (List.mem_map_of_mem ((ih hl).1 hmem)) k (by simp [hk]) rfl
      rw [if_pos hk, or_iff_right hnot]
      simp [hk, Prod.ext_iff, eq_comm]
    · simp [hk, Prod.ext_iff]

theorem contains_insert {d : Dict α} {k k' : String} (v : α) (h : d.contains k = true) :
    (d.insert k' v).contains k = true := by
  rw [contains, get?_insert]
  split
  · rfl
  · exact h

theorem contains_erase {d : Dict α} {k k' : String} (hne : k ≠ k') (h : d.contains k = true) :
    (d.erase k').contains k = true := by
  rw [contains, get?_erase, if_neg hne]
  exact h

theorem nodup_keys (d : Dict α) : d.keys.Nodup :=
  d.sorted.map _ fun _ _ h => String.ne_of_lt h

/-! ## Equality -/

/-- A dictionary is known by its look-ups. -/
theorem ext_get? {a b : Dict α} (h : ∀ k, a.get? k = b.get? k) : a = b := by
  have hp : a.entries.Perm b.entries := by
    have hn : ∀ d : Dict α, d.entries.Nodup := fun d =>
      List.Nodup.of_map Prod.fst d.nodup_keys
    refine (List.perm_ext_iff_of_nodup (hn a) (hn b)).2 fun e => ?_
    rw [mem_entries_iff, mem_entries_iff, h]
  exact Dict.ext (hp.eq_of_pairwise (fun _ _ _ _ h h' => absurd (String.lt_trans h h')
    (String.lt_irrefl _)) a.sorted b.sorted)

/-- A dictionary is that of its entries in any order. -/
theorem ofList_of_mem_iff {d : Dict α} {l : List (String × α)} (hn : (l.map (·.1)).Nodup)
    (h : ∀ e, e ∈ l ↔ e ∈ d.entries) : ofList l = d := by
  apply ext_get?
  intro k
  ext v
  rw [get?_ofList_iff hn, h, mem_entries_iff]

/-- A dictionary is that of its own entries. -/
theorem ofList_entries (d : Dict α) : ofList d.entries = d :=
  ofList_of_mem_iff d.nodup_keys fun _ => Iff.rfl

@[simp] theorem insert_insert (d : Dict α) (k : String) (v v' : α) :
    (d.insert k v).insert k v' = d.insert k v' := by
  apply ext_get?
  intro k'
  by_cases h : k' = k <;> simp [h]

theorem insert_erase (d : Dict α) (k : String) (v : α) : (d.erase k).insert k v = d.insert k v := by
  apply ext_get?
  intro k'
  by_cases h : k' = k <;> simp [h]

theorem insert_eq_self {d : Dict α} {k : String} {v : α} (h : d.get? k = some v) :
    d.insert k v = d := by
  apply ext_get?
  intro k'
  by_cases hk : k' = k <;> simp [hk, h]

/-! ## Altering the value of a key -/

/-- Puts the image of what is under a key in its place; without an image the
    key goes. -/
def alter (d : Dict α) (k : String) (f : Option α → Option α) : Dict α :=
  match f (d.get? k) with
  | some v => d.insert k v
  | none => d.erase k

@[simp] theorem get?_alter (d : Dict α) (k k' : String) (f : Option α → Option α) :
    (d.alter k f).get? k' = if k' = k then f (d.get? k) else d.get? k' := by
  unfold alter
  cases f (d.get? k) <;> simp

end Dict

end Concord
