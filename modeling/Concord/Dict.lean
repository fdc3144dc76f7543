/-
  Dictionaries: finite maps from text to values, listed by key.

  The entries are kept in increasing order of their keys, so two dictionaries
  with the same entries are equal and a listing needs no sorting.  Keys are
  compared code point by code point.

  * `insert`, `erase`, `get?`, `map`, `ofList` (of equal keys the last wins).
  * `sorted_insertEntry`: insertion keeps the order.
-/

namespace Concord

/-! ## Sorted lists of entries -/

/-- Puts a value under a key of a sorted list of entries, in place of the
    value that was there. -/
def insertEntry {α : Type} (k : String) (v : α) : List (String × α) → List (String × α)
  | [] => [(k, v)]
  | e :: r =>
    if k < e.1 then (k, v) :: e :: r
    else if e.1 < k then e :: insertEntry k v r
    else (k, v) :: r

theorem mem_insertEntry {α : Type} {k : String} {v : α} {e : String × α}
    {l : List (String × α)} (h : e ∈ insertEntry k v l) : e = (k, v) ∨ e ∈ l := by
  induction l with
  | nil => exact Or.inl (by simpa [insertEntry] using h)
  | cons f r ih =>
    unfold insertEntry at h
    split at h
    · simpa using h
    · split at h
      · rcases List.mem_cons.1 h with rfl | h
        · exact Or.inr (by simp)
        · exact (ih h).imp id fun h => List.mem_cons_of_mem _ h
      · rcases List.mem_cons.1 h with rfl | h
        · exact Or.inl rfl
        · exact Or.inr (List.mem_cons_of_mem _ h)

/-- Insertion keeps the entries sorted. -/
theorem sorted_insertEntry {α : Type} (k : String) (v : α) {l : List (String × α)}
    (h : l.Pairwise fun a b => a.1 < b.1) :
    (insertEntry k v l).Pairwise fun a b => a.1 < b.1 := by
  induction l with
  | nil => simp [insertEntry]
  | cons f r ih =>
    obtain ⟨hf, hr⟩ := List.pairwise_cons.1 h
    unfold insertEntry
    split
    · rename_i hk
      refine List.pairwise_cons.2 ⟨fun e he => ?_, h⟩
      rcases List.mem_cons.1 he with rfl | he
      · exact hk
      · exact String.lt_trans hk (hf e he)
    · rename_i hk
      split
      · rename_i hk'
        refine List.pairwise_cons.2 ⟨fun e he => ?_, ih hr⟩
        rcases mem_insertEntry he with rfl | he
        · exact hk'
        · exact hf e he
      · rename_i hk'
        have heq : k = f.1 := String.le_antisymm (String.not_lt.1 hk') (String.not_lt.1 hk)
        exact List.pairwise_cons.2 ⟨fun e he => heq ▸ hf e he, hr⟩

/-! ## Dictionaries -/

/-- A finite map from text to values: entries in increasing order of keys. -/
structure Dict (α : Type) where
  /-- The entries, by key. -/
  entries : List (String × α)
  /-- The keys increase. -/
  sorted : entries.Pairwise fun a b => a.1 < b.1
  deriving DecidableEq

namespace Dict

variable {α β : Type}

@[ext] theorem ext {a b : Dict α} (h : a.entries = b.entries) : a = b := by
  cases a; cases b; cases h; rfl

/-- The dictionary without entries. -/
def empty : Dict α := ⟨[], .nil⟩

instance : Inhabited (Dict α) := ⟨empty⟩

/-- The value under a key. -/
def get? (d : Dict α) (k : String) : Option α := d.entries.lookup k

/-- Whether a key has a value. -/
def contains (d : Dict α) (k : String) : Bool := (d.get? k).isSome

/-- Puts a value under a key, in place of the one that was there. -/
def insert (d : Dict α) (k : String) (v : α) : Dict α :=
  ⟨insertEntry k v d.entries, sorted_insertEntry k v d.sorted⟩

/-- Removes a key and its value. -/
def erase (d : Dict α) (k : String) : Dict α :=
  ⟨d.entries.filter fun e => e.1 ≠ k, d.sorted.filter _⟩

/-- The keys, in increasing order. -/
def keys (d : Dict α) : List String := d.entries.map (·.1)

/-- The values, in the order of their keys. -/
def values (d : Dict α) : List α := d.entries.map (·.2)

/-- The dictionary of a list of entries; of equal keys the last wins. -/
def ofList (l : List (String × α)) : Dict α := l.foldl (fun d e => d.insert e.1 e.2) empty

/-- The same keys, each with the image of its value. -/
def map (f : α → β) (d : Dict α) : Dict β :=
  ⟨d.entries.map fun e => (e.1, f e.2), d.sorted.map _ fun _ _ h => h⟩

/-- The keys whose value has an image, with it. -/
def filterMap (f : α → Option β) (d : Dict α) : Dict β :=
  ⟨d.entries.filterMap fun e => (f e.2).map fun v => (e.1, v), by
    refine d.sorted.filterMap _ fun a b h a' ha b' hb => ?_
    simp only [Option.map_eq_some_iff] at ha hb
    obtain ⟨_, _, rfl⟩ := ha
    obtain ⟨_, _, rfl⟩ := hb
    exact h⟩

/-- Lays the entries of `e` over those of `d`. -/
def overlay (d e : Dict α) : Dict α := e.entries.foldl (fun d e => d.insert e.1 e.2) d

@[simp] theorem get?_empty (k : String) : (empty : Dict α).get? k = none := rfl

end Dict

end Concord
