/-
  Values in canonical form.

  A completed value has all members of its shape, so there is nothing left to
  complete, and it is read as itself.

  * `exists_of_completes_record` and its companions: what completed values are.
  * `read_ofMembers_eq_self` and its companions: they are read as themselves.
  * `Completes.get?_given`, `Completes.get?_missing`: the members of a completed
    record.
-/
import Concord.Proofs.Schema.Completion

namespace Concord

/-! ## Objects -/

section Objects

variable {ms es : List (String × Json)}

/-- The object of members that are listed in another order. -/
theorem Json.ofMembers_of_mem_iff (hn : (es.map (·.1)).Nodup)
    (hs : (ms.map (·.1)).Pairwise (· < ·)) (h : ∀ e, e ∈ es ↔ e ∈ ms) : ofMembers es = obj ms := by
  have hdict : Dict.ofList es = ⟨ms, List.pairwise_map.1 hs⟩ := Dict.ofList_of_mem_iff hn h
  rw [ofMembers, hdict]
  rfl

theorem Json.get?_ofMembers (hn : (es.map (·.1)).Nodup) (k : String) :
    (ofMembers es).get? k = es.lookup k := by
  refine Option.ext fun v => ?_
  have hlookup : es.lookup k = some v ↔ (k, v) ∈ es := ⟨mem_of_lookup, lookup_of_mem hn⟩
  rw [hlookup]
  exact Dict.get?_ofList_iff hn

end Objects

namespace Shape

variable {item shape : Shape} {fields : List (String × Shape × Option Json)}
  {f : String × Shape × Option Json} {ds : List Json} {ms : List (String × Json)}
  {d j : Json} {name k : String}

/-! ## Completed values -/

theorem exists_of_completes_text (h : Completes .text d j) : ∃ s, j = .str s := by
  cases h with
  | text s => exact ⟨s, rfl⟩

theorem exists_of_completes_dict (h : Completes (.dict false item) d j) : ∃ e, j = .ofDict e := by
  cases h with
  | dict _ _ => exact ⟨_, rfl⟩

theorem exists_of_completes_list {α : Type} {encode : α → Json}
    (hitem : ∀ d j, Completes item d j → ∃ x, j = encode x)
    (h : Completes (.list item) d j) : ∃ l : List α, j = .arr (l.map encode) := by
  cases h with
  | @list _ ds js hlength hitems =>
    suffices hmap : ∃ l : List α, js = l.map encode from hmap.imp fun _ => congrArg Json.arr
    induction ds generalizing js with
    | nil => exact ⟨[], List.eq_nil_of_length_eq_zero hlength.symm⟩
    | cons d ds ih =>
      obtain ⟨v, js, rfl⟩ := List.exists_cons_of_length_eq_add_one hlength.symm
      obtain ⟨x, rfl⟩ := hitem _ _ (hitems (d, v) List.mem_cons_self)
      obtain ⟨l, rfl⟩ := ih (Nat.succ.inj hlength) fun p hp => hitems p (List.mem_cons_of_mem _ hp)
      exact ⟨x :: l, rfl⟩

/-- **A completed record has all members of its shape**, each of which is
    complete. -/
theorem exists_of_completes_record (hs : (Shape.record name fields).Sound)
    (h : Completes (.record name fields) d j) :
    ∃ vs, j = .ofMembers ((names fields).zip vs) ∧
      List.Forall₂ (fun f v => ∃ d, Completes f.2.1 d v) fields vs := by
  cases hs with
  | record hn _ hsound =>
    cases h with
    | @record _ _ _ ms es _ hnames hmembers hdefaults =>
      have hall : Members fields (fun f w => ∀ j, w = some j → ∃ v, Completes f.2.1 v j) es := by
        refine ⟨hnames, fun f hf j hj => ?_⟩
        cases hv : ms.lookup f.1 with
        | some v => exact ⟨v, hmembers f hf v j hv hj⟩
        | none => exact ⟨j, hsound f hf j ((hdefaults f hf hv).symm.trans hj)⟩
      obtain ⟨vs, rfl, hvs⟩ := (members_iff_forall₂ hn).1 hall
      exact ⟨vs, rfl, hvs.imp fun _ v hv => hv v rfl⟩

/-! ## Values read as themselves -/

/-- Items that are read as they are make a list that is. -/
theorem read_list_map {α : Type} {encode : α → Json}
    (h : ∀ x, item.read (encode x) = .ok (encode x)) (l : List α) :
    (Shape.list item).read (.arr (l.map encode)) = .ok (.arr (l.map encode)) := by
  have hitems : readItems item (l.map encode) = .ok (l.map encode) := by
    rw [readItems_eq_ok_iff, List.forall₂_same]
    intro v hv
    obtain ⟨x, -, rfl⟩ := List.mem_map.1 hv
    exact h x
  rw [read, hitems]
  rfl

/-- Values of any kind are read as they are. -/
theorem readEntries_any (ms : List (String × Json)) : readEntries .any ms = .ok ms := by
  rw [readEntries_eq_ok_iff, List.forall₂_same]
  exact fun e _ => ⟨rfl, by rw [read]⟩

theorem read_dict_any (e : Dict Json) :
    (Shape.dict false .any).read (.ofDict e) = .ok (.ofDict e) := by
  rw [Json.ofDict, read, readEntries_any]
  exact congrArg (Except.ok ∘ Json.ofDict) e.ofList_entries

/-- **A record with all its members is read as itself** if they are. -/
theorem read_ofMembers_eq_self {vs : List Json} (hn : (names fields).Nodup)
    (hvs : List.Forall₂ (fun f v => f.2.1.read v = .ok v) fields vs) :
    (Shape.record name fields).read (.ofMembers ((names fields).zip vs)) =
      .ok (.ofMembers ((names fields).zip vs)) := by
  obtain ⟨hlength, hread⟩ := List.forall₂_iff_zip.1 hvs
  have hes : (((names fields).zip vs).map (·.1)).Nodup := by
    rw [List.map_fst_zip (by simp [names, hlength])]
    exact hn
  refine read_obj_of_members hn (Dict.nodup_keys _) ((members_iff_forall₂ hn).2 ⟨vs, rfl, ?_⟩)
  refine List.forall₂_iff_zip.2 ⟨hlength, fun {f v} hp => ?_⟩
  have hmem : (f.1, v) ∈ (names fields).zip vs := by
    rw [names, List.zip_map_left]
    exact List.mem_map_of_mem (f := Prod.map (·.1) id) hp
  have hlookup : (Dict.ofList ((names fields).zip vs)).entries.lookup f.1 = some v :=
    (Json.get?_ofMembers hes f.1).trans (lookup_of_mem hes hmem)
  rw [hlookup]
  exact readFrom_some_iff.2 (hread hp)

/-! ## Members of completed values -/

theorem Sound.nodup (hs : (Shape.record name fields).Sound) : (names fields).Nodup := by
  cases hs with
  | record hn _ _ => exact hn

theorem Sound.of_list_mem {field : String} {default? : Option Json}
    (hs : (Shape.record name fields).Sound) (hf : (field, .list item, default?) ∈ fields) :
    item.Sound := by
  cases hs with
  | record _ hfields _ =>
    cases hfields _ hf with
    | list hitem => exact hitem

/-- A member that is given is completed. -/
theorem Completes.get?_given (hs : (Shape.record name fields).Sound)
    (h : Completes (.record name fields) (.obj ms) j) (hf : f ∈ fields)
    (hv : ms.lookup f.1 = some d) :
    ∃ v, j.get? f.1 = some v ∧ Completes f.2.1 d v := by
  cases h with
  | @record _ _ _ _ es hgiven hnames hmembers _ =>
    cases hgiven
    have hmem : f.1 ∈ es.map (·.1) := by
      rw [hnames]
      exact List.mem_map_of_mem hf
    obtain ⟨v, hlookup⟩ := exists_lookup_of_mem hmem
    exact ⟨v, (Json.get?_ofMembers (hnames ▸ hs.nodup) f.1).trans hlookup,
      hmembers f hf d v hv hlookup⟩

/-- A member that is missing has its default. -/
theorem Completes.get?_missing (hs : (Shape.record name fields).Sound)
    (h : Completes (.record name fields) (.obj ms) j) (hf : f ∈ fields)
    (hv : ms.lookup f.1 = none) : j.get? f.1 = f.2.2 := by
  cases h with
  | record hgiven hnames _ hdefaults =>
    cases hgiven
    exact (Json.get?_ofMembers (hnames ▸ hs.nodup) f.1).trans (hdefaults f hf hv)

/-- An item is completed at its place. -/
theorem Completes.getElem?_items (h : Completes (.list item) (.arr ds) j) {i : Nat}
    (hd : ds[i]? = some d) :
    ∃ v, j.items[i]? = some v ∧ Completes item d v := by
  cases h with
  | @list _ _ js hlength hitems =>
    obtain ⟨hi, rfl⟩ := List.getElem?_eq_some_iff.1 hd
    have hi' : i < js.length := hlength ▸ hi
    refine ⟨js[i], List.getElem?_eq_getElem hi', hitems (ds[i], js[i]) ?_⟩
    exact List.mem_iff_getElem.2 ⟨i, by rw [List.length_zip]; omega, List.getElem_zip⟩

/-- A member that is missing from an item of a list in a record has its
    default: the list is the `m`-th member of its record, and what is missing
    the `n`-th of its own. -/
theorem Completes.get?_missing_item {field itemName : String} {default? : Option Json} {v : Json}
    {itemFields : List (String × Shape × Option Json)} {member : List (String × Json)} {i : Nat}
    (hs : (Shape.record name fields).Sound) (h : Completes (.record name fields) (.obj ms) j)
    (m n : Nat) (hfield : fields[m]? = some (field, .list (.record itemName itemFields), default?))
    (hk : itemFields[n]? = some (k, shape, some v)) (hgiven : ms.lookup field = some (.arr ds))
    (hmember : ds[i]? = some (.obj member)) (hmissing : member.lookup k = none) :
    ∃ w, (j.get field).items[i]? = some w ∧ w.get? k = some v := by
  have hmem := List.mem_of_getElem? hfield
  obtain ⟨l, hl, hlist⟩ := h.get?_given hs hmem hgiven
  obtain ⟨w, hw, hrecord⟩ := hlist.getElem?_items hmember
  refine ⟨w, ?_, hrecord.get?_missing (hs.of_list_mem hmem) (List.mem_of_getElem? hk) hmissing⟩
  rw [Json.get, hl]
  exact hw

end Shape

end Concord
