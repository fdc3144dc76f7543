/-
  Values completed by their shape.

  To complete a value is to keep what its shape knows, to leave out what it
  does not know, and to fill in the defaults of what is missing.  This is said
  by look-ups and without an order in which a value is gone through, so it does
  not matter in which order members are written, and whether a record is an
  object or a list.

  * `Completes`: a value and what its shape makes of it.
  * `completes_of_read`: what is read is the value completed.
  * `read_of_completes`: a value that can be completed is read.
-/
import Concord.Proofs.Schema.Records

namespace Concord

namespace Json

/-- No object in a value has two members of one name. -/
inductive Distinct : Json → Prop
  | null : Distinct .null
  | bool (b : Bool) : Distinct (.bool b)
  | int (n : Int) : Distinct (.int n)
  | float (d : Decimal) : Distinct (.float d)
  | str (s : String) : Distinct (.str s)
  | arr {items : List Json} : (∀ j ∈ items, Distinct j) → Distinct (.arr items)
  | obj {ms : List (String × Json)} : (ms.map (·.1)).Nodup → (∀ e ∈ ms, Distinct e.2) →
      Distinct (.obj ms)

variable {items : List Json} {ms : List (String × Json)}

@[simp] theorem distinct_arr_iff : Distinct (.arr items) ↔ ∀ j ∈ items, Distinct j := by
  constructor
  · rintro (_ | _ | _ | _ | _ | h)
    exact h
  · exact .arr

@[simp] theorem distinct_obj_iff :
    Distinct (.obj ms) ↔ (ms.map (·.1)).Nodup ∧ ∀ e ∈ ms, Distinct e.2 := by
  constructor
  · rintro (_ | _ | _ | _ | _ | _ | ⟨hn, hms⟩)
    exact ⟨hn, hms⟩
  · exact fun h => .obj h.1 h.2

end Json

namespace Shape

variable {item shape : Shape} {fields : List (String × Shape × Option Json)}
  {f : String × Shape × Option Json} {ds : List Json} {ms es : List (String × Json)}
  {d j : Json} {name k : String}

/-! ## Completion -/

/-- The members that a value gives for a record: those of an object, or the
    items of a list under the names of the record. -/
def given (fields : List (String × Shape × Option Json)) : Json → Option (List (String × Json))
  | .obj ms => some ms
  | .arr ds => if ds.length ≤ fields.length then some ((names fields).zip ds) else none
  | _ => none

/-- A value and the value that a shape makes of it. -/
inductive Completes : Shape → Json → Json → Prop
  | any (d : Json) : Completes .any d d
  | text (s : String) : Completes .text (.str s) (.str s)
  /-- The items of a list are completed one by one. -/
  | list {item : Shape} {ds js : List Json} : ds.length = js.length →
      (∀ p ∈ ds.zip js, Completes item p.1 p.2) → Completes (.list item) (.arr ds) (.arr js)
  | null {item : Shape} : Completes (.dict true item) .null .null
  /-- The values under all names are completed. -/
  | dict {nullable : Bool} {item : Shape} {ds : List (String × Json)} {e : Dict Json} :
      (∀ k, (Dict.ofList ds).contains k = e.contains k) →
      (∀ k d j, (Dict.ofList ds).get? k = some d → e.get? k = some j → Completes item d j) →
      Completes (.dict nullable item) (.obj ds) (.ofDict e)
  /-- A record has the members of its shape: those that are given are completed,
      and the others have their defaults. -/
  | record {name : String} {fields : List (String × Shape × Option Json)} {d : Json}
      {ms es : List (String × Json)} : given fields d = some ms → es.map (·.1) = names fields →
      (∀ f ∈ fields, ∀ v j, ms.lookup f.1 = some v → es.lookup f.1 = some j →
        Completes f.2.1 v j) →
      (∀ f ∈ fields, ms.lookup f.1 = none → es.lookup f.1 = f.2.2) →
      Completes (.record name fields) d (.ofMembers es)

/-- No record in a shape has two members of one name, and the defaults are
    complete values of their shapes. -/
inductive Sound : Shape → Prop
  | text : Sound .text
  | any : Sound .any
  | list {item : Shape} : Sound item → Sound (.list item)
  | dict {nullable : Bool} {item : Shape} : Sound item → Sound (.dict nullable item)
  | record {name : String} {fields : List (String × Shape × Option Json)} :
      (names fields).Nodup → (∀ f ∈ fields, Sound f.2.1) →
      (∀ f ∈ fields, ∀ v, f.2.2 = some v → Completes f.2.1 v v) → Sound (.record name fields)

/-! ## Records -/

/-- **What is read of a record** are the members that are given for it. -/
theorem exists_of_read_record (hn : (names fields).Nodup)
    (h : (Shape.record name fields).read d = .ok j) :
    ∃ ms es, given fields d = some ms ∧ Members fields (fun f => ReadFrom (ms.lookup f.1) f) es ∧
      j = .ofMembers es := by
  cases d with
  | obj ms =>
    obtain ⟨es, hmembers, rfl⟩ := exists_of_read_obj hn h
    exact ⟨ms, es, rfl, hmembers, rfl⟩
  | arr ds =>
    rw [read, map_eq_ok_iff] at h
    obtain ⟨es, hes, rfl⟩ := h
    obtain ⟨hlength, hmembers⟩ := (readPositions_eq_ok_iff hn).1 hes
    exact ⟨_, es, if_pos hlength, hmembers, rfl⟩
  | _ => cases h

/-- **A record is read** if its members are, and none is given twice. -/
theorem read_record_of_members (hn : (names fields).Nodup) (hd : d.Distinct)
    (hgiven : given fields d = some ms)
    (h : Members fields (fun f => ReadFrom (ms.lookup f.1) f) es) :
    (Shape.record name fields).read d = .ok (.ofMembers es) := by
  cases hd with
  | obj hms _ =>
    cases hgiven
    exact read_obj_of_members hn hms h
  | arr _ =>
    rw [given] at hgiven
    split at hgiven
    · rename_i hlength
      cases hgiven
      rw [read, (readPositions_eq_ok_iff hn).2 ⟨hlength, h⟩]
      rfl
    · cases hgiven
  | _ => cases hgiven

/-! ## Dictionaries -/

/-- Lists of entries whose values correspond make dictionaries whose values
    correspond. -/
theorem rel_get?_ofList {R : Json → Json → Prop}
    (h : List.Forall₂ (fun e e' => e.1 = e'.1 ∧ R e.2 e'.2) ms es) (k : String) :
    Option.Rel R ((Dict.ofList ms).get? k) ((Dict.ofList es).get? k) := by
  -- entries are put in one after the other, so what was put in before is kept general
  suffices hgeneral : ∀ a b : Dict Json, (∀ k, Option.Rel R (a.get? k) (b.get? k)) →
      ∀ k, Option.Rel R ((ms.foldl (fun d e => d.insert e.1 e.2) a).get? k)
        ((es.foldl (fun d e => d.insert e.1 e.2) b).get? k) from
    hgeneral Dict.empty Dict.empty (fun _ => .none) k
  induction h with
  | nil => exact fun a b hab => hab
  | cons hhead _ ih =>
    intro a b hab
    refine ih _ _ fun k => ?_
    rw [Dict.get?_insert, Dict.get?_insert, ← hhead.1]
    split
    · exact .some hhead.2
    · exact hab k

theorem isSome_eq_of_rel {R : Json → Json → Prop} {a b : Option Json} (h : Option.Rel R a b) :
    a.isSome = b.isSome := by
  cases h <;> rfl

/-- Entries are read one by one, if none of them is given twice. -/
theorem exists_readEntries {e : Dict Json} (hn : (ms.map (·.1)).Nodup)
    (hkeys : ∀ k, (Dict.ofList ms).contains k = e.contains k)
    (hread : ∀ k d j, (Dict.ofList ms).get? k = some d → e.get? k = some j → item.read d = .ok j) :
    ∃ es, readEntries item ms = .ok es ∧ Dict.ofList es = e := by
  -- each entry has the value that the dictionary holds under its name
  have hvalue : ∀ p ∈ ms, ∃ j, e.get? p.1 = some j ∧ item.read p.2 = .ok j := by
    intro p hp
    have hgiven : (Dict.ofList ms).get? p.1 = some p.2 := (Dict.get?_ofList_iff hn).2 hp
    have hcontains : e.contains p.1 = true := by
      rw [← hkeys, Dict.contains_iff]
      exact ⟨p.2, hgiven⟩
    obtain ⟨j, hj⟩ := Dict.contains_iff.1 hcontains
    exact ⟨j, hj, hread _ _ _ hgiven hj⟩
  refine ⟨ms.map fun p => (p.1, (e.get? p.1).getD .null), ?_, ?_⟩
  · rw [readEntries_eq_ok_iff, List.forall₂_map_right_iff, List.forall₂_same]
    intro p hp
    obtain ⟨j, hj, hpj⟩ := hvalue p hp
    rw [hj]
    exact ⟨rfl, hpj⟩
  · have hn' : ((ms.map fun p => (p.1, (e.get? p.1).getD .null)).map (·.1)).Nodup := by
      rw [List.map_map]
      exact hn
    refine Dict.ext_get? fun k => Option.ext fun v => ?_
    rw [Dict.get?_ofList_iff hn', List.mem_map]
    constructor
    · rintro ⟨p, hp, heq⟩
      obtain ⟨j, hj, -⟩ := hvalue p hp
      cases heq
      rw [hj]
      rfl
    · intro hv
      have hcontains : (Dict.ofList ms).contains k = true := by
        rw [hkeys, Dict.contains_iff]
        exact ⟨v, hv⟩
      obtain ⟨d, hd⟩ := Dict.contains_iff.1 hcontains
      refine ⟨(k, d), (Dict.get?_ofList_iff hn).1 hd, ?_⟩
      rw [hv]
      rfl

/-! ## What is read -/

/-- **What is read is the value completed.** -/
theorem completes_of_read (hs : shape.Sound) (h : shape.read d = .ok j) :
    Completes shape d j := by
  induction hs generalizing d j with
  | text =>
    cases d with
    | str s => cases h; exact .text s
    | _ => cases h
  | any =>
    rw [read] at h
    cases h
    exact .any d
  | list _ ih =>
    cases d with
    | arr ds =>
      rw [read, map_eq_ok_iff] at h
      obtain ⟨js, hjs, rfl⟩ := h
      obtain ⟨hlength, hitems⟩ := List.forall₂_iff_zip.1 (readItems_eq_ok_iff.1 hjs)
      exact .list hlength fun p hp => ih (hitems hp)
    | _ => cases h
  | @dict nullable item _ ih =>
    cases d with
    | null =>
      cases nullable with
      | true => cases h; exact .null
      | false => cases h
    | obj ds =>
      have step : (Shape.dict nullable item).read (.obj ds) =
          (readEntries item ds).map Json.ofMembers := by
        cases nullable <;> rw [read]
      rw [step, map_eq_ok_iff] at h
      obtain ⟨es, hes, rfl⟩ := h
      have hrel := rel_get?_ofList (R := fun d j => item.read d = .ok j)
        (readEntries_eq_ok_iff.1 hes)
      refine .dict (fun k => ?_) fun k v v' hv hv' => ih ?_
      · exact isSome_eq_of_rel (hrel k)
      · have hk := hrel k
        rw [hv, hv'] at hk
        cases hk with
        | some hread => exact hread
    | _ => cases nullable <;> cases h
  | record hn _ _ ih =>
    obtain ⟨ms, es, hgiven, hmembers, rfl⟩ := exists_of_read_record hn h
    refine .record hgiven hmembers.1 (fun f hf v v' hv hv' => ?_) fun f hf hnone => ?_
    · have hread : ReadFrom (ms.lookup f.1) f (es.lookup f.1) := hmembers.2 f hf
      rw [hv, hv'] at hread
      exact ih f hf (readFrom_some_iff.1 hread)
    · have hread : ReadFrom (ms.lookup f.1) f (es.lookup f.1) := hmembers.2 f hf
      rw [hnone] at hread
      exact hread

/-- What is given for a record has no repeated names if the value has none. -/
theorem distinct_of_given (hd : d.Distinct) (h : given fields d = some ms)
    (hk : ms.lookup k = some j) : j.Distinct := by
  have hmem : (k, j) ∈ ms := mem_of_lookup hk
  cases hd with
  | obj _ hms =>
    cases h
    exact hms _ hmem
  | arr hds =>
    rw [given] at h
    split at h
    · cases h
      exact hds _ (List.of_mem_zip hmem).2
    · cases h
  | _ => cases h

/-- **A value that can be completed is read**, if no name in it is given
    twice. -/
theorem read_of_completes (hs : shape.Sound) (hd : d.Distinct) (h : Completes shape d j) :
    shape.read d = .ok j := by
  induction hs generalizing d j with
  | text =>
    cases h with
    | text s => rfl
  | any =>
    cases h with
    | any d => rw [read]
  | list _ ih =>
    cases h with
    | list hlength hitems =>
      cases hd with
      | arr hds =>
        have hread := readItems_eq_ok_iff.2 <| List.forall₂_iff_zip.2
          ⟨hlength, fun h => ih (hds _ (List.of_mem_zip h).1) (hitems _ h)⟩
        rw [read, hread]
        rfl
  | @dict nullable item _ ih =>
    cases h with
    | null => rfl
    | dict hkeys hvalues =>
      cases hd with
      | obj hn hms =>
        obtain ⟨es, hes, rfl⟩ := exists_readEntries hn hkeys fun k v j hv hj =>
          ih (hms (k, v) ((Dict.get?_ofList_iff hn).1 hv)) (hvalues k v j hv hj)
        cases nullable <;> rw [read, hes] <;> rfl
  | record hn _ _ ih =>
    cases h with
    | @record _ _ _ ms es hgiven hnames hmembers hdefaults =>
      refine read_record_of_members hn hd hgiven ⟨hnames, fun f hf => ?_⟩
      cases hv : ms.lookup f.1 with
      | none =>
        rw [hv]
        exact hdefaults f hf hv
      | some v =>
        have hname : f.1 ∈ es.map (·.1) := by
          rw [hnames]
          exact List.mem_map_of_mem hf
        obtain ⟨j, hj⟩ := exists_lookup_of_mem hname
        rw [hv, hj]
        have hread := ih f hf (distinct_of_given hd hgiven hv) (hmembers f hf v j hv hj)
        exact readFrom_some_iff.2 hread

end Shape

end Concord
