/-
  Records that are read by their shape.

  Objects and lists are read as records in different ways, but what is read is
  the same: members under the names of the shape, each of them read from what is
  given for it, or else its default.

  * `readItems_eq_ok_iff`, `readEntries_eq_ok_iff`: lists and dictionaries.
  * `Members`, `ReadFrom`: the members of a record, each as it has to be.
  * `exists_of_read_obj`, `read_obj_of_members`: objects read as records.
  * `readPositions_eq_ok_iff`: lists read as records.
-/
import Mathlib.Data.List.Forall2
import Concord.Proofs.Dict
import Concord.Schema.Basic

namespace Concord

/-! ## Results -/

section Results

variable {ε α β : Type} {x : Except ε α} {f : α → β} {g : α → Except ε β} {b : β}

theorem map_eq_ok_iff : x.map f = .ok b ↔ ∃ a, x = .ok a ∧ f a = b := by
  cases x <;> simp [Except.map]

theorem bind_eq_ok_iff : x.bind g = .ok b ↔ ∃ a, x = .ok a ∧ g a = .ok b := by
  cases x <;> simp [Except.bind]

end Results

namespace Shape

variable {item shape : Shape} {fields : List (String × Shape × Option Json)}
  {f : String × Shape × Option Json} {ds js : List Json} {ms es found : List (String × Json)}
  {d j : Json} {name k : String}

/-! ## Lists and dictionaries -/

theorem readItems_eq_ok_iff :
    readItems item ds = .ok js ↔ List.Forall₂ (fun d j => item.read d = .ok j) ds js := by
  induction ds generalizing js with
  | nil => cases js <;> simp [readItems]
  | cons d ds ih =>
    have step : readItems item (d :: ds) =
        (item.read d).bind fun v => (readItems item ds).bind fun vs => .ok (v :: vs) := by
      rw [readItems]
      rfl
    rw [step, bind_eq_ok_iff, List.forall₂_cons_left_iff]
    simp only [bind_eq_ok_iff, ih]
    constructor
    · rintro ⟨v, hv, vs, hvs, heq⟩
      cases heq
      exact ⟨v, vs, hv, hvs, rfl⟩
    · rintro ⟨v, vs, hv, hvs, rfl⟩
      exact ⟨v, hv, vs, hvs, rfl⟩

theorem readEntries_eq_ok_iff :
    readEntries item ms = .ok es ↔
      List.Forall₂ (fun e e' => e.1 = e'.1 ∧ item.read e.2 = .ok e'.2) ms es := by
  induction ms generalizing es with
  | nil => cases es <;> simp [readEntries]
  | cons e ms ih =>
    have step : readEntries item (e :: ms) =
        (item.read e.2).bind fun v =>
          (readEntries item ms).bind fun vs => .ok ((e.1, v) :: vs) := by
      rw [readEntries]
      rfl
    rw [step, bind_eq_ok_iff, List.forall₂_cons_left_iff]
    simp only [bind_eq_ok_iff, ih]
    constructor
    · rintro ⟨v, hv, vs, hvs, heq⟩
      cases heq
      exact ⟨(e.1, v), vs, ⟨rfl, hv⟩, hvs, rfl⟩
    · rintro ⟨⟨k, v⟩, vs, ⟨rfl, hv⟩, hvs, rfl⟩
      exact ⟨v, hv, vs, hvs, rfl⟩

/-! ## Members -/

/-- The names of the members of a record. -/
def names (fields : List (String × Shape × Option Json)) : List String := fields.map (·.1)

/-- Members under the names of a record, each of which is as it has to be for
    its field. -/
def Members (fields : List (String × Shape × Option Json))
    (P : String × Shape × Option Json → Option Json → Prop) (es : List (String × Json)) : Prop :=
  es.map (·.1) = names fields ∧ ∀ f ∈ fields, P f (es.lookup f.1)

theorem members_nil_iff {P : String × Shape × Option Json → Option Json → Prop} :
    Members [] P es ↔ es = [] := by
  simp [Members, names]

/-- The members of a record are those of its first field and of the others. -/
theorem members_cons_iff {P : String × Shape × Option Json → Option Json → Prop}
    (hn : (names (f :: fields)).Nodup) :
    Members (f :: fields) P es ↔
      ∃ v rest, es = (f.1, v) :: rest ∧ P f (some v) ∧ Members fields P rest := by
  have hnot : f.1 ∉ names fields := (List.nodup_cons.1 hn).1
  have later : ∀ (v : Json) (rest : List (String × Json)), ∀ g ∈ fields,
      ((f.1, v) :: rest).lookup g.1 = rest.lookup g.1 := by
    intro v rest g hg
    have hne : g.1 ≠ f.1 := fun h => hnot (List.mem_map.2 ⟨g, hg, h⟩)
    rw [lookup_cons_ite, if_neg hne]
  constructor
  · rintro ⟨hnames, hall⟩
    obtain ⟨⟨k, v⟩, rest, rfl, hk, hrest⟩ := List.map_eq_cons_iff.1 hnames
    obtain rfl : k = f.1 := hk
    refine ⟨v, rest, rfl, ?_, hrest, fun g hg => ?_⟩
    · have hf := hall f List.mem_cons_self
      rwa [lookup_cons_ite, if_pos rfl] at hf
    · have hg' := hall g (List.mem_cons_of_mem _ hg)
      rwa [later v rest g hg] at hg'
  · rintro ⟨v, rest, rfl, hf, hrest, hall⟩
    refine ⟨by rw [List.map_cons, hrest]; rfl, fun g hg => ?_⟩
    rcases List.mem_cons.1 hg with rfl | hg
    · rwa [lookup_cons_ite, if_pos rfl]
    · rw [later v rest g hg]
      exact hall g hg

/-- The members of a record are given by their values, one for each field. -/
theorem members_iff_forall₂ {P : String × Shape × Option Json → Option Json → Prop}
    (hn : (names fields).Nodup) :
    Members fields P es ↔
      ∃ vs, es = (names fields).zip vs ∧ List.Forall₂ (fun f v => P f (some v)) fields vs := by
  induction fields generalizing es with
  | nil => simp [members_nil_iff, names]
  | cons f fields ih =>
    simp only [members_cons_iff hn, ih (List.nodup_cons.1 hn).2, List.forall₂_cons_left_iff]
    constructor
    · rintro ⟨v, _, rfl, hf, vs, rfl, hvs⟩
      exact ⟨v :: vs, rfl, v, vs, hf, hvs, rfl⟩
    · rintro ⟨_, rfl, v, vs, hf, hvs, rfl⟩
      exact ⟨v, _, rfl, hf, vs, rfl, hvs⟩

theorem members_congr {P Q : String × Shape × Option Json → Option Json → Prop}
    (h : ∀ f ∈ fields, ∀ v, P f v ↔ Q f v) : Members fields P es ↔ Members fields Q es :=
  and_congr_right fun _ => forall₂_congr fun f hf => h f hf _

/-- The member of a record that is read from the value given for it, or is
    filled in. -/
def ReadFrom (given : Option Json) (f : String × Shape × Option Json) (v : Option Json) : Prop :=
  match given with
  | some d => ∃ j, v = some j ∧ f.2.1.read d = .ok j
  | none => v = f.2.2

theorem readFrom_some_iff : ReadFrom (some d) f (some j) ↔ f.2.1.read d = .ok j := by
  simp [ReadFrom]

theorem ReadFrom.unique {given v v' : Option Json} (h : ReadFrom given f v)
    (h' : ReadFrom given f v') : v = v' := by
  cases given with
  | none => exact Eq.trans h (Eq.symm h')
  | some d =>
    obtain ⟨j, rfl, hj⟩ := h
    obtain ⟨j', rfl, hj'⟩ := h'
    rw [hj] at hj'
    cases hj'
    rfl

/-- A member that is read, or else its default. -/
theorem readFrom_of_rel {given found : Option Json}
    (h : Option.Rel (fun d j => f.2.1.read d = .ok j) given found) :
    ReadFrom given f (found.or f.2.2) := by
  cases h with
  | some hread => exact readFrom_some_iff.2 hread
  | none => rfl

/-! ## Objects -/

/-- A member is passed over, or read by its shape. -/
theorem readMembers_cons_eq_ok_iff {e : String × Json} :
    readMembers fields (e :: ms) = .ok found ↔
      (fields.lookup e.1 = none ∧ readMembers fields ms = .ok found) ∨
        ∃ shape default? v rest, fields.lookup e.1 = some (shape, default?) ∧
          shape.read e.2 = .ok v ∧ readMembers fields ms = .ok rest ∧ found = (e.1, v) :: rest := by
  rw [readMembers]
  cases hk : fields.lookup e.1 with
  | none => simp
  | some known =>
    obtain ⟨shape, default?⟩ := known
    have step : (do
        let v ← shape.read e.2
        let vs ← readMembers fields ms
        Except.ok ((e.1, v) :: vs)) = (shape.read e.2).bind fun v =>
          (readMembers fields ms).bind fun vs => .ok ((e.1, v) :: vs) := rfl
    simp only [step, bind_eq_ok_iff]
    constructor
    · rintro ⟨v, hv, rest, hrest, heq⟩
      cases heq
      exact .inr ⟨shape, default?, v, rest, rfl, hv, hrest, rfl⟩
    · rintro (⟨hnone, -⟩ | ⟨_, _, v, rest, hsome, hv, hrest, rfl⟩)
      · cases hnone
      · cases hsome
        exact ⟨v, hv, rest, hrest, rfl⟩

/-- What is found under a name that the record knows is what is read of the
    member. -/
theorem lookup_readMembers (h : readMembers fields ms = .ok found) {default? : Option Json}
    (hk : fields.lookup k = some (shape, default?)) :
    Option.Rel (fun d j => shape.read d = .ok j) (ms.lookup k) (found.lookup k) := by
  induction ms generalizing found with
  | nil =>
    rw [readMembers] at h
    cases h
    exact .none
  | cons e ms ih =>
    rw [lookup_cons_ite]
    obtain ⟨hnone, hrest⟩ | ⟨shape', _, v, rest, hknown, hv, hrest, rfl⟩ :=
      readMembers_cons_eq_ok_iff.1 h
    · have hne : k ≠ e.1 := fun heq => by rw [heq, hnone] at hk; cases hk
      rw [if_neg hne]
      exact ih hrest
    · rw [lookup_cons_ite]
      split
      · rename_i heq
        rw [heq, hknown] at hk
        cases hk
        exact .some hv
      · exact ih hrest

/-- Members are read if each one that the record knows is. -/
theorem exists_readMembers
    (h : ∀ e ∈ ms, ∀ shape default?, fields.lookup e.1 = some (shape, default?) →
      ∃ j, shape.read e.2 = .ok j) : ∃ found, readMembers fields ms = .ok found := by
  induction ms with
  | nil => exact ⟨[], by rw [readMembers]⟩
  | cons e ms ih =>
    obtain ⟨rest, hrest⟩ := ih fun e he => h e (List.mem_cons_of_mem _ he)
    cases hk : fields.lookup e.1 with
    | none => exact ⟨rest, readMembers_cons_eq_ok_iff.2 (.inl ⟨hk, hrest⟩)⟩
    | some known =>
      obtain ⟨shape, default?⟩ := known
      obtain ⟨v, hv⟩ := h e List.mem_cons_self shape default? hk
      exact ⟨_, readMembers_cons_eq_ok_iff.2 (.inr ⟨shape, default?, v, rest, hk, hv, hrest, rfl⟩)⟩

/-- A record is complete if each member is found or has a default. -/
theorem complete_eq_ok_iff (hn : (names fields).Nodup) :
    complete found fields = .ok es ↔
      Members fields (fun f v => v = (found.lookup f.1).or f.2.2) es := by
  induction fields generalizing es with
  | nil =>
    rw [complete, members_nil_iff, Except.ok.injEq]
    exact eq_comm
  | cons f fields ih =>
    have hrest : (names fields).Nodup := (List.nodup_cons.1 hn).2
    rw [members_cons_iff hn]
    rw [complete]
    cases hfound : (found.lookup f.1).or f.2.2 with
    | none => simp
    | some v =>
      simp only [map_eq_ok_iff, ih hrest, Option.some.injEq]
      constructor
      · rintro ⟨rest, hmembers, rfl⟩
        exact ⟨v, rest, rfl, rfl, hmembers⟩
      · rintro ⟨_, rest, rfl, rfl, hmembers⟩
        exact ⟨rest, hmembers, rfl⟩

/-- What is read of an object are its members. -/
theorem exists_of_read_obj (hn : (names fields).Nodup)
    (h : (Shape.record name fields).read (.obj ms) = .ok j) :
    ∃ es, Members fields (fun f => ReadFrom (ms.lookup f.1) f) es ∧ j = .ofMembers es := by
  rw [read, bind_eq_ok_iff] at h
  obtain ⟨found, hfound, hassemble⟩ := h
  rw [assemble, map_eq_ok_iff] at hassemble
  obtain ⟨es, hes, rfl⟩ := hassemble
  obtain ⟨hnames, hvalues⟩ := (complete_eq_ok_iff hn).1 hes
  refine ⟨es, ⟨hnames, fun f hf => ?_⟩, rfl⟩
  rw [hvalues f hf]
  exact readFrom_of_rel (lookup_readMembers hfound (lookup_of_mem hn hf))

/-- An object is read as a record if its members are, and none is given
    twice. -/
theorem read_obj_of_members (hn : (names fields).Nodup) (hms : (ms.map (·.1)).Nodup)
    (h : Members fields (fun f => ReadFrom (ms.lookup f.1) f) es) :
    (Shape.record name fields).read (.obj ms) = .ok (.ofMembers es) := by
  obtain ⟨found, hfound⟩ : ∃ found, readMembers fields ms = .ok found := by
    refine exists_readMembers fun e he shape default? hk => ?_
    have hf : (e.1, shape, default?) ∈ fields := mem_of_lookup hk
    have hvalue : ReadFrom (ms.lookup e.1) (e.1, shape, default?) (es.lookup e.1) := h.2 _ hf
    rw [lookup_of_mem hms he] at hvalue
    obtain ⟨v, -, hv⟩ := hvalue
    exact ⟨v, hv⟩
  have hcomplete : complete found fields = .ok es := by
    rw [complete_eq_ok_iff hn]
    refine ⟨h.1, fun f hf => (h.2 f hf).unique ?_⟩
    exact readFrom_of_rel (lookup_readMembers hfound (lookup_of_mem hn hf))
  rw [read, hfound, Except.bind, assemble, hcomplete]
  rfl

/-! ## Lists -/

/-- The rest of a record is filled in with defaults. -/
theorem fillUp_eq_ok_iff {total taken : Nat} :
    fillUp name total taken fields = .ok es ↔ complete [] fields = .ok es := by
  induction fields generalizing taken es with
  | nil => rfl
  | cons f fields ih =>
    obtain ⟨field, shape, default?⟩ := f
    cases default? with
    | none => simp [fillUp, complete]
    | some v => simp only [fillUp, complete, List.lookup_nil, Option.none_or, map_eq_ok_iff, ih]

/-- A list is read as the members that its items are given for. -/
theorem readPositions_eq_ok_iff {total listed taken : Nat} (hn : (names fields).Nodup) :
    readPositions name total listed taken fields ds = .ok es ↔ ds.length ≤ fields.length ∧
      Members fields (fun f => ReadFrom (((names fields).zip ds).lookup f.1) f) es := by
  induction fields generalizing ds taken es with
  | nil =>
    rw [members_nil_iff]
    cases ds <;> simp [readPositions, fillUp, eq_comm]
  | cons f fields ih =>
    cases ds with
    | nil =>
      rw [readPositions, fillUp_eq_ok_iff, complete_eq_ok_iff hn]
      simp only [List.zip_nil_right, List.lookup_nil, Option.none_or, List.length_nil,
        Nat.zero_le, true_and]
      exact members_congr fun _ _ _ => Iff.rfl
    | cons d ds =>
      obtain ⟨hnot, hrest⟩ := List.nodup_cons.1 hn
      have hne : ∀ g ∈ fields, g.1 ≠ f.1 := fun g hg h => hnot (List.mem_map.2 ⟨g, hg, h⟩)
      have step : readPositions name total listed taken (f :: fields) (d :: ds) =
          (f.2.1.read d).bind fun v =>
            (readPositions name total listed (taken + 1) fields ds).bind fun vs =>
              .ok ((f.1, v) :: vs) := by
        rw [readPositions]
        rfl
      have hzip : (names (f :: fields)).zip (d :: ds) = (f.1, d) :: (names fields).zip ds := rfl
      rw [step, members_cons_iff hn, hzip, List.length_cons, List.length_cons]
      simp only [bind_eq_ok_iff, ih hrest, Nat.add_le_add_iff_right]
      have later : ∀ vs, Members fields
          (fun g => ReadFrom (((f.1, d) :: (names fields).zip ds).lookup g.1) g) vs ↔
            Members fields (fun g => ReadFrom (((names fields).zip ds).lookup g.1) g) vs :=
        fun vs => members_congr fun g hg v => by rw [lookup_cons_ite, if_neg (hne g hg)]
      constructor
      · rintro ⟨v, hv, vs, ⟨hlength, hvs⟩, heq⟩
        cases heq
        refine ⟨hlength, v, vs, rfl, ?_, (later vs).2 hvs⟩
        rw [lookup_cons_ite, if_pos rfl]
        exact readFrom_some_iff.2 hv
      · rintro ⟨hlength, v, vs, rfl, hf, hvs⟩
        rw [lookup_cons_ite, if_pos rfl] at hf
        exact ⟨v, readFrom_some_iff.1 hf, vs, ⟨hlength, (later vs).1 hvs⟩, rfl⟩

end Shape

end Concord
