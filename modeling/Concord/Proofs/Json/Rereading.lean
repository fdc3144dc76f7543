/-
  Values that are read back from their texts.

  A text is read as the value that it is written of, except that its numbers are
  read anew, that members are put in order, and that nothing is read of a value
  that nests too deep.

  * `reread`: what is read of the text of a value.
  * `ReadsBack`: the values of which nothing is changed thereby.
  * `reads_reread`, `reread_eq_self_iff`.
-/
import Concord.Proofs.Json.Numbers

namespace Concord.Json

variable {depth : Nat}

/-! ## Reading anew -/

/-- What is read of the text of a value whose arrays and objects may nest
    `depth` deep. -/
def reread : Nat → Json → Option Json
  | _, null => some null
  | _, bool b => some (bool b)
  | _, int n => (number (wholeNumber n)).map (·.1)
  | _, float d => (number d.json.toList).map (·.1)
  | _, str s => some (str s)
  | 0, arr _ => none
  | 0, obj _ => none
  | depth + 1, arr items => (items.mapM (reread depth)).map arr
  | depth + 1, obj members => (members.mapM (keep fun e => reread depth e.2)).map ofMembers

theorem reads_null (depth : Nat) : Reads (value depth) null.compactChars (some null) :=
  fun rest _ => value_null depth rest

theorem reads_bool (depth : Nat) (b : Bool) :
    Reads (value depth) (bool b).compactChars (some (bool b)) := by
  intro rest _
  cases b with
  | true => exact value_true depth rest
  | false => exact value_false depth rest

/-- **The text of any value is read.** -/
theorem reads_reread (depth : Nat) (j : Json) :
    Reads (value depth) j.compactChars (reread depth j) := by
  induction j using Json.induction generalizing depth with
  | null => rw [reread]; exact reads_null depth
  | bool b => rw [reread]; exact reads_bool depth b
  | int n => rw [reread]; exact reads_int depth n
  | float d => rw [reread]; exact reads_float depth d
  | str s => rw [reread]; exact reads_str depth s
  | arr items ih =>
    cases depth with
    | zero =>
      intro rest _
      rw [compactChars_arr, value_zero_bracket]
      rfl
    | succ depth => exact reads_arr fun j hj => ih j hj depth
  | obj members ih =>
    cases depth with
    | zero =>
      intro rest _
      rw [compactChars_obj, value_zero_brace]
      rfl
    | succ depth => exact reads_obj fun e he => ih e he depth

/-- The texts of items are read anew one by one. -/
theorem reread_arr_map {α : Type} {encode decoded : α → Json} {l : List α}
    (h : ∀ x ∈ l, reread depth (encode x) = some (decoded x)) :
    reread (depth + 1) (arr (l.map encode)) = some (arr (l.map decoded)) := by
  have hitems : l.mapM (reread depth ∘ encode) = some (l.map decoded) := mapM_eq_some_map h
  rw [reread, List.mapM_map, hitems, Option.map_some]

/-! ## Values that are read back -/

/-- A value that is read back from its text, where arrays and objects may nest
    `depth` deep. -/
inductive ReadsBack : Nat → Json → Prop
  | null {depth : Nat} : ReadsBack depth .null
  | bool {depth : Nat} (b : Bool) : ReadsBack depth (.bool b)
  /-- Whole numbers have 64 bits, with a sign or without. -/
  | int {depth : Nat} {n : Int} : -9223372036854775808 ≤ n → n ≤ 18446744073709551615 →
      ReadsBack depth (.int n)
  /-- The text of a decimal is read as the same decimal. -/
  | float {depth : Nat} {d : Decimal} : number d.json.toList = some (.float d, []) →
      ReadsBack depth (.float d)
  | str {depth : Nat} (s : String) : ReadsBack depth (.str s)
  | arr {depth : Nat} {items : List Json} : (∀ j ∈ items, ReadsBack depth j) →
      ReadsBack (depth + 1) (.arr items)
  /-- Members are in the order of their names. -/
  | obj {depth : Nat} {members : List (String × Json)} : (members.map (·.1)).Pairwise (· < ·) →
      (∀ e ∈ members, ReadsBack depth e.2) → ReadsBack (depth + 1) (.obj members)

@[simp] theorem readsBack_arr_iff {items : List Json} :
    ReadsBack (depth + 1) (.arr items) ↔ ∀ j ∈ items, ReadsBack depth j := by
  constructor
  · rintro (_ | _ | _ | _ | _ | h)
    exact h
  · exact .arr

@[simp] theorem readsBack_obj_iff {members : List (String × Json)} :
    ReadsBack (depth + 1) (.obj members) ↔
      (members.map (·.1)).Pairwise (· < ·) ∧ ∀ e ∈ members, ReadsBack depth e.2 := by
  constructor
  · rintro (_ | _ | _ | _ | _ | _ | ⟨hsorted, h⟩)
    exact ⟨hsorted, h⟩
  · exact fun h => .obj h.1 h.2

theorem keep_eq_some_iff {g : String × Json → Option Json} {e : String × Json} :
    keep g e = some e ↔ g e = some e.2 := by
  simp [keep, Prod.ext_iff]

/-- Members in order that are all read back, and no others, make the object that
    they are members of. -/
theorem ofMembers_mapM_eq_self_iff {g : String × Json → Option Json} {ms : List (String × Json)} :
    (ms.mapM (keep g)).map ofMembers = some (obj ms) ↔
      (ms.map (·.1)).Pairwise (· < ·) ∧ ∀ e ∈ ms, g e = some e.2 := by
  have hself : (∀ e ∈ ms, g e = some e.2) ↔ ms.mapM (keep g) = some ms := by
    simp only [mapM_eq_self_iff, keep_eq_some_iff]
  rw [hself]
  have hsorted : ∀ es : List (String × Json), (es.map (·.1)).Pairwise (· < ·) →
      ofMembers es = obj es := fun es hes => ofMembers_entries ⟨es, List.pairwise_map.1 hes⟩
  constructor
  · intro h
    obtain ⟨es, hes, hobj⟩ := Option.map_eq_some_iff.1 h
    have hms : (Dict.ofList es).entries = ms := Json.obj.inj hobj
    have hpairwise : (ms.map (·.1)).Pairwise (· < ·) := by
      rw [← hms]
      exact List.pairwise_map.2 (Dict.ofList es).sorted
    have hkeys := keys_of_mapM_keep hes
    rw [hsorted es (hkeys ▸ hpairwise)] at hobj
    exact ⟨hpairwise, Json.obj.inj hobj ▸ hes⟩
  · rintro ⟨hpairwise, hms⟩
    rw [hms, Option.map_some, hsorted ms hpairwise]

theorem number_eq_iff {text : List Char} {j : Json} (h : ReadsAlone number text) :
    (number text).map (·.1) = some j ↔ number text = some (j, []) := by
  have halone : number (text ++ []) = _ := h [] (by simp [Ends])
  rw [List.append_nil] at halone
  constructor
  · intro hj
    rw [halone, hj]
    rfl
  · intro hj
    rw [hj]
    rfl

theorem reread_int_iff {n : Int} :
    reread depth (int n) = some (int n) ↔ ReadsBack depth (int n) := by
  rw [reread, number_eq_iff (readsAlone_wholeNumber n), number_wholeNumber_iff]
  constructor
  · rintro ⟨hlow, hhigh⟩
    exact .int hlow hhigh
  · rintro (_ | _ | ⟨hlow, hhigh⟩)
    exact ⟨hlow, hhigh⟩

theorem reread_float_iff {d : Decimal} :
    reread depth (float d) = some (float d) ↔ ReadsBack depth (float d) := by
  rw [reread, number_eq_iff (readsAlone_json d)]
  constructor
  · exact .float
  · rintro (_ | _ | _ | h)
    exact h

/-- **What is read of the text of a value is the value** just if it is read
    back. -/
theorem reread_eq_self_iff {j : Json} : reread depth j = some j ↔ ReadsBack depth j := by
  induction j using Json.induction generalizing depth with
  | null => exact iff_of_true (by rw [reread]) .null
  | bool b => exact iff_of_true (by rw [reread]) (.bool b)
  | int n => exact reread_int_iff
  | float d => exact reread_float_iff
  | str s => exact iff_of_true (by rw [reread]) (.str s)
  | arr items ih =>
    cases depth with
    | zero => exact iff_of_false (by simp [reread]) (by rintro ⟨⟩)
    | succ depth =>
      have hitems : reread (depth + 1) (arr items) = some (arr items) ↔
          ∀ j ∈ items, reread depth j = some j := by
        simp only [reread, Option.map_eq_some_iff, arr.injEq, exists_eq_right, mapM_eq_self_iff]
      rw [hitems, readsBack_arr_iff]
      exact forall₂_congr fun j hj => ih j hj
  | obj members ih =>
    cases depth with
    | zero => exact iff_of_false (by simp [reread]) (by rintro ⟨⟩)
    | succ depth =>
      rw [reread, ofMembers_mapM_eq_self_iff, readsBack_obj_iff]
      exact and_congr_right fun _ => forall₂_congr fun e he => ih e he

end Concord.Json
