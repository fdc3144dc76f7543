/-
  What the comparison of options does not see.

  Options are compared as texts.  As no two values have one compact text, the
  only difference that is lost is the one that is meant to be: between a value
  and the string of its text, and between `null` and nothing.

  * `textOf?_eq_iff`: when two values have one text.
  * `agree_iff_equated`: when two maps of options agree.
-/
import Concord.Options
import Concord.Proofs.Dict
import Concord.Proofs.Json.Compact

namespace Concord.Options

variable {v w : Json} {a b : Dict Json} {k : String}

/-! ## Values -/

/-- Whether an option is given as a string. -/
def IsText (v : Json) : Prop := ∃ s, v = .str s

/-- Two values that are taken for one: the same, or exactly one of them a string
    and this the text of the other. -/
def Equated (v w : Json) : Prop :=
  v = w ∨ (v = .str w.compact ∧ ¬ IsText w) ∨ (w = .str v.compact ∧ ¬ IsText v)

theorem equated_comm : Equated v w ↔ Equated w v := by
  rw [Equated, Equated, eq_comm (a := v) (b := w), or_comm (a := v = .str w.compact ∧ _)]

/-- A string is taken for the value that it is the text of. -/
theorem equated_str_iff {s : String} (htext : ¬ IsText w) :
    Equated (.str s) w ↔ s = w.compact := by
  constructor
  · rintro (h | ⟨h, -⟩ | ⟨-, h⟩)
    · exact absurd ⟨s, h.symm⟩ htext
    · exact Json.str.inj h
    · exact absurd ⟨s, rfl⟩ h
  · rintro rfl
    exact .inr (.inl ⟨rfl, htext⟩)

/-- Values that are no strings are never taken for each other. -/
theorem equated_iff_eq (hv : ¬ IsText v) (hw : ¬ IsText w) : Equated v w ↔ v = w := by
  refine ⟨?_, .inl⟩
  rintro (h | ⟨h, -⟩ | ⟨h, -⟩)
  · exact h
  · exact absurd ⟨_, h⟩ hv
  · exact absurd ⟨_, h⟩ hw

theorem isSome_textOf? : (textOf? v).isSome ↔ v ≠ .null := by
  cases v <;> simp [textOf?]

theorem textOf?_of_not_isText (hv : v ≠ .null) (htext : ¬ IsText v) :
    textOf? v = some v.compact := by
  cases v with
  | null => exact absurd rfl hv
  | str s => exact absurd ⟨s, rfl⟩ htext
  | _ => rfl

theorem textOf?_str_eq_iff {s : String} (hw : w ≠ .null) (htext : ¬ IsText w) :
    textOf? (.str s) = textOf? w ↔ Equated (.str s) w := by
  rw [textOf?_of_not_isText hw htext, textOf?, Option.some_inj, equated_str_iff htext]

/-- Values that are no strings share no text. -/
theorem textOf?_inj (htv : ¬ IsText v) (htw : ¬ IsText w) : textOf? v = textOf? w ↔ v = w := by
  refine ⟨fun h => ?_, congrArg textOf?⟩
  by_cases hv : v = .null
  · subst hv
    by_contra hne
    have hsome : (textOf? w).isSome := isSome_textOf?.2 (Ne.symm hne)
    rw [← h] at hsome
    cases hsome
  · have hw : w ≠ .null := isSome_textOf?.1 (h ▸ isSome_textOf?.2 hv)
    rw [textOf?_of_not_isText hv htv, textOf?_of_not_isText hw htw] at h
    exact Json.compact_inj.1 (Option.some.inj h)

/-- **Two values have one text** exactly if they are taken for one. -/
theorem textOf?_eq_iff (hv : v ≠ .null) (hw : w ≠ .null) :
    textOf? v = textOf? w ↔ Equated v w := by
  by_cases htv : IsText v <;> by_cases htw : IsText w
  · obtain ⟨s, rfl⟩ := htv
    obtain ⟨t, rfl⟩ := htw
    simp [textOf?, Equated, IsText]
  · obtain ⟨s, rfl⟩ := htv
    exact textOf?_str_eq_iff hw htw
  · obtain ⟨t, rfl⟩ := htw
    rw [eq_comm, equated_comm]
    exact textOf?_str_eq_iff hv htv
  · rw [textOf?_inj htv htw, equated_iff_eq htv htw]

/-! ## Maps of options -/

/-- Whether a map gives a value other than `null` to an option. -/
def Given (raw : Dict Json) (k : String) : Prop := ∃ v, raw.get? k = some v ∧ v ≠ .null

theorem isSome_get?_ofRaw : ((ofRaw a).get? k).isSome ↔ Given a k := by
  rw [ofRaw, Dict.get?_filterMap, Given]
  cases a.get? k with
  | none => simp
  | some v => simp [isSome_textOf?]

theorem get?_ofRaw (h : a.get? k = some v) : (ofRaw a).get? k = textOf? v := by
  rw [ofRaw, Dict.get?_filterMap, h, Option.bind_some]

/-- Normalized options agree if they do under each name. -/
theorem ofRaw_eq_iff : ofRaw a = ofRaw b ↔ (∀ k, Given a k ↔ Given b k) ∧
    ∀ k v w, a.get? k = some v → b.get? k = some w → v ≠ .null → w ≠ .null → Equated v w := by
  constructor
  · intro h
    refine ⟨fun k => ?_, fun k v w hv hw hnv hnw => ?_⟩
    · rw [← isSome_get?_ofRaw, h, isSome_get?_ofRaw]
    · rw [← textOf?_eq_iff hnv hnw, ← get?_ofRaw hv, h, get?_ofRaw hw]
  · rintro ⟨hgiven, hequated⟩
    refine Dict.ext_get? fun k => ?_
    by_cases hk : Given a k
    · obtain ⟨v, hv, hnv⟩ := hk
      obtain ⟨w, hw, hnw⟩ := (hgiven k).1 ⟨v, hv, hnv⟩
      rw [get?_ofRaw hv, get?_ofRaw hw]
      exact (textOf?_eq_iff hnv hnw).2 (hequated k v w hv hw hnv hnw)
    · have hnone : ∀ raw, ¬ Given raw k → (ofRaw raw).get? k = none := fun raw hraw =>
        Option.not_isSome_iff_eq_none.1 (mt isSome_get?_ofRaw.1 hraw)
      rw [hnone a hk, hnone b (mt (hgiven k).2 hk)]

/-- **Normalized options agree** exactly if the same options are given a value
    and the two values of each are taken for one.  Different values that are no
    strings never share a text, and decimals are known by theirs. -/
theorem agree_iff_equated (a b : Dict Json) :
    ((ofRaw a == ofRaw b) = true ↔ (∀ k, Given a k ↔ Given b k) ∧
      ∀ k v w, a.get? k = some v → b.get? k = some w → v ≠ .null → w ≠ .null → Equated v w) ∧
      (∀ v w, ¬ IsText v → ¬ IsText w → (textOf? v = textOf? w ↔ v = w)) ∧
      ∀ d d' : Decimal, d.json = d'.json ↔ d = d' := by
  refine ⟨?_, fun v w => textOf?_inj, fun d d' => Decimal.json_inj⟩
  rw [beq_iff_eq]
  exact ofRaw_eq_iff

/-- A number agrees with its text, but not inside an array. -/
example :
    ofRaw (Dict.ofList [("version", .int 2)]) = ofRaw (Dict.ofList [("version", .str "2")]) ∧
      ofRaw (Dict.ofList [("version", .arr [.int 2])]) ≠
        ofRaw (Dict.ofList [("version", .arr [.str "2"])]) := by
  decide

end Concord.Options
