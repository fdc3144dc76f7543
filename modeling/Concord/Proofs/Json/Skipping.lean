/-
  Values that nobody asks for.

  Such a value is passed over up to the place where it is read to, if it is read,
  and the text of a value that is read back is passed over as a whole.

  * `skipString_of_stringChars`, `skipNumber_of_number`: strings and numbers.
  * `agree_passOver`: values in any text.
  * `reads_passOver`: the texts of values.
-/
import Concord.Proofs.Json.Agreement
import Concord.Proofs.Json.Rereading

namespace Concord.Json

variable {cs rest rest' : List Char}

/-! ## Strings and numbers -/

/-- What follows a string that is read follows it if it is passed over. -/
theorem skipString_of_stringChars {acc : List Char} {t : String}
    (h : stringChars acc cs = some (t, rest)) : skipString cs = some rest := by
  fun_induction stringChars acc cs with
  | case1 acc r =>
    cases h
    rfl
  | case2 acc a b c d e f g k r ih ih' =>
    obtain ⟨high, hhigh, hrest⟩ := Option.bind_eq_some_iff.1 h
    rw [skipString, hhigh, Option.isSome_some, if_pos rfl]
    split at hrest
    · obtain ⟨low, hlow, hrest⟩ := Option.bind_eq_some_iff.1 hrest
      rw [skipString, hlow, Option.isSome_some, if_pos rfl]
      split at hrest
      · obtain ⟨x, -, hrest⟩ := Option.bind_eq_some_iff.1 hrest
        exact ih x hrest
      · cases hrest
    · obtain ⟨x, -, hrest⟩ := Option.bind_eq_some_iff.1 hrest
      exact ih' x hrest
  | case3 acc a b c d r _ ih =>
    obtain ⟨n, hn, hrest⟩ := Option.bind_eq_some_iff.1 h
    obtain ⟨x, -, hrest⟩ := Option.bind_eq_some_iff.1 hrest
    rw [skipString, hn, Option.isSome_some, if_pos rfl]
    exact ih x hrest
  | case4 acc r _ _ ih | case5 acc r _ _ ih | case6 acc r _ _ ih | case7 acc r _ _ ih
  | case8 acc r _ _ ih | case9 acc r _ _ ih | case10 acc r _ _ ih | case11 acc r _ _ ih =>
    -- an escape of one letter, which is not that of a code
    rw [skipString, if_pos (by decide)]
    · exact ih h
    · intro _ _ _ _ _ hu
      cases hu
  | case12 | case13 | case15 => cases h
  | case14 acc c r hquote _ hcode hescape hplain ih =>
    rw [skipString, if_neg hplain]
    · exact ih h
    · exact hquote
    · exact hcode
    · exact hescape

section Numbers

variable {negative : Bool} {significand : Nat} {exponent : Int} {j : Json}

theorem rest_of_scaledDecimal
    (h : (scaledDecimal negative significand exponent).map (·, cs) = some (j, rest)) :
    cs = rest := by
  obtain ⟨_, -, heq⟩ := Option.map_eq_some_iff.1 h
  cases heq
  rfl

theorem skipExponent_of_exponentPart
    (h : exponentPart negative significand exponent cs = some (j, rest)) {c : Char}
    (hc : c = 'e' ∨ c = 'E') : skipExponent (c :: cs) = some rest := by
  have hskip : skipExponent (c :: cs) = skipExponent ('e' :: cs) := by
    rcases hc with rfl | rfl <;> rfl
  rw [hskip]
  unfold exponentPart at h
  unfold skipExponent
  split at h
  rename_i down r heq
  split at heq
  all_goals
    cases heq
    simp only at h ⊢
    split at h
    · cases h
    · rename_i hdigits
      rw [if_neg hdigits]
      split at h
      · split at h
        · cases h
          rfl
        · cases h
      · rw [rest_of_scaledDecimal h]

theorem skipExponent_eq_self (he : ∀ r, cs ≠ 'e' :: r) (hE : ∀ r, cs ≠ 'E' :: r) :
    skipExponent cs = some cs := by
  unfold skipExponent
  split
  · exact absurd rfl (he _)
  · exact absurd rfl (hE _)
  · rfl

theorem skipUnsigned_of_unsignedNumber
    (h : unsignedNumber negative cs = some (j, rest)) : skipUnsigned cs = some rest := by
  unfold unsignedNumber at h
  unfold skipUnsigned
  by_cases hwhole : ((cs.takeWhile Char.isDigit).isEmpty ||
      ((cs.takeWhile Char.isDigit).head? = some '0' &&
        1 < (cs.takeWhile Char.isDigit).length)) = true
  · rw [if_pos hwhole] at h
    cases h
  · rw [if_neg hwhole] at h ⊢
    simp only at h
    split at h
    · rename_i r hr
      rw [hr]
      split at h
      · cases h
      · rename_i hdigits
        simp only [if_neg hdigits]
        split at h
        · rename_i heq
          rw [heq]
          exact skipExponent_of_exponentPart h (.inl rfl)
        · rename_i heq
          rw [heq]
          exact skipExponent_of_exponentPart h (.inr rfl)
        · rename_i he hE
          rw [skipExponent_eq_self he hE, rest_of_scaledDecimal h]
    · rename_i r hr
      rw [hr]
      exact skipExponent_of_exponentPart h (.inl rfl)
    · rename_i r hr
      rw [hr]
      exact skipExponent_of_exponentPart h (.inr rfl)
    · rename_i hpoint he hE
      have hrest : cs.dropWhile Char.isDigit = rest := by
        repeat' split at h
        · exact rest_of_scaledDecimal h
        · cases h
          rfl
        · cases h
          rfl
        · exact rest_of_scaledDecimal h
      split
      · exact absurd ‹_› (hpoint _)
      · rw [skipExponent_eq_self he hE, hrest]

theorem skipNumber_of_number (h : number cs = some (j, rest)) :
    skipNumber cs = some rest := by
  unfold number at h
  split at h
  · exact skipUnsigned_of_unsignedNumber h
  · rename_i hsign
    rw [skipNumber]
    · exact skipUnsigned_of_unsignedNumber h
    · exact hsign

end Numbers

/-! ## Values -/

theorem skipSpace_skipSpace (cs : List Char) : skipSpace (skipSpace cs) = skipSpace cs := by
  unfold skipSpace
  induction cs with
  | nil => rfl
  | cons c r ih =>
    rw [List.dropWhile_cons]
    split
    · exact ih
    · rename_i hc
      exact List.dropWhile_cons_of_neg hc

theorem value_skipSpace (depth : Nat) (cs : List Char) :
    value depth (skipSpace cs) = value depth cs := by
  rw [value, value, skipSpace_skipSpace]

theorem exists_of_value_bracket {depth : Nat} {d : Json}
    (h : value depth ('[' :: cs) = some (d, rest)) :
    ∃ n ds, depth = n + 1 ∧ elements ']' (value n) cs = some (ds, rest) ∧ d = .arr ds := by
  cases depth with
  | zero =>
    rw [value_zero_bracket] at h
    cases h
  | succ n =>
    rw [value_bracket] at h
    obtain ⟨⟨ds, r⟩, hds, heq⟩ := Option.map_eq_some_iff.1 h
    cases heq
    exact ⟨n, ds, rfl, hds, rfl⟩

theorem exists_of_value_brace {depth : Nat} {d : Json}
    (h : value depth ('\x7b' :: cs) = some (d, rest)) :
    ∃ n ms, depth = n + 1 ∧ elements '\x7d' (member (value n)) cs = some (ms, rest) ∧
      d = ofMembers ms := by
  cases depth with
  | zero =>
    rw [value_zero_brace] at h
    cases h
  | succ n =>
    rw [value_brace] at h
    obtain ⟨⟨ms, r⟩, hms, heq⟩ := Option.map_eq_some_iff.1 h
    cases heq
    exact ⟨n, ms, rfl, hms, rfl⟩

/-- The reader of a value that is passed over. -/
def passOver (fuel : Nat) (cs : List Char) : Option (Unit × List Char) :=
  (skipValue fuel cs).map fun rest => ((), rest)

/-- The reader of a member that is passed over. -/
def passOverMember (fuel : Nat) (cs : List Char) : Option (Unit × List Char) :=
  match skipSpace cs with
  | '"' :: r => (skipString r).bind fun cs =>
    match skipSpace cs with
    | ':' :: r => passOver fuel r
    | _ => none
  | _ => none

section Containers

variable {fuel depth : Nat} {d : Json}

theorem agree_passOverMember (h : Agree (passOver fuel) (value depth) fun _ _ => True) :
    Agree (passOverMember fuel) (member (value depth)) fun _ _ => True := by
  intro cs x rest e rest' hx he
  obtain ⟨s, k, t, v, hs, hk, ht, hv⟩ := keyed_cases (keyed_of_member he)
  simp only [passOverMember, hs, skipString_of_stringChars hk, Option.bind_some, ht] at hx
  obtain ⟨⟨d, r⟩, hd, heq⟩ := Option.map_eq_some_iff.1 hv
  cases heq
  exact h v x rest d r hx hd

theorem rest_of_bracket (h : ∀ depth, Agree (passOver fuel) (value depth) fun _ _ => True)
    (hskip : (elements ']' (passOver fuel) cs).map (·.2) = some rest)
    (hd : value depth ('[' :: cs) = some (d, rest')) : rest = rest' := by
  obtain ⟨n, ds, rfl, hds, rfl⟩ := exists_of_value_bracket hd
  obtain ⟨⟨xs, r⟩, hxs, rfl⟩ := Option.map_eq_some_iff.1 hskip
  exact ((h n).elements _ _ _ _ _ hxs hds).1

theorem rest_of_brace (h : ∀ depth, Agree (passOver fuel) (value depth) fun _ _ => True)
    (hskip : (elements '\x7d' (passOverMember fuel) cs).map (·.2) = some rest)
    (hd : value depth ('\x7b' :: cs) = some (d, rest')) : rest = rest' := by
  obtain ⟨n, ms, rfl, hms, rfl⟩ := exists_of_value_brace hd
  obtain ⟨⟨xs, r⟩, hxs, rfl⟩ := Option.map_eq_some_iff.1 hskip
  exact ((agree_passOverMember (h n)).elements _ _ _ _ _ hxs hms).1

end Containers

/-- **A value is passed over** up to the place where it is read to. -/
theorem agree_passOver (fuel depth : Nat) :
    Agree (passOver fuel) (value depth) fun _ _ => True := by
  induction fuel generalizing depth with
  | zero =>
    intro cs x rest d rest' h
    cases h
  | succ fuel ih =>
    intro cs x rest d rest' h h'
    obtain ⟨r, hr, heq⟩ := Option.map_eq_some_iff.1 h
    obtain rfl : r = rest := congrArg Prod.snd heq
    refine ⟨?_, trivial⟩
    rw [← value_skipSpace] at h'
    unfold skipValue at hr
    split at hr
    -- the cases are those of the first characters, the last one that of a number
    · rename_i heq
      rw [heq, value_null] at h'
      cases hr
      cases h'
      rfl
    · rename_i heq
      rw [heq, value_true] at h'
      cases hr
      cases h'
      rfl
    · rename_i heq
      rw [heq, value_false] at h'
      cases hr
      cases h'
      rfl
    · rename_i s heq
      rw [heq, value_quote] at h'
      obtain ⟨⟨t, r'⟩, ht, heq⟩ := Option.map_eq_some_iff.1 h'
      cases heq
      rw [skipString_of_stringChars ht] at hr
      exact (Option.some.inj hr).symm
    · rename_i s heq
      rw [heq] at h'
      exact rest_of_bracket ih hr h'
    · rename_i s heq
      rw [heq] at h'
      exact rest_of_brace ih hr h'
    · rename_i hn ht hf hq ha ho
      rw [value, skipSpace_skipSpace] at h'
      split at h'
      · exact absurd ‹_› (hn _)
      · exact absurd ‹_› (ht _)
      · exact absurd ‹_› (hf _)
      · exact absurd ‹_› (hq _)
      · exact absurd ‹_› (ha _)
      · exact absurd ‹_› (ho _)
      · rw [skipNumber_of_number h'] at hr
        exact (Option.some.inj hr).symm

/-! ## Texts that are passed over -/

theorem skipValue_numeral (fuel : Nat) {c : Char} (hc : isNumeral c = true) (cs : List Char) :
    skipValue (fuel + 1) (c :: cs) = skipNumber (c :: cs) := by
  rw [skipValue, skipSpace_cons (isSpace_of_isNumeral hc)]
  split
  -- what begins otherwise is no number
  all_goals first
    | rfl
    | rename_i heq
      obtain ⟨rfl, -⟩ := List.cons.inj heq
      cases hc

theorem reads_passOver_numeral (fuel : Nat) {text : List Char} {j : Json}
    (h : ReadsAlone number text) (hj : number text = some (j, []))
    (hfirst : ∃ c cs, text = c :: cs ∧ isNumeral c = true) :
    Reads (passOver (fuel + 1)) text (some ()) := by
  intro rest hrest
  have hread := h rest hrest
  rw [hj] at hread
  have hskip := skipNumber_of_number hread
  obtain ⟨c, cs, rfl, hc⟩ := hfirst
  rw [List.cons_append] at hskip ⊢
  rw [passOver, skipValue_numeral fuel hc, hskip]
  rfl

theorem reads_passOver_null (fuel : Nat) :
    Reads (passOver (fuel + 1)) null.compactChars (some ()) := by
  intro rest _
  have hspace : isSpace 'n' = false := by decide
  show passOver (fuel + 1) ('n' :: 'u' :: 'l' :: 'l' :: rest) = _
  rw [passOver, skipValue, skipSpace_cons hspace]
  rfl

theorem reads_passOver_bool (fuel : Nat) (b : Bool) :
    Reads (passOver (fuel + 1)) (bool b).compactChars (some ()) := by
  intro rest _
  cases b with
  | true =>
    have hspace : isSpace 't' = false := by decide
    show passOver (fuel + 1) ('t' :: 'r' :: 'u' :: 'e' :: rest) = _
    rw [passOver, skipValue, skipSpace_cons hspace]
    rfl
  | false =>
    have hspace : isSpace 'f' = false := by decide
    show passOver (fuel + 1) ('f' :: 'a' :: 'l' :: 's' :: 'e' :: rest) = _
    rw [passOver, skipValue, skipSpace_cons hspace]
    rfl

theorem reads_passOver_str (fuel : Nat) (s : String) :
    Reads (passOver (fuel + 1)) (str s).compactChars (some ()) := by
  intro rest _
  show passOver (fuel + 1) (quoted s ++ rest) = _
  rw [quoted_append, passOver, skipValue, skipSpace_cons isSpace_quote]
  simp only [skipString_of_stringChars (stringChars_quoted _ _)]
  rfl

theorem reads_passOver_arr {fuel : Nat} {items : List Json}
    (h : ∀ j ∈ items, Reads (passOver fuel) j.compactChars (some ())) :
    Reads (passOver (fuel + 1)) (arr items).compactChars (some ()) := by
  intro rest _
  have hitems : elements ']' (passOver fuel)
      (compactItems (items.map id) ++ ']' :: rest) = _ := elements_items h rest
  rw [List.map_id, mapM_eq_some_map (f := fun _ => ()) fun _ _ => rfl] at hitems
  rw [compactChars_arr, passOver, skipValue, skipSpace_cons isSpace_bracket]
  show ((elements ']' (passOver fuel) (compactItems items ++ ']' :: rest)).map _).map _ = _
  rw [hitems]
  rfl

theorem reads_passOverMember {fuel : Nat} {e : String × Json}
    (h : Reads (passOver fuel) e.2.compactChars (some ())) :
    Reads (passOverMember fuel) (memberChars e) (some ()) := by
  intro rest hrest
  simp only [memberChars, List.append_assoc, quoted_append, List.cons_append, passOverMember,
    skipSpace_cons isSpace_quote, skipString_of_stringChars (stringChars_quoted _ _),
    Option.bind_some, skipSpace_cons isSpace_colon]
  exact h rest hrest

theorem reads_passOver_obj {fuel : Nat} {members : List (String × Json)}
    (h : ∀ e ∈ members, Reads (passOver fuel) e.2.compactChars (some ())) :
    Reads (passOver (fuel + 1)) (obj members).compactChars (some ()) := by
  intro rest _
  have hmembers : elements '\x7d' (passOverMember fuel)
      (compactMembers members ++ '\x7d' :: rest) = _ :=
    elements_members (fun e he => reads_passOverMember (h e he)) rest
  rw [mapM_eq_some_map (f := fun _ => ()) fun _ _ => rfl] at hmembers
  rw [compactChars_obj, passOver, skipValue, skipSpace_cons isSpace_brace]
  show ((elements '\x7d' (passOverMember fuel)
    (compactMembers members ++ '\x7d' :: rest)).map _).map _ = _
  rw [hmembers]
  rfl

theorem length_lt_followers_of_mem {α : Type} (f : α → List Char) {x : α} {l : List α}
    (h : x ∈ l) : (f x).length < (followers f l).length := by
  induction l with
  | nil => cases h
  | cons y l ih =>
    rw [followers_cons, List.length_cons, List.length_append]
    rcases List.mem_cons.1 h with rfl | h
    · omega
    · have hlt := ih h
      omega

theorem length_le_listing_of_mem {α : Type} (f : α → List Char) {x : α} {l : List α}
    (h : x ∈ l) : (f x).length ≤ (listing f l).length := by
  cases l with
  | nil => cases h
  | cons y l =>
    rw [listing, List.length_append]
    rcases List.mem_cons.1 h with rfl | h
    · exact Nat.le_add_right _ _
    · have hlt := length_lt_followers_of_mem f h
      omega

theorem length_lt_of_mem_items {j : Json} {items : List Json} (h : j ∈ items) :
    j.compactChars.length < (arr items).compactChars.length := by
  have hle := length_le_listing_of_mem compactChars h
  simp only [compactChars, compactItems_eq, List.length_cons, List.length_append]
  omega

theorem length_lt_of_mem_members {e : String × Json} {members : List (String × Json)}
    (h : e ∈ members) : e.2.compactChars.length < (obj members).compactChars.length := by
  have hle := length_le_listing_of_mem memberChars h
  rw [memberChars, List.length_append, List.length_cons] at hle
  simp only [compactChars, compactMembers_eq, List.length_cons, List.length_append]
  omega

/-- **The text of a value that is read back is passed over.**  The fuel suffices
    since items and members have shorter texts. -/
theorem reads_passOver {depth : Nat} {j : Json} (h : ReadsBack depth j) {fuel : Nat}
    (hfuel : j.compactChars.length ≤ fuel) :
    Reads (passOver (fuel + 1)) j.compactChars (some ()) := by
  induction h generalizing fuel with
  | null => exact reads_passOver_null fuel
  | bool b => exact reads_passOver_bool fuel b
  | @int _ n hlow hhigh =>
    exact reads_passOver_numeral fuel (readsAlone_wholeNumber n)
      ((number_wholeNumber_iff n).2 ⟨hlow, hhigh⟩) (first_wholeNumber n)
  | @float _ d hd => exact reads_passOver_numeral fuel (readsAlone_json d) hd (first_json d)
  | str s => exact reads_passOver_str fuel s
  | @arr depth items _ ih =>
    refine reads_passOver_arr fun j hj => ?_
    have hlt := length_lt_of_mem_items hj
    obtain ⟨n, rfl⟩ : ∃ n, fuel = n + 1 := ⟨fuel - 1, by omega⟩
    exact ih j hj (by omega)
  | @obj depth members _ _ ih =>
    refine reads_passOver_obj fun e he => ?_
    have hlt := length_lt_of_mem_members he
    obtain ⟨n, rfl⟩ : ∃ n, fuel = n + 1 := ⟨fuel - 1, by omega⟩
    exact ih e he (by omega)

end Concord.Json
