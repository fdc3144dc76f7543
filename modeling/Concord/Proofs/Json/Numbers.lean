/-
  Numbers of JSON texts, read up to their end.

  What a number is read as depends on its text alone, as long as what follows
  does not continue it.  Whole numbers of 64 bits are read back as they were
  written; of a decimal the text need not be read as the same decimal, since the
  reader computes in double precision.

  * `reads_int`, `reads_float`: the text of a number as a value.
  * `number_wholeNumber_iff`: the whole numbers that are read back.
-/
import Concord.Proofs.Json.Reading

namespace Concord.Json

variable {negative : Bool} {w f p ds text : List Char} {n : Nat}

/-! ## Runs of digits -/

theorem Ends.isDigit {rest : List Char} (h : Ends rest) : ∀ c ∈ rest.head?, c.isDigit = false := by
  intro c hc
  have hnumeral := h c hc
  rw [isNumeral, Bool.or_eq_false_iff] at hnumeral
  exact hnumeral.1

/-- A run of digits ends where something else stands. -/
theorem span_digits {t : List Char} (hw : ∀ c ∈ w, c.isDigit = true)
    (ht : ∀ c ∈ t.head?, c.isDigit = false) :
    (w ++ t).takeWhile Char.isDigit = w ∧ (w ++ t).dropWhile Char.isDigit = t := by
  rw [List.takeWhile_append_of_pos hw, List.dropWhile_append_of_pos hw]
  cases t with
  | nil => simp
  | cons c r => simp [ht c rfl]

theorem span_all_digits (hw : ∀ c ∈ w, c.isDigit = true) :
    w.takeWhile Char.isDigit = w ∧ w.dropWhile Char.isDigit = [] := by
  simpa using span_digits (t := []) hw (by simp)

/-! ## Numbers without a sign

A number is whole, has a fraction, has an exponent, or has both. -/

/-- A reader does with a text what it does where nothing follows. -/
def ReadsAlone {β : Type} (read : List Char → Option (β × List Char)) (text : List Char) : Prop :=
  Reads read text ((read text).map (·.1))

theorem readsAlone_whole (hw : ∀ c ∈ w, c.isDigit = true) :
    ReadsAlone (unsignedNumber negative) w := by
  intro rest hrest
  obtain ⟨htake, hdrop⟩ := span_digits hw hrest.isDigit
  obtain ⟨htake', hdrop'⟩ := span_all_digits hw
  unfold unsignedNumber
  simp only [htake, hdrop, htake', hdrop']
  split
  · rfl
  · -- what follows is no point and no exponent
    split
    · exact absurd (hrest _ rfl) (by decide)
    · exact absurd (hrest _ rfl) (by decide)
    · exact absurd (hrest _ rfl) (by decide)
    · repeat' split
      all_goals simp [Function.comp_def]

theorem readsAlone_fraction (hw : ∀ c ∈ w, c.isDigit = true) (hf : ∀ c ∈ f, c.isDigit = true) :
    ReadsAlone (unsignedNumber negative) (w ++ '.' :: f) := by
  intro rest hrest
  obtain ⟨htake, hdrop⟩ := span_digits (t := '.' :: (f ++ rest)) hw (by simp)
  obtain ⟨htake', hdrop'⟩ := span_digits (t := '.' :: f) hw (by simp)
  obtain ⟨hftake, hfdrop⟩ := span_digits hf hrest.isDigit
  obtain ⟨hftake', hfdrop'⟩ := span_all_digits hf
  rw [List.append_assoc, List.cons_append]
  unfold unsignedNumber
  simp only [htake, hdrop, htake', hdrop', hftake, hfdrop, hftake', hfdrop']
  split
  · rfl
  · split
    · rfl
    · split
      · exact absurd (hrest _ rfl) (by decide)
      · exact absurd (hrest _ rfl) (by decide)
      · simp [Function.comp_def]

/-- A power of ten after its `e`, whatever it is the power of. -/
def Powers (negative : Bool) (p : List Char) : Prop :=
  ∀ significand exponent, ReadsAlone (exponentPart negative significand exponent) p

theorem powers_of_sign {sign : Char} (hsign : sign = '-' ∨ sign = '+')
    (hds : ∀ c ∈ ds, c.isDigit = true) : Powers negative (sign :: ds) := by
  intro significand exponent rest hrest
  obtain ⟨htake, hdrop⟩ := span_digits hds hrest.isDigit
  obtain ⟨htake', hdrop'⟩ := span_all_digits hds
  unfold exponentPart
  rcases hsign with rfl | rfl <;>
    simp only [List.cons_append, htake, hdrop, htake', hdrop'] <;>
      (repeat' split) <;> simp [Function.comp_def]

theorem readsAlone_exponent (hw : ∀ c ∈ w, c.isDigit = true) (hp : Powers negative p) :
    ReadsAlone (unsignedNumber negative) (w ++ 'e' :: p) := by
  intro rest hrest
  obtain ⟨htake, hdrop⟩ := span_digits (t := 'e' :: (p ++ rest)) hw (by simp)
  obtain ⟨htake', hdrop'⟩ := span_digits (t := 'e' :: p) hw (by simp)
  rw [List.append_assoc, List.cons_append]
  unfold unsignedNumber
  simp only [htake, hdrop, htake', hdrop']
  split
  · rfl
  · exact hp _ _ rest hrest

theorem readsAlone_fraction_exponent (hw : ∀ c ∈ w, c.isDigit = true)
    (hf : ∀ c ∈ f, c.isDigit = true) (hp : Powers negative p) :
    ReadsAlone (unsignedNumber negative) (w ++ '.' :: (f ++ 'e' :: p)) := by
  intro rest hrest
  obtain ⟨htake, hdrop⟩ := span_digits (t := '.' :: (f ++ 'e' :: (p ++ rest))) hw (by simp)
  obtain ⟨htake', hdrop'⟩ := span_digits (t := '.' :: (f ++ 'e' :: p)) hw (by simp)
  obtain ⟨hftake, hfdrop⟩ := span_digits (t := 'e' :: (p ++ rest)) hf (by simp)
  obtain ⟨hftake', hfdrop'⟩ := span_digits (t := 'e' :: p) hf (by simp)
  simp only [List.append_assoc, List.cons_append]
  unfold unsignedNumber
  simp only [htake, hdrop, htake', hdrop', hftake, hfdrop, hftake', hfdrop']
  split
  · rfl
  · split
    · rfl
    · exact hp _ _ rest hrest

theorem powers_power (d : Decimal) : Powers negative d.power :=
  powers_of_sign (by split <;> simp) fun _ => Decimal.isDigit_of_mem_toDigits

theorem readsAlone_magnitude (d : Decimal) : ReadsAlone (unsignedNumber negative) d.magnitude := by
  unfold Decimal.magnitude
  split
  · exact readsAlone_fraction
      (fun c hc => Decimal.isDigit_of_mem_places (List.mem_append_left _ hc))
      (fun c hc => Decimal.isDigit_of_mem_places (List.mem_append_right _ hc))
  · have hdigits : ∀ c ∈ Nat.toDigits 10 d.digits, c.isDigit = true :=
      fun c => Decimal.isDigit_of_mem_toDigits
    unfold Decimal.mantissa
    split <;> rename_i hds <;> rw [hds] at hdigits
    · exact absurd hds Nat.toDigits_ne_nil
    · exact readsAlone_exponent hdigits (powers_power d)
    · obtain ⟨hc, hr⟩ := List.forall_mem_cons.1 hdigits
      exact readsAlone_fraction_exponent (w := [_]) (by simpa using hc) hr (powers_power d)

/-! ## Numbers with their signs -/

theorem number_of_isDigit {c : Char} (hc : c.isDigit = true) (cs : List Char) :
    number (c :: cs) = unsignedNumber false (c :: cs) := by
  unfold number
  split
  · rename_i heq
    obtain ⟨rfl, -⟩ := List.cons.inj heq
    cases hc
  · rfl

/-- A number after its sign, if it has one, begins with a digit. -/
theorem readsAlone_number (h : ∀ negative, ReadsAlone (unsignedNumber negative) text)
    (hfirst : ∃ c cs, text = c :: cs ∧ c.isDigit = true) (negative : Bool) :
    ReadsAlone number (if negative then '-' :: text else text) := by
  intro rest hrest
  cases negative with
  | true => exact h true rest hrest
  | false =>
    obtain ⟨c, cs, rfl, hc⟩ := hfirst
    have hread := h false rest hrest
    rw [List.cons_append] at hread
    show number (c :: (cs ++ rest)) = ((number (c :: cs)).map (·.1)).map (·, rest)
    rw [number_of_isDigit hc, number_of_isDigit hc, hread]

theorem first_toDigits (n : Nat) : ∃ c cs, Nat.toDigits 10 n = c :: cs ∧ c.isDigit = true := by
  obtain ⟨c, cs, hds⟩ := List.exists_cons_of_ne_nil (Nat.toDigits_ne_nil (n := n) (b := 10))
  exact ⟨c, cs, hds, Decimal.isDigit_of_mem_toDigits (hds ▸ List.mem_cons_self)⟩

theorem readsAlone_wholeNumber (n : Int) : ReadsAlone number (wholeNumber n) := by
  have hunsigned := readsAlone_number
    (fun _ => readsAlone_whole fun c => Decimal.isDigit_of_mem_toDigits)
    (first_toDigits n.natAbs) (n < 0)
  unfold wholeNumber
  simpa using hunsigned

theorem readsAlone_json (d : Decimal) : ReadsAlone number d.json.toList := by
  rw [Decimal.toList_json]
  exact readsAlone_number (fun _ => readsAlone_magnitude d) d.exists_magnitude d.negative

theorem isSpace_of_isNumeral {c : Char} (hc : isNumeral c = true) : isSpace c = false := by
  rw [isSpace, Bool.eq_false_iff]
  intro h
  simp only [Bool.or_eq_true, beq_iff_eq] at h
  rcases h with ((rfl | rfl) | rfl) | rfl <;> cases hc

/-- Where a number begins, a number is read. -/
theorem value_numeral (depth : Nat) {c : Char} (hc : isNumeral c = true) (cs : List Char) :
    value depth (c :: cs) = number (c :: cs) := by
  rw [value, skipSpace_cons (isSpace_of_isNumeral hc)]
  split
  -- what begins otherwise is no number
  all_goals first
    | rfl
    | rename_i heq
      obtain ⟨rfl, -⟩ := List.cons.inj heq
      cases hc

/-- **A number is read** as a value as it is read alone. -/
theorem reads_numeral (depth : Nat) (h : ReadsAlone number text)
    (hfirst : ∃ c cs, text = c :: cs ∧ isNumeral c = true) :
    Reads (value depth) text ((number text).map (·.1)) := by
  intro rest hrest
  obtain ⟨c, cs, rfl, hc⟩ := hfirst
  rw [List.cons_append, value_numeral depth hc, ← List.cons_append]
  exact h rest hrest

theorem first_wholeNumber (n : Int) :
    ∃ c cs, wholeNumber n = c :: cs ∧ isNumeral c = true := by
  obtain ⟨c, cs, hds, hc⟩ := first_toDigits n.natAbs
  unfold wholeNumber
  split
  · exact ⟨_, _, rfl, rfl⟩
  · exact ⟨c, cs, hds, isNumeral_of_isDigit hc⟩

theorem first_json (d : Decimal) : ∃ c cs, d.json.toList = c :: cs ∧ isNumeral c = true := by
  obtain ⟨c, cs, hmagnitude, hc⟩ := d.exists_magnitude
  rw [Decimal.toList_json, hmagnitude]
  split
  · exact ⟨_, _, rfl, rfl⟩
  · exact ⟨c, cs, rfl, isNumeral_of_isDigit hc⟩

theorem reads_int (depth : Nat) (n : Int) :
    Reads (value depth) (wholeNumber n) ((number (wholeNumber n)).map (·.1)) :=
  reads_numeral depth (readsAlone_wholeNumber n) (first_wholeNumber n)

theorem reads_float (depth : Nat) (d : Decimal) :
    Reads (value depth) d.json.toList ((number d.json.toList).map (·.1)) :=
  reads_numeral depth (readsAlone_json d) (first_json d)

/-! ## Whole numbers -/

theorem head?_toDigits (h : 0 < n) : (Nat.toDigits 10 n).head? ≠ some '0' := by
  induction n using Nat.strongRecOn with
  | ind n ih =>
    rcases Nat.lt_or_ge n 10 with hlt | hge
    · have hdigit : ∀ d : Fin 10, 0 < d.val → some d.val.digitChar ≠ some '0' := by decide
      rw [Nat.toDigits_of_lt_base hlt, List.head?_cons]
      exact hdigit ⟨n, hlt⟩ h
    · have hfirst := ih (n / 10) (by omega) (by omega)
      rw [Nat.toDigits_of_base_le (by decide) hge]
      rwa [List.head?_append_of_ne_nil _ Nat.toDigits_ne_nil]

theorem not_leading_zero (n : Nat) :
    ((Nat.toDigits 10 n).head? = some '0' && 1 < (Nat.toDigits 10 n).length) = false := by
  rcases Nat.eq_zero_or_pos n with rfl | h
  · rfl
  · simp [head?_toDigits h]

theorem le_ofDigitChars (ds : List Char) (n : Nat) : n ≤ Nat.ofDigitChars 10 ds n := by
  rw [Nat.ofDigitChars_eq_ofDigitChars_zero]
  exact Nat.le_add_right_of_le (Nat.le_mul_of_pos_left n (Nat.pow_pos (by decide)))

/-- Digits are absorbed while their number is in range. -/
theorem absorb_of_le (h : Nat.ofDigitChars 10 ds n ≤ significandLimit) :
    absorb n ds = (Nat.ofDigitChars 10 ds n, []) := by
  induction ds generalizing n with
  | nil => rfl
  | cons c ds ih =>
    rw [Nat.ofDigitChars_cons, Nat.mul_comm] at h ⊢
    have hnext := Nat.le_trans (le_ofDigitChars ds _) h
    rw [absorb, if_neg (Nat.not_lt.2 hnext), ih h]

theorem spare_of_lt (hn : n ≤ significandLimit) (h : significandLimit < Nat.ofDigitChars 10 ds n) :
    (absorb n ds).2 ≠ [] := by
  induction ds generalizing n with
  | nil => exact absurd hn (Nat.not_le.2 h)
  | cons c ds ih =>
    rw [Nat.ofDigitChars_cons, Nat.mul_comm] at h
    rw [absorb]
    split
    · simp
    · rename_i hfits
      exact ih (Nat.not_lt.1 hfits) h

theorem scaledDecimal_ne_int (negative : Bool) (n : Nat) (exponent m : Int) :
    scaledDecimal negative n exponent ≠ some (int m) := by
  intro h
  obtain ⟨s, -, hs⟩ := Option.bind_eq_some_iff.1 h
  simp only at hs
  repeat' split at hs
  all_goals
    obtain ⟨d, -, hd⟩ := Option.bind_eq_some_iff.1 hs
    cases hd

/-- Which whole number is made of digits: none if there are too many of them. -/
theorem unsignedNumber_toDigits (m : Int) :
    unsignedNumber negative (Nat.toDigits 10 n) = some (int m, []) ↔
      if negative then n ≠ 0 ∧ n ≤ 9223372036854775808 ∧ m = -n
      else n ≤ significandLimit ∧ m = n := by
  obtain ⟨htake, hdrop⟩ := span_all_digits (w := Nat.toDigits 10 n)
    fun c => Decimal.isDigit_of_mem_toDigits
  unfold unsignedNumber
  simp only [htake, hdrop, not_leading_zero, List.isEmpty_iff, Nat.toDigits_ne_nil, Bool.or_false]
  rcases Nat.lt_or_ge significandLimit n with hover | hfits
  · have hspare : (absorb 0 (Nat.toDigits 10 n)).2 ≠ [] :=
      spare_of_lt (Nat.zero_le _) (by rwa [Nat.ofDigitChars_ten_toDigits])
    have hlarge : ¬n ≤ 9223372036854775808 := by
      rw [significandLimit] at hover
      omega
    simp [hspare, scaledDecimal_ne_int, Nat.not_le.2 hover, hlarge]
  · have habsorb : absorb 0 (Nat.toDigits 10 n) = (n, []) := by
      rw [absorb_of_le] <;> rw [Nat.ofDigitChars_ten_toDigits]
      exact hfits
    simp only [habsorb]
    cases negative with
    | false => simp [hfits, eq_comm]
    | true =>
      by_cases hn : n ≠ 0 ∧ n ≤ 9223372036854775808
      · simp [hn, eq_comm]
      · have hnone : ¬(n ≠ 0 ∧ n ≤ 9223372036854775808 ∧ m = -n) :=
          fun h => hn ⟨h.1, h.2.1⟩
        have hbool : (decide (n ≠ 0) && decide (n ≤ 9223372036854775808)) = false := by
          simpa using hn
        simp only [Bool.not_true, Bool.false_eq_true, if_false, hbool, hnone]
        simp [scaledDecimal_ne_int]

/-- **A whole number is read back** if it has 64 bits. -/
theorem number_wholeNumber_iff (m : Int) :
    number (wholeNumber m) = some (int m, []) ↔
      -9223372036854775808 ≤ m ∧ m ≤ 18446744073709551615 := by
  unfold wholeNumber
  split
  · rename_i hneg
    rw [number, unsignedNumber_toDigits, if_pos rfl]
    omega
  · rename_i hneg
    obtain ⟨c, cs, hds, hc⟩ := first_toDigits m.natAbs
    rw [hds, number_of_isDigit hc, ← hds, unsignedNumber_toDigits, if_neg Bool.false_ne_true,
      significandLimit]
    omega

end Concord.Json
