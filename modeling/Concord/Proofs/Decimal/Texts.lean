/-
  A decimal number is known by its text in a JSON document.

  The sign stands first and an `e` tells the notation.  In places, all digits
  together are those of the number with zeros around them, so text and number
  determine each other; in powers of ten, the digits and the power are written
  one after the other.

  * `places`: all digits in their places.
  * `json_inj`: two numbers with one text are the same.
-/
import Mathlib.Algebra.Group.Nat.Defs
import Mathlib.Data.List.Basic
import Concord.Decimal.Basic

namespace Concord.Decimal

variable {d d' : Decimal}

/-! ## Numbers -/

theorem toDigits_inj {m n : Nat} (h : Nat.toDigits 10 m = Nat.toDigits 10 n) : m = n := by
  have hvalue := congrArg (Nat.ofDigitChars 10 · 0) h
  simpa only [Nat.ofDigitChars_ten_toDigits] using hvalue

theorem isDigit_of_mem_toDigits {n : Nat} {c : Char} (h : c ∈ Nat.toDigits 10 n) :
    c.isDigit = true :=
  Nat.isDigit_of_mem_toDigits (by decide) (by decide) h

theorem eq_of_fields (hn : d.negative = d'.negative) (hd : d.digits = d'.digits)
    (he : d.exponent = d'.exponent) : d = d' := by
  cases d
  cases d'
  cases hn
  cases hd
  cases he
  rfl

/-- Reduced numbers that are equal in units of some place agree in digits and
    exponent. -/
theorem eq_of_scaled {n : Int} (h : 0 ≤ d.exponent + n) (h' : 0 ≤ d'.exponent + n)
    (hle : d.exponent ≤ d'.exponent)
    (hvalue : d.digits * 10 ^ (d.exponent + n).toNat = d'.digits * 10 ^ (d'.exponent + n).toNat) :
    d.digits = d'.digits ∧ d.exponent = d'.exponent := by
  obtain ⟨k, hk⟩ := Int.eq_ofNat_of_zero_le (Int.sub_nonneg_of_le hle)
  have hsum : (d'.exponent + n).toNat = k + (d.exponent + n).toNat := by omega
  rw [hsum, Nat.pow_add, ← Nat.mul_assoc] at hvalue
  have hdigits : d.digits = d'.digits * 10 ^ k :=
    Nat.eq_of_mul_eq_mul_right (Nat.pow_pos (by decide)) hvalue
  cases k with
  | zero => exact ⟨by simpa using hdigits, by omega⟩
  | succ k =>
    -- the digits end in a zero, so both numbers are zero
    have hends : d.digits % 10 = 0 := by
      rw [hdigits, Nat.pow_succ, ← Nat.mul_assoc]
      exact Nat.mul_mod_left ..
    obtain ⟨hzero, hexp⟩ := d.reduced.resolve_left (not_not_intro hends)
    have hzero' : d'.digits = 0 := by
      rw [hzero] at hdigits
      exact (Nat.mul_eq_zero.1 hdigits.symm).resolve_right (Nat.ne_of_gt (Nat.pow_pos (by decide)))
    have hexp' : d'.exponent = 0 := by
      rcases d'.reduced with hne | ⟨-, hexp'⟩
      · rw [hzero'] at hne
        exact absurd rfl hne
      · exact hexp'
    exact ⟨hzero.trans hzero'.symm, hexp.trans hexp'.symm⟩

/-! ## In places -/

/-- The digits after the point where a fraction is always written. -/
def decimals (d : Decimal) : List Char := if d.fraction.isEmpty then ['0'] else d.fraction

/-- A whole number is followed by zeros up to the point. -/
theorem places_of_nonneg (h : 0 ≤ d.exponent) :
    d.wholePart = Nat.toDigits 10 d.digits ++ List.replicate d.exponent.toNat '0' ∧
      d.decimals = ['0'] := by
  have hlength : 0 < (Nat.toDigits 10 d.digits).length :=
    List.length_pos_of_ne_nil Nat.toDigits_ne_nil
  have hpoint : d.pointAt = (Nat.toDigits 10 d.digits).length + d.exponent := rfl
  have hp : 0 < d.pointAt := by omega
  have hbehind : (Nat.toDigits 10 d.digits).length ≤ d.pointAt.toNat := by omega
  constructor
  · simp only [wholePart, hp, if_true, List.take_of_length_le hbehind]
  · simp [decimals, fraction, hp, List.drop_eq_nil_of_le hbehind]

/-- The point falls between the digits. -/
theorem places_of_neg (hp : 0 < d.pointAt) (h : d.exponent < 0) :
    d.wholePart = (Nat.toDigits 10 d.digits).take d.pointAt.toNat ∧
      d.decimals = (Nat.toDigits 10 d.digits).drop d.pointAt.toNat := by
  have hpoint : d.pointAt = (Nat.toDigits 10 d.digits).length + d.exponent := rfl
  have hbefore : d.pointAt.toNat < (Nat.toDigits 10 d.digits).length := by omega
  have hzeros : d.exponent.toNat = 0 := by omega
  constructor
  · simp [wholePart, hp, hzeros]
  · simp [decimals, fraction, hp, Nat.not_le.2 hbefore]

/-- Zeros stand between the point and the digits. -/
theorem places_of_nonpos (hp : d.pointAt ≤ 0) :
    d.wholePart = ['0'] ∧
      d.decimals = List.replicate (-d.pointAt).toNat '0' ++ Nat.toDigits 10 d.digits := by
  have hp : ¬ 0 < d.pointAt := Int.not_lt.2 hp
  constructor
  · simp only [wholePart, hp, if_false]
  · simp [decimals, fraction, hp, Nat.toDigits_ne_nil]

/-- **All digits in their places** are the significant ones with zeros around
    them. -/
theorem places (d : Decimal) :
    0 ≤ d.exponent + d.decimals.length ∧ ∃ i, d.wholePart ++ d.decimals =
      List.replicate i '0' ++ Nat.toDigits 10 d.digits ++
        List.replicate (d.exponent + d.decimals.length).toNat '0' := by
  have hpoint : d.pointAt = (Nat.toDigits 10 d.digits).length + d.exponent := rfl
  by_cases hp : 0 < d.pointAt
  · by_cases he : 0 ≤ d.exponent
    · obtain ⟨hwhole, hdecimals⟩ := places_of_nonneg he
      have hzeros : (d.exponent + d.decimals.length).toNat = d.exponent.toNat + 1 := by
        rw [hdecimals, List.length_singleton]
        omega
      refine ⟨by omega, 0, ?_⟩
      rw [hzeros, hwhole, hdecimals, List.replicate_succ', List.append_assoc]
      rfl
    · obtain ⟨hwhole, hdecimals⟩ := places_of_neg hp (Int.not_le.1 he)
      have hend : d.exponent + d.decimals.length = 0 := by
        rw [hdecimals, List.length_drop]
        omega
      refine ⟨Int.le_of_eq hend.symm, 0, ?_⟩
      rw [hend, hwhole, hdecimals, List.take_append_drop]
      simp
  · obtain ⟨hwhole, hdecimals⟩ := places_of_nonpos (Int.not_lt.1 hp)
    have hend : d.exponent + d.decimals.length = 0 := by
      rw [hdecimals, List.length_append, List.length_replicate]
      omega
    refine ⟨Int.le_of_eq hend.symm, (-d.pointAt).toNat + 1, ?_⟩
    rw [hend, hwhole, hdecimals, List.replicate_succ]
    simp

theorem wholePart_ne_nil (d : Decimal) : d.wholePart ≠ [] := by
  by_cases hp : 0 < d.pointAt
  · by_cases he : 0 ≤ d.exponent
    · simp [(places_of_nonneg he).1, Nat.toDigits_ne_nil]
    · have htake : d.pointAt.toNat ≠ 0 := by omega
      simp [(places_of_neg hp (Int.not_le.1 he)).1, Nat.toDigits_ne_nil, htake]
  · simp [(places_of_nonpos (Int.not_lt.1 hp)).1]

/-- Read as a whole number, the digits in their places are the number in units
    of the last place. -/
theorem value_places (d : Decimal) :
    Nat.ofDigitChars 10 (d.wholePart ++ d.decimals) 0 =
      d.digits * 10 ^ (d.exponent + d.decimals.length).toNat := by
  obtain ⟨-, i, hplaces⟩ := d.places
  rw [hplaces, Nat.ofDigitChars_append, Nat.ofDigitChars_append, Nat.ofDigitChars_replicate_zero,
    Nat.ofDigitChars_replicate_zero, Nat.mul_zero, Nat.ofDigitChars_ten_toDigits, Nat.mul_comm]

theorem isDigit_of_mem_places {c : Char} (h : c ∈ d.wholePart ++ d.decimals) :
    c.isDigit = true := by
  obtain ⟨-, i, hplaces⟩ := d.places
  rw [hplaces, List.mem_append, List.mem_append, List.mem_replicate, List.mem_replicate] at h
  rcases h with (⟨-, rfl⟩ | h) | ⟨-, rfl⟩
  · rfl
  · exact isDigit_of_mem_toDigits h
  · rfl

/-- Numbers with the same digits in their places are the same, up to the sign. -/
theorem eq_of_places (hwhole : d.wholePart = d'.wholePart) (hdecimals : d.decimals = d'.decimals) :
    d.digits = d'.digits ∧ d.exponent = d'.exponent := by
  have hvalue := d.value_places
  have h' := d'.places.1
  rw [hwhole, hdecimals, d'.value_places] at hvalue
  rw [← hdecimals] at h' hvalue
  rcases Int.le_total d.exponent d'.exponent with hle | hle
  · exact eq_of_scaled d.places.1 h' hle hvalue.symm
  · exact (eq_of_scaled h' d.places.1 hle hvalue).imp Eq.symm Eq.symm

/-! ## In powers of ten -/

/-- The digits with a point after the first. -/
def mantissa (d : Decimal) : List Char :=
  match Nat.toDigits 10 d.digits with
  | [] => []
  | [c] => [c]
  | c :: r => c :: '.' :: r

/-- The power of ten with its sign. -/
def power (d : Decimal) : List Char :=
  (if d.pointAt - 1 < 0 then '-' else '+') :: Nat.toDigits 10 (d.pointAt - 1).natAbs

theorem filter_mantissa (d : Decimal) :
    d.mantissa.filter Char.isDigit = Nat.toDigits 10 d.digits := by
  have hdigits : ∀ c ∈ Nat.toDigits 10 d.digits, c.isDigit = true :=
    fun c => isDigit_of_mem_toDigits
  unfold mantissa
  split <;> rename_i h <;> rw [h] at hdigits ⊢
  · rfl
  · exact List.filter_eq_self.2 hdigits
  · obtain ⟨hc, hr⟩ := List.forall_mem_cons.1 hdigits
    rw [List.filter_cons_of_pos hc, List.filter_cons_of_neg (by decide), List.filter_eq_self.2 hr]

theorem mem_mantissa {c : Char} (h : c ∈ d.mantissa) : c.isDigit = true ∨ c = '.' := by
  unfold mantissa at h
  split at h <;> rename_i hds
  · cases h
  · exact .inl (isDigit_of_mem_toDigits (hds ▸ h))
  · rcases List.mem_cons.1 h with rfl | h
    · exact .inl (isDigit_of_mem_toDigits (hds ▸ List.mem_cons_self))
    · rcases List.mem_cons.1 h with rfl | h
      · exact .inr rfl
      · exact .inl (isDigit_of_mem_toDigits (hds ▸ List.mem_cons_of_mem _ h))

theorem mem_power {c : Char} (h : c ∈ d.power) : c.isDigit = true ∨ c ∈ ['-', '+'] := by
  rcases List.mem_cons.1 h with rfl | h
  · refine .inr ?_
    split <;> decide
  · exact .inl (isDigit_of_mem_toDigits h)

/-- The sign and the digits of the power tell it. -/
theorem pointAt_inj (h : d.power = d'.power) : d.pointAt = d'.pointAt := by
  obtain ⟨hsign, hdigits⟩ := List.cons.inj h
  have habs := toDigits_inj hdigits
  have hneg : d.pointAt - 1 < 0 ↔ d'.pointAt - 1 < 0 := by
    by_cases hd : d.pointAt - 1 < 0 <;> by_cases hd' : d'.pointAt - 1 < 0 <;>
      simp only [hd, hd', if_true, if_false] at hsign ⊢
    · cases hsign
    · cases hsign
  omega

/-- Numbers with the same digits and the same power of ten are the same, up to
    the sign. -/
theorem eq_of_mantissa (hmantissa : d.mantissa = d'.mantissa) (hpower : d.power = d'.power) :
    d.digits = d'.digits ∧ d.exponent = d'.exponent := by
  have hdigits : Nat.toDigits 10 d.digits = Nat.toDigits 10 d'.digits := by
    rw [← filter_mantissa, hmantissa, filter_mantissa]
  have hpoint := pointAt_inj hpower
  unfold pointAt at hpoint
  rw [hdigits] at hpoint
  exact ⟨toDigits_inj hdigits, by omega⟩

/-! ## Texts -/

/-- A number without its sign, in the notation of JSON documents. -/
def magnitude (d : Decimal) : List Char :=
  if -5 < d.pointAt && d.pointAt ≤ 16 then d.wholePart ++ '.' :: d.decimals
  else d.mantissa ++ 'e' :: d.power

theorem toList_json (d : Decimal) :
    d.json.toList = if d.negative then '-' :: d.magnitude else d.magnitude := by
  have hjson : d.json = d.signed d.magnitude := by
    unfold json magnitude
    split <;> rfl
  rw [hjson, signed, String.toList_ofList]

theorem mem_magnitude {c : Char} (h : c ∈ d.magnitude) :
    c.isDigit = true ∨ c ∈ ['.', 'e', '-', '+'] := by
  unfold magnitude at h
  split at h
  · rw [List.mem_append, List.mem_cons, or_left_comm, ← List.mem_append] at h
    rcases h with rfl | h
    · exact .inr (by decide)
    · exact .inl (isDigit_of_mem_places h)
  · rcases List.mem_append.1 h with h | h
    · rcases mem_mantissa h with h | rfl
      · exact .inl h
      · exact .inr (by decide)
    · rcases List.mem_cons.1 h with rfl | h
      · exact .inr (by decide)
      · refine (mem_power h).imp id fun h => ?_
        rcases List.mem_pair.1 h with rfl | rfl <;> decide

/-- Either notation has a character that no whole number has. -/
theorem mem_magnitude_of_notation (d : Decimal) : '.' ∈ d.magnitude ∨ 'e' ∈ d.magnitude := by
  unfold magnitude
  split
  · exact .inl (List.mem_append_right _ List.mem_cons_self)
  · exact .inr (List.mem_append_right _ List.mem_cons_self)

/-- The first character is a digit. -/
theorem exists_magnitude (d : Decimal) : ∃ c cs, d.magnitude = c :: cs ∧ c.isDigit = true := by
  unfold magnitude
  split
  · cases hwhole : d.wholePart with
    | nil => exact absurd hwhole d.wholePart_ne_nil
    | cons c cs =>
      have hc : c ∈ d.wholePart := hwhole ▸ List.mem_cons_self
      exact ⟨c, _, rfl, isDigit_of_mem_places (List.mem_append_left _ hc)⟩
  · obtain ⟨c, cs, hds⟩ := List.exists_cons_of_ne_nil (Nat.toDigits_ne_nil (n := d.digits) (b := 10))
    have hc : c.isDigit = true := isDigit_of_mem_toDigits (hds ▸ List.mem_cons_self)
    cases cs with
    | nil => exact ⟨c, _, by simp only [mantissa, hds]; rfl, hc⟩
    | cons c' cs => exact ⟨c, _, by simp only [mantissa, hds]; rfl, hc⟩

theorem e_notMem_places : 'e' ∉ d.wholePart ++ '.' :: d.decimals := by
  rw [List.mem_append, List.mem_cons, or_left_comm, ← List.mem_append]
  rintro (h | h)
  · cases h
  · cases isDigit_of_mem_places h

theorem e_notMem_mantissa : 'e' ∉ d.mantissa := by
  intro h
  rcases mem_mantissa h with h | h <;> cases h

theorem e_notMem_power : 'e' ∉ d.power := by
  intro h
  rcases mem_power h with h | h
  · cases h
  · exact absurd h (by decide)

/-- An `e` tells the notation, and in one notation the parts can be told apart. -/
theorem magnitude_inj (h : d.magnitude = d'.magnitude) :
    d.digits = d'.digits ∧ d.exponent = d'.exponent := by
  unfold magnitude at h
  split at h <;> split at h
  · have hwhole : '.' ∉ d.wholePart := fun hdot => by
      cases isDigit_of_mem_places (List.mem_append_left _ hdot)
    have hdecimals : '.' ∉ d.decimals := fun hdot => by
      cases isDigit_of_mem_places (List.mem_append_right _ hdot)
    obtain ⟨hwhole, -, hdecimals⟩ := (List.append_cons_inj_of_notMem hwhole hdecimals).1 h
    exact eq_of_places hwhole hdecimals
  · refine absurd ?_ (@e_notMem_places d)
    exact h ▸ List.mem_append_right _ List.mem_cons_self
  · refine absurd ?_ (@e_notMem_places d')
    exact h ▸ List.mem_append_right _ List.mem_cons_self
  · obtain ⟨hmantissa, -, hpower⟩ :=
      (List.append_cons_inj_of_notMem e_notMem_mantissa e_notMem_power).1 h
    exact eq_of_mantissa hmantissa hpower

/-- **Two numbers with one text are the same.** -/
theorem json_inj : d.json = d'.json ↔ d = d' := by
  refine ⟨fun h => ?_, congrArg json⟩
  obtain ⟨c, cs, hd, hc⟩ := d.exists_magnitude
  obtain ⟨c', cs', hd', hc'⟩ := d'.exists_magnitude
  have htext := congrArg String.toList h
  rw [toList_json, toList_json] at htext
  cases hn : d.negative <;> cases hn' : d'.negative <;>
    simp only [hn, hn', if_true, Bool.false_eq_true, if_false] at htext
  · obtain ⟨hdigits, hexp⟩ := magnitude_inj htext
    exact eq_of_fields (hn.trans hn'.symm) hdigits hexp
  · rw [hd] at htext
    obtain ⟨rfl, -⟩ := List.cons.inj htext
    cases hc
  · rw [hd'] at htext
    obtain ⟨rfl, -⟩ := List.cons.inj htext
    cases hc'
  · obtain ⟨hdigits, hexp⟩ := magnitude_inj (List.cons.inj htext).2
    exact eq_of_fields (hn.trans hn'.symm) hdigits hexp

end Concord.Decimal
