/-
  Strings of JSON texts are read back as they were written.

  * `stringChars_escape`: one character, whatever follows it.
  * `stringChars_quoted`: a string up to its closing quote.
  * `quoted_append_inj`: so a text begins with one string at most.
-/
import Concord.Json.Reader
import Concord.Json.Text

namespace Concord.Json

/-! ## Characters -/

theorem hexValue_hexDigit : ∀ n < 16, hexValue (hexDigit n) = some n := by
  decide

theorem hex4_hexDigit {n : Nat} (h : n < 256) :
    hex4 '0' '0' (hexDigit (n / 16)) (hexDigit (n % 16)) = some n := by
  have hhigh := hexValue_hexDigit (n / 16) (by omega)
  have hlow := hexValue_hexDigit (n % 16) (by omega)
  have hzero : hexValue '0' = some 0 := by decide
  simp only [hex4, hhigh, hlow, hzero, Option.bind_eq_bind, Option.bind_some, Option.some.injEq]
  omega

theorem charOf?_toNat (c : Char) : charOf? c.toNat = some c :=
  dif_pos c.valid

/-- A control character is read from its four digits, as these are no half of
    another character. -/
theorem stringChars_control (acc : List Char) {c : Char} {u v : Char} (h : c.toNat < 0x20)
    (hhex : hex4 '0' '0' u v = some c.toNat) (rest : List Char) :
    stringChars acc ('\\' :: 'u' :: '0' :: '0' :: u :: v :: rest) =
      stringChars (c :: acc) rest := by
  have hhigh : ¬ (0xD800 ≤ c.toNat ∧ c.toNat ≤ 0xDBFF) := by omega
  rw [stringChars.eq_def]
  split
  case h_1 heq => cases heq
  case h_2 heq =>
    simp only [List.cons.injEq] at heq
    obtain ⟨-, -, rfl, rfl, rfl, rfl, rfl⟩ := heq
    simp [hhex, charOf?_toNat, hhigh]
  case h_3 heq =>
    simp only [List.cons.injEq] at heq
    obtain ⟨-, -, rfl, rfl, rfl, rfl, rfl⟩ := heq
    simp [hhex, charOf?_toNat]
  case h_4 hnone heq =>
    obtain ⟨rfl, rfl⟩ := List.cons.inj (List.cons.inj heq).2
    exact absurd rfl (hnone _ _ _ _ _ rfl)
  case h_5 hnone heq =>
    obtain ⟨rfl, rfl⟩ := List.cons.inj heq
    exact absurd rfl (hnone _ _ rfl)
  case h_6 heq => cases heq

theorem stringChars_plain (acc : List Char) {c : Char} (hquote : c ≠ '"') (hslash : c ≠ '\\')
    (h : 0x20 ≤ c.toNat) (rest : List Char) :
    stringChars acc (c :: rest) = stringChars (c :: acc) rest := by
  rw [stringChars.eq_def]
  split
  case h_1 heq => exact absurd (List.cons.inj heq).1 hquote
  case h_2 heq => exact absurd (List.cons.inj heq).1 hslash
  case h_3 heq => exact absurd (List.cons.inj heq).1 hslash
  case h_4 heq => exact absurd (List.cons.inj heq).1 hslash
  case h_5 heq =>
    obtain ⟨rfl, rfl⟩ := List.cons.inj heq
    exact if_neg (Nat.not_lt.2 h)
  case h_6 heq => cases heq

/-- **The written form of a character is read as that character.** -/
theorem stringChars_escape (acc : List Char) (c : Char) (rest : List Char) :
    stringChars acc (escape c ++ rest) = stringChars (c :: acc) rest := by
  unfold escape
  split
  case h_6 hquote hslash _ _ _ =>
    split
    case isTrue h =>
      obtain rfl : c = '\x08' := Char.toNat_inj.1 h
      rw [List.cons_append, List.cons_append, List.nil_append, stringChars]
    case isFalse =>
      split
      case isTrue h =>
        obtain rfl : c = '\x0c' := Char.toNat_inj.1 h
        rw [List.cons_append, List.cons_append, List.nil_append, stringChars]
      case isFalse =>
        split
        case isTrue h => exact stringChars_control acc h (hex4_hexDigit (by omega)) rest
        case isFalse h => exact stringChars_plain acc hquote hslash (Nat.not_lt.1 h) rest
  all_goals rw [List.cons_append, List.cons_append, List.nil_append, stringChars]

/-! ## Strings -/

theorem stringChars_flatMap (acc cs rest : List Char) :
    stringChars acc (cs.flatMap escape ++ rest) = stringChars (cs.reverse ++ acc) rest := by
  induction cs generalizing acc with
  | nil => rfl
  | cons c cs ih =>
    rw [List.flatMap_cons, List.append_assoc, stringChars_escape, ih, List.reverse_cons,
      List.append_assoc]
    rfl

/-- **A string is read back** from its written form, whatever follows it. -/
theorem stringChars_quoted (s : String) (rest : List Char) :
    stringChars [] (s.toList.flatMap escape ++ '"' :: rest) = some (s, rest) := by
  rw [stringChars_flatMap, stringChars]
  simp

theorem quoted_append (s : String) (rest : List Char) :
    quoted s ++ rest = '"' :: (s.toList.flatMap escape ++ '"' :: rest) := by
  simp [quoted]

/-- A text begins with one string at most. -/
theorem quoted_append_inj {s s' : String} {rest rest' : List Char}
    (h : quoted s ++ rest = quoted s' ++ rest') : s = s' ∧ rest = rest' := by
  rw [quoted_append, quoted_append] at h
  have hread := stringChars_quoted s rest
  rw [(List.cons.inj h).2, stringChars_quoted] at hread
  obtain ⟨hs, hrest⟩ := Prod.mk.inj (Option.some.inj hread)
  exact ⟨hs.symm, hrest.symm⟩

end Concord.Json
