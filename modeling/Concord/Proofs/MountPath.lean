/-
  Paths in normal form.

  Only characters of a class are stripped, and a path in normal form is what
  stands of it in a URL, with one slash after it.  Blanks are trimmed before
  slashes, so a blank right after the first slashes stays; it is trimmed when
  the normal form is normalized again.

  * `Text.mem_stripList_iff`, `Text.stripList_stripList`: stripping.
  * `MountPath.normalize_eq_segment`.
  * `MountPath.normalize_normalize_iff`: when a normal form is its own.
-/
import Mathlib.Data.List.DropRight
import Concord.MountPath

namespace Concord

/-! ## Characters that are stripped -/

namespace Text

variable {p : Char → Bool} {c : Char} {cs : List Char}

theorem mem_dropWhile_iff (hc : p c = false) : c ∈ cs.dropWhile p ↔ c ∈ cs := by
  induction cs with
  | nil => rfl
  | cons d cs ih =>
    by_cases hd : p d = true
    · have hne : c ≠ d := fun h => by simp [h, hd] at hc
      rw [List.dropWhile_cons_of_pos hd, ih, List.mem_cons, or_iff_right hne]
    · rw [List.dropWhile_cons_of_neg hd]

theorem mem_stripListEnd_iff (hc : p c = false) : c ∈ stripListEnd p cs ↔ c ∈ cs := by
  rw [stripListEnd, List.mem_reverse, mem_dropWhile_iff hc, List.mem_reverse]

/-- Only characters of the class are stripped. -/
theorem mem_stripList_iff (hc : p c = false) : c ∈ stripList p cs ↔ c ∈ cs := by
  rw [stripList, mem_stripListEnd_iff hc, mem_dropWhile_iff hc]

theorem dropWhile_concat (hc : p c = false) (cs : List Char) :
    (cs ++ [c]).dropWhile p = cs.dropWhile p ++ [c] := by
  rw [List.dropWhile_append]
  cases hcs : cs.dropWhile p <;> simp [hc]

/-- The last character stays if it is not of the class. -/
theorem stripList_concat_of_not (hc : p c = false) (cs : List Char) :
    stripList p (cs ++ [c]) = cs.dropWhile p ++ [c] := by
  rw [stripList, dropWhile_concat hc]
  exact List.rdropWhile_concat_neg p _ c (by simp [hc])

/-- The last character goes if it is of the class. -/
theorem stripList_concat (hc : p c = true) (cs : List Char) :
    stripList p (cs ++ [c]) = stripList p cs := by
  rw [stripList, List.dropWhile_append]
  cases hcs : cs.dropWhile p with
  | nil => simp [stripList, stripListEnd, hc, hcs]
  | cons d ds =>
    rw [stripList, hcs]
    exact List.rdropWhile_concat_pos p _ c hc

/-- The first character stays if it is not of the class. -/
theorem stripListEnd_cons (hc : p c = false) (cs : List Char) :
    stripListEnd p (c :: cs) = c :: stripListEnd p cs := by
  rw [stripListEnd, List.reverse_cons, dropWhile_concat hc, List.reverse_append]
  rfl

theorem stripList_isPrefix (p : Char → Bool) (cs : List Char) :
    stripList p cs <+: cs.dropWhile p :=
  List.rdropWhile_prefix p _

theorem length_stripList_le (p : Char → Bool) (cs : List Char) :
    (stripList p cs).length ≤ cs.length :=
  (stripList_isPrefix p cs).length_le.trans (List.length_dropWhile_le p cs)

/-- What is left begins with no character of the class. -/
theorem dropWhile_stripList (p : Char → Bool) (cs : List Char) :
    (stripList p cs).dropWhile p = stripList p cs := by
  cases hstrip : stripList p cs with
  | nil => rfl
  | cons d ds =>
    obtain ⟨rest, hrest⟩ := stripList_isPrefix p cs
    have hfirst := List.head?_dropWhile_not p cs
    rw [← hrest, hstrip] at hfirst
    exact List.dropWhile_cons_of_neg (by simpa using hfirst)

theorem stripList_stripList (p : Char → Bool) (cs : List Char) :
    stripList p (stripList p cs) = stripList p cs := by
  rw [stripList, dropWhile_stripList]
  exact List.rdropWhile_idempotent p _

/-- What is stripped at both ends is stripped again of what is put behind it. -/
theorem stripList_stripList_append (hc : p c = true) (cs : List Char) :
    stripList p (stripList p cs ++ [c]) = stripList p cs := by
  rw [stripList_concat hc, stripList_stripList]

end Text

namespace MountPath

open Text

theorem toList_bare (path : String) :
    (bare path).toList = stripList isSlash (trim path).toList := by
  simp [bare]

theorem toList_normalize (path : String) : (normalize path).toList = (bare path).toList ++ ['/'] := by
  simp [normalize]

theorem normalize_inj {a b : String} : normalize a = normalize b ↔ bare a = bare b := by
  rw [← String.toList_inj, toList_normalize, toList_normalize, List.append_left_inj,
    String.toList_inj]

theorem segment_normalize (path : String) : segment (normalize path) = bare path := by
  rw [← String.toList_inj, segment, toList_strip, toList_normalize, toList_bare,
    stripList_stripList_append rfl]

/-- A path in normal form is its segment and a slash. -/
theorem normalize_eq_segment (path : String) :
    normalize path = segment (normalize path) ++ "/" := by
  rw [segment_normalize]
  rfl

/-! ## Normalizing again -/

/-- Trimmed of blanks, a path has a blank right after its first slashes. -/
def HidesBlank (path : String) : Prop :=
  ∃ n c rest, (trim path).toList = List.replicate n '/' ++ c :: rest ∧ isBlank c = true

theorem hidesBlank_iff {path : String} :
    HidesBlank path ↔ ∃ c rest, (bare path).toList = c :: rest ∧ isBlank c = true := by
  rw [toList_bare]
  constructor
  · rintro ⟨n, c, rest, htrim, hc⟩
    have hslash : isSlash c = false := by
      refine beq_false_of_ne ?_
      rintro rfl
      cases hc
    have hdrop : (trim path).toList.dropWhile isSlash = c :: rest := by
      rw [htrim, List.dropWhile_append_of_pos (by simp [isSlash])]
      exact List.dropWhile_cons_of_neg (by simp [hslash])
    exact ⟨c, stripListEnd isSlash rest, by rw [stripList, hdrop, stripListEnd_cons hslash], hc⟩
  · rintro ⟨c, rest, hbare, hc⟩
    obtain ⟨after, hafter⟩ := stripList_isPrefix isSlash (trim path).toList
    rw [hbare, List.cons_append] at hafter
    have hslashes : (trim path).toList.takeWhile isSlash = List.replicate
        ((trim path).toList.takeWhile isSlash).length '/' := by
      refine List.eq_replicate_of_mem fun d hd => ?_
      have hd : isSlash d = true := List.mem_takeWhile_imp hd
      exact beq_iff_eq.1 hd
    refine ⟨((trim path).toList.takeWhile isSlash).length, c, rest ++ after, ?_, hc⟩
    rw [← hslashes, hafter, List.takeWhile_append_dropWhile]

/-- What is left of a normal form: blanks and slashes are stripped of it once
    more. -/
theorem toList_bare_normalize (path : String) :
    (bare (normalize path)).toList =
      stripList isSlash ((bare path).toList.dropWhile isBlank ++ ['/']) := by
  rw [toList_bare, trim, toList_strip, toList_normalize, stripList_concat_of_not rfl]

/-- **A normal form is its own normal form** exactly if the path hides no
    blank. -/
theorem normalize_normalize_iff (path : String) :
    normalize (normalize path) = normalize path ↔ ¬ HidesBlank path := by
  rw [normalize_inj, ← String.toList_inj, toList_bare_normalize, hidesBlank_iff]
  constructor
  · rintro hsame ⟨c, rest, hbare, hc⟩
    rw [hbare, List.dropWhile_cons_of_pos hc, stripList_concat rfl] at hsame
    have hle : (stripList isSlash (rest.dropWhile isBlank)).length ≤ rest.length :=
      (length_stripList_le _ _).trans (List.length_dropWhile_le _ _)
    rw [hsame, List.length_cons] at hle
    omega
  · intro hnone
    have hkeep : (bare path).toList.dropWhile isBlank = (bare path).toList := by
      cases hbare : (bare path).toList with
      | nil => rfl
      | cons c rest => exact List.dropWhile_cons_of_neg fun hc => hnone ⟨c, rest, hbare, hc⟩
    rw [hkeep, toList_bare, stripList_stripList_append rfl]

end MountPath

end Concord
