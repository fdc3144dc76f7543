/-
  The lines of texts and of tables.

  A text of whole lines keeps them when another text follows it.  The lines of a
  table are told from others by their first character.

  * `Text.mem_linesOf_append`: texts of whole lines, one after the other.
  * `Table.head?_of_mem_render`: how the lines of a table begin.
-/
import Concord.Table

namespace Concord

/-! ## Lines -/

theorem notMem_of_mem_splitOn {c : Char} {line cs : List Char} (h : line ∈ cs.splitOn c) :
    c ∉ line := by
  induction cs generalizing line with
  | nil =>
    rw [List.splitOn_nil, List.mem_singleton] at h
    simp [h]
  | cons d cs ih =>
    rw [List.splitOn_cons_eq_if_modifyHead] at h
    split at h
    · rcases List.mem_cons.1 h with rfl | h
      · simp
      · exact ih h
    · rename_i hd
      obtain ⟨first, rest, hsplit⟩ := List.exists_cons_of_ne_nil (List.splitOn_ne_nil c cs)
      rw [hsplit, List.modifyHead_cons] at h
      rw [hsplit] at ih
      rcases List.mem_cons.1 h with rfl | h
      · have hne : c ≠ d := fun hcd => by simp [hcd] at hd
        rw [List.mem_cons, not_or]
        exact ⟨hne, ih List.mem_cons_self⟩
      · exact ih (List.mem_cons_of_mem _ h)

namespace Text

variable {line : List Char} {s t : String}

/-- The lines of a text. -/
def linesOf (s : String) : List (List Char) := s.toList.splitOn '\n'

/-- The lines of a text that is put together of lines. -/
theorem linesOf_intersperse {lines : List (List Char)} (hne : lines ≠ [])
    (h : ∀ line ∈ lines, '\n' ∉ line) :
    linesOf (String.ofList (lines.intersperse ['\n']).flatten) = lines := by
  rw [linesOf, String.toList_ofList]
  exact List.splitOn_intercalate '\n' h hne

/-- A text of whole lines: it ends in a line break, or is empty. -/
def Whole (s : String) : Prop := s = "" ∨ ∃ t, s = t ++ "\n"

theorem whole_empty : Whole "" := .inl rfl

theorem Whole.append (hs : Whole s) (ht : Whole t) : Whole (s ++ t) := by
  rcases ht with rfl | ⟨t, rfl⟩
  · rwa [String.append_empty]
  · exact .inr ⟨s ++ t, (String.append_assoc ..).symm⟩

theorem linesOf_newline (s t : String) : linesOf (s ++ "\n" ++ t) = linesOf s ++ linesOf t := by
  have hlist : (s ++ "\n" ++ t).toList = s.toList ++ '\n' :: t.toList := by simp
  rw [linesOf, hlist, List.splitOn_append_cons_self]
  rfl

/-- **Lines of a text of whole lines** stay lines if another text follows. -/
theorem mem_linesOf_append (hline : line ≠ []) (hs : Whole s) :
    line ∈ linesOf (s ++ t) ↔ line ∈ linesOf s ∨ line ∈ linesOf t := by
  rcases hs with rfl | ⟨s, rfl⟩
  · simp [linesOf, hline]
  · have hself : linesOf (s ++ "\n") = linesOf s ++ [[]] := by
      simpa [linesOf] using linesOf_newline s ""
    rw [linesOf_newline, hself, List.mem_append, List.mem_append, List.mem_singleton]
    simp [hline]

theorem whole_join {ts : List String} (h : ∀ t ∈ ts, Whole t) : Whole (String.join ts) := by
  induction ts with
  | nil => exact whole_empty
  | cons t ts ih =>
    rw [String.join_cons]
    exact (h t List.mem_cons_self).append (ih fun t ht => h t (List.mem_cons_of_mem _ ht))

theorem mem_linesOf_join (hline : line ≠ []) {ts : List String} (h : ∀ t ∈ ts, Whole t) :
    line ∈ linesOf (String.join ts) ↔ ∃ t ∈ ts, line ∈ linesOf t := by
  induction ts with
  | nil => simp [linesOf, String.join_nil, hline]
  | cons t ts ih =>
    rw [String.join_cons, mem_linesOf_append hline (h t List.mem_cons_self),
      ih fun t ht => h t (List.mem_cons_of_mem _ ht)]
    simp

/-- A text without a line break. -/
def Unbroken (s : String) : Prop := '\n' ∉ s.toList

instance : DecidablePred Unbroken := fun s => inferInstanceAs (Decidable ('\n' ∉ s.toList))

theorem unbroken_append : Unbroken (s ++ t) ↔ Unbroken s ∧ Unbroken t := by
  simp [Unbroken]

theorem linesOf_of_unbroken (h : Unbroken s) : linesOf s = [s.toList] :=
  List.splitOn_eq_singleton h

end Text

/-! ## Tables -/

namespace Table

open Text

/-- A line of a table: it begins with one of two marks and has no break. -/
structure IsLine (line : List Char) : Prop where
  head : line.head? = some '+' ∨ line.head? = some '|'
  unbroken : '\n' ∉ line

theorem isLine_rule (widths : List Nat) : IsLine (rule widths) where
  head := .inl rfl
  unbroken := by simp [rule]

theorem isLine_rowLine (widths : List Nat) {row : List (List (List Char))}
    (h : ∀ lines ∈ row, ∀ line ∈ lines, '\n' ∉ line) (i : Nat) :
    IsLine (rowLine widths row i) where
  head := .inr rfl
  unbroken := by
    rw [rowLine, List.mem_cons, not_or]
    refine ⟨by decide, fun hmem => ?_⟩
    obtain ⟨⟨w, lines⟩, hzip, hfill⟩ := List.mem_flatMap.1 hmem
    have hlines : lines ∈ row := (List.of_mem_zip hzip).2
    have hline : '\n' ∉ lines.getD i [] := by
      rw [List.getD_eq_getElem?_getD]
      cases hi : lines[i]? with
      | none => simp
      | some line => exact h lines hlines line (List.mem_of_getElem? hi)
    have hfill : '\n' ∈ fill w (lines.getD i []) := hfill
    generalize lines.getD i [] = line at hline hfill
    simp [fill, hline] at hfill

theorem isLine_of_mem_rowLines (widths : List Nat) {row : List (List (List Char))}
    (h : ∀ lines ∈ row, ∀ line ∈ lines, '\n' ∉ line) {line : List Char}
    (hline : line ∈ rowLines widths row) : IsLine line := by
  obtain ⟨i, -, rfl⟩ := List.mem_map.1 hline
  exact isLine_rowLine widths h i

/-- **Every line of a table** begins with one of two marks. -/
theorem head?_of_mem_render {rows : List (List String)} {line : List Char}
    (h : line ∈ linesOf (render rows)) : line.head? = some '+' ∨ line.head? = some '|' := by
  have hcells : ∀ row ∈ rows.map fun row => row.map cellLines, ∀ lines ∈ row, ∀ line ∈ lines,
      '\n' ∉ line := by
    intro row hrow lines hlines line hline
    obtain ⟨row, -, rfl⟩ := List.mem_map.1 hrow
    obtain ⟨cell, -, rfl⟩ := List.mem_map.1 hlines
    exact notMem_of_mem_splitOn hline
  have hlines : ∀ widths : List Nat, ∀ line ∈ rule widths ::
      (rows.map fun row => row.map cellLines).flatMap fun row =>
        rowLines widths row ++ [rule widths], IsLine line := by
    intro widths line hline
    rcases List.mem_cons.1 hline with rfl | hline
    · exact isLine_rule widths
    · obtain ⟨row, hrow, hline⟩ := List.mem_flatMap.1 hline
      rcases List.mem_append.1 hline with hline | hline
      · exact isLine_of_mem_rowLines widths (hcells row hrow) hline
      · rw [List.mem_singleton.1 hline]
        exact isLine_rule widths
  rw [render, linesOf_intersperse (List.cons_ne_nil _ _) fun line hline =>
    (hlines _ line hline).unbroken] at h
  exact (hlines _ line h).head

end Table

end Concord
