/-
  A JSON value is known by its compact text.

  The first character of a text tells the kind of the value.  The text of a
  number goes on as long as the characters of numbers do, that of a string to
  its closing quote, and arrays and objects to the bracket where no comma
  stands.  So a text followed by anything that does not continue a number has
  been written for one value only.

  * `induction`: a property of values from that of their items and members.
  * `Readable`: what is shown of a value, by this induction.
  * `compact_inj`: two values with one text are the same.
-/
import Concord.Proofs.Decimal.Texts
import Concord.Proofs.Json.Strings

namespace Concord.Json

/-! ## Induction -/

/-- A property of all values whose items and members have it. -/
@[elab_as_elim]
theorem induction {P : Json → Prop} (null : P .null) (bool : ∀ b, P (.bool b))
    (int : ∀ n, P (.int n)) (float : ∀ d, P (.float d)) (str : ∀ s, P (.str s))
    (arr : ∀ items, (∀ j ∈ items, P j) → P (.arr items))
    (obj : ∀ members, (∀ e ∈ members, P e.2) → P (.obj members)) (j : Json) : P j := by
  match j with
  | .null => exact null
  | .bool b => exact bool b
  | .int n => exact int n
  | .float d => exact float d
  | .str s => exact str s
  | .arr items => exact arr items fun j _ => induction null bool int float str arr obj j
  | .obj members => exact obj members fun e _ => induction null bool int float str arr obj e.2
termination_by sizeOf j
decreasing_by
  · rename_i hj
    have := List.sizeOf_lt_of_mem hj
    simp
    omega
  · rename_i he
    have := List.sizeOf_lt_of_mem he
    obtain ⟨k, j⟩ := e
    simp at this ⊢
    omega

/-! ## Numbers -/

/-- The characters that the texts of numbers are made of. -/
def isNumeral (c : Char) : Bool := c.isDigit || ['.', 'e', 'E', '-', '+'].contains c

/-- What does not continue a number. -/
def Ends (rest : List Char) : Prop := ∀ c ∈ rest.head?, isNumeral c = false

theorem takeWhile_append_of_ends {cs rest : List Char} (hcs : ∀ c ∈ cs, isNumeral c = true)
    (h : Ends rest) : (cs ++ rest).takeWhile isNumeral = cs := by
  rw [List.takeWhile_append_of_pos hcs]
  cases rest with
  | nil => simp
  | cons c rest => simp [h c rfl]

/-- A text begins with one number at most. -/
theorem numeral_append_inj {cs cs' rest rest' : List Char} (hcs : ∀ c ∈ cs, isNumeral c = true)
    (hcs' : ∀ c ∈ cs', isNumeral c = true) (hrest : Ends rest) (hrest' : Ends rest')
    (h : cs ++ rest = cs' ++ rest') : cs = cs' ∧ rest = rest' := by
  have hsame : cs = cs' := by
    rw [← takeWhile_append_of_ends hcs hrest, h, takeWhile_append_of_ends hcs' hrest']
  rw [hsame] at h
  exact ⟨hsame, List.append_cancel_left h⟩

theorem isNumeral_of_isDigit {c : Char} (h : c.isDigit = true) : isNumeral c = true := by
  simp [isNumeral, h]

theorem mem_wholeNumber {n : Int} {c : Char} (h : c ∈ wholeNumber n) :
    c.isDigit = true ∨ c = '-' := by
  unfold wholeNumber at h
  split at h
  · rcases List.mem_cons.1 h with rfl | h
    · exact .inr rfl
    · exact .inl (Decimal.isDigit_of_mem_toDigits h)
  · exact .inl (Decimal.isDigit_of_mem_toDigits h)

theorem isNumeral_of_mem_wholeNumber {n : Int} {c : Char} (h : c ∈ wholeNumber n) :
    isNumeral c = true := by
  rcases mem_wholeNumber h with h | rfl
  · exact isNumeral_of_isDigit h
  · decide

theorem isNumeral_of_mem_json {d : Decimal} {c : Char} (h : c ∈ d.json.toList) :
    isNumeral c = true := by
  have hmagnitude : c ∈ d.magnitude → isNumeral c = true := fun hc => by
    rcases Decimal.mem_magnitude hc with hc | hc
    · exact isNumeral_of_isDigit hc
    · simp only [List.mem_cons, List.not_mem_nil, or_false] at hc
      rcases hc with rfl | rfl | rfl | rfl <;> decide
  rw [Decimal.toList_json] at h
  split at h
  · rcases List.mem_cons.1 h with rfl | h
    · decide
    · exact hmagnitude h
  · exact hmagnitude h

theorem wholeNumber_inj {m n : Int} (h : wholeNumber m = wholeNumber n) : m = n := by
  have hne : ∀ {k l : Nat}, '-' :: Nat.toDigits 10 k ≠ Nat.toDigits 10 l := fun hsign => by
    cases Decimal.isDigit_of_mem_toDigits (hsign ▸ List.mem_cons_self)
  unfold wholeNumber at h
  split at h <;> split at h
  · have habs := Decimal.toDigits_inj (List.cons.inj h).2
    omega
  · exact absurd h hne
  · exact absurd h.symm hne
  · have habs := Decimal.toDigits_inj h
    omega

/-- No whole number is written like a decimal. -/
theorem wholeNumber_ne_json (n : Int) (d : Decimal) : wholeNumber n ≠ d.json.toList := by
  intro h
  have hmem : ∀ c ∈ d.magnitude, c ∈ wholeNumber n := fun c hc => by
    rw [h, Decimal.toList_json]
    split
    · exact List.mem_cons_of_mem _ hc
    · exact hc
  rcases d.mem_magnitude_of_notation with hc | hc <;>
    rcases mem_wholeNumber (hmem _ hc) with hc | hc <;> cases hc

/-! ## First characters -/

/-- What the first character of a text tells of its value: those of numbers tell
    the same. -/
def hint (c : Char) : Char := if isNumeral c then '0' else c

/-- What the text of a value begins with. -/
def opening : Json → Char
  | null => 'n'
  | bool b => if b then 't' else 'f'
  | int _ | float _ => '0'
  | str _ => '"'
  | arr _ => '['
  | obj _ => '\x7b'

theorem opening_mem (j : Json) : j.opening ∈ ['n', 't', 'f', '0', '"', '[', '\x7b'] := by
  cases j with
  | bool b => cases b <;> simp [opening]
  | _ => simp [opening]

theorem exists_compactChars (j : Json) :
    ∃ c cs, j.compactChars = c :: cs ∧ hint c = j.opening := by
  have hnumeral : ∀ cs : List Char, cs ≠ [] → (∀ c ∈ cs, isNumeral c = true) →
      ∃ c r, cs = c :: r ∧ hint c = '0' := fun cs hne hcs => by
    obtain ⟨c, r, rfl⟩ := List.exists_cons_of_ne_nil hne
    exact ⟨c, r, rfl, if_pos (hcs c List.mem_cons_self)⟩
  cases j with
  | null => exact ⟨_, _, rfl, rfl⟩
  | bool b => cases b <;> exact ⟨_, _, rfl, rfl⟩
  | int n =>
    refine hnumeral _ ?_ fun c => isNumeral_of_mem_wholeNumber
    unfold compactChars wholeNumber
    split <;> simp [Nat.toDigits_ne_nil]
  | float d =>
    refine hnumeral _ ?_ fun c => isNumeral_of_mem_json
    obtain ⟨c, cs, hmagnitude, -⟩ := d.exists_magnitude
    rw [compactChars, Decimal.toList_json, hmagnitude]
    split <;> simp
  | str s => exact ⟨_, _, rfl, rfl⟩
  | arr items => exact ⟨_, _, rfl, rfl⟩
  | obj members => exact ⟨_, _, rfl, rfl⟩

theorem opening_eq {j j' : Json} {rest rest' : List Char}
    (h : j.compactChars ++ rest = j'.compactChars ++ rest') : j.opening = j'.opening := by
  obtain ⟨c, cs, hc, hopening⟩ := j.exists_compactChars
  obtain ⟨c', cs', hc', hopening'⟩ := j'.exists_compactChars
  rw [hc, hc'] at h
  rw [← hopening, ← hopening', (List.cons.inj h).1]

/-! ## Arrays and objects -/

/-- What is written for an element, followed by anything that does not continue
    a number, begins with what is written for no other element. -/
def Readable {α : Type} (f : α → List Char) (x : α) : Prop :=
  ∀ ⦃y rest rest'⦄, Ends rest → Ends rest' → f x ++ rest = f y ++ rest' → x = y ∧ rest = rest'

section

variable {α : Type} {f : α → List Char} {close : Char} {l l' : List α} {rest rest' : List Char}

/-- Elements with a comma before each. -/
def followers (f : α → List Char) (l : List α) : List Char := l.flatMap fun x => ',' :: f x

/-- Elements with a comma between them. -/
def listing (f : α → List Char) : List α → List Char
  | [] => []
  | x :: l => f x ++ followers f l

theorem ends_followers (hclose : isNumeral close = false) (l : List α) (rest : List Char) :
    Ends (followers f l ++ close :: rest) := by
  intro c hc
  cases l with
  | nil =>
    obtain rfl := Option.some.inj hc
    exact hclose
  | cons x l =>
    obtain rfl := Option.some.inj hc
    decide

theorem followers_inj (hclose : isNumeral close = false) (hcomma : close ≠ ',')
    (hl : ∀ x ∈ l, Readable f x)
    (h : followers f l ++ close :: rest = followers f l' ++ close :: rest') :
    l = l' ∧ rest = rest' := by
  induction l generalizing l' with
  | nil =>
    cases l' with
    | nil => exact ⟨rfl, (List.cons.inj h).2⟩
    | cons y l' => exact absurd (List.cons.inj h).1 hcomma
  | cons x l ih =>
    obtain ⟨hx, hl⟩ := List.forall_mem_cons.1 hl
    cases l' with
    | nil => exact absurd (List.cons.inj h).1.symm hcomma
    | cons y l' =>
      have hafter : f x ++ (followers f l ++ close :: rest) =
          f y ++ (followers f l' ++ close :: rest') := by
        simpa [followers] using h
      obtain ⟨rfl, hnext⟩ := hx (ends_followers hclose _ _) (ends_followers hclose _ _) hafter
      obtain ⟨rfl, hrest⟩ := ih hl hnext
      exact ⟨rfl, hrest⟩

/-- A text goes on with one listing at most, where no element begins as the
    listing ends. -/
theorem listing_inj (hclose : isNumeral close = false) (hcomma : close ≠ ',')
    (hfirst : ∀ x, ∃ c cs, f x = c :: cs ∧ c ≠ close) (hl : ∀ x ∈ l, Readable f x)
    (h : listing f l ++ close :: rest = listing f l' ++ close :: rest') :
    l = l' ∧ rest = rest' := by
  cases l with
  | nil =>
    cases l' with
    | nil => exact ⟨rfl, (List.cons.inj h).2⟩
    | cons y l' =>
      obtain ⟨c, cs, hy, hc⟩ := hfirst y
      simp only [listing, hy, List.nil_append, List.cons_append] at h
      exact absurd (List.cons.inj h).1.symm hc
  | cons x l =>
    obtain ⟨hx, hl⟩ := List.forall_mem_cons.1 hl
    cases l' with
    | nil =>
      obtain ⟨c, cs, hy, hc⟩ := hfirst x
      simp only [listing, hy, List.nil_append, List.cons_append] at h
      exact absurd (List.cons.inj h).1 hc
    | cons y l' =>
      rw [listing, listing, List.append_assoc, List.append_assoc] at h
      obtain ⟨rfl, hafter⟩ := hx (ends_followers hclose _ _) (ends_followers hclose _ _) h
      obtain ⟨rfl, hrest⟩ := followers_inj hclose hcomma hl hafter
      exact ⟨rfl, hrest⟩

end

/-- A key, a colon and a value. -/
def memberChars (e : String × Json) : List Char := quoted e.1 ++ ':' :: e.2.compactChars

theorem compactItems_eq (items : List Json) : compactItems items = listing compactChars items := by
  induction items with
  | nil => rfl
  | cons j r ih =>
    cases r with
    | nil => simp [compactItems, listing, followers]
    | cons i r => simp [compactItems, ih, listing, followers]

theorem compactMembers_eq (members : List (String × Json)) :
    compactMembers members = listing memberChars members := by
  induction members with
  | nil => rfl
  | cons e r ih =>
    cases r with
    | nil => simp [compactMembers, listing, followers, memberChars]
    | cons i r => simp [compactMembers, ih, listing, followers, memberChars]

theorem readable_member {e : String × Json} (h : Readable compactChars e.2) :
    Readable memberChars e := by
  intro e' rest rest' hrest hrest' heq
  rw [memberChars, memberChars, List.append_assoc, List.append_assoc] at heq
  obtain ⟨hkey, hvalue⟩ := quoted_append_inj heq
  obtain ⟨hvalue, hafter⟩ := h hrest hrest' (List.cons.inj hvalue).2
  exact ⟨Prod.ext hkey hvalue, hafter⟩

theorem exists_compactChars_ne (j : Json) : ∃ c cs, j.compactChars = c :: cs ∧ c ≠ ']' := by
  obtain ⟨c, cs, hc, hopening⟩ := j.exists_compactChars
  refine ⟨c, cs, hc, ?_⟩
  rintro rfl
  exact absurd (hopening ▸ j.opening_mem) (by decide)

/-! ## Values -/

theorem readable_int (n : Int) : Readable compactChars (int n) := by
  intro j rest rest' hrest hrest' heq
  have hopening := opening_eq heq
  cases j with
  | int n' =>
    obtain ⟨htext, hafter⟩ := numeral_append_inj (fun c => isNumeral_of_mem_wholeNumber)
      (fun c => isNumeral_of_mem_wholeNumber) hrest hrest' heq
    exact ⟨congrArg int (wholeNumber_inj htext), hafter⟩
  | float d =>
    obtain ⟨htext, -⟩ := numeral_append_inj (fun c => isNumeral_of_mem_wholeNumber)
      (fun c => isNumeral_of_mem_json) hrest hrest' heq
    exact absurd htext (wholeNumber_ne_json n d)
  | _ => grind [opening]

theorem readable_float (d : Decimal) : Readable compactChars (float d) := by
  intro j rest rest' hrest hrest' heq
  have hopening := opening_eq heq
  cases j with
  | int n =>
    obtain ⟨htext, -⟩ := numeral_append_inj (fun c => isNumeral_of_mem_json)
      (fun c => isNumeral_of_mem_wholeNumber) hrest hrest' heq
    exact absurd htext.symm (wholeNumber_ne_json n d)
  | float d' =>
    obtain ⟨htext, hafter⟩ := numeral_append_inj (fun c => isNumeral_of_mem_json)
      (fun c => isNumeral_of_mem_json) hrest hrest' heq
    exact ⟨congrArg float (Decimal.json_inj.1 (String.toList_inj.1 htext)), hafter⟩
  | _ => grind [opening]

theorem readable_arr {items : List Json} (h : ∀ j ∈ items, Readable compactChars j) :
    Readable compactChars (arr items) := by
  intro j rest rest' _ _ heq
  have hopening := opening_eq heq
  cases j with
  | arr items' =>
    simp only [compactChars, compactItems_eq, List.cons_append, List.append_assoc, List.nil_append,
      List.cons.injEq, true_and] at heq
    obtain ⟨hitems, hafter⟩ := listing_inj rfl (by decide) exists_compactChars_ne h heq
    exact ⟨congrArg arr hitems, hafter⟩
  | _ => grind [opening]

theorem readable_obj {members : List (String × Json)}
    (h : ∀ e ∈ members, Readable compactChars e.2) : Readable compactChars (obj members) := by
  intro j rest rest' _ _ heq
  have hopening := opening_eq heq
  cases j with
  | obj members' =>
    simp only [compactChars, compactMembers_eq, List.cons_append, List.append_assoc,
      List.nil_append, List.cons.injEq, true_and] at heq
    obtain ⟨hmembers, hafter⟩ := listing_inj rfl (by decide) (fun e => ⟨_, _, rfl, by decide⟩)
      (fun e he => readable_member (h e he)) heq
    exact ⟨congrArg obj hmembers, hafter⟩
  | _ => grind [opening]

/-- **A text begins with one value at most**, if what follows does not continue a
    number. -/
theorem readable (j : Json) : Readable compactChars j := by
  induction j using induction with
  | null =>
    intro j rest rest' _ _ heq
    have hopening := opening_eq heq
    cases j with
    | null => exact ⟨rfl, List.append_cancel_left heq⟩
    | _ => grind [opening]
  | bool b =>
    intro j rest rest' _ _ heq
    have hopening := opening_eq heq
    cases j with
    | bool b' =>
      obtain rfl : b = b' := by grind [opening]
      exact ⟨rfl, List.append_cancel_left heq⟩
    | _ => grind [opening]
  | int n => exact readable_int n
  | float d => exact readable_float d
  | str s =>
    intro j rest rest' _ _ heq
    have hopening := opening_eq heq
    cases j with
    | str s' => exact (quoted_append_inj heq).imp (congrArg str) id
    | _ => grind [opening]
  | arr items ih => exact readable_arr ih
  | obj members ih => exact readable_obj ih

/-- **Two values with one text are the same.** -/
theorem compact_inj {j j' : Json} : j.compact = j'.compact ↔ j = j' := by
  refine ⟨fun h => ?_, congrArg compact⟩
  have hends : Ends [] := fun c hc => by cases hc
  have htext : j.compactChars ++ [] = j'.compactChars ++ [] := by
    rw [List.append_nil, List.append_nil]
    exact String.ofList_inj.1 h
  exact (j.readable hends hends htext).1

end Concord.Json
