/-
  What is written of a value is read back.

  What a reader makes of a text does not depend on what follows it, as long as
  this does not continue a number.  So readers of elements make readers of arrays
  and objects, and a whole text is read if nothing follows it.

  * `Reads`: a reader and what it makes of a text.
  * `elements_listing`: elements with commas between them.
  * `reads_arr`, `reads_obj`: arrays and objects, by the readers of their values.
  * `Shape.reads_record`, `Shape.reads_dict`, `Shape.reads_list`: objects and
    arrays that are read by a shape.
  * `Json.read?_of_reads`, `Shape.ofText?_of_reads`: whole texts.
-/
import Concord.Proofs.Dict
import Concord.Proofs.Json.Compact
import Concord.Schema.Reader

namespace Concord

namespace Json

variable {α β : Type} {text : List Char} {o : Option β} {close : Char}

/-- A reader gives a value for a text, or nothing, whatever follows that does not
    continue a number. -/
def Reads (read : List Char → Option (β × List Char)) (text : List Char) (o : Option β) : Prop :=
  ∀ rest, Ends rest → read (text ++ rest) = o.map (·, rest)

/-! ## Elements -/

/-- White space between the tokens of a text. -/
def isSpace (c : Char) : Bool := c == ' ' || c == '\n' || c == '\r' || c == '\t'

theorem skipSpace_cons {c : Char} (h : isSpace c = false) (cs : List Char) :
    skipSpace (c :: cs) = c :: cs := by
  refine List.dropWhile_cons_of_neg ?_
  rw [isSpace] at h
  simp [h]

theorem isSpace_quote : isSpace '"' = false := by
  decide

theorem isSpace_colon : isSpace ':' = false := by
  decide

theorem isSpace_comma : isSpace ',' = false := by
  decide

theorem isSpace_brace : isSpace '\x7b' = false := by
  decide

theorem isSpace_bracket : isSpace '[' = false := by
  decide

theorem length_le_followers (f : α → List Char) (l : List α) :
    l.length ≤ (followers f l).length := by
  induction l with
  | nil => exact Nat.le_refl 0
  | cons x l ih =>
    simp only [followers, List.flatMap_cons, List.length_append, List.length_cons] at ih ⊢
    omega

theorem followers_cons (f : α → List Char) (x : α) (l : List α) :
    followers f (x :: l) = ',' :: (f x ++ followers f l) := by
  simp [followers]

/-- The closing character of a sequence: it ends numbers and is neither a comma
    nor white space. -/
structure Closes (close : Char) : Prop where
  ends : isNumeral close = false
  ne_comma : close ≠ ','
  space : isSpace close = false

theorem closes_bracket : Closes ']' := ⟨by decide, by decide, by decide⟩

theorem closes_brace : Closes '\x7d' := ⟨by decide, by decide, by decide⟩

theorem mapM_eq_some_map {g : α → Option β} {f : α → β} {l : List α}
    (h : ∀ x ∈ l, g x = some (f x)) : l.mapM g = some (l.map f) := by
  induction l with
  | nil => rfl
  | cons x l ih =>
    obtain ⟨hx, hl⟩ := List.forall_mem_cons.1 h
    rw [List.mapM_cons, hx, ih hl]
    rfl

theorem mapM_eq_self_iff {g : α → Option α} {l : List α} :
    l.mapM g = some l ↔ ∀ x ∈ l, g x = some x := by
  induction l with
  | nil => simp
  | cons x l ih =>
    rw [List.mapM_cons, List.forall_mem_cons, ← ih]
    cases g x with
    | none => simp
    | some y => cases l.mapM g <;> simp [and_comm]

/-- What is made of each result is made of all of them. -/
theorem mapM_option_map {γ : Type} (f : β → γ) (g : α → Option β) (l : List α) :
    (l.mapM fun x => (g x).map f) = (l.mapM g).map (List.map f) := by
  induction l with
  | nil => rfl
  | cons x l ih =>
    rw [List.mapM_cons, List.mapM_cons, ih]
    cases g x with
    | none => rfl
    | some b => cases l.mapM g <;> rfl

/-- Elements after the first one are read to the end of the sequence. -/
theorem sequence_listing (hclose : Closes close) {element : List Char → Option (β × List Char)}
    {f : α → List Char} {g : α → Option β} (rest : List Char) :
    ∀ (l : List α) (x : α) (fuel : Nat), (∀ y ∈ x :: l, Reads element (f y) (g y)) →
      l.length < fuel →
      sequence close element fuel (f x ++ (followers f l ++ close :: rest)) =
        ((x :: l).mapM g).map (·, rest) := by
  intro l
  -- the first element is read before its followers are looked at, so it changes with them
  induction l with
  | nil =>
    intro x fuel hread hfuel
    obtain ⟨fuel, rfl⟩ := Nat.exists_eq_add_one.2 hfuel
    have hx := hread x List.mem_cons_self _ (ends_followers (f := f) hclose.ends [] rest)
    simp only [sequence, hx, Option.bind_eq_bind, List.mapM_cons, List.mapM_nil]
    cases g x with
    | none => rfl
    | some b => simp [followers, skipSpace_cons hclose.space, hclose.ne_comma]
  | cons y l ih =>
    intro x fuel hread hfuel
    obtain ⟨fuel, rfl⟩ := Nat.exists_eq_add_one.2 (Nat.zero_lt_of_lt hfuel)
    rw [List.length_cons, Nat.add_lt_add_iff_right] at hfuel
    have hx := hread x List.mem_cons_self _ (ends_followers (f := f) hclose.ends (y :: l) rest)
    have hrest := ih y fuel (fun z hz => hread z (List.mem_cons_of_mem x hz)) hfuel
    rw [List.mapM_cons]
    simp only [sequence, hx, Option.bind_eq_bind]
    cases g x with
    | none => rfl
    | some b =>
      simp only [Option.map_some, Option.bind_some, followers_cons, List.cons_append,
        skipSpace_cons isSpace_comma, List.append_assoc]
      rw [hrest]
      cases (y :: l).mapM g <;> rfl

/-- Elements with commas between them are read up to the closing character, if
    none of them begins with it or with white space. -/
theorem elements_listing (hclose : Closes close) {element : List Char → Option (β × List Char)}
    {f : α → List Char} {g : α → Option β} {l : List α}
    (hfirst : ∀ x ∈ l, ∃ c cs, f x = c :: cs ∧ c ≠ close ∧ isSpace c = false)
    (hread : ∀ x ∈ l, Reads element (f x) (g x)) (rest : List Char) :
    elements close element (listing f l ++ close :: rest) = (l.mapM g).map (·, rest) := by
  cases l with
  | nil => simp [elements, listing, skipSpace_cons hclose.space]
  | cons x l =>
    obtain ⟨c, cs, hx, hne, hspace⟩ := hfirst x List.mem_cons_self
    have hfuel : l.length < (cs ++ (followers f l ++ close :: rest)).length + 1 := by
      have hle := length_le_followers f l
      simp only [List.length_append]
      omega
    have hsequence := sequence_listing hclose rest l x _ hread hfuel
    rw [hx, List.cons_append] at hsequence
    rw [elements, listing, List.append_assoc, hx, List.cons_append, skipSpace_cons hspace]
    simp only [if_neg hne, hsequence]

/-! ## Words -/

theorem value_null (depth : Nat) (cs : List Char) :
    value depth ('n' :: 'u' :: 'l' :: 'l' :: cs) = some (null, cs) := by
  have hspace : isSpace 'n' = false := by decide
  rw [value, skipSpace_cons hspace]
  rfl

theorem value_true (depth : Nat) (cs : List Char) :
    value depth ('t' :: 'r' :: 'u' :: 'e' :: cs) = some (bool true, cs) := by
  have hspace : isSpace 't' = false := by decide
  rw [value, skipSpace_cons hspace]
  rfl

theorem value_false (depth : Nat) (cs : List Char) :
    value depth ('f' :: 'a' :: 'l' :: 's' :: 'e' :: cs) = some (bool false, cs) := by
  have hspace : isSpace 'f' = false := by decide
  rw [value, skipSpace_cons hspace]
  rfl

/-! ## Strings and members -/

theorem value_quote (depth : Nat) (cs : List Char) :
    value depth ('"' :: cs) = (stringChars [] cs).map fun p => (str p.1, p.2) := by
  rw [value, skipSpace_cons isSpace_quote]
  rfl

theorem reads_str (depth : Nat) (s : String) : Reads (value depth) (quoted s) (some (str s)) := by
  intro rest _
  rw [quoted_append, value_quote, stringChars_quoted]
  rfl

/-- What is read of the value under a key is read of the member. -/
theorem reads_keyed {value : String → List Char → Option (β × List Char)} {k : String}
    (h : Reads (value k) text o) : Reads (keyed value) (quoted k ++ ':' :: text) o := by
  intro rest hrest
  rw [List.append_assoc, quoted_append, keyed, skipSpace_cons isSpace_quote]
  simp only [stringChars_quoted, Option.bind_eq_bind, Option.bind_some, List.cons_append,
    skipSpace_cons isSpace_colon]
  exact h rest hrest

theorem reads_member {value : List Char → Option (Json × List Char)} {k : String}
    {o : Option Json} (h : Reads value text o) :
    Reads (member value) (quoted k ++ ':' :: text) (o.map (k, ·)) := by
  intro rest hrest
  rw [List.append_assoc, quoted_append, member, skipSpace_cons isSpace_quote]
  simp only [stringChars_quoted, Option.bind_eq_bind, Option.bind_some, List.cons_append,
    skipSpace_cons isSpace_colon, h rest hrest]
  cases o <;> rfl

theorem first_memberChars (e : String × Json) :
    ∃ c cs, memberChars e = c :: cs ∧ c ≠ '\x7d' ∧ isSpace c = false :=
  ⟨_, _, rfl, by decide, isSpace_quote⟩

/-- The members of an object are read by the reader of a member. -/
theorem elements_members {element : List Char → Option (β × List Char)}
    {g : String × Json → Option β} {ms : List (String × Json)}
    (h : ∀ e ∈ ms, Reads element (memberChars e) (g e)) (rest : List Char) :
    elements '\x7d' element (compactMembers ms ++ '\x7d' :: rest) = (ms.mapM g).map (·, rest) := by
  rw [compactMembers_eq]
  exact elements_listing closes_brace (fun e _ => first_memberChars e) h rest

theorem compactChars_obj (ms : List (String × Json)) (rest : List Char) :
    (obj ms).compactChars ++ rest = '\x7b' :: (compactMembers ms ++ '\x7d' :: rest) := by
  simp [compactChars]

/-! ## Objects -/

theorem value_brace (depth : Nat) (cs : List Char) :
    value (depth + 1) ('\x7b' :: cs) =
      (elements '\x7d' (member (value depth)) cs).map fun (ms, rest) => (ofMembers ms, rest) := by
  rw [value, skipSpace_cons isSpace_brace, elements]
  -- the reader of values looks for the closing brace itself before it reads a member
  cases hcs : skipSpace cs with
  | nil => simp [hcs, sequence]
  | cons c r =>
    by_cases hc : c = '\x7d'
    · subst hc
      simp [hcs, ofMembers, ofDict, Dict.ofList, Dict.empty]
    · simp [hcs, hc]

theorem value_zero_brace (cs : List Char) : value 0 ('\x7b' :: cs) = none := by
  rw [value, skipSpace_cons isSpace_brace]
  rfl

/-- A member with the value that is read of it. -/
def keep (g : String × Json → Option Json) (e : String × Json) : Option (String × Json) :=
  (g e).map (e.1, ·)

theorem mapM_keep_self (ms : List (String × Json)) : ms.mapM (keep fun e => some e.2) = some ms :=
  mapM_eq_self_iff.2 fun _ _ => rfl

/-- Members keep their names. -/
theorem keys_of_mapM_keep {g : String × Json → Option Json} {ms es : List (String × Json)}
    (h : ms.mapM (keep g) = some es) : es.map (·.1) = ms.map (·.1) := by
  induction ms generalizing es with
  | nil =>
    cases h
    rfl
  | cons e ms ih =>
    rw [List.mapM_cons, keep] at h
    cases hv : g e with
    | none => simp [hv] at h
    | some v =>
      cases hrest : ms.mapM (keep g) with
      | none => simp [hv, hrest] at h
      | some rest =>
        simp only [hv, hrest, Option.map_some, Option.bind_eq_bind, Option.bind_some,
          Option.pure_def, Option.some.injEq] at h
        rw [← h, List.map_cons, List.map_cons, ih hrest]

/-- **An object is read** by the readers of its values; its members are put in
    order. -/
theorem reads_obj {depth : Nat} {ms : List (String × Json)} {g : String × Json → Option Json}
    (h : ∀ e ∈ ms, Reads (value depth) e.2.compactChars (g e)) :
    Reads (value (depth + 1)) (obj ms).compactChars ((ms.mapM (keep g)).map ofMembers) := by
  intro rest _
  have hms := elements_members (g := keep g) (fun e he => reads_member (h e he)) rest
  rw [compactChars_obj, value_brace, hms]
  cases ms.mapM (keep g) <;> rfl

/-- So it is read back if its values are. -/
theorem reads_obj_self {depth : Nat} {ms : List (String × Json)}
    (h : ∀ e ∈ ms, Reads (value depth) e.2.compactChars (some e.2)) :
    Reads (value (depth + 1)) (obj ms).compactChars (some (ofMembers ms)) := by
  have hobj := reads_obj (g := fun e => some e.2) h
  rwa [mapM_keep_self] at hobj

/-! ## Arrays -/

theorem value_bracket (depth : Nat) (cs : List Char) :
    value (depth + 1) ('[' :: cs) =
      (elements ']' (value depth) cs).map fun (js, rest) => (arr js, rest) := by
  rw [value, skipSpace_cons isSpace_bracket, elements]
  cases hcs : skipSpace cs with
  | nil => simp [hcs, sequence]
  | cons c r =>
    by_cases hc : c = ']'
    · subst hc
      simp [hcs]
    · simp [hcs, hc]

theorem value_zero_bracket (cs : List Char) : value 0 ('[' :: cs) = none := by
  rw [value, skipSpace_cons isSpace_bracket]
  rfl

/-- What a value is written with first: no white space, no comma and no end of an
    array. -/
theorem first_compactChars (j : Json) :
    ∃ c cs, j.compactChars = c :: cs ∧ c ≠ ']' ∧ c ≠ ',' ∧ isSpace c = false := by
  obtain ⟨c, cs, hc, hopening⟩ := j.exists_compactChars
  have hmem := j.opening_mem
  rw [← hopening] at hmem
  refine ⟨c, cs, hc, ?_, ?_, Bool.eq_false_iff.2 fun hspace => ?_⟩
  · rintro rfl
    exact absurd hmem (by decide)
  · rintro rfl
    exact absurd hmem (by decide)
  · rw [isSpace] at hspace
    simp only [Bool.or_eq_true, beq_iff_eq] at hspace
    rcases hspace with ((rfl | rfl) | rfl) | rfl <;> exact absurd hmem (by decide)

/-- The items of an array are read by the reader of an item. -/
theorem elements_items {element : List Char → Option (β × List Char)} {encode : α → Json}
    {g : α → Option β} {l : List α} (h : ∀ x ∈ l, Reads element (encode x).compactChars (g x))
    (rest : List Char) :
    elements ']' element (compactItems (l.map encode) ++ ']' :: rest) =
      (l.mapM g).map (·, rest) := by
  have hitems : compactItems (l.map encode) = listing (fun x => (encode x).compactChars) l := by
    rw [compactItems_eq]
    cases l with
    | nil => rfl
    | cons x l => simp only [List.map_cons, listing, followers, List.flatMap_map]
  rw [hitems]
  refine elements_listing closes_bracket (fun x _ => ?_) h rest
  obtain ⟨c, cs, hc, hne, -, hspace⟩ := first_compactChars (encode x)
  exact ⟨c, cs, hc, hne, hspace⟩

theorem compactChars_arr (js : List Json) (rest : List Char) :
    (arr js).compactChars ++ rest = '[' :: (compactItems js ++ ']' :: rest) := by
  simp [compactChars]

/-- **An array is read** by the readers of its items. -/
theorem reads_arr {depth : Nat} {js : List Json} {g : Json → Option Json}
    (h : ∀ j ∈ js, Reads (value depth) j.compactChars (g j)) :
    Reads (value (depth + 1)) (arr js).compactChars ((js.mapM g).map arr) := by
  intro rest _
  have hitems : elements ']' (value depth) (compactItems (js.map id) ++ ']' :: rest) = _ :=
    elements_items h rest
  rw [List.map_id] at hitems
  rw [compactChars_arr, value_bracket, hitems]
  cases js.mapM g <;> rfl

@[simp] theorem members_ofDict (d : Dict Json) : (ofDict d).members = d :=
  d.ofList_entries

/-- The members of a dictionary make its object again. -/
theorem ofMembers_entries (d : Dict Json) : ofMembers d.entries = ofDict d :=
  congrArg ofDict d.ofList_entries

/-- **A whole text is read** as what it is written of is. -/
theorem read?_of_reads {j : Json} {o : Option Json}
    (h : Reads (value depthLimit) j.compactChars o) : read? j.compact = o := by
  have htext := h [] fun c hc => by cases hc
  rw [List.append_nil] at htext
  rw [read?, compact, String.toList_ofList, htext]
  cases o <;> rfl

end Json

/-! ## Texts read by a shape -/

namespace Shape

open Json

variable {depth : Nat} {fields : List (String × Shape × Option Json)} {ms : List (String × Json)}

theorem reads_text (depth : Nat) (s : String) :
    Reads (Shape.text.readChars depth) (quoted s) (some (.str s)) := by
  intro rest _
  rw [quoted_append, readChars, skipSpace_cons isSpace_quote]
  simp [stringChars_quoted]

/-- **Values under any names are read** by the shape of each of them. -/
theorem reads_dict {item : Shape} (nullable : Bool) {g : String × Json → Option Json}
    (h : ∀ e ∈ ms, Reads (item.readChars depth) e.2.compactChars (g e)) :
    Reads ((Shape.dict nullable item).readChars (depth + 1)) (obj ms).compactChars
      ((ms.mapM (keep g)).map ofMembers) := by
  intro rest _
  have hms := elements_members (g := keep g) (fun e he => reads_member (h e he)) rest
  rw [compactChars_obj]
  unfold readChars
  simp only [skipSpace_cons isSpace_brace, hms]
  cases ms.mapM (keep g) <;> rfl

/-- So they are read back if each of them is. -/
theorem reads_dict_self {item : Shape} (nullable : Bool)
    (h : ∀ e ∈ ms, Reads (item.readChars depth) e.2.compactChars (some e.2)) :
    Reads ((Shape.dict nullable item).readChars (depth + 1)) (obj ms).compactChars
      (some (ofMembers ms)) := by
  have hdict := reads_dict nullable (g := fun e => some e.2) h
  rwa [mapM_keep_self] at hdict

/-- **A list is read** by the shape of its items. -/
theorem reads_list {α : Type} {item : Shape} {encode : α → Json} {g : α → Option Json} {l : List α}
    (h : ∀ x ∈ l, Reads (item.readChars depth) (encode x).compactChars (g x)) :
    Reads ((Shape.list item).readChars (depth + 1)) (arr (l.map encode)).compactChars
      ((l.mapM g).map .arr) := by
  intro rest _
  rw [compactChars_arr]
  unfold readChars
  simp only [skipSpace_cons isSpace_bracket, elements_items h rest]
  cases l.mapM g <;> rfl

/-- A list is read as a list if each of its items is read. -/
theorem reads_list_map {α : Type} {item : Shape} {encode decoded : α → Json} {l : List α}
    (h : ∀ x ∈ l, Reads (item.readChars depth) (encode x).compactChars (some (decoded x))) :
    Reads ((Shape.list item).readChars (depth + 1)) (arr (l.map encode)).compactChars
      (some (arr (l.map decoded))) := by
  have hlist := reads_list h
  rwa [mapM_eq_some_map fun _ _ => rfl] at hlist

theorem reads_null (item : Shape) (depth : Nat) :
    Reads ((Shape.dict true item).readChars depth) Json.null.compactChars (some .null) := by
  intro rest _
  have hspace : isSpace 'n' = false := by decide
  show readChars _ _ ('n' :: 'u' :: 'l' :: 'l' :: rest) = _
  unfold readChars
  simp [skipSpace_cons hspace]

/-- A member that a record knows is read by its own shape. -/
theorem reads_field {k : String} {shape : Shape} {default? : Option Json} {text : List Char}
    {o : Option Json} (hk : fields.lookup k = some (shape, default?))
    (h : Reads (shape.readChars depth) text o) :
    Reads (readField fields depth k) text (o.map fun j => some (k, j)) := by
  intro rest hrest
  -- the reader goes along the fields of the shape until it comes to the key
  induction fields with
  | nil => cases hk
  | cons field fields ih =>
    obtain ⟨name, shape', default'⟩ := field
    rw [lookup_cons_ite] at hk
    rw [readField]
    split at hk
    · rename_i hname
      obtain ⟨rfl, -⟩ := Prod.mk.inj (Option.some.inj hk)
      rw [if_pos hname, h rest hrest]
      cases o <;> rfl
    · rename_i hname
      rw [if_neg hname]
      exact ih hk

/-- **A record is read** by the shapes of its members, if it knows all of them
    and none is there twice. -/
theorem reads_record (name : String) {g : String × Json → Option Json} {o : Option Json}
    (h : ∀ e ∈ ms, ∃ shape default?, fields.lookup e.1 = some (shape, default?) ∧
      Reads (shape.readChars depth) e.2.compactChars (g e))
    (hn : ms.Pairwise fun e e' => e.1 ≠ e'.1)
    (ho : ((ms.mapM (keep g)).bind fun es => (assemble fields es).toOption) = o) :
    Reads ((Shape.record name fields).readChars (depth + 1)) (obj ms).compactChars o := by
  intro rest _
  have hread : ∀ e ∈ ms, Reads (keyed (readField fields depth)) (memberChars e)
      ((keep g e).map some) := by
    intro e he
    obtain ⟨shape, default?, hk, hvalue⟩ := h e he
    have hfield := reads_keyed (k := e.1) (reads_field hk hvalue)
    cases hg : g e <;> simpa [keep, hg] using! hfield
  rw [compactChars_obj, ← ho]
  unfold readChars
  simp only [skipSpace_cons isSpace_brace, elements_members hread rest, mapM_option_map]
  cases hes : ms.mapM (keep g) with
  | none => rfl
  | some es =>
    have hdistinct : es.Pairwise fun e e' => e.1 ≠ e'.1 := by
      have hkeys : (es.map (·.1)).Pairwise (· ≠ ·) := by
        rw [keys_of_mapM_keep hes]
        exact List.pairwise_map.2 hn
      exact List.pairwise_map.1 hkeys
    have hfound : (es.map some).filterMap id = es := by
      rw [List.filterMap_map]
      exact List.filterMap_some
    simp only [Option.map_some, Option.bind_some, hfound, gather, if_pos hdistinct]

/-- So it is read back if each of its members is. -/
theorem reads_record_self (name : String) {j : Json}
    (h : ∀ e ∈ ms, ∃ shape default?, fields.lookup e.1 = some (shape, default?) ∧
      Reads (shape.readChars depth) e.2.compactChars (some e.2))
    (hn : ms.Pairwise fun e e' => e.1 ≠ e'.1) (hj : assemble fields ms = .ok j) :
    Reads ((Shape.record name fields).readChars (depth + 1)) (obj ms).compactChars (some j) := by
  refine reads_record name (g := fun e => some e.2) h hn ?_
  rw [mapM_keep_self, Option.bind_some, hj]
  rfl

/-- **A whole text is read** by a shape as what it is written of is. -/
theorem ofText?_of_reads {shape : Shape} {j : Json} {o : Option Json}
    (h : Reads (shape.readChars depthLimit) j.compactChars o) : shape.ofText? j.compact = o := by
  have htext := h [] fun c hc => by cases hc
  rw [List.append_nil] at htext
  rw [ofText?, compact, String.toList_ofList, htext]
  cases o <;> rfl

end Shape

end Concord
