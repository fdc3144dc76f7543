/-
  Texts of values that are read by a shape.

  A value that is read back from its text is read from it by a shape as it is
  read by the shape itself.

  * `Accepts`: shapes of which this is so.
  * `forall₂_found`, `readListed_items`: the members of a record.
  * `Sound.accepts`, `ofText?_compact`: all sound shapes, and whole texts.
-/
import Concord.Proofs.Schema.Texts

namespace Concord

section Lists

variable {α β : Type} {R : α → β → Prop} {l : List α} {xs : List β}

theorem exists_of_forall₂ (h : List.Forall₂ R l xs) {y : α} (hy : y ∈ l) : ∃ x, R y x := by
  induction h with
  | nil => cases hy
  | cons hR _ ih =>
    rcases List.mem_cons.1 hy with rfl | hy
    · exact ⟨_, hR⟩
    · exact ih hy

theorem forall₂_and_mem (h : List.Forall₂ R l xs) :
    List.Forall₂ (fun y x => y ∈ l ∧ R y x) l xs := by
  obtain ⟨hlength, hzip⟩ := List.forall₂_iff_zip.1 h
  exact List.forall₂_iff_zip.2 ⟨hlength, fun hp => ⟨(List.of_mem_zip hp).1, hzip hp⟩⟩

theorem mapM_of_forall₂ {g : α → Option β} (h : List.Forall₂ (fun y x => g y = some x) l xs) :
    l.mapM g = some xs := by
  induction h with
  | nil => rfl
  | cons hx _ ih =>
    rw [List.mapM_cons, hx, ih]
    rfl

end Lists

namespace Json

variable {α β : Type} {xs : List β} {l : List α}

theorem Reads.alone {read : List Char → Option (β × List Char)} {text : List Char} {o : Option β}
    (h : Reads read text o) : (read text).map (·.1) = o := by
  have hnil := h [] (by simp [Ends])
  rw [List.append_nil] at hnil
  rw [hnil]
  cases o <;> rfl

/-- What is read of each text is what is read of it alone. -/
theorem reads_alone_of_forall₂ {read : List Char → Option (β × List Char)} {f : α → List Char}
    (h : List.Forall₂ (fun y x => Reads read (f y) (some x)) l xs) :
    (∀ y ∈ l, Reads read (f y) ((read (f y)).map (·.1))) ∧
      l.mapM (fun y => (read (f y)).map (·.1)) = some xs := by
  refine ⟨fun y hy => ?_, mapM_of_forall₂ (h.imp fun _ _ h => h.alone)⟩
  obtain ⟨x, hx⟩ := exists_of_forall₂ h hy
  rwa [hx.alone]

end Json

namespace Shape

open Json

variable {fields : List (String × Shape × Option Json)} {depth : Nat}
  {ms found : List (String × Json)} {d j : Json} {shape item : Shape}

/-- A value that a shape reads is read by it from its text. -/
def Accepts (shape : Shape) : Prop :=
  ∀ {depth d j}, ReadsBack depth d → shape.read d = .ok j →
    Reads (shape.readChars depth) d.compactChars (some j)

/-! ## Members of records -/

/-- The members of a record are found one by one. -/
theorem forall₂_found (h : readMembers fields ms = .ok found) :
    ∃ l, List.Forall₂ (Found fields) l ms ∧ l.filterMap id = found := by
  induction ms generalizing found with
  | nil =>
    rw [readMembers] at h
    cases h
    exact ⟨[], .nil, rfl⟩
  | cons e ms ih =>
    obtain ⟨hnone, hrest⟩ | ⟨shape, default?, v, rest, hknown, hv, hrest, rfl⟩ :=
      readMembers_cons_eq_ok_iff.1 h
    · obtain ⟨l, hl, rfl⟩ := ih hrest
      exact ⟨none :: l, .cons (.inl ⟨hnone, rfl⟩) hl, rfl⟩
    · obtain ⟨l, hl, rfl⟩ := ih hrest
      exact ⟨some (e.1, v) :: l, .cons (.inr ⟨shape, default?, v, hknown, hv, rfl⟩) hl, rfl⟩

/-- A member that a record does not know is passed over. -/
theorem reads_unknown {k : String} (hk : fields.lookup k = none) (hd : d.ReadsBack depth) :
    Reads (readField fields depth k) d.compactChars (some none) := by
  intro rest hrest
  induction fields with
  | nil =>
    have hfuel : d.compactChars.length ≤ (d.compactChars ++ rest).length := by simp
    have hskip := reads_passOver hd hfuel rest hrest
    rw [readField, skip]
    rw [passOver] at hskip
    obtain ⟨r, hr, heq⟩ := Option.map_eq_some_iff.1 hskip
    cases heq
    rw [hr]
    rfl
  | cons field fields ih =>
    obtain ⟨name, shape, default?⟩ := field
    rw [lookup_cons_ite] at hk
    rw [readField]
    split at hk
    · cases hk
    · rename_i hname
      rw [if_neg hname]
      exact ih hk

/-- The names of the members found are names of members. -/
theorem keys_found {l : List (Option (String × Json))} (h : List.Forall₂ (Found fields) l ms) :
    ((l.filterMap id).map (·.1)).Sublist (ms.map (·.1)) := by
  induction h with
  | nil => exact .slnil
  | cons hx _ ih =>
    obtain ⟨-, rfl⟩ | ⟨_, _, j, -, -, rfl⟩ := hx
    · exact .cons _ ih
    · exact .cons_cons _ ih

/-! ## Records as lists -/

theorem readPositions_cons_cases {name : String} {total listed taken : Nat}
    {f : String × Shape × Option Json} {ds : List Json}
    (h : readPositions name total listed taken (f :: fields) (d :: ds) = .ok ms) :
    ∃ j es, f.2.1.read d = .ok j ∧
      readPositions name total listed (taken + 1) fields ds = .ok es ∧ ms = (f.1, j) :: es := by
  have step : readPositions name total listed taken (f :: fields) (d :: ds) =
      (f.2.1.read d).bind fun j =>
        (readPositions name total listed (taken + 1) fields ds).bind fun es =>
          .ok ((f.1, j) :: es) := by
    rw [readPositions]
    rfl
  rw [step, bind_eq_ok_iff] at h
  obtain ⟨j, hj, h⟩ := h
  obtain ⟨es, hes, heq⟩ := bind_eq_ok_iff.1 h
  cases heq
  exact ⟨j, es, hj, hes, rfl⟩

theorem readListed_close {first : Bool} {name : String} {total listed taken : Nat}
    (h : readPositions name total listed taken fields [] = .ok ms) (rest : List Char) :
    readListed fields depth first (']' :: rest) = some (ms, rest) := by
  have hspace : isSpace ']' = false := by decide
  rw [readPositions, fillUp_eq_ok_iff] at h
  cases fields with
  | nil =>
    cases h
    rw [readListed, skipSpace_cons hspace]
    rfl
  | cons f fields =>
    obtain ⟨field, shape, default?⟩ := f
    rw [readListed, skipSpace_cons hspace]
    simp only [h]
    rfl

/-- Members that are listed after the first one are read from their texts. -/
theorem readListed_followers (hf : ∀ f ∈ fields, Accepts f.2.1) {name : String}
    {total listed taken : Nat} {ds : List Json} (hds : ∀ d ∈ ds, ReadsBack depth d)
    (h : readPositions name total listed taken fields ds = .ok ms) (rest : List Char) :
    readListed fields depth false (followers compactChars ds ++ ']' :: rest) =
      some (ms, rest) := by
  induction ds generalizing fields ms taken with
  | nil => exact readListed_close h rest
  | cons d ds ih =>
    cases fields with
    | nil => cases h
    | cons f fields =>
      obtain ⟨j, es, hj, hes, rfl⟩ := readPositions_cons_cases h
      obtain ⟨field, shape, default?⟩ := f
      have hends : Ends (followers compactChars ds ++ ']' :: rest) :=
        ends_followers (by decide) ds rest
      have hread := hf _ List.mem_cons_self (hds d List.mem_cons_self) hj _ hends
      have hrest := ih (fun f h => hf f (List.mem_cons_of_mem _ h))
        (fun d h => hds d (List.mem_cons_of_mem _ h)) hes
      rw [followers_cons, List.cons_append, List.append_assoc, readListed,
        skipSpace_cons isSpace_comma]
      split
      · rename_i heq
        exact absurd (List.cons.inj heq).1 (by decide)
      · simp only [Bool.false_eq_true, if_false, Option.bind_some, hread, Option.map_some, hrest]

theorem readListed_items (hf : ∀ f ∈ fields, Accepts f.2.1) {name : String}
    {total listed taken : Nat} {ds : List Json} (hds : ∀ d ∈ ds, ReadsBack depth d)
    (h : readPositions name total listed taken fields ds = .ok ms) (rest : List Char) :
    readListed fields depth true (compactItems ds ++ ']' :: rest) = some (ms, rest) := by
  rw [compactItems_eq]
  cases ds with
  | nil => exact readListed_close h rest
  | cons d ds =>
    cases fields with
    | nil => cases h
    | cons f fields =>
      obtain ⟨j, es, hj, hes, rfl⟩ := readPositions_cons_cases h
      obtain ⟨field, shape, default?⟩ := f
      have hends : Ends (followers compactChars ds ++ ']' :: rest) :=
        ends_followers (by decide) ds rest
      have hread := hf _ List.mem_cons_self (hds d List.mem_cons_self) hj _ hends
      have hrest := readListed_followers (fun f h => hf f (List.mem_cons_of_mem _ h))
        (fun d h => hds d (List.mem_cons_of_mem _ h)) hes rest
      obtain ⟨c, cs, hc, hne, hcomma, hspace⟩ := first_compactChars d
      rw [hc] at hread
      rw [List.cons_append] at hread
      rw [listing, List.append_assoc, hc, List.cons_append, readListed, skipSpace_cons hspace]
      split
      · rename_i heq
        exact absurd (List.cons.inj heq).1 hne
      · split
        · rename_i heq
          exact absurd (List.cons.inj heq).1 hcomma
        · simp only [if_true, Option.bind_some, hread, Option.map_some, hrest]

/-! ## Shapes that accept -/

theorem accepts_text : Accepts .text := by
  intro depth d j hd h
  cases d with
  | str s =>
    cases h
    exact reads_text depth s
  | _ => cases h

theorem accepts_any : Accepts .any := by
  intro depth d j hd h
  rw [read] at h
  cases h
  have hread := reads_reread depth d
  rwa [reread_eq_self_iff.2 hd] at hread

theorem Accepts.list (h : item.Accepts) : (Shape.list item).Accepts := by
  intro depth d j hd hread
  cases d with
  | arr ds =>
    rw [read, map_eq_ok_iff] at hread
    obtain ⟨js, hjs, rfl⟩ := hread
    cases hd with
    | @arr depth _ hds =>
      have hitems : List.Forall₂
          (fun d j => Reads (item.readChars depth) (id d).compactChars (some j)) ds js :=
        (forall₂_and_mem (readItems_eq_ok_iff.1 hjs)).imp fun d j hj => h (hds d hj.1) hj.2
      obtain ⟨hreads, hmap⟩ := reads_alone_of_forall₂ hitems
      have hlist := reads_list hreads
      rwa [List.map_id, hmap] at hlist
  | _ => cases hread

theorem Accepts.dict (h : item.Accepts) (nullable : Bool) :
    (Shape.dict nullable item).Accepts := by
  intro depth d j hd hread
  cases d with
  | null =>
    cases nullable with
    | true =>
      cases hread
      exact reads_null item depth
    | false => cases hread
  | obj ms =>
    have step : (Shape.dict nullable item).read (.obj ms) =
        (readEntries item ms).map ofMembers := by
      cases nullable <;> rw [read]
    rw [step, map_eq_ok_iff] at hread
    obtain ⟨es, hes, rfl⟩ := hread
    cases hd with
    | @obj depth _ _ hms =>
      have hentries : List.Forall₂ (fun e e' => e.1 = e'.1 ∧
          Reads (item.readChars depth) e.2.compactChars (some e'.2)) ms es :=
        (forall₂_and_mem (readEntries_eq_ok_iff.1 hes)).imp
          fun e e' he => ⟨he.2.1, h (hms e he.1) he.2.2⟩
      have hkeep : ms.mapM (keep fun e => (item.readChars depth e.2.compactChars).map (·.1)) =
          some es := by
        refine mapM_of_forall₂ (hentries.imp fun e e' he => ?_)
        rw [keep, he.2.alone, Option.map_some, he.1]
      have hreads : ∀ e ∈ ms, Reads (item.readChars depth) e.2.compactChars
          ((item.readChars depth e.2.compactChars).map (·.1)) := by
        intro e he
        obtain ⟨e', -, h⟩ := exists_of_forall₂ hentries he
        rwa [h.alone]
      have hdict := reads_dict nullable hreads
      rwa [hkeep] at hdict
  | _ => cases nullable <;> cases hread

/-- A record is read from the text of an object with its members. -/
theorem reads_record_obj {name : String} (hf : ∀ f ∈ fields, Accepts f.2.1)
    (hd : (Json.obj ms).ReadsBack depth) (h : (Shape.record name fields).read (.obj ms) = .ok j) :
    Reads ((Shape.record name fields).readChars depth) (Json.obj ms).compactChars (some j) := by
  rw [read, bind_eq_ok_iff] at h
  obtain ⟨found, hfound, hassemble⟩ := h
  cases hd with
  | @obj depth _ hsorted hms =>
    obtain ⟨l, hl, rfl⟩ := forall₂_found hfound
    have hmembers : List.Forall₂ (fun e x =>
        Reads (keyed (readField fields depth)) (memberChars e) (some x)) ms l := by
      refine (forall₂_and_mem hl.flip).imp fun e x hx => ?_
      obtain ⟨hnone, rfl⟩ | ⟨shape, default?, j, hk, hread, rfl⟩ := hx.2
      · exact reads_keyed (reads_unknown hnone (hms e hx.1))
      · exact reads_keyed (reads_field hk (hf _ (mem_of_lookup hk) (hms e hx.1) hread))
    obtain ⟨hreads, hmap⟩ := reads_alone_of_forall₂ hmembers
    have hdistinct : (l.filterMap id).Pairwise fun e e' => e.1 ≠ e'.1 := by
      have hkeys : (ms.map (·.1)).Pairwise (· ≠ ·) := hsorted.imp String.ne_of_lt
      exact List.pairwise_map.1 (hkeys.sublist (keys_found hl))
    intro rest _
    rw [compactChars_obj]
    unfold readChars
    simp only [skipSpace_cons isSpace_brace, elements_members hreads rest, hmap,
      Option.map_some, Option.bind_some, gather, if_pos hdistinct, hassemble]
    rfl

/-- A record is read from the text of an array that lists its members. -/
theorem reads_record_arr {name : String} {ds : List Json} (hf : ∀ f ∈ fields, Accepts f.2.1)
    (hd : (Json.arr ds).ReadsBack depth) (h : (Shape.record name fields).read (.arr ds) = .ok j) :
    Reads ((Shape.record name fields).readChars depth) (Json.arr ds).compactChars (some j) := by
  rw [read, map_eq_ok_iff] at h
  obtain ⟨es, hes, rfl⟩ := h
  cases hd with
  | @arr depth _ hds =>
    intro rest _
    rw [compactChars_arr]
    unfold readChars
    simp only [skipSpace_cons isSpace_bracket, readListed_items hf hds hes rest]
    rfl

theorem accepts_record (name : String) (hf : ∀ f ∈ fields, Accepts f.2.1) :
    (Shape.record name fields).Accepts := by
  intro depth d j hd h
  cases d with
  | obj ms => exact reads_record_obj hf hd h
  | arr ds => exact reads_record_arr hf hd h
  | _ => cases h

/-- **A value that is read by a sound shape** is read by it from its text. -/
theorem Sound.accepts (hs : shape.Sound) : shape.Accepts := by
  induction hs with
  | text => exact accepts_text
  | any => exact accepts_any
  | list _ ih => exact ih.list
  | @dict nullable _ _ ih => exact ih.dict nullable
  | @record name _ _ _ _ ih => exact accepts_record name ih

/-- **A whole text is read** by a sound shape as the value that it is written
    of. -/
theorem ofText?_compact (hs : shape.Sound) (hd : d.ReadsBack depthLimit)
    (h : shape.read d = .ok j) : shape.ofText? d.compact = some j :=
  ofText?_of_reads (hs.accepts hd h)

end Shape

end Concord
