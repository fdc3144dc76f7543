/-
  Texts that are read by a shape, and their values.

  The reader of a shape goes along a text as the reader of values does, only that
  it passes over what the shape does not know and refuses what is given twice.
  So a text that is read by a shape and as a value is read by the shape as its
  value is.

  * `Faithful`: shapes of which this is so.
  * `Found`, `read_of_found`: the members of a record.
  * `After`, `readPositions_of_elements`: the members of a record in a list.
  * `Sound.faithful`, `read_of_ofText?`: all sound shapes, and whole texts.
-/
import Concord.Proofs.Json.Skipping
import Concord.Proofs.Schema.Canonical

namespace Concord.Shape

open Json

variable {fields : List (String × Shape × Option Json)} {depth : Nat} {cs rest rest' : List Char}
  {ms es : List (String × Json)} {ds : List Json} {name k : String} {shape item : Shape}
  {j d : Json}

/-- A shape reads a text as it reads the value of the text. -/
def Faithful (shape : Shape) : Prop :=
  ∀ depth, Agree (shape.readChars depth) (value depth) fun j d => shape.read d = .ok j

/-! ## Members of records -/

/-- What is found for a record where a member is given. -/
def Found (fields : List (String × Shape × Option Json)) (found : Option (String × Json))
    (e : String × Json) : Prop :=
  (fields.lookup e.1 = none ∧ found = none) ∨
    ∃ shape default? j, fields.lookup e.1 = some (shape, default?) ∧ shape.read e.2 = .ok j ∧
      found = some (e.1, j)

theorem agree_readField (h : ∀ f ∈ fields, Faithful f.2.1) (depth : Nat) (k : String) :
    Agree (readField fields depth k) (value depth) fun found d => Found fields found (k, d) := by
  induction fields with
  | nil =>
    intro cs found rest d rest' hfound hd
    rw [readField] at hfound
    obtain ⟨r, hr, heq⟩ := Option.map_eq_some_iff.1 hfound
    cases heq
    have hskip : passOver (cs.length + 1) cs = some ((), rest) := by
      rw [skip] at hr
      rw [passOver, hr]
      rfl
    exact ⟨(agree_passOver _ depth cs () rest d rest' hskip hd).1, .inl ⟨rfl, rfl⟩⟩
  | cons f fields ih =>
    intro cs found rest d rest' hfound hd
    obtain ⟨name, shape, default?⟩ := f
    have hlookup := lookup_cons_ite k (name, shape, default?) fields
    rw [readField] at hfound
    split at hfound
    · rename_i hk
      rw [if_pos hk] at hlookup
      obtain ⟨⟨j, r⟩, hj, heq⟩ := Option.map_eq_some_iff.1 hfound
      cases heq
      obtain ⟨hrest, hread⟩ := h _ List.mem_cons_self depth cs j rest d rest' hj hd
      exact ⟨hrest, .inr ⟨shape, default?, j, hlookup, hread, rfl⟩⟩
    · rename_i hk
      rw [if_neg hk] at hlookup
      obtain ⟨hrest, hknown⟩ :=
        ih (fun f hf => h f (List.mem_cons_of_mem _ hf)) cs found rest d rest' hfound hd
      refine ⟨hrest, ?_⟩
      obtain ⟨hnone, rfl⟩ | ⟨shape', default', j, hk', hread, rfl⟩ := hknown
      · exact .inl ⟨hlookup.trans hnone, rfl⟩
      · exact .inr ⟨shape', default', j, hlookup.trans hk', hread, rfl⟩

/-- What is found under a name that the record knows is what is read of the
    member, of equal names that of the last. -/
theorem rel_get?_ofList_found {found : List (Option (String × Json))}
    (h : List.Forall₂ (Found fields) found ms) {default? : Option Json}
    (hk : fields.lookup k = some (shape, default?)) :
    Option.Rel (fun d j => shape.read d = .ok j) ((Dict.ofList ms).get? k)
      ((Dict.ofList (found.filterMap id)).get? k) := by
  -- as for dictionaries, but what is passed over changes nothing under the name
  suffices hgeneral : ∀ a b : Dict Json,
      Option.Rel (fun d j => shape.read d = .ok j) (a.get? k) (b.get? k) →
        Option.Rel (fun d j => shape.read d = .ok j)
          ((ms.foldl (fun d e => d.insert e.1 e.2) a).get? k)
          (((found.filterMap id).foldl (fun d e => d.insert e.1 e.2) b).get? k) from
    hgeneral Dict.empty Dict.empty .none
  induction h with
  | nil => exact fun a b hab => hab
  | @cons x e found ms hx _ ih =>
    intro a b hab
    obtain ⟨hnone, rfl⟩ | ⟨shape', _, j, hknown, hread, rfl⟩ := hx
    · refine ih _ _ ?_
      have hne : k ≠ e.1 := fun heq => by rw [heq, hnone] at hk; cases hk
      rwa [Dict.get?_insert, if_neg hne]
    · refine ih _ _ ?_
      rw [Dict.get?_insert, Dict.get?_insert]
      split
      · rename_i heq
        rw [heq, hknown] at hk
        cases hk
        exact .some hread
      · exact hab

/-- A record is read of the members found, if none is found twice. -/
theorem read_of_found (hn : (names fields).Nodup) {found : List (Option (String × Json))}
    (h : List.Forall₂ (Found fields) found ms) (hj : gather fields (found.filterMap id) = some j) :
    (Shape.record name fields).read (ofMembers ms) = .ok j := by
  rw [gather] at hj
  split at hj
  · rename_i hdistinct
    have hkeys : ((found.filterMap id).map (·.1)).Nodup := List.pairwise_map.2 hdistinct
    cases hassemble : assemble fields (found.filterMap id) with
    | error problem =>
      rw [hassemble] at hj
      cases hj
    | ok j' =>
      rw [hassemble] at hj
      cases hj
      obtain ⟨es, hes, rfl⟩ := map_eq_ok_iff.1 hassemble
      obtain ⟨hnames, hvalues⟩ := (complete_eq_ok_iff hn).1 hes
      refine read_obj_of_members hn (Dict.nodup_keys _) ⟨hnames, fun f hf => ?_⟩
      rw [hvalues f hf]
      have hrel := rel_get?_ofList_found h (lookup_of_mem hn hf)
      have hlookup : (Dict.ofList (found.filterMap id)).get? f.1 =
          (found.filterMap id).lookup f.1 := Json.get?_ofMembers hkeys f.1
      rw [hlookup] at hrel
      exact readFrom_of_rel hrel
  · cases hj

/-! ## Records as lists -/

/-- The rest of a sequence of values, after one of them. -/
def After (depth fuel : Nat) (cs : List Char) (ds : List Json) (rest : List Char) : Prop :=
  (∃ r, skipSpace cs = ',' :: r ∧ sequence ']' (value depth) fuel r = some (ds, rest)) ∨
    (skipSpace cs = ']' :: rest ∧ ds = [])

/-- A listed member stands first or after a comma, where the list is not closed
    before. -/
theorem readListed_cases {first : Bool} {f : String × Shape × Option Json}
    (h : readListed (f :: fields) depth first cs = some (ms, rest)) :
    (skipSpace cs = ']' :: rest ∧ complete [] (f :: fields) = .ok ms) ∨
      ∃ start j r es, (if first then skipSpace cs = start ∧ start.head? ≠ some ']'
          else skipSpace cs = ',' :: start) ∧
        f.2.1.readChars depth start = some (j, r) ∧
        readListed fields depth false r = some (es, rest) ∧ ms = (f.1, j) :: es := by
  obtain ⟨name, shape, default?⟩ := f
  rw [readListed] at h
  split at h
  · rename_i r hr
    cases hcomplete : complete [] ((name, shape, default?) :: fields) with
    | error problem =>
      rw [hcomplete] at h
      cases h
    | ok es =>
      rw [hcomplete] at h
      cases h
      exact .inl ⟨hr, rfl⟩
  · rename_i hclosed
    obtain ⟨start, hstart, h⟩ := Option.bind_eq_some_iff.1 h
    obtain ⟨⟨j, r⟩, hj, h⟩ := Option.bind_eq_some_iff.1 h
    obtain ⟨⟨es, r'⟩, hes, heq⟩ := Option.map_eq_some_iff.1 h
    cases heq
    refine .inr ⟨start, j, r, es, ?_, hj, hes, rfl⟩
    split at hstart
    · rename_i r' hr'
      cases first with
      | true => cases hstart
      | false =>
        cases hstart
        exact hr'
    · cases first with
      | true =>
        cases hstart
        refine ⟨rfl, fun hhead => ?_⟩
        obtain ⟨r', hr'⟩ := List.head?_eq_some_iff.1 hhead
        exact hclosed r' hr'
      | false => cases hstart

theorem readListed_nil_cases {first : Bool} (h : readListed [] depth first cs = some (ms, rest)) :
    skipSpace cs = ']' :: rest ∧ ms = [] := by
  rw [readListed] at h
  split at h
  · rename_i r hr
    cases h
    exact ⟨hr, rfl⟩
  · cases h

theorem after_of_sequence {fuel : Nat}
    (h : sequence ']' (value depth) fuel cs = some (ds, rest)) :
    ∃ n d r ds', value depth cs = some (d, r) ∧ After depth n r ds' rest ∧ ds = d :: ds' := by
  obtain ⟨n, d, r, -, hd, ⟨r', ds', hr', hds', rfl⟩ | ⟨hr, -, rfl⟩⟩ := sequence_cases h
  · exact ⟨n, d, r, ds', hd, .inl ⟨r', hr', hds'⟩, rfl⟩
  · exact ⟨n, d, r, [], hd, .inr ⟨hr, rfl⟩, rfl⟩

variable {total listed : Nat}

theorem readPositions_cons {f : String × Shape × Option Json} {taken : Nat}
    (hj : f.2.1.read d = .ok j)
    (hes : readPositions name total listed (taken + 1) fields ds = .ok es) :
    readPositions name total listed taken (f :: fields) (d :: ds) = .ok ((f.1, j) :: es) := by
  obtain ⟨field, shape, default?⟩ := f
  rw [readPositions, hj]
  simp [bind, Except.bind, hes]

theorem readPositions_nil {taken : Nat} (h : complete [] fields = .ok es) :
    readPositions name total listed taken fields [] = .ok es := by
  rw [readPositions]
  exact fillUp_eq_ok_iff.2 h

/-- What is read of a list is what is read of its items. -/
theorem readPositions_of_after (h : ∀ f ∈ fields, Faithful f.2.1) {fuel taken : Nat}
    (hms : readListed fields depth false cs = some (ms, rest))
    (hds : After depth fuel cs ds rest') :
    rest = rest' ∧ readPositions name total listed taken fields ds = .ok ms := by
  induction fields generalizing cs ms ds fuel taken with
  | nil =>
    obtain ⟨hclose, rfl⟩ := readListed_nil_cases hms
    obtain ⟨r, hr, -⟩ | ⟨hr, rfl⟩ := hds
    · cases hclose.symm.trans hr
    · cases hclose.symm.trans hr
      exact ⟨rfl, readPositions_nil rfl⟩
  | cons f fields ih =>
    obtain ⟨hclose, hcomplete⟩ | ⟨start, j, r, es, hstart, hj, hes, rfl⟩ := readListed_cases hms
    · obtain ⟨r, hr, -⟩ | ⟨hr, rfl⟩ := hds
      · cases hclose.symm.trans hr
      · cases hclose.symm.trans hr
        exact ⟨rfl, readPositions_nil hcomplete⟩
    · rw [if_neg Bool.false_ne_true] at hstart
      obtain ⟨r', hr', hds⟩ | ⟨hr', -⟩ := hds
      · cases hstart.symm.trans hr'
        obtain ⟨n, d, r', ds', hd, hafter, rfl⟩ := after_of_sequence hds
        obtain ⟨rfl, hread⟩ := h f List.mem_cons_self depth _ _ _ _ _ hj hd
        obtain ⟨hrest, hpositions⟩ := ih (fun f hf => h f (List.mem_cons_of_mem _ hf)) hes hafter
        exact ⟨hrest, readPositions_cons hread hpositions⟩
      · cases hstart.symm.trans hr'

theorem readPositions_of_elements (h : ∀ f ∈ fields, Faithful f.2.1) {taken : Nat}
    (hms : readListed fields depth true cs = some (ms, rest))
    (hds : elements ']' (value depth) cs = some (ds, rest')) :
    rest = rest' ∧ readPositions name total listed taken fields ds = .ok ms := by
  cases fields with
  | nil =>
    obtain ⟨hclose, rfl⟩ := readListed_nil_cases hms
    obtain ⟨hr, rfl⟩ | ⟨c, r, hr, hc, -⟩ := elements_cases hds
    · cases hclose.symm.trans hr
      exact ⟨rfl, readPositions_nil rfl⟩
    · cases hclose.symm.trans hr
      exact absurd rfl hc
  | cons f fields =>
    obtain ⟨hclose, hcomplete⟩ | ⟨start, j, r, es, hstart, hj, hes, rfl⟩ := readListed_cases hms
    · obtain ⟨hr, rfl⟩ | ⟨c, r, hr, hc, -⟩ := elements_cases hds
      · cases hclose.symm.trans hr
        exact ⟨rfl, readPositions_nil hcomplete⟩
      · cases hclose.symm.trans hr
        exact absurd rfl hc
    · rw [if_pos rfl] at hstart
      obtain ⟨hstart, hopen⟩ := hstart
      obtain ⟨hr, rfl⟩ | ⟨c, r', hr, -, hsequence⟩ := elements_cases hds
      · rw [← hstart, hr] at hopen
        exact absurd rfl hopen
      · cases hstart.symm.trans hr
        obtain ⟨n, d, r'', ds', hd, hafter, rfl⟩ := after_of_sequence hsequence
        obtain ⟨rfl, hread⟩ := h f List.mem_cons_self depth _ _ _ _ _ hj hd
        obtain ⟨hrest, hpositions⟩ :=
          readPositions_of_after (fun f hf => h f (List.mem_cons_of_mem _ hf)) hes hafter
        exact ⟨hrest, readPositions_cons hread hpositions⟩

/-! ## Dictionaries -/

/-- Values under any names are read of the entries that win. -/
theorem read_of_entries {nullable : Bool}
    (h : List.Forall₂ (fun e e' => e.1 = e'.1 ∧ item.read e.2 = .ok e'.2) ms es) :
    (Shape.dict nullable item).read (ofMembers ms) = .ok (ofMembers es) := by
  have hrel := rel_get?_ofList (R := fun d j => item.read d = .ok j) h
  have hself : Dict.ofList (Dict.ofList ms).entries = Dict.ofList ms := Dict.ofList_entries _
  have hkeys : ∀ k, (Dict.ofList (Dict.ofList ms).entries).contains k =
      (Dict.ofList es).contains k := by
    intro k
    rw [hself]
    exact isSome_eq_of_rel (hrel k)
  have hvalues : ∀ k d j, (Dict.ofList (Dict.ofList ms).entries).get? k = some d →
      (Dict.ofList es).get? k = some j → item.read d = .ok j := by
    intro k d j hd hj
    have hk := hrel k
    rw [hself] at hd
    rw [hd, hj] at hk
    cases hk with
    | some hread => exact hread
  obtain ⟨es', hread, heq⟩ := exists_readEntries (Dict.nodup_keys (Dict.ofList ms)) hkeys hvalues
  have step : (Shape.dict nullable item).read (ofMembers ms) =
      (readEntries item (Dict.ofList ms).entries).map ofMembers := by
    cases nullable <;> rw [ofMembers, ofDict, read]
  rw [step, hread, ofMembers, ← heq]
  rfl

/-! ## Faithful shapes -/

theorem faithful_text : Faithful .text := by
  intro depth cs j rest d rest' hj hd
  unfold readChars at hj
  split at hj
  · rename_i r hr
    rw [← value_skipSpace, hr, value_quote] at hd
    obtain ⟨⟨t, r'⟩, ht, heq⟩ := Option.map_eq_some_iff.1 hj
    rw [ht] at hd
    cases heq
    cases hd
    exact ⟨rfl, rfl⟩
  · cases hj

theorem faithful_any : Faithful .any := by
  intro depth cs j rest d rest' hj hd
  rw [readChars] at hj
  cases hj.symm.trans hd
  refine ⟨rfl, ?_⟩
  show Shape.any.read j = .ok j
  rw [read]

theorem Faithful.list (h : item.Faithful) : (Shape.list item).Faithful := by
  intro depth cs j rest d rest' hj hd
  unfold readChars at hj
  split at hj
  · rename_i r n hr
    rw [← value_skipSpace, hr] at hd
    obtain ⟨m, ds, hm, hds, rfl⟩ := exists_of_value_bracket hd
    obtain rfl := Nat.succ.inj hm
    obtain ⟨⟨js, r'⟩, hjs, heq⟩ := Option.map_eq_some_iff.1 hj
    cases heq
    obtain ⟨hrest, hall⟩ := (h n).elements _ _ _ _ _ hjs hds
    refine ⟨hrest, ?_⟩
    show (Shape.list item).read (.arr ds) = .ok (.arr js)
    rw [read, readItems_eq_ok_iff.2 hall.flip]
    rfl
  · cases hj

theorem Faithful.dict (h : item.Faithful) (nullable : Bool) :
    (Shape.dict nullable item).Faithful := by
  intro depth cs j rest d rest' hj hd
  unfold readChars at hj
  split at hj
  · rename_i r hr
    rw [← value_skipSpace, hr, value_null] at hd
    cases hd
    cases nullable with
    | true =>
      cases hj
      exact ⟨rfl, rfl⟩
    | false => cases hj
  · rename_i r n hr
    rw [← value_skipSpace, hr] at hd
    obtain ⟨m, ds, hm, hds, rfl⟩ := exists_of_value_brace hd
    obtain rfl := Nat.succ.inj hm
    obtain ⟨⟨es, r'⟩, hes, heq⟩ := Option.map_eq_some_iff.1 hj
    cases heq
    obtain ⟨hrest, hall⟩ := (h n).member.elements _ _ _ _ _ hes hds
    exact ⟨hrest, read_of_entries (hall.flip.imp fun _ _ h => ⟨h.1.symm, h.2⟩)⟩
  · cases hj

theorem faithful_record (name : String) (hn : (names fields).Nodup)
    (h : ∀ f ∈ fields, Faithful f.2.1) : (Shape.record name fields).Faithful := by
  intro depth cs j rest d rest' hj hd
  unfold readChars at hj
  split at hj
  · rename_i r n hr
    rw [← value_skipSpace, hr] at hd
    obtain ⟨m, ds, hm, hds, rfl⟩ := exists_of_value_brace hd
    obtain rfl := Nat.succ.inj hm
    obtain ⟨⟨found, r'⟩, hfound, hgather⟩ := Option.bind_eq_some_iff.1 hj
    obtain ⟨j', hj', heq⟩ := Option.map_eq_some_iff.1 hgather
    cases heq
    have hmember := Agree.keyed_member (R := Found fields) (agree_readField h n)
    obtain ⟨hrest, hall⟩ := hmember.elements _ _ _ _ _ hfound hds
    exact ⟨hrest, read_of_found hn hall hj'⟩
  · rename_i r n hr
    rw [← value_skipSpace, hr] at hd
    obtain ⟨m, ds, hm, hds, rfl⟩ := exists_of_value_bracket hd
    obtain rfl := Nat.succ.inj hm
    obtain ⟨⟨es, r'⟩, hes, heq⟩ := Option.map_eq_some_iff.1 hj
    cases heq
    obtain ⟨hrest, hpositions⟩ := readPositions_of_elements h hes hds
    refine ⟨hrest, ?_⟩
    show (Shape.record name fields).read (.arr ds) = .ok (ofMembers es)
    rw [read, hpositions]
    rfl
  · cases hj

/-- **Every sound shape is faithful.** -/
theorem Sound.faithful (hs : shape.Sound) : shape.Faithful := by
  induction hs with
  | text => exact faithful_text
  | any => exact faithful_any
  | list _ ih => exact ih.list
  | @dict nullable _ _ ih => exact ih.dict nullable
  | @record name _ hn _ _ ih => exact faithful_record name hn ih

/-! ## Whole texts -/

theorem exists_of_ofText? {s : String} (h : shape.ofText? s = some j) :
    ∃ rest, shape.readChars depthLimit s.toList = some (j, rest) := by
  unfold ofText? at h
  split at h
  · rename_i j' rest hread
    split at h
    · cases h
      exact ⟨rest, hread⟩
    · cases h
  · cases h

theorem exists_of_read? {s : String} (h : Json.read? s = some d) :
    ∃ rest, value depthLimit s.toList = some (d, rest) := by
  unfold Json.read? at h
  split at h
  · rename_i d' rest hread
    split at h
    · cases h
      exact ⟨rest, hread⟩
    · cases h
  · cases h

/-- **What is read of a text by a shape** is what is read of its value. -/
theorem read_of_ofText? (hs : shape.Sound) {s : String} (hj : shape.ofText? s = some j)
    (hd : Json.read? s = some d) : shape.read d = .ok j := by
  obtain ⟨rest, hj⟩ := exists_of_ofText? hj
  obtain ⟨rest', hd⟩ := exists_of_read? hd
  exact (hs.faithful depthLimit _ _ _ _ _ hj hd).2

end Concord.Shape
