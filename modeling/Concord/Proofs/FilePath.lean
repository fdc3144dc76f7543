/-
  The parts of paths.

  A path is a root or a dot at its start, if it has one, and the names between
  its slashes.  To go to the parent is to drop the last part, whatever slashes
  and dots are written; only the root is never dropped.

  * `partsList`, `parts`: the parts of a path.
  * `partsList_parentList?`, `parentList?_eq_none_iff`: one step up.
  * `ancestor?`: some steps up; `getElem?_ancestors`: the ancestors are these.
  * `isSome_ancestor?_iff`: there are as many steps as parts below the root.
  * `parts_ancestor?`: what is left of the path.
  * `parts_join`: a name under a directory.
-/
import Mathlib.Data.List.TakeWhile
import Concord.FilePath

namespace Concord.FilePath

variable {cs ps xs w : List Char} {path d : String} {k : Nat}

/-! ## Names -/

/-- Whether what stands between two slashes is a name; a dot names nothing. -/
def isName (w : List Char) : Bool := w ≠ [] ∧ w ≠ ['.']

/-- The names of a path, in their order. -/
def namesOf (cs : List Char) : List (List Char) := (cs.splitOn '/').filter isName

theorem isName_reverse (w : List Char) : isName w.reverse = isName w := by
  simp [isName, List.reverse_eq_iff]

/-- The names on both sides of a slash. -/
theorem namesOf_append_slash (xs ys : List Char) :
    namesOf (xs ++ '/' :: ys) = namesOf xs ++ namesOf ys := by
  simp only [namesOf, List.splitOn_append_cons_self, List.filter_append]

theorem namesOf_of_isName (hw : isName w) (h : '/' ∉ w) : namesOf w = [w] := by
  rw [namesOf, List.splitOn_eq_singleton h, List.filter_cons_of_pos hw, List.filter_nil]

@[simp] theorem namesOf_nil : namesOf [] = [] := rfl

@[simp] theorem namesOf_dot : namesOf ['.'] = [] := rfl

theorem namesOf_slash (cs : List Char) : namesOf ('/' :: cs) = namesOf cs :=
  namesOf_append_slash [] cs

/-- What is dropped at the end of a path names nothing. -/
theorem namesOf_dropTail (cs : List Char) :
    namesOf (dropTail cs).reverse = namesOf cs.reverse := by
  fun_induction dropTail cs with
  | case1 r ih =>
    have hlast : ('/' :: r).reverse = r.reverse ++ '/' :: [] := by simp
    rw [ih, hlast, namesOf_append_slash, namesOf_nil, List.append_nil]
  | case2 r ih =>
    have hlast : ('.' :: '/' :: r).reverse = r.reverse ++ '/' :: ['.'] := by simp
    rw [ih, hlast, namesOf_append_slash, namesOf_dot, List.append_nil]
  | case3 => rfl
  | case4 cs => rfl

/-- What is left at the end of a path is a name. -/
theorem isName_of_dropTail (h : dropTail cs ≠ []) :
    isName ((dropTail cs).takeWhile (· != '/')) = true := by
  fun_induction dropTail cs with
  | case1 r ih => exact ih h
  | case2 r ih => exact ih h
  | case3 => exact absurd rfl h
  | case4 cs hslash hdotSlash hdot =>
    obtain ⟨c, r, rfl⟩ := List.exists_cons_of_ne_nil h
    have hc : c ≠ '/' := fun hc => hslash r (by rw [hc])
    rw [List.takeWhile_cons_of_pos (by simpa using hc)]
    suffices hne : c :: r.takeWhile (· != '/') ≠ ['.'] by
      rw [isName, decide_eq_true_iff]
      exact ⟨List.cons_ne_nil _ _, hne⟩
    intro hw
    obtain ⟨rfl, hr⟩ := List.cons.inj hw
    -- a dot is left at the end only if a name goes on after it
    cases r with
    | nil => exact hdot rfl
    | cons c' r =>
      by_cases hc' : c' = '/'
      · exact hdotSlash r (by rw [hc'])
      · rw [List.takeWhile_cons_of_pos (by simpa using hc')] at hr
        cases hr

/-- The last name of a path is the one that is dropped. -/
theorem namesOf_reverse (h : isName (cs.takeWhile (· != '/'))) :
    namesOf cs.reverse =
      namesOf (dropName cs).reverse ++ [(cs.takeWhile (· != '/')).reverse] := by
  have hslash : '/' ∉ (cs.takeWhile (· != '/')).reverse := by
    intro hmem
    have hne := List.mem_takeWhile_imp (List.mem_reverse.1 hmem)
    simp at hne
  have hlast := namesOf_of_isName ((isName_reverse _).trans h) hslash
  have hcs := List.takeWhile_append_dropWhile (p := (· != '/')) (l := cs)
  unfold dropName
  cases hd : cs.dropWhile (· != '/') with
  | nil =>
    rw [hd, List.append_nil] at hcs
    rw [hcs] at hlast ⊢
    exact hlast
  | cons c r =>
    obtain rfl : c = '/' := by
      have hc := List.head?_dropWhile_not (· != '/') cs
      rw [hd] at hc
      simpa using hc
    have hsplit : cs.reverse = r.reverse ++ '/' :: (cs.takeWhile (· != '/')).reverse := by
      rw [hd] at hcs
      have hrev := congrArg List.reverse hcs
      rw [List.reverse_append, List.reverse_cons, List.append_assoc] at hrev
      exact hrev.symm
    rw [hsplit, namesOf_append_slash, hlast]
    rfl

/-! ## One step up -/

theorem dropTail_suffix (cs : List Char) : dropTail cs <:+ cs := by
  fun_induction dropTail cs with
  | case1 r ih => exact ih.trans (List.suffix_cons _ _)
  | case2 r ih => exact (ih.trans (List.suffix_cons _ _)).trans (List.suffix_cons _ _)
  | case3 => exact List.nil_suffix
  | case4 cs => exact List.suffix_rfl

theorem dropName_suffix (cs : List Char) : dropName cs <:+ cs :=
  (List.drop_suffix 1 _).trans (List.dropWhile_suffix _)

theorem dropTail_ne_dot (cs : List Char) : dropTail cs ≠ ['.'] := by
  fun_induction dropTail cs with
  | case1 r ih => exact ih
  | case2 r ih => exact ih
  | case3 => simp
  | case4 cs _ _ hdot => exact hdot

/-- The parts of a path: what it starts with, if that is no name, and its
    names. -/
def partsList (cs : List Char) : List (List Char) :=
  (if anchor cs = [] then [] else [anchor cs]) ++ namesOf cs

theorem partsList_slash (cs : List Char) : partsList ('/' :: cs) = ['/'] :: namesOf cs := by
  rw [← namesOf_slash cs]
  rfl

theorem partsList_dotSlash (cs : List Char) :
    partsList ('.' :: '/' :: cs) = ['.'] :: namesOf cs := by
  have hnames : namesOf ('.' :: '/' :: cs) = namesOf cs := namesOf_append_slash ['.'] cs
  rw [← hnames]
  rfl

theorem partsList_of_anchor_eq_nil (h : anchor cs = []) : partsList cs = namesOf cs := by
  rw [partsList, if_pos h, List.nil_append]

/-- How a path may start. -/
theorem anchor_cases (cs : List Char) :
    (∃ r, cs = '/' :: r) ∨ cs = ['.'] ∨ (∃ r, cs = '.' :: '/' :: r) ∨ anchor cs = [] := by
  fun_cases anchor cs with
  | case1 r => exact .inl ⟨r, rfl⟩
  | case2 => exact .inr (.inl rfl)
  | case3 r => exact .inr (.inr (.inl ⟨r, rfl⟩))
  | case4 => exact .inr (.inr (.inr rfl))

/-- A path that starts with a name still does so when it is cut. -/
theorem anchor_of_isPrefix (hp : ps <+: cs) (hdot : ps ≠ ['.']) (h : anchor cs = []) :
    anchor ps = [] := by
  obtain ⟨r, rfl⟩ := hp
  obtain ⟨r', rfl⟩ | rfl | ⟨r', rfl⟩ | hps := anchor_cases ps
  · cases h
  · exact absurd rfl hdot
  · cases h
  · exact hps

/-- A path without its last name, and without what names nothing at its end. -/
def withoutLast (cs : List Char) : List Char :=
  (dropTail (dropName (dropTail cs.reverse))).reverse

theorem withoutLast_isPrefix (cs : List Char) : withoutLast cs <+: cs := by
  rw [← List.reverse_suffix, withoutLast, List.reverse_reverse]
  exact ((dropTail_suffix _).trans (dropName_suffix _)).trans (dropTail_suffix _)

theorem withoutLast_ne_dot (cs : List Char) : withoutLast cs ≠ ['.'] := by
  intro h
  exact dropTail_ne_dot _ (List.reverse_eq_iff.1 h)

/-- The names of a path, with its last name apart. -/
theorem namesOf_eq_concat (h : dropTail cs.reverse ≠ []) :
    ∃ w, '/' ∉ w ∧ namesOf cs = namesOf (withoutLast cs) ++ [w] := by
  refine ⟨((dropTail cs.reverse).takeWhile (· != '/')).reverse, fun hmem => ?_, ?_⟩
  · have hne := List.mem_takeWhile_imp (List.mem_reverse.1 hmem)
    simp at hne
  · have hnames := namesOf_reverse (isName_of_dropTail h)
    rw [namesOf_dropTail, List.reverse_reverse] at hnames
    rw [hnames, withoutLast, namesOf_dropTail]

theorem parentList?_of_ne_nil (h : dropTail (cs.drop (anchor cs).length).reverse ≠ []) :
    parentList? cs = some (anchor cs ++ withoutLast (cs.drop (anchor cs).length)) := by
  rw [parentList?]
  split
  · rename_i hnil
    exact absurd hnil h
  · rfl

theorem parentList?_of_eq_nil (h : dropTail (cs.drop (anchor cs).length).reverse = []) :
    parentList? cs = if anchor cs = ['.'] then some [] else none := by
  rw [parentList?, h]

theorem namesOf_of_eq_nil (h : dropTail cs.reverse = []) : namesOf cs = [] := by
  have hnames := namesOf_dropTail cs.reverse
  rw [h, List.reverse_reverse] at hnames
  exact hnames.symm

/-- The parts of a path with a name, with the last one apart. -/
theorem partsList_eq_concat (h : dropTail (cs.drop (anchor cs).length).reverse ≠ []) :
    ∃ w, '/' ∉ w ∧
      partsList cs = partsList (anchor cs ++ withoutLast (cs.drop (anchor cs).length)) ++ [w] := by
  obtain ⟨w, hw, hnames⟩ := namesOf_eq_concat h
  refine ⟨w, hw, ?_⟩
  obtain ⟨r, rfl⟩ | rfl | ⟨r, rfl⟩ | hcs := anchor_cases cs
  · show partsList ('/' :: r) = partsList ('/' :: withoutLast r) ++ [w]
    have hnames : namesOf r = namesOf (withoutLast r) ++ [w] := hnames
    rw [partsList_slash, partsList_slash, hnames, List.cons_append]
  · exact absurd rfl h
  · show partsList ('.' :: '/' :: r) = partsList ('.' :: withoutLast ('/' :: r)) ++ [w]
    have hnames : namesOf ('/' :: r) = namesOf (withoutLast ('/' :: r)) ++ [w] := hnames
    rw [namesOf_slash] at hnames
    rw [partsList_dotSlash, hnames]
    -- what is left after the dot is nothing, or goes on with the slash
    obtain ⟨r', hr'⟩ := withoutLast_isPrefix ('/' :: r)
    cases hleft : withoutLast ('/' :: r) with
    | nil => rfl
    | cons c left =>
      rw [hleft] at hr'
      obtain rfl : c = '/' := (List.cons.inj hr').1
      rw [partsList_dotSlash, namesOf_slash, List.cons_append]
  · rw [hcs, List.length_nil, List.drop_zero] at hnames ⊢
    have hleft := anchor_of_isPrefix (withoutLast_isPrefix cs) (withoutLast_ne_dot cs) hcs
    rw [List.nil_append, partsList_of_anchor_eq_nil hcs, partsList_of_anchor_eq_nil hleft, hnames]

theorem namesOf_drop_anchor (cs : List Char) :
    namesOf (cs.drop (anchor cs).length) = namesOf cs := by
  obtain ⟨r, rfl⟩ | rfl | ⟨r, rfl⟩ | hcs := anchor_cases cs
  · exact (namesOf_slash r).symm
  · rfl
  · exact (namesOf_slash r).trans (namesOf_append_slash ['.'] r).symm
  · rw [hcs, List.length_nil, List.drop_zero]

/-- A path without a name has no part but what it starts with. -/
theorem partsList_of_eq_nil (h : dropTail (cs.drop (anchor cs).length).reverse = []) :
    partsList cs = if anchor cs = [] then [] else [anchor cs] := by
  rw [partsList, ← namesOf_drop_anchor, namesOf_of_eq_nil h, List.append_nil]

/-- **To go to the parent is to drop the last part**, which is not the root. -/
theorem partsList_parentList? (h : parentList? cs = some ps) :
    ∃ w, '/' ∉ w ∧ partsList cs = partsList ps ++ [w] := by
  by_cases hnil : dropTail (cs.drop (anchor cs).length).reverse = []
  · rw [parentList?_of_eq_nil hnil] at h
    split at h
    · rename_i hdot
      cases h
      refine ⟨['.'], by decide, ?_⟩
      rw [partsList_of_eq_nil hnil, hdot]
      rfl
    · cases h
  · rw [parentList?_of_ne_nil hnil] at h
    obtain rfl := Option.some.inj h
    exact partsList_eq_concat hnil

/-- Only the root and the empty path have no parent. -/
theorem parentList?_eq_none_iff : parentList? cs = none ↔ ∀ w ∈ partsList cs, w = ['/'] := by
  constructor
  · intro h
    by_cases hnil : dropTail (cs.drop (anchor cs).length).reverse = []
    · rw [parentList?_of_eq_nil hnil] at h
      rw [partsList_of_eq_nil hnil]
      obtain ⟨r, rfl⟩ | rfl | ⟨r, rfl⟩ | hcs := anchor_cases cs
      · exact List.forall_mem_singleton.2 rfl
      · cases h
      · cases h
      · simp [hcs]
    · rw [parentList?_of_ne_nil hnil] at h
      cases h
  · intro h
    cases hparent : parentList? cs with
    | none => rfl
    | some ps =>
      obtain ⟨w, hw, hparts⟩ := partsList_parentList? hparent
      have hlast : w ∈ partsList cs := by
        rw [hparts]
        exact List.mem_append_right _ List.mem_cons_self
      have hroot : w = ['/'] := h w hlast
      rw [hroot] at hw
      exact absurd List.mem_cons_self hw

/-! ## Paths as texts -/

/-- The parts of a path. -/
def parts (path : String) : List String := (partsList path.toList).map String.ofList

/-- How many parts of a path are below its root. -/
def depth (path : String) : Nat := (parts path).countP (· ≠ "/")

theorem ofList_ne_root (h : '/' ∉ w) : String.ofList w ≠ "/" := by
  intro hw
  have hlist : w = ['/'] := by simpa using congrArg String.toList hw
  rw [hlist] at h
  exact h List.mem_cons_self

theorem parts_parent? (h : parent? path = some d) :
    ∃ w, w ≠ "/" ∧ parts path = parts d ++ [w] := by
  obtain ⟨ps, hps, rfl⟩ := Option.map_eq_some_iff.1 h
  obtain ⟨w, hw, hparts⟩ := partsList_parentList? hps
  refine ⟨String.ofList w, ofList_ne_root hw, ?_⟩
  rw [parts, parts, String.toList_ofList, hparts, List.map_append]
  rfl

theorem depth_parent? (h : parent? path = some d) : depth path = depth d + 1 := by
  obtain ⟨w, hw, hparts⟩ := parts_parent? h
  rw [depth, hparts, List.countP_append, List.countP_singleton, if_pos (by simpa using hw)]
  rfl

theorem parent?_eq_none_iff : parent? path = none ↔ depth path = 0 := by
  have hroot : ∀ w : List Char, String.ofList w = "/" ↔ w = ['/'] := fun w => by
    rw [← String.toList_inj, String.toList_ofList]
    rfl
  rw [parent?, Option.map_eq_none_iff, parentList?_eq_none_iff, depth, List.countP_eq_zero]
  simp [parts, hroot]

/-! ## Some steps up -/

/-- The path that some steps up lead to, if there are as many. -/
def ancestor? (path : String) : Nat → Option String
  | 0 => some path
  | k + 1 => (ancestor? path k).bind parent?

theorem ancestor?_succ (path : String) (k : Nat) :
    ancestor? path (k + 1) = (parent? path).bind fun d => ancestor? d k := by
  induction k with
  | zero =>
    rw [ancestor?, ancestor?, Option.bind_some]
    cases parent? path <;> rfl
  | succ k ih =>
    rw [ancestor?, ih]
    cases parent? path <;> rfl

theorem ancestors_eq (path : String) :
    ancestors path = path :: ((parent? path).map ancestors).getD [] := by
  unfold ancestors parent?
  rw [ancestorLists]
  cases hparent : parentList? path.toList with
  | none => simp
  | some ps => simp

/-- **The ancestors of a path are where the steps up lead.** -/
theorem getElem?_ancestors (path : String) (k : Nat) :
    (ancestors path)[k]? = ancestor? path k := by
  induction k generalizing path with
  | zero => rw [ancestors_eq]; rfl
  | succ k ih =>
    rw [ancestors_eq, List.getElem?_cons_succ, ancestor?_succ]
    cases parent? path with
    | none => rfl
    | some d => exact ih d

example : ancestors "./a//b/." = ["./a//b/.", "./a", ".", ""] := by decide +kernel

/-- **One can go up as often as there are parts below the root.** -/
theorem isSome_ancestor?_iff : (ancestor? path k).isSome ↔ k ≤ depth path := by
  induction k generalizing path with
  | zero => simp [ancestor?]
  | succ k ih =>
    rw [ancestor?_succ]
    cases hparent : parent? path with
    | none =>
      rw [parent?_eq_none_iff] at hparent
      simp [hparent]
    | some d =>
      rw [Option.bind_some, ih, depth_parent? hparent]
      omega

/-- **An ancestor has the parts of the path** but for the last ones. -/
theorem parts_ancestor? (h : ancestor? path k = some d) :
    ∃ dropped, dropped.length = k ∧ parts path = parts d ++ dropped := by
  induction k generalizing d with
  | zero =>
    obtain rfl := Option.some.inj h
    exact ⟨[], rfl, (List.append_nil _).symm⟩
  | succ k ih =>
    obtain ⟨c, hc, hparent⟩ := Option.bind_eq_some_iff.1 h
    obtain ⟨dropped, hlength, hparts⟩ := ih hc
    obtain ⟨w, -, hlast⟩ := parts_parent? hparent
    refine ⟨w :: dropped, by rw [List.length_cons, hlength], ?_⟩
    rw [hparts, hlast, List.append_assoc]
    rfl

/-! ## Names under a directory -/

/-- A path that goes on after a slash starts as it did. -/
theorem anchor_append_slash (h : cs ≠ []) (xs : List Char) :
    anchor (cs ++ '/' :: xs) = anchor cs := by
  obtain ⟨r, rfl⟩ | rfl | ⟨r, rfl⟩ | hcs := anchor_cases cs
  · rfl
  · rfl
  · rfl
  · obtain ⟨c, cs, rfl⟩ := List.exists_cons_of_ne_nil h
    obtain ⟨r, hr⟩ | hdot | ⟨r, hr⟩ | hlong := anchor_cases (c :: cs ++ '/' :: xs)
    · obtain ⟨rfl, -⟩ := List.cons.inj hr
      cases hcs
    · have hlength := congrArg List.length hdot
      simp at hlength
    · obtain ⟨rfl, hrest⟩ := List.cons.inj hr
      cases cs with
      | nil => cases hcs
      | cons c' cs =>
        obtain ⟨rfl, -⟩ := List.cons.inj hrest
        cases hcs
    · rw [hlong, hcs]

theorem partsList_append_slash (h : cs ≠ []) (xs : List Char) :
    partsList (cs ++ '/' :: xs) = partsList cs ++ namesOf xs := by
  rw [partsList, partsList, anchor_append_slash h, namesOf_append_slash, List.append_assoc]

/-- A name is its only part. -/
theorem partsList_of_isName (hw : isName w) (h : '/' ∉ w) : partsList w = [w] := by
  rw [partsList_of_anchor_eq_nil, namesOf_of_isName hw h]
  obtain ⟨r, rfl⟩ | rfl | ⟨r, rfl⟩ | hcs := anchor_cases w
  · exact absurd List.mem_cons_self h
  · cases hw
  · exact absurd (List.mem_cons_of_mem _ List.mem_cons_self) h
  · exact hcs

theorem isAbsolute_of_notMem {name : String} (h : '/' ∉ name.toList) : isAbsolute name = false := by
  unfold isAbsolute
  cases hname : name.toList with
  | nil => rfl
  | cons c r =>
    rw [hname] at h
    have hc : c ≠ '/' := fun hc => h (by rw [hc]; exact List.mem_cons_self)
    simpa using hc

/-- The characters of a name under a directory. -/
theorem toList_join (d : String) {name : String} (h : '/' ∉ name.toList) :
    (d = "" ∧ (join d name).toList = name.toList) ∨
      (∃ cs, d.toList = cs ++ ['/'] ∧ (join d name).toList = cs ++ '/' :: name.toList) ∨
      d ≠ "" ∧ (join d name).toList = d.toList ++ '/' :: name.toList := by
  unfold join
  rw [isAbsolute_of_notMem h, Bool.false_or]
  split
  · rename_i hempty
    exact .inl ⟨String.isEmpty_iff.1 hempty, rfl⟩
  · rename_i hempty
    split
    · rename_i hlast
      obtain ⟨cs, hcs⟩ := List.getLast?_eq_some_iff.1 (beq_iff_eq.1 hlast)
      exact .inr (.inl ⟨cs, hcs, by simp [hcs]⟩)
    · exact .inr (.inr ⟨mt String.isEmpty_iff.2 hempty, by simp⟩)

/-- **A name under a directory** comes after the parts of the directory. -/
theorem parts_join (d : String) {name : String} (hname : isName name.toList)
    (h : '/' ∉ name.toList) : parts (join d name) = parts d ++ [name] := by
  have hnames := namesOf_of_isName hname h
  suffices hlist : partsList (join d name).toList = partsList d.toList ++ [name.toList] by
    rw [parts, parts, hlist, List.map_append, List.map_singleton, String.ofList_toList]
  obtain ⟨rfl, hjoin⟩ | ⟨cs, hd, hjoin⟩ | ⟨hd, hjoin⟩ := toList_join d h
  · rw [hjoin, partsList_of_isName hname h]
    rfl
  · rw [hjoin, hd]
    by_cases hcs : cs = []
    · subst hcs
      rw [List.nil_append, List.nil_append, partsList_slash, partsList_slash, hnames]
      rfl
    · rw [partsList_append_slash hcs, partsList_append_slash hcs, hnames, namesOf_nil,
        List.append_nil]
  · rw [hjoin, partsList_append_slash (by simpa using hd), hnames]

end Concord.FilePath
