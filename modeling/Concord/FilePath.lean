/-
  Paths of files as text.

  Names are separated by slashes; a path that starts with a slash is absolute.

  * `join`: a name under a directory.
  * `parent?`: the path without its last name, if it has one.
  * `ancestors`: a path, its parent, the parent of that, and so on.  The walk
    ends because a parent is shorter (`length_lt_of_parentList?`).
-/

namespace Concord.FilePath

/-! ## Joining -/

/-- Whether a path does not depend on the current directory. -/
def isAbsolute (path : String) : Bool := path.toList.head? == some '/'

/-- A path under a directory; an absolute path stands for itself. -/
def join (base path : String) : String :=
  if isAbsolute path || base.isEmpty then path
  else if base.toList.getLast? == some '/' then base ++ path
  else base ++ "/" ++ path

/-! ## Parents -/

/-- The start of a path that is no name: the root, or a dot that stands for the
    current directory. -/
def anchor : List Char → List Char
  | '/' :: _ => ['/']
  | ['.'] => ['.']
  | '.' :: '/' :: _ => ['.']
  | _ => []

/-- A reversed path without the slashes and the dots that name nothing at its
    end. -/
def dropTail : List Char → List Char
  | '/' :: r => dropTail r
  | '.' :: '/' :: r => dropTail r
  | ['.'] => []
  | cs => cs

/-- A reversed path without its last name, which it has. -/
def dropName (cs : List Char) : List Char := (cs.dropWhile (· != '/')).drop 1

/-- The characters of the parent of a path. -/
def parentList? (cs : List Char) : Option (List Char) :=
  let start := anchor cs
  match dropTail (cs.drop start.length).reverse with
  | [] => if start = ['.'] then some [] else none
  | names => some (start ++ (dropTail (dropName names)).reverse)

/-- The path without its last name; the root and the empty path have none. -/
def parent? (path : String) : Option String := (parentList? path.toList).map String.ofList

theorem length_dropTail_le (cs : List Char) : (dropTail cs).length ≤ cs.length := by
  fun_induction dropTail cs <;> simp_all <;> omega

theorem length_dropName_lt {cs : List Char} (h : cs ≠ []) :
    (dropName cs).length < cs.length := by
  have hd := (List.dropWhile_sublist (· != '/') (l := cs)).length_le
  cases hc : cs.dropWhile (· != '/') with
  | nil => simpa [dropName, hc] using List.length_pos_iff.2 h
  | cons c r => rw [hc] at hd; simp [dropName, hc] at hd ⊢; omega

theorem length_anchor_le (cs : List Char) : (anchor cs).length ≤ cs.length := by
  fun_cases anchor cs <;> simp

/-- A parent is shorter than the path. -/
theorem length_lt_of_parentList? {cs ps : List Char} (h : parentList? cs = some ps) :
    ps.length < cs.length := by
  have ha := length_anchor_le cs
  have ht := length_dropTail_le (cs.drop (anchor cs).length).reverse
  simp only [List.length_reverse, List.length_drop] at ht
  unfold parentList? at h
  dsimp only at h
  split at h
  · split at h
    · rename_i hs
      simp only [Option.some.injEq] at h
      subst h
      rw [hs] at ha
      exact ha
    · simp at h
  · rename_i names hne
    simp only [Option.some.injEq] at h
    subst h
    have hn := length_dropName_lt hne
    have hd := length_dropTail_le (dropName (dropTail (cs.drop (anchor cs).length).reverse))
    simp only [List.length_append, List.length_reverse]
    omega

/-! ## Ancestors -/

/-- The characters of a path and of all its ancestors, the nearest first. -/
def ancestorLists (cs : List Char) : List (List Char) :=
  cs ::
    match _h : parentList? cs with
    | none => []
    | some ps => ancestorLists ps
termination_by cs.length
decreasing_by exact length_lt_of_parentList? ‹_›

/-- A path and all its ancestors, the nearest first. -/
def ancestors (path : String) : List String := (ancestorLists path.toList).map String.ofList

end Concord.FilePath
