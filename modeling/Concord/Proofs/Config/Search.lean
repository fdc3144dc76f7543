/-
  The search for a document.

  A place for a document is a directory, so many steps up from the start, and
  one of the names.  Nearer directories come first, whatever the names; the
  names count within one directory.  The search ends because there are only as
  many directories above the start as the start has parts.

  * `PlaceOf`, `Precedes`: the places and their order.
  * `mem_candidates_iff`: the places are what is looked at.
  * `Nearest`: the first place where something exists.
  * `nearest_found`: the search finds it, and fails only if there is none.
-/
import Concord.Config.Files
import Concord.Proofs.FilePath

namespace Concord.Config

open FilePath

variable {pathExists : String → Bool} {start path path' d : String} {k j k' j' : Nat}

/-! ## Places -/

/-- A path is the place of a document under the `j`-th name, in the directory
    that `k` steps up from the start lead to. -/
def PlaceOf (start : String) (k j : Nat) (path : String) : Prop :=
  ∃ d name, ancestor? start k = some d ∧ fileNames[j]? = some name ∧ path = join d name

/-- A place in a nearer directory comes first, and in one directory the place
    with the preferred name. -/
def Precedes (k' j' k j : Nat) : Prop := k' < k ∨ k' = k ∧ j' < j

/-- A path is the first place from the start on where something exists. -/
def Nearest (pathExists : String → Bool) (start path : String) : Prop :=
  ∃ k j, PlaceOf start k j path ∧ pathExists path = true ∧
    ∀ k' j' path', Precedes k' j' k j → PlaceOf start k' j' path' → pathExists path' = false

theorem PlaceOf.unique (h : PlaceOf start k j path) (h' : PlaceOf start k j path') :
    path = path' := by
  obtain ⟨d, name, hd, hname, rfl⟩ := h
  obtain ⟨d', name', hd', hname', rfl⟩ := h'
  obtain rfl : d = d' := Option.some.inj (hd.symm.trans hd')
  obtain rfl : name = name' := Option.some.inj (hname.symm.trans hname')
  rfl

/-- There is one nearest place. -/
theorem Nearest.unique (h : Nearest pathExists start path) (h' : Nearest pathExists start path') :
    path = path' := by
  obtain ⟨k, j, hplace, hexists, hfirst⟩ := h
  obtain ⟨k', j', hplace', hexists', hfirst'⟩ := h'
  -- a place that exists does not come before another one of the two
  have hle : ¬ Precedes k' j' k j := fun hlt => by
    simp [hfirst k' j' path' hlt hplace'] at hexists'
  have hge : ¬ Precedes k j k' j' := fun hlt => by
    simp [hfirst' k j path hlt hplace] at hexists
  unfold Precedes at hle hge
  obtain rfl : k = k' := by omega
  obtain rfl : j = j' := by omega
  exact hplace.unique hplace'

/-- **What is looked at are the places.** -/
theorem mem_candidates_iff : path ∈ candidates start ↔ ∃ k j, PlaceOf start k j path := by
  simp only [candidates, List.mem_flatMap, List.mem_map]
  constructor
  · rintro ⟨d, hd, name, hname, rfl⟩
    obtain ⟨k, hk⟩ := List.mem_iff_getElem?.1 hd
    obtain ⟨j, hj⟩ := List.mem_iff_getElem?.1 hname
    exact ⟨k, j, d, name, getElem?_ancestors start k ▸ hk, hj, rfl⟩
  · rintro ⟨k, j, d, name, hd, hname, rfl⟩
    rw [← getElem?_ancestors] at hd
    exact ⟨d, List.mem_of_getElem? hd, name, List.mem_of_getElem? hname, rfl⟩

/-- The parts of a place are those of the start without the last `k`, and the
    name. -/
theorem PlaceOf.parts (h : PlaceOf start k j path) :
    ∃ kept dropped name, FilePath.parts start = kept ++ dropped ∧ dropped.length = k ∧
      fileNames[j]? = some name ∧ FilePath.parts path = kept ++ [name] := by
  obtain ⟨d, name, hd, hname, rfl⟩ := h
  obtain ⟨dropped, hlength, hparts⟩ := parts_ancestor? hd
  have hall : ∀ name ∈ fileNames, isName name.toList = true ∧ '/' ∉ name.toList := by decide
  obtain ⟨hreal, hslash⟩ := hall name (List.mem_of_getElem? hname)
  exact ⟨FilePath.parts d, dropped, name, hparts, hlength, hname, parts_join d hreal hslash⟩

/-! ## The search -/

/-- In one directory the preferred name is found. -/
theorem find?_map_join (h : (fileNames.map (join d)).find? pathExists = some path) :
    ∃ j name, fileNames[j]? = some name ∧ path = join d name ∧ pathExists path = true ∧
      ∀ (j' : Nat) (name' : String), j' < j → fileNames[j']? = some name' →
        pathExists (join d name') = false := by
  obtain ⟨hexists, j, hj, hpath, hfirst⟩ := List.find?_eq_some_iff_getElem.1 h
  rw [List.length_map] at hj
  rw [List.getElem_map] at hpath
  refine ⟨j, fileNames[j], List.getElem?_eq_getElem hj, hpath.symm, hexists, ?_⟩
  intro j' name' hlt hname'
  obtain ⟨hj', rfl⟩ := List.getElem?_eq_some_iff.1 hname'
  simpa using hfirst j' hlt

/-- **What is found is the nearest place.** -/
theorem nearest_of_find? (h : (candidates start).find? pathExists = some path) :
    Nearest pathExists start path := by
  rw [candidates, List.find?_flatMap, List.findSome?_eq_some_iff] at h
  obtain ⟨nearer, d, rest, hsplit, hfound, hnone⟩ := h
  obtain ⟨j, name, hname, rfl, hexists, hfirst⟩ := find?_map_join hfound
  have hd : ancestor? start nearer.length = some d := by
    rw [← getElem?_ancestors, hsplit]
    simp
  refine ⟨nearer.length, j, ⟨d, name, hd, hname, rfl⟩, hexists, ?_⟩
  rintro k' j' - (hlt | ⟨rfl, hlt⟩) ⟨d', name', hd', hname', rfl⟩
  · have hmem : d' ∈ nearer := by
      rw [← getElem?_ancestors, hsplit, List.getElem?_append_left hlt] at hd'
      exact List.mem_of_getElem? hd'
    have hall := List.find?_eq_none.1 (hnone d' hmem) (join d' name')
      (List.mem_map_of_mem (List.mem_of_getElem? hname'))
    simpa using hall
  · obtain rfl : d = d' := Option.some.inj (hd.symm.trans hd')
    exact hfirst j' name' hlt hname'

/-- The nearer directory comes first, with whatever name. -/
example : (candidates "a/b").find? (fun path => path ∈ ["a/vault-converge.yaml", "a/b/vault.yaml"])
    = some "a/b/vault.yaml" := by decide +kernel

theorem nearest?_eq_ok_iff :
    nearest? pathExists start = .ok path ↔ (candidates start).find? pathExists = some path := by
  unfold nearest?
  split <;> rename_i h <;> simp [h]

/-- What the search for a document gives, whatever exists. -/
structure Searched (pathExists : String → Bool) (start : String) : Prop where
  /-- It finds the nearest place where something exists. -/
  found : ∀ path, nearest? pathExists start = .ok path ↔ Nearest pathExists start path
  /-- It fails if nothing exists at any place; the error names the first one. -/
  failed : ∀ e, nearest? pathExists start = .error e ↔
    (∃ first, PlaceOf start 0 0 first ∧ e = .fileNotFound first) ∧
      ∀ k j path, PlaceOf start k j path → pathExists path = false
  /-- It goes up as often as the start has parts below the root. -/
  height : ∀ k, (ancestor? start k).isSome ↔ k ≤ depth start
  /-- Its places have the parts of the start without the last ones, and a
      name. -/
  places : ∀ k j path, PlaceOf start k j path →
    ∃ kept dropped name, parts start = kept ++ dropped ∧ dropped.length = k ∧
      fileNames[j]? = some name ∧ parts path = kept ++ [name]

/-- **The search finds the nearest document**, and fails only if there is none
    in the start or above it. -/
theorem nearest_found (pathExists : String → Bool) (start : String) :
    Searched pathExists start where
  found path := by
    constructor
    · intro h
      exact nearest_of_find? (nearest?_eq_ok_iff.1 h)
    · intro h
      rw [nearest?_eq_ok_iff]
      cases hfind : (candidates start).find? pathExists with
      | some path' => rw [(nearest_of_find? hfind).unique h]
      | none =>
        obtain ⟨k, j, hplace, hexists, -⟩ := h
        have hmem := mem_candidates_iff.2 ⟨k, j, hplace⟩
        exact absurd hexists (List.find?_eq_none.1 hfind path hmem)
  failed e := by
    have hnone : (candidates start).find? pathExists = none ↔
        ∀ k j path, PlaceOf start k j path → pathExists path = false := by
      simp only [List.find?_eq_none, mem_candidates_iff, Bool.not_eq_true]
      exact ⟨fun h k j path hp => h path ⟨k, j, hp⟩, fun h path ⟨k, j, hp⟩ => h k j path hp⟩
    have hfirst : PlaceOf start 0 0 (join start "vault-converge.yaml") := ⟨start, _, rfl, rfl, rfl⟩
    rw [← hnone, nearest?]
    split
    · rename_i path hfind
      simp [hfind]
    · rename_i hfind
      constructor
      · intro h
        cases h
        exact ⟨⟨_, hfirst, rfl⟩, hfind⟩
      · rintro ⟨⟨first, hplace, rfl⟩, -⟩
        rw [hplace.unique hfirst]
  height _ := isSome_ancestor?_iff
  places _ _ _ := PlaceOf.parts

end Concord.Config
