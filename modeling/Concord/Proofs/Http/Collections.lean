/-
  Paths that name no mount.

  A document may give a path that is blank in one sense and not in another: it
  is checked before its slashes are stripped.  What is left of slashes alone is
  nothing, so the endpoint of such an object is the one under which all objects
  of its kind are.  A path that begins with the mark of a query or a fragment
  ends there as well.

  * `MountPath.segment_eq_empty_iff`: which paths leave nothing.
  * `Operation.path_eq_collection_iff`: which operations have the path of all
    objects of a kind.
  * `Config.collection_reached_iff`: both, for the objects of a document.
-/
import Concord.Proofs.Http.Endpoints

namespace Concord

/-! ## Paths of slashes -/

namespace MountPath

open Text

variable {path : String}

/-- Trimmed of blanks, a path has slashes only, and at least one. -/
def OnlySlashes (path : String) : Prop :=
  ∃ n, (trim path).toList = List.replicate (n + 1) '/'

theorem bare_eq_empty_iff :
    bare path = "" ↔ ∀ ch ∈ (trim path).toList, isSlash ch = true := by
  rw [← String.toList_inj, toList_bare]
  exact stripList_eq_nil_iff

/-- What is not blank is not trimmed away. -/
theorem trim_ne_nil (h : Filled path) : (trim path).toList ≠ [] := by
  obtain ⟨ch, hch, hblank⟩ := h
  intro hnil
  rw [trim, toList_strip, stripList_eq_nil_iff] at hnil
  rw [hnil ch hch] at hblank
  cases hblank

/-- **Nothing is left of a path** that is not blank exactly if it has only
    slashes. -/
theorem segment_eq_empty_iff (h : Filled path) :
    segment (normalize path) = "" ↔ OnlySlashes path := by
  rw [segment_normalize, bare_eq_empty_iff]
  constructor
  · intro hslashes
    have heq : (trim path).toList = List.replicate (trim path).toList.length '/' :=
      List.eq_replicate_of_mem fun ch hch => beq_iff_eq.1 (hslashes ch hch)
    obtain ⟨n, hn⟩ := Nat.exists_eq_add_one_of_ne_zero
      (mt List.length_eq_zero_iff.1 (trim_ne_nil h))
    exact ⟨n, hn ▸ heq⟩
  · rintro ⟨n, hn⟩ ch hch
    rw [hn] at hch
    exact beq_iff_eq.2 (List.eq_of_mem_replicate hch)

end MountPath

/-! ## Collections -/

namespace Operation

variable {key : String} {k : KindName} {op : Operation}

/-- The path under which all objects of a kind are. -/
def collection : KindName → String
  | .policy => "sys/policies/acl/"
  | .engine => "sys/mounts/"
  | .audit => "sys/audit/"

theorem objectPath_eq (hk : k ≠ .policy) (key : String) :
    objectPath key k = collection k ++ MountPath.segment key := by
  cases k with
  | policy => exact absurd rfl hk
  | engine | audit => rfl

/-- **An operation has the path of all objects** if its key leaves nothing and
    it has no suffix. -/
theorem path_eq_collection_iff (hk : k ≠ .policy) (h : op.On k key) :
    op.endpoint.path = collection k ↔ MountPath.segment key = "" ∧ op.suffix = "" := by
  rw [path_of_on h, objectPath_eq hk, String.append_assoc, String.append_eq_left_iff,
    String.append_eq_empty_iff]

end Operation

namespace Http

variable {a key s t : String} {k : KindName} {op : Operation}

/-- A text begins with the mark of a query or of a fragment. -/
def Marked (s : String) : Prop := ∃ ch ∈ s.toList.head?, endsPath ch = true

theorem pathPart_append_of_isPlain (h : IsPlain s) (t : String) :
    pathPart (s ++ t) = s ++ pathPart t := by
  have hplain : ∀ ch ∈ s.toList, (!endsPath ch) = true := fun ch hch => by simp [h ch hch]
  rw [← String.toList_inj, pathPart, String.toList_append, List.takeWhile_append_of_pos hplain,
    String.toList_append, pathPart, String.toList_ofList, String.toList_ofList]

theorem pathPart_eq_empty_iff : pathPart s = "" ↔ s = "" ∨ Marked s := by
  rw [← String.toList_inj, pathPart, String.toList_ofList, ← String.toList_eq_nil_iff, Marked]
  cases s.toList with
  | nil => simp
  | cons ch rest => simp [List.takeWhile_cons]

theorem not_marked_of_isPlain (h : IsPlain s) : ¬ Marked s := by
  rintro ⟨ch, hch, hmark⟩
  rw [h ch (List.mem_of_mem_head? hch)] at hmark
  cases hmark

theorem marked_append_iff (ht : IsPlain t) : Marked (s ++ t) ↔ Marked s := by
  by_cases hs : s = ""
  · -- then the mark would have to be that of the suffix
    subst hs
    rw [String.empty_append]
    exact iff_of_false (not_marked_of_isPlain ht) (not_marked_of_isPlain fun ch hch => by cases hch)
  · rw [Marked, Marked, String.toList_append,
      List.head?_append_of_ne_nil _ (mt String.toList_eq_nil_iff.1 hs)]

/-- **A call reaches the endpoint of all objects** if its key leaves nothing up
    to a mark and its operation has no suffix. -/
theorem target_eq_collection_iff (ha : IsPlain a) (hk : k ≠ .policy) (h : op.On k key) :
    (target a op).2 = base a ++ ("/v1/" ++ Operation.collection k) ↔
      MountPath.segment key = "" ∧ op.suffix = "" ∨ Marked (MountPath.segment key) := by
  have hplain : IsPlain (base a ++ ("/v1/" ++ Operation.collection k)) := by
    refine isPlain_append.2 ⟨isPlain_base.2 ha, isPlain_append.2 ⟨by decide, ?_⟩⟩
    cases k <;> decide
  have hurl : urlText a op.endpoint.path =
      base a ++ ("/v1/" ++ Operation.collection k) ++ (MountPath.segment key ++ op.suffix) := by
    rw [urlText_of_on h, Operation.objectPath_eq hk]
    simp only [String.append_assoc]
  rw [target, hurl, pathPart_append_of_isPlain hplain, String.append_eq_left_iff,
    pathPart_eq_empty_iff, String.append_eq_empty_iff,
    marked_append_iff (Operation.isPlain_suffix op)]

end Http

/-! ## Documents -/

namespace Config

open Http Operation

variable {c : Config}

/-- **Which objects stand for all of their kind**, among those of an accepted
    document: a key leaves nothing exactly if the path has only slashes.  Then,
    and only then, is the path of an operation without suffix that of all
    objects; a URL ends there also if the path begins with a mark. -/
theorem collection_reached_iff (hc : c.Accepted) (k : KindName) (spec : BackendSpec)
    (hspec : k = .audit ∧ spec ∈ c.audits ∨ k = .engine ∧ spec ∈ c.engines) :
    let key := (Backend.ofSpec spec).path
    (MountPath.segment key = "" ↔ MountPath.OnlySlashes spec.path) ∧
      ∀ op : Operation, op.On k key →
        (op.endpoint.path = collection k ↔ MountPath.OnlySlashes spec.path ∧ op.suffix = "") ∧
          ∀ a, IsPlain a → ((target a op).2 = base a ++ ("/v1/" ++ collection k) ↔
            MountPath.OnlySlashes spec.path ∧ op.suffix = "" ∨ Marked (MountPath.segment key)) := by
  intro key
  have hwell := accepted_iff_wellFormed.1 hc
  obtain ⟨hk, hfilled⟩ : k ≠ .policy ∧ Filled spec.path := by
    rcases hspec with ⟨rfl, hmem⟩ | ⟨rfl, hmem⟩
    · exact ⟨by decide, (hwell.audits spec hmem).path⟩
    · exact ⟨by decide, (hwell.engines spec hmem).path⟩
  have hsegment : MountPath.segment key = "" ↔ MountPath.OnlySlashes spec.path :=
    MountPath.segment_eq_empty_iff hfilled
  refine ⟨hsegment, fun op hop => ⟨?_, fun a ha => ?_⟩⟩
  · rw [path_eq_collection_iff hk hop, hsegment]
  · rw [target_eq_collection_iff ha hk hop, hsegment]

/-- A wanted mount under a path. -/
def mountUnder (path : String) : BackendSpec := ⟨path, "kv", "", "http://[::1]", Dict.empty⟩

/-- A document that wants it. -/
def mountDocument (path : String) : Config :=
  ⟨[⟨"http://[::1]", "TOKEN"⟩], [], [mountUnder path], []⟩

theorem collection_reached_iff_engine :
    let c := mountDocument "kv"
    let disable := mutation (.disableEngine "kv/")
    c.Accepted ∧ disable.On .engine (Backend.ofSpec (mountUnder "kv")).path ∧
      ¬ MountPath.OnlySlashes "kv" ∧ disable.endpoint.path ≠ "sys/mounts/" ∧
      (target "http://[::1]" disable).2 ≠ "http://[::1]/v1/sys/mounts/" := by
  intro c disable
  have hc : c.Accepted := ⟨_, rfl⟩
  obtain ⟨hsegment, hreach⟩ := collection_reached_iff hc .engine (mountUnder "kv")
    (.inr ⟨rfl, List.mem_cons_self⟩)
  have hslashes : ¬ MountPath.OnlySlashes "kv" := mt hsegment.2 (by decide)
  have hon : disable.On .engine (Backend.ofSpec (mountUnder "kv")).path := ⟨rfl, by decide⟩
  obtain ⟨hpath, htarget⟩ := hreach disable hon
  refine ⟨hc, hon, hslashes, fun h => hslashes (hpath.1 h).1, fun h => ?_⟩
  rcases (htarget "http://[::1]" (by decide)).1 h with ⟨h, -⟩ | hmarked
  · exact hslashes h
  · exact not_marked_of_isPlain (by decide) hmarked

/-- **A path of one slash is accepted**, and its mount is enabled and disabled
    at the endpoint of all mounts.  A path of one dot is accepted too, and the
    URL that it is put into is that of all mounts. -/
theorem slash_reaches_collection :
    let c := mountDocument "/"
    let b := Backend.ofSpec (mountUnder "/")
    let paths := fun action =>
      (c.engineKind.mutations action b).map fun m => (mutation m).endpoint.path
    c.Accepted ∧ b ∈ c.engineKind.desired "http://[::1]" ∧ MountPath.segment b.path = "" ∧
      paths .create = ["sys/mounts/"] ∧ paths .update = ["sys/mounts//tune"] ∧
      paths .delete = ["sys/mounts/"] ∧
      (mountDocument ".").Accepted ∧ (Backend.ofSpec (mountUnder ".")).path = "./" ∧
      (request "http://[::1]" "t" (mutation (.disableEngine "./")).endpoint).toOption.map
        (fun r => r.url.path) = some "/v1/sys/mounts/" := by
  intro c b paths
  exact ⟨⟨_, rfl⟩, by decide, by decide, by decide, by decide, by decide, ⟨_, rfl⟩, by decide,
    by decide⟩

end Config

end Concord
