/-
  What an instance lists of a kind, and what is fetched of it.

  Paths are brought into normal form while they are read, and the rules of
  policies are read in any order.  So what is fetched has the keys that were
  listed, and each of them as often as the listing shows it, also where two
  paths come to the same key or a name is listed twice.

  * `KindName.listing`, `KindName.listedKeys`: a listing and its keys.
  * `KindName.keys_of_fetch`: the keys of what is fetched.
-/
import Concord.Proofs.Kind.Family

namespace Concord

open Session

variable {σ : Type}

namespace KindName

/-- The query that lists the objects of a kind. -/
def listing : KindName → Query
  | audit => .listAudits
  | engine => .listEngines
  | policy => .listPolicies

/-- The keys that a listing shows: paths in normal form, or names. -/
def listedKeys : (k : KindName) → k.listing.Answer → List String
  | audit, (devices : Dict BackendRecord) => devices.keys.map MountPath.normalize
  | engine, (mounts : Dict BackendRecord) => mounts.keys.map MountPath.normalize
  | policy, (names : List String) => names

/-- Whether the objects of a key come with every instance. -/
def comesWithInstance : KindName → String → Bool
  | audit, _ => false
  | engine, path => isBuiltinMount path
  | policy, name => isBuiltinPolicy name

theorem isProtected_toKind (k : KindName) (items : List k.Object) (x : k.Object) :
    (k.toKind items).isProtected x = k.comesWithInstance (Item.key x) := by
  cases k with
  | audit => rfl
  | engine => exact isProtected_secretsEngines items x
  | policy => rfl

end KindName

/-! ## Backends -/

theorem Backend.keys_ofListing (a : String) (d : Dict BackendRecord) :
    (Backend.ofListing a d).map Item.key = d.keys.map MountPath.normalize := by
  rw [Backend.ofListing, Dict.keys, List.map_map, List.map_map]
  rfl

/-! ## Policies -/

/-- The policies that are read have the names that were to be read. -/
theorem names_of_readPolicies {ctx : Context σ} {a : String} {names : List String}
    {w : World σ} {found : List Policy}
    (h : (readPolicies ctx a names).result w = .ok found) :
    (found.map (·.name)).Perm names := by
  obtain ⟨-, order, ps, -, horder, hforall, rfl⟩ := exists_policies_of_ok
    (I := fun _ => True) (P := fun name p => name = p.name)
    (fun _ _ _ => ⟨fun _ _ => rfl, trivial⟩) trivial h
  have hnames : order = ps.map (·.name) :=
    List.forall₂_eq_eq_eq ▸ List.forall₂_map_right_iff.2 hforall
  have hsorted : (Policy.sortByName ps).Perm ps := List.mergeSort_perm ..
  rw [hnames] at horder
  exact (hsorted.map (·.name)).trans horder

/-! ## Every kind -/

/-- **What is fetched has the keys that were listed**, whatever a server
    answers. -/
theorem KindName.keys_of_fetch (k : KindName) (items : List k.Object) {ctx : Context σ}
    {a : String} {w : World σ} {found : List k.Object}
    (h : ((k.toKind items).fetch ctx a).result w = .ok found) :
    ∃ listed, (ctx.server.ask a k.listing w.server).1 = .ok listed ∧
      (found.map Item.key).Perm (k.listedKeys listed) := by
  cases k with
  | audit =>
    obtain ⟨devices, hdevices, rfl⟩ := (listedBy_auditDevices items).exists_answer h
    exact ⟨devices, hdevices, .of_eq (Backend.keys_ofListing a devices)⟩
  | engine =>
    obtain ⟨mounts, hmounts, rfl⟩ := (listedBy_secretsEngines items).exists_answer h
    exact ⟨mounts, hmounts, .of_eq (Backend.keys_ofListing a mounts)⟩
  | policy =>
    rw [toKind, policies, result_bind, result_ask] at h
    cases hnames : (ctx.server.ask a .listPolicies w.server).1 with
    | error e =>
      rw [hnames] at h
      cases h
    | ok names =>
      rw [hnames] at h
      exact ⟨names, hnames, names_of_readPolicies h⟩

end Concord
