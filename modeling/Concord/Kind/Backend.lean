/-
  Mounts and audit devices.

  Both are backends under a path.  Their options and paths are compared in
  normal form.  A mount is tuned in place, which leaves its type as it is; an
  audit device cannot be changed, so it is disabled and enabled again.

  * `Backend`: the item; `ofSpec`, `observed`, `settings`.
  * `auditDevices`, `secretsEngines`: the two kinds.
  * `isBuiltinMount`: the mounts that must never be disabled.
-/
import Concord.Config.Basic
import Concord.Kind.Basic
import Concord.MountPath

namespace Concord

/-- A mount or an audit device on an instance. -/
structure Backend where
  /-- The path in normal form. -/
  path : String
  type : String
  description : String
  options : Options
  /-- The address of the instance. -/
  address : String
  deriving DecidableEq

namespace Backend

/-- The item of a wanted mount or audit device. -/
def ofSpec (b : BackendSpec) : Backend where
  path := MountPath.normalize b.path
  type := b.type
  description := b.description
  options := Options.ofRaw b.options
  address := b.address

/-- The item of a mount or audit device that an instance lists. -/
def observed (address path : String) (r : BackendRecord) : Backend where
  path := MountPath.normalize path
  type := r.type
  description := r.description
  options := r.normalizedOptions
  address := address

/-- The settings that give an instance the item. -/
def settings (b : Backend) : BackendSettings := ⟨b.type, b.description, b.options⟩

/-- The settings that bring the item in line without changing its type. -/
def tuning (b : Backend) : BackendSettings := ⟨"", b.description, b.options⟩

instance : Item Backend where
  key := path
  agrees a b :=
    MountPath.same a.path b.path && a.type == b.type && a.description == b.description &&
      a.options == b.options
  typeLabel := type
  description := description

/-- The items of a listing, in the order of its paths. -/
def ofListing (address : String) (listing : Dict BackendRecord) : List Backend :=
  listing.entries.map fun e => observed address e.1 e.2

/-- The items that belong to an instance. -/
def onInstance (items : List Backend) (address : String) : List Backend :=
  items.filter fun b => b.address = address

end Backend

/-! ## Audit devices -/

/-- What is logged before an audit device is enabled anew. -/
def recreationNotice (b : Backend) : Log.Entry :=
  ⟨.warn, "re-creating audit device; events are not logged to it meanwhile",
    [("path", .text b.path)]⟩

/-- The audit devices among wanted items. -/
def auditDevices (items : List Backend) : Kind Backend where
  label := "audit device"
  desired := Backend.onInstance items
  fetch ctx address := do
    let listing ← Session.ask ctx.server address .listAudits
    return match listing with
      | .ok audits => .ok (Backend.ofListing address audits)
      | .error e => .error (.server e)
  isProtected _ := false
  describe _ := none
  mutations
    | .create, b => [.enableAudit b.path b.settings]
    | .update, b => [.disableAudit b.path, .enableAudit b.path b.settings]
    | .delete, b => [.disableAudit b.path]
  notice
    | .update, b => [recreationNotice b]
    | _, _ => []

/-! ## Secrets engines -/

/-- The starts of the paths that belong to the server itself. -/
def builtinMounts : List String := ["cubbyhole/", "identity/", "secret/", "sys/"]

/-- Whether a mount lies under a path of the server itself. -/
def isBuiltinMount (path : String) : Bool :=
  builtinMounts.any fun start => start.toList.isPrefixOf (MountPath.normalize path).toList

/-- The secrets engines among wanted items. -/
def secretsEngines (items : List Backend) : Kind Backend where
  label := "secrets engine"
  desired := Backend.onInstance items
  fetch ctx address := do
    let listing ← Session.ask ctx.server address .listEngines
    return match listing with
      | .ok mounts => .ok (Backend.ofListing address mounts)
      | .error e => .error (.server e)
  isProtected b := isBuiltinMount b.path
  describe _ := none
  mutations
    | .create, b => [.enableEngine b.path b.settings]
    | .update, b => [.tuneEngine b.path b.tuning]
    | .delete, b => [.disableEngine b.path]
  notice _ _ := []

end Concord
