/-
  Mounts and audit devices that a later run recognizes.

  An object is created under the normal form of its path, and this form is
  normalized again when the object is listed.  The two are one key unless the
  path hides a blank behind its first slashes: then the object that a run has
  created has another key for the next run, which tries to create it once more.

  * `Pass.fetch_of_created`: what was created is listed.
  * `recognized_unless_hidden`: which paths keep their key.
-/
import Concord.Proofs.MountPath
import Concord.Proofs.Run.Kinds

namespace Concord

open Session MountPath

variable {ctx : Context Memory} {a : String} {w : World Memory}

/-! ## Built-in mounts -/

/-- The paths of built-in mounts begin with a letter. -/
theorem head?_of_mem_builtinMounts :
    ∀ start ∈ builtinMounts, start.toList.head?.map Text.isBlank = some false := by
  decide

theorem isBuiltinMount_of_hidesBlank {path : String} (h : HidesBlank path) :
    isBuiltinMount path = false := by
  obtain ⟨c, rest, hbare, hc⟩ := hidesBlank_iff.1 h
  refine List.any_eq_false.2 fun start hstart hprefix => ?_
  obtain ⟨after, hafter⟩ := List.isPrefixOf_iff_prefix.1 hprefix
  have hhead := head?_of_mem_builtinMounts start hstart
  rw [toList_normalize, hbare] at hafter
  cases hcs : start.toList with
  | nil => simp [hcs] at hhead
  | cons d cs =>
    rw [hcs, List.cons_append, List.cons_append] at hafter
    obtain ⟨rfl, -⟩ := List.cons.inj hafter
    simp [hcs, hc] at hhead

/-- A mount is built in whether or not its path is normalized first, unless it
    hides a blank in front of a built-in path. -/
theorem isBuiltinMount_normalize_iff (path : String) :
    isBuiltinMount path = isBuiltinMount (normalize path) ↔
      (HidesBlank path → isBuiltinMount (normalize path) = false) := by
  by_cases h : HidesBlank path
  · rw [isBuiltinMount_of_hidesBlank h, eq_comm]
    exact ⟨fun hfalse _ => hfalse, fun hfalse => hfalse h⟩
  · have hsame : isBuiltinMount path = isBuiltinMount (normalize path) := by
      simp only [isBuiltinMount, (normalize_normalize_iff path).2 h]
    exact iff_of_true hsame fun hhides => absurd hhides h

/-! ## Objects that were created -/

/-- A single mutation that succeeded was taken by the instance. -/
theorem Pass.exists_perform_of_issue {mu : Mutation}
    (h : (issue Memory.server a [mu]).result w = .ok ()) :
    ∃ s s' : InstanceState, s.perform mu = .ok s' ∧
      ((issue Memory.server a [mu]).after w).server.visit a = .ok s' := by
  cases hm : w.server.change a mu with
  | error e =>
    rw [issue, result_bind, result_change, Memory.server_change_of_error hm] at h
    cases h
  | ok m' =>
    obtain ⟨s, s', hs, hw, hperform, -⟩ := Memory.change_eq_ok hm
    have hall : s.performAll [mu] = .ok s' := by simp [InstanceState.performAll, hperform]
    refine ⟨s, s', hperform, ?_⟩
    rw [(issue_eq hs hw hall).2]
    exact Memory.visit_put_self hs 1

theorem Backend.observed_mem_insert (b : Backend) (d : Dict BackendRecord) (r : BackendRecord) :
    Backend.observed a b.path r ∈ Backend.ofListing a (d.insert b.path r) :=
  List.mem_map.2 ⟨(b.path, r), Dict.mem_entries_iff.2 (by simp), rfl⟩

/-- **An object that was created is listed** by the next fetch, under the path
    that it was given. -/
theorem Pass.fetch_of_created {kind : Kind Backend} {items : List Backend}
    (hkind : kind = auditDevices items ∨ kind = secretsEngines items)
    (hc : ctx.server = Memory.server) {b : Backend}
    (h : (issue ctx.server a (kind.mutations .create b)).result w = .ok ()) :
    ∃ found, (kind.fetch ctx a).result
        ((issue ctx.server a (kind.mutations .create b)).after w) = .ok found ∧
      Backend.observed a b.path (InstanceState.stored b.settings) ∈ found := by
  rw [hc] at h ⊢
  rcases hkind with rfl | rfl
  · obtain ⟨s, s', hperform, hvisit⟩ := exists_perform_of_issue h
    refine ⟨_, fetch_eq (serves_auditDevices items) hc rfl hvisit, ?_⟩
    simp only [InstanceState.perform] at hperform
    split at hperform <;> cases hperform
    exact Backend.observed_mem_insert b _ _
  · obtain ⟨s, s', hperform, hvisit⟩ := exists_perform_of_issue h
    refine ⟨_, fetch_eq (serves_secretsEngines items) hc rfl hvisit, ?_⟩
    simp only [InstanceState.perform] at hperform
    split at hperform <;> cases hperform
    exact Backend.observed_mem_insert b _ _

/-- **A path is canonical** exactly if it hides no blank: then it is its own
    normal form from the first normalization on, an object that is created for
    it is listed under its key, and a built-in mount is known under both.  Any two
    spellings are one path exactly if they have one normal form. -/
theorem recognized_unless_hidden (path : String) :
    (normalize (normalize path) = normalize path ↔ ¬ HidesBlank path) ∧
      (isBuiltinMount path = isBuiltinMount (normalize path) ↔
        (HidesBlank path → isBuiltinMount (normalize path) = false)) ∧
      (∀ other, same path other = true ↔ normalize path = normalize other) ∧
      ∀ (spec : BackendSpec) (items : List Backend) (kind : Kind Backend) (ctx : Context Memory)
        (a : String) (w : World Memory), spec.path = path → ctx.server = Memory.server →
        kind = auditDevices items ∨ kind = secretsEngines items →
        (Pass.issue ctx.server a (kind.mutations .create (Backend.ofSpec spec))).result w = .ok () →
        ∃ found, (kind.fetch ctx a).result
            ((Pass.issue ctx.server a (kind.mutations .create (Backend.ofSpec spec))).after w) =
              .ok found ∧
          ∃ x ∈ found, x = Backend.observed a (Item.key (Backend.ofSpec spec))
              (InstanceState.stored (Backend.ofSpec spec).settings) ∧
            (Item.key x = Item.key (Backend.ofSpec spec) ↔ ¬ HidesBlank path) := by
  refine ⟨normalize_normalize_iff path, isBuiltinMount_normalize_iff path, fun other => ?_, ?_⟩
  · rw [same_iff, normalize_inj]
  · rintro spec items kind ctx a w rfl hc hkind hcreated
    obtain ⟨found, hfound, hmem⟩ := Pass.fetch_of_created hkind hc hcreated
    exact ⟨found, hfound, _, hmem, rfl, normalize_normalize_iff spec.path⟩

/-- A wanted mount whose path hides a blank. -/
def hiddenMount : BackendSpec := ⟨"/ kv", "kv", "", "http://a", Dict.empty⟩

/-- A document that wants it. -/
def hiddenDocument : Config := ⟨[⟨"http://a", "TOKEN"⟩], [], [hiddenMount], []⟩

/-- The mount is created, and listed under another key. -/
theorem recognized_unless_hidden_mount :
    let b := Backend.ofSpec hiddenMount
    let kind := hiddenDocument.engineKind
    let ctx : Context Memory := ⟨Memory.server, false, 2, []⟩
    let w := World.ofInstance "http://a" InstanceState.fresh
    let created := Pass.issue ctx.server "http://a" (kind.mutations .create b)
    created.result w = .ok () ∧ HidesBlank hiddenMount.path ∧
      ∃ found, (kind.fetch ctx "http://a").result (created.after w) = .ok found ∧
        ∃ x ∈ found, x = Backend.observed "http://a" " kv/" (InstanceState.stored b.settings) ∧
          Item.key x ≠ Item.key b := by
  intro b kind ctx w created
  have hcreated : created.result w = .ok () := rfl
  have hhides : HidesBlank hiddenMount.path := ⟨1, ' ', ['k', 'v'], by decide, by decide⟩
  obtain ⟨-, -, -, hlisted⟩ := recognized_unless_hidden hiddenMount.path
  obtain ⟨found, hfound, x, hmem, hx, hkey⟩ := hlisted hiddenMount
    (hiddenDocument.engines.map Backend.ofSpec) kind ctx "http://a" w rfl rfl (.inr rfl) hcreated
  exact ⟨hcreated, hhides, found, hfound, x, hmem, hx, fun hsame => hkey.1 hsame hhides⟩

/-- **A run does not recognize the mount it has created**: the document is
    accepted and a first run succeeds, but the next one finds the mount under
    another key, plans to create it again and to disable what it finds, and
    fails.  A mount of the server itself can be missed in the same way. -/
theorem hidden_mount_created_twice :
    let c := hiddenDocument
    let w := World.ofInstance "http://a" InstanceState.fresh
    let run := Run.perform ⟨Memory.server, false, 2, []⟩ c [.engine]
      ⟨"first", ⟨0, 0⟩, Decimal.zero false⟩
    c.Accepted ∧ (run.result w).success = true ∧
      (run.result (run.after w)).outcomes.map
        (fun o => (o.changes.map fun change => (change.action, change.key), o.error.isSome)) =
          [([(.create, " kv/"), (.delete, "kv/")], true)] ∧
      normalize (normalize "/ kv") ≠ normalize "/ kv" ∧
      isBuiltinMount "/ sys" ≠ isBuiltinMount (normalize "/ sys") := by
  intro c w run
  exact ⟨⟨_, rfl⟩, by decide, by decide, by decide, by decide⟩

end Concord
