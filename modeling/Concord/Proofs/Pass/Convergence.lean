/-
  What a live pass makes of an instance in memory, kind by kind.

  On an instance that is known, can be reached and can be changed, a pass ends
  without an error and with all of its changes carried out.  What the instance
  then has under a key is what is wanted there; what nobody wants is gone,
  unless it must never be deleted.

  * `Policy.rulesAfter`, `Backend.auditAfter`, `Backend.mountAfter`: what a key
    is left with.
  * `live_pass_converges`: the effect of a pass of each kind.
-/
import Concord.Proofs.Pass.Effect

namespace Concord

/-! ## What is left under a key -/

/-- The rules of a policy after a pass over the wanted policies `ps`. -/
def Policy.rulesAfter (ps : List Policy) (d : Dict String) (name : String) : Option String :=
  match partner ps name with
  | some p => some p.rules
  | none => if isBuiltinPolicy name then d.get? name else none

namespace Backend

theorem path_observed (a path : String) (r : BackendRecord) :
    (observed a path r).path = MountPath.normalize path := rfl

/-- The record of a wanted audit device, by the one that was there: it is made
    anew unless it matches. -/
def recreated (b : Backend) : Option BackendRecord → BackendRecord
  | none => InstanceState.stored b.settings
  | some r => if b.Matches r then r else InstanceState.stored b.settings

/-- The record of a wanted mount, by the one that was there: if that does not
    match, it is made anew but for the type. -/
def tuned (b : Backend) : Option BackendRecord → BackendRecord
  | none => InstanceState.stored b.settings
  | some r =>
    if b.Matches r then r else { InstanceState.stored b.settings with type := r.type }

/-- The audit device under a path after a pass over the wanted ones `bs`. -/
def auditAfter (bs : List Backend) (d : Dict BackendRecord) (path : String) :
    Option BackendRecord :=
  (partner bs path).map fun b => b.recreated (d.get? path)

/-- The mount under a path after a pass over the wanted ones `bs`. -/
def mountAfter (bs : List Backend) (d : Dict BackendRecord) (path : String) :
    Option BackendRecord :=
  match partner bs path with
  | some b => some (b.tuned (d.get? path))
  | none => if isBuiltinMount path then d.get? path else none

end Backend

/-! ## Convergence -/

namespace Pass

variable {α : Type} [Item α] {k : KindName} {U : Upkeep k α} {kind : Kind α}
  {ctx : Context Memory} {a : String} {w : World Memory} {s : InstanceState}

/-- A pass carries out all of its changes on an instance of state `s`, leaves
    there the objects that `get` gives, and leaves all else as it is. -/
structure Converges (ctx : Context Memory) (kind : Kind α) (w : World Memory) (a : String)
    (s : InstanceState) (k : KindName) (get : String → Option k.Record) : Prop where
  attempted : ∃ o ∈ ((perform ctx kind).result w).outcomes, o.address = a
  carriedOut : ∀ o ∈ ((perform ctx kind).result w).outcomes, o.address = a →
    o.error = none ∧ o.applied = o.changes.length
  left : ∃ d : Dict k.Record,
    ((perform ctx kind).after w).server.instances.get? a = some (s.withHolding k d) ∧
      ∀ key, d.get? key = get key
  otherKinds : ∀ k' ≠ k, ∀ b,
    (((perform ctx kind).after w).server.instances.get? b).map (InstanceState.holding k') =
      (w.server.instances.get? b).map (InstanceState.holding k')
  otherInstances : ∀ b ∉ w.registry.valid,
    ((perform ctx kind).after w).server.instances.get? b = w.server.instances.get? b

theorem converges (hU : U.Serves kind) (hc : ctx.server = Memory.server)
    (hlive : ctx.dryRun = false) (href : U.refusal ctx.poolSize = none)
    (ha : a ∈ w.registry.valid) (hs : w.server.visit a = .ok s)
    (hw : w.server.readOnly.contains a = false) (ho : U.Orderly kind a (s.holding k))
    {get : String → Option k.Record}
    (hget : ∀ key, U.goal kind a (s.holding k) key = get key) :
    Converges ctx kind w a s k get := by
  obtain ⟨hvisit, hmem, hall⟩ := perform_live hU hc hlive href ha hs ho (Or.inl hw)
  refine ⟨hmem, hall, ⟨_, (Memory.visit_eq_ok_iff.1 hvisit).2, fun key => ?_⟩,
    fun k' hk b => holding_perform hU hc hk b, fun b hb => instance_perform hU hc hb⟩
  rw [ho.get?_settled, hget]

/-! ## The goals of the three kinds -/

theorem goal_policies {items : List Policy} (d : Dict String) (name : String) :
    policyUpkeep.goal (policies items) a d name =
      Policy.rulesAfter (Policy.onInstance items a) d name := by
  have hdesired : (policies items).desired a = Policy.onInstance items a := rfl
  rw [Upkeep.goal, hdesired, Policy.rulesAfter]
  cases hp : partner (Policy.onInstance items a) name with
  | none =>
    cases hr : d.get? name with
    | none => simp
    | some r => rw [Option.filter_some]; rfl
  | some p =>
    obtain rfl : p.name = name := key_of_partner hp
    cases hr : d.get? p.name with
    | none => rfl
    | some r =>
      have hagree : Item.agrees p (Policy.observed a p.name r) = true ↔ r = p.rules :=
        Policy.agrees_observed_iff
      show (if Item.agrees p (Policy.observed a p.name r) = true then some r else some p.rules) =
        some p.rules
      by_cases hm : r = p.rules
      · rw [if_pos (hagree.2 hm), hm]
      · rw [if_neg (hagree.not.2 hm)]

theorem goal_auditDevices {items : List Backend}
    (hn : ∀ b ∈ Backend.onInstance items a, MountPath.normalize b.path = b.path)
    (d : Dict BackendRecord) (path : String) :
    auditUpkeep.goal (auditDevices items) a d path =
      Backend.auditAfter (Backend.onInstance items a) d path := by
  have hdesired : (auditDevices items).desired a = Backend.onInstance items a := rfl
  rw [Upkeep.goal, hdesired, Backend.auditAfter]
  cases hb : partner (Backend.onInstance items a) path with
  | none =>
    cases hr : d.get? path with
    | none => rfl
    | some r => rw [Option.filter_some]; rfl
  | some b =>
    obtain rfl : b.path = path := key_of_partner hb
    have hmem : b ∈ Backend.onInstance items a := List.mem_of_find?_eq_some hb
    cases hr : d.get? b.path with
    | none => rfl
    | some r =>
      have hagree : Item.agrees b (Backend.observed a b.path r) = true ↔ b.Matches r :=
        Backend.agrees_observed_iff (hn b hmem)
      show (if Item.agrees b (Backend.observed a b.path r) = true then some r
        else some (InstanceState.stored b.settings)) = some (b.recreated (some r))
      rw [Backend.recreated]
      by_cases hm : b.Matches r
      · rw [if_pos (hagree.2 hm), if_pos hm]
      · rw [if_neg (hagree.not.2 hm), if_neg hm]

theorem goal_secretsEngines {items : List Backend}
    (hn : ∀ b ∈ Backend.onInstance items a, MountPath.normalize b.path = b.path)
    (d : Dict BackendRecord) (hd : ∀ path ∈ d.keys, MountPath.normalize path = path)
    (path : String) :
    engineUpkeep.goal (secretsEngines items) a d path =
      Backend.mountAfter (Backend.onInstance items a) d path := by
  have hdesired : (secretsEngines items).desired a = Backend.onInstance items a := rfl
  rw [Upkeep.goal, hdesired, Backend.mountAfter]
  cases hb : partner (Backend.onInstance items a) path with
  | none =>
    cases hr : d.get? path with
    | none => simp
    | some r =>
      have hpath := hd path (Dict.mem_keys_iff.2 ⟨r, hr⟩)
      have hprotected : (secretsEngines items).isProtected (Backend.observed a path r) =
          isBuiltinMount path := by
        rw [isProtected_secretsEngines, Backend.path_observed, hpath]
      rw [Option.filter_some]
      exact congrArg (fun p : Bool => if p = true then some r else none) hprotected
  | some b =>
    obtain rfl : b.path = path := key_of_partner hb
    have hmem : b ∈ Backend.onInstance items a := List.mem_of_find?_eq_some hb
    cases hr : d.get? b.path with
    | none => rfl
    | some r =>
      have hagree : Item.agrees b (Backend.observed a b.path r) = true ↔ b.Matches r :=
        Backend.agrees_observed_iff (hn b hmem)
      show (if Item.agrees b (Backend.observed a b.path r) = true then some r
        else some { InstanceState.stored b.settings with type := r.type }) =
          some (b.tuned (some r))
      rw [Backend.tuned]
      by_cases hm : b.Matches r
      · rw [if_pos (hagree.2 hm), if_pos hm]
      · rw [if_neg (hagree.not.2 hm), if_neg hm]

/-! ## Every kind -/

/-- **The effect of a live pass** on an instance that is known, can be reached
    and can be changed: nothing fails, and what is left of the kind is what is
    wanted and what must stay. -/
theorem live_pass_converges (hc : ctx.server = Memory.server) (hlive : ctx.dryRun = false)
    (hpool : 1 ≤ ctx.poolSize ∧ ctx.poolSize ≤ Pool.maxSize) (ha : a ∈ w.registry.valid)
    (hknown : w.server.instances.get? a = some s)
    (hreach : w.server.unreachable.contains a = false)
    (hwrite : w.server.readOnly.contains a = false) :
    (∀ items : List Policy, ((Policy.onInstance items a).map (·.name)).Nodup →
      Converges ctx (policies items) w a s .policy
        (Policy.rulesAfter (Policy.onInstance items a) s.policies)) ∧
    (∀ items : List Backend, ((Backend.onInstance items a).map (·.path)).Nodup →
      (∀ b ∈ Backend.onInstance items a, MountPath.normalize b.path = b.path) →
      (∀ path ∈ s.audits.keys, MountPath.normalize path = path) →
      Converges ctx (auditDevices items) w a s .audit
        (Backend.auditAfter (Backend.onInstance items a) s.audits)) ∧
    (∀ items : List Backend, ((Backend.onInstance items a).map (·.path)).Nodup →
      (∀ b ∈ Backend.onInstance items a, MountPath.normalize b.path = b.path) →
      (∀ path ∈ s.mounts.keys, MountPath.normalize path = path) →
      Converges ctx (secretsEngines items) w a s .engine
        (Backend.mountAfter (Backend.onInstance items a) s.mounts)) := by
  have hs := Memory.visit_eq_ok_iff.2 ⟨hreach, hknown⟩
  refine ⟨fun items hn => ?_, fun items hn hwanted hstored => ?_,
    fun items hn hwanted hstored => ?_⟩
  · have ho : policyUpkeep.Orderly (policies items) a (s.holding .policy) :=
      ⟨hn, fun _ _ => keyed_policyUpkeep _, fun _ _ _ => keyed_policyUpkeep _⟩
    exact converges (serves_policies items) hc hlive (refusal_policyUpkeep hpool) ha hs hwrite ho
      (goal_policies s.policies)
  · have ho : auditUpkeep.Orderly (auditDevices items) a (s.holding .audit) :=
      ⟨hn, fun b hb => keyed_auditUpkeep_iff.2 (hwanted b hb), fun path r hr =>
        keyed_auditUpkeep_iff.2 (hstored path (Dict.mem_keys_iff.2 ⟨r, hr⟩))⟩
    exact converges (serves_auditDevices items) hc hlive rfl ha hs hwrite ho
      (goal_auditDevices hwanted s.audits)
  · have ho : engineUpkeep.Orderly (secretsEngines items) a (s.holding .engine) :=
      ⟨hn, fun b hb => keyed_engineUpkeep_iff.2 (hwanted b hb), fun path r hr =>
        keyed_engineUpkeep_iff.2 (hstored path (Dict.mem_keys_iff.2 ⟨r, hr⟩))⟩
    exact converges (serves_secretsEngines items) hc hlive rfl ha hs hwrite ho
      (goal_secretsEngines hwanted s.mounts hstored)

/-- An instance after its first start, on which an audit device is left that
    nobody wants. -/
def strayState : InstanceState :=
  { InstanceState.fresh with
    audits := Dict.ofList [("file/", InstanceState.builtinMount "file")] }

theorem live_pass_converges_stray :
    let w := World.ofInstance "http://a" strayState
    let ctx : Context Memory := ⟨Memory.server, false, 2, []⟩
    let p : Policy := ⟨"dev", "path", "acl", "", "http://a"⟩
    let b : Backend := ⟨"kv/", "kv", "", Dict.empty, "http://a"⟩
    Converges ctx (policies [p]) w "http://a" strayState .policy
        (Policy.rulesAfter [p] strayState.policies) ∧
      Converges ctx (auditDevices [b]) w "http://a" strayState .audit
        (Backend.auditAfter [b] strayState.audits) ∧
      Converges ctx (secretsEngines [b]) w "http://a" strayState .engine
        (Backend.mountAfter [b] strayState.mounts) := by
  intro w ctx p b
  obtain ⟨hpolicies, haudits, hmounts⟩ := @live_pass_converges ctx "http://a" w strayState rfl rfl
    ⟨by decide, by decide⟩ (by decide) rfl rfl rfl
  exact ⟨hpolicies [p] (by decide), haudits [b] (by decide) (by decide) (by decide),
    hmounts [b] (by decide) (by decide) (by decide)⟩

end Pass

end Concord
