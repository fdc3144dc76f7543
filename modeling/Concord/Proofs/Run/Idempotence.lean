/-
  A live run after a successful live run, on instances in memory.

  The first run has found every instance ready for every kind and has left of
  each kind what its plan leaves; so the instances are ready again, and the
  second run succeeds.  It has nothing left to do but to tune the mounts whose
  type is not the wanted one: tuning leaves the type as it is.

  * `Normalized`: paths that normalization leaves as they are.
  * `steps_settled_iff`: what is left to be done after a plan.
  * `second_run_idle_iff`: when the second run has nothing to do.
-/
import Concord.Proofs.Run.Readiness

namespace Concord.Run

open Session

variable {c : Config} {ctx : Context Memory} {w : World Memory}

/-! ## Documents and what is stored -/

/-- No path, stored or wanted, is changed by normalization. -/
structure Normalized (c : Config) (m : Memory) : Prop where
  wanted : ∀ b ∈ c.audits ++ c.engines,
    MountPath.normalize (MountPath.normalize b.path) = MountPath.normalize b.path
  audits : ∀ a s, m.instances.get? a = some s → ∀ path ∈ s.audits.keys,
    MountPath.normalize path = path
  mounts : ∀ a s, m.instances.get? a = some s → ∀ path ∈ s.mounts.keys,
    MountPath.normalize path = path

theorem Normalized.desired {bs : List BackendSpec} {a : String}
    (h : ∀ b ∈ bs, MountPath.normalize (MountPath.normalize b.path) = MountPath.normalize b.path) :
    ∀ x ∈ Backend.onInstance (bs.map Backend.ofSpec) a, MountPath.normalize x.path = x.path := by
  intro x hx
  obtain ⟨b, hb, rfl⟩ := List.mem_map.1 (List.mem_filter.1 hx).1
  exact h b hb

/-- The plans of an accepted document are orderly. -/
theorem Normalized.orderly {m : Memory} (h : Normalized c m) (haccepted : c.Accepted)
    {a : String} {s : InstanceState} (hs : m.visit a = .ok s) :
    ∀ k : KindName, k.upkeep.Orderly (c.kind k) a (s.holding k)
  | .audit =>
    { nodup := haccepted.nodup_audits a
      wanted := fun x hx => keyed_auditUpkeep_iff.2 (Normalized.desired
        (fun b hb => h.wanted b (List.mem_append_left _ hb)) x hx)
      inUse := fun path r hr => keyed_auditUpkeep_iff.2 (h.audits a s
        (Memory.visit_eq_ok_iff.1 hs).2 path (Dict.mem_keys_iff.2 ⟨r, hr⟩)) }
  | .engine =>
    { nodup := haccepted.nodup_engines a
      wanted := fun x hx => keyed_engineUpkeep_iff.2 (Normalized.desired
        (fun b hb => h.wanted b (List.mem_append_right _ hb)) x hx)
      inUse := fun path r hr => keyed_engineUpkeep_iff.2 (h.mounts a s
        (Memory.visit_eq_ok_iff.1 hs).2 path (Dict.mem_keys_iff.2 ⟨r, hr⟩)) }
  | .policy =>
    { nodup := haccepted.nodup_policies a
      wanted := fun x _ => keyed_policyUpkeep x.name
      inUse := fun name _ _ => keyed_policyUpkeep name }

theorem mem_everyKind (k : KindName) : k ∈ everyKind := by
  cases k <;> decide

theorem nodup_everyKind : everyKind.Nodup := by decide

/-- Instances that can be reached and changed are ready for every kind. -/
theorem ready_of_writable (haccepted : c.Accepted)
    (hpool : 1 ≤ ctx.poolSize ∧ ctx.poolSize ≤ Pool.maxSize) {m : Memory}
    (hnormalized : Normalized c m) {a : String} {s : InstanceState} (hs : m.visit a = .ok s)
    (hwrite : m.readOnly.contains a = false) (k : KindName) : Ready ctx c k m a :=
  ready_of_orderly hpool hs hwrite (hnormalized.orderly haccepted hs k)

/-! ## An instance with one more mount -/

/-- An instance after its first start, on which a mount has been added. -/
def mountedState (type : String) : InstanceState :=
  { InstanceState.fresh with
    mounts := InstanceState.fresh.mounts.insert "kv/" (InstanceState.builtinMount type) }

theorem normalized_mountedState (type : String) :
    Normalized (engineDocument "kv") (World.ofInstance "http://a" (mountedState type)).server where
  wanted := by decide
  audits a s hs path hpath := by
    obtain ⟨-, rfl⟩ := World.eq_of_get?_ofInstance hs
    cases hpath
  mounts a s hs := by
    obtain ⟨-, rfl⟩ := World.eq_of_get?_ofInstance hs
    have hkeys : (mountedState type).mounts.keys = ["cubbyhole/", "identity/", "kv/", "sys/"] := rfl
    rw [hkeys]
    decide

/-- A run on that instance succeeds. -/
theorem success_mountedState (type : String) (stamp : RunStamp) :
    ((perform ⟨Memory.server, false, 2, []⟩ (engineDocument "kv") everyKind stamp).result
      (World.ofInstance "http://a" (mountedState type))).success = true := by
  let w := World.ofInstance "http://a" (mountedState type)
  have haccepted : (engineDocument "kv").Accepted := ⟨_, rfl⟩
  have hpool : 1 ≤ 2 ∧ 2 ≤ Pool.maxSize := by decide
  have hready : ∀ k, ∀ a ∈ w.registry.configured,
      Ready ⟨Memory.server, false, 2, []⟩ (engineDocument "kv") k w.server a := by
    intro k a ha
    obtain rfl := List.mem_singleton.1 ha
    exact ready_of_writable haccepted hpool (normalized_mountedState type) rfl rfl k
  exact (perform_of_ready (w := w) rfl rfl nodup_everyKind (List.nodup_singleton _)
    (allReady_opened hready) stamp).1

/-! ## The second run -/

/-- Whether every wanted mount that is there has the wanted type. -/
def TypesAgree (c : Config) (m : Memory) : Prop :=
  ∀ a ∈ c.addresses, ∀ b ∈ Backend.onInstance (c.engines.map Backend.ofSpec) a,
    ∀ r, (m.state a).mounts.get? b.path = some r → r.type = b.type

/-- **What is left to be done** on an instance after a plan: the mounts of
    another type are tuned again. -/
theorem steps_settled_iff {m : Memory} {a : String}
    (ho : ∀ k : KindName, k.upkeep.Orderly (c.kind k) a (m.held k a)) :
    (∀ k : KindName, (k.upkeep.planFor (c.kind k) a (settled c k m a)).steps = []) ↔
      ∀ b ∈ Backend.onInstance (c.engines.map Backend.ofSpec) a,
        ∀ r, (m.state a).mounts.get? b.path = some r → r.type = b.type := by
  have hiff := fun k => (ho k).steps_settled_eq_nil_iff (c.serves k)
  have hengine : ∀ b ∈ Backend.onInstance (c.engines.map Backend.ofSpec) a,
      MountPath.normalize b.path = b.path := fun b hb =>
    keyed_engineUpkeep_iff.1 ((ho .engine).wanted b hb)
  constructor
  · intro h b hb r hr
    rcases (hiff .engine).1 (h .engine) b hb r hr with hagree | hagree
    · exact ((Backend.agrees_observed_iff (hengine b hb)).1 hagree).1
    · exact Backend.matches_tuned_iff.1 ((Backend.agrees_observed_iff (hengine b hb)).1 hagree)
  · intro h k
    refine (hiff k).2 fun x hx r hr => Or.inr ?_
    cases k with
    | audit | policy => exact (c.serves _).agrees_created a x ((ho _).wanted x hx)
    | engine =>
      refine (Backend.agrees_observed_iff (hengine x hx)).2 ?_
      exact Backend.matches_tuned_iff.2 (h x hx r hr)

/-- After a successful run the instances are ready for another, and have of each
    kind what its plan leaves. -/
theorem ready_after_success (haccepted : c.Accepted) (hc : ctx.server = Memory.server)
    (hlive : ctx.dryRun = false) (hnormalized : Normalized c w.server) (stamp : RunStamp)
    (hsuccess : ((perform ctx c everyKind stamp).result w).success = true) {a : String}
    (ha : a ∈ w.registry.configured) (k : KindName) :
    Ready ctx c k w.server a ∧
      Ready ctx c k ((perform ctx c everyKind stamp).after w).server a ∧
      ((perform ctx c everyKind stamp).after w).server.held k a = settled c k w.server a := by
  have hvalid := (success_iff everyKind stamp w).1 hsuccess a ha
  have horderly : ∀ k ∈ everyKind, ∀ d,
      ((opened everyKind w).server.visit a).map (InstanceState.holding k) = .ok d →
        k.upkeep.Orderly (c.kind k) a d := by
    intro k _ d hd
    obtain ⟨s, hs, rfl⟩ := Memory.exists_visit_of_map hd
    exact hnormalized.orderly haccepted hs k
  obtain ⟨hready, hview⟩ := ready_of_passes (w := opened everyKind w) hc hlive nodup_everyKind ha
    horderly hvalid k (mem_everyKind k)
  rw [server_perform]
  have hro := readOnly_passes (c := c) hc everyKind (opened everyKind w)
  have hheld := Pass.held_of_view hview
  refine ⟨hready, ⟨?_, hready.served, ?_, ?_⟩, hheld⟩
  · rw [hheld]
    exact hview
  · rw [hheld]
    exact hready.orderly.settled
  · rw [hheld]
    exact hready.takes.settled.congr hro

theorem configured_perform (kinds : List KindName) (stamp : RunStamp) (w : World Memory) :
    ((perform ctx c kinds stamp).after w).registry.configured = w.registry.configured := by
  rw [registry_perform, configured_passes]
  rfl

/-- After a successful run, what is left to be done is what is left of the
    mounts of another type. -/
theorem stepsOf_after_success_iff (haccepted : c.Accepted) (hc : ctx.server = Memory.server)
    (hlive : ctx.dryRun = false) (hconfigured : w.registry.configured = c.addresses)
    (hnormalized : Normalized c w.server) (stamp : RunStamp)
    (hsuccess : ((perform ctx c everyKind stamp).result w).success = true) :
    (∀ k ∈ everyKind, ∀ a ∈ w.registry.configured,
        stepsOf c k ((perform ctx c everyKind stamp).after w).server a = []) ↔
      TypesAgree c w.server := by
  have hfirst : ∀ a ∈ w.registry.configured, ∀ k, _ := fun a ha k =>
    ready_after_success haccepted hc hlive hnormalized stamp hsuccess ha k
  have hone := fun a ha => steps_settled_iff (c := c) (m := w.server) (a := a)
    fun k => (hfirst a ha k).1.orderly
  have hsteps : ∀ a ∈ w.registry.configured, ∀ k,
      stepsOf c k ((perform ctx c everyKind stamp).after w).server a =
        (k.upkeep.planFor (c.kind k) a (settled c k w.server a)).steps := fun a ha k => by
    rw [stepsOf, (hfirst a ha k).2.2]
  rw [TypesAgree, ← hconfigured]
  constructor
  · intro h a ha
    exact (hone a ha).1 fun k => (hsteps a ha k).symm.trans (h k (mem_everyKind k) a ha)
  · intro h k _ a ha
    exact (hsteps a ha k).trans ((hone a ha).2 (h a ha) k)

/-- The run after a successful one, by what is left to be done. -/
theorem perform_after_success (haccepted : c.Accepted) (hc : ctx.server = Memory.server)
    (hlive : ctx.dryRun = false) (hconfigured : w.registry.configured = c.addresses)
    (hnormalized : Normalized c w.server) (stamp stamp' : RunStamp) (schedule : List Move)
    (hsuccess : ((perform ctx c everyKind stamp).result w).success = true) :
    let w₁ := (perform ctx c everyKind stamp).after w
    let second := perform { ctx with schedule := schedule } c everyKind stamp'
    let Idle := ∀ k ∈ everyKind, ∀ a ∈ w.registry.configured, stepsOf c k w₁.server a = []
    (second.result w₁).success = true ∧
      ((∀ o ∈ (second.result w₁).outcomes, o.changes = []) ↔ Idle) ∧
      (Issues Call.Asks w₁ (second.after w₁) ↔ Idle) := by
  intro w₁ second Idle
  have hn : w.registry.configured.Nodup := hconfigured.symm ▸ haccepted.nodup_addresses
  have hconfigured₁ : w₁.registry.configured = w.registry.configured :=
    configured_perform everyKind stamp w
  have hready : ∀ k, ∀ a ∈ w₁.registry.configured, Ready ctx c k w₁.server a := fun k a ha =>
    (ready_after_success haccepted hc hlive hnormalized stamp hsuccess (hconfigured₁ ▸ ha) k).2.1
  have hsecond := @perform_of_ready c { ctx with schedule := schedule } w₁ everyKind hc hlive
    nodup_everyKind (hconfigured₁.symm ▸ hn) (allReady_opened hready) stamp'
  rw [hconfigured₁] at hsecond
  exact hsecond

/-- **A live run after a successful one** succeeds again.  It plans nothing, and
    issues no mutation, exactly if every wanted mount that was there at first
    had the wanted type. -/
theorem second_run_idle_iff (haccepted : c.Accepted) (hc : ctx.server = Memory.server)
    (hlive : ctx.dryRun = false) (hconfigured : w.registry.configured = c.addresses)
    (hnormalized : Normalized c w.server) (stamp stamp' : RunStamp) (schedule : List Move)
    (hsuccess : ((perform ctx c everyKind stamp).result w).success = true) :
    let w₁ := (perform ctx c everyKind stamp).after w
    let second := perform { ctx with schedule := schedule } c everyKind stamp'
    (second.result w₁).success = true ∧
      ((∀ o ∈ (second.result w₁).outcomes, o.changes = []) ↔ TypesAgree c w.server) ∧
      (Issues Call.Asks w₁ (second.after w₁) ↔ TypesAgree c w.server) := by
  intro w₁ second
  have hidle := stepsOf_after_success_iff haccepted hc hlive hconfigured hnormalized stamp hsuccess
  obtain ⟨hsuccess₂, hchanges, hasks⟩ := perform_after_success haccepted hc hlive hconfigured
    hnormalized stamp stamp' schedule hsuccess
  exact ⟨hsuccess₂, hchanges.trans hidle, hasks.trans hidle⟩

theorem second_run_idle_iff_mounted :
    let c := engineDocument "kv"
    let w := World.ofInstance "http://a" (mountedState "kv")
    let stamp : RunStamp := ⟨"first", ⟨0, 0⟩, Decimal.zero false⟩
    let run := perform ⟨Memory.server, false, 2, []⟩ c everyKind stamp
    (run.result (run.after w)).success = true ∧
      (∀ o ∈ (run.result (run.after w)).outcomes, o.changes = []) ∧
      Issues Call.Asks (run.after w) (run.after (run.after w)) := by
  intro c w stamp run
  have haccepted : c.Accepted := ⟨_, rfl⟩
  have htypes : TypesAgree c w.server := by
    intro a ha b hb r hr
    obtain rfl := List.mem_singleton.1 ha
    obtain rfl := List.mem_singleton.1 hb
    obtain rfl : InstanceState.builtinMount "kv" = r := Option.some.inj hr
    rfl
  obtain ⟨hsuccess, hchanges, hasks⟩ := @second_run_idle_iff c ⟨Memory.server, false, 2, []⟩ w
    haccepted rfl rfl rfl (normalized_mountedState "kv") stamp stamp []
    (success_mountedState "kv" stamp)
  exact ⟨hsuccess, hchanges.2 htypes, hasks.2 htypes⟩

/-- **A mount of another type** than the wanted one is tuned by the second run
    as well, though the first has succeeded. -/
theorem second_run_tunes_again :
    let c := engineDocument "kv"
    let w := World.ofInstance "http://a" (mountedState "generic")
    let stamp : RunStamp := ⟨"first", ⟨0, 0⟩, Decimal.zero false⟩
    let run := perform ⟨Memory.server, false, 2, []⟩ c everyKind stamp
    c.Accepted ∧ Normalized c w.server ∧ (run.result w).success = true ∧
      (¬ ∀ o ∈ (run.result (run.after w)).outcomes, o.changes = []) ∧
      ¬ Issues Call.Asks (run.after w) (run.after (run.after w)) := by
  intro c w stamp run
  have haccepted : c.Accepted := ⟨_, rfl⟩
  have hsuccess : (run.result w).success = true := success_mountedState "generic" stamp
  have htypes : ¬ TypesAgree c w.server := fun h =>
    absurd (h "http://a" (by decide) ⟨"kv/", "kv", "", Dict.empty, "http://a"⟩ (by decide)
      (InstanceState.builtinMount "generic") rfl) (by decide)
  obtain ⟨-, hchanges, hasks⟩ := @perform_after_success c ⟨Memory.server, false, 2, []⟩ w
    haccepted rfl rfl rfl (normalized_mountedState "generic") stamp stamp [] hsuccess
  have hidle := @stepsOf_after_success_iff c ⟨Memory.server, false, 2, []⟩ w haccepted rfl rfl rfl
    (normalized_mountedState "generic") stamp hsuccess
  exact ⟨haccepted, normalized_mountedState "generic", hsuccess,
    fun h => htypes (hidle.1 (hchanges.1 h)), fun h => htypes (hidle.1 (hasks.1 h))⟩

end Concord.Run
