/-
  The effect of live passes on instances in memory.

  None of the steps of a plan is refused, so on an instance that can be reached
  and changed the whole plan is carried out, and what the instance has of the
  kind is then what the plan leaves (`Upkeep.settled`).  A later turn of the
  same instance in the same pass leaves that as it is, and no turn of another
  instance touches it.

  * `execute_eq`: the steps of a plan, one after the other.
  * `onInstance_live`: a pass on one instance.
  * `visit_overInstances`: the instance after all turns.
-/
import Concord.Proofs.Pass.Forecast
import Concord.Proofs.Plan.Goal

namespace Concord.Pass

open Session

variable {α : Type} [Item α] {k : KindName} {U : Upkeep k α} {kind : Kind α}
  {ctx : Context Memory} {a : String} {w : World Memory} {s : InstanceState}

/-! ## Carrying out a plan -/

/-- Mutations that the instance takes. -/
theorem issue_eq {ms : List Mutation} {s' : InstanceState} (hs : w.server.visit a = .ok s)
    (hw : w.server.readOnly.contains a = false) (hp : s.performAll ms = .ok s') :
    (issue Memory.server a ms).result w = .ok () ∧
      ((issue Memory.server a ms).after w).server = w.server.put a s' ms.length := by
  induction ms generalizing w s with
  | nil =>
    cases hp
    exact ⟨rfl, (Memory.put_self hs).symm⟩
  | cons m ms ih =>
    rw [InstanceState.performAll] at hp
    cases hm : s.perform m with
    | error reason =>
      rw [hm] at hp
      cases hp
    | ok s₁ =>
      rw [hm] at hp
      have hchange := Memory.server_change_of_perform hs hw hm
      let w₁ := (Session.change Memory.server a m).after w
      have hw₁ : w₁.server = w.server.put a s₁ 1 := by
        show (Memory.server.change a m w.server).2 = _
        rw [hchange]
      have hs₁ : w₁.server.visit a = .ok s₁ := hw₁ ▸ Memory.visit_put_self hs 1
      obtain ⟨hresult, hafter⟩ := ih hs₁ (by rw [hw₁]; exact hw) hp
      rw [hw₁, Memory.put_put] at hafter
      rw [issue, result_bind, after_bind, result_change, hchange]
      refine ⟨hresult, ?_⟩
      rw [List.length_cons, Nat.add_comm]
      exact hafter

/-- How many mutations carry out steps. -/
def mutationCount (kind : Kind α) (steps : List (Action × α)) : Nat :=
  (steps.flatMap fun step => kind.mutations step.1 step.2).length

omit [Item α] in
theorem mutationCount_cons (kind : Kind α) (step : Action × α) (steps : List (Action × α)) :
    mutationCount kind (step :: steps) =
      (kind.mutations step.1 step.2).length + mutationCount kind steps := by
  rw [mutationCount, List.flatMap_cons, List.length_append]
  rfl

/-- **All steps are carried out** if each is possible at first and no two have
    one key. -/
theorem execute_eq (hU : U.Serves kind) {steps : List (Action × α)}
    (hs : w.server.visit a = .ok s) (hw : w.server.readOnly.contains a = false)
    (hn : (steps.map Upkeep.stepKey).Nodup)
    (hp : ∀ step ∈ steps, Upkeep.Possible (s.holding k) step) :
    (execute kind Memory.server a steps).result w = (steps.length, none) ∧
      ((execute kind Memory.server a steps).after w).server =
        w.server.put a (s.withHolding k (U.enactAll (s.holding k) steps))
          (mutationCount kind steps) := by
  induction steps generalizing w s with
  | nil =>
    refine ⟨rfl, ?_⟩
    show w.server = w.server.put a (s.withHolding k (s.holding k)) 0
    rw [InstanceState.withHolding_holding, Memory.put_self hs]
  | cons step steps ih =>
    obtain ⟨action, x⟩ := step
    obtain ⟨hfirst, hrest⟩ := List.nodup_cons.1 hn
    let w₀ := (Session.record (stepEntry kind action x :: kind.notice action x)).after w
    obtain ⟨hissue, hserver⟩ := issue_eq (w := w₀) hs hw
      (hU.perform s (action, x) (hp _ List.mem_cons_self))
    let w₁ := (issue Memory.server a (kind.mutations action x)).after w₀
    have hs₁ : w₁.server.visit a =
        .ok (s.withHolding k (U.enact (s.holding k) (action, x))) :=
      hserver ▸ Memory.visit_put_self hs _
    have hp₁ : ∀ step ∈ steps, Upkeep.Possible
        ((s.withHolding k (U.enact (s.holding k) (action, x))).holding k) step := by
      intro step hstep
      rw [InstanceState.holding_withHolding]
      have hne : Upkeep.stepKey step ≠ Upkeep.stepKey (action, x) := fun he =>
        hfirst (he ▸ List.mem_map_of_mem hstep)
      exact (hp step (List.mem_cons_of_mem _ hstep)).enact hne
    obtain ⟨hresult, hafter⟩ := ih hs₁ (by rw [hserver]; exact hw) hrest hp₁
    rw [execute, result_bind, after_bind, result_bind, after_bind, hissue]
    constructor
    · show (((execute kind Memory.server a steps).result w₁).1 + 1,
        ((execute kind Memory.server a steps).result w₁).2) = _
      rw [hresult]
      rfl
    · show ((execute kind Memory.server a steps).after w₁).server = _
      rw [hafter, hserver, Memory.put_put, InstanceState.holding_withHolding,
        InstanceState.withHolding_withHolding, mutationCount_cons]
      rfl

/-! ## One instance -/

/-- Fetching leaves instances as they are. -/
theorem server_fetch (hU : U.Serves kind) (hc : ctx.server = Memory.server) (w : World Memory) :
    ((kind.fetch ctx a).after w).server = w.server := by
  have hreading : Reading (Fixes World.server) ctx.server a :=
    ⟨fun _ _ => rfl, fun q w => hc ▸ Memory.after_ask_server a q w⟩
  exact hU.asks ctx a hreading w

theorem fetch_eq (hU : U.Serves kind) (hc : ctx.server = Memory.server)
    (href : U.refusal ctx.poolSize = none) (hs : w.server.visit a = .ok s) :
    (kind.fetch ctx a).result w = .ok (U.items a (s.holding k)) := by
  rw [hU.fetch ctx a w hc, Upkeep.seen, hs, href]

/-- Whether an instance takes the changes of a plan: none at least. -/
def Takes (U : Upkeep k α) (kind : Kind α) (m : Memory) (a : String) (d : Dict k.Record) : Prop :=
  m.readOnly.contains a = false ∨ (U.planFor kind a d).steps = []

/-- **A live pass on an instance** carries out its plan. -/
theorem onInstance_live (hU : U.Serves kind) (hc : ctx.server = Memory.server)
    (hlive : ctx.dryRun = false) (href : U.refusal ctx.poolSize = none)
    (hs : w.server.visit a = .ok s) (ho : U.Orderly kind a (s.holding k))
    (ht : Takes U kind w.server a (s.holding k)) :
    (onInstance ctx kind a).result w =
        { planned ctx kind (U.planFor kind a (s.holding k)) with
          applied := (U.planFor kind a (s.holding k)).steps.length } ∧
      ((onInstance ctx kind a).after w).server =
        w.server.put a (s.withHolding k (U.settled kind a (s.holding k)))
          (mutationCount kind (U.planFor kind a (s.holding k)).steps) := by
  have hfetch := fetch_eq hU hc href hs
  have hserver : (fetched ctx kind a (U.items a (s.holding k)) w).server = w.server :=
    server_fetch hU hc w
  obtain ⟨hresult, hafter⟩ := onInstance_of_fetch_ok hfetch
  rw [hresult, hafter]
  show (carryOut ctx kind (U.planFor kind a (s.holding k))).result _ = _ ∧
    ((carryOut ctx kind (U.planFor kind a (s.holding k))).after _).server = _
  by_cases he : (U.planFor kind a (s.holding k)).isEmpty = true
  · have hnil := Plan.isEmpty_iff.1 he
    rw [(carryOut_of_isEmpty he).1, (carryOut_of_isEmpty he).2, hnil]
    refine ⟨rfl, ?_⟩
    have hsettled : U.settled kind a (s.holding k) = s.holding k := by
      rw [Upkeep.settled, hnil]
      rfl
    rw [hsettled, InstanceState.withHolding_holding]
    exact hserver.trans (Memory.put_self hs).symm
  · have hw := ht.resolve_right (Plan.isEmpty_iff.not.1 he)
    obtain ⟨hexec, hexecServer⟩ := execute_eq hU (hserver ▸ hs) (hserver ▸ hw) ho.nodup_steps
      fun step hstep => (ho.mem_steps_iff.1 hstep).possible
    rw [(carryOut_of_live hlive he).1, (carryOut_of_live hlive he).2, hc]
    have haddress : (U.planFor kind a (s.holding k)).address = a := rfl
    rw [haddress, hexec, hexecServer, hserver]
    exact ⟨rfl, rfl⟩

/-! ## What a pass leaves alone -/

/-- What of the instances the mutations of a kind leave, a pass of the kind
    leaves. -/
theorem bears_fixes {β : Type} {f : Memory → β} {b : String} (hU : U.Serves kind)
    (hc : ctx.server = Memory.server)
    (hchange : ∀ m : Mutation, m.kind = k →
      Keeps (Fixes fun w => f w.server) (Session.change Memory.server b m)) :
    Bears (Fixes fun w => f w.server) ctx kind b where
  asks := hU.asks
  reading := ⟨fun _ _ => rfl, fun q w => hc ▸ congrArg f (Memory.after_ask_server b q w)⟩
  change _ step _ m hm := hc ▸ hchange m (hU.kind_mutations step.1 step.2 m hm)

/-- The turn of another instance. -/
theorem bears_others (hU : U.Serves kind) (hc : ctx.server = Memory.server) {b : String}
    (hne : b ≠ a) :
    Bears (Fixes fun w => (w.server.visit a, w.server.readOnly)) ctx kind b :=
  bears_fixes (f := fun m => (m.visit a, m.readOnly)) hU hc fun m _ =>
    Memory.fixes_others hne.symm m

/-- A pass leaves the other kinds of objects on every instance. -/
theorem holding_perform (hU : U.Serves kind) (hc : ctx.server = Memory.server) {k' : KindName}
    (hk : k' ≠ k) (b : String) :
    ((((perform ctx kind).after w).server.instances.get? b).map (InstanceState.holding k')) =
      (w.server.instances.get? b).map (InstanceState.holding k') := by
  have hchange : ∀ c, Bears (Fixes fun w => (w.server.instances.get? b).map
      (InstanceState.holding k')) ctx kind c := fun c =>
    bears_fixes (f := fun m => (m.instances.get? b).map (InstanceState.holding k')) hU hc
      fun m hm => Memory.fixes_instance _ fun _ _ _ hp =>
        InstanceState.holding_perform hp (hm.symm ▸ hk)
  exact keeps_perform (fun _ _ => rfl) (fun _ _ => rfl) hchange w

/-- A pass leaves every instance that is not valid when it starts. -/
theorem instance_perform (hU : U.Serves kind) (hc : ctx.server = Memory.server) {b : String}
    (hb : b ∉ w.registry.valid) :
    ((perform ctx kind).after w).server.instances.get? b = w.server.instances.get? b := by
  have hothers : ∀ c ∈ w.registry.valid,
      Bears (Fixes fun w => w.server.instances.get? b) ctx kind c := by
    intro c hcv
    have hne : b ≠ c := fun he => hb (he ▸ hcv)
    exact bears_fixes (f := fun m => m.instances.get? b) hU hc fun m _ => Memory.fixes_other hne m
  rw [after_perform]
  exact keeps_overInstances (fun _ _ => rfl) (fun _ _ => rfl) hothers (opened kind w)

/-- What is seen of a kind of objects stays as it is in the passes of the
    others. -/
theorem view_perform (hU : U.Serves kind) (hc : ctx.server = Memory.server) {k' : KindName}
    (hk : k' ≠ k) (w : World Memory) (b : String) :
    ((((perform ctx kind).after w).server.visit b).map (InstanceState.holding k')) =
      (w.server.visit b).map (InstanceState.holding k') := by
  have hbears : ∀ c, Bears (Fixes fun w => (w.server.visit b).map
      (InstanceState.holding k')) ctx kind c := fun c =>
    bears_fixes (f := fun m => (m.visit b).map (InstanceState.holding k')) hU hc
      fun m hm => Memory.fixes_visit _ fun _ _ _ hp =>
        InstanceState.holding_perform hp (hm.symm ▸ hk)
  exact keeps_perform (fun _ _ => rfl) (fun _ _ => rfl) hbears w

/-- No pass makes an instance take mutations or refuse them. -/
theorem readOnly_perform (hU : U.Serves kind) (hc : ctx.server = Memory.server)
    (w : World Memory) :
    ((perform ctx kind).after w).server.readOnly = w.server.readOnly := by
  have hbears : ∀ b, Bears (Fixes fun w => w.server.readOnly) ctx kind b := fun b =>
    bears_fixes (f := Memory.readOnly) hU hc fun m _ => Memory.fixes_readOnly b m
  exact keeps_perform (fun _ _ => rfl) (fun _ _ => rfl) hbears w

/-! ## All instances -/

omit [Item α] in
theorem server_settle (o : Outcome) (w : World Memory) :
    ((settle kind o).after w).server = w.server := by
  unfold settle
  cases o.error <;> rfl

theorem server_turn (w : World Memory) :
    ((turn ctx kind a).after w).server = ((onInstance ctx kind a).after w).server :=
  server_settle _ _

/-- The turn of another instance leaves an instance as it is. -/
theorem turn_of_ne (hU : U.Serves kind) (hc : ctx.server = Memory.server) {b : String}
    (hne : b ≠ a) (hv : w.registry.isValid a = true) :
    ((turn ctx kind b).after w).server.visit a = w.server.visit a ∧
      ((turn ctx kind b).after w).server.readOnly = w.server.readOnly ∧
        ((turn ctx kind b).after w).registry.isValid a = true := by
  obtain ⟨hvisit, hro⟩ :=
    Prod.ext_iff.1 (keeps_turn (fun _ _ => rfl) (bears_others hU hc hne) w)
  exact ⟨hvisit, hro, (isValid_turn hU.asks w a).2 ⟨hv, fun he => absurd he hne⟩⟩

/-- Every instance has its turn while it is as it was at the start. -/
theorem exists_turn_of_mem (hU : U.Serves kind) (hc : ctx.server = Memory.server)
    {L : List String} (ha : a ∈ L) (hv : w.registry.isValid a = true) :
    ∃ w' : World Memory, w'.server.visit a = w.server.visit a ∧
      w'.server.readOnly = w.server.readOnly ∧
        (onInstance ctx kind a).result w' ∈ ((overInstances ctx kind L).result w).1 := by
  obtain ⟨w', hsame, hmem⟩ := exists_turn hU.asks (fun _ _ => rfl) (fun _ _ => rfl)
    (fun b hb => bears_others hU hc hb) ha hv
  obtain ⟨hvisit, hro⟩ := Prod.ext_iff.1 hsame
  exact ⟨w', hvisit, hro, hmem⟩

/-- Every outcome comes from the turn of its instance. -/
theorem turn_of_mem (hU : U.Serves kind) (hc : ctx.server = Memory.server) {L : List String}
    (hn : L.Nodup) {o : Outcome} (ho : o ∈ ((overInstances ctx kind L).result w).1) :
    (o.address ∈ L ∧ w.registry.isValid o.address = true) ∧
      ∃ w' : World Memory, w'.server.visit o.address = w.server.visit o.address ∧
        w'.server.readOnly = w.server.readOnly ∧
          o = (onInstance ctx kind o.address).result w' := by
  have haddresses : ((overInstances ctx kind L).result w).1.map (·.address) =
      L.filter w.registry.isValid := addresses_overInstances hU.asks hn
  have hmem : o.address ∈ L.filter w.registry.isValid :=
    haddresses ▸ List.mem_map_of_mem ho
  obtain ⟨hL, hv⟩ := List.mem_filter.1 hmem
  obtain ⟨w', hvisit, hro, hturn⟩ := exists_turn_of_mem hU hc hL hv
  refine ⟨⟨hL, hv⟩, w', hvisit, hro, ?_⟩
  refine List.inj_on_of_nodup_map (f := fun o => o.address) ?_ ho hturn ?_
  · exact haddresses ▸ hn.filter _
  · exact (address_onInstance w').symm

theorem Takes.congr {m m' : Memory} {d : Dict k.Record} (h : Takes U kind m a d)
    (hro : m'.readOnly = m.readOnly) : Takes U kind m' a d :=
  h.imp_left fun hw => hro ▸ hw

/-- An instance that took the changes of a plan takes those of the next. -/
theorem Takes.settled {m : Memory} {d : Dict k.Record} (h : Takes U kind m a d) :
    Takes U kind m a (U.settled kind a d) := by
  rcases h with h | h
  · exact Or.inl h
  · refine Or.inr ?_
    rw [Upkeep.settled, h]
    exact h

/-- The turn of an instance that takes its changes. -/
theorem turn_live (hU : U.Serves kind) (hc : ctx.server = Memory.server)
    (hlive : ctx.dryRun = false) (href : U.refusal ctx.poolSize = none)
    (hv : w.registry.isValid a = true) (hs : w.server.visit a = .ok s)
    (ho : U.Orderly kind a (s.holding k)) (ht : Takes U kind w.server a (s.holding k)) :
    ((turn ctx kind a).after w).server.visit a =
        .ok (s.withHolding k (U.settled kind a (s.holding k))) ∧
      ((turn ctx kind a).after w).server.readOnly = w.server.readOnly ∧
      ((turn ctx kind a).after w).registry.isValid a = true ∧
      ((turn ctx kind a).result w).error = none ∧
      ((turn ctx kind a).result w).applied = ((turn ctx kind a).result w).changes.length := by
  obtain ⟨hresult, hserver⟩ := onInstance_live hU hc hlive href hs ho ht
  have herror : ((turn ctx kind a).result w).error = none := by
    rw [result_turn, hresult]
    rfl
  refine ⟨?_, ?_, (isValid_turn hU.asks w a).2 ⟨hv, fun _ => herror⟩, herror, ?_⟩
  · rw [server_turn, hserver]
    exact Memory.visit_put_self hs _
  · rw [server_turn, hserver, Memory.readOnly_put]
  · rw [result_turn, hresult]
    exact (Plan.length_changes _ _).symm

/-- **An instance after the turns of a pass**, of which it may have none, one or
    several. -/
theorem visit_overInstances (hU : U.Serves kind) (hc : ctx.server = Memory.server)
    (hlive : ctx.dryRun = false) (href : U.refusal ctx.poolSize = none) {L : List String}
    (hv : w.registry.isValid a = true) (hs : w.server.visit a = .ok s)
    (ho : U.Orderly kind a (s.holding k)) (ht : Takes U kind w.server a (s.holding k)) :
    ((overInstances ctx kind L).after w).server.visit a =
        .ok (if a ∈ L then s.withHolding k (U.settled kind a (s.holding k)) else s) ∧
      ∀ o ∈ ((overInstances ctx kind L).result w).1, o.address = a →
        o.error = none ∧ o.applied = o.changes.length := by
  induction L generalizing w s with
  | nil => exact ⟨hs, fun o ho => by cases ho⟩
  | cons b L ih =>
    by_cases hba : b = a
    · -- the turn of the instance itself, after which it has no changes left
      subst hba
      obtain ⟨hs₁, hro, hv₁, houtcome⟩ := turn_live hU hc hlive href hv hs ho ht
      have hholding := InstanceState.holding_withHolding k s (U.settled kind b (s.holding k))
      obtain ⟨hvisit, houtcomes⟩ := ih hv₁ hs₁ (hholding.symm ▸ ho.settled)
        (hholding.symm ▸ ht.settled.congr hro)
      rw [after_overInstances_of_valid hv, result_overInstances_of_valid hv, hvisit, hholding,
        ho.settled_settled hU, InstanceState.withHolding_withHolding]
      refine ⟨by simp, fun o hmem ha => ?_⟩
      rcases List.mem_cons.1 hmem with rfl | hmem
      · exact houtcome
      · exact houtcomes o hmem ha
    · have hmem : a ∈ b :: L ↔ a ∈ L := by simp [Ne.symm hba]
      simp only [hmem]
      by_cases hvb : w.registry.isValid b = true
      · obtain ⟨hvisit, hro, hv₁⟩ := turn_of_ne hU hc hba hv
        obtain ⟨hfinal, houtcomes⟩ := ih hv₁ (hvisit.trans hs) ho (ht.congr hro)
        rw [after_overInstances_of_valid hvb, result_overInstances_of_valid hvb]
        refine ⟨hfinal, fun o ho' ha => ?_⟩
        rcases List.mem_cons.1 ho' with rfl | ho'
        · rw [result_turn, address_onInstance] at ha
          exact absurd ha hba
        · exact houtcomes o ho' ha
      · rw [after_overInstances_of_invalid hvb, result_overInstances_of_invalid hvb]
        exact ih (w := skip kind b w) hv hs ho ht

/-- **The effect of a live pass on an instance.** -/
theorem perform_live (hU : U.Serves kind) (hc : ctx.server = Memory.server)
    (hlive : ctx.dryRun = false) (href : U.refusal ctx.poolSize = none)
    (ha : a ∈ w.registry.valid) (hs : w.server.visit a = .ok s)
    (ho : U.Orderly kind a (s.holding k)) (ht : Takes U kind w.server a (s.holding k)) :
    ((perform ctx kind).after w).server.visit a =
        .ok (s.withHolding k (U.settled kind a (s.holding k))) ∧
      (∃ o ∈ ((perform ctx kind).result w).outcomes, o.address = a) ∧
      ∀ o ∈ ((perform ctx kind).result w).outcomes, o.address = a →
        o.error = none ∧ o.applied = o.changes.length := by
  have hv := (Registry.mem_valid_iff.1 ha).2
  obtain ⟨hvisit, houtcomes⟩ :=
    visit_overInstances (w := opened kind w) (L := w.registry.valid) hU hc hlive href hv hs ho ht
  rw [if_pos ha] at hvisit
  refine ⟨hvisit, ?_, houtcomes⟩
  obtain ⟨w', -, -, hmem⟩ := exists_turn_of_mem (w := opened kind w) hU hc ha hv
  exact ⟨_, hmem, address_onInstance w'⟩

end Concord.Pass
