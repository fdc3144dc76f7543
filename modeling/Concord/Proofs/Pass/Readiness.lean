/-
  When a live pass succeeds on an instance in memory.

  An instance is ready for a kind (`Ready`) if its objects can be fetched and
  it takes the changes that are planned for them.  A pass does not fail there
  exactly then, and readiness depends on nothing that a pass of another kind or
  a turn of another instance touches.

  * `ready_of_valid`: whoever is valid after a live pass was ready for it.
  * `Ready.view_perform`, `Ready.outcome`: what such a pass leaves and reports.
  * `quiet_perform`, `lt_perform`: a pass without steps issues no mutation, and
    any other counts one more.
-/
import Concord.Proofs.Pass.Effect

namespace Concord.Pass

open Session

variable {α : Type} [Item α] {k : KindName} {U : Upkeep k α} {kind : Kind α} {n : Nat}
  {ctx : Context Memory} {a : String} {w : World Memory} {m m' : Memory}

/-- An instance whose objects of a kind can be fetched and brought in line. -/
structure Ready (U : Upkeep k α) (kind : Kind α) (n : Nat) (m : Memory) (a : String) : Prop where
  reached : (m.visit a).map (InstanceState.holding k) = .ok (m.held k a)
  served : U.refusal n = none
  orderly : U.Orderly kind a (m.held k a)
  takes : Takes U kind m a (m.held k a)

theorem Ready.exists_visit (h : Ready U kind n m a) :
    ∃ s, m.visit a = .ok s ∧ s.holding k = m.held k a :=
  Memory.exists_visit_of_map h.reached

omit [Item α] in
theorem held_of_view {d : Dict k.Record}
    (h : (m.visit a).map (InstanceState.holding k) = .ok d) : m.held k a = d := by
  obtain ⟨s, hs, hd⟩ := Memory.exists_visit_of_map h
  exact (Memory.held_of_visit hs).trans hd

/-- Readiness depends on what is seen of the kind, and on who refuses
    mutations. -/
theorem Ready.congr (h : Ready U kind n m a)
    (hview : (m'.visit a).map (InstanceState.holding k) =
      (m.visit a).map (InstanceState.holding k))
    (hro : m'.readOnly = m.readOnly) : Ready U kind n m' a ∧ m'.held k a = m.held k a := by
  have hheld : m'.held k a = m.held k a := held_of_view (hview.trans h.reached)
  refine ⟨⟨?_, h.served, hheld ▸ h.orderly, hheld ▸ h.takes.congr hro⟩, hheld⟩
  rw [hheld]
  exact hview.trans h.reached

/-! ## One instance -/

theorem Ready.onInstance (hU : U.Serves kind) (hc : ctx.server = Memory.server)
    (hlive : ctx.dryRun = false) (h : Ready U kind ctx.poolSize w.server a) :
    (onInstance ctx kind a).result w =
        { planned ctx kind (U.planFor kind a (w.server.held k a)) with
          applied := (U.planFor kind a (w.server.held k a)).steps.length } ∧
      ∃ s, ((Pass.onInstance ctx kind a).after w).server =
        w.server.put a s (mutationCount kind (U.planFor kind a (w.server.held k a)).steps) := by
  obtain ⟨s, hs, hheld⟩ := h.exists_visit
  obtain ⟨hresult, hserver⟩ := onInstance_live hU hc hlive h.served hs (hheld ▸ h.orderly)
    (hheld ▸ h.takes)
  rw [hheld] at hresult hserver
  exact ⟨hresult, _, hserver⟩

/-- An instance that refuses mutations fails the first step. -/
theorem execute_of_readOnly (hU : U.Serves kind) (hro : w.server.readOnly.contains a = true) :
    ∀ {steps : List (Action × α)}, steps ≠ [] →
      ((execute kind Memory.server a steps).result w).2 ≠ none
  | [], h => absurd rfl h
  | (action, x) :: steps, _ => by
    let w₀ := (Session.record (stepEntry kind action x :: kind.notice action x)).after w
    obtain ⟨m, ms, hms⟩ := List.exists_cons_of_ne_nil (hU.mutations_ne_nil action x)
    obtain ⟨e, he⟩ := Memory.change_of_readOnly hro m
    have hchange : (Memory.server.change a m w₀.server).1 = .error e :=
      congrArg Prod.fst (Memory.server_change_of_error he)
    have hissue : (issue Memory.server a (kind.mutations action x)).result w₀ = .error e := by
      rw [hms, issue, result_bind, result_change, hchange]
      rfl
    rw [execute, result_bind, result_bind, hissue]
    exact Option.some_ne_none e

/-- Where a live pass does not fail, the instance was ready. -/
theorem ready_of_error_eq_none (hU : U.Serves kind) (hc : ctx.server = Memory.server)
    (hlive : ctx.dryRun = false)
    (ho : ∀ s, w.server.visit a = .ok s → U.Orderly kind a (s.holding k))
    (h : ((onInstance ctx kind a).result w).error = none) :
    Ready U kind ctx.poolSize w.server a := by
  cases hfetch : (kind.fetch ctx a).result w with
  | error e =>
    rw [error_onInstance_of_fetch_error hfetch] at h
    cases h
  | ok items =>
    have hseen := (hU.fetch ctx a w hc).symm.trans hfetch
    rw [Upkeep.seen] at hseen
    cases hs : w.server.visit a with
    | error e =>
      rw [hs] at hseen
      cases hseen
    | ok s =>
      rw [hs] at hseen
      cases href : U.refusal ctx.poolSize with
      | some e =>
        rw [href] at hseen
        cases hseen
      | none =>
        have hheld : w.server.held k a = s.holding k := Memory.held_of_visit hs
        refine ⟨by rw [hs, hheld]; rfl, href, hheld ▸ ho s hs, ?_⟩
        by_contra ht
        obtain ⟨hro, hsteps⟩ := not_or.1 ht
        rw [hheld] at hsteps
        obtain ⟨hresult, -⟩ := onInstance_of_fetch_ok (fetch_eq hU hc href hs)
        have hserver : (fetched ctx kind a (U.items a (s.holding k)) w).server = w.server :=
          server_fetch hU hc w
        rw [Bool.not_eq_false, ← hserver] at hro
        have hfailure := execute_of_readOnly hU hro hsteps
        have hplan : planOf kind a (U.items a (s.holding k)) = U.planFor kind a (s.holding k) := rfl
        rw [hresult, hplan, (carryOut_of_live hlive (Plan.isEmpty_iff.not.2 hsteps)).1, hc,
          Option.map_eq_none_iff] at h
        exact hfailure h

/-! ## One pass -/

/-- **Whoever is valid after a live pass** was ready for it. -/
theorem ready_of_valid (hU : U.Serves kind) (hc : ctx.server = Memory.server)
    (hlive : ctx.dryRun = false) (ha : a ∈ w.registry.valid)
    (ho : ∀ s, w.server.visit a = .ok s → U.Orderly kind a (s.holding k))
    (hvalid : ((perform ctx kind).after w).registry.isValid a = true) :
    Ready U kind ctx.poolSize w.server a := by
  obtain ⟨hv, hfine⟩ := (isValid_perform hU.asks w a).1 hvalid
  obtain ⟨w', hvisit, hro, hmem⟩ := exists_turn_of_mem (w := opened kind w) hU hc ha hv
  have hready : Ready U kind ctx.poolSize w'.server a :=
    ready_of_error_eq_none hU hc hlive (fun s hs => ho s (hvisit.symm.trans hs))
      (hfine _ hmem (address_onInstance w'))
  exact (hready.congr (congrArg (Except.map _) hvisit.symm) hro.symm).1

/-- What a live pass leaves on an instance that was ready for it. -/
theorem Ready.view_perform (hU : U.Serves kind) (hc : ctx.server = Memory.server)
    (hlive : ctx.dryRun = false) (ha : a ∈ w.registry.valid)
    (h : Ready U kind ctx.poolSize w.server a) :
    ((((perform ctx kind).after w).server.visit a).map (InstanceState.holding k)) =
      .ok (U.settled kind a (w.server.held k a)) := by
  obtain ⟨s, hs, hheld⟩ := h.exists_visit
  obtain ⟨hvisit, -⟩ := perform_live hU hc hlive h.served ha hs (hheld ▸ h.orderly)
    (hheld ▸ h.takes)
  rw [hvisit, ← hheld]
  exact congrArg Except.ok (InstanceState.holding_withHolding k s _)

/-- What a live pass reports of an instance that was ready for it. -/
theorem Ready.outcome (hU : U.Serves kind) (hc : ctx.server = Memory.server)
    (hlive : ctx.dryRun = false) (hn : w.registry.configured.Nodup) {o : Outcome}
    (ho : o ∈ ((perform ctx kind).result w).outcomes)
    (h : Ready U kind ctx.poolSize w.server o.address) :
    o.error = none ∧
      o.changes = (U.planFor kind o.address (w.server.held k o.address)).changes kind.describe := by
  obtain ⟨-, w', hvisit, hro, hturn⟩ := turn_of_mem (w := opened kind w) hU hc (hn.filter _) ho
  obtain ⟨hready, hheld⟩ := h.congr (congrArg (Except.map _) hvisit) hro
  obtain ⟨hresult, -⟩ := hready.onInstance hU hc hlive
  rw [← hturn, hheld] at hresult
  rw [hresult]
  exact ⟨rfl, rfl⟩

/-- The instance stays ready for one kind in the passes of the others. -/
theorem Ready.perform_of_ne {β : Type} [Item β] {k' : KindName} {U' : Upkeep k' β}
    {kind' : Kind β} (hU : U'.Serves kind') (hc : ctx.server = Memory.server) (hk : k ≠ k')
    (h : Ready U kind n w.server a) :
    Ready U kind n ((perform ctx kind').after w).server a ∧
      ((perform ctx kind').after w).server.held k a = w.server.held k a :=
  h.congr (Pass.view_perform hU hc hk w a) (readOnly_perform hU hc w)

/-- **A live pass over instances that are ready** leaves all of them valid, and
    has changes where plans have steps. -/
theorem perform_of_ready (hU : U.Serves kind) (hc : ctx.server = Memory.server)
    (hlive : ctx.dryRun = false) (hn : w.registry.configured.Nodup)
    (hready : ∀ a ∈ w.registry.valid, Ready U kind ctx.poolSize w.server a) :
    (∀ a, w.registry.isValid a = true →
        ((perform ctx kind).after w).registry.isValid a = true) ∧
      ((∀ o ∈ ((perform ctx kind).result w).outcomes, o.changes = []) ↔
        ∀ a ∈ w.registry.valid, (U.planFor kind a (w.server.held k a)).steps = []) := by
  have houtcome : ∀ o ∈ ((perform ctx kind).result w).outcomes,
      o.address ∈ w.registry.valid ∧ o.error = none ∧
        o.changes =
          (U.planFor kind o.address (w.server.held k o.address)).changes kind.describe := by
    intro o ho
    obtain ⟨⟨hmem, -⟩, -⟩ := turn_of_mem (w := opened kind w) hU hc (hn.filter _) ho
    exact ⟨hmem, (hready _ hmem).outcome hU hc hlive hn ho⟩
  refine ⟨fun a ha => ?_, fun h a ha => ?_, fun h o ho => ?_⟩
  · exact (isValid_perform hU.asks w a).2 ⟨ha, fun o ho _ => (houtcome o ho).2.1⟩
  · obtain ⟨w', -, -, hmem⟩ := exists_turn_of_mem (w := opened kind w) hU hc ha
      (Registry.mem_valid_iff.1 ha).2
    obtain ⟨-, -, hchanges⟩ := houtcome _ hmem
    rw [h _ hmem, address_onInstance] at hchanges
    exact Plan.changes_eq_nil_iff.1 hchanges.symm
  · obtain ⟨hmem, -, hchanges⟩ := houtcome o ho
    rw [hchanges]
    exact Plan.changes_eq_nil_iff.2 (h _ hmem)

/-! ## Mutating calls -/

theorem bears_tallied (hU : U.Serves kind) (hc : ctx.server = Memory.server) (b : String) :
    Bears World.Tallied ctx kind b where
  asks := hU.asks
  reading := by
    refine ⟨World.tallied_record, fun q w => ?_⟩
    rw [hc]
    exact ⟨[⟨b, .query q⟩], rfl, Nat.le_refl _, fun _ => rfl⟩
  change _ step _ m _ := hc ▸ Memory.tallied_change b m

/-! ## Passes without steps -/

/-- An instance that is ready for a kind and has nothing to be done. -/
def InSync (U : Upkeep k α) (kind : Kind α) (n : Nat) (m : Memory) (a : String) : Prop :=
  Ready U kind n m a ∧ (U.planFor kind a (m.held k a)).steps = []

theorem quiet_record (es : List Log.Entry) : Keeps World.Quiet (Session.record es) :=
  fun _ => ⟨rfl, issues_of_calls_eq rfl⟩

theorem reading_quiet (a : String) : Reading World.Quiet Memory.server a :=
  ⟨quiet_record, fun q _ => ⟨rfl, issues_of_calls_append rfl ⟨q, rfl⟩⟩⟩

theorem quiet_onInstance (hU : U.Serves kind) (hc : ctx.server = Memory.server)
    (h : InSync U kind ctx.poolSize w.server a) :
    w.Quiet ((onInstance ctx kind a).after w) := by
  obtain ⟨hready, hnil⟩ := h
  obtain ⟨s, hs, hheld⟩ := hready.exists_visit
  rw [← hheld] at hnil
  have hempty : (planOf kind a (U.items a (s.holding k))).isEmpty = true :=
    Plan.isEmpty_iff.2 hnil
  rw [(onInstance_of_fetch_ok (fetch_eq hU hc hready.served hs)).2, (carryOut_of_isEmpty hempty).2]
  refine trans_of World.Quiet ?_ (quiet_record _ _)
  refine trans_of World.Quiet ?_ (quiet_record _ _)
  exact hU.asks ctx a (hc ▸ reading_quiet a) w

theorem quiet_overInstances (hU : U.Serves kind) (hc : ctx.server = Memory.server)
    {L : List String} (h : ∀ b ∈ L, InSync U kind ctx.poolSize w.server b) :
    w.Quiet ((overInstances ctx kind L).after w) := by
  induction L generalizing w with
  | nil => exact refl_of World.Quiet w
  | cons b L ih =>
    have hmark : ∀ c, Keeps World.Quiet (markInvalid c) := fun _ _ =>
      ⟨rfl, issues_of_calls_eq rfl⟩
    by_cases hv : w.registry.isValid b = true
    · have hturn : w.Quiet ((turn ctx kind b).after w) :=
        trans_of World.Quiet (quiet_onInstance hU hc (h b List.mem_cons_self))
          (keeps_settle quiet_record hmark _ _)
      rw [after_overInstances_of_valid hv]
      refine trans_of World.Quiet hturn (ih fun c hcL => ?_)
      rw [hturn.1]
      exact h c (List.mem_cons_of_mem b hcL)
    · rw [after_overInstances_of_invalid hv]
      exact trans_of World.Quiet (quiet_record _ w)
        (ih fun c hcL => h c (List.mem_cons_of_mem b hcL))

/-- A pass without steps asks, and changes nothing. -/
theorem quiet_perform (hU : U.Serves kind) (hc : ctx.server = Memory.server)
    (h : ∀ b ∈ w.registry.valid, InSync U kind ctx.poolSize w.server b) :
    w.Quiet ((perform ctx kind).after w) := by
  rw [after_perform]
  exact trans_of World.Quiet (quiet_record _ w)
    (quiet_overInstances hU hc (w := opened kind w) h)

/-! ## Passes with steps -/

theorem mutationCount_pos (hU : U.Serves kind) {steps : List (Action × α)} (h : steps ≠ []) :
    0 < mutationCount kind steps := by
  obtain ⟨step, rest, rfl⟩ := List.exists_cons_of_ne_nil h
  have hstep := List.length_pos_of_ne_nil (hU.mutations_ne_nil step.1 step.2)
  rw [mutationCount_cons]
  omega

theorem lt_overInstances (hU : U.Serves kind) (hc : ctx.server = Memory.server)
    (hlive : ctx.dryRun = false) {L : List String} (ha : a ∈ L)
    (hv : w.registry.isValid a = true) (h : Ready U kind ctx.poolSize w.server a)
    (hsteps : (U.planFor kind a (w.server.held k a)).steps ≠ []) :
    w.server.mutations < ((overInstances ctx kind L).after w).server.mutations := by
  induction L generalizing w with
  | nil => cases ha
  | cons b L ih =>
    by_cases hba : b = a
    · subst hba
      obtain ⟨-, s, hserver⟩ := h.onInstance hU hc hlive
      obtain ⟨-, -, hle, -⟩ := keeps_overInstances World.tallied_record World.tallied_markInvalid
        (fun c (_ : c ∈ L) => bears_tallied hU hc c) ((turn ctx kind b).after w)
      rw [server_turn, hserver, Memory.mutations_put] at hle
      have hpos := mutationCount_pos hU hsteps
      rw [after_overInstances_of_valid hv]
      omega
    · have ha' := (List.mem_cons.1 ha).resolve_left (Ne.symm hba)
      by_cases hvb : w.registry.isValid b = true
      · obtain ⟨hvisit, hro, hv₁⟩ := turn_of_ne hU hc hba hv
        obtain ⟨hready, hheld⟩ := h.congr (congrArg (Except.map _) hvisit) hro
        obtain ⟨-, -, hle, -⟩ := keeps_turn World.tallied_markInvalid (bears_tallied hU hc b) w
        rw [after_overInstances_of_valid hvb]
        exact Nat.lt_of_le_of_lt hle (ih ha' hv₁ hready (hheld ▸ hsteps))
      · rw [after_overInstances_of_invalid hvb]
        exact ih (w := skip kind b w) ha' hv h hsteps

/-- A pass with a step on an instance that is ready counts one mutation at
    least. -/
theorem lt_perform (hU : U.Serves kind) (hc : ctx.server = Memory.server)
    (hlive : ctx.dryRun = false) (ha : a ∈ w.registry.valid)
    (h : Ready U kind ctx.poolSize w.server a)
    (hsteps : (U.planFor kind a (w.server.held k a)).steps ≠ []) :
    w.server.mutations < ((perform ctx kind).after w).server.mutations := by
  rw [after_perform]
  exact lt_overInstances (w := opened kind w) hU hc hlive ha (Registry.mem_valid_iff.1 ha).2 h
    hsteps

end Concord.Pass
