/-
  Passes on an instance behind calls that may fail.

  Wherever a pass stops, it has carried out some steps of its plan and a part of
  the next one.  Each of them leaves the objects of the kind where they come to
  the same as before, so the whole pass does; the other objects and the other
  instances it leaves alone.

  * `exists_issue`, `exists_execute`: mutations, and the steps of a plan.
  * `exists_onInstance`: a pass on an instance.
  * `untouched_perform`: the instances that are not configured.
-/
import Concord.Proofs.Pass.Effect
import Concord.Proofs.Plan.Interruption
import Concord.Proofs.Unreliable

namespace Concord.Pass

open Session

variable {σ α : Type} [Item α] {k : KindName} {U : Upkeep k α} {kind : Kind α}
  {server : Server σ} {memory : σ → Memory} {ctx : Context σ} {a : String} {w : World σ}
  {s s' : InstanceState}

/-! ## Mutations -/

/-- Of mutations that an instance takes, some of the first have had their effect
    when they have been issued. -/
theorem exists_issue (h : server.Unreliable memory) {ms : List Mutation}
    (hs : (memory w.server).visit a = .ok s) (hw : (memory w.server).readOnly.contains a = false)
    (hp : s.performAll ms = .ok s') :
    ∃ done s₁ n, done <+: ms ∧ s.performAll done = .ok s₁ ∧
      memory ((issue server a ms).after w).server = (memory w.server).put a s₁ n := by
  induction ms generalizing w s with
  | nil => exact ⟨[], s, 0, List.nil_prefix, rfl, (Memory.put_self hs).symm⟩
  | cons m ms ih =>
    rw [InstanceState.performAll] at hp
    cases hm : s.perform m with
    | error reason =>
      rw [hm] at hp
      cases hp
    | ok s₁ =>
      rw [hm] at hp
      have hchange := Memory.server_change_of_perform hs hw hm
      have hone : s.performAll [m] = .ok s₁ := by simp [InstanceState.performAll, hm]
      let w₁ := (Session.change server a m).after w
      rw [issue, after_bind]
      cases hanswer : (Session.change server a m).result w with
      | error e =>
        -- the mutation may have had its effect or not
        rcases h.memory_change a m w.server with hsame | heffect
        · exact ⟨[], s, 0, List.nil_prefix, rfl, hsame.trans (Memory.put_self hs).symm⟩
        · rw [hchange] at heffect
          exact ⟨[m], s₁, 1, ⟨ms, rfl⟩, hone, heffect⟩
      | ok _ =>
        have heffect := h.memory_change_of_ok hanswer
        rw [hchange] at heffect
        have hw₁ : memory w₁.server = (memory w.server).put a s₁ 1 := heffect
        have hs₁ : (memory w₁.server).visit a = .ok s₁ := hw₁ ▸ Memory.visit_put_self hs 1
        have hro₁ : (memory w₁.server).readOnly.contains a = false := by rw [hw₁]; exact hw
        obtain ⟨done, s₂, n, hdone, hperform, hafter⟩ := ih hs₁ hro₁ hp
        rw [hw₁, Memory.put_put] at hafter
        refine ⟨m :: done, s₂, 1 + n, ?_, ?_, hafter⟩
        · exact (List.prefix_cons_inj m).2 hdone
        · rw [InstanceState.performAll, hm]
          exact hperform

/-! ## Steps -/

/-- **Steps that are due**, wherever they stop, leave the objects of the kind
    where they come to the same. -/
theorem exists_execute (h : server.Unreliable memory) (hU : U.Serves kind)
    (hdivisible : U.Divisible kind) {steps : List (Action × α)}
    (hs : (memory w.server).visit a = .ok s) (hw : (memory w.server).readOnly.contains a = false)
    (ho : U.Orderly kind a (s.holding k)) (hn : (steps.map Upkeep.stepKey).Nodup)
    (hdue : ∀ step ∈ steps, U.Due kind a (s.holding k) step) :
    ∃ d n, U.OnWay kind a (s.holding k) d ∧
      memory ((execute kind server a steps).after w).server =
        (memory w.server).put a (s.withHolding k d) n := by
  induction steps generalizing w s with
  | nil =>
    refine ⟨s.holding k, 0, .refl ho, ?_⟩
    rw [InstanceState.withHolding_holding]
    exact (Memory.put_self hs).symm
  | cons step steps ih =>
    obtain ⟨action, x⟩ := step
    obtain ⟨hfirst, hrest⟩ := List.nodup_cons.1 hn
    have hstep := hdue (action, x) List.mem_cons_self
    let w₀ := (Session.record (stepEntry kind action x :: kind.notice action x)).after w
    let w₁ := (issue server a (kind.mutations action x)).after w₀
    obtain ⟨done, s₁, n, hdone, hperform, hserver⟩ :=
      exists_issue (w := w₀) h hs hw (hU.perform s (action, x) hstep.possible)
    obtain ⟨d, hpart, hpartial⟩ := hdivisible s (action, x) done hstep.possible hdone
    obtain rfl : s.withHolding k d = s₁ := Except.ok.inj (hpart.symm.trans hperform)
    have hway := hpartial.onWay hU ho hstep
    rw [execute, after_bind, after_bind]
    cases hissue : (issue server a (kind.mutations action x)).result w₀ with
    | error e => exact ⟨d, n, hway, hserver⟩
    | ok _ =>
      have hholding := InstanceState.holding_withHolding k s d
      have hs₁ : (memory w₁.server).visit a = .ok (s.withHolding k d) :=
        hserver ▸ Memory.visit_put_self hs n
      have hro₁ : (memory w₁.server).readOnly.contains a = false := by rw [hserver]; exact hw
      have hdue₁ : ∀ step ∈ steps, U.Due kind a ((s.withHolding k d).holding k) step := by
        intro step hmem
        rw [hholding]
        refine (hdue step (List.mem_cons_of_mem _ hmem)).congr (hpartial.get?_of_ne fun he => ?_)
        exact hfirst (he ▸ List.mem_map_of_mem hmem)
      obtain ⟨d', n', hway', hafter⟩ := ih hs₁ hro₁ (hholding.symm ▸ hway.orderly) hrest hdue₁
      rw [hserver, Memory.put_put, InstanceState.withHolding_withHolding] at hafter
      rw [hholding] at hway'
      exact ⟨d', n + n', hway.trans hway', hafter⟩

/-! ## One instance -/

/-- **A pass on an instance**, wherever it stops, leaves the objects of the kind
    where they come to the same. -/
theorem exists_onInstance (h : ctx.server.Unreliable memory) (hU : U.Serves kind)
    (hdivisible : U.Divisible kind) (htruthful : U.Truthful kind)
    (hs : (memory w.server).visit a = .ok s) (hw : (memory w.server).readOnly.contains a = false)
    (ho : U.Orderly kind a (s.holding k)) :
    ∃ d n, U.OnWay kind a (s.holding k) d ∧
      memory ((onInstance ctx kind a).after w).server =
        (memory w.server).put a (s.withHolding k d) n := by
  have hfetch : memory ((kind.fetch ctx a).after w).server = memory w.server :=
    h.memory_fetch hU.asks rfl a w
  have hsame : memory w.server = (memory w.server).put a (s.withHolding k (s.holding k)) 0 := by
    rw [InstanceState.withHolding_holding, Memory.put_self hs]
  cases hfetched : (kind.fetch ctx a).result w with
  | error e =>
    rw [(onInstance_of_fetch_error hfetched).2]
    exact ⟨s.holding k, 0, .refl ho, hfetch.trans hsame⟩
  | ok observed =>
    have hobserved : observed = U.items a (s.holding k) := by
      have hseen := htruthful ctx h a w observed hfetched
      rw [Upkeep.seen, hs] at hseen
      cases href : U.refusal ctx.poolSize with
      | some e =>
        rw [href] at hseen
        cases hseen
      | none =>
        rw [href] at hseen
        exact (Except.ok.inj hseen).symm
    subst hobserved
    let w₁ := fetched ctx kind a (U.items a (s.holding k)) w
    have hw₁ : memory w₁.server = memory w.server := hfetch
    rw [(onInstance_of_fetch_ok hfetched).2]
    show ∃ d n, _ ∧
      memory ((carryOut ctx kind (U.planFor kind a (s.holding k))).after w₁).server = _
    by_cases hempty : (U.planFor kind a (s.holding k)).isEmpty = true
    · rw [(carryOut_of_isEmpty hempty).2]
      exact ⟨s.holding k, 0, .refl ho, hw₁.trans hsame⟩
    · cases hdry : ctx.dryRun with
      | true =>
        obtain ⟨-, es, hafter⟩ := @carryOut_of_dryRun σ α _ ctx kind w₁ _ hdry
        rw [hafter]
        exact ⟨s.holding k, 0, .refl ho, hw₁.trans hsame⟩
      | false =>
        rw [(carryOut_of_live hdry hempty).2, ← hw₁]
        exact exists_execute h hU hdivisible (hw₁ ▸ hs) (hw₁ ▸ hw) ho ho.nodup_steps
          fun step => ho.mem_steps_iff.1

/-! ## The other instances -/

theorem bears_memory {β : Type} {f : Memory → β} {b : String} (h : ctx.server.Unreliable memory)
    (hU : U.Serves kind)
    (hchange : ∀ m : Mutation, m.kind = k →
      Keeps (Fixes fun w => f w.server) (Session.change Memory.server b m)) :
    Bears (Fixes fun w : World σ => f (memory w.server)) ctx kind b where
  asks := hU.asks
  reading := h.reading_memory f b
  change _ step _ m hm := h.fixes_change (hchange m (hU.kind_mutations step.1 step.2 m hm))

/-- A pass leaves every instance that is not configured. -/
theorem untouched_perform (h : ctx.server.Unreliable memory) (hU : U.Serves kind) {b : String}
    (hb : b ∉ w.registry.configured) :
    (memory ((perform ctx kind).after w).server).instances.get? b =
      (memory w.server).instances.get? b := by
  have hothers : ∀ c ∈ w.registry.valid,
      Bears (Fixes fun w : World σ => (memory w.server).instances.get? b) ctx kind c := by
    intro c hc
    have hne : b ≠ c := fun he => hb (he ▸ (Registry.mem_valid_iff.1 hc).1)
    exact bears_memory (f := fun m => m.instances.get? b) h hU fun m _ => Memory.fixes_other hne m
  rw [after_perform]
  exact keeps_overInstances (fun _ _ => rfl) (fun _ _ => rfl) hothers (opened kind w)

end Concord.Pass
