/-
  When a live run succeeds on instances in memory, and what it then does.

  A run succeeds where every instance is ready for every kind, and leaves of
  each kind what its plan leaves.  A pass of one kind takes no other kind's
  readiness away and changes nothing of what is to be done there, so what a run
  does is known from the state at its start.

  * `success_iff`: a run succeeds if no instance is taken out of it.
  * `ready_of_passes`: what a successful run says of the state before it.
  * `perform_of_ready`: a run over instances that are ready for it.
-/
import Concord.Proofs.Pass.Readiness
import Concord.Proofs.Run.Kinds

namespace Concord.Run

open Session

variable {c : Config} {ctx : Context Memory} {w : World Memory} {kinds : List KindName}

/-! ## Runs that succeed -/

/-- An instance that is ready for a kind of a document. -/
def Ready (ctx : Context Memory) (c : Config) (k : KindName) (m : Memory) (a : String) : Prop :=
  Pass.Ready k.upkeep (c.kind k) ctx.poolSize m a

/-- Instances that can be reached and changed are ready where plans are
    orderly. -/
theorem ready_of_orderly (hpool : 1 ≤ ctx.poolSize ∧ ctx.poolSize ≤ Pool.maxSize) {m : Memory}
    {a : String} {s : InstanceState} (hs : m.visit a = .ok s)
    (hwrite : m.readOnly.contains a = false) {k : KindName}
    (ho : k.upkeep.Orderly (c.kind k) a (s.holding k)) : Ready ctx c k m a := by
  have hheld : m.held k a = s.holding k := Memory.held_of_visit hs
  refine ⟨?_, KindName.refusal_eq_none hpool k, ?_, Or.inl hwrite⟩
  · rw [hs, hheld]
    rfl
  · rw [hheld]
    exact ho

/-- The objects of a kind after all steps of their plan. -/
def settled (c : Config) (k : KindName) (m : Memory) (a : String) : Dict k.Record :=
  k.upkeep.settled (c.kind k) a (m.held k a)

/-- Nothing is seen of the passes of other kinds. -/
theorem view_passes (hc : ctx.server = Memory.server) {k : KindName} (hk : k ∉ kinds)
    (w : World Memory) (a : String) :
    (((passes ctx c kinds).after w).server.visit a).map (InstanceState.holding k) =
      (w.server.visit a).map (InstanceState.holding k) := by
  induction kinds generalizing w with
  | nil => rfl
  | cons k' kinds ih =>
    obtain ⟨hne, hrest⟩ := not_or.1 (List.mem_cons.not.1 hk)
    rw [after_passes_cons, ih hrest, view_passed hc hne]

theorem readOnly_passes (hc : ctx.server = Memory.server) (kinds : List KindName)
    (w : World Memory) :
    ((passes ctx c kinds).after w).server.readOnly = w.server.readOnly := by
  have hbears : ∀ k ∈ kinds, ∀ b,
      Pass.Bears (Fixes fun w => w.server.readOnly) ctx (c.kind k) b := fun k _ b =>
    Pass.bears_fixes (f := Memory.readOnly) (c.serves k) hc fun m _ => Memory.fixes_readOnly b m
  exact keeps_passes (fun _ _ => rfl) (fun _ _ => rfl) hbears w

/-- A run succeeds if no instance is taken out of it. -/
theorem success_iff (kinds : List KindName) (stamp : RunStamp) (w : World Memory) :
    ((perform ctx c kinds stamp).result w).success = true ↔
      ∀ a ∈ w.registry.configured,
        ((passes ctx c kinds).after (opened kinds w)).registry.isValid a = true := by
  rw [RunReport.success, result_perform, List.isEmpty_iff, Registry.invalid_eq_nil_iff,
    configured_passes]
  rfl

/-- **What a successful run says**: its instances were ready for every kind, and
    have of it what the plans leave. -/
theorem ready_of_passes (hc : ctx.server = Memory.server) (hlive : ctx.dryRun = false)
    (hkinds : kinds.Nodup) {a : String} (ha : a ∈ w.registry.configured)
    (ho : ∀ k ∈ kinds, ∀ d, (w.server.visit a).map (InstanceState.holding k) = .ok d →
      k.upkeep.Orderly (c.kind k) a d)
    (h : ((passes ctx c kinds).after w).registry.isValid a = true) :
    ∀ k ∈ kinds, Ready ctx c k w.server a ∧
      (((passes ctx c kinds).after w).server.visit a).map (InstanceState.holding k) =
        .ok (settled c k w.server a) := by
  induction kinds generalizing w with
  | nil => simp
  | cons k kinds ih =>
    obtain ⟨hk, hkinds⟩ := List.nodup_cons.1 hkinds
    rw [after_passes_cons] at h ⊢
    have hafter := ((isValid_passes kinds _ a).1 h).1
    have hv := ((Pass.isValid_perform (c.serves k).asks (announced k w) a).1 hafter).1
    have hvalid : a ∈ (announced k w).registry.valid := Registry.mem_valid_iff.2 ⟨ha, hv⟩
    have hready : Ready ctx c k w.server a :=
      Pass.ready_of_valid (w := announced k w) (c.serves k) hc hlive hvalid
        (fun s hs => ho k List.mem_cons_self _ (congrArg (Except.map _) hs)) hafter
    have hview : ∀ k' ∈ kinds, ((passed ctx c k w).server.visit a).map (InstanceState.holding k') =
        (w.server.visit a).map (InstanceState.holding k') := by
      intro k' hk'
      have hne : k' ≠ k := fun he => hk (he ▸ hk')
      exact view_passed hc hne w a
    have hro : (passed ctx c k w).server.readOnly = w.server.readOnly := readOnly_passed hc k w
    rw [List.forall_mem_cons]
    refine ⟨⟨hready, ?_⟩, fun k' hk' => ?_⟩
    · rw [view_passes hc hk]
      exact Pass.Ready.view_perform (w := announced k w) (c.serves k) hc hlive hvalid hready
    · have ha' : a ∈ (passed ctx c k w).registry.configured := by
        rw [configured_passed]
        exact ha
      obtain ⟨hready', hsettled⟩ := ih hkinds ha'
        (fun k'' hk'' d hd =>
          ho k'' (List.mem_cons_of_mem k hk'') d ((hview k'' hk'').symm.trans hd))
        h k' hk'
      obtain ⟨hback, hheld⟩ := hready'.congr (hview k' hk').symm hro.symm
      refine ⟨hback, hsettled.trans ?_⟩
      rw [settled, settled, hheld]

/-! ## Runs over instances that are ready -/

/-- Instances that are ready for every kind of a run, and all valid. -/
structure AllReady (ctx : Context Memory) (c : Config) (kinds : List KindName)
    (w : World Memory) : Prop where
  valid : ∀ a ∈ w.registry.configured, w.registry.isValid a = true
  ready : ∀ k ∈ kinds, ∀ a ∈ w.registry.configured, Ready ctx c k w.server a

/-- Every instance is valid when a run begins. -/
theorem allReady_opened (h : ∀ k, ∀ a ∈ w.registry.configured, Ready ctx c k w.server a) :
    AllReady ctx c kinds (opened kinds w) :=
  ⟨fun _ _ => rfl, fun k _ => h k⟩

/-- What is to be done of a kind on an instance. -/
def stepsOf (c : Config) (k : KindName) (m : Memory) (a : String) : List (Action × k.Object) :=
  (k.upkeep.planFor (c.kind k) a (m.held k a)).steps

/-- After a pass the instances are ready for the other kinds, for which the
    same is to be done as before. -/
theorem AllReady.tail {k : KindName} (hc : ctx.server = Memory.server)
    (hlive : ctx.dryRun = false) (hk : k ∉ kinds) (hn : w.registry.configured.Nodup)
    (h : AllReady ctx c (k :: kinds) w) :
    AllReady ctx c kinds (passed ctx c k w) ∧
      ∀ k' ∈ kinds, ∀ a ∈ w.registry.configured,
        stepsOf c k' (passed ctx c k w).server a = stepsOf c k' w.server a := by
  have hpass := Pass.perform_of_ready (w := announced k w) (c.serves k) hc hlive hn
    fun a ha => h.ready k List.mem_cons_self a (Registry.mem_valid_iff.1 ha).1
  have hother : ∀ k' ∈ kinds, ∀ a ∈ w.registry.configured,
      Ready ctx c k' (passed ctx c k w).server a ∧
        (passed ctx c k w).server.held k' a = w.server.held k' a := fun k' hk' a ha =>
    (h.ready k' (List.mem_cons_of_mem k hk') a ha).perform_of_ne (w := announced k w)
      (c.serves k) hc fun he => hk (he ▸ hk')
  refine ⟨⟨fun a ha => ?_, fun k' hk' a ha => ?_⟩, fun k' hk' a ha => ?_⟩
  · rw [configured_passed] at ha
    exact hpass.1 a (h.valid a ha)
  · rw [configured_passed] at ha
    exact (hother k' hk' a ha).1
  · rw [stepsOf, stepsOf, (hother k' hk' a ha).2]

/-- **A run over instances that are ready** leaves all of them valid, and has
    changes where plans have steps. -/
theorem passes_of_ready (hc : ctx.server = Memory.server) (hlive : ctx.dryRun = false)
    (hkinds : kinds.Nodup) (hn : w.registry.configured.Nodup) (h : AllReady ctx c kinds w) :
    (∀ a ∈ w.registry.configured,
        ((passes ctx c kinds).after w).registry.isValid a = true) ∧
      ((∀ r ∈ (passes ctx c kinds).result w, ∀ o ∈ r.outcomes, o.changes = []) ↔
        ∀ k ∈ kinds, ∀ a ∈ w.registry.configured, stepsOf c k w.server a = []) := by
  induction kinds generalizing w with
  | nil => exact ⟨h.valid, by simp [passes]⟩
  | cons k kinds ih =>
    obtain ⟨hk, hkinds⟩ := List.nodup_cons.1 hkinds
    have hconfigured : (passed ctx c k w).registry.configured = w.registry.configured :=
      configured_passed ctx c k w
    have hpass := Pass.perform_of_ready (w := announced k w) (c.serves k) hc hlive hn
      fun a ha => h.ready k List.mem_cons_self a (Registry.mem_valid_iff.1 ha).1
    have hvalid : (announced k w).registry.valid = w.registry.configured :=
      List.filter_eq_self.2 h.valid
    obtain ⟨htail, hsame⟩ := h.tail hc hlive hk hn
    obtain ⟨hafter, hchanges⟩ := ih hkinds (hconfigured.symm ▸ hn) htail
    rw [hconfigured] at hafter hchanges
    rw [after_passes_cons, result_passes_cons, List.forall_mem_cons, List.forall_mem_cons, hchanges,
      hpass.2, hvalid]
    refine ⟨hafter, and_congr_right fun _ => ?_⟩
    exact forall₂_congr fun k' hk' => forall₂_congr fun a ha => by rw [hsame k' hk' a ha]

/-- A run over instances on which nothing is to be done issues no mutation. -/
theorem quiet_passes (hc : ctx.server = Memory.server) (hlive : ctx.dryRun = false)
    (hkinds : kinds.Nodup) (hn : w.registry.configured.Nodup) (h : AllReady ctx c kinds w)
    (hnil : ∀ k ∈ kinds, ∀ a ∈ w.registry.configured, stepsOf c k w.server a = []) :
    w.Quiet ((passes ctx c kinds).after w) := by
  induction kinds generalizing w with
  | nil => exact refl_of World.Quiet w
  | cons k kinds ih =>
    obtain ⟨hk, hkinds⟩ := List.nodup_cons.1 hkinds
    have hconfigured : (passed ctx c k w).registry.configured = w.registry.configured :=
      configured_passed ctx c k w
    obtain ⟨htail, hsame⟩ := h.tail hc hlive hk hn
    rw [after_passes_cons]
    have hannounced : w.Quiet (announced k w) := Pass.quiet_record _ w
    refine trans_of World.Quiet hannounced ?_
    refine trans_of World.Quiet (Pass.quiet_perform (w := announced k w) (c.serves k) hc ?_) ?_
    · intro a ha
      have ha' := (Registry.mem_valid_iff.1 ha).1
      exact ⟨h.ready k List.mem_cons_self a ha', hnil k List.mem_cons_self a ha'⟩
    · refine ih hkinds (hconfigured.symm ▸ hn) htail fun k' hk' a ha => ?_
      rw [hconfigured] at ha
      rw [hsame k' hk' a ha]
      exact hnil k' (List.mem_cons_of_mem k hk') a ha

theorem tallied_passes (hc : ctx.server = Memory.server) (kinds : List KindName) :
    Keeps World.Tallied (passes ctx c kinds) :=
  keeps_passes World.tallied_record World.tallied_markInvalid
    fun k _ => Pass.bears_tallied (c.serves k) hc

/-- Any other run counts one mutation at least. -/
theorem lt_passes (hc : ctx.server = Memory.server) (hlive : ctx.dryRun = false)
    (hkinds : kinds.Nodup) (hn : w.registry.configured.Nodup) (h : AllReady ctx c kinds w)
    {k : KindName} (hk : k ∈ kinds) {a : String} (ha : a ∈ w.registry.configured)
    (hsteps : stepsOf c k w.server a ≠ []) :
    w.server.mutations < ((passes ctx c kinds).after w).server.mutations := by
  induction kinds generalizing w with
  | nil => cases hk
  | cons k₁ kinds ih =>
    obtain ⟨hk₁, hkinds⟩ := List.nodup_cons.1 hkinds
    rw [after_passes_cons]
    by_cases hfirst : k = k₁
    · subst hfirst
      obtain ⟨-, -, hle, -⟩ := tallied_passes (c := c) hc kinds (passed ctx c k w)
      refine Nat.lt_of_lt_of_le ?_ hle
      exact Pass.lt_perform (w := announced k w) (c.serves k) hc hlive
        (Registry.mem_valid_iff.2 ⟨ha, h.valid a ha⟩) (h.ready k List.mem_cons_self a ha) hsteps
    · have hk' := (List.mem_cons.1 hk).resolve_left hfirst
      have hconfigured : (passed ctx c k₁ w).registry.configured = w.registry.configured :=
        configured_passed ctx c k₁ w
      obtain ⟨htail, hsame⟩ := h.tail hc hlive hk₁ hn
      obtain ⟨-, -, hle, -⟩ := Pass.keeps_perform World.tallied_record World.tallied_markInvalid
        (Pass.bears_tallied (c.serves k₁) hc) (announced k₁ w)
      refine Nat.lt_of_le_of_lt hle (ih hkinds (hconfigured.symm ▸ hn) htail hk' ?_ ?_)
      · exact hconfigured.symm ▸ ha
      · rw [hsame k hk' a ha]
        exact hsteps

/-- Such a run succeeds; it plans nothing, and issues no mutation, exactly if no
    plan has steps. -/
theorem perform_of_ready (hc : ctx.server = Memory.server) (hlive : ctx.dryRun = false)
    (hkinds : kinds.Nodup) (hn : w.registry.configured.Nodup)
    (h : AllReady ctx c kinds (opened kinds w)) (stamp : RunStamp) :
    ((perform ctx c kinds stamp).result w).success = true ∧
      ((∀ o ∈ ((perform ctx c kinds stamp).result w).outcomes, o.changes = []) ↔
        ∀ k ∈ kinds, ∀ a ∈ w.registry.configured, stepsOf c k w.server a = []) ∧
      (Issues Call.Asks w ((perform ctx c kinds stamp).after w) ↔
        ∀ k ∈ kinds, ∀ a ∈ w.registry.configured, stepsOf c k w.server a = []) := by
  obtain ⟨hvalid, hchanges⟩ := passes_of_ready (w := opened kinds w) hc hlive hkinds hn h
  refine ⟨(success_iff kinds stamp w).2 hvalid, Iff.trans ?_ hchanges, fun hasks => ?_,
    fun hnil => ?_⟩
  · rw [result_perform, RunReport.outcomes, List.forall_mem_flatMap]
  · intro k hk a ha
    by_contra hsteps
    have hlt := lt_passes (w := opened kinds w) hc hlive hkinds hn h hk ha hsteps
    have heq := (tallied_passes hc kinds (opened kinds w)).mutations_eq hasks
    exact Nat.ne_of_lt hlt heq.symm
  · exact (quiet_passes (w := opened kinds w) hc hlive hkinds hn h hnil).2

end Concord.Run
