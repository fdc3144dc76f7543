/-
  What no run removes: the policies and the mounts that come with every
  instance.

  A plan leaves protected items out, and the key that is tested is the key that
  is sent, so no deletion is ever issued under a protected key, whatever a
  server answers.  An instance in memory deletes what it is told to and nothing
  else; what it keeps under a protected key stays there.

  * `Mutation.Spares`, `Config.spares_of_admits`: the mutations of steps.
  * `InstanceState.Retains`: what stays on an instance in memory.
  * `Job.builtins_never_removed`: any number of runs.
-/
import Concord.Proofs.Run.Kinds

namespace Concord

open Session

/-! ## Mutations -/

/-- A mutation that deletes nothing that comes with every instance. -/
def Mutation.Spares : Mutation → Prop
  | deletePolicy name => isBuiltinPolicy name = false
  | disableEngine path => isBuiltinMount path = false
  | _ => True

/-- A call that deletes nothing that comes with every instance. -/
def Call.Spares (c : Call) : Prop := ∀ m, c.operation = .mutation m → m.Spares

/-- No step of a plan deletes what comes with every instance. -/
theorem Config.spares_of_admits (c : Config) (k : KindName) {step : Action × k.Object}
    (h : (c.kind k).Admits step) {m : Mutation}
    (hm : m ∈ (c.kind k).mutations step.1 step.2) : m.Spares := by
  obtain ⟨action, x⟩ := step
  cases k with
  | audit =>
    have hk : m.kind = .audit := (c.serves .audit).kind_mutations action x m hm
    cases m <;> trivial
  | engine =>
    cases action with
    | create | update =>
      obtain rfl := List.mem_singleton.1 hm
      trivial
    | delete =>
      obtain rfl := List.mem_singleton.1 hm
      have hp := h rfl
      exact (isProtected_secretsEngines _ x).symm.trans hp
  | policy =>
    cases action with
    | create | update =>
      obtain rfl := List.mem_singleton.1 hm
      trivial
    | delete =>
      obtain rfl := List.mem_singleton.1 hm
      exact h rfl

/-! ## Instances in memory -/

/-- Whatever comes with every instance and was there is still there. -/
structure InstanceState.Retains (s s' : InstanceState) : Prop where
  policies : ∀ name, isBuiltinPolicy name = true → s.policies.contains name = true →
    s'.policies.contains name = true
  mounts : ∀ path, isBuiltinMount path = true → s.mounts.contains path = true →
    s'.mounts.contains path = true

namespace InstanceState

theorem Retains.refl (s : InstanceState) : s.Retains s :=
  ⟨fun _ _ h => h, fun _ _ h => h⟩

theorem Retains.trans {s s' s'' : InstanceState} (h : s.Retains s') (h' : s'.Retains s'') :
    s.Retains s'' :=
  ⟨fun name hb hc => h'.policies name hb (h.policies name hb hc),
    fun path hb hc => h'.mounts path hb (h.mounts path hb hc)⟩

/-- A mutation that spares what comes with an instance leaves it there. -/
theorem retains_perform {s s' : InstanceState} {m : Mutation} (hm : m.Spares)
    (h : s.perform m = .ok s') : s.Retains s' := by
  cases m with
  | writePolicy name rules =>
    cases h
    exact ⟨fun _ _ hc => Dict.contains_insert _ hc, fun _ _ hc => hc⟩
  | deletePolicy name =>
    simp only [perform] at h
    split at h <;> cases h
    refine ⟨fun name' hb hc => Dict.contains_erase ?_ hc, fun _ _ hc => hc⟩
    rintro rfl
    exact absurd (hb.symm.trans hm) (by decide)
  | enableEngine path settings =>
    simp only [perform] at h
    split at h <;> cases h
    exact ⟨fun _ _ hc => hc, fun _ _ hc => Dict.contains_insert _ hc⟩
  | tuneEngine path settings =>
    simp only [perform] at h
    split at h <;> cases h
    exact ⟨fun _ _ hc => hc, fun _ _ hc => Dict.contains_insert _ hc⟩
  | disableEngine path =>
    cases h
    refine ⟨fun _ _ hc => hc, fun path' hb hc => Dict.contains_erase ?_ hc⟩
    rintro rfl
    exact absurd (hb.symm.trans hm) (by decide)
  | enableAudit path settings =>
    simp only [perform] at h
    split at h <;> cases h
    exact ⟨fun _ _ hc => hc, fun _ _ hc => hc⟩
  | disableAudit path =>
    cases h
    exact ⟨fun _ _ hc => hc, fun _ _ hc => hc⟩

end InstanceState

/-- Every instance retains what comes with it. -/
def Memory.Retains (m m' : Memory) : Prop :=
  ∀ a s, m.instances.get? a = some s →
    ∃ s', m'.instances.get? a = some s' ∧ s.Retains s'

theorem Memory.Retains.refl (m : Memory) : m.Retains m := fun _ s h => ⟨s, h, .refl s⟩

/-- Every instance of a world retains what comes with it. -/
def World.Retains (w w' : World Memory) : Prop := w.server.Retains w'.server

instance : IsPreorder (World Memory) World.Retains where
  refl w := .refl w.server
  trans _ _ _ h h' a s hs := by
    obtain ⟨s', hs', hretains⟩ := h a s hs
    obtain ⟨s'', hs'', hretains'⟩ := h' a s' hs'
    exact ⟨s'', hs'', hretains.trans hretains'⟩

theorem Memory.keeps_retains {m : Mutation} (hm : m.Spares) (b : String) :
    Keeps World.Retains (Session.change Memory.server b m) := by
  intro w a s hs
  show ∃ s', (Memory.server.change b m w.server).2.instances.get? a = some s' ∧ _
  rcases Memory.server_change_cases w.server b m with hsame | ⟨t, t', ht, hperform, hput⟩
  · rw [hsame]
    exact ⟨s, hs, .refl s⟩
  · rw [hput, Memory.put, Dict.get?_insert]
    by_cases hab : a = b
    · subst hab
      obtain rfl : s = t := Option.some.inj (hs.symm.trans (Memory.visit_eq_ok_iff.1 ht).2)
      exact ⟨t', if_pos rfl, InstanceState.retains_perform hm hperform⟩
    · exact ⟨s, (if_neg hab).trans hs, .refl s⟩

/-! ## Any number of runs -/

/-- A run with all that it does not find on the server. -/
structure Job where
  dryRun : Bool
  poolSize : Nat
  schedule : List Move
  config : Config
  registry : Registry
  kinds : List KindName
  stamp : RunStamp

namespace Job

variable {σ : Type}

/-- The context of a run on a server. -/
def context (server : Server σ) (j : Job) : Context σ := ⟨server, j.dryRun, j.poolSize, j.schedule⟩

/-- A run, with its own registry. -/
def perform (server : Server σ) (j : Job) : Session σ RunReport := do
  modify fun w => { w with registry := j.registry }
  Run.perform (j.context server) j.config j.kinds j.stamp

/-- Runs, one after the other. -/
def performAll (server : Server σ) (jobs : List Job) : Session σ (List RunReport) :=
  jobs.mapM (perform server)

theorem keeps_performAll {R : World σ → World σ → Prop} [IsPreorder (World σ) R]
    {server : Server σ} (hrecord : ∀ es, Keeps R (Session.record es))
    (hmark : ∀ b, Keeps R (markInvalid b)) (hreset : Keeps R resetRegistry)
    (hregistry : ∀ r, Keeps R (modify fun w => { w with registry := r }))
    (hask : ∀ a q, Keeps R (Session.ask server a q))
    (hchange : ∀ a m, m.Spares → Keeps R (Session.change server a m)) (jobs : List Job) :
    Keeps R (performAll server jobs) := by
  refine Keeps.mapM fun j _ => (hregistry j.registry).bind fun _ => ?_
  refine Run.keeps_perform hrecord hmark hreset (fun k _ a => ?_) j.stamp
  exact
    { asks := (j.config.serves k).asks
      reading := ⟨hrecord, hask a⟩
      change := fun _ step hstep m hm => hchange a m (j.config.spares_of_admits k hstep hm) }

/-- **What comes with every instance is never removed**, by any number of runs:
    its deletion is never issued, whatever the server answers, and an instance
    in memory still has of it what it had. -/
theorem builtins_never_removed (jobs : List Job) :
    (∀ {σ : Type} (server : Server σ) (w : World σ),
      Issues Call.Spares w ((performAll server jobs).after w)) ∧
    ∀ w : World Memory, w.server.Retains ((performAll Memory.server jobs).after w).server := by
  constructor
  · intro σ server w
    refine keeps_performAll (fun _ _ => issues_of_calls_eq rfl) (fun _ _ => issues_of_calls_eq rfl)
      (fun _ => issues_of_calls_eq rfl) (fun _ _ => issues_of_calls_eq rfl) (fun a q w => ?_)
      (fun a m hm w => ?_) jobs w
    · refine issues_of_calls_append rfl fun m h => ?_
      cases h
    · refine issues_of_calls_append rfl fun m' h => ?_
      cases h
      exact hm
  · intro w
    have hsame : ∀ w : World Memory, w.server.Retains w.server := fun w => .refl w.server
    have hask : ∀ a q, Keeps World.Retains (Session.ask Memory.server a q) := fun _ _ => hsame
    exact keeps_performAll (R := World.Retains) (fun _ => hsame) (fun _ => hsame) hsame
      (fun _ => hsame) hask (fun a m hm => Memory.keeps_retains hm a) jobs w

end Job

end Concord
