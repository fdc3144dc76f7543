/-
  The kinds of a document as one family, and runs as passes over it.

  * `Config.kind`: the kind of each name, over the items of the document.
  * `Run.pass_eq`: the pass of a name is the pass of its kind.
  * `Run.keeps_passes`, `Run.keeps_perform`: frame conditions of runs.
-/
import Concord.Proofs.Config.Accepted
import Concord.Proofs.Kind.Family
import Concord.Proofs.Pass.Effect

namespace Concord

open Session

/-! ## The kinds of a document -/

namespace Config

/-- The items that a document wants of a kind. -/
def items (c : Config) : (k : KindName) → List k.Object
  | .audit => c.audits.map Backend.ofSpec
  | .engine => c.engines.map Backend.ofSpec
  | .policy => c.policies.map Policy.ofSpec

/-- The kind of a name in a document. -/
def kind (c : Config) : (k : KindName) → Kind k.Object
  | .audit => c.auditKind
  | .engine => c.engineKind
  | .policy => c.policyKind

theorem kind_eq (c : Config) (k : KindName) : c.kind k = k.toKind (c.items k) := by
  cases k <;> rfl

theorem serves (c : Config) (k : KindName) : k.upkeep.Serves (c.kind k) :=
  c.kind_eq k ▸ k.serves (c.items k)

end Config

namespace Run

variable {σ : Type} {ctx : Context σ} {c : Config} {R : World σ → World σ → Prop}

theorem pass_eq (ctx : Context σ) (c : Config) (k : KindName) :
    pass ctx c k = Pass.perform ctx (c.kind k) := by
  cases k <;> rfl

/-! ## Frame conditions -/

section

variable [IsPreorder (World σ) R] (hrecord : ∀ es, Keeps R (Session.record es))
  (hmark : ∀ b, Keeps R (markInvalid b))

include hrecord hmark

/-- A relation is kept by passes if it is by the passes on each instance. -/
theorem keeps_passes_of_onInstance :
    ∀ {kinds : List KindName}, (∀ k ∈ kinds, ∀ a, Keeps R (Pass.onInstance ctx (c.kind k) a)) →
      Keeps R (passes ctx c kinds)
  | [], _ => .pure _
  | k :: kinds, h => by
    refine (hrecord _).bind fun _ => ?_
    rw [pass_eq]
    refine (Pass.keeps_perform_of_onInstance hrecord hmark (h k List.mem_cons_self)).bind
      fun _ => ?_
    have hrest := keeps_passes_of_onInstance fun k' hk' => h k' (List.mem_cons_of_mem k hk')
    exact hrest.bind fun _ => .pure _

theorem keeps_passes {kinds : List KindName}
    (h : ∀ k ∈ kinds, ∀ a, Pass.Bears R ctx (c.kind k) a) : Keeps R (passes ctx c kinds) :=
  keeps_passes_of_onInstance hrecord hmark fun k hk a => Pass.keeps_onInstance (h k hk a)

theorem keeps_perform_of_onInstance (hreset : Keeps R resetRegistry) {kinds : List KindName}
    (h : ∀ k ∈ kinds, ∀ a, Keeps R (Pass.onInstance ctx (c.kind k) a)) (stamp : RunStamp) :
    Keeps R (perform ctx c kinds stamp) := by
  refine hreset.bind fun _ => Pass.keeps_get.bind fun _ => (hrecord _).bind fun _ => ?_
  refine (keeps_passes_of_onInstance hrecord hmark h).bind fun _ => Pass.keeps_get.bind fun _ => ?_
  exact (hrecord _).bind fun _ => .pure _

theorem keeps_perform (hreset : Keeps R resetRegistry) {kinds : List KindName}
    (h : ∀ k ∈ kinds, ∀ a, Pass.Bears R ctx (c.kind k) a) (stamp : RunStamp) :
    Keeps R (perform ctx c kinds stamp) :=
  keeps_perform_of_onInstance hrecord hmark hreset
    (fun k hk a => Pass.keeps_onInstance (h k hk a)) stamp

end

/-! ## One pass after another -/

/-- The world in which the passes of a run begin. -/
def opened (kinds : List KindName) (w : World σ) : World σ :=
  (Session.record [⟨.info, "Starting reconciliation",
    [("instances", .count w.registry.configured.length), ("kinds", .count kinds.length)]⟩]).after
    (resetRegistry.after w)

theorem result_perform (kinds : List KindName) (stamp : RunStamp) (w : World σ) :
    (perform ctx c kinds stamp).result w =
      { stamp := stamp
        dryRun := ctx.dryRun
        kinds := (passes ctx c kinds).result (opened kinds w)
        instances := w.registry.configured
        invalid := ((passes ctx c kinds).after (opened kinds w)).registry.invalid } := rfl

theorem server_perform (kinds : List KindName) (stamp : RunStamp) (w : World σ) :
    ((perform ctx c kinds stamp).after w).server =
      ((passes ctx c kinds).after (opened kinds w)).server := rfl

theorem registry_perform (kinds : List KindName) (stamp : RunStamp) (w : World σ) :
    ((perform ctx c kinds stamp).after w).registry =
      ((passes ctx c kinds).after (opened kinds w)).registry := rfl

/-- The world in which the pass of a kind begins. -/
def announced (k : KindName) (w : World σ) : World σ :=
  (Session.record [⟨.info, "Reconciling", [("kind", .text k.label)]⟩]).after w

/-- The world after the pass of a kind. -/
abbrev passed (ctx : Context σ) (c : Config) (k : KindName) (w : World σ) : World σ :=
  (Pass.perform ctx (c.kind k)).after (announced k w)

theorem configured_passed (ctx : Context σ) (c : Config) (k : KindName) (w : World σ) :
    (passed ctx c k w).registry.configured = w.registry.configured :=
  Pass.configured_perform (c.serves k).asks (announced k w)

/-- A pass is not seen by the other kinds. -/
theorem view_passed {ctx : Context Memory} (hc : ctx.server = Memory.server) {k k' : KindName}
    (hk : k' ≠ k) (w : World Memory) (a : String) :
    ((passed ctx c k w).server.visit a).map (InstanceState.holding k') =
      (w.server.visit a).map (InstanceState.holding k') :=
  Pass.view_perform (c.serves k) hc hk (announced k w) a

theorem readOnly_passed {ctx : Context Memory} (hc : ctx.server = Memory.server) (k : KindName)
    (w : World Memory) : (passed ctx c k w).server.readOnly = w.server.readOnly :=
  Pass.readOnly_perform (c.serves k) hc (announced k w)

theorem result_passes_cons (k : KindName) (kinds : List KindName) (w : World σ) :
    (passes ctx c (k :: kinds)).result w =
      (Pass.perform ctx (c.kind k)).result (announced k w) ::
        (passes ctx c kinds).result (passed ctx c k w) := by
  rw [passed, ← pass_eq]
  rfl

theorem after_passes_cons (k : KindName) (kinds : List KindName) (w : World σ) :
    (passes ctx c (k :: kinds)).after w =
      (passes ctx c kinds).after (passed ctx c k w) := by
  rw [passed, ← pass_eq]
  rfl

/-- Every outcome of the passes is that of a turn, on the way from the start to
    the end. -/
theorem turns_passes {R : World σ → World σ → Prop} [IsPreorder (World σ) R]
    (hrecord : ∀ es, Keeps R (Session.record es)) (hmark : ∀ b, Keeps R (markInvalid b))
    (h : ∀ k a, Pass.Bears R ctx (c.kind k) a) (kinds : List KindName) (w : World σ) :
    List.Forall₂ (fun k r => ∀ o ∈ r.outcomes, ∃ w', R w w' ∧
        R w' ((passes ctx c kinds).after w) ∧
        o = (Pass.onInstance ctx (c.kind k) o.address).result w')
      kinds ((passes ctx c kinds).result w) := by
  induction kinds generalizing w with
  | nil => exact .nil
  | cons k kinds ih =>
    have hannounced : R w (announced k w) := hrecord _ w
    have hpassed : R (announced k w) (passed ctx c k w) :=
      Pass.keeps_perform hrecord hmark (h k) (announced k w)
    rw [result_passes_cons, after_passes_cons]
    refine .cons (fun o ho => ?_) ((ih (passed ctx c k w)).imp fun _ _ hr o ho => ?_)
    · obtain ⟨w', hbefore, hafter, heq⟩ := Pass.world_of_mem_perform hrecord hmark (h k) ho
      have hrest : R (passed ctx c k w) ((passes ctx c kinds).after (passed ctx c k w)) :=
        keeps_passes hrecord hmark (fun k _ => h k) _
      exact ⟨w', trans_of R hannounced hbefore, trans_of R hafter hrest, heq⟩
    · obtain ⟨w', hbefore, hafter, heq⟩ := hr o ho
      exact ⟨w', trans_of R (trans_of R hannounced hpassed) hbefore, hafter, heq⟩

theorem configured_passes (kinds : List KindName) (w : World σ) :
    ((passes ctx c kinds).after w).registry.configured = w.registry.configured := by
  induction kinds generalizing w with
  | nil => rfl
  | cons k kinds ih =>
    rw [after_passes_cons, ih, configured_passed]

/-- Who is valid after passes: those for whom none of them failed. -/
theorem isValid_passes (kinds : List KindName) (w : World σ) (a : String) :
    ((passes ctx c kinds).after w).registry.isValid a = true ↔
      w.registry.isValid a = true ∧ ∀ r ∈ (passes ctx c kinds).result w,
        ∀ o ∈ r.outcomes, o.address = a → o.error = none := by
  induction kinds generalizing w with
  | nil => simp [passes]
  | cons k kinds ih =>
    rw [after_passes_cons, result_passes_cons, ih, List.forall_mem_cons, ← and_assoc]
    refine and_congr_left fun _ => ?_
    exact Pass.isValid_perform (c.serves k).asks (announced k w) a

/-- A document that wants one secrets engine on one instance. -/
def engineDocument (type : String) : Config :=
  ⟨[⟨"http://a", "TOKEN"⟩], [], [⟨"kv/", type, "", "http://a", Dict.empty⟩], []⟩

end Run

end Concord
