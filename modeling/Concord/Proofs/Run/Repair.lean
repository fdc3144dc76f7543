/-
  A run after one in which calls have failed, on instances in memory.

  Whatever calls of a run fail, with or without effect, every instance is left
  with objects that come to the same as those it had before (`Advances`).  So a
  run of which all calls are answered leaves the instance as it would have left
  it at first.

  * `advances_perform`: a run behind calls that may fail.
  * `perform_of_fit`: a run of which all calls are answered.
  * `failed_run_repaired`: the one after the other.
-/
import Concord.Proofs.Pass.Convergence
import Concord.Proofs.Pass.Interruption
import Concord.Proofs.Run.Idempotence

namespace Concord

open Session

variable {σ : Type} {c : Config} {a : String}

theorem Config.divisible (c : Config) (k : KindName) : k.upkeep.Divisible (c.kind k) :=
  c.kind_eq k ▸ k.divisible (c.items k)

theorem Config.truthful (c : Config) (k : KindName) : k.upkeep.Truthful (c.kind k) :=
  c.kind_eq k ▸ k.truthful (c.items k)

namespace Run

/-! ## Runs that may fail -/

/-- An instance that can be reached and changed, and whose plans are orderly. -/
structure Fit (c : Config) (m : Memory) (a : String) (s : InstanceState) : Prop where
  visit : m.visit a = .ok s
  writable : m.readOnly.contains a = false
  orderly : ∀ k : KindName, k.upkeep.Orderly (c.kind k) a (s.holding k)

/-- An instance that was fit still is, and its objects come to the same. -/
def Advances (memory : σ → Memory) (c : Config) (a : String) (w w' : World σ) : Prop :=
  ∀ s, Fit c (memory w.server) a s → ∃ s', Fit c (memory w'.server) a s' ∧
    ∀ k : KindName, k.upkeep.OnWay (c.kind k) a (s.holding k) (s'.holding k)

theorem advances_of_eq {memory : σ → Memory} {w w' : World σ}
    (hvisit : (memory w'.server).visit a = (memory w.server).visit a)
    (hro : (memory w'.server).readOnly = (memory w.server).readOnly) :
    Advances memory c a w w' :=
  fun s hs => ⟨s, ⟨hvisit.trans hs.visit, hro ▸ hs.writable, hs.orderly⟩,
    fun k => .refl (hs.orderly k)⟩

instance (memory : σ → Memory) (c : Config) (a : String) :
    IsPreorder (World σ) (Advances memory c a) where
  refl _ := advances_of_eq rfl rfl
  trans := by
    intro w w' w'' h h' s hs
    obtain ⟨s', hs', hway⟩ := h s hs
    obtain ⟨s'', hs'', hway'⟩ := h' s' hs'
    exact ⟨s'', hs'', fun k => (hway k).trans (hway' k)⟩

variable {server : Server σ} {memory : σ → Memory} {ctx : Context σ}

theorem advances_onInstance (h : ctx.server.Unreliable memory) (c : Config) (k : KindName)
    (a b : String) : Keeps (Advances memory c a) (Pass.onInstance ctx (c.kind k) b) := by
  intro w
  by_cases hba : b = a
  · subst hba
    intro s hs
    obtain ⟨d, n, hway, hafter⟩ := Pass.exists_onInstance h (c.serves k) (c.divisible k)
      (c.truthful k) hs.visit hs.writable (hs.orderly k)
    have hways : ∀ k' : KindName,
        k'.upkeep.OnWay (c.kind k') b (s.holding k') ((s.withHolding k d).holding k') := by
      intro k'
      by_cases hk : k' = k
      · subst hk
        rw [InstanceState.holding_withHolding]
        exact hway
      · rw [InstanceState.holding_withHolding_of_ne hk]
        exact .refl (hs.orderly k')
    refine ⟨s.withHolding k d, ⟨?_, ?_, fun k' => (hways k').orderly⟩, hways⟩
    · rw [hafter]
      exact Memory.visit_put_self hs.visit n
    · rw [hafter, Memory.readOnly_put]
      exact hs.writable
  · have hother : Pass.Bears (Fixes fun w : World σ =>
        ((memory w.server).visit a, (memory w.server).readOnly)) ctx (c.kind k) b :=
      Pass.bears_memory (f := fun m => (m.visit a, m.readOnly)) h (c.serves k) fun m _ =>
        Memory.fixes_others (Ne.symm hba) m
    obtain ⟨hvisit, hro⟩ := Prod.ext_iff.1 (Pass.keeps_onInstance hother w)
    exact advances_of_eq hvisit hro

/-- **A run behind calls that may fail** leaves on every instance objects that
    come to the same as before. -/
theorem advances_perform (h : ctx.server.Unreliable memory) (c : Config) (kinds : List KindName)
    (stamp : RunStamp) (a : String) :
    Keeps (Advances memory c a) (perform ctx c kinds stamp) := by
  have hrecord : ∀ es, Keeps (Advances memory c a) (Session.record es : Session σ Unit) :=
    fun _ _ => advances_of_eq rfl rfl
  have hmark : ∀ b, Keeps (Advances memory c a) (markInvalid b : Session σ Unit) :=
    fun _ _ => advances_of_eq rfl rfl
  have hreset : Keeps (Advances memory c a) (resetRegistry : Session σ Unit) :=
    fun _ => advances_of_eq rfl rfl
  exact keeps_perform_of_onInstance hrecord hmark hreset
    (fun k _ b => advances_onInstance h c k a b) stamp

theorem untouched_passes (h : ctx.server.Unreliable memory) (c : Config) (kinds : List KindName)
    {w : World σ} (ha : a ∉ w.registry.configured) :
    (memory ((passes ctx c kinds).after w).server).instances.get? a =
      (memory w.server).instances.get? a := by
  induction kinds generalizing w with
  | nil => rfl
  | cons k kinds ih =>
    have ha' : a ∉ (passed ctx c k w).registry.configured := by
      rw [configured_passed]
      exact ha
    rw [after_passes_cons, ih ha']
    exact Pass.untouched_perform (w := announced k w) h (c.serves k) ha

/-- A run leaves every instance that is not configured. -/
theorem untouched_perform (h : ctx.server.Unreliable memory) (c : Config) (kinds : List KindName)
    (stamp : RunStamp) {w : World σ} (ha : a ∉ w.registry.configured) :
    (memory ((perform ctx c kinds stamp).after w).server).instances.get? a =
      (memory w.server).instances.get? a := by
  rw [server_perform]
  exact untouched_passes (w := opened kinds w) h c kinds ha

/-! ## Runs of which all calls are answered -/

theorem perform_of_fit {ctx : Context Memory} {w : World Memory} (hc : ctx.server = Memory.server)
    (hlive : ctx.dryRun = false) (hpool : 1 ≤ ctx.poolSize ∧ ctx.poolSize ≤ Pool.maxSize)
    (hn : w.registry.configured.Nodup)
    (hfit : ∀ a ∈ w.registry.configured, ∃ s, Fit c w.server a s) (stamp : RunStamp) :
    ((perform ctx c everyKind stamp).result w).success = true ∧
      ∀ a ∈ w.registry.configured, ∀ s, Fit c w.server a s →
        ∃ s', ((perform ctx c everyKind stamp).after w).server.visit a = .ok s' ∧
          ∀ k : KindName, s'.holding k = k.upkeep.settled (c.kind k) a (s.holding k) := by
  have hready : ∀ k, ∀ a ∈ w.registry.configured, Ready ctx c k w.server a := by
    intro k a ha
    obtain ⟨s, hs⟩ := hfit a ha
    exact ready_of_orderly hpool hs.visit hs.writable (hs.orderly k)
  have hsuccess := (perform_of_ready hc hlive nodup_everyKind hn (allReady_opened hready) stamp).1
  refine ⟨hsuccess, fun a ha s hs => ?_⟩
  have hvalid := (success_iff everyKind stamp w).1 hsuccess a ha
  have horderly : ∀ k ∈ everyKind, ∀ d,
      ((opened everyKind w).server.visit a).map (InstanceState.holding k) = .ok d →
        k.upkeep.Orderly (c.kind k) a d := by
    intro k _ d hd
    obtain ⟨s', hs', rfl⟩ := Memory.exists_visit_of_map hd
    obtain rfl := Except.ok.inj (hs.visit.symm.trans hs')
    exact hs.orderly k
  have hview : ∀ k : KindName,
      (((perform ctx c everyKind stamp).after w).server.visit a).map (InstanceState.holding k) =
        .ok (k.upkeep.settled (c.kind k) a (s.holding k)) := by
    intro k
    have hsettled := (ready_of_passes (w := opened everyKind w) hc hlive nodup_everyKind ha horderly
      hvalid k (mem_everyKind k)).2
    rw [server_perform, hsettled, settled]
    exact congrArg (fun d => Except.ok (k.upkeep.settled (c.kind k) a d))
      (Memory.held_of_visit hs.visit)
  obtain ⟨s', hs', -⟩ := Memory.exists_visit_of_map (hview .audit)
  refine ⟨s', hs', fun k => ?_⟩
  have hk := hview k
  rw [hs'] at hk
  exact Except.ok.inj hk

/-- Two such runs, of which the second begins where the objects of configured
    instances come to the same: they leave the same instances. -/
theorem perform_of_onWay {ctx ctx' : Context Memory} {w w' : World Memory}
    (hc : ctx.server = Memory.server) (hc' : ctx'.server = Memory.server)
    (hlive : ctx.dryRun = false) (hlive' : ctx'.dryRun = false)
    (hpool : 1 ≤ ctx.poolSize ∧ ctx.poolSize ≤ Pool.maxSize)
    (hpool' : 1 ≤ ctx'.poolSize ∧ ctx'.poolSize ≤ Pool.maxSize)
    (hn : w.registry.configured.Nodup)
    (hconfigured : w'.registry.configured = w.registry.configured)
    (hway : ∀ a ∈ w.registry.configured, ∃ s s', Fit c w.server a s ∧ Fit c w'.server a s' ∧
      ∀ k : KindName, k.upkeep.OnWay (c.kind k) a (s.holding k) (s'.holding k))
    (hothers : ∀ a ∉ w.registry.configured,
      w'.server.instances.get? a = w.server.instances.get? a) (stamp stamp' : RunStamp) :
    ((perform ctx' c everyKind stamp').result w').success = true ∧
      ((perform ctx' c everyKind stamp').after w').server.instances =
        ((perform ctx c everyKind stamp).after w).server.instances := by
  have hfit : ∀ a ∈ w.registry.configured, ∃ s, Fit c w.server a s := fun a ha => by
    obtain ⟨s, -, hs, -⟩ := hway a ha
    exact ⟨s, hs⟩
  have hfit' : ∀ a ∈ w'.registry.configured, ∃ s, Fit c w'.server a s := fun a ha => by
    obtain ⟨-, s', -, hs', -⟩ := hway a (hconfigured ▸ ha)
    exact ⟨s', hs'⟩
  obtain ⟨-, hleft⟩ := perform_of_fit hc hlive hpool hn hfit stamp
  obtain ⟨hsuccess, hleft'⟩ := perform_of_fit hc' hlive' hpool' (hconfigured ▸ hn) hfit' stamp'
  refine ⟨hsuccess, Dict.ext_get? fun a => ?_⟩
  by_cases ha : a ∈ w.registry.configured
  · obtain ⟨s, s', hs, hs', hsame⟩ := hway a ha
    obtain ⟨t, ht, hsettled⟩ := hleft a ha s hs
    obtain ⟨t', ht', hsettled'⟩ := hleft' a (hconfigured ▸ ha) s' hs'
    have heq : t' = t := InstanceState.ext_holding fun k => by
      rw [hsettled', hsettled, (hsame k).settled_eq (hs.orderly k)]
    rw [(Memory.visit_eq_ok_iff.1 ht).2, (Memory.visit_eq_ok_iff.1 ht').2, heq]
  · have hkept := untouched_perform (hc ▸ Memory.unreliable_server) c everyKind stamp ha
    have hkept' := untouched_perform (hc' ▸ Memory.unreliable_server) c everyKind stamp'
      (hconfigured ▸ ha)
    exact hkept'.trans ((hothers a ha).trans hkept.symm)

/-! ## The one after the other -/

/-- **A failed run is repaired by the next one.**  Whatever calls of a live run
    end with an error, each of them with or without its effect, the next live
    run of which all calls are answered succeeds, and leaves every instance as
    a single such run would have left it at first. -/
theorem failed_run_repaired {poolSize : Nat} {first : World σ} {next once : World Memory}
    (hserver : server.Unreliable memory) (haccepted : c.Accepted)
    (hpool : 1 ≤ poolSize ∧ poolSize ≤ Pool.maxSize)
    (hnormalized : Normalized c (memory first.server))
    (hwritable : ∀ a ∈ c.addresses,
      (∃ s, (memory first.server).instances.get? a = some s) ∧
        (memory first.server).unreachable.contains a = false ∧
        (memory first.server).readOnly.contains a = false)
    (hfirst : first.registry.configured = c.addresses)
    (hnext : next.registry.configured = c.addresses)
    (honce : once.registry.configured = c.addresses)
    (schedule schedule' schedule'' : List Move) (stamp stamp' stamp'' : RunStamp)
    (hleft : next.server =
      memory ((perform ⟨server, false, poolSize, schedule⟩ c everyKind stamp).after first).server)
    (hsame : once.server = memory first.server) :
    let again := perform ⟨Memory.server, false, poolSize, schedule'⟩ c everyKind stamp'
    let single := perform ⟨Memory.server, false, poolSize, schedule''⟩ c everyKind stamp''
    (again.result next).success = true ∧
      (again.after next).server.instances = (single.after once).server.instances := by
  intro again single
  let failing : Context σ := ⟨server, false, poolSize, schedule⟩
  have hfailing : failing.server.Unreliable memory := hserver
  refine perform_of_onWay rfl rfl rfl rfl hpool hpool (honce ▸ haccepted.nodup_addresses)
    (hnext.trans honce.symm) (fun a ha => ?_) (fun a ha => ?_) stamp'' stamp'
  · obtain ⟨⟨s, hs⟩, hreach, hwrite⟩ := hwritable a (honce ▸ ha)
    have hvisit := Memory.visit_eq_ok_iff.2 ⟨hreach, hs⟩
    have hfit : Fit c (memory first.server) a s :=
      ⟨hvisit, hwrite, hnormalized.orderly haccepted hvisit⟩
    obtain ⟨s', hs', hway⟩ := advances_perform hfailing c everyKind stamp a first s hfit
    exact ⟨s, s', hsame ▸ hfit, hleft ▸ hs', hway⟩
  · rw [hleft, hsame]
    exact untouched_perform hfailing c everyKind stamp (hfirst ▸ honce ▸ ha)

/-- A document that wants an audit device of another type than the one that is
    left on an instance of `strayState`. -/
def auditDocument : Config :=
  ⟨[⟨"http://a", "TOKEN"⟩], [⟨"file/", "syslog", "", "http://a", Dict.empty⟩], [], []⟩

theorem normalized_auditDocument :
    Normalized auditDocument (World.ofInstance "http://a" Pass.strayState).server where
  wanted := by decide
  audits a s hs := by
    obtain ⟨-, rfl⟩ := World.eq_of_get?_ofInstance hs
    decide
  mounts a s hs := by
    obtain ⟨-, rfl⟩ := World.eq_of_get?_ofInstance hs
    decide

/-- The instance behind a connection on which the answer to the first mutation
    is lost, so that the audit device is disabled and not enabled again. -/
def losingAnswer : World Flaky where
  server := ⟨(World.ofInstance "http://a" Pass.strayState).server, [.served, .lost]⟩
  registry := Registry.ofAddresses ["http://a"]
  calls := []
  log := []

theorem failed_run_repaired_audit :
    let stamp : RunStamp := ⟨"first", ⟨0, 0⟩, Decimal.zero false⟩
    let failing : Context Flaky := ⟨Flaky.server, false, 2, []⟩
    let left := ((perform failing auditDocument everyKind stamp).after losingAnswer).server.memory
    let next : World Memory := ⟨left, Registry.ofAddresses ["http://a"], [], []⟩
    let once := World.ofInstance "http://a" Pass.strayState
    let again := perform ⟨Memory.server, false, 2, []⟩ auditDocument everyKind stamp
    let single := perform ⟨Memory.server, false, 2, []⟩ auditDocument everyKind stamp
    (again.result next).success = true ∧
      (again.after next).server.instances = (single.after once).server.instances := by
  intro stamp failing left next once
  have haccepted : auditDocument.Accepted := ⟨_, rfl⟩
  have hnormalized : Normalized auditDocument losingAnswer.server.memory :=
    normalized_auditDocument
  have hwritable : ∀ a ∈ auditDocument.addresses,
      (∃ s, losingAnswer.server.memory.instances.get? a = some s) ∧
        losingAnswer.server.memory.unreachable.contains a = false ∧
        losingAnswer.server.memory.readOnly.contains a = false := by
    intro a ha
    obtain rfl := List.mem_singleton.1 ha
    exact ⟨⟨Pass.strayState, rfl⟩, rfl, rfl⟩
  exact @failed_run_repaired Flaky auditDocument Flaky.server Flaky.memory 2 losingAnswer next once
    Flaky.unreliable_server haccepted (by decide) hnormalized hwritable rfl rfl rfl [] [] [] stamp
    stamp stamp rfl rfl

-- The first of these runs does fail, and leaves the instance without the device.
example (stamp : RunStamp) :
    let failing := perform ⟨Flaky.server, false, 2, []⟩ auditDocument everyKind stamp
    (failing.result losingAnswer).success = false ∧
      ((failing.after losingAnswer).server.memory.instances.get? "http://a").map
        InstanceState.audits = some Dict.empty :=
  ⟨rfl, rfl⟩

end Run

end Concord
