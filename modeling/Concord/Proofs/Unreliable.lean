/-
  A memory behind calls that may fail.

  Any call may end with an error that the memory knows nothing of, and a
  mutation may have had its effect all the same.  What is fetched in spite of
  this is what is there: an error of one read is an error of the fetch.

  * `Server.Unreliable`: such a behaviour towards calls.
  * `Flaky.server`: the one that follows a list of fates.
  * `KindName.truthful`: what is fetched.
-/
import Concord.Proofs.Kind.Family

namespace Concord

open Session

variable {σ α : Type}

/-! ## Unreliable servers -/

/-- A server that answers as a memory or with an error.  A query changes
    nothing; a mutation has the effect that it has on the memory, but one that
    is answered with an error may have none. -/
structure Server.Unreliable (server : Server σ) (memory : σ → Memory) : Prop where
  ask : ∀ a q s, memory (server.ask a q s).2 = memory s ∧
    ((server.ask a q s).1 = (memory s).ask a q ∨ ∃ e, (server.ask a q s).1 = .error e)
  change : ∀ a mu s,
    (server.change a mu s).1 = (Memory.server.change a mu (memory s)).1 ∧
        memory (server.change a mu s).2 = (Memory.server.change a mu (memory s)).2 ∨
      (∃ e, (server.change a mu s).1 = .error e) ∧
        (memory (server.change a mu s).2 = memory s ∨
          memory (server.change a mu s).2 = (Memory.server.change a mu (memory s)).2)

/-- A memory by itself. -/
theorem Memory.unreliable_server : Memory.server.Unreliable id where
  ask _ _ _ := ⟨rfl, Or.inl rfl⟩
  change _ _ _ := Or.inl ⟨rfl, rfl⟩

namespace Server.Unreliable

variable {server : Server σ} {memory : σ → Memory} (h : server.Unreliable memory)

include h

theorem memory_change (a : String) (mu : Mutation) (s : σ) :
    memory (server.change a mu s).2 = memory s ∨
      memory (server.change a mu s).2 = (Memory.server.change a mu (memory s)).2 := by
  rcases h.change a mu s with ⟨-, heffect⟩ | ⟨-, heffect⟩
  · exact Or.inr heffect
  · exact heffect

/-- A mutation that is answered has had its effect. -/
theorem memory_change_of_ok {a : String} {mu : Mutation} {s : σ} {u : Unit}
    (hok : (server.change a mu s).1 = .ok u) :
    memory (server.change a mu s).2 = (Memory.server.change a mu (memory s)).2 := by
  rcases h.change a mu s with ⟨-, heffect⟩ | ⟨⟨e, he⟩, -⟩
  · exact heffect
  · rw [hok] at he
    cases he

/-- An answer to a query comes from an instance of the memory. -/
theorem exists_answer {a : String} {q : Query} {s : σ} {answer : q.Answer}
    (hok : (server.ask a q s).1 = .ok answer) :
    ∃ state, (memory s).visit a = .ok state ∧ state.answer q = some answer := by
  rcases (h.ask a q s).2 with hsame | ⟨e, he⟩
  · exact Memory.ask_eq_ok (hsame ▸ hok)
  · rw [hok] at he
    cases he

/-- What the mutations of a memory leave is left. -/
theorem fixes_change {β : Type} {f : Memory → β} {a : String} {mu : Mutation}
    (hf : Keeps (Fixes fun w => f w.server) (Session.change Memory.server a mu)) :
    Keeps (Fixes fun w : World σ => f (memory w.server)) (Session.change server a mu) := by
  intro w
  show f (memory (server.change a mu w.server).2) = f (memory w.server)
  rcases h.memory_change a mu w.server with hsame | heffect
  · rw [hsame]
  · rw [heffect]
    exact hf ⟨memory w.server, w.registry, w.calls, w.log⟩

theorem reading_memory {β : Type} (f : Memory → β) (a : String) :
    Reading (Fixes fun w : World σ => f (memory w.server)) server a :=
  ⟨fun _ _ => rfl, fun q w => congrArg f (h.ask a q w.server).1⟩

/-- Fetching leaves the memory as it is. -/
theorem memory_fetch {kind : Kind α} {ctx : Context σ} (hkind : kind.OnlyAsks)
    (hc : ctx.server = server) (a : String) (w : World σ) :
    memory ((kind.fetch ctx a).after w).server = memory w.server :=
  hkind ctx a (hc ▸ h.reading_memory id a) w

end Server.Unreliable

/-! ## A list of fates -/

/-- What becomes of a call: it is served, it does not arrive, or its answer is
    lost. -/
inductive Fate where
  | served | refused | lost
  deriving DecidableEq

/-- A memory, and the fates of the calls to come; calls after those are
    served. -/
structure Flaky where
  memory : Memory
  fates : List Fate

/-- A memory behind a connection that fails as it is fated to. -/
def Flaky.server : Server Flaky where
  ask a q s :=
    match s.fates with
    | [] | .served :: _ => (s.memory.ask a q, ⟨s.memory, s.fates.tail⟩)
    | _ :: rest => (.error (.unreachable a "connection lost"), ⟨s.memory, rest⟩)
  change a mu s :=
    let (done, memory) := Memory.server.change a mu s.memory
    match s.fates with
    | [] | .served :: _ => (done, ⟨memory, s.fates.tail⟩)
    | .refused :: rest => (.error (.unreachable a "connection lost"), ⟨s.memory, rest⟩)
    | .lost :: rest => (.error (.unreachable a "connection lost"), ⟨memory, rest⟩)

theorem Flaky.unreliable_server : Flaky.server.Unreliable Flaky.memory where
  ask a q s := by
    obtain ⟨memory, fates⟩ := s
    match fates with
    | [] | .served :: _ => exact ⟨rfl, Or.inl rfl⟩
    | .refused :: _ | .lost :: _ => exact ⟨rfl, Or.inr ⟨_, rfl⟩⟩
  change a mu s := by
    obtain ⟨memory, fates⟩ := s
    match fates with
    | [] | .served :: _ => exact Or.inl ⟨rfl, rfl⟩
    | .refused :: _ => exact Or.inr ⟨⟨_, rfl⟩, Or.inl rfl⟩
    | .lost :: _ => exact Or.inr ⟨⟨_, rfl⟩, Or.inr rfl⟩

/-! ## Fetching -/

/-- Whatever is fetched of a kind from an unreliable server is what would be
    fetched from the memory. -/
def Upkeep.Truthful {k : KindName} (U : Upkeep k α) (kind : Kind α) : Prop :=
  ∀ {σ : Type} {memory : σ → Memory} (ctx : Context σ), ctx.server.Unreliable memory →
    ∀ (a : String) (w : World σ) (items : List α), (kind.fetch ctx a).result w = .ok items →
      U.seen ctx.poolSize (memory w.server) a = .ok items

theorem truthful_of_listedBy {k : KindName} {U : Upkeep k α} {kind : Kind α} {q : Query}
    {decode : String → q.Answer → List α} (hkind : kind.ListedBy q decode)
    (hrefusal : ∀ n, U.refusal n = none)
    (hitems : ∀ s answer, InstanceState.answer s q = some answer →
      ∀ a, decode a answer = U.items a (s.holding k)) : U.Truthful kind := by
  intro σ memory ctx h a w found hfound
  obtain ⟨answer, hlisting, rfl⟩ := hkind.exists_answer hfound
  obtain ⟨s, hs, hanswer⟩ := h.exists_answer hlisting
  rw [Upkeep.seen, hs, hrefusal, hitems s answer hanswer a]

theorem truthful_auditDevices (items : List Backend) :
    auditUpkeep.Truthful (auditDevices items) :=
  truthful_of_listedBy (listedBy_auditDevices items) (fun _ => rfl)
    fun _ _ hanswer _ => by cases hanswer; rfl

theorem truthful_secretsEngines (items : List Backend) :
    engineUpkeep.Truthful (secretsEngines items) :=
  truthful_of_listedBy (listedBy_secretsEngines items) (fun _ => rfl)
    fun _ _ hanswer _ => by cases hanswer; rfl

/-- The rules of policies that are all read, from an unreliable server. -/
theorem readPolicies_of_ok {memory : σ → Memory} {ctx : Context σ}
    (h : ctx.server.Unreliable memory) {a : String} {w : World σ} {s : InstanceState}
    (hs : (memory w.server).visit a = .ok s) {found : List Policy}
    (hfound : (readPolicies ctx a s.policies.keys).result w = .ok found) :
    policyUpkeep.refusal ctx.poolSize = none ∧
      found = s.policies.entries.map fun e => Policy.observed a e.1 e.2 := by
  -- every read finds the instance as it is, and its answer is what is there
  have hread : ∀ name (w' : World σ), (memory w'.server).visit a = .ok s →
      (∀ rules, (ctx.server.ask a (.readPolicy name) w'.server).1 = .ok rules →
        Policy.itemOf a s.policies name = Policy.observed a name rules) ∧
      (memory ((readUnit ctx.server a name).after w').server).visit a = .ok s := by
    intro name w' hw'
    refine ⟨fun rules hrules => ?_, ?_⟩
    · obtain ⟨s', hs', hanswer⟩ := h.exists_answer hrules
      obtain rfl := Except.ok.inj (hs'.symm.trans hw')
      have hget : s'.policies.get? name = some rules := hanswer
      rw [Policy.itemOf, hget]
      rfl
    · exact (congrArg (Memory.visit · a) (h.ask a (.readPolicy name) w'.server).1).trans hw'
  obtain ⟨pool, order, ps, hpool, horder, hforall, rfl⟩ :=
    exists_policies_of_ok (P := fun name p => Policy.itemOf a s.policies name = p) hread hs hfound
  obtain rfl : order.map (Policy.itemOf a s.policies) = ps :=
    List.forall₂_eq_eq_eq ▸ List.forall₂_map_left_iff.2 hforall
  refine ⟨by simp [policyUpkeep, hpool], ?_⟩
  exact sortByName_eq (map_itemOf a s.policies ▸ horder.map _)

theorem truthful_policies (items : List Policy) : policyUpkeep.Truthful (policies items) := by
  intro σ memory ctx h a w found hfound
  rw [policies, result_bind, result_ask] at hfound
  cases hlisting : (ctx.server.ask a .listPolicies w.server).1 with
  | error e =>
    rw [hlisting] at hfound
    cases hfound
  | ok names =>
    rw [hlisting] at hfound
    obtain ⟨s, hs, hanswer⟩ := h.exists_answer hlisting
    cases hanswer
    let w₁ := (Session.ask ctx.server a .listPolicies).after w
    have hmemory : memory w₁.server = memory w.server := (h.ask a .listPolicies w.server).1
    have hs₁ : (memory w₁.server).visit a = .ok s := hmemory ▸ hs
    obtain ⟨hrefusal, hitems⟩ := readPolicies_of_ok h hs₁ hfound
    rw [Upkeep.seen, hs, hrefusal, hitems]
    rfl

theorem KindName.truthful : (k : KindName) → (items : List k.Object) →
    k.upkeep.Truthful (k.toKind items)
  | .audit, items => truthful_auditDevices items
  | .engine, items => truthful_secretsEngines items
  | .policy, items => truthful_policies items

end Concord
