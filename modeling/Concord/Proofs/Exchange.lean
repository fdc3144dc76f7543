/-
  Exchanges: the calls of a session together with what came of them.

  The calls that a session has issued can be made once more, from the state in
  which the session found the server: that leads through the same states and
  tells of each call whether it failed (`Server.Conducts`).

  * `World.Exchanges`: the exchanges of a session; they are composed by
    `Exchanges.trans`.
  * `World.Asked`: queries at one address and nothing else.
  * `World.Leads`: any calls.
-/
import Concord.Proofs.Memory

namespace Concord

variable {σ : Type}

/-- The error of an answer, if it is one. -/
def failure? {β : Type} : Except ServerError β → Option ServerError
  | .ok _ => none
  | .error e => some e

theorem failure?_eq_some_iff {β : Type} {x : Except ServerError β} {e : ServerError} :
    failure? x = some e ↔ x = .error e := by
  cases x <;> simp [failure?]

/-- A call, and why it failed if it did. -/
structure Exchange where
  call : Call
  failure : Option ServerError

/-! ## One call after another -/

namespace Server

/-- What comes of a call: why it fails, if it does, and the state after it. -/
def attempt (server : Server σ) (s : σ) (c : Call) : Option ServerError × σ :=
  match c.operation with
  | .query q => (failure? (server.ask c.address q s).1, (server.ask c.address q s).2)
  | .mutation m => (failure? (server.change c.address m s).1, (server.change c.address m s).2)

/-- Exchanges one after the other lead a server from one state to another. -/
inductive Conducts (server : Server σ) : List Exchange → σ → σ → Prop
  | nil (s : σ) : Conducts server [] s s
  | cons {e : Exchange} {es : List Exchange} {s s' : σ} :
      (server.attempt s e.call).1 = e.failure →
      Conducts server es (server.attempt s e.call).2 s' → Conducts server (e :: es) s s'

variable {server : Server σ} {s s' s'' : σ}

theorem Conducts.append {es es' : List Exchange} (h : Conducts server es s s')
    (h' : Conducts server es' s' s'') : Conducts server (es ++ es') s s'' := by
  induction h with
  | nil s => exact h'
  | cons hfailure _ ih => exact .cons hfailure (ih h')

theorem conducts_append_iff {es es' : List Exchange} :
    Conducts server (es ++ es') s s'' ↔
      ∃ s', Conducts server es s s' ∧ Conducts server es' s' s'' := by
  constructor
  · intro h
    induction es generalizing s with
    | nil => exact ⟨s, .nil s, h⟩
    | cons e es ih =>
      cases h with
      | cons hfailure hrest =>
        obtain ⟨s', hes, hes'⟩ := ih hrest
        exact ⟨s', .cons hfailure hes, hes'⟩
  · rintro ⟨s', hes, hes'⟩
    exact hes.append hes'

/-- Every exchange is an attempt in some state. -/
theorem Conducts.exists_attempt {es : List Exchange} (h : Conducts server es s s') {e : Exchange}
    (he : e ∈ es) : ∃ s, (server.attempt s e.call).1 = e.failure := by
  induction h with
  | nil s => cases he
  | cons hfailure _ ih =>
    rcases List.mem_cons.1 he with rfl | he
    · exact ⟨_, hfailure⟩
    · exact ih he

theorem conducts_singleton (server : Server σ) (s : σ) (c : Call) :
    Conducts server [⟨c, (server.attempt s c).1⟩] s (server.attempt s c).2 :=
  .cons rfl (.nil _)

end Server

/-! ## Sessions -/

namespace World

variable {server : Server σ} {a : String} {w w' w'' : World σ}

/-- The exchanges of a session between two worlds. -/
structure Exchanges (server : Server σ) (es : List Exchange) (w w' : World σ) : Prop where
  calls : w'.calls = w.calls ++ es.map (·.call)
  conducts : server.Conducts es w.server w'.server

theorem exchanges_nil (hc : w'.calls = w.calls) (hs : w'.server = w.server) :
    Exchanges server [] w w' :=
  ⟨by simpa using hc, hs ▸ .nil _⟩

theorem Exchanges.trans {es es' : List Exchange} (h : Exchanges server es w w')
    (h' : Exchanges server es' w' w'') : Exchanges server (es ++ es') w w'' :=
  ⟨by rw [h'.calls, h.calls, List.map_append, List.append_assoc], h.conducts.append h'.conducts⟩

theorem exchanges_ask (server : Server σ) (a : String) (q : Query) (w : World σ) :
    Exchanges server [⟨⟨a, .query q⟩, failure? ((Session.ask server a q).result w)⟩] w
      ((Session.ask server a q).after w) :=
  ⟨rfl, server.conducts_singleton w.server ⟨a, .query q⟩⟩

theorem exchanges_change (server : Server σ) (a : String) (m : Mutation) (w : World σ) :
    Exchanges server [⟨⟨a, .mutation m⟩, failure? ((Session.change server a m).result w)⟩] w
      ((Session.change server a m).after w) :=
  ⟨rfl, server.conducts_singleton w.server ⟨a, .mutation m⟩⟩

/-- A session has made queries at an address and nothing else. -/
def Asked (server : Server σ) (a : String) (w w' : World σ) : Prop :=
  ∃ es, Exchanges server es w w' ∧ ∀ e ∈ es, e.call.address = a ∧ e.call.Asks

theorem asked_of_eq (hc : w'.calls = w.calls) (hs : w'.server = w.server) : Asked server a w w' :=
  ⟨[], exchanges_nil hc hs, by simp⟩

instance (server : Server σ) (a : String) : IsPreorder (World σ) (Asked server a) where
  refl _ := asked_of_eq rfl rfl
  trans := by
    rintro w w' w'' ⟨es, h, hes⟩ ⟨es', h', hes'⟩
    refine ⟨es ++ es', h.trans h', fun e he => ?_⟩
    exact (List.mem_append.1 he).elim (hes e) (hes' e)

theorem reading_asked (server : Server σ) (a : String) :
    Session.Reading (Asked server a) server a where
  record _ _ := asked_of_eq rfl rfl
  ask q w := ⟨_, exchanges_ask server a q w, by
    intro e he
    obtain rfl := List.mem_singleton.1 he
    exact ⟨rfl, q, rfl⟩⟩

/-- A session leads from one world to the other. -/
def Leads (server : Server σ) (w w' : World σ) : Prop := ∃ es, Exchanges server es w w'

theorem leads_of_eq (hc : w'.calls = w.calls) (hs : w'.server = w.server) : Leads server w w' :=
  ⟨[], exchanges_nil hc hs⟩

instance (server : Server σ) : IsPreorder (World σ) (Leads server) where
  refl _ := leads_of_eq rfl rfl
  trans := fun _ _ _ ⟨es, h⟩ ⟨es', h'⟩ => ⟨es ++ es', h.trans h'⟩

theorem reading_leads (server : Server σ) (a : String) :
    Session.Reading (Leads server) server a where
  record _ _ := leads_of_eq rfl rfl
  ask q w := ⟨_, exchanges_ask server a q w⟩

end World

end Concord
