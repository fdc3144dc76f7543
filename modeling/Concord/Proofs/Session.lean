/-
  Sessions as steps between worlds: what a session gives back (`result`) and
  the world that it leaves (`after`).

  A frame condition is a preorder on worlds that the small steps of a session
  respect: the log, the queries and the mutations.  Whatever is put together
  of steps that keep the relation keeps it (`Keeps.bind`, `Keeps.fanOut`).

  * `Fixes f`: a part of the world stays as it is.
  * `Issues P`: all calls issued since have a property.
-/
import Mathlib.Order.Defs.Unbundled
import Concord.Kind.Basic
import Concord.Proofs.FanOut.Steps

namespace Concord

variable {σ α β : Type}

namespace Session

/-! ## Results and worlds -/

/-- What a session gives back. -/
def result (x : Session σ α) (w : World σ) : α := (x.run w).run.1

/-- The world that a session leaves. -/
def after (x : Session σ α) (w : World σ) : World σ := (x.run w).run.2

@[simp] theorem result_pure (a : α) (w : World σ) : (pure a : Session σ α).result w = a := rfl

@[simp] theorem after_pure (a : α) (w : World σ) : (pure a : Session σ α).after w = w := rfl

@[simp] theorem result_bind (x : Session σ α) (f : α → Session σ β) (w : World σ) :
    (x >>= f).result w = (f (x.result w)).result (x.after w) := rfl

@[simp] theorem after_bind (x : Session σ α) (f : α → Session σ β) (w : World σ) :
    (x >>= f).after w = (f (x.result w)).after (x.after w) := rfl

@[simp] theorem result_get (w : World σ) : (get : Session σ (World σ)).result w = w := rfl

@[simp] theorem after_get (w : World σ) : (get : Session σ (World σ)).after w = w := rfl

@[simp] theorem after_record (es : List Log.Entry) (w : World σ) :
    (record es).after w = { w with log := w.log ++ es } := rfl

@[simp] theorem result_ask (server : Server σ) (a : String) (q : Query) (w : World σ) :
    (ask server a q).result w = (server.ask a q w.server).1 := rfl

@[simp] theorem after_ask (server : Server σ) (a : String) (q : Query) (w : World σ) :
    (ask server a q).after w =
      { w with
        server := (server.ask a q w.server).2
        calls := w.calls ++ [⟨a, .query q⟩] } := rfl

@[simp] theorem result_change (server : Server σ) (a : String) (m : Mutation) (w : World σ) :
    (change server a m).result w = (server.change a m w.server).1 := rfl

@[simp] theorem after_change (server : Server σ) (a : String) (m : Mutation) (w : World σ) :
    (change server a m).after w =
      { w with
        server := (server.change a m w.server).2
        calls := w.calls ++ [⟨a, .mutation m⟩] } := rfl

@[simp] theorem after_markInvalid (a : String) (w : World σ) :
    (markInvalid a).after w =
      { w with
        log := w.log ++ w.registry.markEntries a
        registry := w.registry.markInvalid a } := rfl

@[simp] theorem after_resetRegistry (w : World σ) :
    (resetRegistry).after w =
      { w with log := w.log ++ w.registry.resetEntries, registry := w.registry.reset } := rfl

/-! ## Frame conditions -/

/-- Whatever the world before, a session relates it to the world after. -/
def Keeps (R : World σ → World σ → Prop) (x : Session σ α) : Prop := ∀ w, R w (x.after w)

variable {R : World σ → World σ → Prop} [IsPreorder (World σ) R]

theorem Keeps.pure (a : α) : Keeps R (Pure.pure a : Session σ α) := fun w => refl_of R w

theorem Keeps.bind {x : Session σ α} {f : α → Session σ β} (hx : Keeps R x)
    (hf : ∀ a, Keeps R (f a)) : Keeps R (x >>= f) :=
  fun w => trans_of R (hx w) (hf (x.result w) (x.after w))

theorem Keeps.mapM {f : α → Session σ β} : ∀ {l : List α}, (∀ a ∈ l, Keeps R (f a)) →
    Keeps R (l.mapM f)
  | [], _ => Keeps.pure []
  | a :: l, h => by
    rw [List.mapM_cons]
    refine (h a List.mem_cons_self).bind fun b => ?_
    exact (Keeps.mapM fun c hc => h c (List.mem_cons_of_mem a hc)).bind fun _ => .pure _

/-- A session that starts in a world with a property ends in one, with a result
    of which something else holds. -/
def Leads (I : World σ → Prop) (p : α → Prop) (x : Session σ α) : Prop :=
  ∀ w, I w → p (x.result w) ∧ I (x.after w)

theorem Leads.stepwise (I : World σ → Prop) : FanOut.Stepwise (Session σ) (Leads I) where
  pure hp _ hw := ⟨hp, hw⟩
  bind hx hnext w hw := hnext _ (hx w hw).1 _ (hx w hw).2
  mono hx h w hw := ⟨h _ (hx w hw).1, (hx w hw).2⟩

/-- A fan-out keeps what each of its units keeps. -/
theorem Keeps.fanOut {ι ρ : Type} {work : ι → Session σ (Except String ρ)} (pool : Pool Nat)
    (schedule : List Move) (items : List ι) (h : ∀ x, Keeps R (work x)) :
    Keeps R (FanOut.perform pool schedule work items) := by
  intro w
  have hwork : ∀ x, Leads (R w) (fun _ => True) (work x) :=
    fun x w' hw' => ⟨trivial, trans_of R hw' (h x w')⟩
  exact ((Leads.stepwise (R w)).always hwork pool schedule items w (refl_of R w)).2

/-- A relation that the log and the queries at an address respect. -/
structure Reading (R : World σ → World σ → Prop) (server : Server σ) (a : String) : Prop where
  record : ∀ es, Keeps R (record es)
  ask : ∀ q, Keeps R (ask server a q)

end Session

/-! ## Parts that stay, and calls issued -/

/-- A part of the world is as it was. -/
def Fixes (f : World σ → β) (w w' : World σ) : Prop := f w' = f w

instance (f : World σ → β) : IsPreorder (World σ) (Fixes f) where
  refl _ := rfl
  trans _ _ _ h h' := h'.trans h

/-- All calls issued since have a property. -/
def Issues (P : Call → Prop) (w w' : World σ) : Prop :=
  ∃ new, w'.calls = w.calls ++ new ∧ ∀ c ∈ new, P c

instance (P : Call → Prop) : IsPreorder (World σ) (Issues P) where
  refl w := ⟨[], by simp, by simp⟩
  trans := by
    rintro w w' w'' ⟨new, hw, hP⟩ ⟨new', hw', hP'⟩
    refine ⟨new ++ new', by rw [hw', hw, List.append_assoc], fun c hc => ?_⟩
    exact (List.mem_append.1 hc).elim (hP c) (hP' c)

theorem Issues.mono {P Q : Call → Prop} {w w' : World σ} (h : Issues P w w')
    (hPQ : ∀ c, P c → Q c) : Issues Q w w' :=
  h.imp fun _ hnew => ⟨hnew.1, fun c hc => hPQ c (hnew.2 c hc)⟩

theorem issues_of_calls_eq {P : Call → Prop} {w w' : World σ} (h : w'.calls = w.calls) :
    Issues P w w' :=
  ⟨[], by simpa using h, by simp⟩

theorem issues_of_calls_append {P : Call → Prop} {w w' : World σ} {c : Call}
    (h : w'.calls = w.calls ++ [c]) (hc : P c) : Issues P w w' :=
  ⟨[c], h, by simpa using hc⟩

end Concord
