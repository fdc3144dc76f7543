/-
  Fan-outs step by step, whatever their units do.

  The moves of a fan-out change its state in four ways, three of which do
  nothing else; only a unit that ends does its work first.  So what holds after
  every move holds after a schedule and at the end, in every monad in which such
  things can be said of a computation made of steps (`Stepwise`).

  * `asked`, `launch`, `leave`, `join`, `await`: the changes as equations, and
    what they leave as it is.
  * `Stepwise.follow`, `Stepwise.drain`: from single moves to all of them.
-/
import Concord.Pool.FanOut

namespace Concord.FanOut

variable {ι ρ : Type} {f : FanOut ι ρ} {k : Nat}

/-! ## Changes -/

theorem launch_of_nil (h : f.waiting = []) : f.launch = f := by
  simp [launch, h]

theorem launch_of_cons {x : ι} {rest : List ι} (h : f.waiting = x :: rest) :
    f.launch =
      if (f.asked .slot).1 = .held then
        { f with
          pool := (f.asked .slot).2
          next := f.next + 1
          waiting := rest
          running := f.running ++ [(f.next, x)]
          peak := max f.peak (f.running.length + 1) }
      else { f with pool := (f.asked .slot).2 } := by
  simp only [launch, h]

theorem leave_of_some {e : Nat × ι} (h : f.running[k]? = some e) (left : Except String ρ) :
    f.leave k left =
      { f with
        pool := (f.pool.release e.1).2
        running := f.running.eraseIdx k
        ended := f.ended ++ [left] } := by
  simp [leave, h]

/-- The text of a panic. -/
def panic? : Except String ρ → Option String
  | .ok _ => none
  | .error text => some text

theorem join_of_none (h : f.ended[k]? = none) : f.join k = f := by
  unfold join
  cases f.waiting <;> simp [h]

theorem join_of_cons {x : ι} {rest : List ι} (h : f.waiting = x :: rest) : f.join k = f := by
  simp [join, h]

theorem join_of_some {left : Except String ρ} (hw : f.waiting = []) (h : f.ended[k]? = some left) :
    f.join k =
      { f with
        ended := f.ended.eraseIdx k
        results := f.results ++ left.toOption.toList
        failure := f.failure.or (panic? left) } := by
  unfold join
  rw [hw, h]
  cases left <;> simp [panic?, Except.toOption]

theorem allJoined_iff : f.allJoined = true ↔ f.waiting = [] ∧ f.running = [] ∧ f.ended = [] := by
  simp [allJoined, and_assoc]

theorem await_of_allJoined (h : f.allJoined = true) (hclosed : f.closed = false) :
    f.await =
      if (f.asked .all).1 = .done then
        { f with pool := ((f.asked .all).2.release f.next).2, closed := true }
      else { f with pool := (f.asked .all).2 } := by
  simp [await, h, hclosed]

theorem await_of_not (h : f.allJoined = false ∨ f.closed = true) : f.await = f := by
  unfold await
  rcases h with h | h <;> simp [h]

/-! ## What stays -/

theorem failure_launch (f : FanOut ι ρ) : f.launch.failure = f.failure := by
  cases hw : f.waiting with
  | nil => rw [launch_of_nil hw]
  | cons x rest =>
    rw [launch_of_cons hw]
    split <;> rfl

theorem failure_leave (f : FanOut ι ρ) (k : Nat) (left : Except String ρ) :
    (f.leave k left).failure = f.failure := by
  cases hk : f.running[k]? with
  | none => simp [leave, hk]
  | some e => rw [leave_of_some hk]

/-- Waiting for all slots changes the pool, and whether they have been waited
    for. -/
theorem await_eq (f : FanOut ι ρ) :
    f.await = { f with pool := f.await.pool, closed := f.await.closed } := by
  unfold await
  split
  · dsimp only
    split <;> rfl
  · rfl

theorem running_launch (f : FanOut ι ρ) : f.running <+: f.launch.running := by
  cases hw : f.waiting with
  | nil => simp [launch_of_nil hw]
  | cons x rest =>
    rw [launch_of_cons hw]
    split
    · exact List.prefix_append ..
    · exact List.prefix_rfl

theorem running_join (f : FanOut ι ρ) (k : Nat) : (f.join k).running = f.running := by
  unfold join
  split <;> rfl

/-! ## Moves -/

/-- A way to say of a computation what holds of its result, such that it can be
    said of steps in turn. -/
structure Stepwise (m : Type → Type) [Monad m] (H : ∀ {α : Type}, (α → Prop) → m α → Prop) :
    Prop where
  pure : ∀ {α : Type} {p : α → Prop} {a : α}, p a → H p (Pure.pure a)
  bind : ∀ {α β : Type} {p : α → Prop} {q : β → Prop} {x : m α} {next : α → m β},
    H p x → (∀ a, p a → H q (next a)) → H q (x >>= next)
  mono : ∀ {α : Type} {p q : α → Prop} {x : m α}, H p x → (∀ a, p a → q a) → H q x

theorem stepwise_id : Stepwise Id fun p x => p x.run where
  pure h := h
  bind hx hnext := hnext _ hx
  mono hx h := h _ hx

namespace Stepwise

variable {m : Type → Type} [Monad m] {H : ∀ {α : Type}, (α → Prop) → m α → Prop}
  {work : ι → m (Except String ρ)} {Q : ι → Except String ρ → Prop}

/-- A unit ends with something that its work can come to. -/
theorem finish (S : Stepwise m H) (hwork : ∀ x, H (Q x) (work x)) {p : FanOut ι ρ → Prop}
    (hleave : ∀ e, f.running[k]? = some e → ∀ left, Q e.2 left → p (f.leave k left))
    (hnone : f.running[k]? = none → p f) : H p (f.finish work k) := by
  unfold FanOut.finish
  cases hk : f.running[k]? with
  | none => exact S.pure (hnone hk)
  | some e => exact S.bind (hwork e.2) fun left hleft => S.pure (hleave e hk left hleft)

/-- What every move keeps, a schedule keeps. -/
theorem follow (S : Stepwise m H) {p : FanOut ι ρ → Prop}
    (hmove : ∀ f a, p f → H p (f.move work a)) : ∀ (moves : List Move) {f : FanOut ι ρ},
      p f → H p (follow work moves f)
  | [], _, h => S.pure h
  | a :: r, f, h => S.bind (hmove f a h) fun _ hg => S.follow hmove r hg

/-- What every round brings one round nearer to its end is at its end after as
    many rounds. -/
theorem drain (S : Stepwise m H) {p : Nat → FanOut ι ρ → Prop}
    (hround : ∀ rounds f, p (rounds + 1) f →
      (f.launch.next ≠ f.next → p rounds f.launch) ∧
      (f.launch.next = f.next → H (p rounds) (f.launch.move work f.launch.onward))) :
    ∀ (rounds : Nat) {f : FanOut ι ρ}, p rounds f → H (p 0) (drain work rounds f)
  | 0, _, h => S.pure h
  | rounds + 1, f, h => by
    obtain ⟨hstarted, honward⟩ := hround rounds f h
    unfold FanOut.drain
    by_cases heq : f.launch.next = f.next
    · rw [if_pos heq]
      exact S.bind (honward heq) fun _ hg => S.drain hround rounds hg
    · rw [if_neg heq]
      exact S.drain hround rounds (hstarted heq)

/-- What can be said after every unit can be said after the fan-out. -/
theorem always (S : Stepwise m H) (hwork : ∀ x, H (fun _ => True) (work x)) (pool : Pool Nat)
    (schedule : List Move) (items : List ι) :
    H (fun _ => True) (perform pool schedule work items) := by
  have hmove : ∀ (f : FanOut ι ρ) (a : Move), True → H (fun _ => True) (f.move work a) := by
    intro f a _
    cases a with
    | finish k => exact S.finish hwork (fun _ _ _ _ => trivial) fun _ => trivial
    | launch | join | await => exact S.pure trivial
  refine S.bind (S.follow hmove schedule trivial) fun f _ => ?_
  exact S.drain (p := fun _ _ => True)
    (fun _ f _ => ⟨fun _ => trivial, fun _ => hmove f.launch f.launch.onward trivial⟩) _ trivial

end Stepwise

end Concord.FanOut
