/-
  Fanning out: one unit of work for each item, a bounded number at a time.

  A slot is taken before a unit is started, so units start in the order of
  their items and launching waits while the pool is full.  A unit gives its
  slot back when it ends, whether with a result or with the text of a panic.
  Units that have ended are joined once all are started, in any order; then all
  slots are waited for, and the fan-out is over.  Of the panics the one that is
  joined first is kept.

  The order of events is a schedule (`Move`).  After a schedule the fan-out goes
  on by itself, launching where it can; where it cannot, the oldest unit ends or
  is joined.

  * `FanOut.perform`: the fan-out of a list of items under a schedule.
-/
import Concord.Pool.Basic

namespace Concord

/-- An event of a fan-out: the next unit gets its slot and starts, the `k`-th
    running unit ends, the `k`-th unit that has ended is joined, or all slots
    are waited for. -/
inductive Move where
  | launch
  | finish (k : Nat)
  | join (k : Nat)
  | await
  deriving DecidableEq, Repr

/-- The state of a fan-out over items `ι` with results `ρ`. -/
structure FanOut (ι ρ : Type) where
  /-- The pool whose slots the units hold, under the positions of their items. -/
  pool : Pool Nat
  /-- The position of the first item that is not started. -/
  next : Nat
  /-- The items that are not started. -/
  waiting : List ι
  /-- The units that are running, oldest first. -/
  running : List (Nat × ι)
  /-- What the units that have ended and are not joined ended with: a result or
      the text of a panic. -/
  ended : List (Except String ρ)
  /-- The results of the units that are joined, in the order in which they were
      joined. -/
  results : List ρ
  /-- The text of the first panic that was joined. -/
  failure : Option String
  /-- Whether all slots have been waited for. -/
  closed : Bool
  /-- The most units that were running at once. -/
  peak : Nat

namespace FanOut

variable {ι ρ : Type} {m : Type → Type} [Monad m]

/-- A fan-out before its first unit. -/
def start (pool : Pool Nat) (items : List ι) : FanOut ι ρ :=
  ⟨pool, 0, items, [], [], [], none, false, 0⟩

/-! ## Single moves -/

/-- The answer to a request of the fan-out, and the pool after it: it is made
    under the position of the next item, or looked at again if it was made. -/
def asked (f : FanOut ι ρ) (purpose : Purpose) : Standing × Pool Nat :=
  match f.pool.poll f.next with
  | (some standing, pool) => (standing, pool)
  | (none, pool) => pool.request purpose f.next

/-- Asks for the slot of the next unit and starts the unit if the slot is
    there. -/
def launch (f : FanOut ι ρ) : FanOut ι ρ :=
  match f.waiting with
  | [] => f
  | x :: rest =>
    let (standing, pool) := f.asked .slot
    if standing = .held then
      { f with
        pool := pool
        next := f.next + 1
        waiting := rest
        running := f.running ++ [(f.next, x)]
        peak := max f.peak (f.running.length + 1) }
    else { f with pool := pool }

/-- The end of the `k`-th running unit, with a result or the text of a panic:
    its slot is given back. -/
def leave (f : FanOut ι ρ) (k : Nat) (left : Except String ρ) : FanOut ι ρ :=
  match f.running[k]? with
  | none => f
  | some (position, _) =>
    { f with
      pool := (f.pool.release position).2
      running := f.running.eraseIdx k
      ended := f.ended ++ [left] }

/-- Does the work of the `k`-th running unit, which then ends. -/
def finish (work : ι → m (Except String ρ)) (k : Nat) (f : FanOut ι ρ) : m (FanOut ι ρ) :=
  match f.running[k]? with
  | none => pure f
  | some (_, x) => do
    let left ← work x
    pure (f.leave k left)

/-- Takes what the `k`-th unit that has ended ended with, once all units are
    started. -/
def join (f : FanOut ι ρ) (k : Nat) : FanOut ι ρ :=
  match f.waiting, f.ended[k]? with
  | [], some (.ok result) =>
    { f with ended := f.ended.eraseIdx k, results := f.results ++ [result] }
  | [], some (.error text) =>
    { f with ended := f.ended.eraseIdx k, failure := f.failure.or (some text) }
  | _, _ => f

/-- Whether every unit was started, has ended and is joined. -/
def allJoined (f : FanOut ι ρ) : Bool := f.waiting.isEmpty && f.running.isEmpty && f.ended.isEmpty

/-- Waits for all slots once every unit is joined; the fan-out is over when they
    were free. -/
def await (f : FanOut ι ρ) : FanOut ι ρ :=
  if f.allJoined && !f.closed then
    let (standing, pool) := f.asked .all
    if standing = .done then { f with pool := (pool.release f.next).2, closed := true }
    else { f with pool := pool }
  else f

/-- One move; a move that is not possible does nothing. -/
def move (work : ι → m (Except String ρ)) (f : FanOut ι ρ) : Move → m (FanOut ι ρ)
  | .launch => pure f.launch
  | .finish k => f.finish work k
  | .join k => pure (f.join k)
  | .await => pure f.await

/-! ## Whole fan-outs -/

/-- The moves of a schedule. -/
def follow (work : ι → m (Except String ρ)) : List Move → FanOut ι ρ → m (FanOut ι ρ)
  | [], f => pure f
  | a :: r, f => do
    let f ← f.move work a
    follow work r f

/-- The move of a fan-out that cannot launch. -/
def onward (f : FanOut ι ρ) : Move :=
  if f.running ≠ [] then .finish 0 else if f.ended ≠ [] then .join 0 else .await

/-- Launches units while there are slots and goes onward otherwise, for as many
    rounds as given. -/
def drain (work : ι → m (Except String ρ)) : Nat → FanOut ι ρ → m (FanOut ι ρ)
  | 0, f => pure f
  | rounds + 1, f =>
    let g := f.launch
    if g.next = f.next then do
      let h ← g.move work g.onward
      drain work rounds h
    else drain work rounds g

/-- The fan-out of a list of items: the moves of a schedule first, then enough
    rounds to launch, end and join what is left, each at most once, and to wait
    for all slots. -/
def perform (pool : Pool Nat) (schedule : List Move) (work : ι → m (Except String ρ))
    (items : List ι) : m (FanOut ι ρ) := do
  let f ← follow work schedule (start pool items)
  drain work (3 * items.length + 1) f

/-- What comes of a fan-out that is over: its results, or the first panic. -/
def outcome (f : FanOut ι ρ) : Except EngineError (List ρ) :=
  match f.failure with
  | some text => .error (.workerPanicked text)
  | none => .ok f.results

end FanOut

end Concord
