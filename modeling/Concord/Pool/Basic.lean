/-
  Bounded pools: at most `size` slots are held at a time.

  Requests are served in the order of arrival.  A request takes what is free
  and, if that is not enough, waits in a queue and keeps what it has.  Returned
  permits go to the head of the queue until it has all it wants, then to the
  next request, and only what is left becomes free.  A request that has all it
  wants keeps its permits until its owner looks at it (`poll`).

  * `acquire` asks for one slot, `awaitAll` waits until no slot is held.
  * `poll`, `release`: what the owner of a request does next.
  * `inFlight`: how many permits are not free.
-/
import Concord.Error

namespace Concord

/-- What a request is for: one slot, or the moment when all slots are free. -/
inductive Purpose where
  | slot | all
  deriving DecidableEq, Repr

/-- A request under a handle, with the permits it has so far. -/
structure Waiter (ι : Type) where
  handle : ι
  purpose : Purpose
  got : Nat
  deriving DecidableEq, Repr

/-- A bounded pool with its requests. -/
structure Pool (ι : Type) where
  /-- How many permits there are. -/
  size : Nat
  /-- The permits nobody has. -/
  free : Nat
  /-- The requests that wait, oldest first. -/
  queue : List (Waiter ι)
  /-- The requests that have all they want and were not looked at since. -/
  ready : List (Waiter ι)
  /-- The slots that are held. -/
  held : List ι
  /-- The requests for all slots that are over. -/
  finished : List ι
  deriving DecidableEq, Repr

/-- What the owner of a request sees. -/
inductive Standing where
  | held | done | pending
  deriving DecidableEq, Repr

/-- What became of a request that its owner gave up. -/
inductive Departure where
  | released | dropped
  deriving DecidableEq, Repr

namespace Pool

variable {ι : Type} [DecidableEq ι]

/-- The largest number of slots, `2 ^ 32 - 1`. -/
def maxSize : Nat := 4294967295

/-- A pool of a size between one and `maxSize`. -/
def ofSize (size : Nat) : Except EngineError (Pool ι) :=
  if 1 ≤ size ∧ size ≤ maxSize then .ok ⟨size, size, [], [], [], []⟩
  else .error (.invalidPoolSize size)

/-- How many permits a request wants. -/
def wanted (size : Nat) : Purpose → Nat
  | .slot => 1
  | .all => size

/-- How many permits are not free. -/
def inFlight (p : Pool ι) : Nat := p.size - p.free

/-! ## Permits -/

/-- Hands permits to a queue, from its head on: the permits left, the requests
    that now have all they want, and those that still wait. -/
def distribute (size : Nat) : Nat → List (Waiter ι) → Nat × List (Waiter ι) × List (Waiter ι)
  | n, [] => (n, [], [])
  | n, w :: r =>
    let missing := wanted size w.purpose - w.got
    if missing ≤ n then
      let (left, served, waiting) := distribute size (n - missing) r
      (left, { w with got := w.got + missing } :: served, waiting)
    else (0, [], { w with got := w.got + n } :: r)

/-- Returns permits to the pool. -/
def give (p : Pool ι) (n : Nat) : Pool ι :=
  let (left, served, waiting) := distribute p.size n p.queue
  { p with free := p.free + left, ready := p.ready ++ served, queue := waiting }

/-- Lets the owner of a request have what it asked for: the slot, or the
    knowledge that all slots were free, whose permits are back at once. -/
def settle (p : Pool ι) (w : Waiter ι) : Standing × Pool ι :=
  match w.purpose with
  | .slot => (.held, { p with held := p.held ++ [w.handle] })
  | .all => (.done, { p with finished := p.finished ++ [w.handle] }.give w.got)

/-! ## Requests -/

/-- A new request: it takes what is free, and waits if that is not enough. -/
def request (p : Pool ι) (purpose : Purpose) (handle : ι) : Standing × Pool ι :=
  let want := wanted p.size purpose
  if want ≤ p.free then { p with free := p.free - want }.settle ⟨handle, purpose, want⟩
  else (.pending, { p with free := 0, queue := p.queue ++ [⟨handle, purpose, p.free⟩] })

/-- Asks for a slot. -/
def acquire (p : Pool ι) (handle : ι) : Standing × Pool ι := p.request .slot handle

/-- Asks for the moment when all slots are free. -/
def awaitAll (p : Pool ι) (handle : ι) : Standing × Pool ι := p.request .all handle

/-- Looks at a request; nothing for an unknown handle. -/
def poll (p : Pool ι) (handle : ι) : Option Standing × Pool ι :=
  if p.held.contains handle then (some .held, p)
  else if p.finished.contains handle then (some .done, p)
  else
    match p.ready.find? fun w => w.handle == handle with
    | some w =>
      let (standing, p) :=
        { p with ready := p.ready.filter fun v => v.handle != handle }.settle w
      (some standing, p)
    | none =>
      if p.queue.any fun w => w.handle == handle then (some .pending, p) else (none, p)

/-- Gives up a request and returns its permits; nothing for an unknown
    handle. -/
def release (p : Pool ι) (handle : ι) : Option Departure × Pool ι :=
  if p.held.contains handle then
    (some .released, { p with held := p.held.erase handle }.give 1)
  else if p.finished.contains handle then
    (some .dropped, { p with finished := p.finished.erase handle })
  else
    match p.ready.find? fun w => w.handle == handle with
    | some w =>
      (some .dropped, { p with ready := p.ready.filter fun v => v.handle != handle }.give w.got)
    | none =>
      match p.queue.find? fun w => w.handle == handle with
      | some w =>
        (some .dropped, { p with queue := p.queue.filter fun v => v.handle != handle }.give w.got)
      | none => (none, p)

/-- A held slot goes back to the pool. -/
theorem release_of_held {p : Pool ι} {handle : ι} (h : handle ∈ p.held) :
    p.release handle =
      (some .released, { p with held := p.held.erase handle }.give 1) := by
  simp [release, h]

end Pool

end Concord
