/-
  Kinds of objects, and the session in which the engine works.

  A `Session` carries the state of a server, the registry of instances and
  what was done so far: the calls that were issued and the log.  A `Kind` says
  what the engine has to know of one kind of object: what is wanted, how it is
  fetched, what must stay, and which mutations carry out a change.
-/
import Concord.Plan
import Concord.Pool.FanOut
import Concord.Registry
import Concord.Server.Basic

namespace Concord

/-! ## Sessions -/

/-- What a session carries, over the state `σ` of a server. -/
structure World (σ : Type) where
  server : σ
  registry : Registry
  /-- The calls issued, oldest first. -/
  calls : List Call
  /-- The log, oldest entry first. -/
  log : List Log.Entry

/-- Work with a server. -/
abbrev Session (σ : Type) := StateM (World σ)

/-- What stays the same during a run. -/
structure Context (σ : Type) where
  server : Server σ
  /-- Whether changes are only reported. -/
  dryRun : Bool
  /-- How many calls may be under way at once. -/
  poolSize : Nat
  /-- The order in which calls that are under way at once end. -/
  schedule : List Move

namespace Session

variable {σ : Type}

/-- Adds entries to the log. -/
def record (entries : List Log.Entry) : Session σ Unit :=
  modify fun w => { w with log := w.log ++ entries }

/-- Asks an instance. -/
def ask (server : Server σ) (address : String) (q : Query) :
    Session σ (Except ServerError q.Answer) := fun w =>
  let (answer, state) := server.ask address q w.server
  (answer, { w with server := state, calls := w.calls ++ [⟨address, .query q⟩] })

/-- Tells an instance to change. -/
def change (server : Server σ) (address : String) (m : Mutation) :
    Session σ (Except ServerError Unit) := fun w =>
  let (done, state) := server.change address m w.server
  (done, { w with server := state, calls := w.calls ++ [⟨address, .mutation m⟩] })

/-- Marks an instance invalid for the rest of the run. -/
def markInvalid (address : String) : Session σ Unit :=
  modify fun w =>
    { w with
      log := w.log ++ w.registry.markEntries address
      registry := w.registry.markInvalid address }

/-- Makes every instance valid again. -/
def resetRegistry : Session σ Unit :=
  modify fun w =>
    { w with log := w.log ++ w.registry.resetEntries, registry := w.registry.reset }

end Session

/-! ## Kinds -/

/-- A kind of object with items `α`. -/
structure Kind (α : Type) where
  /-- The label in logs and reports. -/
  label : String
  /-- The items wanted on an instance. -/
  desired : String → List α
  /-- Fetches the items of an instance. -/
  fetch : {σ : Type} → Context σ → String → Session σ (Except Error (List α))
  /-- Whether an item must never be deleted. -/
  isProtected : α → Bool
  /-- A detail shown with a pending change. -/
  describe : α → Option String
  /-- The mutations that carry out a change, in order. -/
  mutations : Action → α → List Mutation
  /-- What is logged before a change is carried out. -/
  notice : Action → α → List Log.Entry

end Concord
