/-
  What a pass reports of an instance, by what was fetched from it.

  The changes, the items in sync and the items spared are settled before
  anything is carried out, so a dry run and a live one that fetch the same
  report the same (`Outcome.Foretells`).

  * `foretells_onInstance`: the outcome on an instance by its forecast.
  * `error_onInstance_of_dryRun`: a dry pass fails only where the fetch fails.
-/
import Concord.Proofs.Pass.Turns

namespace Concord

/-- Two outcomes with the same plan, whatever was carried out of it. -/
structure Outcome.Foretells (o o' : Outcome) : Prop where
  address : o'.address = o.address
  changes : o'.changes = o.changes
  unchanged : o'.unchanged = o.unchanged
  spared : o'.spared = o.spared

theorem Outcome.Foretells.symm {o o' : Outcome} (h : o.Foretells o') : o'.Foretells o :=
  ⟨h.address.symm, h.changes.symm, h.unchanged.symm, h.spared.symm⟩

theorem Outcome.Foretells.trans {o o' o'' : Outcome} (h : o.Foretells o')
    (h' : o'.Foretells o'') : o.Foretells o'' :=
  ⟨h'.address.trans h.address, h'.changes.trans h.changes, h'.unchanged.trans h.unchanged,
    h'.spared.trans h.spared⟩

namespace Pass

open Session

variable {σ α : Type} [Item α] {ctx : Context σ} {kind : Kind α} {a : String} {w : World σ}

/-! ## After the fetch -/

/-- The plan for the items observed on an instance. -/
def planOf (kind : Kind α) (a : String) (observed : List α) : Plan α :=
  Plan.ofDiff kind.label a (Diff.of (kind.desired a) observed) kind.isProtected

/-- The world in which the plan for what was fetched is carried out. -/
def fetched (ctx : Context σ) (kind : Kind α) (a : String) (observed : List α) (w : World σ) :
    World σ :=
  (Session.record (⟨.debug, "fetched items",
    [("desired", .count (kind.desired a).length), ("observed", .count observed.length)]⟩ ::
    Diff.log (kind.desired a) observed)).after ((kind.fetch ctx a).after w)

theorem onInstance_of_fetch_error {e : Error} (h : (kind.fetch ctx a).result w = .error e) :
    (onInstance ctx kind a).result w = Outcome.unfetched a ctx.dryRun e ∧
      (onInstance ctx kind a).after w = (kind.fetch ctx a).after w := by
  rw [onInstance, result_bind, after_bind, h]
  exact ⟨rfl, rfl⟩

theorem onInstance_of_fetch_ok {observed : List α}
    (h : (kind.fetch ctx a).result w = .ok observed) :
    (onInstance ctx kind a).result w =
        (carryOut ctx kind (planOf kind a observed)).result (fetched ctx kind a observed w) ∧
      (onInstance ctx kind a).after w =
        (carryOut ctx kind (planOf kind a observed)).after (fetched ctx kind a observed w) := by
  rw [onInstance, result_bind, after_bind, h]
  exact ⟨rfl, rfl⟩

/-! ## Carrying out a plan, or not -/

theorem carryOut_of_isEmpty {plan : Plan α} (h : plan.isEmpty = true) :
    (carryOut ctx kind plan).result w = planned ctx kind plan ∧
      (carryOut ctx kind plan).after w = (Session.record
        [⟨.debug, "in sync", [("unchanged", .count plan.unchanged)]⟩]).after w := by
  unfold carryOut
  dsimp only
  rw [if_pos h]
  exact ⟨rfl, rfl⟩

theorem carryOut_of_dryRun {plan : Plan α} (hdry : ctx.dryRun = true) :
    (carryOut ctx kind plan).result w = planned ctx kind plan ∧
      ∃ es, (carryOut ctx kind plan).after w = (Session.record es).after w := by
  by_cases h : plan.isEmpty = true
  · exact ⟨(carryOut_of_isEmpty h).1, _, (carryOut_of_isEmpty h).2⟩
  · unfold carryOut
    dsimp only
    rw [if_neg h, if_pos hdry]
    exact ⟨rfl, _, rfl⟩

theorem carryOut_of_live {plan : Plan α} (hlive : ctx.dryRun = false)
    (h : ¬ plan.isEmpty = true) :
    (carryOut ctx kind plan).result w =
        { planned ctx kind plan with
          applied := ((execute kind ctx.server plan.address plan.steps).result w).1
          error := ((execute kind ctx.server plan.address plan.steps).result w).2.map
            fun e => (Error.server e).message } ∧
      (carryOut ctx kind plan).after w =
        (execute kind ctx.server plan.address plan.steps).after w := by
  unfold carryOut
  dsimp only
  rw [if_neg h, hlive]
  exact ⟨rfl, rfl⟩

/-! ## Forecasts -/

/-- The outcome that what was fetched from an instance leads one to expect. -/
def forecast (ctx : Context σ) (kind : Kind α) (a : String) : Except Error (List α) → Outcome
  | .error e => Outcome.unfetched a ctx.dryRun e
  | .ok observed => planned ctx kind (planOf kind a observed)

theorem foretells_carryOut (plan : Plan α) (w : World σ) :
    (planned ctx kind plan).Foretells ((carryOut ctx kind plan).result w) := by
  by_cases h : plan.isEmpty = true
  · rw [(carryOut_of_isEmpty h).1]
    exact ⟨rfl, rfl, rfl, rfl⟩
  · cases hdry : ctx.dryRun with
    | true =>
      rw [(carryOut_of_dryRun hdry).1]
      exact ⟨rfl, rfl, rfl, rfl⟩
    | false =>
      rw [(carryOut_of_live hdry h).1]
      exact ⟨rfl, rfl, rfl, rfl⟩

/-- **The outcome on an instance** is the forecast for what was fetched. -/
theorem foretells_onInstance (w : World σ) :
    (forecast ctx kind a ((kind.fetch ctx a).result w)).Foretells
      ((onInstance ctx kind a).result w) := by
  cases h : (kind.fetch ctx a).result w with
  | error e =>
    rw [(onInstance_of_fetch_error h).1]
    exact ⟨rfl, rfl, rfl, rfl⟩
  | ok observed =>
    rw [(onInstance_of_fetch_ok h).1]
    exact foretells_carryOut _ _

/-- Two forecasts from the same do not depend on the mode. -/
theorem foretells_forecast {σ' : Type} (ctx' : Context σ') (seen : Except Error (List α)) :
    (forecast ctx kind a seen).Foretells (forecast ctx' kind a seen) := by
  cases seen <;> exact ⟨rfl, rfl, rfl, rfl⟩

theorem error_onInstance_of_fetch_error {e : Error} (h : (kind.fetch ctx a).result w = .error e) :
    ((onInstance ctx kind a).result w).error = some e.message := by
  rw [(onInstance_of_fetch_error h).1]
  rfl

theorem error_onInstance_of_dryRun (hdry : ctx.dryRun = true) {observed : List α}
    (h : (kind.fetch ctx a).result w = .ok observed) :
    ((onInstance ctx kind a).result w).error = none := by
  rw [(onInstance_of_fetch_ok h).1, (carryOut_of_dryRun hdry).1]
  rfl

end Pass

end Concord
