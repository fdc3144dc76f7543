/-
  Frame conditions of passes: what a pass keeps, against any server.

  A pass is made of entries of the log, queries, marks in the registry and the
  mutations of steps, of which no step deletes a protected item.  A relation
  that all of these respect (`Bears`) is kept by the whole pass.

  * `keeps_onInstance`, `keeps_overInstances`, `keeps_perform`.
  * `result_overInstances_cons` and the like: a pass on one instance after
    another.
-/
import Concord.Pass
import Concord.Proofs.Kind.Fetch

namespace Concord

open Session

variable {σ α : Type} [Item α] {R : World σ → World σ → Prop}

/-! ## Steps of plans -/

/-- A step that a plan may have: no protected item is deleted. -/
def Kind.Admits (kind : Kind α) (step : Action × α) : Prop :=
  step.1 = .delete → kind.isProtected step.2 = false

omit [Item α] in
theorem Plan.admits_of_mem_ofDiff {kind : Kind α} {label a : String} {diff : Diff α}
    {step : Action × α} (h : step ∈ (Plan.ofDiff label a diff kind.isProtected).steps) :
    kind.Admits step := by
  intro hdelete
  obtain ⟨action, x⟩ := step
  obtain rfl : action = .delete := hdelete
  have hx : x ∈ diff.toDelete ∧ kind.isProtected x = false := by
    simpa [Plan.steps, Plan.ofDiff] using h
  exact hx.2

namespace Pass

/-! ## One instance -/

/-- A relation that a pass on an instance respects in each of its moves. -/
structure Bears (R : World σ → World σ → Prop) (ctx : Context σ) (kind : Kind α) (a : String) :
    Prop where
  asks : kind.OnlyAsks
  reading : Reading R ctx.server a
  change : ctx.dryRun = false → ∀ step, kind.Admits step →
    ∀ m ∈ kind.mutations step.1 step.2, Keeps R (Session.change ctx.server a m)

variable [IsPreorder (World σ) R] {ctx : Context σ} {kind : Kind α} {a : String}

theorem keeps_issue {server : Server σ} : ∀ {ms : List Mutation},
    (∀ m ∈ ms, Keeps R (Session.change server a m)) → Keeps R (issue server a ms)
  | [], _ => .pure _
  | m :: ms, h => by
    refine (h m List.mem_cons_self).bind fun done => ?_
    cases done with
    | error e => exact .pure _
    | ok _ => exact keeps_issue fun m' hm' => h m' (List.mem_cons_of_mem m hm')

theorem keeps_execute {server : Server σ} (hrecord : ∀ es, Keeps R (Session.record es)) :
    ∀ {steps : List (Action × α)},
      (∀ step ∈ steps, ∀ m ∈ kind.mutations step.1 step.2,
        Keeps R (Session.change server a m)) →
      Keeps R (execute kind server a steps)
  | [], _ => .pure _
  | (action, x) :: steps, h => by
    refine (hrecord _).bind fun _ => ?_
    refine (keeps_issue (h (action, x) List.mem_cons_self)).bind fun done => ?_
    cases done with
    | error e => exact .pure _
    | ok _ =>
      refine Keeps.bind ?_ fun _ => .pure _
      exact keeps_execute hrecord fun step hstep => h step (List.mem_cons_of_mem _ hstep)

theorem keeps_onInstance (h : Bears R ctx kind a) : Keeps R (onInstance ctx kind a) := by
  refine (h.asks ctx a h.reading).bind fun fetched => ?_
  cases fetched with
  | error e => exact .pure _
  | ok observed =>
    refine (h.reading.record _).bind fun _ => ?_
    unfold carryOut
    dsimp only
    split
    · exact (h.reading.record _).bind fun _ => .pure _
    · split
      · exact (h.reading.record _).bind fun _ => .pure _
      · rename_i hdry
        refine Keeps.bind ?_ fun _ => .pure _
        refine keeps_execute h.reading.record fun step hstep => ?_
        exact h.change (by simpa using hdry) step (Plan.admits_of_mem_ofDiff hstep)

omit [Item α] in
theorem keeps_settle (hrecord : ∀ es, Keeps R (Session.record es))
    (hmark : ∀ b, Keeps R (markInvalid b)) (o : Outcome) : Keeps R (settle kind o) := by
  unfold settle
  cases o.error with
  | none => exact .pure _
  | some e => exact (hrecord _).bind fun _ => hmark _

/-! ## All instances -/

theorem keeps_get : Keeps R (get : Session σ (World σ)) := fun w => refl_of R w

/-- A relation is kept by the turns of instances if it is by the passes on each
    of them. -/
theorem keeps_overInstances_of_onInstance (hrecord : ∀ es, Keeps R (Session.record es))
    (hmark : ∀ b, Keeps R (markInvalid b)) :
    ∀ {L : List String}, (∀ b ∈ L, Keeps R (onInstance ctx kind b)) →
      Keeps R (overInstances ctx kind L)
  | [], _ => .pure _
  | b :: L, h => by
    have hrest := keeps_overInstances_of_onInstance hrecord hmark fun b' hb' =>
      h b' (List.mem_cons_of_mem b hb')
    refine keeps_get.bind fun w => ?_
    split
    · refine (h b List.mem_cons_self).bind fun o => ?_
      exact (keeps_settle hrecord hmark o).bind fun _ => hrest.bind fun _ => .pure _
    · exact (hrecord _).bind fun _ => hrest.bind fun _ => .pure _

theorem keeps_overInstances (hrecord : ∀ es, Keeps R (Session.record es))
    (hmark : ∀ b, Keeps R (markInvalid b)) {L : List String}
    (h : ∀ b ∈ L, Bears R ctx kind b) : Keeps R (overInstances ctx kind L) :=
  keeps_overInstances_of_onInstance hrecord hmark fun b hb => keeps_onInstance (h b hb)

theorem keeps_perform_of_onInstance (hrecord : ∀ es, Keeps R (Session.record es))
    (hmark : ∀ b, Keeps R (markInvalid b)) (h : ∀ b, Keeps R (onInstance ctx kind b)) :
    Keeps R (perform ctx kind) := by
  refine keeps_get.bind fun w => (hrecord _).bind fun _ => ?_
  exact (keeps_overInstances_of_onInstance hrecord hmark fun b _ => h b).bind fun _ => .pure _

theorem keeps_perform (hrecord : ∀ es, Keeps R (Session.record es))
    (hmark : ∀ b, Keeps R (markInvalid b)) (h : ∀ b, Bears R ctx kind b) :
    Keeps R (perform ctx kind) :=
  keeps_perform_of_onInstance hrecord hmark fun b => keeps_onInstance (h b)

end Pass

end Concord
