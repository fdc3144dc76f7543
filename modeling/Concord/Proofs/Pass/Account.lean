/-
  What a live pass has done and what it says it has done, against any server.

  The changes of an outcome are the steps of a plan.  A live pass issues the
  mutations of the steps one after the other, up to the first mutation that
  fails, and counts the steps that were carried out.  So the changes and the
  count can be read as a list of calls that were answered, and what comes after
  them belongs to one change that failed.

  * `KindName.calls`: the calls that a change stands for.
  * `Pass.Accounts`: an outcome and the mutations issued on its instance.
  * `exchanges_execute`: the calls of a plan that is carried out.
  * `outcomes_account_for_calls`: whole passes of every kind.
-/
import Concord.Proofs.Exchange
import Concord.Proofs.Kind.Family
import Concord.Proofs.Pass.Forecast
import Concord.Proofs.Plan.Goal

namespace Concord

open Session

variable {σ α : Type}

/-! ## Changes and calls -/

/-- The name of the call that issues a mutation, and the object named by it. -/
def Mutation.target (m : Mutation) : String × Option String :=
  ((Operation.mutation m).name, (Operation.mutation m).key?)

/-- The calls that a change of a kind stands for, all of them on the object of
    the change: an audit device is disabled and enabled again, and any other
    change is one call. -/
def KindName.calls (k : KindName) (c : Change) : List (String × Option String) :=
  (match k, c.action with
    | .audit, .create => ["enable_audit_device"]
    | .audit, .update => ["disable_audit_device", "enable_audit_device"]
    | .audit, .delete => ["disable_audit_device"]
    | .engine, .create => ["enable_secrets_engine"]
    | .engine, .update => ["tune_secrets_engine"]
    | .engine, .delete => ["disable_secrets_engine"]
    | .policy, .create | .policy, .update => ["write_policy"]
    | .policy, .delete => ["delete_policy"]).map fun name => (name, some c.key)

namespace Kind

/-- A step as it is reported. -/
def report [Item α] (kind : Kind α) (a : String) (step : Action × α) : Change where
  action := step.1
  kind := kind.label
  address := a
  key := Item.key step.2
  typeLabel := Item.typeLabel step.2
  description := Item.description step.2
  detail := kind.describe step.2

/-- The mutations of steps, in order. -/
def mutationsOf (kind : Kind α) (steps : List (Action × α)) : List Mutation :=
  steps.flatMap fun step => kind.mutations step.1 step.2

end Kind

/-- The mutations of a step are the calls that its report stands for. -/
theorem KindName.target_mutations (k : KindName) (items : List k.Object) (a : String)
    (step : Action × k.Object) :
    ((k.toKind items).mutations step.1 step.2).map Mutation.target =
      k.calls ((k.toKind items).report a step) := by
  obtain ⟨action, x⟩ := step
  cases k <;> cases action <;> rfl

/-! ## The steps of a plan -/

namespace Plan

variable [Item α]

theorem changes_eq_map (p : Plan α) (detail : α → Option String) :
    p.changes detail = p.creates.map (p.change detail .create) ++
      p.updates.map (p.change detail .update) ++ p.deletes.map (p.change detail .delete) := by
  simp [changes, steps, Function.comp_def]

/-- The items of a plan to which an action is done. -/
def part (p : Plan α) : Action → List α
  | .create => p.creates
  | .update => p.updates
  | .delete => p.deletes

/-- The reports of one action among those of some items. -/
theorem filter_map_change (p : Plan α) (detail : α → Option String)
    (action action' : Action) (xs : List α) :
    (xs.map (p.change detail action)).filter (fun c => c.action = action') =
      if action = action' then xs.map (p.change detail action) else [] := by
  have hall : ∀ c ∈ xs.map (p.change detail action), c.action = action := by
    intro c hc
    obtain ⟨x, -, rfl⟩ := List.mem_map.1 hc
    rfl
  by_cases h : action = action'
  · rw [if_pos h]
    exact List.filter_eq_self.2 fun c hc => decide_eq_true ((hall c hc).trans h)
  · rw [if_neg h]
    refine List.filter_eq_nil_iff.2 fun c hc => ?_
    simpa [hall c hc] using h

/-- The changes of one action. -/
theorem filter_changes (p : Plan α) (detail : α → Option String) (action : Action) :
    (p.changes detail).filter (fun c => c.action = action) =
      (p.part action).map (p.change detail action) := by
  cases action <;> simp [changes_eq_map, filter_map_change, part]

/-- Creations come before updates, and updates before deletions. -/
theorem changes_ordered (p : Plan α) (detail : α → Option String) :
    p.changes detail =
      (p.changes detail).filter (fun c => c.action = .create) ++
        (p.changes detail).filter (fun c => c.action = .update) ++
        (p.changes detail).filter (fun c => c.action = .delete) := by
  rw [filter_changes, filter_changes, filter_changes]
  exact changes_eq_map p detail

end Plan

namespace Pass

/-! ## Mutations one after the other -/

/-- Mutations that were carried out on an instance. -/
def carriedOut (a : String) (ms : List Mutation) : List Exchange :=
  ms.map fun m => ⟨⟨a, .mutation m⟩, none⟩

/-- Mutations issued on an instance up to one of them that failed. -/
def BrokenOff (a : String) (ms : List Mutation) (e : ServerError) (told : List Exchange) : Prop :=
  ∃ pre m, pre ++ [m] <+: ms ∧ told = carriedOut a pre ++ [⟨⟨a, .mutation m⟩, some e⟩]

variable (server : Server σ) (a : String)

/-- The calls that issue mutations: all of them, or all up to the first that
    fails. -/
theorem exchanges_issue (ms : List Mutation) (w : World σ) :
    match (issue server a ms).result w with
    | .ok _ => World.Exchanges server (carriedOut a ms) w ((issue server a ms).after w)
    | .error e => ∃ told, BrokenOff a ms e told ∧
        World.Exchanges server told w ((issue server a ms).after w) := by
  induction ms generalizing w with
  | nil => exact World.exchanges_nil rfl rfl
  | cons m ms ih =>
    have hm := World.exchanges_change server a m w
    rw [issue, result_bind, after_bind]
    cases hdone : (Session.change server a m).result w with
    | error e =>
      rw [hdone] at hm
      exact ⟨_, ⟨[], m, ⟨ms, rfl⟩, rfl⟩, hm⟩
    | ok _ =>
      rw [hdone] at hm
      have hrest := ih ((Session.change server a m).after w)
      dsimp only
      cases hms : (issue server a ms).result ((Session.change server a m).after w) with
      | ok _ =>
        rw [hms] at hrest
        exact hm.trans hrest
      | error e =>
        rw [hms] at hrest
        obtain ⟨told, ⟨pre, m', ⟨post, hpost⟩, htold⟩, hexchanges⟩ := hrest
        refine ⟨_, ⟨m :: pre, m', ⟨post, ?_⟩, ?_⟩, hm.trans hexchanges⟩
        · rw [← hpost]
          rfl
        · rw [htold]
          rfl

/-- **The calls that carry out steps**: those of the steps that are counted,
    and then the first calls of the next one if that fails. -/
theorem exchanges_execute (kind : Kind α) [Item α] (steps : List (Action × α)) (w : World σ) :
    let done := (execute kind server a steps).result w
    ∃ rest, World.Exchanges server
        (carriedOut a (kind.mutationsOf (steps.take done.1)) ++ rest) w
        ((execute kind server a steps).after w) ∧
      (done.1 = steps.length ∧ done.2 = none ∧ rest = [] ∨
        ∃ step e, steps[done.1]? = some step ∧ done.2 = some e ∧
          BrokenOff a (kind.mutations step.1 step.2) e rest) := by
  induction steps generalizing w with
  | nil => exact ⟨[], World.exchanges_nil rfl rfl, Or.inl ⟨rfl, rfl, rfl⟩⟩
  | cons step steps ih =>
    obtain ⟨action, x⟩ := step
    let w₀ := (Session.record (stepEntry kind action x :: kind.notice action x)).after w
    let w₁ := (issue server a (kind.mutations action x)).after w₀
    have hrecord : World.Exchanges server [] w w₀ := World.exchanges_nil rfl rfl
    have hissue := exchanges_issue server a (kind.mutations action x) w₀
    intro done
    cases hdone : (issue server a (kind.mutations action x)).result w₀ with
    | error e =>
      rw [hdone] at hissue
      obtain ⟨told, hbroken, hexchanges⟩ := hissue
      have hresult : done = (0, some e) ∧
          (execute kind server a ((action, x) :: steps)).after w = w₁ := by
        show (execute kind server a ((action, x) :: steps)).result w = _ ∧ _
        rw [execute, result_bind, after_bind, result_bind, after_bind, hdone]
        exact ⟨rfl, rfl⟩
      rw [hresult.1, hresult.2]
      exact ⟨told, hrecord.trans hexchanges, Or.inr ⟨(action, x), e, rfl, rfl, hbroken⟩⟩
    | ok _ =>
      rw [hdone] at hissue
      obtain ⟨rest, hexchanges, hrest⟩ := ih w₁
      have hresult : done = (((execute kind server a steps).result w₁).1 + 1,
            ((execute kind server a steps).result w₁).2) ∧
          (execute kind server a ((action, x) :: steps)).after w =
            (execute kind server a steps).after w₁ := by
        show (execute kind server a ((action, x) :: steps)).result w = _ ∧ _
        rw [execute, result_bind, after_bind, result_bind, after_bind, hdone]
        exact ⟨rfl, rfl⟩
      rw [hresult.1, hresult.2]
      refine ⟨rest, ?_, ?_⟩
      · have hall := (hrecord.trans hissue).trans hexchanges
        rw [List.nil_append, ← List.append_assoc, carriedOut, carriedOut, ← List.map_append] at hall
        exact hall
      · refine hrest.imp (fun ⟨hlength, hnone, hnil⟩ => ⟨?_, hnone, hnil⟩) fun h => h
        rw [hlength, List.length_cons]

/-! ## One instance -/

variable {server a} [Item α] {ctx : Context σ} {kind : Kind α} {o : Outcome}

/-- An outcome, the steps that its changes stand for, and the mutating calls
    that were issued on its instance: those of the steps that were carried out,
    and the rest, if the next step failed. -/
structure Accounts (kind : Kind α) (fetched : Prop) (o : Outcome) (steps : List (Action × α))
    (told rest : List Exchange) : Prop where
  changes : o.changes = steps.map (kind.report o.address)
  /-- What is created or updated is wanted. -/
  wanted : ∀ step ∈ steps, step.1 ≠ .delete → step.2 ∈ kind.desired o.address
  ordered : o.changes =
    o.changes.filter (fun c => c.action = .create) ++
      o.changes.filter (fun c => c.action = .update) ++
      o.changes.filter (fun c => c.action = .delete)
  told : told = carriedOut o.address (kind.mutationsOf (steps.take o.applied)) ++ rest
  complete : o.applied = o.changes.length ↔ o.error = none ∨ ¬ fetched
  finished : o.error = none ∨ ¬ fetched → rest = []
  broken : fetched → ∀ message, o.error = some message →
    ∃ step e, steps[o.applied]? = some step ∧ message = (Error.server e).message ∧
      BrokenOff o.address (kind.mutations step.1 step.2) e rest

/-- The turn of an instance between two worlds: queries at its address, and
    then the mutations of which the outcome gives account. -/
def Accounted (ctx : Context σ) (kind : Kind α) (o : Outcome) (w w' : World σ) : Prop :=
  ∃ asked steps told rest,
    World.Exchanges ctx.server (asked ++ told) w w' ∧
      (∀ e ∈ asked, e.call.address = o.address ∧ e.call.Asks) ∧
      Accounts kind (∃ items, (kind.fetch ctx o.address).result w = .ok items) o steps told rest

theorem wanted_planOf {observed : List α} {step : Action × α}
    (h : step ∈ (planOf kind a observed).steps) (hne : step.1 ≠ .delete) :
    step.2 ∈ kind.desired a := by
  have hstep := Plan.mem_steps_iff.1 h
  cases haction : step.1 with
  | create =>
    rw [haction] at hstep
    exact Diff.mem_of_mem_withVerdict hstep
  | update =>
    rw [haction] at hstep
    exact Diff.mem_of_mem_withVerdict hstep
  | delete => exact absurd haction hne

/-- The calls of a live pass after the fetch, by its outcome. -/
theorem exchanges_carryOut (kind : Kind α) (hlive : ctx.dryRun = false) (plan : Plan α)
    (w : World σ) :
    let o := (carryOut ctx kind plan).result w
    ∃ rest, World.Exchanges ctx.server
        (carriedOut plan.address (kind.mutationsOf (plan.steps.take o.applied)) ++ rest) w
        ((carryOut ctx kind plan).after w) ∧
      (o.applied = plan.steps.length ∧ o.error = none ∧ rest = [] ∨
        ∃ step e, plan.steps[o.applied]? = some step ∧
          o.error = some (Error.server e).message ∧
          BrokenOff plan.address (kind.mutations step.1 step.2) e rest) := by
  intro o
  by_cases hempty : plan.isEmpty = true
  · have ho : o = planned ctx kind plan := (carryOut_of_isEmpty hempty).1
    rw [ho, (carryOut_of_isEmpty hempty).2, Plan.isEmpty_iff.1 hempty]
    exact ⟨[], World.exchanges_nil rfl rfl, Or.inl ⟨rfl, rfl, rfl⟩⟩
  · obtain ⟨hresult, hafter⟩ := @carryOut_of_live σ α _ ctx kind w plan hlive hempty
    obtain ⟨rest, hexchanges, hrest⟩ :=
      exchanges_execute ctx.server plan.address kind plan.steps w
    have happlied : o.applied =
        ((execute kind ctx.server plan.address plan.steps).result w).1 :=
      congrArg (·.applied) hresult
    have herror : o.error = ((execute kind ctx.server plan.address plan.steps).result w).2.map
        fun e => (Error.server e).message := congrArg (·.error) hresult
    rw [happlied, herror, hafter]
    refine ⟨rest, hexchanges, hrest.imp ?_ ?_⟩
    · rintro ⟨hlength, hnone, hnil⟩
      exact ⟨hlength, congrArg (Option.map _) hnone, hnil⟩
    · rintro ⟨step, e, hstep, hsome, hbroken⟩
      exact ⟨step, e, hstep, congrArg (Option.map _) hsome, hbroken⟩

/-- An outcome of a pass after the fetch gives account of the calls. -/
theorem accounts_of_carryOut {fetched : Prop} (hfetched : fetched) {observed : List α}
    {rest : List Exchange} (hchanges : o.changes = (planOf kind a observed).changes kind.describe)
    (haddress : o.address = a)
    (hrest : o.applied = (planOf kind a observed).steps.length ∧ o.error = none ∧ rest = [] ∨
      ∃ step e, (planOf kind a observed).steps[o.applied]? = some step ∧
        o.error = some (Error.server e).message ∧
        BrokenOff a (kind.mutations step.1 step.2) e rest) :
    Accounts kind fetched o (planOf kind a observed).steps
      (carriedOut a (kind.mutationsOf ((planOf kind a observed).steps.take o.applied)) ++ rest)
      rest := by
  subst haddress
  have hlength : o.changes.length = (planOf kind o.address observed).steps.length := by
    rw [hchanges, Plan.length_changes]
  refine
    { changes := hchanges
      wanted := fun _ => wanted_planOf
      ordered := by
        rw [hchanges]
        exact Plan.changes_ordered _ _
      told := rfl
      complete := ?_
      finished := ?_
      broken := ?_ }
  · rcases hrest with ⟨happlied, hnone, -⟩ | ⟨step, e, hstep, hsome, -⟩
    · simp [hlength, happlied, hnone]
    · have hlt : o.applied < o.changes.length := by
        rw [hlength]
        exact (List.getElem?_eq_some_iff.1 hstep).1
      simp [hsome, hfetched, Nat.ne_of_lt hlt]
  · rintro (hnone | hunfetched)
    · rcases hrest with ⟨-, -, hnil⟩ | ⟨step, e, -, hsome, -⟩
      · exact hnil
      · rw [hnone] at hsome
        cases hsome
    · exact absurd hfetched hunfetched
  · intro _ message hmessage
    rcases hrest with ⟨-, hnone, -⟩ | ⟨step, e, hstep, hsome, hbroken⟩
    · rw [hnone] at hmessage
      cases hmessage
    · exact ⟨step, e, hstep, Option.some.inj (hmessage.symm.trans hsome), hbroken⟩

/-- **A live pass on an instance** does what its outcome says. -/
theorem accounted_onInstance (hkind : kind.OnlyAsks) (hlive : ctx.dryRun = false) (a : String)
    (w : World σ) :
    Accounted ctx kind ((onInstance ctx kind a).result w) w ((onInstance ctx kind a).after w) := by
  unfold Accounted
  rw [address_onInstance]
  obtain ⟨asked, hasked, hqueries⟩ := hkind ctx a (World.reading_asked ctx.server a) w
  cases hfetch : (kind.fetch ctx a).result w with
  | error e =>
    obtain ⟨hresult, hafter⟩ := onInstance_of_fetch_error hfetch
    rw [hresult, hafter]
    refine ⟨asked, [], [], [], by rwa [List.append_nil], hqueries, ?_⟩
    have hunfetched : ¬ ∃ items : List α, (Except.error e : Except Error (List α)) = .ok items :=
      fun ⟨_, h⟩ => by cases h
    exact
      { changes := rfl
        wanted := fun _ h => by cases h
        ordered := rfl
        told := rfl
        complete := iff_of_true rfl (Or.inr hunfetched)
        finished := fun _ => rfl
        broken := fun h => absurd h hunfetched }
  | ok observed =>
    obtain ⟨hresult, hafter⟩ := onInstance_of_fetch_ok hfetch
    let plan := planOf kind a observed
    let w₁ := fetched ctx kind a observed w
    obtain ⟨rest, hexchanges, hrest⟩ :=
      exchanges_carryOut kind hlive plan w₁
    have hrecord : World.Exchanges ctx.server [] ((kind.fetch ctx a).after w) w₁ :=
      World.exchanges_nil rfl rfl
    have hall := (hasked.trans hrecord).trans hexchanges
    rw [List.append_nil] at hall
    rw [hresult, hafter]
    refine ⟨asked, plan.steps, _, rest, hall, hqueries, ?_⟩
    exact accounts_of_carryOut ⟨observed, rfl⟩ (foretells_carryOut plan w₁).changes
      (address_carryOut plan w₁) hrest

/-! ## All instances -/

/-- Outcomes one after the other, each of the turn of an instance that begins
    where the turn before has ended, with no call in between. -/
inductive Conducted (ctx : Context σ) (kind : Kind α) : List Outcome → World σ → World σ → Prop
  | nil (w : World σ) : Conducted ctx kind [] w w
  | silent {os : List Outcome} {w w₁ w' : World σ} :
      World.Exchanges ctx.server [] w w₁ → Conducted ctx kind os w₁ w' → Conducted ctx kind os w w'
  | turn {o : Outcome} {os : List Outcome} {w w₁ w' : World σ} :
      o = (onInstance ctx kind o.address).result w → Accounted ctx kind o w w₁ →
        Conducted ctx kind os w₁ w' → Conducted ctx kind (o :: os) w w'

omit [Item α] in
theorem exchanges_settle (o : Outcome) (w : World σ) :
    World.Exchanges server [] w ((settle kind o).after w) := by
  unfold settle
  cases o.error <;> exact World.exchanges_nil rfl rfl

theorem conducted_overInstances (hkind : kind.OnlyAsks) (hlive : ctx.dryRun = false)
    (L : List String) (w : World σ) :
    Conducted ctx kind ((overInstances ctx kind L).result w).1 w
      ((overInstances ctx kind L).after w) := by
  induction L generalizing w with
  | nil => exact .nil w
  | cons a L ih =>
    by_cases h : w.registry.isValid a = true
    · rw [result_overInstances_of_valid h, after_overInstances_of_valid h]
      refine .turn ?_ (accounted_onInstance hkind hlive a w) (.silent (exchanges_settle _ _) (ih _))
      rw [result_turn, address_onInstance]
    · have hskip : World.Exchanges ctx.server [] w (skip kind a w) := World.exchanges_nil rfl rfl
      rw [result_overInstances_of_invalid h, after_overInstances_of_invalid h]
      exact .silent hskip (ih (skip kind a w))

theorem conducted_perform (hkind : kind.OnlyAsks) (hlive : ctx.dryRun = false) (w : World σ) :
    Conducted ctx kind ((perform ctx kind).result w).outcomes w ((perform ctx kind).after w) := by
  have hopened : World.Exchanges ctx.server [] w (opened kind w) := World.exchanges_nil rfl rfl
  exact .silent hopened (conducted_overInstances hkind hlive w.registry.valid (opened kind w))

/-- A dry pass asks, and changes nothing. -/
theorem asks_perform_of_dryRun (hkind : kind.OnlyAsks) (hdry : ctx.dryRun = true) (w : World σ) :
    Issues Call.Asks w ((perform ctx kind).after w) := by
  have hsilent : ∀ es, Keeps (Issues Call.Asks) (Session.record es : Session σ Unit) := fun _ _ =>
    issues_of_calls_eq rfl
  have hbears : ∀ b, Bears (Issues Call.Asks) ctx kind b := fun b =>
    { asks := hkind
      reading := ⟨hsilent, fun q _ => issues_of_calls_append rfl ⟨q, rfl⟩⟩
      change := fun hlive => by
        rw [hdry] at hlive
        cases hlive }
  exact keeps_perform hsilent (fun _ _ => issues_of_calls_eq rfl) hbears w

/-- **The report tells what was done.**  In a live pass of any kind, whatever
    calls fail, the mutations issued in the turn of an instance are those that
    the changes counted in its outcome stand for, and then, if a change has
    failed, those of this one up to the mutation that failed.  In a dry pass no
    mutation is issued. -/
theorem outcomes_account_for_calls (k : KindName) (items : List k.Object) (server : Server σ)
    (poolSize : Nat) (schedule : List Move) (w : World σ) :
    let kind := k.toKind items
    let live : Context σ := ⟨server, false, poolSize, schedule⟩
    let dry : Context σ := ⟨server, true, poolSize, schedule⟩
    (∀ a step, (kind.mutations step.1 step.2).map Mutation.target =
        k.calls (kind.report a step)) ∧
      Conducted live kind ((perform live kind).result w).outcomes w ((perform live kind).after w) ∧
      Issues Call.Asks w ((perform dry kind).after w) :=
  ⟨fun a step => k.target_mutations items a step,
    conducted_perform (k.serves items).asks rfl w,
    asks_perform_of_dryRun (k.serves items).asks rfl w⟩

end Pass

end Concord
