/-
  What a failing change leaves behind, against any server whose failing calls
  have no effect.

  A change that is one call is carried out or not.  The update of an audit
  device is two, and if the device cannot be enabled again it stays disabled.
  So a live pass leaves an instance as it was, with the changes that are counted
  carried out, and at most the first half of such an update beyond them.

  * `Server.Atomic`: such a server; `Server.CarriesOut`: mutations on it.
  * `view_of_failed`: one change that fails.
  * `Outcome.Leaves`: an instance before and after its turn.
  * `failing_changes_leave`: changes and passes of every kind.
-/
import Concord.Proofs.Pass.Account
import Concord.Server.Faults

namespace Concord

open Session

variable {σ τ : Type}

/-! ## Calls without effect -/

/-- A server whose failing calls have no effect on what `view` shows of the
    instances.  Queries have none either, and a mutation has none on any other
    instance. -/
structure Server.Atomic (server : Server σ) (view : String → σ → τ) : Prop where
  ask : ∀ a q s b, view b (server.ask a q s).2 = view b s
  failed : ∀ a m s e, (server.change a m s).1 = .error e →
    view a (server.change a m s).2 = view a s
  others : ∀ a m s b, b ≠ a → view b (server.change a m s).2 = view b s

/-- An exchange without effect on an instance: a query, a call that failed, or
    a call to another instance. -/
def Exchange.Idle (b : String) (e : Exchange) : Prop :=
  e.call.Asks ∨ e.failure ≠ none ∨ e.call.address ≠ b

theorem exists_of_failure?_ne_none {β : Type} {x : Except ServerError β} (h : failure? x ≠ none) :
    ∃ e, x = .error e := by
  cases x with
  | error e => exact ⟨e, rfl⟩
  | ok _ => exact absurd rfl h

theorem Server.attempt_eq_none_iff {server : Server σ} {s : σ} {a : String} {m : Mutation} :
    (server.attempt s ⟨a, .mutation m⟩).1 = none ↔ (server.change a m s).1 = .ok () := by
  show failure? (server.change a m s).1 = none ↔ _
  cases (server.change a m s).1 <;> simp [failure?]

namespace Server.Atomic

variable {server : Server σ} {view : String → σ → τ} (h : server.Atomic view)

include h

theorem view_attempt {s : σ} {c : Call} {b : String}
    (hidle : c.Asks ∨ (server.attempt s c).1 ≠ none ∨ c.address ≠ b) :
    view b (server.attempt s c).2 = view b s := by
  obtain ⟨a, operation⟩ := c
  cases operation with
  | query q => exact h.ask a q s b
  | mutation m =>
    rcases hidle with ⟨q, hq⟩ | hfailed | hother
    · cases hq
    · obtain ⟨e, he⟩ := exists_of_failure?_ne_none hfailed
      by_cases hb : b = a
      · subst hb
        exact h.failed b m s e he
      · exact h.others a m s b hb
    · exact h.others a m s b (Ne.symm hother)

theorem view_of_idle {es : List Exchange} {s s' : σ} {b : String}
    (hes : server.Conducts es s s') (hidle : ∀ e ∈ es, e.Idle b) : view b s' = view b s := by
  induction hes with
  | nil s => rfl
  | @cons e es s s' hfailure _ ih =>
    obtain ⟨hfirst, hrest⟩ := List.forall_mem_cons.1 hidle
    exact (ih hrest).trans (h.view_attempt (hfailure ▸ hfirst))

end Server.Atomic

/-- Mutations that are all carried out on an instance, one after the other:
    what is shown of it before and after. -/
inductive Server.CarriesOut (server : Server σ) (view : String → σ → τ) (a : String) :
    List Mutation → τ → τ → Prop
  | nil (t : τ) : CarriesOut server view a [] t t
  | cons {m : Mutation} {ms : List Mutation} {s : σ} {t : τ} :
      (server.change a m s).1 = .ok () →
      CarriesOut server view a ms (view a (server.change a m s).2) t →
      CarriesOut server view a (m :: ms) (view a s) t

theorem Server.carriesOut_of_conducts {server : Server σ} (view : String → σ → τ) {a : String}
    {ms : List Mutation} {s s' : σ} (h : server.Conducts (Pass.carriedOut a ms) s s') :
    server.CarriesOut view a ms (view a s) (view a s') := by
  induction ms generalizing s with
  | nil =>
    cases h
    exact .nil _
  | cons m ms ih =>
    cases h with
    | cons hfailure hrest =>
      exact .cons (Server.attempt_eq_none_iff.1 hfailure) (ih hrest)

/-! ## One change -/

/-- The step is the update of an audit device, and the device is disabled. -/
def KindName.Halfway (server : Server σ) (a : String) (k : KindName) (step : Action × k.Object)
    (s : σ) : Prop :=
  k = .audit ∧ step.1 = .update ∧ (server.change a (.disableAudit (Item.key step.2)) s).1 = .ok ()

namespace Pass

variable {server : Server σ} {view : String → σ → τ} {a : String}

/-- Where the mutations of a step break off: before the first of them, or after
    an audit device has been disabled. -/
theorem prefix_of_brokenOff (k : KindName) (items : List k.Object) {step : Action × k.Object}
    {pre : List Mutation} {m : Mutation}
    (h : pre ++ [m] <+: (k.toKind items).mutations step.1 step.2) :
    pre = [] ∨ k = .audit ∧ step.1 = .update ∧ pre = [.disableAudit (Item.key step.2)] := by
  obtain ⟨action, x⟩ := step
  by_cases haudit : k = .audit ∧ action = .update
  · obtain ⟨rfl, rfl⟩ := haudit
    cases pre with
    | nil => exact Or.inl rfl
    | cons first rest =>
      obtain ⟨rfl, hrest⟩ := List.cons_prefix_cons.1 h
      have hlength : (rest ++ [m]).length ≤ 1 := hrest.length_le
      obtain rfl : rest = [] := List.eq_nil_of_length_eq_zero (by simpa using hlength)
      exact Or.inr ⟨rfl, rfl, rfl⟩
  · have hone : ((k.toKind items).mutations action x).length = 1 := by
      cases k <;> cases action <;> first | rfl | exact absurd ⟨rfl, rfl⟩ haudit
    have hlength : (pre ++ [m]).length ≤ 1 := hone ▸ h.length_le
    exact Or.inl (List.eq_nil_of_length_eq_zero (by simpa using hlength))

/-- **A change that fails leaves its instance as it was**, unless it is the
    update of an audit device and the device is disabled. -/
theorem view_of_failed (h : server.Atomic view) (k : KindName) (items : List k.Object)
    {step : Action × k.Object} {w : World σ} {e : ServerError}
    (hfailed : (issue server a ((k.toKind items).mutations step.1 step.2)).result w = .error e) :
    let w' := (issue server a ((k.toKind items).mutations step.1 step.2)).after w
    (¬ k.Halfway server a step w.server → view a w'.server = view a w.server) ∧
      (k.Halfway server a step w.server → view a w'.server =
        view a (server.change a (.disableAudit (Item.key step.2)) w.server).2) := by
  intro w'
  have hissue := exchanges_issue server a ((k.toKind items).mutations step.1 step.2) w
  rw [hfailed] at hissue
  obtain ⟨told, ⟨pre, m, hprefix, rfl⟩, -, hconducts⟩ := hissue
  obtain ⟨s₁, hpre, hlast⟩ := Server.conducts_append_iff.1 hconducts
  have hsame : view a w'.server = view a s₁ := by
    refine h.view_of_idle hlast fun e' he' => ?_
    obtain rfl := List.mem_singleton.1 he'
    exact Or.inr (Or.inl (by simp))
  rcases prefix_of_brokenOff k items hprefix with rfl | ⟨hk, haction, rfl⟩
  · cases hpre
    refine ⟨fun _ => hsame, fun hhalfway => ?_⟩
    -- the first mutation is the one that failed
    obtain ⟨action, x⟩ := step
    obtain ⟨rfl, haction, hanswered⟩ := hhalfway
    obtain rfl : action = .update := haction
    obtain ⟨rfl, -⟩ := List.cons_prefix_cons.1 hprefix
    cases hlast with
    | cons hfailure _ =>
      cases hfailure.symm.trans (Server.attempt_eq_none_iff.2 hanswered)
  · cases hpre with
    | cons hdisabled hnil =>
      cases hnil
      have hhalfway : k.Halfway server a step w.server :=
        ⟨hk, haction, Server.attempt_eq_none_iff.1 hdisabled⟩
      exact ⟨fun hnot => absurd hhalfway hnot, fun _ => hsame⟩

end Pass

/-! ## One instance -/

/-- What is shown of an instance before and after the turn of an outcome: the
    changes that are counted are carried out, and of the next one nothing, or
    that an audit device is disabled. -/
structure Outcome.Leaves (server : Server σ) (view : String → σ → τ) (k : KindName)
    (items : List k.Object) (o : Outcome) (steps : List (Action × k.Object)) (half : List Mutation)
    (t t' : τ) : Prop where
  changes : o.changes = steps.map ((k.toKind items).report o.address)
  /-- What is created or updated is wanted. -/
  wanted : ∀ step ∈ steps, step.1 ≠ .delete → step.2 ∈ (k.toKind items).desired o.address
  state : server.CarriesOut view o.address
    ((k.toKind items).mutationsOf (steps.take o.applied) ++ half) t t'
  half : half = [] ∨ k = .audit ∧ o.error ≠ none ∧
    ∃ b, steps[o.applied]? = some (.update, b) ∧ half = [.disableAudit (Item.key b)]

namespace Pass

variable {server : Server σ} {view : String → σ → τ} {a : String}

/-- The calls after those of the changes that are counted: none, or those of a
    change that broke off. -/
theorem Accounts.rest_cases {α : Type} [Item α] {kind : Kind α} {fetched : Prop} {o : Outcome}
    {steps : List (Action × α)} {told rest : List Exchange}
    (h : Accounts kind fetched o steps told rest) :
    rest = [] ∨ ∃ step e, steps[o.applied]? = some step ∧ o.error ≠ none ∧
      BrokenOff o.address (kind.mutations step.1 step.2) e rest := by
  by_cases hfetched : fetched
  · cases herror : o.error with
    | none => exact Or.inl (h.finished (Or.inl herror))
    | some message =>
      obtain ⟨step, e, hstep, -, hbroken⟩ := h.broken hfetched message herror
      exact Or.inr ⟨step, e, hstep, by simp, hbroken⟩
  · exact Or.inl (h.finished (Or.inr hfetched))

theorem address_of_told {α : Type} [Item α] {kind : Kind α} {fetched : Prop} {o : Outcome}
    {steps : List (Action × α)} {told rest : List Exchange}
    (h : Accounts kind fetched o steps told rest) {e : Exchange} (he : e ∈ told) :
    e.call.address = o.address := by
  have hcarried : ∀ ms, e ∈ carriedOut o.address ms → e.call.address = o.address := by
    intro ms hmem
    obtain ⟨m, -, rfl⟩ := List.mem_map.1 hmem
    rfl
  rw [h.told] at he
  rcases List.mem_append.1 he with hdone | hrest
  · exact hcarried _ hdone
  · obtain rfl | ⟨step, error, -, -, pre, m, -, rfl⟩ := h.rest_cases
    · cases hrest
    · rcases List.mem_append.1 hrest with hpre | hlast
      · exact hcarried _ hpre
      · obtain rfl := List.mem_singleton.1 hlast
        rfl

variable {ctx : Context σ} (h : ctx.server.Atomic view) (k : KindName) (items : List k.Object)
  {o : Outcome} {w w' : World σ}

include h

/-- **The turn of an instance** leaves of it what its outcome says. -/
theorem leaves_of_accounted (haccounted : Accounted ctx (k.toKind items) o w w') :
    ∃ steps half, o.Leaves ctx.server view k items steps half (view o.address w.server)
      (view o.address w'.server) := by
  obtain ⟨asked, steps, told, rest, ⟨-, hconducts⟩, hqueries, haccounts⟩ := haccounted
  rw [haccounts.told] at hconducts
  obtain ⟨s₁, hasked, htold⟩ := Server.conducts_append_iff.1 hconducts
  have hsame : view o.address s₁ = view o.address w.server :=
    h.view_of_idle hasked fun e he => Or.inl (hqueries e he).2
  rw [← hsame]
  obtain rfl | ⟨step, e, hstep, herror, pre, m, hprefix, rfl⟩ := haccounts.rest_cases
  · rw [List.append_nil] at htold
    refine ⟨steps, [], haccounts.changes, haccounts.wanted, ?_, Or.inl rfl⟩
    rw [List.append_nil]
    exact Server.carriesOut_of_conducts view htold
  · rw [← List.append_assoc] at htold
    obtain ⟨s₂, hdone, hlast⟩ := Server.conducts_append_iff.1 htold
    have hunchanged : view o.address w'.server = view o.address s₂ := by
      refine h.view_of_idle hlast fun e' he' => ?_
      obtain rfl := List.mem_singleton.1 he'
      exact Or.inr (Or.inl (by simp))
    refine ⟨steps, pre, haccounts.changes, haccounts.wanted, ?_, ?_⟩
    · rw [hunchanged]
      rw [carriedOut, carriedOut, ← List.map_append] at hdone
      exact Server.carriesOut_of_conducts view hdone
    · rcases prefix_of_brokenOff k items hprefix with hnil | ⟨hk, haction, hpre⟩
      · exact Or.inl hnil
      · obtain ⟨action, b⟩ := step
        obtain rfl : action = .update := haction
        exact Or.inr ⟨hk, herror, b, hstep, hpre⟩

/-- The turn of another instance leaves an instance as it is. -/
theorem view_of_accounted_of_ne (haccounted : Accounted ctx (k.toKind items) o w w')
    (hne : o.address ≠ a) : view a w'.server = view a w.server := by
  obtain ⟨asked, steps, told, rest, ⟨-, hconducts⟩, hqueries, haccounts⟩ := haccounted
  refine h.view_of_idle hconducts fun e he => Or.inr (Or.inr ?_)
  rcases List.mem_append.1 he with hasked | htold
  · rw [(hqueries e hasked).1]
    exact hne
  · rw [address_of_told haccounts htold]
    exact hne

omit h

/-! ## All instances -/

/-- What is shown of an instance before and after the turns of outcomes, one
    after the other. -/
inductive InTurn (server : Server σ) (view : String → σ → τ) (k : KindName)
    (items : List k.Object) : List Outcome → τ → τ → Prop
  | nil (t : τ) : InTurn server view k items [] t t
  | cons {o : Outcome} {os : List Outcome} {steps : List (Action × k.Object)}
      {half : List Mutation} {t t' t'' : τ} :
      o.Leaves server view k items steps half t t' → InTurn server view k items os t' t'' →
      InTurn server view k items (o :: os) t t''

include h in
theorem inTurn_of_conducted {os : List Outcome}
    (hconducted : Conducted ctx (k.toKind items) os w w') (a : String) :
    InTurn ctx.server view k items (os.filter fun o => o.address = a) (view a w.server)
      (view a w'.server) := by
  induction hconducted with
  | nil w => exact .nil _
  | silent hsilent _ ih =>
    rw [← h.view_of_idle hsilent.conducts fun e he => by cases he]
    exact ih
  | @turn o os w w₁ w' _ haccounted _ ih =>
    by_cases hown : o.address = a
    · subst hown
      obtain ⟨steps, half, hleaves⟩ := leaves_of_accounted h k items haccounted
      rw [List.filter_cons_of_pos (by simp)]
      exact .cons hleaves ih
    · rw [List.filter_cons_of_neg (by simpa using hown)]
      rw [← view_of_accounted_of_ne h k items haccounted hown]
      exact ih

/-- **What failing changes leave.**  Against a server whose failing calls have
    no effect, a change of any kind that fails leaves its instance as it was,
    unless it is the update of an audit device that has been disabled by then;
    this it leaves disabled.  So a live pass leaves of each instance what was
    there with the changes carried out that are counted in its outcomes, and
    beyond them, after an update of an audit device that failed, at most this
    device disabled. -/
theorem failing_changes_leave (k : KindName) (items : List k.Object) (server : Server σ)
    (view : String → σ → τ) (h : server.Atomic view) (a : String) :
    (∀ (step : Action × k.Object) (w : World σ) (e : ServerError),
        let change := issue server a ((k.toKind items).mutations step.1 step.2)
        change.result w = .error e →
          (¬ k.Halfway server a step w.server →
              view a (change.after w).server = view a w.server) ∧
            (k.Halfway server a step w.server → view a (change.after w).server =
              view a (server.change a (.disableAudit (Item.key step.2)) w.server).2)) ∧
      ∀ (poolSize : Nat) (schedule : List Move) (w : World σ),
        let pass := perform ⟨server, false, poolSize, schedule⟩ (k.toKind items)
        InTurn server view k items ((pass.result w).outcomes.filter fun o => o.address = a)
          (view a w.server) (view a (pass.after w).server) := by
  constructor
  · intro step w e change hfailed
    exact view_of_failed h k items hfailed
  · intro poolSize schedule w pass
    let ctx : Context σ := ⟨server, false, poolSize, schedule⟩
    have hatomic : ctx.server.Atomic view := h
    exact inTurn_of_conducted hatomic k items (conducted_perform (k.serves items).asks rfl w) a

end Pass

/-! ## An audit device that cannot be enabled again -/

/-- Instances in memory: a call that fails has no effect. -/
theorem Memory.atomic_server : Memory.server.Atomic fun b m => m.state b where
  ask _ _ _ _ := rfl
  failed a m s e he := by
    cases hchange : s.change a m with
    | error e' => rw [Memory.server_change_of_error hchange]
    | ok s' => simp [Memory.server, hchange] at he
  others a m s b hne := by
    have hkept := Memory.fixes_other hne m ⟨s, Registry.ofAddresses [], [], []⟩
    exact congrArg (Option.getD · InstanceState.empty) hkept

/-- Faults in front of such a server: a fault has no effect either. -/
theorem Faulty.atomic_server {behind : Server σ} {view : String → σ → τ}
    (h : behind.Atomic view) : (Faulty.server behind).Atomic fun b s => view b s.inner where
  ask a q s b := by
    simp only [Faulty.server]
    cases Fault.fire ⟨a, .query q⟩ s.faults with
    | mk fired faults =>
      cases fired with
      | some f => rfl
      | none => exact h.ask a q s.inner b
  failed a m s e he := by
    simp only [Faulty.server] at he ⊢
    cases hfire : Fault.fire ⟨a, .mutation m⟩ s.faults with
    | mk fired faults =>
      cases fired with
      | some f => rfl
      | none =>
        rw [hfire] at he
        exact h.failed a m s.inner e he
  others a m s b hne := by
    simp only [Faulty.server]
    cases Fault.fire ⟨a, .mutation m⟩ s.faults with
    | mk fired faults =>
      cases fired with
      | some f => rfl
      | none => exact h.others a m s.inner b hne

namespace Pass

/-- A device that is wanted with another description than it has. -/
def redescribed : Backend := ⟨"file/", "file", "new", Dict.empty, "http://a"⟩

/-- An instance with that device, on which no audit device can be enabled. -/
def unableToEnable : World (Faulty Memory) where
  server :=
    { inner := Memory.ofInstances (Dict.ofList [("http://a",
        { InstanceState.empty with audits := Dict.ofList [("file/", ⟨"file", "old", none⟩)] })])
      faults := [⟨some "enable_audit_device", none, none, .rejected 500, "injected", none⟩]
      listings := Dict.empty }
  registry := Registry.ofAddresses ["http://a"]
  calls := []
  log := []

/-- The theorem on that instance, whose device is disabled and stays so. -/
theorem failing_changes_leave_disabled :
    let server := Faulty.server Memory.server
    let view := fun b (s : Faulty Memory) => s.inner.state b
    let pass := perform ⟨server, false, 2, []⟩ (auditDevices [redescribed])
    let w := unableToEnable
    server.Atomic view ∧
      InTurn server view .audit [redescribed]
        ((pass.result w).outcomes.filter fun o => o.address = "http://a")
        (view "http://a" w.server) (view "http://a" (pass.after w).server) :=
  ⟨Faulty.atomic_server Memory.atomic_server,
    (failing_changes_leave .audit [redescribed] _ _ (Faulty.atomic_server Memory.atomic_server)
      "http://a").2 2 [] unableToEnable⟩

/-- **A failing update loses its object**: of an audit device that cannot be
    enabled again nothing is left, though no change is counted. -/
theorem failing_update_loses_device :
    let server := Faulty.server Memory.server
    let view := fun b (s : Faulty Memory) => s.inner.state b
    let kind := auditDevices [redescribed]
    let change := issue server "http://a" (kind.mutations .update redescribed)
    let pass := perform ⟨server, false, 2, []⟩ kind
    let w := unableToEnable
    server.Atomic view ∧ (∃ e, change.result w = .error e) ∧
      ((pass.result w).outcomes.map fun o => (o.changes.length, o.applied, o.error.isSome)) =
        [(1, 0, true)] ∧
      (view "http://a" w.server).audits.contains "file/" = true ∧
      (view "http://a" (change.after w).server).audits.contains "file/" = false ∧
      (view "http://a" (pass.after w).server).audits.contains "file/" = false := by
  intro server view kind change pass w
  exact ⟨Faulty.atomic_server Memory.atomic_server, ⟨_, rfl⟩, by decide, by decide, by decide,
    by decide⟩

end Pass

end Concord
