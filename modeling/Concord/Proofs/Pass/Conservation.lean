/-
  Nothing is lost between what is fetched and what is reported.

  A comparison gives each desired item one verdict and takes one observed item
  for each item that is updated or kept; a plan puts aside what is protected, and
  only of what was to be deleted.  So the numbers in an outcome add up to the
  desired items and to the observed ones, however often keys are repeated.

  * `Diff.length_desired`, `Diff.length_observed`: the parts of a difference.
  * `Plan.filter_changes`: the changes of one action.
  * `Pass.Conserves`: an outcome against the two lists behind it.
  * `Pass.Proceeds`: what a pass does after the fetch.
  * `Pass.nothing_lost`: passes on an instance, of any kind and server.
-/
import Concord.Proofs.Pass.Account

namespace Concord

open Session

variable {σ α : Type} [Item α]

/-! ## Comparisons -/

theorem length_claim (k : String) (cs : List (Candidate α)) :
    (claim k cs).1.toList.length + (claim k cs).2.length = cs.length := by
  induction cs with
  | nil => rfl
  | cons c cs ih =>
    rw [claim]
    split
    · simp [Nat.add_comm]
    · simp only [List.length_cons]
      omega

namespace Diff

omit [Item α] in
theorem withVerdict_cons (v : Verdict) (x : α) (w : Verdict) (judged : List (α × Verdict)) :
    withVerdict v ((x, w) :: judged) =
      if w = v then x :: withVerdict v judged else withVerdict v judged := by
  by_cases h : w = v <;> simp [withVerdict, h]

omit [Item α] in
/-- Every item has one of the three verdicts. -/
theorem length_withVerdict (judged : List (α × Verdict)) :
    (withVerdict .create judged).length + (withVerdict .update judged).length +
      (withVerdict .keep judged).length = judged.length := by
  induction judged with
  | nil => rfl
  | cons e judged ih =>
    obtain ⟨x, v⟩ := e
    rw [List.length_cons, ← ih]
    cases v <;> simp [withVerdict_cons] <;> omega

/-- A desired item that is not to be created has taken an observed one. -/
theorem length_left (ds : List α) (cs : List (Candidate α)) :
    (withVerdict .update (judge ds cs).1).length + (withVerdict .keep (judge ds cs).1).length +
      (judge ds cs).2.length = cs.length := by
  induction ds generalizing cs with
  | nil => simp [judge, withVerdict]
  | cons d ds ih =>
    have hclaim := length_claim (Item.key d) cs
    have hrest := ih (claim (Item.key d) cs).2
    rw [judge]
    dsimp only
    cases hpartner : (claim (Item.key d) cs).1 with
    | none =>
      simp only [hpartner, Option.toList_none, List.length_nil] at hclaim
      simp only [verdict, withVerdict_cons, reduceCtorEq, if_false]
      omega
    | some x =>
      simp only [hpartner, Option.toList_some, List.length_singleton] at hclaim
      cases hagree : Item.agrees d x <;>
        simp only [verdict, hagree, withVerdict_cons, reduceCtorEq, if_false, if_true,
          Bool.false_eq_true, List.length_cons] <;>
        omega

theorem length_candidates (xs : List α) : (candidates xs).length = xs.length := by
  induction xs with
  | nil => rfl
  | cons x xs ih => rw [candidates, List.length_cons, ih, List.length_cons]

theorem length_unchanged (ds xs : List α) :
    (Diff.of ds xs).unchanged.length =
      (withVerdict .keep (judge ds (candidates xs)).1).length :=
  List.length_map _

/-- Every desired item is created, updated or kept. -/
theorem length_desired (ds xs : List α) :
    (Diff.of ds xs).toCreate.length + (Diff.of ds xs).toUpdate.length +
      (Diff.of ds xs).unchanged.length = ds.length := by
  have hjudged := congrArg List.length (map_fst_judge ds (candidates xs))
  rw [List.length_map] at hjudged
  rw [length_unchanged, ← hjudged]
  exact length_withVerdict _

/-- Every observed item is updated, deleted or kept. -/
theorem length_observed (ds xs : List α) :
    (Diff.of ds xs).toUpdate.length + (Diff.of ds xs).toDelete.length +
      (Diff.of ds xs).unchanged.length = xs.length := by
  rw [length_unchanged, ← length_candidates xs, ← length_left ds, Nat.add_right_comm]
  rfl

end Diff

/-! ## Outcomes -/

namespace Pass

variable {ctx : Context σ} {kind : Kind α} {a : String} {observed : List α} {w : World σ}

/-- The changes of one action in an outcome are those of its items, reported. -/
theorem filter_changes_onInstance (h : (kind.fetch ctx a).result w = .ok observed)
    (action : Action) :
    ((onInstance ctx kind a).result w).changes.filter (fun c => c.action = action) =
      ((planOf kind a observed).part action).map fun x => kind.report a (action, x) := by
  have hchanges := (@foretells_onInstance σ α _ ctx kind a w).changes
  rw [h] at hchanges
  rw [hchanges]
  exact Plan.filter_changes (planOf kind a observed) kind.describe action

theorem count_onInstance (h : (kind.fetch ctx a).result w = .ok observed) (action : Action) :
    ((onInstance ctx kind a).result w).count action =
      ((planOf kind a observed).part action).length := by
  rw [Outcome.count, List.countP_eq_length_filter, filter_changes_onInstance h, List.length_map]

/-- An outcome against the desired items and the observed ones. -/
structure Conserves (kind : Kind α) (a : String) (observed : List α) (o : Outcome) : Prop where
  /-- Every desired item is created, updated or in sync. -/
  wanted : o.count .create + o.count .update + o.unchanged = (kind.desired a).length
  /-- Every observed item is updated, deleted, in sync or spared. -/
  found : o.count .update + o.count .delete + o.unchanged + o.spared = observed.length
  /-- What is to be created is created, protected or not. -/
  creates : o.changes.filter (fun c => c.action = .create) =
    (Diff.of (kind.desired a) observed).toCreate.map fun x => kind.report a (.create, x)
  /-- What is to be updated is updated, protected or not. -/
  updates : o.changes.filter (fun c => c.action = .update) =
    (Diff.of (kind.desired a) observed).toUpdate.map fun x => kind.report a (.update, x)
  /-- What is to be deleted is deleted unless it is protected. -/
  deletes : o.changes.filter (fun c => c.action = .delete) =
    ((Diff.of (kind.desired a) observed).toDelete.filter fun x => !kind.isProtected x).map
      fun x => kind.report a (.delete, x)
  /-- What is spared is protected and was to be deleted. -/
  spared : o.spared = (Diff.of (kind.desired a) observed).toDelete.countP kind.isProtected

theorem conserves_onInstance (h : (kind.fetch ctx a).result w = .ok observed) :
    Conserves kind a observed ((onInstance ctx kind a).result w) := by
  let diff := Diff.of (kind.desired a) observed
  have hforetells := @foretells_onInstance σ α _ ctx kind a w
  rw [h] at hforetells
  have hunchanged : ((onInstance ctx kind a).result w).unchanged = diff.unchanged.length :=
    hforetells.unchanged
  have hspared : ((onInstance ctx kind a).result w).spared =
      (diff.toDelete.filter kind.isProtected).length := hforetells.spared
  refine
    { wanted := ?_
      found := ?_
      creates := filter_changes_onInstance h .create
      updates := filter_changes_onInstance h .update
      deletes := filter_changes_onInstance h .delete
      spared := hspared.trans (List.countP_eq_length_filter ..).symm }
  · rw [count_onInstance h, count_onInstance h, hunchanged]
    exact Diff.length_desired ..
  · have hdeletes : ((planOf kind a observed).part .delete).length +
        (diff.toDelete.filter kind.isProtected).length = diff.toDelete.length := by
      rw [Nat.add_comm]
      exact (List.length_eq_length_filter_add kind.isProtected).symm
    have hobserved : ((planOf kind a observed).part .update).length + diff.toDelete.length +
        diff.unchanged.length = observed.length := Diff.length_observed ..
    rw [count_onInstance h, count_onInstance h, hunchanged, hspared]
    omega

/-! ## After the fetch -/

/-- The log has gone on. -/
def Tells (w w' : World σ) : Prop := ∃ es, w'.log = w.log ++ es

instance : IsPreorder (World σ) Tells where
  refl w := ⟨[], by simp⟩
  trans := by
    rintro w w' w'' ⟨es, h⟩ ⟨es', h'⟩
    exact ⟨es ++ es', by rw [h', h, List.append_assoc]⟩

omit [Item α] in
theorem keeps_tells_issue (server : Server σ) (ms : List Mutation) :
    Keeps Tells (issue server a ms) :=
  keeps_issue fun _ _ _ => ⟨[], by simp⟩

/-- The first step that is carried out is announced before anything else. -/
theorem log_execute_cons (server : Server σ) (step : Action × α) (steps : List (Action × α))
    (w : World σ) :
    ∃ es, ((execute kind server a (step :: steps)).after w).log =
      w.log ++ stepEntry kind step.1 step.2 :: es := by
  obtain ⟨action, x⟩ := step
  let w₀ := (Session.record (stepEntry kind action x :: kind.notice action x)).after w
  have hrest : Tells w₀ ((execute kind server a ((action, x) :: steps)).after w) := by
    rw [execute, after_bind]
    refine (keeps_tells_issue server _).bind (fun done => ?_) _
    cases done with
    | error e => exact .pure _
    | ok _ =>
      refine Keeps.bind ?_ fun _ => .pure _
      exact keeps_execute (fun es w => ⟨es, rfl⟩) fun _ _ _ _ _ => ⟨[], by simp⟩
  obtain ⟨es, hes⟩ := hrest
  exact ⟨kind.notice action x ++ es, by rw [hes]; simp [w₀]⟩

theorem carryOut_of_dryRun_of_not_isEmpty {plan : Plan α} (hdry : ctx.dryRun = true)
    (h : ¬ plan.isEmpty = true) :
    (carryOut ctx kind plan).after w =
      (Session.record ((plan.changes kind.describe).map Change.dryRunEntry)).after w := by
  unfold carryOut
  dsimp only
  rw [if_neg h, if_pos hdry]
  rfl

/-- An operator is told of a plan if it has steps. -/
theorem log_carryOut (plan : Plan α) (w : World σ) :
    ∃ es, ((carryOut ctx kind plan).after w).log = w.log ++ es ∧
      ((∃ e ∈ es, e.level = .info) ↔ plan.steps ≠ []) := by
  by_cases hempty : plan.isEmpty = true
  · refine ⟨_, congrArg World.log (carryOut_of_isEmpty hempty).2, ?_⟩
    simp [Plan.isEmpty_iff.1 hempty]
  · have hsteps : plan.steps ≠ [] := fun h => hempty (Plan.isEmpty_iff.2 h)
    cases hdry : ctx.dryRun with
    | true =>
      have hchanges : plan.changes kind.describe ≠ [] := fun h =>
        hsteps (Plan.changes_eq_nil_iff.1 h)
      obtain ⟨c, hc⟩ := List.exists_mem_of_ne_nil _ hchanges
      refine ⟨_, congrArg World.log (carryOut_of_dryRun_of_not_isEmpty hdry hempty), ?_⟩
      exact iff_of_true ⟨c.dryRunEntry, List.mem_map_of_mem hc, rfl⟩ hsteps
    | false =>
      obtain ⟨step, steps, hcons⟩ := List.exists_cons_of_ne_nil hsteps
      obtain ⟨es, hes⟩ := @log_execute_cons σ α _ kind plan.address ctx.server step steps w
      rw [← hcons] at hes
      refine ⟨_, (congrArg World.log (carryOut_of_live hdry hempty).2).trans hes, ?_⟩
      exact iff_of_true ⟨_, List.mem_cons_self, rfl⟩ hsteps

/-- Where every change is made of mutations, a plan that is carried out makes
    calls if it has steps. -/
theorem calls_carryOut (hacts : ∀ action x, kind.mutations action x ≠ [])
    (hlive : ctx.dryRun = false) (plan : Plan α) (w : World σ) :
    ((carryOut ctx kind plan).after w).calls ≠ w.calls ↔ plan.steps ≠ [] := by
  obtain ⟨rest, hexchanges, hend⟩ := exchanges_carryOut kind hlive plan w
  rw [hexchanges.calls, ne_eq, List.append_right_eq_self, List.map_eq_nil_iff, List.append_eq_nil_iff,
    carriedOut, List.map_eq_nil_iff]
  refine not_congr ⟨?_, fun hnil => ?_⟩
  · rintro ⟨hdone, hrest⟩
    rcases hend with ⟨happlied, -, -⟩ | ⟨step, e, -, -, pre, m, -, htold⟩
    · rw [happlied, List.take_length] at hdone
      refine List.eq_nil_iff_forall_not_mem.2 fun step hstep => ?_
      exact hacts step.1 step.2 (List.flatMap_eq_nil_iff.1 hdone step hstep)
    · simp [hrest] at htold
  · rcases hend with ⟨-, -, hrest⟩ | ⟨step, e, hstep, -⟩
    · exact ⟨by simp [hnil, Kind.mutationsOf], hrest⟩
    · simp [hnil] at hstep

/-- What a pass does on an instance after the fetch, between two worlds. -/
structure Proceeds (ctx : Context σ) (kind : Kind α) (o : Outcome) (w w' : World σ) : Prop where
  /-- Without changes it says that all is in sync, and nothing else. -/
  idle : o.changes = [] →
    w' = (Session.record [⟨.debug, "in sync", [("unchanged", .count o.unchanged)]⟩]).after w
  /-- With changes an operator is told, and only then. -/
  logged : ∃ es, w'.log = w.log ++ es ∧ ((∃ e ∈ es, e.level = .info) ↔ o.changes ≠ [])
  /-- Calls are made for the changes of a live pass, and only for them. -/
  executed : (∀ action x, kind.mutations action x ≠ []) →
    (w'.calls ≠ w.calls ↔ ctx.dryRun = false ∧ o.changes ≠ [])

theorem proceeds_onInstance (h : (kind.fetch ctx a).result w = .ok observed) :
    Proceeds ctx kind ((onInstance ctx kind a).result w) (fetched ctx kind a observed w)
      ((onInstance ctx kind a).after w) := by
  let plan := planOf kind a observed
  obtain ⟨hresult, hafter⟩ := onInstance_of_fetch_ok h
  rw [hresult, hafter]
  have hforetells := @foretells_carryOut σ α _ ctx kind plan
    (fetched ctx kind a observed w)
  have hnil : ((carryOut ctx kind plan).result (fetched ctx kind a observed w)).changes = [] ↔
      plan.steps = [] := by
    rw [hforetells.changes]
    exact Plan.changes_eq_nil_iff
  refine ⟨fun hchanges => ?_, ?_, fun hacts => ?_⟩
  · rw [hforetells.unchanged]
    exact (carryOut_of_isEmpty (Plan.isEmpty_iff.2 (hnil.1 hchanges))).2
  · rw [ne_eq, hnil]
    exact log_carryOut plan _
  · rw [ne_eq, ne_eq, hnil]
    cases hdry : ctx.dryRun with
    | true =>
      obtain ⟨-, es, hes⟩ := @carryOut_of_dryRun σ α _ ctx kind
        (fetched ctx kind a observed w) plan hdry
      simp [plan, hes]
    | false => simpa using calls_carryOut hacts hdry plan (fetched ctx kind a observed w)

/-- **Nothing is lost between the fetch and the report.**  In the outcome of a
    pass whose fetch succeeded, creations, updates and items in sync are as many
    as the desired items, and updates, deletions, items in sync and items spared
    as many as the observed ones, whatever keys are repeated.  Only what was to
    be deleted is ever spared.  A pass without changes does nothing but say so;
    one with changes reports them, and carries them out unless it is dry. -/
theorem nothing_lost (ctx : Context σ) (kind : Kind α) (a : String) {observed : List α}
    {w : World σ} (h : (kind.fetch ctx a).result w = .ok observed) :
    Conserves kind a observed ((onInstance ctx kind a).result w) ∧
      Proceeds ctx kind ((onInstance ctx kind a).result w) (fetched ctx kind a observed w)
        ((onInstance ctx kind a).after w) :=
  ⟨conserves_onInstance h, proceeds_onInstance h⟩

/-- A mount is created, another one deleted and one in sync, on an instance whose
    built-in mounts are spared. -/
theorem nothing_lost_mounts :
    let mounts := (InstanceState.fresh.mounts.insert "kv/" (InstanceState.builtinMount "kv")).insert
      "old/" (InstanceState.builtinMount "kv")
    let kind := secretsEngines [⟨"db/", "database", "", Dict.empty, "http://a"⟩,
      ⟨"kv/", "kv", "", Dict.empty, "http://a"⟩]
    let ctx : Context Memory := ⟨Memory.server, false, 2, []⟩
    let w := World.ofInstance "http://a" { InstanceState.fresh with mounts := mounts }
    let o := (onInstance ctx kind "http://a").result w
    (kind.fetch ctx "http://a").result w = .ok (Backend.ofListing "http://a" mounts) ∧
      Conserves kind "http://a" (Backend.ofListing "http://a" mounts) o ∧
      Proceeds ctx kind o (fetched ctx kind "http://a" (Backend.ofListing "http://a" mounts) w)
        ((onInstance ctx kind "http://a").after w) ∧
      (o.count .create, o.count .update, o.count .delete, o.unchanged, o.spared) =
        (1, 0, 1, 1, 3) := by
  intro mounts kind ctx w o
  have hfetch : (kind.fetch ctx "http://a").result w = .ok (Backend.ofListing "http://a" mounts) := rfl
  obtain ⟨hconserves, hproceeds⟩ := nothing_lost ctx kind "http://a" hfetch
  exact ⟨hfetch, hconserves, hproceeds, by decide⟩

end Pass

end Concord
