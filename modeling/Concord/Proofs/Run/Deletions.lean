/-
  What a run deletes, whatever is listed.

  Of the items listed under a wanted key the last one is paired and the others
  are deleted, and a deletion names nothing but the key.  So a run plans to
  delete what is wanted exactly where an instance lists a key twice: two paths
  of one normal form, or a name that is repeated.

  * `Pass.deletions_onInstance`: the deletions of a key on an instance.
  * `Run.deletes_wanted_iff`: every run against any server.
-/
import Concord.Proofs.Diff.Repetition
import Concord.Proofs.Kind.Listing
import Concord.Proofs.Pass.Account
import Concord.Proofs.Run.Kinds

namespace Concord

open Session

variable {σ α : Type}

/-- How many deletions of a key are planned. -/
def Outcome.deletions (o : Outcome) (key : String) : Nat :=
  o.changes.countP fun change => change.action = .delete ∧ change.key = key

/-! ## Plans -/

theorem Plan.countP_deletes [Item α] (p : Plan α) (detail : α → Option String) (key : String) :
    (p.changes detail).countP (fun change => change.action = .delete ∧ change.key = key) =
      (p.deletes.map Item.key).count key := by
  have hboth : (p.changes detail).countP
        (fun change => change.action = .delete ∧ change.key = key) =
      ((p.changes detail).filter fun change => change.action = .delete).countP
        fun change => change.key = key := by
    rw [List.countP_filter]
    exact List.countP_congr fun change _ => by simp [and_comm]
  rw [hboth, Plan.filter_changes, List.countP_map, List.count, List.countP_map]
  refine List.countP_congr fun x _ => ?_
  rw [Function.comp_apply, decide_eq_true_iff, Function.comp_apply, beq_iff_eq]
  rfl

theorem count_filter_key [Item α] (p : String → Bool) (xs : List α) (key : String) :
    ((xs.filter fun x => p (Item.key x)).map Item.key).count key =
      if p key then (xs.map Item.key).count key else 0 := by
  have hmap : (xs.filter fun x => p (Item.key x)).map Item.key = (xs.map Item.key).filter p :=
    List.filter_map.symm
  rw [hmap]
  by_cases hp : p key = true
  · rw [if_pos hp, List.count_filter hp]
  · rw [if_neg hp]
    exact List.count_eq_zero.2 fun hmem => hp (List.mem_filter.1 hmem).2

/-! ## One instance -/

namespace Pass

variable {ctx : Context σ} {a : String} {w : World σ}

/-- **The deletions of a key on an instance**: of the items that were fetched
    under it, all but one if it is wanted, and none if they come with every
    instance. -/
theorem deletions_onInstance (k : KindName) (items : List k.Object) {observed : List k.Object}
    (h : ((k.toKind items).fetch ctx a).result w = .ok observed) (key : String) :
    ((onInstance ctx (k.toKind items) a).result w).deletions key =
      if k.comesWithInstance key then 0
      else if key ∈ ((k.toKind items).desired a).map Item.key then
        (observed.map Item.key).count key - 1
      else (observed.map Item.key).count key := by
  let kind := k.toKind items
  have hchanges : ((onInstance ctx kind a).result w).changes =
      (planOf kind a observed).changes kind.describe := by
    rw [(foretells_onInstance w).changes, h]
    rfl
  have hdeletes : (planOf kind a observed).deletes =
      (Diff.of (kind.desired a) observed).toDelete.filter
        fun x => !k.comesWithInstance (Item.key x) :=
    List.filter_congr fun x _ => congrArg (!·) (k.isProtected_toKind items x)
  rw [Outcome.deletions, hchanges, Plan.countP_deletes, hdeletes,
    count_filter_key (fun key => !k.comesWithInstance key), Diff.count_toDelete]
  cases k.comesWithInstance key <;> rfl

theorem deletions_of_fetch_error {kind : Kind α} [Item α] {e : Error}
    (h : (kind.fetch ctx a).result w = .error e) (key : String) :
    ((onInstance ctx kind a).result w).deletions key = 0 := by
  rw [(onInstance_of_fetch_error h).1]
  rfl

end Pass

/-- An instance that is asked for its objects of a kind lists a key more than
    once. -/
def Server.Repeats (server : Server σ) (k : KindName) (a key : String) (s : σ) : Prop :=
  ∃ listed, (server.ask a k.listing s).1 = .ok listed ∧ 2 ≤ (k.listedKeys listed).count key

namespace Pass

variable {ctx : Context σ} {a : String} {w : World σ}

/-- **A wanted item is deleted** where its key is listed more than once. -/
theorem deletes_wanted_iff (k : KindName) (items : List k.Object) {key : String}
    (hwanted : key ∈ ((k.toKind items).desired a).map Item.key) :
    0 < ((onInstance ctx (k.toKind items) a).result w).deletions key ↔
      k.comesWithInstance key = false ∧
        (∃ found, ((k.toKind items).fetch ctx a).result w = .ok found) ∧
        ctx.server.Repeats k a key w.server := by
  cases hfetch : ((k.toKind items).fetch ctx a).result w with
  | error e =>
    rw [deletions_of_fetch_error hfetch]
    simp
  | ok found =>
    obtain ⟨listed, hlisted, hperm⟩ := k.keys_of_fetch items hfetch
    have hrepeats : ctx.server.Repeats k a key w.server ↔
        2 ≤ (found.map Item.key).count key := by
      rw [Server.Repeats, hlisted, hperm.count_eq]
      simp
    rw [deletions_onInstance k items hfetch, hrepeats, if_pos hwanted]
    cases k.comesWithInstance key with
    | true => simp
    | false =>
      simp only [true_and, Except.ok.injEq, exists_eq', if_false, Bool.false_eq_true]
      omega

end Pass

namespace Run

variable {ctx : Context σ} {c : Config}

/-- A run is made of calls. -/
theorem bears_leads (ctx : Context σ) (c : Config) (k : KindName) (a : String) :
    Pass.Bears (World.Leads ctx.server) ctx (c.kind k) a where
  asks := (c.serves k).asks
  reading := World.reading_leads ctx.server a
  change _ _ _ m _ := fun w => ⟨_, World.exchanges_change ctx.server a m w⟩

/-- **Which wanted items a run deletes.**  Every outcome of a run, live or not
    and against any server, is that of the turn of its instance in some world on
    the way of the run; there a deletion of a wanted key is planned exactly if
    the kind was fetched, the listing showed the key more than once, and it is
    not the key of an object that comes with every instance. -/
theorem deletes_wanted_iff_repeated (ctx : Context σ) (c : Config) (kinds : List KindName)
    (stamp : RunStamp) (w : World σ) :
    List.Forall₂ (fun k r => ∀ o ∈ r.outcomes, ∃ w' : World σ,
        World.Leads ctx.server w w' ∧
        World.Leads ctx.server w' ((perform ctx c kinds stamp).after w) ∧
        o = (Pass.onInstance ctx (c.kind k) o.address).result w' ∧
        ∀ key ∈ ((c.kind k).desired o.address).map Item.key,
          (∃ change ∈ o.changes, change.action = .delete ∧ change.key = key) ↔
            k.comesWithInstance key = false ∧
              (∃ found, ((c.kind k).fetch ctx o.address).result w' = .ok found) ∧
              ctx.server.Repeats k o.address key w'.server)
      kinds ((perform ctx c kinds stamp).result w).kinds := by
  have hopened : World.Leads ctx.server w (opened kinds w) := World.leads_of_eq rfl rfl
  have hclosed : World.Leads ctx.server ((passes ctx c kinds).after (opened kinds w))
      ((perform ctx c kinds stamp).after w) := World.leads_of_eq rfl rfl
  rw [result_perform]
  refine (turns_passes (fun _ _ => World.leads_of_eq rfl rfl) (fun _ _ => World.leads_of_eq rfl rfl)
    (bears_leads ctx c) kinds (opened kinds w)).imp fun k r hr o ho => ?_
  obtain ⟨w', hbefore, hafter, heq⟩ := hr o ho
  refine ⟨w', trans_of _ hopened hbefore, trans_of _ hafter hclosed, heq, fun key hkey => ?_⟩
  have hiff : (∃ change ∈ o.changes, change.action = .delete ∧ change.key = key) ↔
      0 < o.deletions key := by
    rw [Outcome.deletions, List.countP_pos_iff]
    simp
  rw [hiff]
  rw [c.kind_eq] at hkey heq ⊢
  have hturn := @Pass.deletes_wanted_iff σ ctx o.address w' k (c.items k) key hkey
  rwa [← heq] at hturn

/-! ## Two mounts of one path -/

/-- An instance right after its first start, with two mounts more, under one
    path that is written in two ways. -/
def twiceMountedState : InstanceState :=
  { InstanceState.fresh with
    mounts := (InstanceState.fresh.mounts.insert "/kv/" (InstanceState.builtinMount "kv")).insert
      "kv/" (InstanceState.builtinMount "kv") }

/-- **A run disables what is wanted** where another mount comes to the same key:
    it finds the wanted mount in sync, deletes the other one by its key, and the
    wanted mount is gone. -/
theorem run_disables_wanted :
    let c := engineDocument "kv"
    let w := World.ofInstance "http://a" twiceMountedState
    let run := perform ⟨Memory.server, false, 2, []⟩ c [.engine]
      ⟨"first", ⟨0, 0⟩, Decimal.zero false⟩
    c.Accepted ∧ "kv/" ∈ ((c.kind .engine).desired "http://a").map Item.key ∧
      (run.result w).success = true ∧
      (run.result w).outcomes.map (fun o => (o.unchanged, o.deletions "kv/")) = [(1, 1)] ∧
      (w.server.state "http://a").mounts.contains "kv/" = true ∧
      ((run.after w).server.state "http://a").mounts.contains "kv/" = false := by
  intro c w run
  exact ⟨⟨_, rfl⟩, by decide, by decide, by decide, by decide, by decide⟩

end Run

end Concord
