/-
  Policies that are read many at a time, and the same policies read one after
  another.

  A fan-out reads the names of a listing in an order that depends on the pool
  and the schedule.  Where the answer to a read depends on the name alone
  (`ReadsByName`), none of this shows: the policies come out as if each had been
  read after the one before it and all had been sorted at the end.

  * `readInTurn`, `fetchInTurn`: reading without a pool.
  * `policies_fetched_as_in_turn`: fetching with any pool and schedule.
-/
import Concord.Proofs.FanOut.Moments
import Concord.Proofs.Kind.Fetch

namespace Concord

open Session

variable {σ : Type}

/-! ## Without a pool -/

/-- Reads the rules of policies one after another, up to the first failure. -/
def readInTurn (server : Server σ) (a : String) :
    List String → Session σ (Except ServerError (List Policy))
  | [] => return .ok []
  | name :: r => do
    match ← ask server a (.readPolicy name) with
    | .error e => return .error e
    | .ok rules =>
      let rest ← readInTurn server a r
      return rest.map (Policy.observed a name rules :: ·)

/-- Fetches the policies of an instance, one after another. -/
def fetchInTurn (server : Server σ) (a : String) : Session σ (Except Error (List Policy)) := do
  match ← ask server a .listPolicies with
  | .error e => return .error (.server e)
  | .ok names =>
    match ← readInTurn server a names with
    | .error e => return .error (.server e)
    | .ok ps => return .ok (Policy.sortByName ps)

/-! ## Reads that depend on the name -/

/-- The state of a server after reads. -/
def afterReads (server : Server σ) (a : String) (s : σ) (names : List String) : σ :=
  names.foldl (fun s name => (server.ask a (.readPolicy name) s).2) s

/-- However many reads were made before, the rules of a policy are what
    `reading` says of its name. -/
def ReadsByName (server : Server σ) (a : String) (reading : String → Except ServerError String)
    (s : σ) : Prop :=
  ∀ before name, (server.ask a (.readPolicy name) (afterReads server a s before)).1 = reading name

variable {server : Server σ} {a : String} {reading : String → Except ServerError String}

/-- The policy that a read of its name shows. -/
def readingOf (a : String) (reading : String → Except ServerError String) (name : String) :
    Except ServerError Policy :=
  (reading name).map (Policy.observed a name)

theorem ReadsByName.first {s : σ} (h : ReadsByName server a reading s) (name : String) :
    (server.ask a (.readPolicy name) s).1 = reading name :=
  h [] name

theorem ReadsByName.next {s : σ} (h : ReadsByName server a reading s) (name : String) :
    ReadsByName server a reading (server.ask a (.readPolicy name) s).2 :=
  fun before => h (name :: before)

theorem result_readInTurn : ∀ (names : List String) {w : World σ},
    ReadsByName server a reading w.server →
      (readInTurn server a names).result w = Policy.collect (names.map (readingOf a reading))
  | [], _, _ => rfl
  | name :: r, w, h => by
    rw [readInTurn, result_bind, result_ask, h.first, List.map_cons, readingOf]
    cases hname : reading name with
    | error e => rfl
    | ok rules =>
      have hrest := result_readInTurn r (w := (ask server a (.readPolicy name)).after w)
        (h.next name)
      show Except.map _ ((readInTurn server a r).result _) = _
      rw [hrest]
      rfl

/-- A fan-out gathers the reads in some order of the names. -/
theorem ReadsByName.exists_gathered {ctx : Context σ} {pool : Pool Nat}
    (hpool : (Pool.ofSize ctx.poolSize : Except EngineError (Pool Nat)) = .ok pool)
    (names : List String) {w : World σ} (h : ReadsByName ctx.server a reading w.server) :
    ∃ order : List String, order.Perm names ∧
      (readPolicies ctx a names).result w = gathered (order.map (readingOf a reading)) := by
  refine exists_gathered_map (I := fun w => ReadsByName ctx.server a reading w.server) hpool
    (fun name w hw => ⟨?_, hw.next name⟩) names h
  rw [readingOf, hw.first]

/-- Reading in turn gathers them in the order of the listing. -/
theorem result_fetchInTurn {names : List String} {w : World σ}
    (hnames : (server.ask a .listPolicies w.server).1 = .ok names)
    (h : ReadsByName server a reading (server.ask a .listPolicies w.server).2) :
    (fetchInTurn server a).result w = gathered (names.map (readingOf a reading)) := by
  rw [fetchInTurn, result_bind, result_ask, hnames, result_bind,
    result_readInTurn names (w := (ask server a .listPolicies).after w) h, gathered]
  cases Policy.collect (names.map (readingOf a reading)) <;> rfl

/-- Instances in memory answer reads by the name. -/
theorem Memory.readsByName (m : Memory) (a : String) :
    ReadsByName Memory.server a (fun name => m.ask a (.readPolicy name)) m := by
  intro before name
  have hsame : ∀ names, afterReads Memory.server a m names = m := by
    intro names
    induction names with
    | nil => rfl
    | cons name names ih => exact ih
  rw [hsame]
  rfl

/-! ## The same policies -/

/-- Reading succeeds if every read does. -/
theorem exists_collect_iff {reads : List (Except ServerError Policy)} :
    (∃ ps, Policy.collect reads = .ok ps) ↔ ∀ read ∈ reads, ∃ p, read = .ok p := by
  constructor
  · rintro ⟨ps, hps⟩ read hread
    rw [collect_eq_ok hps] at hread
    obtain ⟨p, -, rfl⟩ := List.mem_map.1 hread
    exact ⟨p, rfl⟩
  · intro hall
    cases hcollect : Policy.collect reads with
    | ok ps => exact ⟨ps, rfl⟩
    | error e =>
      obtain ⟨p, hp⟩ := hall _ (mem_of_collect_eq_error hcollect)
      cases hp

theorem readingOf_eq_error_iff {name : String} {e : ServerError} :
    readingOf a reading name = .error e ↔ reading name = .error e := by
  rw [readingOf]
  cases reading name <;> simp [Except.map]

theorem readingOf_eq_ok {name : String} {p : Policy} (h : readingOf a reading name = .ok p) :
    p.name = name ∧ ∃ rules, reading name = .ok rules := by
  rw [readingOf] at h
  cases hname : reading name with
  | error e =>
    rw [hname] at h
    cases h
  | ok rules =>
    rw [hname] at h
    cases h
    exact ⟨rfl, rules, rfl⟩

theorem exists_readingOf_iff {name : String} :
    (∃ p, readingOf a reading name = .ok p) ↔ ∃ rules, reading name = .ok rules := by
  refine ⟨fun ⟨p, hp⟩ => (readingOf_eq_ok hp).2, fun ⟨rules, hrules⟩ => ?_⟩
  exact ⟨Policy.observed a name rules, by rw [readingOf, hrules]; rfl⟩

/-- A policy that was read is what the read of its name shows. -/
theorem readingOf_name {names : List String} {ps : List Policy}
    (h : names.map (readingOf a reading) = ps.map .ok) {p : Policy} (hp : p ∈ ps) :
    readingOf a reading p.name = .ok p := by
  have hmem : Except.ok p ∈ names.map (readingOf a reading) := h ▸ List.mem_map_of_mem hp
  obtain ⟨name, -, hname⟩ := List.mem_map.1 hmem
  rwa [(readingOf_eq_ok hname).1]

/-- Two orders of the same names come to the same policies. -/
theorem sortByName_eq_of_readingOf {names order : List String} {ps qs : List Policy}
    (horder : order.Perm names) (hps : order.map (readingOf a reading) = ps.map .ok)
    (hqs : names.map (readingOf a reading) = qs.map .ok) :
    Policy.sortByName ps = Policy.sortByName qs := by
  have hsort : (Policy.sortByName ps).Perm ps := List.mergeSort_perm ..
  have hperm : ps.Perm qs :=
    (List.map_perm_map_iff fun _ _ h => Except.ok.inj h).1 (hps ▸ hqs ▸ horder.map _)
  refine eq_sortByName (hsort.trans hperm) (pairwise_sortByName ps) fun p hp q hq hn => ?_
  have hp' := readingOf_name hps (hsort.mem_iff.1 hp)
  rw [hn, readingOf_name hps (hsort.mem_iff.1 hq)] at hp'
  exact (Except.ok.inj hp').symm

/-- **Policies are fetched as if they were read one after another.**  Whatever
    the size of the pool and the order in which reads end, there is a result
    exactly if every read succeeds; it has one policy for each name that is
    listed, sorted by name, and is the result of reading in turn.  Otherwise the
    error is that of a read that fails. -/
theorem policies_fetched_as_in_turn {ctx : Context σ} {pool : Pool Nat}
    (hpool : (Pool.ofSize ctx.poolSize : Except EngineError (Pool Nat)) = .ok pool)
    (items : List Policy) {w : World σ} {names : List String}
    (hnames : (ctx.server.ask a .listPolicies w.server).1 = .ok names)
    (hread : ReadsByName ctx.server a reading (ctx.server.ask a .listPolicies w.server).2) :
    ((∃ found, ((policies items).fetch ctx a).result w = .ok found) ↔
      ∀ name ∈ names, ∃ rules, reading name = .ok rules) ∧
    (∀ found, ((policies items).fetch ctx a).result w = .ok found →
      (found.map Except.ok).Perm (names.map (readingOf a reading)) ∧
      (found.Pairwise fun p q => p.name ≤ q.name) ∧
      (fetchInTurn ctx.server a).result w = .ok found) ∧
    (∀ e, ((policies items).fetch ctx a).result w = .error e →
      ∃ name ∈ names, ∃ cause, reading name = .error cause ∧ e = .server cause) := by
  obtain ⟨order, horder, hgathered⟩ := ReadsByName.exists_gathered hpool names
    (w := (ask ctx.server a .listPolicies).after w) hread
  have hfetch : ((policies items).fetch ctx a).result w =
      (readPolicies ctx a names).result ((ask ctx.server a .listPolicies).after w) := by
    rw [policies, result_bind, result_ask, hnames]
  rw [hfetch, result_fetchInTurn hnames hread, hgathered]
  cases hcollect : Policy.collect (order.map (readingOf a reading)) with
  | error e =>
    obtain ⟨name, hname, he⟩ := List.mem_map.1 (mem_of_collect_eq_error hcollect)
    have hcause := readingOf_eq_error_iff.1 he
    rw [gathered_of_error hcollect]
    refine ⟨⟨fun ⟨_, h⟩ => (nomatch h), fun hall => ?_⟩, fun _ h => (nomatch h), fun e' he' => ?_⟩
    · obtain ⟨rules, hrules⟩ := hall name (horder.mem_iff.1 hname)
      rw [hcause] at hrules
      cases hrules
    · cases he'
      exact ⟨name, horder.mem_iff.1 hname, e, hcause, rfl⟩
  | ok ps =>
    have hps := collect_eq_ok hcollect
    have hall : ∀ read ∈ names.map (readingOf a reading), ∃ p, read = .ok p := fun read hr =>
      exists_collect_iff.1 ⟨ps, hcollect⟩ read ((horder.map _).mem_iff.2 hr)
    obtain ⟨qs, hqs⟩ := exists_collect_iff.2 hall
    rw [gathered_of_ok hcollect, gathered_of_ok hqs]
    refine ⟨⟨fun _ name hname => ?_, fun _ => ⟨_, rfl⟩⟩, fun found hfound => ?_,
      fun _ h => (nomatch h)⟩
    · exact exists_readingOf_iff.1 (hall _ (List.mem_map_of_mem hname))
    · cases hfound
      refine ⟨?_, pairwise_sortByName ps,
        congrArg Except.ok (sortByName_eq_of_readingOf horder hps (collect_eq_ok hqs)).symm⟩
      have hsort : (Policy.sortByName ps).Perm ps := List.mergeSort_perm ..
      exact (hsort.map _).trans (hps ▸ horder.map _)

/-- The items in the order in which their units are joined: the results of units
    that give their items back. -/
def FanOut.order {ι : Type} (pool : Pool Nat) (schedule : List Move) (items : List ι) : List ι :=
  (FanOut.perform pool schedule (FanOut.fixed .ok) items).run.results

/-- A pool of two slots, where the read of the first policy ends last. -/
theorem policies_fetched_as_in_turn_overtaken :
    let w := World.ofInstance "http://a" InstanceState.fresh
    let ctx : Context Memory := ⟨Memory.server, false, 2, [.launch, .launch, .finish 1]⟩
    FanOut.order ⟨2, 2, [], [], [], []⟩ ctx.schedule ["default", "root"] = ["root", "default"] ∧
      ∃ found, ((policies []).fetch ctx "http://a").result w = .ok found ∧
        (fetchInTurn Memory.server "http://a").result w = .ok found ∧
        found.Pairwise fun p q => p.name ≤ q.name := by
  intro w ctx
  have hpool : (Pool.ofSize ctx.poolSize : Except EngineError (Pool Nat)) =
      .ok ⟨2, 2, [], [], [], []⟩ := rfl
  obtain ⟨hok, hfound, -⟩ := @policies_fetched_as_in_turn Memory "http://a" _ ctx _ hpool [] w
    ["default", "root"] (by decide) (Memory.readsByName w.server "http://a")
  obtain ⟨found, hfetch⟩ := hok.2 fun name hname => by
    rcases List.mem_pair.1 hname with rfl | rfl
    · exact ⟨"# default", by decide⟩
    · exact ⟨"", by decide⟩
  obtain ⟨-, hsorted, hturn⟩ := hfound found hfetch
  exact ⟨by decide, found, hfetch, hturn, hsorted⟩

end Concord
