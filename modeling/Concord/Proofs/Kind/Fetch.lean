/-
  Fetching: what the engine gets to see of an instance.

  Fetching asks and never tells.  From an instance in memory it brings the
  records of its kind in the order of their keys, also the policies, whose
  rules are read by a fan-out in any order.

  * `onlyAsks_auditDevices` and the like: fetching is made of queries.
  * `result_fetch_policies`: the policies of an instance in memory, for every
    size of the pool and every schedule.
-/
import Mathlib.Data.List.Forall2
import Concord.Proofs.FanOut.Progress
import Concord.Proofs.Memory

namespace Concord

open Session

variable {α : Type}

/-! ## Queries only -/

/-- Fetching is made of queries at its address and entries of the log. -/
def Kind.OnlyAsks (kind : Kind α) : Prop :=
  ∀ {σ : Type} {R : World σ → World σ → Prop} [IsPreorder (World σ) R] (ctx : Context σ)
    (a : String), Reading R ctx.server a → Keeps R (kind.fetch ctx a)

theorem onlyAsks_auditDevices (items : List Backend) : (auditDevices items).OnlyAsks :=
  fun _ _ h => (h.ask .listAudits).bind fun _ => .pure _

theorem onlyAsks_secretsEngines (items : List Backend) : (secretsEngines items).OnlyAsks :=
  fun _ _ h => (h.ask .listEngines).bind fun _ => .pure _

theorem keeps_readPolicies {σ : Type} {R : World σ → World σ → Prop} [IsPreorder (World σ) R]
    {ctx : Context σ} {a : String} (h : Reading R ctx.server a) (names : List String) :
    Keeps R (readPolicies ctx a names) := by
  unfold readPolicies
  cases Pool.ofSize ctx.poolSize with
  | error e => exact .pure _
  | ok pool =>
    refine (Keeps.fanOut pool ctx.schedule names fun name => ?_).bind fun _ => ?_
    · exact (h.ask (.readPolicy name)).bind fun _ => .pure _
    · exact (h.record _).bind fun _ => .pure _

theorem onlyAsks_policies (items : List Policy) : (policies items).OnlyAsks := by
  intro σ R _ ctx a h
  refine (h.ask .listPolicies).bind fun listing => ?_
  cases listing with
  | error e => exact .pure _
  | ok names => exact keeps_readPolicies h names

/-! ## One query -/

/-- Fetching is one query, and its answer shows all items. -/
def Kind.ListedBy (kind : Kind α) (q : Query) (decode : String → q.Answer → List α) : Prop :=
  ∀ ⦃σ : Type⦄ (ctx : Context σ) (a : String), kind.fetch ctx a = do
    let listing ← Session.ask ctx.server a q
    return match listing with
      | .ok answer => .ok (decode a answer)
      | .error e => .error (.server e)

theorem listedBy_auditDevices (items : List Backend) :
    (auditDevices items).ListedBy .listAudits Backend.ofListing :=
  fun _ _ _ => bind_congr fun listing => by cases listing <;> rfl

theorem listedBy_secretsEngines (items : List Backend) :
    (secretsEngines items).ListedBy .listEngines Backend.ofListing :=
  fun _ _ _ => bind_congr fun listing => by cases listing <;> rfl

theorem Kind.ListedBy.exists_answer {kind : Kind α} {q : Query}
    {decode : String → q.Answer → List α} (hkind : kind.ListedBy q decode) {σ : Type}
    {ctx : Context σ} {a : String} {w : World σ} {found : List α}
    (h : (kind.fetch ctx a).result w = .ok found) :
    ∃ answer, (ctx.server.ask a q w.server).1 = .ok answer ∧ found = decode a answer := by
  rw [hkind, result_bind, result_ask, result_pure] at h
  cases hanswer : (ctx.server.ask a q w.server).1 with
  | error e =>
    rw [hanswer] at h
    cases h
  | ok answer =>
    rw [hanswer] at h
    cases h
    exact ⟨answer, rfl, rfl⟩

/-! ## Reading in any order -/

theorem collect_ok (ps : List Policy) : Policy.collect (ps.map .ok) = .ok ps := by
  induction ps with
  | nil => rfl
  | cons p ps ih => rw [List.map_cons, Policy.collect, ih]; rfl

/-- What is reported of reads that fail is the error of one of them. -/
theorem mem_of_collect_eq_error {reads : List (Except ServerError Policy)} {e : ServerError}
    (h : Policy.collect reads = .error e) : .error e ∈ reads := by
  induction reads with
  | nil => cases h
  | cons read reads ih =>
    cases read with
    | error e' =>
      cases h
      exact List.mem_cons_self
    | ok p =>
      rw [Policy.collect] at h
      cases hrest : Policy.collect reads with
      | error e' =>
        rw [hrest] at h
        cases h
        exact List.mem_cons_of_mem _ (ih hrest)
      | ok rest =>
        rw [hrest] at h
        cases h

/-- Reads are collected if none of them fails. -/
theorem collect_eq_ok {reads : List (Except ServerError Policy)} {ps : List Policy}
    (h : Policy.collect reads = .ok ps) : reads = ps.map .ok := by
  induction reads generalizing ps with
  | nil =>
    cases h
    rfl
  | cons read reads ih =>
    cases read with
    | error e => cases h
    | ok p =>
      rw [Policy.collect] at h
      cases hrest : Policy.collect reads with
      | error e =>
        rw [hrest] at h
        cases h
      | ok rest =>
        rw [hrest] at h
        cases h
        rw [ih hrest, List.map_cons]

theorem pairwise_sortByName (ps : List Policy) :
    (Policy.sortByName ps).Pairwise fun p q => p.name ≤ q.name := by
  refine (List.pairwise_mergeSort ?_ ?_ ps).imp fun h => of_decide_eq_true h
  · intro p q r hpq hqr
    exact decide_eq_true (String.le_trans (of_decide_eq_true hpq) (of_decide_eq_true hqr))
  · intro p q
    simpa using String.le_total p.name q.name

/-- Policies are sorted in one way if a name stands for one policy. -/
theorem eq_sortByName {ps qs : List Policy} (h : qs.Perm ps)
    (hsorted : qs.Pairwise fun p q => p.name ≤ q.name)
    (hname : ∀ p ∈ qs, ∀ q ∈ qs, p.name = q.name → p = q) : qs = Policy.sortByName ps := by
  have hperm : qs.Perm (Policy.sortByName ps) := h.trans (List.mergeSort_perm ..).symm
  refine hperm.eq_of_pairwise ?_ hsorted (pairwise_sortByName ps)
  exact fun p q hp hq hpq hqp => hname p hp q (hperm.mem_iff.2 hq) (String.le_antisymm hpq hqp)

/-- The policies of an instance in the order of their names. -/
theorem sortByName_eq {d : Dict String} {a : String} {ps : List Policy}
    (h : ps.Perm (d.entries.map fun e => Policy.observed a e.1 e.2)) :
    Policy.sortByName ps = d.entries.map fun e => Policy.observed a e.1 e.2 := by
  refine (eq_sortByName h.symm (d.sorted.map _ fun _ _ h => String.lt_asymm h) ?_).symm
  intro p hp q hq hn
  -- two policies of one name come from one entry
  obtain ⟨⟨n, r⟩, he, rfl⟩ := List.mem_map.1 hp
  obtain ⟨⟨n', r'⟩, he', rfl⟩ := List.mem_map.1 hq
  obtain rfl : n = n' := hn
  rw [Dict.mem_entries_iff] at he he'
  rw [Option.some.inj (he.symm.trans he')]

/-- The policy of a name on an instance. -/
def Policy.itemOf (a : String) (d : Dict String) (name : String) : Policy :=
  Policy.observed a name ((d.get? name).getD "")

theorem map_itemOf (a : String) (d : Dict String) :
    d.keys.map (Policy.itemOf a d) = d.entries.map fun e => Policy.observed a e.1 e.2 := by
  rw [Dict.keys, List.map_map]
  refine List.map_congr_left fun e he => ?_
  simp [Policy.itemOf, Dict.mem_entries_iff.1 he]

/-- The unit of work that reads the rules of a policy. -/
def readUnit {σ : Type} (server : Server σ) (a name : String) :
    Session σ (Except String (Except ServerError Policy)) := do
  let rules ← ask server a (.readPolicy name)
  return .ok (rules.map (Policy.observed a name))

/-- What is fetched, from the reads that were made. -/
def gathered (reads : List (Except ServerError Policy)) : Except Error (List Policy) :=
  ((Policy.collect reads).mapError .server).map Policy.sortByName

theorem gathered_of_ok {reads : List (Except ServerError Policy)} {ps : List Policy}
    (h : Policy.collect reads = .ok ps) : gathered reads = .ok (Policy.sortByName ps) := by
  rw [gathered, h]
  rfl

theorem gathered_of_error {reads : List (Except ServerError Policy)} {e : ServerError}
    (h : Policy.collect reads = .error e) : gathered reads = .error (.server e) := by
  rw [gathered, h]
  rfl

theorem result_readPolicies_of_pool {σ : Type} {ctx : Context σ} {pool : Pool Nat}
    (hpool : (Pool.ofSize ctx.poolSize : Except EngineError (Pool Nat)) = .ok pool) (a : String)
    (names : List String) (w : World σ) :
    (readPolicies ctx a names).result w =
      match ((FanOut.perform pool ctx.schedule (readUnit ctx.server a) names).result w).outcome with
      | .error e => .error (.engine e)
      | .ok reads =>
        match Policy.collect reads with
        | .error e => .error (.server e)
        | .ok ps => .ok (Policy.sortByName ps) := by
  unfold readPolicies
  rw [hpool]
  rfl

/-- However the reads come to their results, these are gathered in some order of
    the names. -/
theorem exists_gathered {σ : Type} {I : World σ → Prop}
    {P : String → Except ServerError Policy → Prop} {ctx : Context σ} {a : String} {pool : Pool Nat}
    (hpool : (Pool.ofSize ctx.poolSize : Except EngineError (Pool Nat)) = .ok pool)
    (hread : ∀ name w, I w →
      P name ((ctx.server.ask a (.readPolicy name) w.server).1.map (Policy.observed a name)) ∧
        I ((readUnit ctx.server a name).after w))
    (names : List String) {w : World σ} (hw : I w) :
    ∃ order reads, order.Perm names ∧ List.Forall₂ P order reads ∧
      (readPolicies ctx a names).result w = gathered reads := by
  have hunit : ∀ name, Leads I (fun left => ∃ read, left = .ok read ∧ P name read)
      (readUnit ctx.server a name) :=
    fun name w hw => ⟨⟨_, rfl, (hread name w hw).1⟩, (hread name w hw).2⟩
  obtain ⟨order, reads, horder, hforall, houtcome⟩ :=
    ((Leads.stepwise I).results hpool hunit ctx.schedule names w hw).1
  refine ⟨order, reads, horder, hforall, ?_⟩
  rw [result_readPolicies_of_pool hpool, houtcome, gathered]
  dsimp only
  cases Policy.collect reads <;> rfl

/-- Where the reads come to what `reading` says of the names, so does the fetch. -/
theorem exists_gathered_map {σ : Type} {I : World σ → Prop}
    {reading : String → Except ServerError Policy} {ctx : Context σ} {a : String} {pool : Pool Nat}
    (hpool : (Pool.ofSize ctx.poolSize : Except EngineError (Pool Nat)) = .ok pool)
    (hread : ∀ name w, I w →
      reading name = (ctx.server.ask a (.readPolicy name) w.server).1.map (Policy.observed a name) ∧
        I ((readUnit ctx.server a name).after w))
    (names : List String) {w : World σ} (hw : I w) :
    ∃ order : List String, order.Perm names ∧
      (readPolicies ctx a names).result w = gathered (order.map reading) := by
  obtain ⟨order, reads, horder, hforall, hresult⟩ :=
    exists_gathered (P := fun name read => reading name = read) hpool hread names hw
  obtain rfl : order.map reading = reads :=
    List.forall₂_eq_eq_eq ▸ List.forall₂_map_left_iff.2 hforall
  exact ⟨order, horder, hresult⟩

/-- The policies that are read, before they are sorted: one for each name, as it
    is answered while the reads keep an invariant. -/
theorem exists_policies_of_ok {σ : Type} {I : World σ → Prop} {P : String → Policy → Prop}
    {ctx : Context σ} {a : String} {names : List String} {w : World σ} {found : List Policy}
    (hread : ∀ name w', I w' →
      (∀ rules, (ctx.server.ask a (.readPolicy name) w'.server).1 = .ok rules →
        P name (Policy.observed a name rules)) ∧ I ((readUnit ctx.server a name).after w'))
    (hw : I w) (h : (readPolicies ctx a names).result w = .ok found) :
    ∃ pool order ps, (Pool.ofSize ctx.poolSize : Except EngineError (Pool Nat)) = .ok pool ∧
      order.Perm names ∧ List.Forall₂ P order ps ∧ found = Policy.sortByName ps := by
  cases hpool : (Pool.ofSize ctx.poolSize : Except EngineError (Pool Nat)) with
  | error e => simp [readPolicies, hpool] at h
  | ok pool =>
    obtain ⟨order, reads, horder, hforall, hresult⟩ := exists_gathered
      (P := fun name read => ∀ p, read = .ok p → P name p) hpool (fun name w' hw' => by
        obtain ⟨hanswer, hafter⟩ := hread name w' hw'
        refine ⟨fun p hp => ?_, hafter⟩
        cases hrules : (ctx.server.ask a (.readPolicy name) w'.server).1 with
        | error e =>
          rw [hrules] at hp
          cases hp
        | ok rules =>
          rw [hrules] at hp
          cases hp
          exact hanswer rules hrules) names hw
    rw [hresult] at h
    cases hcollect : Policy.collect reads with
    | error e =>
      rw [gathered_of_error hcollect] at h
      cases h
    | ok ps =>
      rw [gathered_of_ok hcollect] at h
      cases h
      rw [collect_eq_ok hcollect, List.forall₂_map_right_iff] at hforall
      exact ⟨pool, order, ps, rfl, horder, hforall.imp fun _ p hp => hp p rfl, rfl⟩

/-- The rules of the policies of an instance in memory, read in any order. -/
theorem result_readPolicies {ctx : Context Memory} (hc : ctx.server = Memory.server) {a : String}
    {w : World Memory} {s : InstanceState} (hs : w.server.visit a = .ok s) :
    (readPolicies ctx a s.policies.keys).result w =
      match (Pool.ofSize ctx.poolSize : Except EngineError (Pool Nat)) with
      | .error e => .error (.engine e)
      | .ok _ => .ok (s.policies.entries.map fun e => Policy.observed a e.1 e.2) := by
  cases hpool : (Pool.ofSize ctx.poolSize : Except EngineError (Pool Nat)) with
  | error e => simp [readPolicies, hpool]
  | ok pool =>
    -- reading changes nothing, so every read finds the rules that are there
    let reading := fun name =>
      (w.server.ask a (.readPolicy name)).map (Policy.observed a name)
    have hread : ∀ name (w' : World Memory), w'.server = w.server →
        reading name =
            (ctx.server.ask a (.readPolicy name) w'.server).1.map (Policy.observed a name) ∧
          ((readUnit ctx.server a name).after w').server = w.server := by
      intro name w' hw'
      rw [hc, hw']
      exact ⟨rfl, hw'⟩
    obtain ⟨order, horder, hresult⟩ := exists_gathered_map
      (I := fun w' => w'.server = w.server) hpool hread s.policies.keys rfl
    have hreads : order.map reading = (order.map (Policy.itemOf a s.policies)).map .ok := by
      rw [List.map_map]
      refine List.map_congr_left fun name hname => ?_
      obtain ⟨rules, hrules⟩ := Dict.mem_keys_iff.1 (horder.mem_iff.1 hname)
      have hask : w.server.ask a (.readPolicy name) = .ok rules := by
        rw [Memory.ask_eq, hs]
        simp [InstanceState.answer, hrules]
      show (w.server.ask a (.readPolicy name)).map _ = _
      rw [hask]
      simp [Policy.itemOf, hrules, Except.map]
    rw [hresult, hreads, gathered_of_ok (collect_ok _)]
    exact congrArg Except.ok (sortByName_eq (map_itemOf a s.policies ▸ horder.map _))

end Concord
