/-
  What a kind of object is to an instance in memory: how its items and the
  records of the instance correspond, and what a change makes of a record.

  The three kinds differ in these data only (`Upkeep`), and each of them obeys
  the same laws (`Upkeep.Serves`), from which all that a pass does to an
  instance follows.

  * `auditUpkeep`, `engineUpkeep`, `policyUpkeep`, each with its laws.
-/
import Concord.Proofs.Kind.Fetch

namespace Concord

variable {α : Type} {k : KindName}

/-! ## Holdings -/

namespace InstanceState

/-- An instance with other objects of a kind. -/
def withHolding : (k : KindName) → InstanceState → Dict k.Record → InstanceState
  | .audit, s, d => { s with audits := d }
  | .engine, s, d => { s with mounts := d }
  | .policy, s, d => { s with policies := d }

@[simp] theorem holding_withHolding (k : KindName) (s : InstanceState) (d : Dict k.Record) :
    (s.withHolding k d).holding k = d := by
  cases k <;> rfl

theorem holding_withHolding_of_ne {k k' : KindName} (h : k' ≠ k) (s : InstanceState)
    (d : Dict k.Record) : (s.withHolding k d).holding k' = s.holding k' := by
  cases k <;> cases k' <;> first | rfl | exact absurd rfl h

/-- An instance is known by its objects. -/
theorem ext_holding {s s' : InstanceState} (h : ∀ k, s.holding k = s'.holding k) : s = s' := by
  obtain ⟨policies, mounts, audits⟩ := s
  obtain rfl : policies = _ := h .policy
  obtain rfl : mounts = _ := h .engine
  obtain rfl : audits = _ := h .audit
  rfl

@[simp] theorem withHolding_holding (k : KindName) (s : InstanceState) :
    s.withHolding k (s.holding k) = s := by
  cases k <;> rfl

@[simp] theorem withHolding_withHolding (k : KindName) (s : InstanceState) (d d' : Dict k.Record) :
    (s.withHolding k d).withHolding k d' = s.withHolding k d' := by
  cases k <;> rfl

end InstanceState

/-! ## Upkeep -/

/-- How the items of a kind and the records of an instance correspond. -/
structure Upkeep (k : KindName) (α : Type) where
  /-- The item of a record under a key, at an address. -/
  item : String → String → k.Record → α
  /-- The record that creating an item leaves. -/
  created : α → k.Record
  /-- The record that updating to an item leaves in place of another. -/
  updated : α → k.Record → k.Record
  /-- Why nothing can be fetched with a pool of a size, if so. -/
  refusal : Nat → Option Error

namespace Upkeep

/-- The items of a holding, in the order of their keys. -/
def items (U : Upkeep k α) (a : String) (d : Dict k.Record) : List α :=
  d.entries.map fun e => U.item a e.1 e.2

/-- What fetching from an address brings. -/
def seen (U : Upkeep k α) (poolSize : Nat) (m : Memory) (a : String) : Except Error (List α) :=
  match m.visit a with
  | .error e => .error (.server e)
  | .ok s =>
    match U.refusal poolSize with
    | some e => .error e
    | none => .ok (U.items a (s.holding k))

theorem seen_eq (U : Upkeep k α) (n : Nat) (m : Memory) (a : String) :
    U.seen n m a =
      match (m.visit a).map (InstanceState.holding k) with
      | .error e => .error (.server e)
      | .ok d =>
        match U.refusal n with
        | some e => .error e
        | none => .ok (U.items a d) := by
  unfold seen
  cases m.visit a <;> rfl

/-- What fetching brings depends on the objects of the kind only. -/
theorem seen_congr {U : Upkeep k α} {m m' : Memory} {a : String} (n : Nat)
    (h : (m'.visit a).map (InstanceState.holding k) =
      (m.visit a).map (InstanceState.holding k)) : U.seen n m' a = U.seen n m a := by
  rw [seen_eq, seen_eq, h]

variable [Item α]

/-- Items keep the key under which their records are kept. -/
def Keyed (U : Upkeep k α) (key : String) : Prop := ∀ a r, Item.key (U.item a key r) = key

/-- What a step makes of the record under its key. -/
def effect (U : Upkeep k α) : Action → α → Option k.Record → Option k.Record
  | .create, x, _ => some (U.created x)
  | .update, x, r => r.map (U.updated x)
  | .delete, _, _ => none

/-- A holding after a step. -/
def enact (U : Upkeep k α) (d : Dict k.Record) (step : Action × α) : Dict k.Record :=
  d.alter (Item.key step.2) (U.effect step.1 step.2)

theorem enact_create (U : Upkeep k α) (d : Dict k.Record) (x : α) :
    U.enact d (.create, x) = d.insert (Item.key x) (U.created x) := rfl

theorem enact_update (U : Upkeep k α) {d : Dict k.Record} {x : α} {r : k.Record}
    (h : d.get? (Item.key x) = some r) :
    U.enact d (.update, x) = d.insert (Item.key x) (U.updated x r) := by
  simp [enact, Dict.alter, effect, h]

/-- The steps that no instance refuses: nothing is created that is there, and
    nothing updated or deleted that is not. -/
def Possible (d : Dict k.Record) : Action × α → Prop
  | (.create, x) => d.get? (Item.key x) = none
  | (.update, x) | (.delete, x) => ∃ r, d.get? (Item.key x) = some r

/-- The laws of a kind that looks after its objects in this way. -/
structure Serves (U : Upkeep k α) (kind : Kind α) : Prop where
  asks : kind.OnlyAsks
  fetch : ∀ (ctx : Context Memory) (a : String) (w : World Memory), ctx.server = Memory.server →
    (kind.fetch ctx a).result w = U.seen ctx.poolSize w.server a
  kind_mutations : ∀ action x, ∀ m ∈ kind.mutations action x, m.kind = k
  mutations_ne_nil : ∀ action x, kind.mutations action x ≠ []
  perform : ∀ (s : InstanceState) (step : Action × α), Possible (s.holding k) step →
    s.performAll (kind.mutations step.1 step.2) =
      .ok (s.withHolding k (U.enact (s.holding k) step))
  agrees_created : ∀ a x, U.Keyed (Item.key x) →
    Item.agrees x (U.item a (Item.key x) (U.created x)) = true
  updated_updated : ∀ x r, U.updated x (U.updated x r) = U.updated x r

end Upkeep

/-! ## Mounts and audit devices -/

/-- Whether a record has the type, the description and the options of an
    item. -/
def Backend.Matches (b : Backend) (r : BackendRecord) : Prop :=
  r.type = b.type ∧ r.description = b.description ∧ r.normalizedOptions = b.options

instance (b : Backend) (r : BackendRecord) : Decidable (b.Matches r) :=
  inferInstanceAs (Decidable (_ ∧ _ ∧ _))

/-- Options that were written are read back as they were. -/
theorem ofRaw_map_str (o : Options) : Options.ofRaw (o.map .str) = o := by
  apply Dict.ext
  show (o.entries.map fun e => (e.1, Json.str e.2)).filterMap _ = o.entries
  rw [List.filterMap_map]
  exact List.filterMap_some

theorem Backend.matches_stored (b : Backend) : b.Matches (InstanceState.stored b.settings) :=
  ⟨rfl, rfl, ofRaw_map_str b.options⟩

/-- A record that is tuned matches if it has the type already. -/
theorem Backend.matches_tuned_iff {b : Backend} {r : BackendRecord} :
    b.Matches { InstanceState.stored b.settings with type := r.type } ↔ r.type = b.type :=
  ⟨And.left, fun h => ⟨h, rfl, ofRaw_map_str b.options⟩⟩

/-- A wanted item agrees with what is observed under its key if the record
    matches it. -/
theorem Backend.agrees_observed_iff {b : Backend} {a : String} {r : BackendRecord}
    (h : MountPath.normalize b.path = b.path) :
    Item.agrees b (Backend.observed a b.path r) = true ↔ b.Matches r := by
  have hsame : MountPath.same b.path (Backend.observed a b.path r).path = true := by
    rw [Backend.observed, h]
    exact MountPath.same_iff.2 rfl
  show (MountPath.same b.path (Backend.observed a b.path r).path && b.type == r.type &&
    b.description == r.description && b.options == r.normalizedOptions) = true ↔ _
  simp only [hsame, Bool.true_and, Bool.and_eq_true, beq_iff_eq, and_assoc]
  exact ⟨fun ⟨ht, hd, ho⟩ => ⟨ht.symm, hd.symm, ho.symm⟩,
    fun ⟨ht, hd, ho⟩ => ⟨ht.symm, hd.symm, ho.symm⟩⟩

/-- The upkeep of audit devices. -/
def auditUpkeep : Upkeep .audit Backend where
  item := Backend.observed
  created b := InstanceState.stored b.settings
  updated b _ := InstanceState.stored b.settings
  refusal _ := none

/-- The upkeep of secrets engines. -/
def engineUpkeep : Upkeep .engine Backend where
  item := Backend.observed
  created b := InstanceState.stored b.settings
  updated b r := { InstanceState.stored b.settings with type := r.type }
  refusal _ := none

theorem keyed_auditUpkeep_iff {key : String} :
    auditUpkeep.Keyed key ↔ MountPath.normalize key = key :=
  ⟨fun h => h "" default, fun h _ _ => h⟩

theorem keyed_engineUpkeep_iff {key : String} :
    engineUpkeep.Keyed key ↔ MountPath.normalize key = key :=
  ⟨fun h => h "" default, fun h _ _ => h⟩

theorem serves_auditDevices (items : List Backend) : auditUpkeep.Serves (auditDevices items) where
  asks := onlyAsks_auditDevices items
  fetch ctx a w hc := by
    refine (Session.result_bind _ _ w).trans ?_
    rw [Session.result_ask, Memory.server_ask hc, Memory.ask_eq, Upkeep.seen]
    cases w.server.visit a <;> rfl
  kind_mutations action x m hm := by
    cases action <;> simp [auditDevices] at hm <;> rcases hm with rfl | rfl <;> rfl
  mutations_ne_nil action x := by cases action <;> simp [auditDevices]
  perform s step h := by
    obtain ⟨action, b⟩ := step
    cases action with
    | create =>
      have hnone : s.audits.get? b.path = none := h
      rw [Upkeep.enact_create]
      simp [auditDevices, InstanceState.performAll, InstanceState.perform, Dict.contains, hnone]
      rfl
    | update =>
      obtain ⟨r, hr⟩ := h
      rw [Upkeep.enact_update _ hr]
      simp [auditDevices, InstanceState.performAll, InstanceState.perform, Dict.contains,
        Dict.insert_erase]
      rfl
    | delete => rfl
  agrees_created a b h :=
    (Backend.agrees_observed_iff (keyed_auditUpkeep_iff.1 h)).2 b.matches_stored
  updated_updated _ _ := rfl

theorem isProtected_secretsEngines (items : List Backend) (b : Backend) :
    (secretsEngines items).isProtected b = isBuiltinMount b.path := by
  dsimp only [secretsEngines]

theorem serves_secretsEngines (items : List Backend) :
    engineUpkeep.Serves (secretsEngines items) where
  asks := onlyAsks_secretsEngines items
  fetch ctx a w hc := by
    refine (Session.result_bind _ _ w).trans ?_
    rw [Session.result_ask, Memory.server_ask hc, Memory.ask_eq, Upkeep.seen]
    cases w.server.visit a <;> rfl
  kind_mutations action x m hm := by
    cases action <;> simp [secretsEngines] at hm <;> subst hm <;> rfl
  mutations_ne_nil action x := by cases action <;> simp [secretsEngines]
  perform s step h := by
    obtain ⟨action, b⟩ := step
    cases action with
    | create =>
      have hnone : s.mounts.get? b.path = none := h
      rw [Upkeep.enact_create]
      simp [secretsEngines, InstanceState.performAll, InstanceState.perform, Dict.contains, hnone]
      rfl
    | update =>
      obtain ⟨r, hr⟩ := h
      have hr' : s.mounts.get? b.path = some r := hr
      rw [Upkeep.enact_update _ hr]
      simp [secretsEngines, InstanceState.performAll, InstanceState.perform, hr']
      rfl
    | delete => rfl
  agrees_created a b h :=
    (Backend.agrees_observed_iff (keyed_engineUpkeep_iff.1 h)).2 b.matches_stored
  updated_updated _ _ := rfl

/-! ## Policies -/

/-- The upkeep of policies. -/
def policyUpkeep : Upkeep .policy Policy where
  item := Policy.observed
  created p := p.rules
  updated p _ := p.rules
  refusal n :=
    match (Pool.ofSize n : Except EngineError (Pool Nat)) with
    | .error e => some (.engine e)
    | .ok _ => none

theorem refusal_policyUpkeep {n : Nat} (h : 1 ≤ n ∧ n ≤ Pool.maxSize) :
    policyUpkeep.refusal n = none := by
  simp [policyUpkeep, Pool.ofSize, h]

theorem keyed_policyUpkeep (key : String) : policyUpkeep.Keyed key := fun _ _ => rfl

theorem Policy.agrees_observed_iff {p : Policy} {a rules : String} :
    Item.agrees p (Policy.observed a p.name rules) = true ↔ rules = p.rules := by
  show (p.name == p.name && p.rules == rules) = true ↔ _
  rw [beq_self_eq_true, Bool.true_and, beq_iff_eq]
  exact eq_comm

theorem serves_policies (items : List Policy) : policyUpkeep.Serves (policies items) where
  asks := onlyAsks_policies items
  fetch ctx a w hc := by
    refine (Session.result_bind _ _ w).trans ?_
    rw [Session.result_ask, Memory.server_ask hc, Memory.ask_eq, Upkeep.seen]
    cases hs : w.server.visit a with
    | error e => rfl
    | ok s =>
      have hs' : ((Session.ask ctx.server a .listPolicies).after w).server.visit a = .ok s := by
        rw [Session.after_ask, hc]
        exact hs
      refine (result_readPolicies hc hs').trans ?_
      cases hpool : (Pool.ofSize ctx.poolSize : Except EngineError (Pool Nat)) <;>
        simp [policyUpkeep, hpool, Upkeep.items, InstanceState.holding]
  kind_mutations action x m hm := by
    cases action <;> simp [policies] at hm <;> subst hm <;> rfl
  mutations_ne_nil action x := by cases action <;> simp [policies]
  perform s step h := by
    obtain ⟨action, p⟩ := step
    cases action with
    | create => rfl
    | update =>
      obtain ⟨r, hr⟩ := h
      rw [Upkeep.enact_update _ hr]
      rfl
    | delete =>
      obtain ⟨r, hr⟩ := h
      have hin : s.policies.contains p.name = true := Dict.contains_iff.2 ⟨r, hr⟩
      simp [policies, InstanceState.performAll, InstanceState.perform, hin]
      rfl
  agrees_created a p _ := Policy.agrees_observed_iff.2 rfl
  updated_updated _ _ := rfl

end Concord
