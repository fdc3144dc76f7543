/-
  Instances in memory: what a call sees of one instance, and what it leaves.

  A call sees the configuration of its instance or the reason why it cannot be
  reached (`Memory.visit`); a mutation that succeeds puts another
  configuration in its place (`Memory.put`).  A mutation touches one holding
  of the instance: the policies, the mounts or the audit devices.

  * `fixes_instance`, `fixes_visit`: what a mutation leaves of any instance.
  * `change_eq`: the effect of a mutation on an instance that takes it.
  * `World.Quiet`, `World.Tallied`: only asking, and counting mutations.
-/
import Mathlib.Data.Nat.Basic
import Mathlib.Order.Basic
import Concord.Proofs.Dict
import Concord.Proofs.Session
import Concord.Run
import Concord.Server.Memory

namespace Concord

/-! ## Holdings -/

/-- What an instance keeps of an object of a kind. -/
abbrev KindName.Record : KindName → Type
  | audit | engine => BackendRecord
  | policy => String

/-- The kind of object that a mutation is about. -/
def Mutation.kind : Mutation → KindName
  | writePolicy .. | deletePolicy _ => .policy
  | enableEngine .. | tuneEngine .. | disableEngine _ => .engine
  | enableAudit .. | disableAudit _ => .audit

namespace InstanceState

/-- The objects of a kind on an instance. -/
def holding : (k : KindName) → InstanceState → Dict k.Record
  | .audit, s => s.audits
  | .engine, s => s.mounts
  | .policy, s => s.policies

/-- A mutation leaves the objects of the other kinds as they are. -/
theorem holding_perform {s s' : InstanceState} {m : Mutation} {k : KindName}
    (h : s.perform m = .ok s') (hk : k ≠ m.kind) : s'.holding k = s.holding k := by
  cases m with
  | writePolicy | disableEngine | disableAudit =>
    cases h
    cases k <;> first | rfl | exact absurd rfl hk
  | deletePolicy | enableEngine | enableAudit | tuneEngine =>
    simp only [perform] at h
    split at h <;> cases h
    cases k <;> first | rfl | exact absurd rfl hk

/-- The effect of mutations one after the other, or the reason for which the
    first of them that fails is refused. -/
def performAll : InstanceState → List Mutation → Except String InstanceState
  | s, [] => .ok s
  | s, m :: r =>
    match s.perform m with
    | .error reason => .error reason
    | .ok s' => s'.performAll r

end InstanceState

namespace Memory

variable {m : Memory} {a b : String} {s s' : InstanceState}

/-! ## Views -/

/-- What calls to an address see: the configuration of an instance, or the
    error with which all of them fail. -/
def visit (m : Memory) (a : String) : Except ServerError InstanceState :=
  if m.unreachable.contains a then .error (.unreachable a "connection refused")
  else
    match m.instances.get? a with
    | none => .error (.unreachable a "unknown instance")
    | some s => .ok s

theorem visit_eq_ok_iff :
    m.visit a = .ok s ↔ m.unreachable.contains a = false ∧ m.instances.get? a = some s := by
  unfold visit
  cases m.unreachable.contains a with
  | true => simp
  | false => cases m.instances.get? a <;> simp

theorem exists_visit_of_map {β : Type} {f : InstanceState → β} {x : β}
    (h : (m.visit a).map f = .ok x) : ∃ s, m.visit a = .ok s ∧ f s = x := by
  cases hs : m.visit a with
  | error e =>
    rw [hs] at h
    cases h
  | ok s =>
    rw [hs] at h
    exact ⟨s, rfl, Except.ok.inj h⟩

theorem ask_eq (m : Memory) (a : String) (q : Query) :
    m.ask a q = match m.visit a with
      | .error e => .error e
      | .ok s =>
        match s.answer q with
        | some answer => .ok answer
        | none => .error (.rejected a 404 "no such policy") := by
  unfold ask visit
  cases m.unreachable.contains a with
  | true => rfl
  | false => cases m.instances.get? a <;> rfl

/-- An answer comes from an instance. -/
theorem ask_eq_ok {q : Query} {answer : q.Answer} (h : m.ask a q = .ok answer) :
    ∃ s, m.visit a = .ok s ∧ s.answer q = some answer := by
  rw [ask_eq] at h
  cases hs : m.visit a with
  | error e =>
    rw [hs] at h
    cases h
  | ok s =>
    rw [hs] at h
    dsimp only at h
    refine ⟨s, rfl, ?_⟩
    split at h <;> cases h
    assumption

/-- The objects of a kind on an instance; none where there is no instance. -/
def held (m : Memory) (k : KindName) (a : String) : Dict k.Record := (m.state a).holding k

theorem held_of_visit {k : KindName} (h : m.visit a = .ok s) : m.held k a = s.holding k := by
  rw [held, state, (visit_eq_ok_iff.1 h).2]
  rfl

/-! ## Changes -/

/-- The instances with another configuration at an address, after some
    mutations more. -/
def put (m : Memory) (a : String) (s : InstanceState) (n : Nat) : Memory :=
  { m with instances := m.instances.insert a s, mutations := m.mutations + n }

@[simp] theorem readOnly_put (n : Nat) : (m.put a s n).readOnly = m.readOnly := rfl

@[simp] theorem mutations_put (n : Nat) : (m.put a s n).mutations = m.mutations + n := rfl

@[simp] theorem put_put (n n' : Nat) : (m.put a s n).put a s' n' = m.put a s' (n + n') := by
  simp [put, Nat.add_assoc]

theorem put_self (h : m.visit a = .ok s) : m.put a s 0 = m := by
  obtain ⟨-, hs⟩ := visit_eq_ok_iff.1 h
  simp [put, Dict.insert_eq_self hs]

theorem visit_put_self (h : m.visit a = .ok s) (n : Nat) : (m.put a s' n).visit a = .ok s' := by
  obtain ⟨hr, -⟩ := visit_eq_ok_iff.1 h
  exact visit_eq_ok_iff.2 ⟨hr, by simp [put]⟩

theorem visit_put_of_ne (h : a ≠ b) (n : Nat) : (m.put b s n).visit a = m.visit a := by
  simp [visit, put, h]

/-- A mutation of an instance that can be reached and changed. -/
theorem change_eq (h : m.visit a = .ok s) (hw : m.readOnly.contains a = false) (mu : Mutation) :
    m.change a mu = match s.perform mu with
      | .error reason => .error (.rejected a 400 reason)
      | .ok s' => .ok (m.put a s' 1) := by
  obtain ⟨hr, hs⟩ := visit_eq_ok_iff.1 h
  unfold change
  rw [hr, hw, hs]
  rfl

/-- A mutation that the instance takes, as the server answers it. -/
theorem server_change_of_perform (h : m.visit a = .ok s) (hw : m.readOnly.contains a = false)
    {mu : Mutation} (hp : s.perform mu = .ok s') :
    server.change a mu m = (.ok (), m.put a s' 1) := by
  simp [server, change_eq h hw, hp]

/-- What a mutation leaves behind when it succeeds. -/
theorem change_eq_ok {m' : Memory} {mu : Mutation} (h : m.change a mu = .ok m') :
    ∃ s s', m.visit a = .ok s ∧ m.readOnly.contains a = false ∧ s.perform mu = .ok s' ∧
      m' = m.put a s' 1 := by
  unfold change at h
  split at h
  · cases h
  · rename_i hr
    split at h
    · cases h
    · rename_i hw
      split at h
      · cases h
      · rename_i s hs
        split at h
        · cases h
        · rename_i s' hperform
          refine ⟨s, s', visit_eq_ok_iff.2 ⟨by simpa using hr, hs⟩, by simpa using hw, hperform, ?_⟩
          cases h
          rfl

theorem change_of_readOnly (h : m.readOnly.contains a = true) (mu : Mutation) :
    ∃ e, m.change a mu = .error e := by
  cases hc : m.change a mu with
  | error e => exact ⟨e, rfl⟩
  | ok m' =>
    obtain ⟨-, -, -, hw, -⟩ := change_eq_ok hc
    rw [h] at hw
    cases hw

/-! ## The server -/

variable {server' : Server Memory}

theorem server_ask (hc : server' = server) (a : String) (q : Query) (m : Memory) :
    (server'.ask a q m).1 = m.ask a q := by
  rw [hc]
  rfl

theorem server_change_of_error {e : ServerError} {mu : Mutation} (h : m.change a mu = .error e) :
    server.change a mu m = (.error e, m) := by
  simp only [server, h]

/-! ## Frame conditions -/

variable {β : Type}

theorem after_ask_server (a : String) (q : Query) (w : World Memory) :
    ((Session.ask server a q).after w).server = w.server := rfl

/-- What a mutation leaves: all as it was, or its own instance changed. -/
theorem server_change_cases (m : Memory) (b : String) (mu : Mutation) :
    (server.change b mu m).2 = m ∨ ∃ s s', m.visit b = .ok s ∧ s.perform mu = .ok s' ∧
      (server.change b mu m).2 = m.put b s' 1 := by
  unfold server
  dsimp only
  cases hc : m.change b mu with
  | error e => exact Or.inl rfl
  | ok m' =>
    obtain ⟨s, s', hs, -, hperform, rfl⟩ := change_eq_ok hc
    exact Or.inr ⟨s, s', hs, hperform, rfl⟩

/-- A mutation leaves every other instance as it is, and of its own instance
    what its effect leaves. -/
theorem fixes_instance (f : InstanceState → β) {mu : Mutation}
    (h : b = a → ∀ s s', s.perform mu = .ok s' → f s' = f s) :
    Session.Keeps (Fixes fun w => (w.server.instances.get? a).map f)
      (Session.change server b mu) := by
  intro w
  show ((server.change b mu w.server).2.instances.get? a).map f =
    (w.server.instances.get? a).map f
  rcases server_change_cases w.server b mu with hsame | ⟨s, s', hs, hperform, hput⟩
  · rw [hsame]
  · rw [hput, put, Dict.get?_insert]
    by_cases hab : a = b
    · subst hab
      rw [if_pos rfl, (visit_eq_ok_iff.1 hs).2]
      exact congrArg some (h rfl s s' hperform)
    · rw [if_neg hab]

/-- The same of what is seen of the instances. -/
theorem fixes_visit (f : InstanceState → β) {mu : Mutation}
    (h : b = a → ∀ s s', s.perform mu = .ok s' → f s' = f s) :
    Session.Keeps (Fixes fun w => (w.server.visit a).map f) (Session.change server b mu) := by
  intro w
  show ((server.change b mu w.server).2.visit a).map f = (w.server.visit a).map f
  rcases server_change_cases w.server b mu with hsame | ⟨s, s', hs, hperform, hput⟩
  · rw [hsame]
  · rw [hput]
    by_cases hab : a = b
    · subst hab
      rw [visit_put_self hs, hs]
      exact congrArg Except.ok (h rfl s s' hperform)
    · rw [visit_put_of_ne hab]

/-- A mutation leaves all other instances. -/
theorem fixes_other (hab : a ≠ b) (mu : Mutation) :
    Session.Keeps (Fixes fun w => w.server.instances.get? a) (Session.change server b mu) := by
  intro w
  show (server.change b mu w.server).2.instances.get? a = w.server.instances.get? a
  rcases server_change_cases w.server b mu with hsame | ⟨s, s', -, -, hput⟩
  · rw [hsame]
  · rw [hput, put, Dict.get?_insert, if_neg hab]

/-- No mutation makes an instance take mutations or refuse them. -/
theorem fixes_readOnly (b : String) (mu : Mutation) :
    Session.Keeps (Fixes fun w => w.server.readOnly) (Session.change server b mu) := by
  intro w
  show (server.change b mu w.server).2.readOnly = w.server.readOnly
  rcases server_change_cases w.server b mu with hsame | ⟨s, s', -, -, hput⟩
  · rw [hsame]
  · rw [hput, readOnly_put]

/-- What is seen of another instance, and who refuses mutations. -/
theorem fixes_others (hab : a ≠ b) (mu : Mutation) :
    Session.Keeps (Fixes fun w => (w.server.visit a, w.server.readOnly))
      (Session.change server b mu) := by
  intro w
  show ((server.change b mu w.server).2.visit a, (server.change b mu w.server).2.readOnly) = _
  rcases server_change_cases w.server b mu with hsame | ⟨s, s', hs, hperform, hput⟩
  · rw [hsame]
  · rw [hput, visit_put_of_ne hab, readOnly_put]

end Memory

/-! ## Mutating calls -/

/-- A call that changes nothing. -/
def Call.Asks (c : Call) : Prop := ∃ q, c.operation = .query q

/-- Instances are as they were, and were only asked. -/
def World.Quiet (w w' : World Memory) : Prop := w'.server = w.server ∧ Issues Call.Asks w w'

instance : IsPreorder (World Memory) World.Quiet where
  refl w := ⟨rfl, refl_of (Issues Call.Asks) w⟩
  trans _ _ _ h h' := ⟨h'.1.trans h.1, trans_of (Issues Call.Asks) h.2 h'.2⟩

/-- No mutation is undone in the count of mutations, and none is counted that
    was not issued. -/
def World.Tallied (w w' : World Memory) : Prop :=
  ∃ new, w'.calls = w.calls ++ new ∧ w.server.mutations ≤ w'.server.mutations ∧
    ((∀ c ∈ new, c.Asks) → w'.server.mutations = w.server.mutations)

theorem World.tallied_of_eq {w w' : World Memory} (hc : w'.calls = w.calls)
    (hs : w'.server = w.server) : w.Tallied w' :=
  ⟨[], by simpa using hc, by rw [hs], fun _ => by rw [hs]⟩

instance : IsPreorder (World Memory) World.Tallied where
  refl _ := World.tallied_of_eq rfl rfl
  trans := by
    rintro w w' w'' ⟨new, hw, hle, hasks⟩ ⟨new', hw', hle', hasks'⟩
    refine ⟨new ++ new', by rw [hw', hw, List.append_assoc], hle.trans hle', fun h => ?_⟩
    rw [hasks' fun c hc => h c (List.mem_append_right new hc),
      hasks fun c hc => h c (List.mem_append_left new' hc)]

theorem World.tallied_record (es : List Log.Entry) :
    Session.Keeps World.Tallied (Session.record es) := fun _ => World.tallied_of_eq rfl rfl

theorem World.tallied_markInvalid (b : String) :
    Session.Keeps World.Tallied (Session.markInvalid b) := fun _ => World.tallied_of_eq rfl rfl

/-- A world that was only asked has counted no mutation. -/
theorem World.Tallied.mutations_eq {w w' : World Memory} (h : w.Tallied w')
    (hasks : Issues Call.Asks w w') : w'.server.mutations = w.server.mutations := by
  obtain ⟨new, hnew, -, heq⟩ := h
  obtain ⟨new', hnew', hall⟩ := hasks
  obtain rfl : new = new' := List.append_cancel_left (hnew.symm.trans hnew')
  exact heq hall

theorem Memory.tallied_change (b : String) (mu : Mutation) :
    Session.Keeps World.Tallied (Session.change Memory.server b mu) := by
  intro w
  have hasks : ¬ ∀ c ∈ [(⟨b, .mutation mu⟩ : Call)], c.Asks := by
    intro h
    obtain ⟨q, hq⟩ := h _ List.mem_cons_self
    cases hq
  refine ⟨[⟨b, .mutation mu⟩], rfl, ?_, fun h => absurd h hasks⟩
  show w.server.mutations ≤ (Memory.server.change b mu w.server).2.mutations
  rcases Memory.server_change_cases w.server b mu with hsame | ⟨s, s', -, -, hput⟩
  · rw [hsame]
  · rw [hput, Memory.mutations_put]
    exact Nat.le_add_right ..

/-! ## One instance -/

/-- A world with one instance, which can be reached and changed. -/
def World.ofInstance (a : String) (s : InstanceState) : World Memory where
  server := Memory.ofInstances (Dict.ofList [(a, s)])
  registry := Registry.ofAddresses [a]
  calls := []
  log := []

theorem World.eq_of_get?_ofInstance {a b : String} {s s' : InstanceState}
    (h : (World.ofInstance a s).server.instances.get? b = some s') : b = a ∧ s' = s := by
  have hmem := Dict.mem_entries_iff.2 h
  obtain ⟨rfl, rfl⟩ := Prod.mk.inj (List.mem_singleton.1 hmem)
  exact ⟨rfl, rfl⟩

end Concord
