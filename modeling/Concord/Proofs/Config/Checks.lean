/-
  Which documents are well formed, and which error is reported of another.

  The rules of a document are checks in an order: first those of the instances,
  then those of the audit devices, the secrets engines and the policies, element
  by element.  What a check demands is said without the running lists of the
  validation: a key must not be among those of the elements before.

  An object on an instance that is not listed is not remembered by its key.  An
  object of the same key after it is on the same instance, so it fails for that
  reason before its key is looked at.

  * `Check`, `FirstFailure`; `Config.checks`: the checks of a document.
  * `Config.WellFormed`: what all of them demand together.
  * `Config.reports_problems`: the broken rules are those of the checks.
  * `Config.problems_eq_nil_iff`: nothing is broken in well-formed documents.
-/
import Mathlib.Data.List.Nodup
import Concord.Config.Validation

namespace Concord

open Text

/-! ## Checks -/

/-- What a check demands, and the error if it does not hold. -/
structure Check where
  holds : Prop
  error : ConfigError

/-- The error of the first check that does not hold. -/
def FirstFailure (checks : List Check) (e : ConfigError) : Prop :=
  ∃ before check after, checks = before ++ check :: after ∧
    (∀ b ∈ before, b.holds) ∧ ¬ check.holds ∧ check.error = e

/-- Broken rules by checks: there is none if all checks hold, and the first of
    them is the error of the first check that does not. -/
def Reports (problems : List ConfigError) (checks : List Check) : Prop :=
  match problems with
  | [] => ∀ check ∈ checks, check.holds
  | e :: _ => FirstFailure checks e

section

variable {checks checks' : List Check} {problems problems' : List ConfigError} {e e' : ConfigError}

theorem FirstFailure.append (h : FirstFailure checks e) (checks' : List Check) :
    FirstFailure (checks ++ checks') e := by
  obtain ⟨before, check, after, rfl, hbefore, hcheck, rfl⟩ := h
  exact ⟨before, check, after ++ checks', by simp, hbefore, hcheck, rfl⟩

theorem FirstFailure.prepend (hchecks : ∀ check ∈ checks, check.holds)
    (h : FirstFailure checks' e) : FirstFailure (checks ++ checks') e := by
  obtain ⟨before, check, after, rfl, hbefore, hcheck, rfl⟩ := h
  refine ⟨checks ++ before, check, after, by simp, fun b hb => ?_, hcheck, rfl⟩
  exact (List.mem_append.1 hb).elim (hchecks b) (hbefore b)

theorem firstFailure_cons_iff {check : Check} :
    FirstFailure (check :: checks) e ↔
      ¬ check.holds ∧ check.error = e ∨ check.holds ∧ FirstFailure checks e := by
  constructor
  · rintro ⟨before, other, after, heq, hbefore, hother, rfl⟩
    cases before with
    | nil =>
      obtain ⟨rfl, -⟩ := List.cons.inj heq
      exact .inl ⟨hother, rfl⟩
    | cons b before =>
      obtain ⟨rfl, rfl⟩ := List.cons.inj heq
      obtain ⟨hfirst, hrest⟩ := List.forall_mem_cons.1 hbefore
      exact .inr ⟨hfirst, before, other, after, rfl, hrest, hother, rfl⟩
  · rintro (⟨hnot, rfl⟩ | ⟨hholds, h⟩)
    · exact ⟨[], check, checks, rfl, by simp, hnot, rfl⟩
    · have hfirst : ∀ b ∈ [check], b.holds := List.forall_mem_singleton.2 hholds
      exact FirstFailure.prepend hfirst h

theorem FirstFailure.not_all_hold (h : FirstFailure checks e) :
    ¬ ∀ check ∈ checks, check.holds := by
  obtain ⟨before, check, after, rfl, -, hcheck, -⟩ := h
  exact fun hall => hcheck (hall check (by simp))

theorem FirstFailure.unique (h : FirstFailure checks e) (h' : FirstFailure checks e') :
    e = e' := by
  obtain ⟨before, check, after, rfl, hbefore, hcheck, rfl⟩ := h
  obtain ⟨before', check', after', heq, hbefore', hcheck', rfl⟩ := h'
  -- neither of the two can be among the checks before the other
  rcases List.append_eq_append_iff.1 heq with ⟨mid, rfl, hrest⟩ | ⟨mid, rfl, hrest⟩
  · cases mid with
    | nil => rw [(List.cons.inj hrest).1]
    | cons x mid =>
      obtain ⟨rfl, -⟩ := List.cons.inj hrest
      exact absurd (hbefore' check (by simp)) hcheck
  · cases mid with
    | nil => rw [(List.cons.inj hrest).1]
    | cons x mid =>
      obtain ⟨rfl, -⟩ := List.cons.inj hrest
      exact absurd (hbefore check' (by simp)) hcheck'

theorem Reports.append (h : Reports problems checks) (h' : Reports problems' checks') :
    Reports (problems ++ problems') (checks ++ checks') := by
  cases problems with
  | cons e problems => exact FirstFailure.append h checks'
  | nil =>
    cases problems' with
    | cons e problems' => exact FirstFailure.prepend h h'
    | nil => exact fun check hcheck => (List.mem_append.1 hcheck).elim (h check) (h' check)

theorem Reports.eq_nil_iff (h : Reports problems checks) :
    problems = [] ↔ ∀ check ∈ checks, check.holds := by
  cases problems with
  | nil => exact iff_of_true rfl h
  | cons e problems => exact iff_of_false (by simp) (FirstFailure.not_all_hold h)

theorem Reports.head?_eq_some_iff (h : Reports problems checks) :
    problems.head? = some e ↔ FirstFailure checks e := by
  cases problems with
  | nil => exact iff_of_false (by simp) fun hfirst => hfirst.not_all_hold h
  | cons e' problems =>
    rw [List.head?_cons, Option.some.injEq]
    exact ⟨fun heq => heq ▸ h, fun hfirst => FirstFailure.unique h hfirst⟩

theorem reports_nil : Reports [] [] := fun _ h => by cases h

theorem reports_singleton {p : Prop} (hnil : p → problems = []) (herror : ¬ p → problems = [e]) :
    Reports problems [⟨p, e⟩] := by
  by_cases hp : p
  · rw [hnil hp]
    exact List.forall_mem_singleton.2 hp
  · rw [herror hp]
    exact ⟨[], ⟨p, e⟩, [], rfl, by simp, hp, rfl⟩

theorem reports_unless {p q : Prop} [Decidable q] (h : q ↔ p) (e : ConfigError) :
    Reports (if q then [] else [e]) [⟨p, e⟩] :=
  reports_singleton (fun hp => if_pos (h.2 hp)) fun hp => if_neg fun hq => hp (h.1 hq)

theorem reports_if {p q : Prop} [Decidable q] (h : q ↔ ¬ p) (e : ConfigError) :
    Reports (if q then [e] else []) [⟨p, e⟩] :=
  reports_singleton (fun hp => if_neg fun hq => h.1 hq hp) fun hp => if_pos (h.2 hp)

end

/-! ## Sections -/

section

variable {β κ : Type} {own : Nat → β → List Check} {key : β → κ} {repeated : Nat → β → ConfigError}

/-- The checks of a section after some elements: those of each element by
    itself, and that its key is not among those before. -/
def sectionChecks (own : Nat → β → List Check) (key : β → κ) (repeated : Nat → β → ConfigError) :
    List β → List β → List Check
  | _, [] => []
  | before, x :: rest =>
    own before.length x ++ [⟨key x ∉ before.map key, repeated before.length x⟩] ++
      sectionChecks own key repeated (before ++ [x]) rest

/-- What the checks of a section demand. -/
theorem holds_sectionChecks_iff {good : β → Prop}
    (hown : ∀ i x, (∀ check ∈ own i x, check.holds) ↔ good x) (xs before : List β) :
    (∀ check ∈ sectionChecks own key repeated before xs, check.holds) ↔
      (∀ x ∈ xs, good x) ∧ (xs.map key).Nodup ∧ ∀ x ∈ xs, key x ∉ before.map key := by
  induction xs generalizing before with
  | nil => simp [sectionChecks]
  | cons x xs ih =>
    rw [sectionChecks, List.forall_mem_append, List.forall_mem_append, hown,
      List.forall_mem_singleton, ih, List.forall_mem_cons, List.forall_mem_cons, List.map_cons,
      List.nodup_cons]
    simp only [List.map_append, List.map_cons, List.map_nil, List.mem_append, List.mem_singleton,
      not_or]
    constructor
    · rintro ⟨⟨hgood, hnew⟩, hrest, hnodup, hnews⟩
      refine ⟨⟨hgood, hrest⟩, ⟨fun hmem => ?_, hnodup⟩, hnew, fun y hy => (hnews y hy).1⟩
      obtain ⟨y, hy, heq⟩ := List.mem_map.1 hmem
      exact (hnews y hy).2 heq
    · rintro ⟨⟨hgood, hrest⟩, ⟨hx, hnodup⟩, hnew, hnews⟩
      exact ⟨⟨hgood, hnew⟩, hrest, hnodup, fun y hy =>
        ⟨hnews y hy, fun heq => hx (List.mem_map.2 ⟨y, hy, heq⟩)⟩⟩

/-- The broken rules of a section are those of its checks if this holds of one
    element, whatever is remembered (`Seen`) of those before. -/
theorem reports_section {problems : List κ → Nat → List β → List ConfigError}
    {one : List κ → Nat → β → List ConfigError} {next : List κ → β → List κ}
    (Seen : List κ → List β → Prop) (hnil : ∀ seen i, problems seen i [] = [])
    (hcons : ∀ seen i x xs,
      problems seen i (x :: xs) = one seen i x ++ problems (next seen x) (i + 1) xs)
    (hone : ∀ seen before x, Seen seen before →
      Reports (one seen before.length x)
          (own before.length x ++ [⟨key x ∉ before.map key, repeated before.length x⟩]) ∧
        Seen (next seen x) (before ++ [x]))
    (xs : List β) (seen : List κ) (before : List β) (hseen : Seen seen before) :
    Reports (problems seen before.length xs) (sectionChecks own key repeated before xs) := by
  induction xs generalizing seen before with
  | nil =>
    rw [hnil]
    exact reports_nil
  | cons x xs ih =>
    obtain ⟨hx, hnext⟩ := hone seen before x hseen
    have hrest := ih (next seen x) (before ++ [x]) hnext
    rw [List.length_append, List.length_singleton] at hrest
    rw [hcons]
    exact hx.append hrest

end

/-! ## Fields -/

/-- A text that is not blank. -/
def Filled (text : String) : Prop := ∃ ch ∈ text.toList, isBlank ch = false

theorem isBlankText_iff {text : String} : isBlankText text = true ↔ ¬ Filled text := by
  simp [isBlankText, Filled]

/-- The address of a web server. -/
def WebAddress (address : String) : Prop :=
  "http://".toList <+: address.toList ∨ "https://".toList <+: address.toList

/-! ## Objects -/

/-- What no two mounts or audit devices have in common: the instance and the
    path in normal form. -/
def BackendSpec.key (b : BackendSpec) : String × String := (b.address, MountPath.normalize b.path)

/-- What no two policies have in common: the instance and the name. -/
def PolicySpec.key (p : PolicySpec) : String × String := (p.address, p.name)

/-- A mount or audit device with a path and a type, on an instance that is
    listed. -/
structure BackendSpec.Complete (known : List String) (b : BackendSpec) : Prop where
  path : Filled b.path
  type : Filled b.type
  address : b.address ∈ known

/-- A policy with a name and of the type that is managed, on an instance that is
    listed. -/
structure PolicySpec.Complete (known : List String) (p : PolicySpec) : Prop where
  name : Filled p.name
  type : p.type = "acl"
  address : p.address ∈ known

namespace Config

variable {known : List String}

theorem isWebAddress_iff {address : String} :
    isWebAddress address = true ↔ WebAddress address := by
  simp [isWebAddress, WebAddress]

/-- The check of a field that must not be blank. -/
def filledCheck (value field name : String) : Check :=
  ⟨Filled value, fieldError s!"{name} cannot be empty" s!"{field}.{name}"⟩

theorem reports_blankError (value field name : String) :
    Reports (blankError value field name) [filledCheck value field name] :=
  reports_if isBlankText_iff _

/-! ## Instances -/

/-- The checks of an instance by itself. -/
def instanceChecks (i : Nat) (x : InstanceSpec) : List Check :=
  let field := element "instances" i
  [⟨WebAddress x.address,
      fieldError s!"Address '{x.address}' must start with http:// or https://" s!"{field}.address"⟩,
    ⟨Filled x.tokenVariable,
      fieldError "Token variable name cannot be empty" s!"{field}.token_env"⟩]

/-- The error of an instance that is listed before. -/
def repeatedInstance (i : Nat) (x : InstanceSpec) : ConfigError :=
  let field := element "instances" i
  fieldError s!"Instance '{x.address}' is listed twice" s!"{field}.address"

theorem holds_instanceChecks_iff (i : Nat) (x : InstanceSpec) :
    (∀ check ∈ instanceChecks i x, check.holds) ↔
      WebAddress x.address ∧ Filled x.tokenVariable := by
  simp [instanceChecks]

theorem reports_instance {seen : List String} {before : List InstanceSpec} (x : InstanceSpec)
    (hseen : ∀ a, a ∈ seen ↔ a ∈ before.map (·.address)) :
    Reports (instanceProblems seen before.length x) (instanceChecks before.length x ++
      [⟨x.address ∉ before.map (·.address), repeatedInstance before.length x⟩]) := by
  have hnew : seen.contains x.address = true ↔ ¬ x.address ∉ before.map (·.address) := by
    rw [List.contains_iff_mem, hseen, not_not]
  exact ((reports_unless isWebAddress_iff _).append (reports_if isBlankText_iff _)).append
    (reports_if hnew _)

theorem reports_instances (xs : List InstanceSpec) :
    Reports (instancesProblems [] 0 xs)
      (sectionChecks instanceChecks (·.address) repeatedInstance [] xs) := by
  refine reports_section (fun seen before => ∀ a, a ∈ seen ↔ a ∈ before.map (·.address))
    (fun _ _ => rfl) (fun _ _ _ _ => rfl) (fun seen before x hseen => ?_) xs [] [] fun a => by simp
  refine ⟨reports_instance x hseen, fun a => ?_⟩
  rw [List.mem_cons, hseen, List.map_append, List.mem_append, List.map_singleton,
    List.mem_singleton, or_comm]

/-! ## Keys -/

/-- The running list of a section has the keys of the elements before, as far as
    their instances are listed. -/
def Remembers (known : List String) (seen before : List (String × String)) : Prop :=
  ∀ p : String × String, p.1 ∈ known → (p ∈ seen ↔ p ∈ before)

theorem Remembers.seenAfter {seen before : List (String × String)}
    (h : Remembers known seen before) (address key : String) :
    Remembers known (seenAfter known seen address key) (before ++ [(address, key)]) := by
  intro p hp
  rw [List.mem_append, List.mem_singleton, ← h p hp, Config.seenAfter]
  by_cases hknown : address ∈ known
  · rw [if_pos (by simpa using hknown), List.mem_cons, or_comm]
  · rw [if_neg (by simpa using hknown), or_iff_left]
    rintro rfl
    exact hknown hp

theorem reports_keyProblem {kind address key : String} {seen before : List (String × String)}
    (h : Remembers known seen before) :
    Reports (keyProblem kind known seen address key)
      [⟨address ∈ known, .unknownInstance kind key address⟩,
        ⟨(address, key) ∉ before, .duplicateKey kind address key⟩] := by
  by_cases hknown : address ∈ known
  · have hrest : keyProblem kind known seen address key =
        if seen.contains (address, key) then [.duplicateKey kind address key] else [] := by
      simp [keyProblem, hknown]
    have hlisted : Reports [] [⟨address ∈ known, .unknownInstance kind key address⟩] :=
      List.forall_mem_singleton.2 hknown
    have hnew : seen.contains (address, key) = true ↔ ¬ (address, key) ∉ before := by
      rw [List.contains_iff_mem, h (address, key) hknown, not_not]
    rw [hrest]
    exact hlisted.append (reports_if hnew _)
  · have hunknown : keyProblem kind known seen address key =
        [.unknownInstance kind key address] := by
      simp [keyProblem, hknown]
    rw [hunknown]
    exact ⟨[], _, _, rfl, by simp, hknown, rfl⟩

/-! ## Mounts and audit devices -/

/-- The checks of a mount or audit device by itself. -/
def backendChecks (kind section_ : String) (known : List String) (i : Nat) (b : BackendSpec) :
    List Check :=
  let field := element section_ i
  [filledCheck b.path field "_path", filledCheck b.type field "type",
    ⟨b.address ∈ known, .unknownInstance kind (MountPath.normalize b.path) b.address⟩]

/-- The error of a mount or audit device that is listed before. -/
def repeatedBackend (kind : String) (b : BackendSpec) : ConfigError :=
  .duplicateKey kind b.address (MountPath.normalize b.path)

theorem holds_backendChecks_iff (kind section_ : String) (i : Nat) (b : BackendSpec) :
    (∀ check ∈ backendChecks kind section_ known i b, check.holds) ↔ b.Complete known := by
  simp only [backendChecks, filledCheck, List.forall_mem_cons, List.not_mem_nil, false_imp_iff,
    implies_true, and_true]
  exact ⟨fun ⟨hpath, htype, haddress⟩ => ⟨hpath, htype, haddress⟩,
    fun h => ⟨h.path, h.type, h.address⟩⟩

theorem reports_backends (kind section_ : String) (bs : List BackendSpec) :
    Reports (backendProblems kind section_ known [] 0 bs)
      (sectionChecks (backendChecks kind section_ known) BackendSpec.key
        (fun _ => repeatedBackend kind) [] bs) := by
  refine reports_section (fun seen before => Remembers known seen (before.map BackendSpec.key))
    (fun _ _ => rfl) (fun _ _ _ _ => rfl) (fun seen before b hseen => ⟨?_, ?_⟩) bs [] []
    fun _ _ => by simp
  · let field := element section_ before.length
    exact ((reports_blankError b.path field "_path").append
      (reports_blankError b.type field "type")).append (reports_keyProblem hseen)
  · rw [List.map_append, List.map_singleton]
    exact hseen.seenAfter b.address (MountPath.normalize b.path)

/-! ## Policies -/

/-- The checks of a policy by itself. -/
def policyChecks (known : List String) (i : Nat) (p : PolicySpec) : List Check :=
  let field := element "vault_policies" i
  [filledCheck p.name field "name",
    ⟨p.type = "acl", fieldError s!"Unsupported policy type '{p.type}', only 'acl' is managed"
      s!"{field}.type"⟩,
    ⟨p.address ∈ known, .unknownInstance "policy" p.name p.address⟩]

/-- The error of a policy that is listed before. -/
def repeatedPolicy (p : PolicySpec) : ConfigError := .duplicateKey "policy" p.address p.name

theorem holds_policyChecks_iff (i : Nat) (p : PolicySpec) :
    (∀ check ∈ policyChecks known i p, check.holds) ↔ p.Complete known := by
  simp only [policyChecks, filledCheck, List.forall_mem_cons, List.not_mem_nil, false_imp_iff,
    implies_true, and_true]
  exact ⟨fun ⟨hname, htype, haddress⟩ => ⟨hname, htype, haddress⟩,
    fun h => ⟨h.name, h.type, h.address⟩⟩

theorem reports_policies (ps : List PolicySpec) :
    Reports (policyProblems known [] 0 ps)
      (sectionChecks (policyChecks known) PolicySpec.key (fun _ => repeatedPolicy) [] ps) := by
  refine reports_section (fun seen before => Remembers known seen (before.map PolicySpec.key))
    (fun _ _ => rfl) (fun _ _ _ _ => rfl) (fun seen before p hseen => ⟨?_, ?_⟩) ps [] []
    fun _ _ => by simp
  · let field := element "vault_policies" before.length
    exact ((reports_blankError p.name field "name").append (reports_unless Iff.rfl _)).append
      (reports_keyProblem hseen)
  · rw [List.map_append, List.map_singleton]
    exact hseen.seenAfter p.address p.name

/-! ## Documents -/

/-- The checks of a document. -/
def checks (c : Config) : List Check :=
  [⟨c.instances ≠ [], fieldError "At least one instance must be configured" "instances"⟩] ++
  sectionChecks instanceChecks (·.address) repeatedInstance [] c.instances ++
  sectionChecks (backendChecks "audit device" "vault_audit_backends" c.addresses) BackendSpec.key
    (fun _ => repeatedBackend "audit device") [] c.audits ++
  sectionChecks (backendChecks "secrets engine" "vault_secret_engines" c.addresses) BackendSpec.key
    (fun _ => repeatedBackend "secrets engine") [] c.engines ++
  sectionChecks (policyChecks c.addresses) PolicySpec.key (fun _ => repeatedPolicy) [] c.policies

/-- What all checks of a document demand together. -/
structure WellFormed (c : Config) : Prop where
  nonempty : c.instances ≠ []
  instances : ∀ x ∈ c.instances, WebAddress x.address ∧ Filled x.tokenVariable
  addresses : c.addresses.Nodup
  audits : ∀ b ∈ c.audits, b.Complete c.addresses
  auditKeys : (c.audits.map BackendSpec.key).Nodup
  engines : ∀ b ∈ c.engines, b.Complete c.addresses
  engineKeys : (c.engines.map BackendSpec.key).Nodup
  policies : ∀ p ∈ c.policies, p.Complete c.addresses
  policyKeys : (c.policies.map PolicySpec.key).Nodup

theorem holds_checks_iff (c : Config) : (∀ check ∈ c.checks, check.holds) ↔ c.WellFormed := by
  simp only [checks, List.forall_mem_append, List.forall_mem_singleton,
    holds_sectionChecks_iff holds_instanceChecks_iff,
    holds_sectionChecks_iff (holds_backendChecks_iff _ _),
    holds_sectionChecks_iff holds_policyChecks_iff, List.map_nil, List.not_mem_nil,
    not_false_eq_true, implies_true, and_true]
  constructor
  · rintro ⟨⟨⟨⟨hnonempty, hinstances⟩, haudits⟩, hengines⟩, hpolicies⟩
    exact ⟨hnonempty, hinstances.1, hinstances.2, haudits.1, haudits.2, hengines.1, hengines.2,
      hpolicies.1, hpolicies.2⟩
  · intro h
    exact ⟨⟨⟨⟨h.nonempty, h.instances, h.addresses⟩, h.audits, h.auditKeys⟩, h.engines,
      h.engineKeys⟩, h.policies, h.policyKeys⟩

/-- **The broken rules of a document** are those of its checks. -/
theorem reports_problems (c : Config) : Reports c.problems c.checks := by
  refine Reports.append (Reports.append (Reports.append (Reports.append ?_
    (reports_instances c.instances)) (reports_backends _ _ c.audits))
    (reports_backends _ _ c.engines)) (reports_policies c.policies)
  exact reports_if (List.isEmpty_iff.trans not_not.symm) _

/-- **Nothing is broken** in the documents that are well formed. -/
theorem problems_eq_nil_iff (c : Config) : c.problems = [] ↔ c.WellFormed :=
  c.reports_problems.eq_nil_iff.trans c.holds_checks_iff

theorem validate_eq_error_iff (c : Config) {e : ConfigError} :
    c.validate = .error e ↔ FirstFailure c.checks e := by
  rw [← c.reports_problems.head?_eq_some_iff, validate]
  cases c.problems <;> simp

end Config

end Concord
