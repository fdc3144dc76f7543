/-
  The tokens of a document.

  An instance has a token if the variable that it names has a value that is not
  empty.  Either every instance has one, and then each address is bound to the
  value of the variable of its own instance, or the first instance without one
  is reported.

  * `InstanceSpec.HasToken`.
  * `Config.tokens_eq_error_iff`: which variable is reported.
  * `Config.BindsTokens`, `Config.binds_of_tokens_eq_ok`: what the dictionary
    of an accepted document holds.
-/
import Concord.Config.Tokens
import Concord.Proofs.Config.Accepted
import Concord.Proofs.Dict

namespace Concord

/-- A token is what an environment has for the variable of an instance. -/
def InstanceSpec.HasToken (x : InstanceSpec) (lookup : String → Option String) (token : String) :
    Prop :=
  lookup x.tokenVariable = some token ∧ token ≠ ""

namespace Config

variable {c : Config} {lookup : String → Option String} {x : InstanceSpec} {xs : List InstanceSpec}
  {token : String} {e : ConfigError}

/-! ## One instance -/

theorem tokenOf_eq_ok_iff : tokenOf lookup x = .ok token ↔ x.HasToken lookup token := by
  unfold tokenOf InstanceSpec.HasToken
  cases lookup x.tokenVariable with
  | none => simp
  | some value =>
    by_cases h : value = ""
    · simp [h, eq_comm (a := "")]
    · have hne : value = token → token ≠ "" := fun heq => heq ▸ h
      simpa [h] using hne

/-- That an instance has a token, as a check. -/
def tokenCheck (lookup : String → Option String) (x : InstanceSpec) : Check :=
  ⟨∃ token, x.HasToken lookup token, .missingVariable x.tokenVariable⟩

theorem holds_tokenCheck_iff :
    (tokenCheck lookup x).holds ↔ ∃ token, tokenOf lookup x = .ok token :=
  exists_congr fun _ => tokenOf_eq_ok_iff.symm

theorem error_tokenOf (h : tokenOf lookup x = .error e) : (tokenCheck lookup x).error = e := by
  unfold tokenOf at h
  split at h
  · split at h <;> cases h
    rfl
  · cases h
    rfl

/-! ## All instances -/

theorem tokenList_cons (x : InstanceSpec) (xs : List InstanceSpec) :
    tokenList lookup (x :: xs) = (tokenOf lookup x).bind fun token =>
      (tokenList lookup xs).map fun rest => (x.address, token) :: rest := by
  cases hx : tokenOf lookup x <;> cases hxs : tokenList lookup xs <;>
    simp [tokenList, hx, hxs, Except.bind, Except.map, bind]

theorem tokenList_cons_eq_ok_iff {l : List (String × String)} :
    tokenList lookup (x :: xs) = .ok l ↔ ∃ token rest, x.HasToken lookup token ∧
      tokenList lookup xs = .ok rest ∧ (x.address, token) :: rest = l := by
  simp only [tokenList_cons, ← tokenOf_eq_ok_iff]
  cases tokenOf lookup x <;> cases tokenList lookup xs <;> simp [Except.bind, Except.map]

/-- The list of tokens has an entry for each instance, in their order, with
    its own token. -/
theorem tokenList_eq_ok {l : List (String × String)} (h : tokenList lookup xs = .ok l) :
    l.map (·.1) = xs.map (·.address) ∧
      ∀ x ∈ xs, ∃ token, (x.address, token) ∈ l ∧ x.HasToken lookup token := by
  induction xs generalizing l with
  | nil =>
    cases h
    exact ⟨rfl, by simp⟩
  | cons x xs ih =>
    obtain ⟨token, rest, htoken, hxs, rfl⟩ := tokenList_cons_eq_ok_iff.1 h
    obtain ⟨hkeys, hrest⟩ := ih hxs
    constructor
    · rw [List.map_cons, List.map_cons, hkeys]
    · refine List.forall_mem_cons.2 ⟨⟨token, List.mem_cons_self, htoken⟩, fun x' hx' => ?_⟩
      exact (hrest x' hx').imp fun _ h => ⟨List.mem_cons_of_mem _ h.1, h.2⟩

/-- The first instance that has no token is reported. -/
theorem tokenList_eq_error_iff :
    tokenList lookup xs = .error e ↔ FirstFailure (xs.map (tokenCheck lookup)) e := by
  induction xs with
  | nil =>
    refine iff_of_false (by simp [tokenList]) fun h => h.not_all_hold (by simp)
  | cons x xs ih =>
    rw [tokenList_cons, List.map_cons, firstFailure_cons_iff, ← ih, holds_tokenCheck_iff]
    cases hx : tokenOf lookup x with
    | error e' => simp [Except.bind, error_tokenOf hx]
    | ok token => cases hxs : tokenList lookup xs <;> simp [Except.bind, Except.map]

/-! ## Dictionaries of tokens -/

/-- A dictionary binds the addresses of a document, each to the token of its
    instance. -/
structure BindsTokens (c : Config) (lookup : String → Option String) (tokens : Dict String) :
    Prop where
  /-- The addresses are those of the instances. -/
  keys : ∀ a, a ∈ tokens.keys ↔ a ∈ c.addresses
  /-- Each instance has its own token. -/
  own : ∀ x ∈ c.instances, ∃ token, tokens.get? x.address = some token ∧ x.HasToken lookup token

theorem tokens_eq_error_iff :
    c.tokens lookup = .error e ↔ FirstFailure (c.instances.map (tokenCheck lookup)) e := by
  rw [← tokenList_eq_error_iff, tokens]
  cases tokenList lookup c.instances <;> simp [Except.map]

/-- There are tokens if there is a list of them. -/
theorem tokens_eq_ok_iff {tokens : Dict String} :
    c.tokens lookup = .ok tokens ↔ ∃ l, tokenList lookup c.instances = .ok l ∧
      Dict.ofList l = tokens := by
  rw [Config.tokens]
  cases tokenList lookup c.instances <;> simp [Except.map]

/-- A document has tokens if each of its instances has one. -/
theorem exists_tokens_iff :
    (∃ tokens, c.tokens lookup = .ok tokens) ↔
      ∀ x ∈ c.instances, ∃ token, x.HasToken lookup token := by
  constructor
  · rintro ⟨tokens, h⟩ x hx
    obtain ⟨l, hl, -⟩ := tokens_eq_ok_iff.1 h
    obtain ⟨token, -, htoken⟩ := (tokenList_eq_ok hl).2 x hx
    exact ⟨token, htoken⟩
  · intro h
    cases htokens : c.tokens lookup with
    | ok tokens => exact ⟨tokens, rfl⟩
    | error e =>
      have hfirst := tokens_eq_error_iff.1 htokens
      refine absurd (fun check hcheck => ?_) hfirst.not_all_hold
      obtain ⟨x, hx, rfl⟩ := List.mem_map.1 hcheck
      exact h x hx

/-- **The tokens of an accepted document** are bound to the addresses of their
    own instances. -/
theorem binds_of_tokens_eq_ok (hc : c.Accepted) {tokens : Dict String}
    (h : c.tokens lookup = .ok tokens) : c.BindsTokens lookup tokens := by
  obtain ⟨l, hl, rfl⟩ := tokens_eq_ok_iff.1 h
  obtain ⟨hkeys, hown⟩ := tokenList_eq_ok hl
  have hnodup : (l.map (·.1)).Nodup := hkeys ▸ hc.nodup_addresses
  constructor
  · intro a
    rw [Dict.mem_keys_iff, addresses, ← hkeys]
    simp [Dict.get?_ofList_iff hnodup]
  · intro x hx
    obtain ⟨token, hmem, htoken⟩ := hown x hx
    exact ⟨token, (Dict.get?_ofList_iff hnodup).2 hmem, htoken⟩

end Config

end Concord
