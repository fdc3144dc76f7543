/-
  One instance in runs over many, in memory.

  Two runs of documents that want the same on an instance, in memories that
  have the same at its address, do the same to it and report the same of it,
  whatever else is in the documents and the memories: the passes keep the two
  worlds the same at the address.

  * `Config.owned`: what a document wants on an instance.
  * `Run.sameAt_passes`: the passes of two runs.
  * `Run.instances_isolated`: two whole runs.
-/
import Mathlib.Data.List.Forall2
import Concord.Proofs.Pass.Isolation
import Concord.Proofs.Run.Kinds

namespace Concord

open Session

/-! ## Documents -/

namespace Config

variable {c c' : Config} {a : String}

/-- The objects that a document wants on an instance, in their order. -/
def owned (c : Config) (a : String) : List BackendSpec × List BackendSpec × List PolicySpec :=
  (c.audits.filter fun b => b.address = a, c.engines.filter fun b => b.address = a,
    c.policies.filter fun p => p.address = a)

theorem onInstance_ofSpec (bs : List BackendSpec) (a : String) :
    Backend.onInstance (bs.map Backend.ofSpec) a =
      (bs.filter fun b => b.address = a).map Backend.ofSpec := by
  rw [Backend.onInstance, List.filter_map]
  rfl

theorem policies_onInstance_ofSpec (ps : List PolicySpec) (a : String) :
    Policy.onInstance (ps.map Policy.ofSpec) a =
      (ps.filter fun p => p.address = a).map Policy.ofSpec := by
  rw [Policy.onInstance, List.filter_map]
  rfl

/-- The items that a document wants on an instance are those of its objects
    there. -/
theorem desired_of_owned (h : c'.owned a = c.owned a) (k : KindName) :
    (c'.kind k).desired a = (c.kind k).desired a := by
  simp only [owned, Prod.mk.injEq] at h
  obtain ⟨haudits, hengines, hpolicies⟩ := h
  cases k with
  | audit =>
    show Backend.onInstance (c'.audits.map _) a = Backend.onInstance (c.audits.map _) a
    rw [onInstance_ofSpec, onInstance_ofSpec, haudits]
  | engine =>
    show Backend.onInstance (c'.engines.map _) a = Backend.onInstance (c.engines.map _) a
    rw [onInstance_ofSpec, onInstance_ofSpec, hengines]
  | policy =>
    show Policy.onInstance (c'.policies.map _) a = Policy.onInstance (c.policies.map _) a
    rw [policies_onInstance_ofSpec, policies_onInstance_ofSpec, hpolicies]

/-- The kinds of two documents differ in what is wanted only. -/
theorem kind_eq_wanting (c c' : Config) (k : KindName) :
    c'.kind k = Pass.wanting (c.kind k) (c'.kind k).desired := by
  rw [kind_eq, kind_eq]
  cases k with
  | audit => dsimp only [KindName.toKind, Pass.wanting, auditDevices]
  | engine => dsimp only [KindName.toKind, Pass.wanting, secretsEngines]
  | policy => dsimp only [KindName.toKind, Pass.wanting, Concord.policies]

end Config

namespace Run

variable {c c' : Config} {ctx ctx' : Context Memory} {a : String} {w w' : World Memory}

/-- The passes of two runs keep their worlds the same at an instance. -/
theorem sameAt_passes (hmode : Pass.SameMode ctx ctx') (howned : c'.owned a = c.owned a)
    (kinds : List KindName) (h : w.SameAt a w') :
    List.Forall₂ (KindReport.SameAt a) ((passes ctx c kinds).result w)
        ((passes ctx' c' kinds).result w') ∧
      ((passes ctx c kinds).after w).SameAt a ((passes ctx' c' kinds).after w') := by
  induction kinds generalizing w w' with
  | nil => exact ⟨.nil, h⟩
  | cons k kinds ih =>
    have hannounced : (announced k w).SameAt a (announced k w') :=
      ⟨h.listed, h.listed', h.nodup, h.nodup', h.valid, h.part⟩
    have hpass := Pass.sameAt_perform (c.serves k) (c.kind_eq_wanting c' k ▸ c'.serves k) hmode
      hannounced (Config.desired_of_owned howned k)
    rw [← c.kind_eq_wanting c' k] at hpass
    obtain ⟨hreports, hafter⟩ := ih hpass.2
    rw [result_passes_cons, result_passes_cons, after_passes_cons, after_passes_cons]
    exact ⟨.cons hpass.1 hreports, hafter⟩

/-- **Instances do not interfere.**  Two runs in the same mode, of documents that
    both list an instance and want the same on it, in memories that have the
    same at its address: every pass has the same outcome for the instance in
    both runs or skips it in both, both runs call it invalid or neither does,
    and both leave it the same, whatever the others are and wherever they
    fail. -/
theorem instances_isolated (hmode : Pass.SameMode ctx ctx') (hn : c.addresses.Nodup)
    (hn' : c'.addresses.Nodup) (ha : a ∈ c.addresses) (ha' : a ∈ c'.addresses)
    (howned : c'.owned a = c.owned a) (hconfigured : w.registry.configured = c.addresses)
    (hconfigured' : w'.registry.configured = c'.addresses)
    (hpart : w'.server.part a = w.server.part a) (kinds : List KindName)
    (stamp stamp' : RunStamp) :
    let r := (perform ctx c kinds stamp).result w
    let r' := (perform ctx' c' kinds stamp').result w'
    List.Forall₂ (KindReport.SameAt a) r.kinds r'.kinds ∧ (a ∈ r'.invalid ↔ a ∈ r.invalid) ∧
      ((perform ctx' c' kinds stamp').after w').server.part a =
        ((perform ctx c kinds stamp).after w).server.part a := by
  intro r r'
  have hopened : (opened kinds w).SameAt a (opened kinds w') :=
    ⟨hconfigured ▸ ha, hconfigured' ▸ ha', hconfigured ▸ hn, hconfigured' ▸ hn', rfl, hpart⟩
  obtain ⟨hreports, hafter⟩ := sameAt_passes hmode howned kinds hopened
  refine ⟨hreports, ?_, hafter.part⟩
  show a ∈ ((passes ctx' c' kinds).after (opened kinds w')).registry.invalid ↔
    a ∈ ((passes ctx c kinds).after (opened kinds w)).registry.invalid
  rw [Registry.invalid, Registry.invalid, List.mem_filter, List.mem_filter, hafter.valid,
    and_iff_right hafter.listed', and_iff_right hafter.listed]

/-- A document with a second instance, and one more mount wanted there. -/
def secondInstance : Config :=
  ⟨[⟨"http://b", "TOKEN"⟩, ⟨"http://a", "TOKEN"⟩], [],
    [⟨"pki/", "pki", "", "http://b", Dict.empty⟩, ⟨"kv/", "kv", "", "http://a", Dict.empty⟩], []⟩

/-- A world with a second instance, which cannot be reached. -/
def besideUnreachable : World Memory where
  server := ⟨Dict.ofList [("http://a", InstanceState.fresh), ("http://b", InstanceState.empty)],
    ["http://b"], [], 0⟩
  registry := Registry.ofAddresses ["http://b", "http://a"]
  calls := []
  log := []

theorem instances_isolated_besideUnreachable :
    let ctx : Context Memory := ⟨Memory.server, false, 2, []⟩
    let stamp : RunStamp := ⟨"first", ⟨0, 0⟩, Decimal.zero false⟩
    let w := World.ofInstance "http://a" InstanceState.fresh
    let r := (perform ctx (engineDocument "kv") everyKind stamp).result w
    let r' := (perform ctx secondInstance everyKind stamp).result besideUnreachable
    List.Forall₂ (KindReport.SameAt "http://a") r.kinds r'.kinds ∧
      ("http://a" ∈ r'.invalid ↔ "http://a" ∈ r.invalid) ∧
      ((perform ctx secondInstance everyKind stamp).after besideUnreachable).server.part
          "http://a" =
        ((perform ctx (engineDocument "kv") everyKind stamp).after w).server.part "http://a" := by
  intro ctx stamp w r r'
  have howned : secondInstance.owned "http://a" = (engineDocument "kv").owned "http://a" := rfl
  have hpart : besideUnreachable.server.part "http://a" = w.server.part "http://a" := rfl
  exact instances_isolated ⟨rfl, rfl, rfl, rfl⟩ (by decide) (by decide) (by decide) (by decide)
    howned rfl rfl hpart everyKind stamp stamp

end Run

end Concord
