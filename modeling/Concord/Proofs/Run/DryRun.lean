/-
  Dry runs against instances in memory: they change nothing and foretell the
  live run from the same state.

  The live run changes instances between its passes and takes out those on
  which a change fails; the dry run does neither.  But a pass touches its own
  kind only, and each kind has one pass, so what a later pass fetches is what
  was there at the start; and whoever is taken out of the dry run is taken out
  of the live run, at the same pass or before.

  * `Pass.foretold`: the outcomes of a pass by the state at its start.
  * `Run.server_perform_of_dryRun`: a dry run changes nothing.
  * `Run.dry_run_foretells`: the dry run and the live run.
-/
import Mathlib.Data.List.Forall2
import Concord.Proofs.Run.Kinds

namespace Concord

open Session

/-- A report of a dry pass foretells that of a live one: it has an outcome for
    every instance that the live one attempts. -/
structure KindReport.Foretells (dry live : KindReport) : Prop where
  kind : live.kind = dry.kind
  outcomes : ∀ o ∈ live.outcomes, ∃ o' ∈ dry.outcomes, o'.Foretells o

/-! ## One pass -/

namespace Pass

variable {α : Type} [Item α] {k : KindName} {U : Upkeep k α} {kind : Kind α}
  {ctx dry live : Context Memory} {w w' : World Memory}

/-- A dry pass has no mutation to respect. -/
theorem bears_server_of_dryRun (hU : U.Serves kind) (hc : ctx.server = Memory.server)
    (hdry : ctx.dryRun = true) (b : String) : Bears (Fixes World.server) ctx kind b where
  asks := hU.asks
  reading := ⟨fun _ _ => rfl, fun q w => hc ▸ Memory.after_ask_server b q w⟩
  change hlive := by
    rw [hdry] at hlive
    cases hlive

/-- **The outcomes of a pass** are those that the state at its start leads one
    to expect, on every instance that is valid then. -/
theorem foretold (hU : U.Serves kind) (hc : ctx.server = Memory.server)
    (hn : w.registry.configured.Nodup) :
    (∀ a ∈ w.registry.valid, ∃ o ∈ ((perform ctx kind).result w).outcomes, o.address = a) ∧
      ∀ o ∈ ((perform ctx kind).result w).outcomes,
        o.address ∈ w.registry.valid ∧
        (forecast ctx kind o.address (U.seen ctx.poolSize w.server o.address)).Foretells o ∧
        (∀ e, U.seen ctx.poolSize w.server o.address = .error e → o.error ≠ none) ∧
        (ctx.dryRun = true → ∀ items, U.seen ctx.poolSize w.server o.address = .ok items →
          o.error = none) := by
  constructor
  · intro a ha
    have hv := (Registry.mem_valid_iff.1 ha).2
    obtain ⟨w', -, -, hmem⟩ := exists_turn_of_mem (w := opened kind w) hU hc ha hv
    exact ⟨_, hmem, address_onInstance w'⟩
  · intro o ho
    obtain ⟨⟨hmem, -⟩, w', hvisit, -, hturn⟩ :=
      turn_of_mem (w := opened kind w) hU hc (hn.filter _) ho
    have hseen : (kind.fetch ctx o.address).result w' =
        U.seen ctx.poolSize w.server o.address := by
      rw [hU.fetch ctx o.address w' hc]
      exact Upkeep.seen_congr _ (congrArg (Except.map _) hvisit)
    refine ⟨hmem, ?_, fun e he => ?_, fun hdry items hitems => ?_⟩
    · have h : (forecast ctx kind o.address ((kind.fetch ctx o.address).result w')).Foretells
          ((onInstance ctx kind o.address).result w') := foretells_onInstance w'
      rw [hseen, ← hturn] at h
      exact h
    · rw [hturn, error_onInstance_of_fetch_error (hseen.trans he)]
      exact Option.some_ne_none _
    · rw [hturn]
      exact error_onInstance_of_dryRun hdry (hseen.trans hitems)

/-- A dry pass and a live one that start with the same view of their kind, the
    dry one on no fewer instances: the reports, and who is valid afterwards. -/
theorem foretells_perform (hU : U.Serves kind) (hdry : dry.server = Memory.server)
    (hlive : live.server = Memory.server) (hmode : dry.dryRun = true)
    (hpool : dry.poolSize = live.poolSize) (hn : w.registry.configured.Nodup)
    (hconfigured : w'.registry.configured = w.registry.configured)
    (hview : ∀ a, (w'.server.visit a).map (InstanceState.holding k) =
      (w.server.visit a).map (InstanceState.holding k))
    (hvalid : ∀ a, w'.registry.isValid a = true → w.registry.isValid a = true) :
    ((perform dry kind).result w).Foretells ((perform live kind).result w') ∧
      ∀ a, ((perform live kind).after w').registry.isValid a = true →
        ((perform dry kind).after w).registry.isValid a = true := by
  obtain ⟨hattempted, houtcomes⟩ := foretold (w := w) hU hdry hn
  obtain ⟨hattempted', houtcomes'⟩ := foretold (w := w') hU hlive (hconfigured ▸ hn)
  have hseen : ∀ a, U.seen live.poolSize w'.server a = U.seen dry.poolSize w.server a :=
    fun a => hpool ▸ Upkeep.seen_congr _ (hview a)
  have hsub : ∀ a ∈ w'.registry.valid, a ∈ w.registry.valid := by
    intro a ha
    obtain ⟨hc, hv⟩ := Registry.mem_valid_iff.1 ha
    exact Registry.mem_valid_iff.2 ⟨hconfigured ▸ hc, hvalid a hv⟩
  have hkind : ((perform live kind).result w').kind = ((perform dry kind).result w).kind := by
    rw [result_perform, result_perform]
  refine ⟨⟨hkind, fun o ho => ?_⟩, fun a ha => ?_⟩
  · obtain ⟨hmem, hforetells, -⟩ := houtcomes' o ho
    obtain ⟨o', ho', haddress⟩ := hattempted o.address (hsub _ hmem)
    obtain ⟨-, hforetells', -⟩ := houtcomes o' ho'
    refine ⟨o', ho', hforetells'.symm.trans ?_⟩
    rw [haddress, ← hseen]
    exact (foretells_forecast live _).trans hforetells
  · obtain ⟨hv, hfine⟩ := (isValid_perform hU.asks w' a).1 ha
    refine (isValid_perform hU.asks w a).2 ⟨hvalid a hv, fun o ho haddress => ?_⟩
    obtain ⟨hmem, -, -, hfetched⟩ := houtcomes o ho
    rw [haddress] at hmem hfetched
    have hmem' : a ∈ w'.registry.valid := by
      refine Registry.mem_valid_iff.2 ⟨?_, hv⟩
      exact hconfigured.symm ▸ (Registry.mem_valid_iff.1 hmem).1
    obtain ⟨o', ho', haddress'⟩ := hattempted' a hmem'
    obtain ⟨-, -, hfailed, -⟩ := houtcomes' o' ho'
    cases hs : U.seen dry.poolSize w.server a with
    | ok items => exact hfetched hmode items hs
    | error e =>
      -- the live pass would have failed there as well
      rw [haddress', hseen] at hfailed
      exact absurd (hfine o' ho' haddress') (hfailed e hs)

end Pass

/-! ## Whole runs -/

namespace Run

variable {c : Config} {dry live : Context Memory} {w w' : World Memory}

theorem foretells_passes (hdry : dry.server = Memory.server) (hlive : live.server = Memory.server)
    (hmode : dry.dryRun = true) (hpool : dry.poolSize = live.poolSize) {kinds : List KindName}
    (hkinds : kinds.Nodup) (hn : w.registry.configured.Nodup)
    (hconfigured : w'.registry.configured = w.registry.configured)
    (hview : ∀ k ∈ kinds, ∀ a, (w'.server.visit a).map (InstanceState.holding k) =
      (w.server.visit a).map (InstanceState.holding k))
    (hvalid : ∀ a, w'.registry.isValid a = true → w.registry.isValid a = true) :
    List.Forall₂ KindReport.Foretells ((passes dry c kinds).result w)
      ((passes live c kinds).result w') := by
  induction kinds generalizing w w' with
  | nil => exact .nil
  | cons k kinds ih =>
    obtain ⟨hk, hkinds⟩ := List.nodup_cons.1 hkinds
    have hpass : ((Pass.perform dry (c.kind k)).result (announced k w)).Foretells
          ((Pass.perform live (c.kind k)).result (announced k w')) ∧
        ∀ a, (passed live c k w').registry.isValid a = true →
          (passed dry c k w).registry.isValid a = true :=
      Pass.foretells_perform (c.serves k) hdry hlive hmode hpool hn hconfigured
        (hview k List.mem_cons_self) hvalid
    obtain ⟨hreports, hvalid'⟩ := hpass
    rw [result_passes_cons, result_passes_cons]
    refine .cons hreports (ih hkinds ?_ ?_ (fun k' hk' a => ?_) hvalid')
    · rw [configured_passed]
      exact hn
    · rw [configured_passed, configured_passed]
      exact hconfigured
    · have hne : k' ≠ k := fun he => hk (he ▸ hk')
      rw [view_passed hlive hne, view_passed hdry hne]
      exact hview k' (List.mem_cons_of_mem k hk') a

theorem server_perform_of_dryRun (hdry : dry.server = Memory.server) (hmode : dry.dryRun = true)
    (kinds : List KindName) (stamp : RunStamp) (w : World Memory) :
    ((perform dry c kinds stamp).after w).server = w.server := by
  have hreset : Keeps (Fixes World.server) (resetRegistry : Session Memory Unit) := fun _ => rfl
  exact keeps_perform (fun _ _ => rfl) (fun _ _ => rfl) hreset
    (fun k _ => Pass.bears_server_of_dryRun (c.serves k) hdry hmode) stamp w

/-- **A dry run changes nothing and foretells the live run** from the same
    state: whatever instance the live run attempts with a kind, the dry run has
    attempted it and planned the same. -/
theorem dry_run_foretells (haccepted : c.Accepted) (hdry : dry.server = Memory.server)
    (hlive : live.server = Memory.server) (hmode : dry.dryRun = true)
    (hpool : dry.poolSize = live.poolSize) (hsame : w'.server = w.server)
    (hconfigured : w.registry.configured = c.addresses)
    (hconfigured' : w'.registry.configured = c.addresses) (stamp stamp' : RunStamp) :
    ((perform dry c everyKind stamp).after w).server = w.server ∧
      List.Forall₂ KindReport.Foretells ((perform dry c everyKind stamp).result w).kinds
        ((perform live c everyKind stamp').result w').kinds := by
  refine ⟨server_perform_of_dryRun hdry hmode everyKind stamp w, ?_⟩
  rw [result_perform, result_perform]
  refine foretells_passes hdry hlive hmode hpool (by decide) ?_ ?_ (fun k _ a => ?_) fun _ _ => rfl
  · exact hconfigured.symm ▸ haccepted.nodup_addresses
  · exact hconfigured'.trans hconfigured.symm
  · exact congrArg (fun m : Memory => (m.visit a).map (InstanceState.holding k)) hsame

theorem dry_run_foretells_engine :
    let c := engineDocument "kv"
    let w := World.ofInstance "http://a" InstanceState.fresh
    let stamp : RunStamp := ⟨"first", ⟨0, 0⟩, Decimal.zero false⟩
    ((perform ⟨Memory.server, true, 2, []⟩ c everyKind stamp).after w).server = w.server ∧
      List.Forall₂ KindReport.Foretells
        ((perform ⟨Memory.server, true, 2, []⟩ c everyKind stamp).result w).kinds
        ((perform ⟨Memory.server, false, 2, []⟩ c everyKind stamp).result w).kinds := by
  intro c w stamp
  have haccepted : c.Accepted := ⟨_, rfl⟩
  have hconfigured : w.registry.configured = c.addresses := rfl
  exact @dry_run_foretells c ⟨Memory.server, true, 2, []⟩ ⟨Memory.server, false, 2, []⟩ w w
    haccepted rfl rfl rfl rfl rfl hconfigured hconfigured stamp stamp

end Run

end Concord
