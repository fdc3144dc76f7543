/-
  One instance in a pass over many, in memory.

  A call reads and changes nothing but the part of the memory at its address
  (`Memory.part`).  So two sessions on an instance that find the same part there
  have the same result and leave the same part (`Alike`), whatever else differs
  between the memories; and the turns of the other instances leave the part as
  it is.

  * `alike_onInstance`: a pass on an instance.
  * `turn_overInstances`: the one turn of an instance among those of the others.
  * `KindReport.SameAt`, `sameAt_perform`: two passes as one instance sees them.
-/
import Concord.Proofs.Pass.Attempts
import Concord.Proofs.Pass.Effect

namespace Concord

open Session

/-! ## Parts of a memory -/

namespace Memory

variable {m m' : Memory} {a b : String}

/-- What a memory has at an address: an instance, and whether it can be reached
    and refuses mutations. -/
def part (m : Memory) (a : String) : Option InstanceState × Bool × Bool :=
  (m.instances.get? a, m.unreachable.contains a, m.readOnly.contains a)

theorem part_eq_iff :
    m'.part a = m.part a ↔ m'.instances.get? a = m.instances.get? a ∧
      m'.unreachable.contains a = m.unreachable.contains a ∧
      m'.readOnly.contains a = m.readOnly.contains a := by
  simp only [part, Prod.mk.injEq]

theorem visit_of_part (h : m'.part a = m.part a) : m'.visit a = m.visit a := by
  obtain ⟨hinstance, hreach, -⟩ := part_eq_iff.1 h
  rw [visit, visit, hinstance, hreach]

theorem part_put_of_ne {s : InstanceState} (h : a ≠ b) (n : Nat) :
    (m.put b s n).part a = m.part a := by
  simp [part, put, h]

/-- A mutation is answered by the part at its address, which it changes in the
    same way wherever it finds the same. -/
theorem change_of_part (h : m'.part a = m.part a) (mu : Mutation) :
    (server.change a mu m').1 = (server.change a mu m).1 ∧
      (server.change a mu m').2.part a = (server.change a mu m).2.part a := by
  obtain ⟨hinstance, hreach, hwrite⟩ := part_eq_iff.1 h
  simp only [server, change, hinstance, hreach, hwrite]
  cases hr : m.unreachable.contains a with
  | true => exact ⟨rfl, h⟩
  | false =>
    cases hw : m.readOnly.contains a with
    | true => exact ⟨rfl, h⟩
    | false =>
      cases hs : m.instances.get? a with
      | none => exact ⟨rfl, h⟩
      | some s =>
        cases hperform : s.perform mu with
        | error reason =>
          simp only [hperform]
          exact ⟨rfl, h⟩
        | ok s' =>
          simp only [hperform]
          exact ⟨rfl, part_eq_iff.2 ⟨by simp, hreach, hwrite⟩⟩

/-- A mutation leaves the parts at all other addresses. -/
theorem fixes_part (h : b ≠ a) (mu : Mutation) :
    Keeps (Fixes fun w => w.server.part a) (Session.change server b mu) := by
  intro w
  show (server.change b mu w.server).2.part a = w.server.part a
  rcases server_change_cases w.server b mu with hsame | ⟨s, s', -, -, hput⟩
  · rw [hsame]
  · rw [hput, part_put_of_ne h.symm]

end Memory

/-! ## Sessions on one instance -/

/-- Two sessions that have the same result and leave the same part at an
    address, wherever they find the same part there. -/
def Alike {β : Type} (a : String) (x x' : Session Memory β) : Prop :=
  ∀ w w' : World Memory, w'.server.part a = w.server.part a →
    x'.result w' = x.result w ∧ (x'.after w').server.part a = (x.after w).server.part a

section

variable {β γ : Type} {a : String}

theorem Alike.pure (a : String) (b : β) : Alike a (Pure.pure b) (Pure.pure b) :=
  fun _ _ h => ⟨rfl, h⟩

theorem Alike.bind {x x' : Session Memory β} {f f' : β → Session Memory γ} (hx : Alike a x x')
    (hf : ∀ b, Alike a (f b) (f' b)) : Alike a (x >>= f) (x' >>= f') := by
  intro w w' h
  obtain ⟨hresult, hpart⟩ := hx w w' h
  rw [result_bind, result_bind, after_bind, after_bind, hresult]
  exact hf _ _ _ hpart

theorem alike_record (es es' : List Log.Entry) : Alike a (record es) (record es') :=
  fun _ _ h => ⟨rfl, h⟩

theorem alike_change (mu : Mutation) :
    Alike a (Session.change Memory.server a mu) (Session.change Memory.server a mu) :=
  fun _ _ h => Memory.change_of_part h mu

end

namespace Pass

variable {α : Type} [Item α] {k : KindName} {U : Upkeep k α} {kind : Kind α}
  {ctx ctx' : Context Memory} {a b : String} {L : List String} {w w' : World Memory}

theorem alike_issue : ∀ ms : List Mutation,
    Alike a (issue Memory.server a ms) (issue Memory.server a ms)
  | [] => .pure a _
  | m :: ms => by
    refine (alike_change m).bind fun done => ?_
    cases done with
    | error e => exact .pure a _
    | ok _ => exact alike_issue ms

theorem alike_execute (kind : Kind α) : ∀ steps : List (Action × α),
    Alike a (execute kind Memory.server a steps) (execute kind Memory.server a steps)
  | [] => .pure a _
  | (action, x) :: steps => by
    refine (alike_record _ _).bind fun _ => (alike_issue _).bind fun done => ?_
    cases done with
    | error e => exact .pure a _
    | ok _ => exact (alike_execute kind steps).bind fun _ => .pure a _

/-- Two runs in memory that are both dry or both live, with pools of one
    size. -/
structure SameMode (ctx ctx' : Context Memory) : Prop where
  server : ctx.server = Memory.server
  server' : ctx'.server = Memory.server
  dryRun : ctx'.dryRun = ctx.dryRun
  poolSize : ctx'.poolSize = ctx.poolSize

theorem alike_fetch (hU : U.Serves kind) (hmode : SameMode ctx ctx') :
    Alike a (kind.fetch ctx a) (kind.fetch ctx' a) := by
  intro w w' h
  have hview := congrArg (Except.map (InstanceState.holding k)) (Memory.visit_of_part h)
  rw [hU.fetch ctx' a w' hmode.server', hU.fetch ctx a w hmode.server, hmode.poolSize,
    server_fetch hU hmode.server', server_fetch hU hmode.server]
  exact ⟨Upkeep.seen_congr ctx.poolSize hview, h⟩

theorem alike_carryOut (hmode : SameMode ctx ctx') (kind : Kind α) (plan : Plan α) :
    Alike plan.address (carryOut ctx kind plan) (carryOut ctx' kind plan) := by
  have hplanned : planned ctx' kind plan = planned ctx kind plan := by
    rw [planned, planned, hmode.dryRun]
  unfold carryOut
  dsimp only
  rw [hplanned, hmode.dryRun, hmode.server, hmode.server']
  split
  · exact (alike_record _ _).bind fun _ => .pure _ _
  · split
    · exact (alike_record _ _).bind fun _ => .pure _ _
    · exact (alike_execute kind plan.steps).bind fun _ => .pure _ _

/-- **A pass on an instance** depends on its own part of the memory only. -/
theorem alike_onInstance (hU : U.Serves kind) (hmode : SameMode ctx ctx') :
    Alike a (onInstance ctx kind a) (onInstance ctx' kind a) := by
  refine (alike_fetch hU hmode).bind fun fetched => ?_
  cases fetched with
  | error e =>
    rw [hmode.dryRun]
    exact .pure a _
  | ok observed =>
    refine (alike_record _ _).bind fun _ => ?_
    exact alike_carryOut hmode kind (planOf kind a observed)

/-! ## Kinds over other items -/

/-- A kind that wants other items. -/
def wanting (kind : Kind α) (desired : String → List α) : Kind α :=
  { kind with desired := desired }

theorem execute_wanting {σ : Type} (kind : Kind α) (desired : String → List α) (server : Server σ)
    (a : String) (steps : List (Action × α)) :
    execute (wanting kind desired) server a steps = execute kind server a steps := by
  induction steps with
  | nil => rfl
  | cons step steps ih =>
    rw [execute, execute, ih]
    rfl

theorem onInstance_wanting {desired : String → List α} (h : desired a = kind.desired a) :
    onInstance ctx (wanting kind desired) a = onInstance ctx kind a := by
  have hcarryOut : ∀ plan : Plan α,
      carryOut ctx (wanting kind desired) plan = carryOut ctx kind plan := by
    intro plan
    unfold carryOut
    rw [execute_wanting]
    rfl
  have hdesired : (wanting kind desired).desired a = kind.desired a := h
  unfold onInstance
  rw [hdesired]
  simp only [hcarryOut]
  rfl

/-! ## The turns of the others -/

theorem bears_part (hU : U.Serves kind) (hc : ctx.server = Memory.server) (hne : b ≠ a) :
    Bears (Fixes fun w => w.server.part a) ctx kind b :=
  bears_fixes (f := fun m => m.part a) hU hc fun m _ => Memory.fixes_part hne m

/-- An instance that has no turn. -/
theorem no_turn_overInstances (hU : U.Serves kind) (hc : ctx.server = Memory.server) (ha : a ∉ L)
    (w : World Memory) :
    ((overInstances ctx kind L).result w).1.filter (fun o => o.address = a) = [] ∧
      ((overInstances ctx kind L).after w).server.part a = w.server.part a := by
  constructor
  · refine List.filter_eq_nil_iff.2 fun o ho haddress => ha ?_
    have hmem : o.address ∈ L := (sublist_overInstances L w).subset (List.mem_map_of_mem ho)
    rwa [of_decide_eq_true haddress] at hmem
  · have hothers : ∀ b ∈ L, Bears (Fixes fun w => w.server.part a) ctx kind b := fun b hb =>
      bears_part hU hc fun he => ha (he ▸ hb)
    exact keeps_overInstances (fun _ _ => rfl) (fun _ _ => rfl) hothers w

/-- **The one turn of an instance** finds the part that was there at the start,
    and what it leaves is there in the end. -/
theorem turn_overInstances (hU : U.Serves kind) (hc : ctx.server = Memory.server) (hn : L.Nodup)
    (ha : a ∈ L) (hv : w.registry.isValid a = true) :
    ∃ w₁ : World Memory, w₁.server.part a = w.server.part a ∧
      ((overInstances ctx kind L).result w).1.filter (fun o => o.address = a) =
        [(onInstance ctx kind a).result w₁] ∧
      ((overInstances ctx kind L).after w).server.part a =
        ((onInstance ctx kind a).after w₁).server.part a := by
  induction L generalizing w with
  | nil => cases ha
  | cons b L ih =>
    obtain ⟨hb, hn⟩ := List.nodup_cons.1 hn
    by_cases hba : b = a
    · subst hba
      obtain ⟨hnone, hpart⟩ := no_turn_overInstances hU hc hb ((turn ctx kind b).after w)
      rw [result_overInstances_of_valid hv, after_overInstances_of_valid hv]
      refine ⟨w, rfl, ?_, ?_⟩
      · have haddress : ((turn ctx kind b).result w).address = b := address_onInstance w
        rw [List.filter_cons_of_pos (by simp [haddress]), hnone, result_turn]
      · rw [hpart, server_turn]
    · have ha' := (List.mem_cons.1 ha).resolve_left (Ne.symm hba)
      by_cases hvb : w.registry.isValid b = true
      · have hv' : ((turn ctx kind b).after w).registry.isValid a = true :=
          (isValid_turn hU.asks w a).2 ⟨hv, fun he => absurd he hba⟩
        have hsame : ((turn ctx kind b).after w).server.part a = w.server.part a :=
          keeps_turn (fun _ _ => rfl) (bears_part hU hc hba) w
        have haddress : ((turn ctx kind b).result w).address = b := address_onInstance w
        obtain ⟨w₁, hpart, houtcome, hafter⟩ := ih hn ha' hv'
        rw [result_overInstances_of_valid hvb, after_overInstances_of_valid hvb,
          List.filter_cons_of_neg (by simp [haddress, hba])]
        exact ⟨w₁, hpart.trans hsame, houtcome, hafter⟩
      · rw [result_overInstances_of_invalid hvb, after_overInstances_of_invalid hvb]
        exact ih (w := skip kind b w) hn ha' hv

end Pass

/-! ## Two passes -/

/-- The outcomes on an instance. -/
def KindReport.at (r : KindReport) (a : String) : List Outcome :=
  r.outcomes.filter fun o => o.address = a

/-- Two reports that say the same of an instance: it has one and the same
    outcome in both, or is skipped in both. -/
structure KindReport.SameAt (a : String) (r r' : KindReport) : Prop where
  kind : r'.kind = r.kind
  outcomes : r'.at a = r.at a
  attempted_or_skipped : (∃ o, r.at a = [o]) ∧ a ∉ r.skipped ∧ a ∉ r'.skipped ∨
    r.at a = [] ∧ a ∈ r.skipped ∧ a ∈ r'.skipped

/-- Two worlds in which an instance is listed once, and is and has the same. -/
structure World.SameAt (a : String) (w w' : World Memory) : Prop where
  listed : a ∈ w.registry.configured
  listed' : a ∈ w'.registry.configured
  nodup : w.registry.configured.Nodup
  nodup' : w'.registry.configured.Nodup
  valid : w'.registry.isValid a = w.registry.isValid a
  part : w'.server.part a = w.server.part a

namespace Pass

variable {α : Type} [Item α] {k : KindName} {U : Upkeep k α} {kind : Kind α}
  {desired : String → List α} {ctx ctx' : Context Memory} {a : String} {w w' : World Memory}

theorem kind_perform (ctx : Context Memory) (kind : Kind α) (w : World Memory) :
    ((perform ctx kind).result w).kind = kind.label := by
  rw [result_perform]

/-- Who is valid after a pass, by the outcomes on it. -/
theorem isValid_perform_iff_at (hkind : kind.OnlyAsks) (w : World Memory) (a : String) :
    ((perform ctx kind).after w).registry.isValid a = true ↔
      w.registry.isValid a = true ∧
        ∀ o ∈ ((perform ctx kind).result w).at a, o.error = none := by
  rw [isValid_perform hkind]
  simp only [KindReport.at, List.mem_filter, decide_eq_true_eq, and_imp]

theorem notMem_skipped_of_isValid (hkind : kind.OnlyAsks) (hn : w.registry.configured.Nodup)
    (hv : w.registry.isValid a = true) : a ∉ ((perform ctx kind).result w).skipped := by
  rw [skipped_perform_of_nodup hkind hn, Registry.invalid, List.mem_filter, hv]
  simp

theorem mem_skipped_of_not_isValid (hkind : kind.OnlyAsks) (hn : w.registry.configured.Nodup)
    (ha : a ∈ w.registry.configured) (hv : w.registry.isValid a = false) :
    a ∈ ((perform ctx kind).result w).skipped := by
  rw [skipped_perform_of_nodup hkind hn, Registry.invalid, List.mem_filter, hv]
  exact ⟨ha, rfl⟩

/-- An instance that is valid has one outcome in a pass, from its own turn. -/
theorem turn_perform (hU : U.Serves kind) (hc : ctx.server = Memory.server)
    (hn : w.registry.configured.Nodup) (ha : a ∈ w.registry.configured)
    (hv : w.registry.isValid a = true) :
    ∃ w₁ : World Memory, w₁.server.part a = w.server.part a ∧
      ((perform ctx kind).result w).at a = [(onInstance ctx kind a).result w₁] ∧
      ((perform ctx kind).after w).server.part a =
        ((onInstance ctx kind a).after w₁).server.part a :=
  turn_overInstances (w := opened kind w) hU hc (hn.filter _) (Registry.mem_valid_iff.2 ⟨ha, hv⟩) hv

theorem no_turn_perform (hU : U.Serves kind) (hc : ctx.server = Memory.server)
    (hv : w.registry.isValid a = false) :
    ((perform ctx kind).result w).at a = [] ∧
      ((perform ctx kind).after w).server.part a = w.server.part a := by
  have ha : a ∉ w.registry.valid := fun h => by
    rw [(Registry.mem_valid_iff.1 h).2] at hv
    cases hv
  exact no_turn_overInstances hU hc ha (opened kind w)

section

variable (hU : U.Serves kind) (hU' : U.Serves (wanting kind desired)) (hmode : SameMode ctx ctx')
  (h : w.SameAt a w')

include hU hU' hmode h

/-- Both passes have a turn of an instance that is valid. -/
theorem sameAt_of_isValid (hdesired : desired a = kind.desired a)
    (hv : w.registry.isValid a = true) :
    ((perform ctx kind).result w).SameAt a ((perform ctx' (wanting kind desired)).result w') ∧
      ((perform ctx' (wanting kind desired)).after w').server.part a =
        ((perform ctx kind).after w).server.part a := by
  have hv' := h.valid.trans hv
  obtain ⟨w₁, hpart, hat, hafter⟩ := turn_perform hU hmode.server h.nodup h.listed hv
  obtain ⟨w₁', hpart', hat', hafter'⟩ := turn_perform hU' hmode.server' h.nodup' h.listed' hv'
  rw [onInstance_wanting hdesired] at hat' hafter'
  obtain ⟨hresult, hleft⟩ := alike_onInstance hU hmode w₁ w₁'
    (hpart'.trans (h.part.trans hpart.symm))
  refine ⟨⟨?_, ?_, Or.inl ⟨⟨_, hat⟩, ?_, ?_⟩⟩, ?_⟩
  · rw [kind_perform, kind_perform]
    rfl
  · rw [hat, hat', hresult]
  · exact notMem_skipped_of_isValid hU.asks h.nodup hv
  · exact notMem_skipped_of_isValid hU'.asks h.nodup' hv'
  · rw [hafter, hafter', hleft]

/-- Both passes skip an instance that is not. -/
theorem sameAt_of_not_isValid (hv : w.registry.isValid a = false) :
    ((perform ctx kind).result w).SameAt a ((perform ctx' (wanting kind desired)).result w') ∧
      ((perform ctx' (wanting kind desired)).after w').server.part a =
        ((perform ctx kind).after w).server.part a := by
  have hv' := h.valid.trans hv
  obtain ⟨hat, hafter⟩ := no_turn_perform hU hmode.server hv
  obtain ⟨hat', hafter'⟩ := no_turn_perform hU' hmode.server' hv'
  refine ⟨⟨?_, hat'.trans hat.symm, Or.inr ⟨hat, ?_, ?_⟩⟩, hafter'.trans (h.part.trans hafter.symm)⟩
  · rw [kind_perform, kind_perform]
    rfl
  · exact mem_skipped_of_not_isValid hU.asks h.nodup h.listed hv
  · exact mem_skipped_of_not_isValid hU'.asks h.nodup' h.listed' hv'

/-- **Two passes** in worlds where an instance is and has the same, over items
    of which the same are wanted there, report the same of it and leave it the
    same. -/
theorem sameAt_perform (hdesired : desired a = kind.desired a) :
    ((perform ctx kind).result w).SameAt a ((perform ctx' (wanting kind desired)).result w') ∧
      ((perform ctx kind).after w).SameAt a ((perform ctx' (wanting kind desired)).after w') := by
  have hconfigured : ((perform ctx kind).after w).registry.configured = w.registry.configured :=
    configured_perform hU.asks w
  have hconfigured' : ((perform ctx' (wanting kind desired)).after w').registry.configured =
      w'.registry.configured := configured_perform hU'.asks w'
  have hreport : ((perform ctx kind).result w).SameAt a
        ((perform ctx' (wanting kind desired)).result w') ∧
      ((perform ctx' (wanting kind desired)).after w').server.part a =
        ((perform ctx kind).after w).server.part a := by
    cases hv : w.registry.isValid a with
    | true => exact sameAt_of_isValid hU hU' hmode h hdesired hv
    | false => exact sameAt_of_not_isValid hU hU' hmode h hv
  refine ⟨hreport.1, hconfigured ▸ h.listed, hconfigured' ▸ h.listed', hconfigured ▸ h.nodup,
    hconfigured' ▸ h.nodup', ?_, hreport.2⟩
  rw [Bool.eq_iff_iff, isValid_perform_iff_at hU'.asks, isValid_perform_iff_at hU.asks,
    hreport.1.outcomes, h.valid]

end

end Pass

end Concord
