/-
  Steps that are broken off.

  A step is one mutation or a few, and may stop after any of them.  What comes
  of a key depends on the record under it only, and every record that a part of
  a step can leave there comes to the same as the record before it; so it does
  not matter for the next plan where the last one has stopped.

  * `Upkeep.Partial`, `Upkeep.Divisible`: what a part of a step can leave.
  * `Upkeep.OnWay`: objects that come to the same.
  * `Partial.onWay`: a step that is broken off stays on the way.
-/
import Concord.Proofs.Kind.Family
import Concord.Proofs.Plan.Goal

namespace Concord

variable {α : Type} {k : KindName}

namespace Upkeep

variable [Item α] {U : Upkeep k α} {kind : Kind α} {a : String} {d d' d'' : Dict k.Record}
  {step : Action × α}

/-! ## Parts of steps -/

/-- What a step can leave of a holding when it is broken off: all as it was, the
    effect of the whole step, or no object where an update makes it anew. -/
inductive Partial (U : Upkeep k α) (d : Dict k.Record) : Action × α → Dict k.Record → Prop
  | untouched (step : Action × α) : Partial U d step d
  | enacted (step : Action × α) : Partial U d step (U.enact d step)
  | removed {x : α} : (∀ r, U.updated x r = U.created x) →
      Partial U d (.update, x) (d.erase (Item.key x))

/-- No instance refuses the first mutations of a step that it does not refuse,
    and they leave a part of the step. -/
def Divisible (U : Upkeep k α) (kind : Kind α) : Prop :=
  ∀ (s : InstanceState) (step : Action × α) (ms : List Mutation), Possible (s.holding k) step →
    ms <+: kind.mutations step.1 step.2 →
      ∃ d, s.performAll ms = .ok (s.withHolding k d) ∧ U.Partial (s.holding k) step d

/-- A step of which none or all is done. -/
theorem Serves.partial_of_none_or_all (hU : U.Serves kind) {s : InstanceState}
    (h : Possible (s.holding k) step) {ms : List Mutation}
    (hms : ms = [] ∨ ms = kind.mutations step.1 step.2) :
    ∃ d, s.performAll ms = .ok (s.withHolding k d) ∧ U.Partial (s.holding k) step d := by
  rcases hms with rfl | rfl
  · refine ⟨s.holding k, ?_, .untouched step⟩
    rw [InstanceState.withHolding_holding]
    rfl
  · exact ⟨_, hU.perform s step h, .enacted step⟩

theorem nil_or_all_of_singleton {m : Mutation} {ms : List Mutation} (h : ms <+: [m]) :
    ms = [] ∨ ms = [m] := by
  rcases List.prefix_cons_iff.1 h with hnil | ⟨rest, hms, hrest⟩
  · exact Or.inl hnil
  · rw [List.prefix_nil.1 hrest] at hms
    exact Or.inr hms

/-- A kind every step of which is one mutation. -/
theorem Serves.divisible (hU : U.Serves kind)
    (h : ∀ action x, ∃ m, kind.mutations action x = [m]) : U.Divisible kind := by
  intro s step ms hpossible hms
  obtain ⟨m, hm⟩ := h step.1 step.2
  rw [hm] at hms
  exact hU.partial_of_none_or_all hpossible (hm ▸ nil_or_all_of_singleton hms)

theorem divisible_secretsEngines (items : List Backend) :
    engineUpkeep.Divisible (secretsEngines items) :=
  (serves_secretsEngines items).divisible fun action _ => by cases action <;> exact ⟨_, rfl⟩

theorem divisible_policies (items : List Policy) : policyUpkeep.Divisible (policies items) :=
  (serves_policies items).divisible fun action _ => by cases action <;> exact ⟨_, rfl⟩

theorem divisible_auditDevices (items : List Backend) :
    auditUpkeep.Divisible (auditDevices items) := by
  intro s step ms hpossible hms
  obtain ⟨action, b⟩ := step
  cases action with
  | create | delete =>
    exact (serves_auditDevices items).partial_of_none_or_all hpossible (nil_or_all_of_singleton hms)
  | update =>
    -- the device may be disabled and not enabled again
    rcases List.prefix_cons_iff.1 hms with rfl | ⟨rest, rfl, hrest⟩
    · exact (serves_auditDevices items).partial_of_none_or_all hpossible (Or.inl rfl)
    · rcases nil_or_all_of_singleton hrest with rfl | rfl
      · exact ⟨s.audits.erase b.path, rfl, .removed fun _ => rfl⟩
      · exact (serves_auditDevices items).partial_of_none_or_all hpossible (Or.inr rfl)

/-- A part of a step touches its own key only. -/
theorem Partial.get?_of_ne (h : U.Partial d step d') {key : String} (hne : key ≠ stepKey step) :
    d'.get? key = d.get? key := by
  cases h with
  | untouched => rfl
  | enacted => rw [get?_enact, if_neg hne]
  | removed => exact (Dict.get?_erase ..).trans (if_neg hne)

/-! ## The same in the end -/

/-- Objects that are orderly, and come to the same as others. -/
structure OnWay (U : Upkeep k α) (kind : Kind α) (a : String) (d d' : Dict k.Record) : Prop where
  orderly : U.Orderly kind a d'
  goal : ∀ key, U.goal kind a d' key = U.goal kind a d key

theorem OnWay.refl (h : U.Orderly kind a d) : U.OnWay kind a d d := ⟨h, fun _ => rfl⟩

theorem OnWay.trans (h : U.OnWay kind a d d') (h' : U.OnWay kind a d' d'') :
    U.OnWay kind a d d'' :=
  ⟨h'.orderly, fun key => (h'.goal key).trans (h.goal key)⟩

/-- A plan leaves the same of objects that come to the same. -/
theorem OnWay.settled_eq (ho : U.Orderly kind a d) (h : U.OnWay kind a d d') :
    U.settled kind a d' = U.settled kind a d := by
  apply Dict.ext_get?
  intro key
  rw [h.orderly.get?_settled, ho.get?_settled, h.goal]

/-- What comes of a key depends on the record under it only. -/
theorem goal_congr {key : String} (h : d'.get? key = d.get? key) :
    U.goal kind a d' key = U.goal kind a d key := by
  rw [goal, goal, h]

theorem Due.congr (hdue : U.Due kind a d step)
    (h : d'.get? (stepKey step) = d.get? (stepKey step)) : U.Due kind a d' step := by
  obtain ⟨action, x⟩ := step
  have hget : d'.get? (Item.key x) = d.get? (Item.key x) := h
  cases action <;> simpa only [Due, hget] using hdue

/-! ## Where a step is broken off -/

theorem Due.keyed (ho : U.Orderly kind a d) (hdue : U.Due kind a d step) :
    U.Keyed (stepKey step) := by
  obtain ⟨action, x⟩ := step
  cases action with
  | create | update => exact ho.wanted x hdue.1
  | delete =>
    obtain ⟨-, -, r, hr, -⟩ := hdue
    exact ho.inUse _ r hr

theorem Partial.orderly (ho : U.Orderly kind a d) (hdue : U.Due kind a d step)
    (h : U.Partial d step d') : U.Orderly kind a d' where
  nodup := ho.nodup
  wanted := ho.wanted
  inUse key r hr := by
    by_cases hkey : key = stepKey step
    · exact hkey ▸ hdue.keyed ho
    · exact ho.inUse key r ((h.get?_of_ne hkey).symm.trans hr)

theorem Orderly.goal_of_mem (h : U.Orderly kind a d) {x : α} (hx : x ∈ kind.desired a) :
    U.goal kind a d (Item.key x) =
      match d.get? (Item.key x) with
      | none => some (U.created x)
      | some r =>
        if Item.agrees x (U.item a (Item.key x) r) then some r else some (U.updated x r) :=
  (h.get?_settled _).symm.trans (h.get?_settled_of_mem hx)

theorem Orderly.goal_of_due (h : U.Orderly kind a d) {action : Action} {x : α}
    (hdue : U.Due kind a d (action, x)) :
    U.goal kind a d (Item.key x) = U.effect action x (d.get? (Item.key x)) :=
  (h.get?_settled _).symm.trans (h.get?_settled_of_due hdue)

/-- A whole step leaves its key where it comes to the same. -/
theorem goal_enact (hU : U.Serves kind) (ho : U.Orderly kind a d) {action : Action} {x : α}
    (hdue : U.Due kind a d (action, x)) :
    U.goal kind a (U.enact d (action, x)) (Item.key x) = U.goal kind a d (Item.key x) := by
  have ho' : U.Orderly kind a (U.enact d (action, x)) := (Partial.enacted _).orderly ho hdue
  have hget : (U.enact d (action, x)).get? (Item.key x) =
      U.effect action x (d.get? (Item.key x)) := (get?_enact _ _).trans (if_pos rfl)
  rw [ho.goal_of_due hdue]
  cases action with
  | create =>
    have hx := hdue.1
    rw [ho'.goal_of_mem hx, hget]
    simp [effect, hU.agrees_created a x (ho.wanted x hx)]
  | update =>
    obtain ⟨hx, r, hr, -⟩ := hdue
    rw [ho'.goal_of_mem hx, hget, hr]
    -- the record may still disagree, and is updated to itself then
    simp [effect, hU.updated_updated x r]
  | delete =>
    rw [← ho'.get?_settled, ho'.get?_settled_of_notMem hdue.1, hget]
    rfl

/-- **A step that is broken off** leaves objects that come to the same. -/
theorem Partial.onWay (hU : U.Serves kind) (ho : U.Orderly kind a d) (hdue : U.Due kind a d step)
    (h : U.Partial d step d') : U.OnWay kind a d d' := by
  have ho' : U.Orderly kind a d' := h.orderly ho hdue
  refine ⟨ho', fun key => ?_⟩
  by_cases hkey : key = stepKey step
  · subst hkey
    cases h with
    | untouched => rfl
    | enacted => exact goal_enact hU ho hdue
    | @removed x hmade =>
      have hget : (d.erase (Item.key x)).get? (Item.key x) = none :=
        (Dict.get?_erase ..).trans (if_pos rfl)
      obtain ⟨r, hr⟩ := hdue.possible
      show U.goal kind a (d.erase (Item.key x)) (Item.key x) = U.goal kind a d (Item.key x)
      rw [ho.goal_of_due hdue, ho'.goal_of_mem hdue.1, hget, hr]
      exact congrArg some (hmade r).symm
  · exact goal_congr (h.get?_of_ne hkey)

end Upkeep

/-- The steps of every kind are divisible. -/
theorem KindName.divisible : (k : KindName) → (items : List k.Object) →
    k.upkeep.Divisible (k.toKind items)
  | .audit, items => Upkeep.divisible_auditDevices items
  | .engine, items => Upkeep.divisible_secretsEngines items
  | .policy, items => Upkeep.divisible_policies items

end Concord
