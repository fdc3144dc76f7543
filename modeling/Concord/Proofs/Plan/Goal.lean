/-
  What a plan makes of the objects of a kind on an instance.

  No two steps of a plan have one key, and each is possible on the objects for
  which the plan is made; so each is still possible when its turn comes.  What
  comes of a key depends on the item wanted under it and on the record that was
  there (`Upkeep.goal`).

  * `Upkeep.mem_steps_iff`: the steps of a plan.
  * `Upkeep.get?_settled`: the objects after all of them.
  * `Upkeep.settled_settled`: a second plan leaves them as they are.
-/
import Concord.Proofs.Diff.Pairing
import Concord.Proofs.Kind.Upkeep

namespace Concord

variable {α : Type}

/-! ## The steps of a plan -/

namespace Plan

theorem mem_steps_iff [Item α] {p : Plan α} {step : Action × α} :
    step ∈ p.steps ↔ match step.1 with
      | .create => step.2 ∈ p.creates
      | .update => step.2 ∈ p.updates
      | .delete => step.2 ∈ p.deletes := by
  obtain ⟨action, x⟩ := step
  cases action <;> simp [steps]

theorem isEmpty_iff [Item α] {p : Plan α} : p.isEmpty = true ↔ p.steps = [] := by
  simp [isEmpty, steps, and_assoc]

theorem map_key_steps [Item α] (p : Plan α) :
    p.steps.map (fun step => Item.key step.2) =
      p.creates.map Item.key ++ (p.updates.map Item.key ++ p.deletes.map Item.key) := by
  simp [steps, Function.comp_def]

theorem changes_eq_nil_iff [Item α] {p : Plan α} {detail : α → Option String} :
    p.changes detail = [] ↔ p.steps = [] := by
  simp [changes]

theorem length_changes [Item α] (p : Plan α) (detail : α → Option String) :
    (p.changes detail).length = p.steps.length := by
  simp [changes]

end Plan

namespace Upkeep

variable [Item α] {k : KindName} {U : Upkeep k α} {kind : Kind α} {a : String} {d : Dict k.Record}

/-! ## Many steps -/

/-- The key of the item of a step. -/
def stepKey (step : Action × α) : String := Item.key step.2

/-- A holding after steps. -/
def enactAll (U : Upkeep k α) (d : Dict k.Record) (steps : List (Action × α)) : Dict k.Record :=
  steps.foldl U.enact d

theorem get?_enact (step : Action × α) (key : String) :
    (U.enact d step).get? key =
      if key = stepKey step then U.effect step.1 step.2 (d.get? key) else d.get? key := by
  by_cases h : key = stepKey step
  · subst h
    simp [enact, stepKey]
  · rw [if_neg h, enact, Dict.get?_alter]
    exact if_neg h

theorem get?_enactAll_of_notMem {steps : List (Action × α)} {key : String}
    (h : key ∉ steps.map stepKey) : (U.enactAll d steps).get? key = d.get? key := by
  induction steps generalizing d with
  | nil => rfl
  | cons step steps ih =>
    obtain ⟨hne, hrest⟩ := not_or.1 (List.mem_cons.not.1 h)
    show (U.enactAll (U.enact d step) steps).get? key = _
    rw [ih hrest, get?_enact, if_neg hne]

/-- Among steps without a repeated key, the step of a key decides alone. -/
theorem get?_enactAll_of_mem {steps : List (Action × α)} (hn : (steps.map stepKey).Nodup)
    {step : Action × α} (h : step ∈ steps) :
    (U.enactAll d steps).get? (stepKey step) =
      U.effect step.1 step.2 (d.get? (stepKey step)) := by
  induction steps generalizing d with
  | nil => cases h
  | cons first steps ih =>
    obtain ⟨hfirst, hrest⟩ := List.nodup_cons.1 hn
    show (U.enactAll (U.enact d first) steps).get? _ = _
    rcases List.mem_cons.1 h with rfl | h
    · rw [get?_enactAll_of_notMem hfirst, get?_enact, if_pos rfl]
    · have hne : stepKey step ≠ stepKey first := fun he =>
        hfirst (he ▸ List.mem_map_of_mem h)
      rw [ih hrest h, get?_enact, if_neg hne]

/-- A step stays possible while others of another key are enacted. -/
theorem Possible.enact {step first : Action × α} (h : Possible d step)
    (hne : stepKey step ≠ stepKey first) : Possible (U.enact d first) step := by
  obtain ⟨action, x⟩ := step
  have hget : (U.enact d first).get? (Item.key x) = d.get? (Item.key x) := by
    rw [get?_enact]
    exact if_neg hne
  cases action with
  | create => exact hget.trans h
  | update | delete =>
    obtain ⟨r, hr⟩ := h
    exact ⟨r, hget.trans hr⟩

/-! ## Plans -/

/-- The plan for the objects of a kind on an instance. -/
def planFor (U : Upkeep k α) (kind : Kind α) (a : String) (d : Dict k.Record) : Plan α :=
  Plan.ofDiff kind.label a (Diff.of (kind.desired a) (U.items a d)) kind.isProtected

/-- No key is wanted twice, and the keys wanted and the keys in use are as the
    items have them. -/
structure Orderly (U : Upkeep k α) (kind : Kind α) (a : String) (d : Dict k.Record) : Prop where
  nodup : ((kind.desired a).map Item.key).Nodup
  wanted : ∀ x ∈ kind.desired a, U.Keyed (Item.key x)
  inUse : ∀ key r, d.get? key = some r → U.Keyed key

theorem Orderly.eq_of_key (h : U.Orderly kind a d) {x y : α} (hx : x ∈ kind.desired a)
    (hy : y ∈ kind.desired a) (hkey : Item.key x = Item.key y) : x = y :=
  List.inj_on_of_nodup_map h.nodup hx hy hkey

theorem Orderly.key_items (h : U.Orderly kind a d) : (U.items a d).map Item.key = d.keys := by
  rw [items, List.map_map]
  refine List.map_congr_left fun e he => ?_
  exact h.inUse e.1 e.2 (Dict.mem_entries_iff.1 he) a e.2

theorem Orderly.nodup_items (h : U.Orderly kind a d) : ((U.items a d).map Item.key).Nodup :=
  h.key_items ▸ d.nodup_keys

theorem Orderly.mem_items_iff (h : U.Orderly kind a d) {x : α} :
    x ∈ U.items a d ↔ ∃ r, d.get? (Item.key x) = some r ∧ x = U.item a (Item.key x) r := by
  constructor
  · intro hx
    obtain ⟨⟨key, r⟩, he, rfl⟩ := List.mem_map.1 hx
    have hr := Dict.mem_entries_iff.1 he
    have hkey : Item.key (U.item a key r) = key := h.inUse key r hr a r
    dsimp only at hr ⊢
    rw [hkey]
    exact ⟨r, hr, rfl⟩
  · rintro ⟨r, hr, hx⟩
    exact List.mem_map.2 ⟨(Item.key x, r), Dict.mem_entries_iff.2 hr, hx.symm⟩

/-- The partner of a key is the item of its record. -/
theorem Orderly.partner_items (h : U.Orderly kind a d) (key : String) :
    partner (U.items a d) key = (d.get? key).map (U.item a key) := by
  cases hr : d.get? key with
  | none =>
    refine partner_eq_none_iff.2 fun hk => ?_
    rw [h.key_items] at hk
    obtain ⟨r, hr'⟩ := Dict.mem_keys_iff.1 hk
    cases hr.symm.trans hr'
  | some r =>
    have hkey : Item.key (U.item a key r) = key := h.inUse key r hr a r
    refine (partner_eq_some_iff h.nodup_items).2 ⟨h.mem_items_iff.2 ⟨r, ?_, ?_⟩, hkey⟩
    · exact hkey.symm ▸ hr
    · exact hkey.symm ▸ rfl

/-- What is to be done, and to what. -/
def Due (U : Upkeep k α) (kind : Kind α) (a : String) (d : Dict k.Record) :
    Action × α → Prop
  | (.create, x) => x ∈ kind.desired a ∧ d.get? (Item.key x) = none
  | (.update, x) => x ∈ kind.desired a ∧
      ∃ r, d.get? (Item.key x) = some r ∧ Item.agrees x (U.item a (Item.key x) r) = false
  | (.delete, x) => Item.key x ∉ (kind.desired a).map Item.key ∧ kind.isProtected x = false ∧
      ∃ r, d.get? (Item.key x) = some r ∧ x = U.item a (Item.key x) r

/-- **The steps of a plan** are those that are due. -/
theorem Orderly.mem_steps_iff (h : U.Orderly kind a d) {step : Action × α} :
    step ∈ (U.planFor kind a d).steps ↔ U.Due kind a d step := by
  obtain ⟨action, x⟩ := step
  rw [Plan.mem_steps_iff, planFor, Plan.ofDiff, Diff.of_eq h.nodup h.nodup_items]
  cases action with
  | create =>
    simp [Due, h.partner_items, verdict_eq_create_iff]
  | update =>
    simp [Due, h.partner_items, verdict_eq_update_iff]
  | delete =>
    simp only [List.mem_filter, decide_eq_true_eq, h.mem_items_iff, Due, Bool.not_eq_true']
    exact ⟨fun ⟨⟨hr, hk⟩, hp⟩ => ⟨hk, hp, hr⟩, fun ⟨hk, hp, hr⟩ => ⟨⟨hr, hk⟩, hp⟩⟩

/-- No key has two steps: each is changed once, and what is protected is left
    out. -/
theorem Orderly.nodup_steps (h : U.Orderly kind a d) :
    ((U.planFor kind a d).steps.map stepKey).Nodup := by
  have hkeys : (U.planFor kind a d).steps.map stepKey =
      (U.planFor kind a d).creates.map Item.key ++ ((U.planFor kind a d).updates.map Item.key ++
        (U.planFor kind a d).deletes.map Item.key) := Plan.map_key_steps _
  rw [hkeys]
  refine (Diff.nodup_changedKeys h.nodup h.nodup_items).sublist ?_
  have hdeletes : (U.planFor kind a d).deletes.Sublist
      (Diff.of (kind.desired a) (U.items a d)).toDelete := List.filter_sublist
  exact (List.Sublist.refl _).append ((List.Sublist.refl _).append (hdeletes.map _))

theorem Due.possible {step : Action × α} (h : U.Due kind a d step) : Possible d step := by
  obtain ⟨action, x⟩ := step
  cases action with
  | create => exact h.2
  | update =>
    obtain ⟨-, r, hr, -⟩ := h
    exact ⟨r, hr⟩
  | delete =>
    obtain ⟨-, -, r, hr, -⟩ := h
    exact ⟨r, hr⟩

/-! ## What is left in the end -/

/-- The objects of a kind after all steps of their plan. -/
def settled (U : Upkeep k α) (kind : Kind α) (a : String) (d : Dict k.Record) : Dict k.Record :=
  U.enactAll d (U.planFor kind a d).steps

/-- What comes of the record under a key: it is made for the item that is
    wanted, and goes if none is, unless it is protected. -/
def goal (U : Upkeep k α) (kind : Kind α) (a : String) (d : Dict k.Record) (key : String) :
    Option k.Record :=
  match partner (kind.desired a) key with
  | some x =>
    match d.get? key with
    | none => some (U.created x)
    | some r => if Item.agrees x (U.item a key r) then some r else some (U.updated x r)
  | none => (d.get? key).filter fun r => kind.isProtected (U.item a key r)

/-- A step that is due decides what comes of its key. -/
theorem Orderly.get?_settled_of_due (h : U.Orderly kind a d) {action : Action} {x : α}
    (hdue : U.Due kind a d (action, x)) :
    (U.settled kind a d).get? (Item.key x) = U.effect action x (d.get? (Item.key x)) :=
  get?_enactAll_of_mem h.nodup_steps (h.mem_steps_iff.2 hdue)

theorem Orderly.get?_settled_of_not_due (h : U.Orderly kind a d) {key : String}
    (hdue : ∀ action x, Item.key x = key → ¬ U.Due kind a d (action, x)) :
    (U.settled kind a d).get? key = d.get? key := by
  refine get?_enactAll_of_notMem fun hk => ?_
  obtain ⟨⟨action, x⟩, hx, hkey⟩ := List.mem_map.1 hk
  exact hdue action x hkey (h.mem_steps_iff.1 hx)

/-- What a plan leaves of a wanted item. -/
theorem Orderly.get?_settled_of_mem (h : U.Orderly kind a d) {x : α} (hx : x ∈ kind.desired a) :
    (U.settled kind a d).get? (Item.key x) =
      match d.get? (Item.key x) with
      | none => some (U.created x)
      | some r =>
        if Item.agrees x (U.item a (Item.key x) r) then some r else some (U.updated x r) := by
  cases hr : d.get? (Item.key x) with
  | none =>
    have hdue : U.Due kind a d (.create, x) := ⟨hx, hr⟩
    rw [h.get?_settled_of_due hdue]
    rfl
  | some r =>
    cases hagree : Item.agrees x (U.item a (Item.key x) r) with
    | false =>
      have hdue : U.Due kind a d (.update, x) := ⟨hx, r, hr, hagree⟩
      rw [h.get?_settled_of_due hdue, hr]
      simp [effect, hagree]
    | true =>
      rw [h.get?_settled_of_not_due, hr]
      · simp [hagree]
      · intro action y hy hdue
        cases action with
        | create =>
          obtain ⟨-, hnone⟩ := hdue
          rw [hy, hr] at hnone
          cases hnone
        | update =>
          obtain ⟨hy', r', hr', hagree'⟩ := hdue
          obtain rfl := h.eq_of_key hy' hx hy
          rw [hr] at hr'
          cases hr'
          rw [hagree] at hagree'
          cases hagree'
        | delete => exact hdue.1 (hy ▸ List.mem_map_of_mem hx)

/-- What a plan leaves under a key that is not wanted. -/
theorem Orderly.get?_settled_of_notMem (h : U.Orderly kind a d) {key : String}
    (hkey : key ∉ (kind.desired a).map Item.key) :
    (U.settled kind a d).get? key =
      (d.get? key).filter fun r => kind.isProtected (U.item a key r) := by
  by_cases hdelete : ∃ y, Item.key y = key ∧ U.Due kind a d (.delete, y)
  · obtain ⟨y, rfl, hdue⟩ := hdelete
    obtain ⟨-, hp, r, hr, hy⟩ := id hdue
    rw [h.get?_settled_of_due hdue, hr]
    rw [Option.filter_some, ← hy, hp]
    rfl
  · rw [h.get?_settled_of_not_due]
    · cases hr : d.get? key with
      | none => rfl
      | some r =>
        have hitem : Item.key (U.item a key r) = key := h.inUse key r hr a r
        have hp : kind.isProtected (U.item a key r) = true := by
          by_contra hp
          refine hdelete ⟨U.item a key r, hitem, ?_, by simpa using hp, r, ?_⟩
          · exact hitem.symm ▸ hkey
          · rw [hitem]
            exact ⟨hr, rfl⟩
        rw [Option.filter_some, hp]
        rfl
    · intro action y hy hdue
      cases action with
      | create | update => exact hkey (hy ▸ List.mem_map_of_mem hdue.1)
      | delete => exact hdelete ⟨y, hy, hdue⟩

/-- **What a plan leaves** under each key. -/
theorem Orderly.get?_settled (h : U.Orderly kind a d) (key : String) :
    (U.settled kind a d).get? key = U.goal kind a d key := by
  unfold goal
  cases hx : partner (kind.desired a) key with
  | some x =>
    obtain ⟨hmem, rfl⟩ := (partner_eq_some_iff h.nodup).1 hx
    exact h.get?_settled_of_mem hmem
  | none => exact h.get?_settled_of_notMem (partner_eq_none_iff.1 hx)

/-! ## Once more -/

theorem Orderly.settled (h : U.Orderly kind a d) : U.Orderly kind a (U.settled kind a d) where
  nodup := h.nodup
  wanted := h.wanted
  inUse key r hr := by
    by_cases hkey : key ∈ (kind.desired a).map Item.key
    · obtain ⟨x, hx, rfl⟩ := List.mem_map.1 hkey
      exact h.wanted x hx
    · rw [h.get?_settled_of_notMem hkey] at hr
      exact h.inUse key r (Option.filter_eq_some_iff.1 hr).1

/-- **What remains due** is the update of an item that no update brings in
    line. -/
theorem Orderly.due_settled_iff (h : U.Orderly kind a d) (hU : U.Serves kind) {action : Action}
    {x : α} :
    U.Due kind a (U.settled kind a d) (action, x) ↔
      action = .update ∧ x ∈ kind.desired a ∧ ∃ r, d.get? (Item.key x) = some r ∧
        Item.agrees x (U.item a (Item.key x) r) = false ∧
        Item.agrees x (U.item a (Item.key x) (U.updated x r)) = false := by
  constructor
  · intro hdue
    cases action with
    | create =>
      obtain ⟨hx, hnone⟩ := hdue
      rw [h.get?_settled_of_mem hx] at hnone
      cases hr : d.get? (Item.key x) with
      | none => simp [hr] at hnone
      | some r =>
        rw [hr] at hnone
        dsimp only at hnone
        split at hnone <;> cases hnone
    | update =>
      obtain ⟨hx, r', hr', hagree'⟩ := hdue
      rw [h.get?_settled_of_mem hx] at hr'
      refine ⟨rfl, hx, ?_⟩
      cases hr : d.get? (Item.key x) with
      | none =>
        rw [hr] at hr'
        cases hr'
        rw [hU.agrees_created a x (h.wanted x hx)] at hagree'
        cases hagree'
      | some r =>
        rw [hr] at hr'
        dsimp only at hr'
        split at hr'
        · rename_i hagree
          cases hr'
          rw [hagree] at hagree'
          cases hagree'
        · rename_i hagree
          cases hr'
          exact ⟨r, rfl, by simpa using hagree, hagree'⟩
    | delete =>
      obtain ⟨hkey, hp, r, hr, hx⟩ := hdue
      rw [h.get?_settled_of_notMem hkey] at hr
      have hprotected := (Option.filter_eq_some_iff.1 hr).2
      rw [← hx, hp] at hprotected
      cases hprotected
  · rintro ⟨rfl, hx, r, hr, hagree, hupdated⟩
    refine ⟨hx, U.updated x r, ?_, hupdated⟩
    rw [h.get?_settled_of_mem hx, hr]
    simp [hagree]

/-- A second plan has no steps if every item that was there agrees with its
    record, or will once it is updated. -/
theorem Orderly.steps_settled_eq_nil_iff (h : U.Orderly kind a d) (hU : U.Serves kind) :
    (U.planFor kind a (U.settled kind a d)).steps = [] ↔
      ∀ x ∈ kind.desired a, ∀ r, d.get? (Item.key x) = some r →
        Item.agrees x (U.item a (Item.key x) r) = true ∨
          Item.agrees x (U.item a (Item.key x) (U.updated x r)) = true := by
  rw [List.eq_nil_iff_forall_not_mem]
  constructor
  · intro hnone x hx r hr
    by_contra hboth
    obtain ⟨hagree, hupdated⟩ := not_or.1 hboth
    refine hnone (.update, x) (h.settled.mem_steps_iff.2 ((h.due_settled_iff hU).2 ?_))
    exact ⟨rfl, hx, r, hr, by simpa using hagree, by simpa using hupdated⟩
  · rintro hall ⟨action, x⟩ hstep
    obtain ⟨-, hx, r, hr, hagree, hupdated⟩ :=
      (h.due_settled_iff hU).1 (h.settled.mem_steps_iff.1 hstep)
    rcases hall x hx r hr with hyes | hyes
    · rw [hagree] at hyes
      cases hyes
    · rw [hupdated] at hyes
      cases hyes

/-- **A second plan changes nothing**, even where it has steps. -/
theorem Orderly.settled_settled (h : U.Orderly kind a d) (hU : U.Serves kind) :
    U.settled kind a (U.settled kind a d) = U.settled kind a d := by
  apply Dict.ext_get?
  intro key
  by_cases hdue : ∃ x, Item.key x = key ∧ U.Due kind a (U.settled kind a d) (.update, x)
  · obtain ⟨x, rfl, hdue⟩ := hdue
    obtain ⟨-, hx, r, hr, hagree, -⟩ := (h.due_settled_iff hU).1 hdue
    have hsettled : (U.settled kind a d).get? (Item.key x) = some (U.updated x r) := by
      rw [h.get?_settled_of_mem hx, hr]
      simp [hagree]
    rw [h.settled.get?_settled_of_due hdue, hsettled]
    exact congrArg some (hU.updated_updated x r)
  · refine h.settled.get?_settled_of_not_due fun action x hx hd => ?_
    obtain ⟨rfl, -⟩ := (h.due_settled_iff hU).1 hd
    exact hdue ⟨x, hx, hd⟩

end Upkeep

end Concord
