/-
  The turns of a pass: one instance after another, each taken out of the run
  right after its own turn if that fails.

  * `addresses_overInstances`: which instances have a turn, in which order.
  * `exists_turn`: a turn finds of its instance what was there at the start.
  * `world_of_mem`: every outcome is that of a turn.
  * `isValid_overInstances`: who is valid after a pass.
-/
import Concord.Proofs.Pass.Frame
import Concord.Proofs.Registry

namespace Concord.Pass

open Session

variable {σ α : Type} [Item α] {ctx : Context σ} {kind : Kind α} {a : String} {L : List String}
  {w : World σ}

/-! ## One turn -/

/-- The turn of an instance: a pass on it, and what follows for its
    validity. -/
def turn (ctx : Context σ) (kind : Kind α) (a : String) : Session σ Outcome := do
  let outcome ← onInstance ctx kind a
  settle kind outcome
  return outcome

theorem result_turn (w : World σ) :
    (turn ctx kind a).result w = (onInstance ctx kind a).result w := rfl

theorem address_carryOut (plan : Plan α) (w : World σ) :
    ((carryOut ctx kind plan).result w).address = plan.address := by
  unfold carryOut
  dsimp only
  split
  · rfl
  · split <;> rfl

theorem address_onInstance (w : World σ) :
    ((onInstance ctx kind a).result w).address = a := by
  unfold onInstance
  rw [result_bind]
  cases (kind.fetch ctx a).result w with
  | error e => rfl
  | ok observed => exact address_carryOut _ _

/-- A pass on an instance marks nothing by itself. -/
theorem registry_onInstance (hkind : kind.OnlyAsks) (w : World σ) :
    ((onInstance ctx kind a).after w).registry = w.registry := by
  have h : Bears (Fixes World.registry) ctx kind a :=
    ⟨hkind, ⟨fun _ _ => rfl, fun _ _ => rfl⟩, fun _ _ _ _ _ _ => rfl⟩
  exact keeps_onInstance h w

omit [Item α] in
theorem isValid_settle (o : Outcome) (b : String) :
    ((settle kind o).after w).registry.isValid b = true ↔
      w.registry.isValid b = true ∧ (o.address = b → o.error = none) := by
  unfold settle
  cases o.error with
  | none => simp
  | some e =>
    show (w.registry.markInvalid o.address).isValid b = true ↔ _
    rw [Registry.isValid_markInvalid]
    simp only [reduceCtorEq, imp_false]
    exact and_congr_right fun _ => ne_comm

theorem isValid_turn (hkind : kind.OnlyAsks) (w : World σ) (b : String) :
    ((turn ctx kind a).after w).registry.isValid b = true ↔
      w.registry.isValid b = true ∧ (a = b → ((turn ctx kind a).result w).error = none) := by
  show ((settle kind ((onInstance ctx kind a).result w)).after
    ((onInstance ctx kind a).after w)).registry.isValid b = true ↔ _
  rw [isValid_settle, address_onInstance, registry_onInstance hkind]
  rfl

theorem keeps_turn {R : World σ → World σ → Prop} [IsPreorder (World σ) R]
    (hmark : ∀ b, Keeps R (markInvalid b)) (h : Bears R ctx kind a) :
    Keeps R (turn ctx kind a) :=
  (keeps_onInstance h).bind fun o => (keeps_settle h.reading.record hmark o).bind fun _ => .pure _

/-! ## One after another -/

theorem result_overInstances_of_valid (h : w.registry.isValid a = true) :
    (overInstances ctx kind (a :: L)).result w =
      ((turn ctx kind a).result w ::
          ((overInstances ctx kind L).result ((turn ctx kind a).after w)).1,
        ((overInstances ctx kind L).result ((turn ctx kind a).after w)).2) := by
  rw [overInstances, result_bind, result_get, after_get, if_pos h]
  rfl

theorem after_overInstances_of_valid (h : w.registry.isValid a = true) :
    (overInstances ctx kind (a :: L)).after w =
      (overInstances ctx kind L).after ((turn ctx kind a).after w) := by
  rw [overInstances, after_bind, result_get, after_get, if_pos h]
  rfl

/-- The world after an instance is skipped. -/
def skip (kind : Kind α) (a : String) (w : World σ) : World σ :=
  (Session.record [skipEntry kind a]).after w

theorem result_overInstances_of_invalid (h : ¬ w.registry.isValid a = true) :
    (overInstances ctx kind (a :: L)).result w =
      (((overInstances ctx kind L).result (skip kind a w)).1,
        a :: ((overInstances ctx kind L).result (skip kind a w)).2) := by
  rw [overInstances, result_bind, result_get, after_get, if_neg h]
  rfl

theorem after_overInstances_of_invalid (h : ¬ w.registry.isValid a = true) :
    (overInstances ctx kind (a :: L)).after w =
      (overInstances ctx kind L).after (skip kind a w) := by
  rw [overInstances, after_bind, result_get, after_get, if_neg h]
  rfl

/-- Those that are valid have a turn, in their order. -/
theorem addresses_overInstances (hkind : kind.OnlyAsks) (hn : L.Nodup) :
    ((overInstances ctx kind L).result w).1.map (·.address) = L.filter w.registry.isValid := by
  induction L generalizing w with
  | nil => rfl
  | cons b L ih =>
    obtain ⟨hb, hL⟩ := List.nodup_cons.1 hn
    by_cases h : w.registry.isValid b = true
    · have hrest : L.filter ((turn ctx kind b).after w).registry.isValid =
          L.filter w.registry.isValid := by
        refine List.filter_congr fun c hc => ?_
        have hne : b ≠ c := fun he => hb (he ▸ hc)
        rw [Bool.eq_iff_iff, isValid_turn hkind]
        simp [hne]
      rw [result_overInstances_of_valid h, List.map_cons, ih hL, hrest, List.filter_cons_of_pos h,
        result_turn, address_onInstance]
    · rw [result_overInstances_of_invalid h, ih hL, List.filter_cons_of_neg h]
      rfl

/-- Who is valid after a pass: those for whom it did not fail. -/
theorem isValid_overInstances (hkind : kind.OnlyAsks) (b : String) :
    ((overInstances ctx kind L).after w).registry.isValid b = true ↔
      w.registry.isValid b = true ∧
        ∀ o ∈ ((overInstances ctx kind L).result w).1, o.address = b → o.error = none := by
  induction L generalizing w with
  | nil => simp [overInstances]
  | cons c L ih =>
    by_cases h : w.registry.isValid c = true
    · rw [after_overInstances_of_valid h, result_overInstances_of_valid h, ih, isValid_turn hkind,
        List.forall_mem_cons, result_turn, address_onInstance, and_assoc]
    · rw [after_overInstances_of_invalid h, result_overInstances_of_invalid h, ih]
      rfl

/-- **The turn of an instance** finds of it what the turns of the others keep. -/
theorem exists_turn {R : World σ → World σ → Prop} [IsPreorder (World σ) R]
    (hkind : kind.OnlyAsks) (hrecord : ∀ es, Keeps R (Session.record es))
    (hmark : ∀ b, Keeps R (markInvalid b)) (hothers : ∀ b ≠ a, Bears R ctx kind b)
    (ha : a ∈ L) (hv : w.registry.isValid a = true) :
    ∃ w', R w w' ∧
      (onInstance ctx kind a).result w' ∈ ((overInstances ctx kind L).result w).1 := by
  induction L generalizing w with
  | nil => cases ha
  | cons b L ih =>
    by_cases hba : b = a
    · subst hba
      exact ⟨w, refl_of R w, by simp [result_overInstances_of_valid hv, result_turn]⟩
    · have ha' := (List.mem_cons.1 ha).resolve_left (Ne.symm hba)
      by_cases h : w.registry.isValid b = true
      · have hv' : ((turn ctx kind b).after w).registry.isValid a = true :=
          (isValid_turn hkind w a).2 ⟨hv, fun he => absurd he hba⟩
        obtain ⟨w', hR, hmem⟩ := ih ha' hv'
        refine ⟨w', trans_of R (keeps_turn hmark (hothers b hba) w) hR, ?_⟩
        rw [result_overInstances_of_valid h]
        exact List.mem_cons_of_mem _ hmem
      · obtain ⟨w', hR, hmem⟩ := ih (w := skip kind b w) ha' hv
        refine ⟨w', trans_of R (hrecord _ w) hR, ?_⟩
        rw [result_overInstances_of_invalid h]
        exact hmem

/-- Every outcome is that of a turn, on the way from the start to the end. -/
theorem world_of_mem {R : World σ → World σ → Prop} [IsPreorder (World σ) R]
    (hrecord : ∀ es, Keeps R (Session.record es)) (hmark : ∀ b, Keeps R (markInvalid b))
    (h : ∀ b, Bears R ctx kind b) {o : Outcome}
    (ho : o ∈ ((overInstances ctx kind L).result w).1) :
    ∃ w', R w w' ∧ R w' ((overInstances ctx kind L).after w) ∧
      o = (onInstance ctx kind o.address).result w' := by
  induction L generalizing w with
  | nil => cases ho
  | cons b L ih =>
    by_cases hv : w.registry.isValid b = true
    · have hturn : R w ((turn ctx kind b).after w) := keeps_turn hmark (h b) w
      rw [result_overInstances_of_valid hv] at ho
      rw [after_overInstances_of_valid hv]
      rcases List.mem_cons.1 ho with rfl | ho
      · refine ⟨w, refl_of R w, ?_, by rw [result_turn, address_onInstance]⟩
        exact trans_of R hturn (keeps_overInstances hrecord hmark (fun b _ => h b) _)
      · obtain ⟨w', hbefore, hafter, heq⟩ := ih ho
        exact ⟨w', trans_of R hturn hbefore, hafter, heq⟩
    · rw [result_overInstances_of_invalid hv] at ho
      rw [after_overInstances_of_invalid hv]
      obtain ⟨w', hbefore, hafter, heq⟩ := ih ho
      exact ⟨w', trans_of R (hrecord _ w) hbefore, hafter, heq⟩

/-! ## Passes -/

/-- The world in which the turns of a pass begin. -/
def opened (kind : Kind α) (w : World σ) : World σ :=
  (Session.record (w.registry.invalid.map (skipEntry kind))).after w

theorem result_perform (w : World σ) :
    (perform ctx kind).result w =
      ⟨kind.label, ((overInstances ctx kind w.registry.valid).result (opened kind w)).1,
        w.registry.invalid ++
          ((overInstances ctx kind w.registry.valid).result (opened kind w)).2⟩ := rfl

theorem after_perform (w : World σ) :
    (perform ctx kind).after w =
      (overInstances ctx kind w.registry.valid).after (opened kind w) := rfl

theorem world_of_mem_perform {R : World σ → World σ → Prop} [IsPreorder (World σ) R]
    (hrecord : ∀ es, Keeps R (Session.record es)) (hmark : ∀ b, Keeps R (markInvalid b))
    (h : ∀ b, Bears R ctx kind b) {o : Outcome} (ho : o ∈ ((perform ctx kind).result w).outcomes) :
    ∃ w', R w w' ∧ R w' ((perform ctx kind).after w) ∧
      o = (onInstance ctx kind o.address).result w' := by
  obtain ⟨w', hbefore, hafter, heq⟩ := world_of_mem (w := opened kind w) hrecord hmark h ho
  exact ⟨w', trans_of R (hrecord _ w) hbefore, hafter, heq⟩

theorem isValid_perform (hkind : kind.OnlyAsks) (w : World σ) (b : String) :
    ((perform ctx kind).after w).registry.isValid b = true ↔
      w.registry.isValid b = true ∧
        ∀ o ∈ ((perform ctx kind).result w).outcomes, o.address = b → o.error = none := by
  rw [after_perform, isValid_overInstances hkind]
  rfl

theorem configured_perform (hkind : kind.OnlyAsks) (w : World σ) :
    ((perform ctx kind).after w).registry.configured = w.registry.configured := by
  have hbears : ∀ b, Bears (Fixes fun w => w.registry.configured) ctx kind b := fun _ =>
    ⟨hkind, ⟨fun _ _ => rfl, fun _ _ => rfl⟩, fun _ _ _ _ _ _ => rfl⟩
  exact keeps_perform (fun _ _ => rfl) (fun b w => Registry.configured_markInvalid w.registry b)
    hbears w

end Concord.Pass
