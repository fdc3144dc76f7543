/-
  A difference as an edit script.

  An edit adds an item under a new key, replaces an item by another of its key
  or removes one.  The changes of a difference, carried out on the observed
  items, are such edits and leave nothing to be done.  An edit touches one key
  only, and the difference has one change for each key that is out of sync; so
  no script that leaves nothing to be done is shorter.

  * `Diff.applyTo`: the observed items after the changes of a difference.
  * `InSync`, `mem_changedKeys_iff`: the keys that a difference changes.
  * `Script.totalChanges_le`: what a script can save.
  * `shortest_script`: the changes of a difference as a shortest script.
-/
import Mathlib.Data.List.Perm.Subperm
import Concord.Kind.Policy
import Concord.Proofs.Diff.Pairing

namespace Concord

variable {α : Type} [Item α] {ds xs ys zs : List α}

/-! ## Carrying out a difference -/

/-- The item that takes the place of another: the update of its key, if there
    is one. -/
def revised (updates : List α) (x : α) : α := (partner updates (Item.key x)).getD x

namespace Diff

/-- The observed items after the changes of a difference: creations are
    appended, updates take the place of what they update, and what is to be
    deleted goes. -/
def applyTo (d : Diff α) (observed : List α) : List α :=
  ((observed ++ d.toCreate).map (revised d.toUpdate)).filter fun x =>
    Item.key x ∉ d.toDelete.map Item.key

omit [Item α] in
theorem hasChanges_eq_false_iff {d : Diff α} : d.hasChanges = false ↔ d.totalChanges = 0 := by
  simp [hasChanges, totalChanges, and_assoc]

end Diff

/-! ## Keys out of sync -/

/-- A key that is on neither side, or on both with items that agree. -/
def InSync (ds xs : List α) (k : String) : Prop :=
  match partner ds k, partner xs k with
  | none, none => True
  | some d, some x => Item.agrees d x = true
  | _, _ => False

theorem mem_keys_filter_iff (hx : (xs.map Item.key).Nodup) {p : α → Bool} {k : String} :
    k ∈ (xs.filter p).map Item.key ↔ ∃ x, partner xs k = some x ∧ p x = true := by
  simp only [List.mem_map, List.mem_filter, partner_eq_some_iff hx]
  exact exists_congr fun x => and_right_comm

/-- **The keys that a difference changes** are those out of sync. -/
theorem mem_changedKeys_iff (hd : (ds.map Item.key).Nodup) (hx : (xs.map Item.key).Nodup)
    {k : String} : k ∈ (Diff.of ds xs).changedKeys ↔ ¬ InSync ds xs k := by
  rw [Diff.of_eq hd hx, Diff.changedKeys]
  simp only [List.mem_append, mem_keys_filter_iff hd, mem_keys_filter_iff hx, decide_eq_true_eq]
  unfold InSync
  cases hpd : partner ds k with
  | none =>
    have hk := partner_eq_none_iff.1 hpd
    cases hpx : partner xs k with
    | none => simp
    | some x =>
      obtain ⟨-, rfl⟩ := (partner_eq_some_iff hx).1 hpx
      simpa using hk
  | some d =>
    obtain ⟨hmem, rfl⟩ := (partner_eq_some_iff hd).1 hpd
    have hwanted : ∀ x, partner xs (Item.key d) = some x → Item.key x ∈ ds.map Item.key :=
      fun x h => ((partner_eq_some_iff hx).1 h).2 ▸ List.mem_map_of_mem hmem
    cases hpx : partner xs (Item.key d) with
    | none => simp [hpx, verdict]
    | some x =>
      have hkey := hwanted x hpx
      cases hagree : Item.agrees d x <;> simp_all [verdict]

/-! ## Nothing left to be done -/

omit [Item α] in
theorem filter_verdict_eq_nil {v : Verdict} {f : α → Verdict} (h : ∀ d ∈ ds, f d = .keep)
    (hv : v ≠ .keep) : ds.filter (fun d => f d = v) = [] := by
  refine List.filter_eq_nil_iff.2 fun d hd => ?_
  simpa [h d hd] using hv.symm

/-- The difference of items in sync, without any that is not wanted. -/
theorem Diff.of_eq_of_inSync (hd : (ds.map Item.key).Nodup) (hx : (xs.map Item.key).Nodup)
    (hsync : ∀ d ∈ ds, ∃ x, partner xs (Item.key d) = some x ∧ Item.agrees d x = true)
    (hwanted : ∀ x ∈ xs, Item.key x ∈ ds.map Item.key) :
    Diff.of ds xs = ⟨[], [], [], ds.map Item.key⟩ := by
  have hkeep : ∀ d ∈ ds, verdict d (partner xs (Item.key d)) = .keep := fun d hd =>
    verdict_eq_keep_iff.2 (hsync d hd)
  have hall : ds.filter (fun d => verdict d (partner xs (Item.key d)) = .keep) = ds :=
    List.filter_eq_self.2 fun d hd => decide_eq_true (hkeep d hd)
  have hnone : xs.filter (fun x => Item.key x ∉ ds.map Item.key) = [] :=
    List.filter_eq_nil_iff.2 fun x hx' h => of_decide_eq_true h (hwanted x hx')
  rw [Diff.of_eq hd hx, filter_verdict_eq_nil hkeep (by decide),
    filter_verdict_eq_nil hkeep (by decide), hall, hnone]

/-! ## After the changes -/

theorem key_revised (updates : List α) (x : α) : Item.key (revised updates x) = Item.key x := by
  unfold revised
  cases hp : partner updates (Item.key x) with
  | none => rfl
  | some u => exact key_of_partner hp

theorem partner_applyTo (d : Diff α) (xs : List α) (k : String) :
    partner (d.applyTo xs) k = if k ∉ d.toDelete.map Item.key then
      ((partner xs k).or (partner d.toCreate k)).map (revised d.toUpdate) else none := by
  have hfilter := partner_filter (fun key => key ∉ d.toDelete.map Item.key)
    ((xs ++ d.toCreate).map (revised d.toUpdate)) k
  rw [partner_map (key_revised d.toUpdate), partner_append] at hfilter
  simpa [Diff.applyTo] using hfilter

theorem map_key_applyTo (d : Diff α) (xs : List α) :
    (d.applyTo xs).map Item.key =
      ((xs ++ d.toCreate).map Item.key).filter fun k => k ∉ d.toDelete.map Item.key := by
  have hkeys : Item.key ∘ revised d.toUpdate = Item.key := funext (key_revised d.toUpdate)
  rw [Diff.applyTo, List.filter_map, List.map_map, List.filter_map, hkeys]
  refine congrArg (List.map Item.key) (List.filter_congr fun x _ => ?_)
  simp [key_revised]

/-- Among wanted items that are chosen, the partner of a wanted key. -/
theorem partner_filter_of_mem (hd : (ds.map Item.key).Nodup) (p : α → Bool) {d : α}
    (hmem : d ∈ ds) : partner (ds.filter p) (Item.key d) = if p d then some d else none := by
  have hd' : ((ds.filter p).map Item.key).Nodup := hd.sublist (List.filter_sublist.map _)
  by_cases hp : p d = true
  · rw [if_pos hp]
    exact (partner_eq_some_iff hd').2 ⟨List.mem_filter.2 ⟨hmem, hp⟩, rfl⟩
  · rw [if_neg hp, partner_eq_none_iff]
    intro hkey
    obtain ⟨d', hd'', heq⟩ := List.mem_map.1 hkey
    obtain ⟨hmem', hp'⟩ := List.mem_filter.1 hd''
    obtain rfl := List.inj_on_of_nodup_map hd hmem' hmem heq
    exact hp hp'

/-- What becomes of an item whose key is wanted. -/
theorem revised_of_mem (hd : (ds.map Item.key).Nodup) (hx : (xs.map Item.key).Nodup) {d x : α}
    (hmem : d ∈ ds) (hkey : Item.key x = Item.key d) :
    revised (Diff.of ds xs).toUpdate x =
      if verdict d (partner xs (Item.key d)) = .update then d else x := by
  rw [revised, hkey, Diff.of_eq hd hx]
  dsimp only
  rw [partner_filter_of_mem hd _ hmem]
  by_cases hv : verdict d (partner xs (Item.key d)) = .update <;> simp [hv]

/-- A wanted item is in sync after the changes. -/
theorem exists_partner_applyTo (hrefl : ∀ x : α, Item.agrees x x = true)
    (hd : (ds.map Item.key).Nodup) (hx : (xs.map Item.key).Nodup) {d : α} (hmem : d ∈ ds) :
    ∃ x, partner ((Diff.of ds xs).applyTo xs) (Item.key d) = some x ∧ Item.agrees d x = true := by
  have hstays : Item.key d ∉ (Diff.of ds xs).toDelete.map Item.key := by
    rw [Diff.of_eq hd hx]
    intro hkey
    obtain ⟨x, hx', heq⟩ := List.mem_map.1 hkey
    exact of_decide_eq_true (List.mem_filter.1 hx').2 (heq ▸ List.mem_map_of_mem hmem)
  have hcreated : partner (Diff.of ds xs).toCreate (Item.key d) =
      if verdict d (partner xs (Item.key d)) = .create then some d else none := by
    rw [Diff.of_eq hd hx]
    simpa using partner_filter_of_mem hd (fun d => verdict d (partner xs (Item.key d)) = .create)
      hmem
  rw [partner_applyTo, if_pos hstays, hcreated]
  cases hv : verdict d (partner xs (Item.key d)) with
  | create =>
    refine ⟨d, ?_, hrefl d⟩
    rw [verdict_eq_create_iff.1 hv]
    simp [revised_of_mem hd hx hmem rfl, hv]
  | update =>
    obtain ⟨x, hpx, -⟩ := verdict_eq_update_iff.1 hv
    refine ⟨d, ?_, hrefl d⟩
    rw [hpx]
    simp [revised_of_mem hd hx hmem (key_of_partner hpx), hv]
  | keep =>
    obtain ⟨x, hpx, hagree⟩ := verdict_eq_keep_iff.1 hv
    refine ⟨x, ?_, hagree⟩
    rw [hpx]
    simp [revised_of_mem hd hx hmem (key_of_partner hpx), hv]

theorem nodup_append_toCreate (hd : (ds.map Item.key).Nodup) (hx : (xs.map Item.key).Nodup) :
    ((xs ++ (Diff.of ds xs).toCreate).map Item.key).Nodup := by
  rw [Diff.of_eq hd hx, List.map_append]
  refine List.nodup_append.2 ⟨hx, hd.sublist (List.filter_sublist.map _), ?_⟩
  rintro _ hold _ hnew rfl
  obtain ⟨d, hd', heq⟩ := List.mem_map.1 hnew
  have hnone := verdict_eq_create_iff.1 (of_decide_eq_true (List.mem_filter.1 hd').2)
  exact partner_eq_none_iff.1 hnone (heq ▸ hold)

/-- **After the changes** nothing is left to be done. -/
theorem Diff.of_applyTo (hrefl : ∀ x : α, Item.agrees x x = true) (hd : (ds.map Item.key).Nodup)
    (hx : (xs.map Item.key).Nodup) :
    Diff.of ds ((Diff.of ds xs).applyTo xs) = ⟨[], [], [], ds.map Item.key⟩ := by
  refine Diff.of_eq_of_inSync hd ?_ (fun d hmem => exists_partner_applyTo hrefl hd hx hmem) ?_
  · rw [map_key_applyTo]
    exact (nodup_append_toCreate hd hx).filter _
  · intro x hmem
    have hkey := List.mem_map_of_mem (f := Item.key) hmem
    rw [map_key_applyTo, List.mem_filter, List.map_append, List.mem_append, Diff.of_eq hd hx]
      at hkey
    obtain ⟨hold | hnew, hstays⟩ := hkey
    · obtain ⟨y, hy, heq⟩ := List.mem_map.1 hold
      by_contra hunwanted
      refine of_decide_eq_true hstays (List.mem_map.2 ⟨y, List.mem_filter.2 ⟨hy, ?_⟩, heq⟩)
      exact decide_eq_true (heq ▸ hunwanted)
    · obtain ⟨d, hd', heq⟩ := List.mem_map.1 hnew
      exact heq ▸ List.mem_map_of_mem (List.mem_filter.1 hd').1

/-! ## Edits -/

/-- A change of one item. -/
inductive Edit (α : Type) where
  | add (x : α)
  | replace (x : α)
  | remove (key : String)

/-- The key of the item that an edit is about. -/
def Edit.key : Edit α → String
  | add x | replace x => Item.key x
  | remove key => key

/-- The effect of an edit on items, wherever among them the item stands: what
    is added has a new key, and what is replaced keeps its key. -/
inductive Edit.Takes : Edit α → List α → List α → Prop
  | add {x : α} {before after : List α} : Item.key x ∉ (before ++ after).map Item.key →
      Takes (.add x) (before ++ after) (before ++ x :: after)
  | replace {x y : α} {before after : List α} : Item.key y = Item.key x →
      Takes (.replace y) (before ++ x :: after) (before ++ y :: after)
  | remove {x : α} {before after : List α} :
      Takes (.remove (Item.key x)) (before ++ x :: after) (before ++ after)

/-- Edits one after the other lead from some items to others. -/
inductive Script : List (Edit α) → List α → List α → Prop
  | nil (xs : List α) : Script [] xs xs
  | cons {e : Edit α} {es : List (Edit α)} {xs ys zs : List α} :
      e.Takes xs ys → Script es ys zs → Script (e :: es) xs zs

theorem Script.append {es es' : List (Edit α)} (h : Script es xs ys) (h' : Script es' ys zs) :
    Script (es ++ es') xs zs := by
  induction h with
  | nil => exact h'
  | cons htakes _ ih => exact .cons htakes (ih h')

namespace Edit.Takes

variable {e : Edit α} {k : String}

/-- An edit leaves the items of all other keys. -/
theorem partner_of_ne (h : e.Takes xs ys) (hk : k ≠ e.key) : partner ys k = partner xs k := by
  cases h with
  | @add x before after =>
    have hne : Item.key x ≠ k := hk.symm
    rw [partner_append, partner_append, partner_cons, if_neg hne]
  | @replace x y before after hkey =>
    have hne : Item.key y ≠ k := hk.symm
    rw [partner_append, partner_append, partner_cons, partner_cons, if_neg hne,
      if_neg (hkey ▸ hne)]
  | @remove x before after =>
    have hne : Item.key x ≠ k := hk.symm
    rw [partner_append, partner_append, partner_cons, if_neg hne]

theorem nodup (h : e.Takes xs ys) (hx : (xs.map Item.key).Nodup) : (ys.map Item.key).Nodup := by
  cases h with
  | add hnew =>
    rw [List.map_append] at hx hnew
    rw [List.map_append, List.map_cons]
    exact List.nodup_middle.2 (List.nodup_cons.2 ⟨hnew, hx⟩)
  | replace hkey => simpa [hkey] using hx
  | remove =>
    rw [List.map_append, List.map_cons] at hx
    rw [List.map_append]
    exact (List.nodup_cons.1 (List.nodup_middle.1 hx)).2

/-- **An edit** brings at most its own key in sync. -/
theorem totalChanges_le (h : e.Takes xs ys) (hd : (ds.map Item.key).Nodup)
    (hx : (xs.map Item.key).Nodup) :
    (Diff.of ds xs).totalChanges ≤ (Diff.of ds ys).totalChanges + 1 := by
  have hsub : (Diff.of ds xs).changedKeys ⊆ e.key :: (Diff.of ds ys).changedKeys := by
    intro k hk
    by_cases hkey : k = e.key
    · exact hkey ▸ List.mem_cons_self
    · refine List.mem_cons_of_mem _ ((mem_changedKeys_iff hd (h.nodup hx)).2 ?_)
      have hout := (mem_changedKeys_iff hd hx).1 hk
      rwa [InSync, h.partner_of_ne hkey]
  have hlength := ((Diff.nodup_changedKeys hd hx).subperm hsub).length_le
  rwa [List.length_cons, Diff.length_changedKeys, Diff.length_changedKeys] at hlength

end Edit.Takes

/-- **A script** saves at most one change for each of its edits. -/
theorem Script.totalChanges_le {es : List (Edit α)} (h : Script es xs ys)
    (hd : (ds.map Item.key).Nodup) (hx : (xs.map Item.key).Nodup) :
    (Diff.of ds xs).totalChanges ≤ (Diff.of ds ys).totalChanges + es.length := by
  induction h with
  | nil => exact Nat.le_refl _
  | cons htakes _ ih =>
    have hone := htakes.totalChanges_le hd hx
    have hrest := ih (htakes.nodup hx)
    rw [List.length_cons]
    omega

/-! ## The script of a difference -/

/-- The changes of a difference as edits, in the order in which they are
    carried out. -/
def Diff.script (d : Diff α) : List (Edit α) :=
  d.toCreate.map .add ++ (d.toUpdate.map .replace ++
    (d.toDelete.map Item.key).map .remove)

theorem Diff.length_script (d : Diff α) : d.script.length = d.totalChanges := by
  simp [Diff.script, Diff.totalChanges, Nat.add_assoc]

theorem script_add (cs : List α) {xs : List α} (hn : ((xs ++ cs).map Item.key).Nodup) :
    Script (cs.map .add) xs (xs ++ cs) := by
  induction cs generalizing xs with
  | nil => simpa using Script.nil xs
  | cons c cs ih =>
    have hn' : ((xs ++ [c] ++ cs).map Item.key).Nodup := by simpa using hn
    have hnew : Item.key c ∉ (xs ++ []).map Item.key := by
      rw [List.map_append, List.map_cons] at hn
      rw [List.append_nil]
      exact fun hold => (List.nodup_append.1 hn).2.2 _ hold _ List.mem_cons_self rfl
    have htakes : (Edit.add c).Takes xs (xs ++ [c]) := by simpa using Edit.Takes.add hnew
    simpa using Script.cons htakes (ih hn')

theorem revised_cons_of_ne {u x : α} {us : List α} (h : Item.key u ≠ Item.key x) :
    revised (u :: us) x = revised us x := by
  rw [revised, partner_cons, if_neg h]
  rfl

theorem revised_cons_of_eq {u x : α} {us : List α} (h : Item.key u = Item.key x) :
    revised (u :: us) x = u := by
  rw [revised, partner_cons, if_pos h]
  rfl

theorem revised_of_notMem {x : α} {us : List α} (h : Item.key x ∉ us.map Item.key) :
    revised us x = x := by
  rw [revised, partner_eq_none_iff.2 h]
  rfl

/-- The items before and after one of them have other keys. -/
theorem key_ne_of_nodup_middle {x y : α} {before after : List α}
    (hn : ((before ++ x :: after).map Item.key).Nodup) (hy : y ∈ before ++ after) :
    Item.key y ≠ Item.key x := by
  rw [List.map_append, List.map_cons, List.nodup_middle, ← List.map_append] at hn
  exact fun heq => (List.nodup_cons.1 hn).1 (heq ▸ List.mem_map_of_mem hy)

theorem script_replace (us : List α) {xs : List α} (hx : (xs.map Item.key).Nodup)
    (hu : (us.map Item.key).Nodup) (hold : us.map Item.key ⊆ xs.map Item.key) :
    Script (us.map .replace) xs (xs.map (revised us)) := by
  induction us generalizing xs with
  | nil =>
    have hsame : xs.map (revised []) = xs := List.map_id'' (fun _ => rfl) xs
    rw [hsame]
    exact .nil xs
  | cons u us ih =>
    obtain ⟨hfirst, hrest⟩ := List.nodup_cons.1 hu
    obtain ⟨x, hmem, hkey⟩ := List.mem_map.1 (hold List.mem_cons_self)
    obtain ⟨before, after, rfl⟩ := List.append_of_mem hmem
    have hkeys : (before ++ u :: after).map Item.key = (before ++ x :: after).map Item.key := by
      simp [hkey]
    have hothers : ∀ y ∈ before ++ after, revised (u :: us) y = revised us y := fun y hy =>
      revised_cons_of_ne (hkey ▸ (key_ne_of_nodup_middle hx hy).symm)
    have hafter : (before ++ x :: after).map (revised (u :: us)) =
        (before ++ u :: after).map (revised us) := by
      rw [List.map_append, List.map_append, List.map_cons, List.map_cons,
        revised_cons_of_eq hkey.symm, revised_of_notMem hfirst,
        List.map_congr_left fun y hy => hothers y (List.mem_append_left _ hy),
        List.map_congr_left fun y hy => hothers y (List.mem_append_right _ hy)]
    rw [List.map_cons, hafter]
    refine .cons (.replace hkey.symm) (ih (hkeys ▸ hx) hrest (hkeys ▸ ?_))
    exact fun k hk => hold (List.mem_cons_of_mem _ hk)

theorem script_remove (ks : List String) {xs : List α} (hx : (xs.map Item.key).Nodup)
    (hk : ks.Nodup) (hold : ks ⊆ xs.map Item.key) :
    Script (ks.map .remove) xs (xs.filter fun x => Item.key x ∉ ks) := by
  induction ks generalizing xs with
  | nil => simpa using Script.nil xs
  | cons k ks ih =>
    obtain ⟨hfirst, hrest⟩ := List.nodup_cons.1 hk
    obtain ⟨x, hmem, rfl⟩ := List.mem_map.1 (hold List.mem_cons_self)
    obtain ⟨before, after, rfl⟩ := List.append_of_mem hmem
    have hothers : ∀ y ∈ before ++ after, Item.key y ≠ Item.key x := fun y =>
      key_ne_of_nodup_middle hx
    have htakes : (Edit.remove (Item.key x)).Takes (before ++ x :: after) (before ++ after) :=
      .remove
    have hafter : (before ++ x :: after).filter (fun y => Item.key y ∉ Item.key x :: ks) =
        (before ++ after).filter fun y => Item.key y ∉ ks := by
      have hsame := List.filter_congr (l := before ++ after)
        (p := fun y => decide (Item.key y ∉ Item.key x :: ks))
        (q := fun y => decide (Item.key y ∉ ks)) fun y hy => by simp [hothers y hy]
      rw [List.filter_append, List.filter_cons_of_neg (by simp), ← List.filter_append, hsame]
    have hstays : ks ⊆ (before ++ after).map Item.key := by
      intro k hk'
      obtain ⟨y, hy, rfl⟩ := List.mem_map.1 (hold (List.mem_cons_of_mem _ hk'))
      have hne : y ≠ x := fun heq => hfirst (heq ▸ hk')
      refine List.mem_map_of_mem ?_
      simpa [hne] using hy
    rw [List.map_cons, hafter]
    exact .cons htakes (ih (htakes.nodup hx) hrest hstays)

/-- The changes of a difference lead to the items after them. -/
theorem script_of (hd : (ds.map Item.key).Nodup) (hx : (xs.map Item.key).Nodup) :
    Script (Diff.of ds xs).script xs ((Diff.of ds xs).applyTo xs) := by
  have hcreated := nodup_append_toCreate hd hx
  have hkeys : ((xs ++ (Diff.of ds xs).toCreate).map (revised (Diff.of ds xs).toUpdate)).map
      Item.key = (xs ++ (Diff.of ds xs).toCreate).map Item.key := by
    rw [List.map_map]
    exact List.map_congr_left fun x _ => key_revised _ x
  obtain ⟨-, hrest, -⟩ := List.nodup_append.1 (Diff.nodup_changedKeys hd hx)
  obtain ⟨hupdates, hdeletes, -⟩ := List.nodup_append.1 hrest
  have hupdated : (Diff.of ds xs).toUpdate.map Item.key ⊆
      (xs ++ (Diff.of ds xs).toCreate).map Item.key := by
    rw [Diff.of_eq hd hx, List.map_append]
    intro k hk
    obtain ⟨d, hd', rfl⟩ := List.mem_map.1 hk
    obtain ⟨x, hpx, -⟩ := verdict_eq_update_iff.1 (of_decide_eq_true (List.mem_filter.1 hd').2)
    obtain ⟨hmem, hkey⟩ := (partner_eq_some_iff hx).1 hpx
    exact List.mem_append_left _ (hkey ▸ List.mem_map_of_mem hmem)
  have hdeleted : (Diff.of ds xs).toDelete.map Item.key ⊆
      (xs ++ (Diff.of ds xs).toCreate).map Item.key := by
    rw [Diff.of_eq hd hx, List.map_append]
    exact fun k hk => List.mem_append_left _ ((List.filter_sublist.map _).subset hk)
  have hremove := script_remove _ (hkeys ▸ hcreated) hdeletes (hkeys ▸ hdeleted)
  exact (script_add _ hcreated).append
    ((script_replace _ hcreated hupdates hupdated).append hremove)

/-- **A difference is a shortest edit script.**  Its changes leave nothing to be
    done, and no script that leaves nothing to be done has fewer edits. -/
theorem shortest_script (hrefl : ∀ x : α, Item.agrees x x = true) (hd : (ds.map Item.key).Nodup)
    (hx : (xs.map Item.key).Nodup) :
    let diff := Diff.of ds xs
    let after := diff.applyTo xs
    ((Diff.of ds after).hasChanges = false ∧ (Diff.of ds after).unchanged = ds.map Item.key) ∧
      (Script diff.script xs after ∧ diff.script.length = diff.totalChanges) ∧
      ∀ es ys, Script es xs ys → (Diff.of ds ys).hasChanges = false →
        diff.totalChanges ≤ es.length := by
  intro diff after
  refine ⟨?_, ⟨script_of hd hx, diff.length_script⟩, fun es ys hscript hsync => ?_⟩
  · rw [Diff.of_applyTo hrefl hd hx]
    exact ⟨rfl, rfl⟩
  · have hle := hscript.totalChanges_le hd hx
    rwa [Diff.hasChanges_eq_false_iff.1 hsync, Nat.zero_add] at hle

theorem shortest_script_policies :
    let policy : String → String → Policy := fun name rules => ⟨name, rules, "acl", "", "http://a"⟩
    let ds := [policy "app" "read", policy "dev" "write", policy "ops" "list"]
    let xs := [policy "dev" "read", policy "old" "list", policy "ops" "list"]
    let after := [policy "dev" "write", policy "ops" "list", policy "app" "read"]
    (Diff.of ds xs).applyTo xs = after ∧ (Diff.of ds after).hasChanges = false ∧
      Script (Diff.of ds xs).script xs after ∧
      ∀ es ys, Script es xs ys → (Diff.of ds ys).hasChanges = false → 3 ≤ es.length := by
  intro policy ds xs after
  have hrefl : ∀ p : Policy, Item.agrees p p = true := fun p => by simp [Item.agrees]
  have happly : (Diff.of ds xs).applyTo xs = after := by decide
  obtain ⟨⟨hchanges, -⟩, ⟨hscript, -⟩, hshortest⟩ :=
    @shortest_script Policy _ ds xs hrefl (by decide) (by decide)
  rw [happly] at hchanges hscript
  exact ⟨happly, hchanges, hscript, hshortest⟩

end Concord
