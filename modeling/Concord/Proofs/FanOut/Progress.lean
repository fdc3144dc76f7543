/-
  Every fan-out comes to its end: each item is given to a unit, each unit ends
  and is joined, and all slots are waited for.

  While items are left, the slot of the next unit is not asked for yet, waited
  for, or granted but not looked at (`Slots`); whatever the schedule, the slots
  of the running units make up the rest of the pool.  The items are those that
  are joined, those whose units have ended or are running, and those that are
  not started (`Accounted`).  A round of a fan-out that goes on by itself starts
  a unit, ends one, joins one or is the last, so that one more than three times
  as many rounds as there are items are enough.

  * `Sound`: what every move keeps.
  * `Stepwise.perform`: what holds at the end of a fan-out.
-/
import Mathlib.Data.List.Forall2
import Mathlib.Data.List.Nodup
import Mathlib.Data.List.Perm.Basic
import Mathlib.Data.List.TakeDrop
import Concord.Proofs.FanOut.Steps

namespace Concord.FanOut

variable {ι ρ : Type} {n k : Nat} {items : List ι} {Q : ι → Except String ρ → Prop}
  {f : FanOut ι ρ} {pool : Pool Nat}

/-! ## The invariant -/

/-- The items with their positions. -/
def placed (items : List ι) : List (Nat × ι) := items.mapIdx Prod.mk

/-- The slot of the next unit, and how many slots there are besides it and
    those of the running units. -/
inductive Slots (n : Nat) (f : FanOut ι ρ) : Prop where
  | unasked (queue : f.pool.queue = []) (ready : f.pool.ready = [])
      (free : f.pool.free + f.running.length = n)
  | awaited (item : f.waiting ≠ []) (queue : f.pool.queue = [⟨f.next, .slot, 0⟩])
      (ready : f.pool.ready = []) (free : f.pool.free = 0) (full : f.running.length = n)
  | granted (item : f.waiting ≠ []) (queue : f.pool.queue = [])
      (ready : f.pool.ready = [⟨f.next, .slot, 1⟩])
      (free : f.pool.free + f.running.length + 1 = n)

theorem Slots.congr (h : Slots n f) {f' : FanOut ι ρ} (hpool : f'.pool = f.pool)
    (hnext : f'.next = f.next) (hwaiting : f'.waiting = f.waiting)
    (hrunning : f'.running = f.running) : Slots n f' := by
  cases h with
  | unasked hq hr hf => exact .unasked (hpool ▸ hq) (hpool ▸ hr) (hpool ▸ hrunning ▸ hf)
  | awaited hi hq hr hf hfull =>
    exact .awaited (hwaiting ▸ hi) (hpool ▸ hnext ▸ hq) (hpool ▸ hr) (hpool ▸ hf) (hrunning ▸ hfull)
  | granted hi hq hr hf =>
    exact .granted (hwaiting ▸ hi) (hpool ▸ hq) (hpool ▸ hnext ▸ hr) (hpool ▸ hrunning ▸ hf)

/-- The units that are joined and those that have ended and are not, with what
    they ended with. -/
structure Accounted (items : List ι) (Q : ι → Except String ρ → Prop) (f : FanOut ι ρ)
    (joined unjoined : List ((Nat × ι) × Except String ρ)) : Prop where
  /-- Each item that was started has one unit. -/
  perm : (joined.map (·.1) ++ (unjoined.map (·.1) ++ f.running)).Perm ((placed items).take f.next)
  /-- A unit ends with something that its work can come to. -/
  able : ∀ e ∈ joined ++ unjoined, Q e.1.2 e.2
  ended : f.ended = unjoined.map (·.2)
  results : f.results = joined.filterMap (·.2.toOption)
  failure : f.failure = joined.findSome? (panic? ·.2)

/-- A state that a fan-out of `items` over a pool of size `n` can be in, where a
    unit can end as `Q` says. -/
structure Sound (n : Nat) (items : List ι) (Q : ι → Except String ρ → Prop) (f : FanOut ι ρ) :
    Prop where
  size : f.pool.size = n
  finished : f.pool.finished = []
  held : f.pool.held = f.running.map (·.1)
  slots : Slots n f
  waiting : f.waiting = items.drop f.next
  next_le : f.next ≤ items.length
  inOrder : f.running.Sublist ((placed items).take f.next)
  accounted : ∃ joined unjoined, Accounted items Q f joined unjoined
  /-- Units are joined when all are started. -/
  unjoined : f.waiting ≠ [] → f.results = [] ∧ f.failure = none
  closed : f.closed = true → f.allJoined = true
  peak : f.running.length ≤ f.peak ∧ f.peak ≤ n

theorem eq_of_ofSize (h : Pool.ofSize n = .ok pool) : pool = ⟨n, n, [], [], [], []⟩ ∧ 1 ≤ n := by
  unfold Pool.ofSize at h
  split at h <;> cases h
  exact ⟨rfl, by omega⟩

theorem sound_start (h : Pool.ofSize n = .ok pool) (items : List ι)
    (Q : ι → Except String ρ → Prop) : Sound n items Q (start pool items) := by
  obtain ⟨rfl, -⟩ := eq_of_ofSize h
  exact
    { size := rfl
      finished := rfl
      held := rfl
      slots := .unasked rfl rfl rfl
      waiting := rfl
      next_le := Nat.zero_le _
      inOrder := .slnil
      accounted := ⟨[], [], .nil, by simp, rfl, rfl, rfl⟩
      unjoined := fun _ => ⟨rfl, rfl⟩
      closed := fun hclosed => (nomatch hclosed)
      peak := ⟨Nat.le_refl _, Nat.zero_le _⟩ }

/-! ## Positions -/

theorem map_fst_placed (items : List ι) : (placed items).map (·.1) = List.range items.length := by
  refine List.ext_getElem? fun k => ?_
  rw [placed, List.getElem?_map, List.getElem?_mapIdx]
  by_cases hk : k < items.length
  · simp [hk]
  · simp [hk]

theorem map_snd_placed (items : List ι) : (placed items).map (·.2) = items := by
  refine List.ext_getElem? fun k => ?_
  rw [placed, List.getElem?_map, List.getElem?_mapIdx]
  cases items[k]? <;> rfl

theorem take_placed_succ {x : ι} {rest : List ι} {k : Nat} (h : items.drop k = x :: rest) :
    (placed items).take (k + 1) = (placed items).take k ++ [(k, x)] := by
  have hget : items[k]? = some x := by
    rw [← List.head?_drop, h]
    rfl
  rw [List.take_add_one, placed, List.getElem?_mapIdx, hget]
  rfl

/-- The slots that are held are held under positions before the next one, each
    under its own. -/
theorem Sound.held_sublist (h : Sound n items Q f) : f.pool.held.Sublist (List.range f.next) := by
  have hsub := h.inOrder.map (·.1)
  rwa [List.map_take, map_fst_placed, List.take_range, Nat.min_eq_left h.next_le, ← h.held] at hsub

theorem Sound.next_not_held (h : Sound n items Q f) : f.next ∉ f.pool.held :=
  fun hp => Nat.lt_irrefl _ (List.mem_range.1 (h.held_sublist.subset hp))

/-- What is left of the running units when one of them has ended. -/
theorem Sound.held_erase (h : Sound n items Q f) (hk : k < f.running.length) :
    f.pool.held.erase f.running[k].1 = (f.running.eraseIdx k).map (·.1) := by
  have hnodup : (f.running.map (·.1)).Nodup := h.held ▸ List.nodup_range.sublist h.held_sublist
  have hk' : k < (f.running.map (·.1)).length := by simpa using hk
  have hget : f.running[k].1 = (f.running.map (·.1))[k] := by simp
  rw [h.held, hget, List.Nodup.erase_getElem hnodup, List.eraseIdx_map]

/-! ## Starting a unit -/

/-- Asking for the slot of the next unit: it is there, or all slots are held. -/
theorem Sound.asked_slot (h : Sound n items Q f) :
    (f.asked .slot = (.held, ⟨n, n - (f.running.length + 1), [], [], f.pool.held ++ [f.next], []⟩) ∧
        f.running.length + 1 ≤ n) ∨
      (f.asked .slot = (.pending, ⟨n, 0, [⟨f.next, .slot, 0⟩], [], f.pool.held, []⟩) ∧
        f.running.length = n) := by
  have hheld := h.next_not_held
  have hsize := h.size
  have hfinished := h.finished
  have hslots := h.slots
  clear h
  obtain ⟨⟨size, free, queue, ready, held, finished⟩, next, waiting, running, ended, results,
    failure, closed, peak⟩ := f
  dsimp only at hheld hsize hfinished
  subst hsize hfinished
  cases hslots with
  | unasked hq hr hf =>
    dsimp only at hq hr hf
    subst hq hr
    by_cases hfree : 1 ≤ free
    · refine Or.inl ⟨?_, by dsimp only; omega⟩
      simp [asked, Pool.poll, Pool.request, Pool.wanted, Pool.settle, hheld, hfree]
      omega
    · refine Or.inr ⟨?_, by dsimp only; omega⟩
      have hzero : free = 0 := by omega
      simp [asked, Pool.poll, Pool.request, Pool.wanted, hheld, hzero]
  | awaited _ hq hr hf hfull =>
    dsimp only at hq hr hf hfull
    subst hq hr hf
    exact Or.inr ⟨by simp [asked, Pool.poll, hheld], hfull⟩
  | granted _ hq hr hf =>
    dsimp only at hq hr hf
    subst hq hr
    refine Or.inl ⟨?_, by dsimp only; omega⟩
    simp [asked, Pool.poll, Pool.settle, hheld]
    omega

/-- A launch starts the next unit, or leaves all but the pool as it is while
    there is no item or no slot left. -/
theorem Sound.launch (h : Sound n items Q f) : Sound n items Q f.launch ∧
    f.launch.ended = f.ended ∧ f.launch.closed = f.closed ∧
    ((f.launch.next = f.next + 1 ∧ f.waiting.length = f.launch.waiting.length + 1 ∧
        f.launch.running.length = f.running.length + 1) ∨
      (f.launch.next = f.next ∧ f.launch.waiting = f.waiting ∧ f.launch.running = f.running ∧
        (f.waiting = [] ∨ f.running.length = n))) := by
  cases hw : f.waiting with
  | nil =>
    rw [launch_of_nil hw]
    exact ⟨h, rfl, rfl, Or.inr ⟨rfl, hw, rfl, Or.inl rfl⟩⟩
  | cons x rest =>
    have hdrop : items.drop f.next = x :: rest := h.waiting ▸ hw
    have hne : f.waiting ≠ [] := by simp [hw]
    have hopen : f.closed ≠ true := fun hclosed => hne (allJoined_iff.1 (h.closed hclosed)).1
    obtain ⟨joined, unjoined, hacc⟩ := h.accounted
    rw [launch_of_cons hw]
    rcases h.asked_slot with ⟨ha, hle⟩ | ⟨ha, hfull⟩
    · have hrest : rest = items.drop (f.next + 1) := by
        rw [← List.drop_drop, hdrop]
        rfl
      have hnext : f.next + 1 ≤ items.length := by
        have hlen := congrArg List.length hdrop
        simp only [List.length_drop, List.length_cons] at hlen
        omega
      have hpeak := h.peak
      have hperm := hacc.perm.append_right [(f.next, x)]
      rw [← take_placed_succ hdrop] at hperm
      rw [ha, if_pos rfl]
      refine ⟨{
        size := rfl
        finished := rfl
        held := by simp [h.held]
        slots := .unasked rfl rfl (by simp only [List.length_append, List.length_singleton]; omega)
        waiting := hrest
        next_le := hnext
        inOrder := take_placed_succ hdrop ▸ h.inOrder.append_right _
        accounted := ⟨joined, unjoined, { hacc with
          perm := by simpa only [List.append_assoc] using hperm }⟩
        unjoined := fun _ => h.unjoined hne
        closed := fun hclosed => absurd hclosed hopen
        peak := by simp only [List.length_append, List.length_singleton]; omega }, rfl, rfl,
        Or.inl ⟨rfl, rfl, by simp⟩⟩
    · rw [ha, if_neg (by simp)]
      exact ⟨{ h with
        size := rfl
        finished := rfl
        slots := .awaited hne rfl rfl rfl hfull
        accounted := ⟨joined, unjoined, { hacc with }⟩
        closed := fun hclosed => absurd hclosed hopen }, rfl, rfl,
        Or.inr ⟨rfl, hw, rfl, Or.inr hfull⟩⟩

/-! ## Ending a unit -/

/-- The pool after a slot is given back: the next unit has it if it waits. -/
theorem Slots.release {p : Nat} (h : Slots n f) (hp : p ∈ f.pool.held) {f' : FanOut ι ρ}
    (hpool : f'.pool = (f.pool.release p).2) (hnext : f'.next = f.next)
    (hwaiting : f'.waiting = f.waiting) (hlen : f'.running.length + 1 = f.running.length) :
    Slots n f' := by
  rw [Pool.release_of_held hp] at hpool
  cases h with
  | unasked hq hr hf =>
    refine .unasked ?_ ?_ ?_
    · simp [hpool, Pool.give, hq, Pool.distribute]
    · simp [hpool, Pool.give, hq, hr, Pool.distribute]
    · simp only [hpool, Pool.give, hq, Pool.distribute]
      omega
  | awaited hi hq hr hf hfull =>
    refine .granted (hwaiting ▸ hi) ?_ ?_ ?_
    · simp [hpool, Pool.give, hq, Pool.distribute, Pool.wanted]
    · simp [hpool, hnext, Pool.give, hq, hr, Pool.distribute, Pool.wanted]
    · simp only [hpool, Pool.give, hq, hf, Pool.distribute, Pool.wanted]
      simp only [Nat.sub_zero, Nat.le_refl, if_true]
      omega
  | granted hi hq hr hf =>
    refine .granted (hwaiting ▸ hi) ?_ ?_ ?_
    · simp [hpool, Pool.give, hq, Pool.distribute]
    · simp [hpool, hnext, Pool.give, hq, hr, Pool.distribute]
    · simp only [hpool, Pool.give, hq, Pool.distribute]
      omega

/-- The end of a unit gives its slot back and leaves what it ended with. -/
theorem Sound.leave (h : Sound n items Q f) {e : Nat × ι} (hk : f.running[k]? = some e)
    {left : Except String ρ} (hleft : Q e.2 left) :
    Sound n items Q (f.leave k left) ∧ (f.leave k left).waiting = f.waiting ∧
      (f.leave k left).running.length + 1 = f.running.length ∧
      (f.leave k left).ended.length = f.ended.length + 1 ∧ (f.leave k left).closed = f.closed := by
  obtain ⟨hlt, rfl⟩ := List.getElem?_eq_some_iff.1 hk
  have hmem : f.running[k].1 ∈ f.pool.held := h.held ▸ List.mem_map_of_mem (List.getElem_mem hlt)
  have hlen : (f.running.eraseIdx k).length + 1 = f.running.length := by
    rw [List.length_eraseIdx_of_lt hlt]
    omega
  have hopen : f.closed ≠ true := fun hclosed => by
    simp [(allJoined_iff.1 (h.closed hclosed)).2.1] at hlt
  obtain ⟨joined, unjoined, hacc⟩ := h.accounted
  have hacc' : Accounted items Q (f.leave k left) joined
      (unjoined ++ [(f.running[k], left)]) := by
    rw [leave_of_some hk]
    refine { hacc with perm := ?_, able := ?_, ended := by simp [hacc.ended] }
    · refine List.Perm.trans (List.Perm.append_left _ ?_) hacc.perm
      rw [List.map_append, List.append_assoc]
      exact (List.getElem_cons_eraseIdx_perm hlt).append_left _
    · intro e he
      rw [← List.append_assoc, List.mem_append, List.mem_singleton] at he
      rcases he with he | rfl
      · exact hacc.able e he
      · exact hleft
  rw [leave_of_some hk] at hacc' ⊢
  exact ⟨{ h with
    size := (congrArg (·.2.size) (Pool.release_of_held hmem)).trans h.size
    finished := (congrArg (·.2.finished) (Pool.release_of_held hmem)).trans h.finished
    held := (congrArg (·.2.held) (Pool.release_of_held hmem)).trans (h.held_erase hlt)
    slots := h.slots.release hmem rfl rfl rfl hlen
    inOrder := (List.eraseIdx_sublist ..).trans h.inOrder
    accounted := ⟨joined, _, hacc'⟩
    closed := fun hclosed => absurd hclosed hopen
    peak := ⟨Nat.le_trans (List.length_eraseIdx_le ..) h.peak.1, h.peak.2⟩ }, rfl, hlen, by simp,
    rfl⟩

/-! ## Joining a unit -/

/-- A unit that has ended is joined, unless items are left: its result is there,
    or its panic if it is the first. -/
theorem Sound.join (h : Sound n items Q f) (k : Nat) :
    Sound n items Q (f.join k) ∧ (f.join k).waiting = f.waiting ∧
      (f.join k).running = f.running ∧ (f.join k).closed = f.closed ∧
      (f.waiting = [] → k < f.ended.length → (f.join k).ended.length + 1 = f.ended.length) := by
  cases hw : f.waiting with
  | cons x rest =>
    rw [join_of_cons hw]
    exact ⟨h, hw, rfl, rfl, fun hnil => (nomatch hnil)⟩
  | nil =>
    cases hk : f.ended[k]? with
    | none =>
      rw [join_of_none hk]
      have hle := Nat.not_lt.2 (List.getElem?_eq_none_iff.1 hk)
      exact ⟨h, hw, rfl, rfl, fun _ hlt => absurd hlt hle⟩
    | some left =>
      obtain ⟨joined, unjoined, hacc⟩ := h.accounted
      obtain ⟨hlt, -⟩ := List.getElem?_eq_some_iff.1 hk
      have hopen : f.closed ≠ true := fun hclosed => by
        simp [(allJoined_iff.1 (h.closed hclosed)).2.2] at hlt
      -- the unit that is joined, among those that have ended
      have hk' : (unjoined.map (·.2))[k]? = some left := hacc.ended ▸ hk
      rw [List.getElem?_map, Option.map_eq_some_iff] at hk'
      obtain ⟨e, he, rfl⟩ := hk'
      obtain ⟨hlt', rfl⟩ := List.getElem?_eq_some_iff.1 he
      have hmoved : ((joined ++ [unjoined[k]]) ++ unjoined.eraseIdx k).Perm
          (joined ++ unjoined) := by
        rw [List.append_assoc]
        exact (List.getElem_cons_eraseIdx_perm hlt').append_left _
      have hacc' :
          Accounted items Q (f.join k) (joined ++ [unjoined[k]]) (unjoined.eraseIdx k) := by
        rw [join_of_some hw hk]
        refine { perm := ?_, able := fun e he => hacc.able e (hmoved.mem_iff.1 he),
                 ended := by simp [hacc.ended, List.eraseIdx_map], results := ?_, failure := ?_ }
        · refine List.Perm.trans ?_ hacc.perm
          rw [← List.append_assoc, ← List.append_assoc, ← List.map_append, ← List.map_append]
          exact (hmoved.map _).append_right _
        · cases hleft : unjoined[k].2 <;> simp [hacc.results, hleft, Except.toOption]
        · cases hleft : unjoined[k].2 <;> simp [hacc.failure, hleft, List.findSome?_append, panic?]
      rw [join_of_some hw hk] at hacc' ⊢
      refine ⟨{ h with
        slots := h.slots.congr rfl rfl rfl rfl
        accounted := ⟨_, _, hacc'⟩
        unjoined := fun hne => absurd hw hne
        closed := fun hclosed => absurd hclosed hopen }, hw, rfl, rfl, fun _ _ => ?_⟩
      rw [List.length_eraseIdx_of_lt hlt]
      omega

/-! ## Waiting for all slots -/

/-- When every unit has ended and no item is left, the pool is as it was. -/
theorem Sound.pool_eq (h : Sound n items Q f) (hpool : Pool.ofSize n = .ok pool)
    (hw : f.waiting = []) (hr : f.running = []) : f.pool = pool := by
  have hheld := h.held
  have hsize := h.size
  have hfinished := h.finished
  rw [hr, List.map_nil] at hheld
  obtain ⟨rfl, -⟩ := eq_of_ofSize hpool
  cases h.slots with
  | unasked hq hready hf =>
    rw [hr, List.length_nil, Nat.add_zero] at hf
    clear h
    obtain ⟨⟨size, free, queue, ready, held, finished⟩⟩ := f
    simp_all
  | awaited hi => exact absurd hw hi
  | granted hi => exact absurd hw hi

/-- Once every unit is joined, nobody has to wait for all slots. -/
theorem Sound.await_of_allJoined (h : Sound n items Q f) (hn : Pool.ofSize n = .ok pool)
    (hj : f.allJoined = true) (hclosed : f.closed = false) :
    f.await = { f with closed := true } := by
  obtain ⟨hw, hr, -⟩ := allJoined_iff.1 hj
  have hpool := h.pool_eq hn hw hr
  obtain ⟨rfl, -⟩ := eq_of_ofSize hn
  have hasked : f.asked .all = (.done, ⟨n, n, [], [], [], [f.next]⟩) := by
    simp [asked, hpool, Pool.poll, Pool.request, Pool.wanted, Pool.settle, Pool.give,
      Pool.distribute]
  rw [FanOut.await_of_allJoined hj hclosed, hasked, if_pos rfl, hpool]
  simp [Pool.release]

theorem Sound.await (h : Sound n items Q f) (hn : Pool.ofSize n = .ok pool) :
    Sound n items Q f.await ∧ f.await.waiting = f.waiting ∧ f.await.running = f.running ∧
      f.await.ended = f.ended ∧ (f.allJoined = true → f.await.closed = true) := by
  by_cases hj : f.allJoined = true ∧ f.closed = false
  · rw [h.await_of_allJoined hn hj.1 hj.2]
    obtain ⟨joined, unjoined, hacc⟩ := h.accounted
    exact ⟨{ h with
      slots := h.slots.congr rfl rfl rfl rfl
      accounted := ⟨joined, unjoined, { hacc with }⟩
      closed := fun _ => hj.1 }, rfl, rfl, rfl, fun _ => rfl⟩
  · have hnot : f.allJoined = false ∨ f.closed = true := by
      rw [Classical.not_and_iff_not_or_not] at hj
      simpa using hj
    rw [await_of_not hnot]
    exact ⟨h, rfl, rfl, rfl, fun hall => hnot.resolve_left (by simp [hall])⟩

/-! ## Whole fan-outs -/

/-- At the end each item has been given to one unit, which is joined. -/
theorem Sound.complete (h : Sound n items Q f) (hw : f.waiting = []) (hr : f.running = [])
    (hended : f.ended = []) : ∃ joined : List (ι × Except String ρ),
      (joined.map (·.1)).Perm items ∧ (∀ e ∈ joined, Q e.1 e.2) ∧
      f.results = joined.filterMap (·.2.toOption) ∧ f.failure = joined.findSome? (panic? ·.2) := by
  obtain ⟨joined, unjoined, hacc⟩ := h.accounted
  have hnone : unjoined = [] := List.map_eq_nil_iff.1 (hacc.ended ▸ hended)
  have hnext : items.length ≤ f.next := List.drop_eq_nil_iff.1 (h.waiting ▸ hw)
  have hlen : (placed items).length = items.length := List.length_mapIdx
  have hperm := hacc.perm
  rw [hnone, hr, List.map_nil, List.append_nil, List.append_nil,
    List.take_of_length_le (hlen ▸ hnext)] at hperm
  have hitems := hperm.map (·.2)
  rw [map_snd_placed, List.map_map] at hitems
  refine ⟨joined.map fun e => (e.1.2, e.2), ?_, fun e he => ?_, ?_, ?_⟩
  · rwa [List.map_map]
  · obtain ⟨u, hu, rfl⟩ := List.mem_map.1 he
    exact hacc.able u (List.mem_append_left _ hu)
  · rw [hacc.results, List.filterMap_map]
    rfl
  · rw [hacc.failure, List.findSome?_map]
    rfl

/-- How many rounds are needed at most: an item that is not started takes three,
    a unit that is running two and one that has ended one, and the end takes
    one. -/
def remaining (f : FanOut ι ρ) : Nat :=
  3 * f.waiting.length + 2 * f.running.length + f.ended.length + if f.closed then 0 else 1

theorem Sound.remaining_le (h : Sound n items Q f) : remaining f ≤ 3 * items.length + 1 := by
  obtain ⟨joined, unjoined, hacc⟩ := h.accounted
  have hlen := hacc.perm.length_eq
  have hw := congrArg List.length h.waiting
  have hended := congrArg List.length hacc.ended
  have hclosed : (if f.closed then 0 else 1) ≤ 1 := by split <;> omega
  simp only [List.length_append, List.length_map, List.length_take, placed, List.length_mapIdx,
    List.length_drop] at hlen hw hended
  unfold remaining
  omega

theorem remaining_eq_zero_iff :
    remaining f = 0 ↔ f.waiting = [] ∧ f.running = [] ∧ f.ended = [] ∧ f.closed = true := by
  simp [remaining, and_assoc, Nat.mul_eq_zero]

namespace Stepwise

variable {m : Type → Type} [Monad m] {H : ∀ {α : Type}, (α → Prop) → m α → Prop}
  {work : ι → m (Except String ρ)}

theorem move (S : Stepwise m H) (hn : Pool.ofSize n = .ok pool) (hwork : ∀ x, H (Q x) (work x))
    (h : Sound n items Q f) (a : Move) : H (Sound n items Q) (f.move work a) := by
  cases a with
  | launch => exact S.pure h.launch.1
  | finish k => exact S.finish hwork (fun e hk left hleft => (h.leave hk hleft).1) fun _ => h
  | join k => exact S.pure (h.join k).1
  | await => exact S.pure (h.await hn).1

/-- The move of a fan-out that cannot launch brings it nearer to its end. -/
theorem onward (S : Stepwise m H) (hn : Pool.ofSize n = .ok pool) (hwork : ∀ x, H (Q x) (work x))
    (h : Sound n items Q f) (hfull : f.waiting = [] ∨ f.running.length = n) {rounds : Nat}
    (hm : remaining f ≤ rounds + 1) :
    H (fun g => Sound n items Q g ∧ remaining g ≤ rounds) (f.move work f.onward) := by
  unfold FanOut.onward
  unfold remaining at hm
  by_cases hr : f.running = []
  · -- with no unit running there is a slot, so nothing is left to be started
    have hw : f.waiting = [] := hfull.resolve_right fun hlen => by
      have := (eq_of_ofSize hn).2
      simp [hr] at hlen
      omega
    rw [if_neg (not_not.2 hr)]
    by_cases hended : f.ended = []
    · obtain ⟨hs, hw', hr', hended', hclosed⟩ := h.await hn
      have hdone := hclosed (allJoined_iff.2 ⟨hw, hr, hended⟩)
      have hzero : remaining f.await = 0 := remaining_eq_zero_iff.2
        ⟨hw'.trans hw, hr'.trans hr, hended'.trans hended, hdone⟩
      rw [if_neg (not_not.2 hended)]
      exact S.pure ⟨hs, hzero ▸ Nat.zero_le _⟩
    · obtain ⟨hs, hw', hr', hclosed, hlen⟩ := h.join 0
      have hlen := hlen hw (List.length_pos_iff.2 hended)
      rw [if_pos hended]
      refine S.pure ⟨hs, ?_⟩
      unfold remaining
      rw [hw', hr', hclosed]
      omega
  · rw [if_pos hr]
    refine S.finish hwork (fun e hk left hleft => ?_) fun hk => ?_
    · obtain ⟨hs, hw', hr', hended, hclosed⟩ := h.leave hk hleft
      refine ⟨hs, ?_⟩
      unfold remaining
      rw [hw', hended, hclosed]
      omega
    · exact absurd (List.getElem?_eq_none_iff.1 hk) (Nat.not_le.2 (List.length_pos_iff.2 hr))

/-- **Every fan-out comes to its end**, with every unit joined and all slots
    waited for. -/
theorem perform (S : Stepwise m H) (hn : Pool.ofSize n = .ok pool)
    (hwork : ∀ x, H (Q x) (work x)) (schedule : List Move) (items : List ι) :
    H (fun f => Sound n items Q f ∧ f.waiting = [] ∧ f.running = [] ∧ f.ended = [] ∧
        f.closed = true)
      (perform pool schedule work items) := by
  refine S.bind (S.follow (fun f a h => S.move hn hwork h a) schedule (sound_start hn items Q))
    fun f h => ?_
  refine S.mono (S.drain (p := fun rounds f => Sound n items Q f ∧ remaining f ≤ rounds)
    (fun rounds f ⟨h, hm⟩ => ?_) _ ⟨h, h.remaining_le⟩)
    fun f ⟨h, hm⟩ => ⟨h, remaining_eq_zero_iff.1 (Nat.le_zero.1 hm)⟩
  obtain ⟨hs, hended, hclosed, ⟨hnext, hw, hr⟩ | ⟨hnext, hw, hr, hfull⟩⟩ := h.launch
  · refine ⟨fun _ => ⟨hs, ?_⟩, fun heq => absurd heq (by omega)⟩
    unfold remaining at *
    rw [hended, hclosed]
    omega
  · have hsame : remaining f.launch = remaining f := by
      unfold remaining
      rw [hw, hr, hended, hclosed]
    exact ⟨fun hne => absurd hnext hne,
      fun _ => S.onward hn hwork hs (hw ▸ hr ▸ hfull) (hsame ▸ hm)⟩

/-- Where no unit panics, there is a result for every item, in the order in
    which the units are joined. -/
theorem results (S : Stepwise m H) (hn : Pool.ofSize n = .ok pool) {P : ι → ρ → Prop}
    (hwork : ∀ x, H (fun left => ∃ r, left = .ok r ∧ P x r) (work x)) (schedule : List Move)
    (items : List ι) :
    H (fun f => ∃ order rs, order.Perm items ∧ List.Forall₂ P order rs ∧ f.outcome = .ok rs)
      (FanOut.perform pool schedule work items) := by
  refine S.mono (S.perform (Q := fun x left => ∃ r, left = .ok r ∧ P x r) hn hwork schedule items)
    fun f ⟨hs, hw, hr, hended, _⟩ => ?_
  obtain ⟨joined, hperm, hable, hresults, hfailure⟩ := hs.complete hw hr hended
  have hall : List.Forall₂ P (joined.map (·.1)) f.results ∧ f.failure = none := by
    rw [hresults, hfailure]
    clear hperm hresults hfailure
    induction joined with
    | nil => exact ⟨.nil, rfl⟩
    | cons e joined ih =>
      obtain ⟨hforall, hnone⟩ := ih fun e' he' => hable e' (List.mem_cons_of_mem e he')
      obtain ⟨x, left⟩ := e
      obtain ⟨r, rfl, hP⟩ := hable (x, left) List.mem_cons_self
      exact ⟨.cons hP hforall, hnone⟩
  exact ⟨_, _, hperm, hall.1, by rw [outcome, hall.2]⟩

end Stepwise

end Concord.FanOut
