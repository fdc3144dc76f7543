/-
  The permits of a pool: none is lost, none is made up, and requests have them
  in the order of their arrival.

  Between two events every permit is free, stands for a held slot, or belongs
  to a request that waits or is granted.  While an event is carried out some
  permits and some request are on their way from one place of the pool to
  another (`Balanced`); each small move takes them out of a place or puts them
  into one, and what an event does is put together of such moves.

  * `Reachable`: the states of a pool under any requests, with the requests
    that were not given up in the order of their arrival.
  * `Lawful`: what holds in every such state.
  * `pool_lawful`: that it does, which sizes a pool can have, and when a request
    for all slots is over.
-/
import Mathlib.Data.List.Nodup
import Mathlib.Data.List.Perm.Basic
import Concord.Pool.Basic

namespace Concord.Pool

variable {ι : Type}

/-- How many permits requests have. -/
def granted : List (Waiter ι) → Nat
  | [] => 0
  | w :: ws => w.got + granted ws

/-- The handles of requests. -/
def handles (ws : List (Waiter ι)) : List ι := ws.map (·.handle)

/-- The handles of the requests that have all they want or had it. -/
def satisfied (p : Pool ι) : List ι := p.held ++ (p.finished ++ handles p.ready)

/-- The states of a pool of `n` slots, each with the requests that were not
    given up, oldest first.  A request is made under a handle that is not in
    use; handles are looked at and given up at will. -/
inductive Reachable [DecidableEq ι] (n : Nat) : List ι → Pool ι → Prop
  | start {p} : ofSize n = .ok p → Reachable n [] p
  | acquire {live p x} : Reachable n live p → x ∉ live →
      Reachable n (live ++ [x]) (p.acquire x).2
  | awaitAll {live p x} : Reachable n live p → x ∉ live →
      Reachable n (live ++ [x]) (p.awaitAll x).2
  | poll {live p} (x) : Reachable n live p → Reachable n live (p.poll x).2
  | release {live p} (x) : Reachable n live p → Reachable n (live.erase x) (p.release x).2

@[simp] theorem granted_nil : granted ([] : List (Waiter ι)) = 0 := rfl

@[simp] theorem granted_cons (w : Waiter ι) (ws : List (Waiter ι)) :
    granted (w :: ws) = w.got + granted ws := rfl

@[simp] theorem granted_append (ws vs : List (Waiter ι)) :
    granted (ws ++ vs) = granted ws + granted vs := by
  induction ws with
  | nil => simp
  | cons w ws ih => rw [List.cons_append, granted_cons, granted_cons, ih, Nat.add_assoc]

theorem granted_eq_zero {ws : List (Waiter ι)} (h : ∀ w ∈ ws, w.got = 0) : granted ws = 0 := by
  induction ws with
  | nil => rfl
  | cons w ws ih =>
    rw [granted_cons, h w List.mem_cons_self, ih fun v hv => h v (List.mem_cons_of_mem w hv)]

theorem granted_perm {ws vs : List (Waiter ι)} (h : ws.Perm vs) : granted ws = granted vs := by
  induction h with
  | nil => rfl
  | cons w _ ih => rw [granted_cons, granted_cons, ih]
  | swap w v ws =>
    simp only [granted_cons]
    omega
  | trans _ _ ih₁ ih₂ => exact ih₁.trans ih₂

@[simp] theorem handles_cons (w : Waiter ι) (ws : List (Waiter ι)) :
    handles (w :: ws) = w.handle :: handles ws := rfl

@[simp] theorem handles_append (ws vs : List (Waiter ι)) :
    handles (ws ++ vs) = handles ws ++ handles vs := by
  simp [handles]

theorem wanted_pos {n : Nat} (hn : 1 ≤ n) (purpose : Purpose) : 0 < wanted n purpose := by
  cases purpose
  · exact Nat.one_pos
  · exact hn

theorem wanted_le {n : Nat} (hn : 1 ≤ n) (purpose : Purpose) : wanted n purpose ≤ n := by
  cases purpose
  · exact hn
  · exact Nat.le_refl n

/-! ## Handing out -/

/-- What is left, who is served and who still waits after `k` permits are
    handed to a queue. -/
structure Handed (n k : Nat) (ws : List (Waiter ι)) (left : Nat) (served waiting : List (Waiter ι)) :
    Prop where
  permits : left + granted served + granted waiting = k + granted ws
  order : handles served ++ handles waiting = handles ws
  served : ∀ w ∈ served, w.got = wanted n w.purpose
  lacking : ∀ w ∈ waiting, w.got < wanted n w.purpose
  behind : ∀ w ∈ waiting.tail, w.got = 0
  exhausted : waiting ≠ [] → left = 0

theorem distribute_of_le {n k : Nat} {w : Waiter ι} {r : List (Waiter ι)}
    (h : wanted n w.purpose - w.got ≤ k) :
    distribute n k (w :: r) =
      ((distribute n (k - (wanted n w.purpose - w.got)) r).1,
        { w with got := w.got + (wanted n w.purpose - w.got) } ::
          (distribute n (k - (wanted n w.purpose - w.got)) r).2.1,
        (distribute n (k - (wanted n w.purpose - w.got)) r).2.2) := by
  rw [distribute, if_pos h]

theorem distribute_of_lt {n k : Nat} {w : Waiter ι} {r : List (Waiter ι)}
    (h : k < wanted n w.purpose - w.got) :
    distribute n k (w :: r) = (0, [], { w with got := w.got + k } :: r) := by
  rw [distribute, if_neg (Nat.not_le.2 h)]

/-- Permits go to a queue from its head on, where only the head has any. -/
theorem handed_distribute (n : Nat) : ∀ (k : Nat) (ws : List (Waiter ι)),
    (∀ w ∈ ws, w.got < wanted n w.purpose) → (∀ w ∈ ws.tail, w.got = 0) →
      Handed n k ws (distribute n k ws).1 (distribute n k ws).2.1 (distribute n k ws).2.2
  | k, [], _, _ => ⟨rfl, rfl, by simp [distribute], by simp [distribute], by simp [distribute],
      by simp [distribute]⟩
  | k, w :: r, hlack, hzero => by
    have hw := hlack w List.mem_cons_self
    by_cases henough : wanted n w.purpose - w.got ≤ k
    · rw [distribute_of_le henough]
      have ih := handed_distribute n (k - (wanted n w.purpose - w.got)) r
        (fun v hv => hlack v (List.mem_cons_of_mem w hv))
        fun v hv => hzero v (List.mem_of_mem_tail hv)
      refine ⟨?_, ?_, ?_, ih.lacking, ih.behind, ih.exhausted⟩
      · have := ih.permits
        simp only [granted_cons]
        omega
      · simp [← ih.order]
      · intro v hv
        rcases List.mem_cons.1 hv with rfl | hv
        · dsimp only
          omega
        · exact ih.served v hv
    · rw [distribute_of_lt (Nat.lt_of_not_le henough)]
      refine ⟨?_, rfl, by simp, ?_, hzero, fun _ => rfl⟩
      · simp only [granted_cons, granted_nil]
        omega
      · intro v hv
        rcases List.mem_cons.1 hv with rfl | hv
        · dsimp only
          omega
        · exact hlack v (List.mem_cons_of_mem w hv)

/-! ## The invariant -/

/-- The invariant while `m` permits and the requests `hand` are on their way
    from one place of the pool to another. -/
structure Balanced (n m : Nat) (hand live : List ι) (p : Pool ι) : Prop where
  pos : 1 ≤ n
  size : p.size = n
  permits : p.free + p.held.length + granted p.queue + granted p.ready + m = n
  served : ∀ w ∈ p.ready, w.got = wanted n w.purpose
  lacking : ∀ w ∈ p.queue, w.got < wanted n w.purpose
  behind : ∀ w ∈ p.queue.tail, w.got = 0
  exhausted : p.queue ≠ [] → p.free = 0
  nodup : live.Nodup
  order : ∃ first, live = first ++ handles p.queue ∧ first.Perm (hand ++ p.satisfied)

variable {n m k : Nat} {hand live : List ι} {p : Pool ι}

theorem Balanced.nodup_satisfied (h : Balanced n m hand live p) : p.satisfied.Nodup := by
  obtain ⟨first, hlive, hfirst⟩ := h.order
  have hnodup := (hlive ▸ h.nodup).of_append_left
  exact (hfirst.nodup_iff.1 hnodup).of_append_right

theorem Balanced.nodup_ready (h : Balanced n m hand live p) : (handles p.ready).Nodup :=
  h.nodup_satisfied.of_append_right.of_append_right

theorem Balanced.nodup_queue (h : Balanced n m hand live p) : (handles p.queue).Nodup := by
  obtain ⟨first, hlive, -⟩ := h.order
  exact (hlive ▸ h.nodup).of_append_right

theorem Balanced.mem_live_iff {x : ι} (h : Balanced n m [] live p) :
    x ∈ live ↔ x ∈ p.satisfied ∨ x ∈ handles p.queue := by
  obtain ⟨first, rfl, hfirst⟩ := h.order
  rw [List.mem_append, hfirst.mem_iff, List.nil_append]

theorem balanced_start (h : ofSize n = .ok p) : Balanced n 0 [] [] p := by
  unfold ofSize at h
  split at h
  · rename_i hn
    cases h
    exact ⟨hn.1, rfl, by simp, by simp, by simp, by simp, by simp, .nil, [], rfl, .nil⟩
  · cases h

/-! ## Small moves -/

theorem give_eq (p : Pool ι) (k : Nat) :
    p.give k =
      { p with
        free := p.free + (distribute p.size k p.queue).1
        ready := p.ready ++ (distribute p.size k p.queue).2.1
        queue := (distribute p.size k p.queue).2.2 } :=
  rfl

/-- Permits in hand go to the queue, and what is left becomes free. -/
theorem Balanced.give (h : Balanced n (m + k) hand live p) : Balanced n m hand live (p.give k) := by
  have hd := handed_distribute n k p.queue h.lacking h.behind
  rw [← h.size] at hd
  obtain ⟨first, hlive, hfirst⟩ := h.order
  rw [give_eq]
  refine ⟨h.pos, h.size, ?_, ?_, ?_, hd.behind, ?_, h.nodup, ?_⟩
  · have hp := h.permits
    have hq := hd.permits
    simp only [granted_append]
    omega
  · intro w hw
    rcases List.mem_append.1 hw with hw | hw
    · exact h.served w hw
    · exact h.size ▸ hd.served w hw
  · exact fun w hw => h.size ▸ hd.lacking w hw
  · intro hne
    dsimp only at hne ⊢
    rw [hd.exhausted hne]
    -- whoever still waits waited before
    refine h.exhausted fun hnil => hne ?_
    simp [hnil, distribute]
  · refine ⟨first ++ handles (distribute p.size k p.queue).2.1, ?_, ?_⟩
    · rw [hlive, ← hd.order, List.append_assoc]
    · refine (hfirst.append_right _).trans (List.Perm.of_eq ?_)
      simp [satisfied]

/-- A request that has all it wants is settled. -/
theorem Balanced.settle {w : Waiter ι} (h : Balanced n w.got [w.handle] live p)
    (hgot : w.got = wanted n w.purpose) : Balanced n 0 [] live (p.settle w).2 := by
  obtain ⟨first, hlive, hfirst⟩ := h.order
  unfold Pool.settle
  cases hw : w.purpose with
  | slot =>
    rw [hw] at hgot
    refine ⟨h.pos, h.size, ?_, h.served, h.lacking, h.behind, h.exhausted, h.nodup, first, hlive, ?_⟩
    · have := h.permits
      simp only [wanted] at hgot
      simp only [List.length_append, List.length_singleton]
      omega
    · refine hfirst.trans ?_
      simp only [satisfied, List.append_assoc, List.singleton_append, List.nil_append]
      exact List.perm_middle.symm
  | all =>
    refine Balanced.give (m := 0) ⟨h.pos, h.size, ?_, h.served, h.lacking, h.behind, h.exhausted,
      h.nodup, first, hlive, ?_⟩
    · have := h.permits
      simp only [Nat.zero_add]
      omega
    · refine hfirst.trans ?_
      simp only [satisfied, List.append_assoc, List.singleton_append, List.nil_append]
      exact List.perm_middle.symm.trans (List.perm_middle.symm.append_left _)

/-- With one of its requests taken out, a list is still the same up to order. -/
theorem perm_cons_filter [DecidableEq ι] {ws : List (Waiter ι)} {w : Waiter ι}
    (hn : (handles ws).Nodup) (hw : w ∈ ws) :
    ws.Perm (w :: ws.filter fun v => v.handle != w.handle) := by
  induction ws with
  | nil => cases hw
  | cons v ws ih =>
    obtain ⟨hv, hn⟩ := List.nodup_cons.1 hn
    rcases List.mem_cons.1 hw with rfl | hw
    · have hrest : (ws.filter fun u => u.handle != w.handle) = ws := by
        refine List.filter_eq_self.2 fun u hu => ?_
        have hne : u.handle ≠ w.handle := fun he => hv (List.mem_map.2 ⟨u, hu, he⟩)
        simpa using hne
      simp [hrest]
    · have hne : v.handle ≠ w.handle := fun he => hv (List.mem_map.2 ⟨w, hw, he.symm⟩)
      rw [List.filter_cons_of_pos (by simpa using hne)]
      exact ((ih hn hw).cons v).trans (.swap ..)

theorem handles_filter [DecidableEq ι] {ws : List (Waiter ι)} (hn : (handles ws).Nodup) (x : ι) :
    handles (ws.filter fun v => v.handle != x) = (handles ws).erase x := by
  rw [hn.erase_eq_filter, handles, handles, List.filter_map]
  rfl

section

variable [DecidableEq ι] {x : ι} {w : Waiter ι}

/-- A request that has all it wants is taken out. -/
theorem Balanced.takeReady (h : Balanced n 0 [] live p) (hw : w ∈ p.ready) :
    Balanced n w.got [w.handle] live
      { p with ready := p.ready.filter fun v => v.handle != w.handle } := by
  have hperm := perm_cons_filter h.nodup_ready hw
  obtain ⟨first, hlive, hfirst⟩ := h.order
  refine ⟨h.pos, h.size, ?_, fun v hv => h.served v (List.mem_of_mem_filter hv), h.lacking,
    h.behind, h.exhausted, h.nodup, first, hlive, hfirst.trans ?_⟩
  · have := h.permits
    rw [granted_perm hperm, granted_cons] at this
    dsimp only
    omega
  · have hhandles : (handles p.ready).Perm
        (w.handle :: handles (p.ready.filter fun v => v.handle != w.handle)) := hperm.map _
    refine (((hhandles.append_left _).append_left _)).trans ?_
    exact (List.perm_middle.append_left _).trans List.perm_middle

/-- A held slot is taken back. -/
theorem Balanced.takeHeld (h : Balanced n 0 [] live p) (hx : x ∈ p.held) :
    Balanced n 1 [x] live { p with held := p.held.erase x } := by
  obtain ⟨first, hlive, hfirst⟩ := h.order
  refine ⟨h.pos, h.size, ?_, h.served, h.lacking, h.behind, h.exhausted, h.nodup, first, hlive,
    hfirst.trans ((List.perm_cons_erase hx).append_right _)⟩
  have := h.permits
  have := List.length_erase_add_one hx
  dsimp only
  omega

/-- A request that is over is forgotten. -/
theorem Balanced.takeFinished (h : Balanced n 0 [] live p) (hx : x ∈ p.finished) :
    Balanced n 0 [x] live { p with finished := p.finished.erase x } := by
  obtain ⟨first, hlive, hfirst⟩ := h.order
  refine ⟨h.pos, h.size, h.permits, h.served, h.lacking, h.behind, h.exhausted, h.nodup, first,
    hlive, hfirst.trans ?_⟩
  exact (((List.perm_cons_erase hx).append_right _).append_left _).trans List.perm_middle

/-- A request that waits is taken out, with what it has. -/
theorem Balanced.takeQueue (h : Balanced n 0 [] live p) (hw : w ∈ p.queue) :
    Balanced n w.got [] (live.erase w.handle)
      { p with queue := p.queue.filter fun v => v.handle != w.handle } := by
  obtain ⟨first, hlive, hfirst⟩ := h.order
  have hmem : w.handle ∈ handles p.queue := List.mem_map_of_mem hw
  refine ⟨h.pos, h.size, ?_, h.served, fun v hv => h.lacking v (List.mem_of_mem_filter hv),
    ?_, fun hne => h.exhausted fun hnil => hne (by simp [hnil]), h.nodup.erase _, first, ?_, hfirst⟩
  · have := h.permits
    rw [granted_perm (perm_cons_filter h.nodup_queue hw), granted_cons] at this
    dsimp only
    omega
  · -- the new head is the old one or has nothing either
    have hbehind := h.behind
    cases hq : p.queue with
    | nil => simp
    | cons v r =>
      rw [hq] at hbehind
      intro u hu
      by_cases hv : v.handle = w.handle
      · simp only [List.filter_cons, hv, bne_self_eq_false] at hu
        exact hbehind u (List.mem_of_mem_filter (List.mem_of_mem_tail hu))
      · rw [List.filter_cons_of_pos (by simpa using hv)] at hu
        exact hbehind u (List.mem_of_mem_filter hu)
  · have hnotin : w.handle ∉ first :=
      fun hf => (List.nodup_append.1 (hlive ▸ h.nodup)).2.2 _ hf _ hmem rfl
    rw [hlive, List.erase_append_right _ hnotin, handles_filter h.nodup_queue]

/-- The request in hand is given up. -/
theorem Balanced.forget (h : Balanced n m [x] live p) : Balanced n m [] (live.erase x) p := by
  obtain ⟨first, hlive, hfirst⟩ := h.order
  have hmem : x ∈ first := hfirst.mem_iff.2 List.mem_cons_self
  refine ⟨h.pos, h.size, h.permits, h.served, h.lacking, h.behind, h.exhausted, h.nodup.erase _,
    first.erase x, ?_, ?_⟩
  · rw [hlive, List.erase_append_left _ hmem]
  · simpa using hfirst.erase x

end

/-! ## Events -/

/-- A new request for more than is free takes that and the last place in the
    queue. -/
theorem Balanced.enqueue {x : ι} (h : Balanced n 0 [] live p) (hx : x ∉ live) {purpose : Purpose}
    (hlack : p.free < wanted n purpose) :
    Balanced n 0 [] (live ++ [x])
      { p with free := 0, queue := p.queue ++ [⟨x, purpose, p.free⟩] } := by
  obtain ⟨first, hlive, hfirst⟩ := h.order
  refine ⟨h.pos, h.size, ?_, h.served, ?_, ?_, fun _ => rfl,
    List.concat_eq_append ▸ h.nodup.concat hx, first, ?_, hfirst⟩
  · have := h.permits
    simp only [granted_append, granted_cons, granted_nil]
    omega
  · intro w hw
    rcases List.mem_append.1 hw with hw | hw
    · exact h.lacking w hw
    · rw [List.mem_singleton.1 hw]
      exact hlack
  · intro w hw
    cases hq : p.queue with
    | nil => simp [hq] at hw
    | cons v r =>
      have hbehind := h.behind
      have hfree := h.exhausted (by simp [hq])
      simp only [hq, List.cons_append, List.tail_cons, List.mem_append,
        List.mem_singleton] at hw hbehind
      rcases hw with hw | rfl
      · exact hbehind w hw
      · exact hfree
  · rw [hlive]
    simp [handles]

/-- A new request takes what it wants, or the last place in the queue. -/
theorem Balanced.request {x : ι} (h : Balanced n 0 [] live p) (hx : x ∉ live) (purpose : Purpose) :
    Balanced n 0 [] (live ++ [x]) (p.request purpose x).2 := by
  unfold Pool.request
  by_cases henough : wanted p.size purpose ≤ p.free
  · simp only [if_pos henough]
    rw [h.size] at henough
    have hpos := wanted_pos h.pos purpose
    -- nobody waits while there are free permits
    have hq : p.queue = [] := by
      by_contra hne
      have := h.exhausted hne
      omega
    obtain ⟨first, hlive, hfirst⟩ := h.order
    refine Balanced.settle (n := n) ⟨h.pos, h.size, ?_, h.served, h.lacking, h.behind,
      fun hne => absurd hq hne, List.concat_eq_append ▸ h.nodup.concat hx, first ++ [x], ?_, ?_⟩
      (h.size ▸ rfl)
    · have := h.permits
      simp only [h.size]
      omega
    · rw [hlive, hq]
      simp [handles]
    · exact (List.perm_append_comm).trans (hfirst.append_left [x])
  · simp only [if_neg henough]
    exact h.enqueue hx (h.size ▸ Nat.lt_of_not_le henough)

/-- Looking at a request settles it if it has all it wants. -/
theorem Balanced.poll [DecidableEq ι] (h : Balanced n 0 [] live p) (x : ι) :
    Balanced n 0 [] live (p.poll x).2 := by
  unfold Pool.poll
  split
  · exact h
  split
  · exact h
  split
  · rename_i w hfind
    have hmem := List.mem_of_find?_eq_some hfind
    obtain rfl : w.handle = x := by simpa using List.find?_some hfind
    exact (h.takeReady hmem).settle (h.served w hmem)
  · split <;> exact h

/-- A request that is given up returns what it has. -/
theorem Balanced.release [DecidableEq ι] (h : Balanced n 0 [] live p) (x : ι) :
    Balanced n 0 [] (live.erase x) (p.release x).2 := by
  unfold Pool.release
  split
  · rename_i hx
    exact Balanced.give (m := 0) (by simpa using (h.takeHeld (by simpa using hx)).forget)
  split
  · rename_i hx
    exact (h.takeFinished (by simpa using hx)).forget
  split
  · rename_i w hfind
    have hmem := List.mem_of_find?_eq_some hfind
    obtain rfl : w.handle = x := by simpa using List.find?_some hfind
    exact Balanced.give (m := 0) (by simpa using (h.takeReady hmem).forget)
  split
  · rename_i w hfind
    have hmem := List.mem_of_find?_eq_some hfind
    obtain rfl : w.handle = x := by simpa using List.find?_some hfind
    exact Balanced.give (m := 0) (by simpa using h.takeQueue hmem)
  · -- a handle that is nowhere is no handle of a request
    rename_i hheld hfin _ hready _ hqueue
    have hnotin : x ∉ live := by
      rw [h.mem_live_iff, satisfied, handles, handles]
      simp_all
    exact (List.erase_of_not_mem hnotin).symm ▸ h

theorem Reachable.balanced [DecidableEq ι] (h : Reachable n live p) : Balanced n 0 [] live p := by
  induction h with
  | start h => exact balanced_start h
  | acquire _ hx ih => exact ih.request hx .slot
  | awaitAll _ hx ih => exact ih.request hx .all
  | poll x _ ih => exact ih.poll x
  | release x _ ih => exact ih.release x

/-! ## What always holds -/

/-- The laws of a pool of `n` slots whose requests are `live`, oldest first. -/
structure Lawful (n : Nat) (live : List ι) (p : Pool ι) : Prop where
  /-- Every permit is free, stands for a held slot, or belongs to a request. -/
  permits : p.free + p.held.length + granted p.queue + granted p.ready = n
  /-- The permits that are not free are counted exactly. -/
  inFlight : p.inFlight + p.free = n
  held_le : p.held.length ≤ n
  /-- While a request waits, no permit is free. -/
  exhausted : p.queue ≠ [] → p.free = 0
  /-- Of the requests that wait only the first has permits. -/
  behind : ∀ w ∈ p.queue.tail, w.got = 0
  /-- A request that was granted and not looked at has all it wants. -/
  served : ∀ w ∈ p.ready, w.got = wanted n w.purpose ∧ 0 < w.got
  /-- Whoever waits lacks permits, and somebody else has as many to return. -/
  unstuck : ∀ w r, p.queue = w :: r → w.got < wanted n w.purpose ∧
    (p.held ≠ [] ∨ p.ready ≠ []) ∧ wanted n w.purpose ≤ w.got + p.held.length + granted p.ready
  /-- Every request that was not given up is in one place. -/
  accounted : live.Perm (p.satisfied ++ handles p.queue)
  /-- No request has what it wants before those that are older. -/
  fifo : ∀ x y, [x, y].Sublist live → y ∈ p.satisfied → x ∈ p.satisfied

theorem Balanced.fifo {x y : ι} (h : Balanced n 0 [] live p) (hxy : [x, y].Sublist live)
    (hy : y ∈ p.satisfied) : x ∈ p.satisfied := by
  obtain ⟨first, rfl, hfirst⟩ := h.order
  rw [List.nil_append] at hfirst
  obtain ⟨l₁, l₂, hl, hl₁, hl₂⟩ := List.sublist_append_iff.1 hxy
  cases l₁ with
  | nil =>
    -- a request that waits has not all it wants
    have hyqueue : y ∈ handles p.queue := by
      rw [List.nil_append] at hl
      exact hl₂.subset (hl ▸ by simp)
    exact absurd rfl ((List.nodup_append.1 h.nodup).2.2 y (hfirst.mem_iff.2 hy) y hyqueue)
  | cons z l₁ =>
    obtain rfl : x = z := by simpa using congrArg List.head? hl
    exact hfirst.mem_iff.1 (hl₁.subset List.mem_cons_self)

theorem Balanced.lawful (h : Balanced n 0 [] live p) : Lawful n live p := by
  have hpermits := h.permits
  refine ⟨hpermits, ?_, by omega, h.exhausted, h.behind, ?_, ?_, ?_, fun _ _ => h.fifo⟩
  · rw [inFlight, h.size]
    omega
  · exact fun w hw => ⟨h.served w hw, h.served w hw ▸ wanted_pos h.pos w.purpose⟩
  · intro w r hq
    have hlack : w.got < wanted n w.purpose := h.lacking w (by simp [hq])
    have hfree := h.exhausted (by simp [hq])
    have hrest : granted r = 0 := granted_eq_zero (by simpa [hq] using h.behind)
    have hle := wanted_le h.pos w.purpose
    rw [hq, granted_cons] at hpermits
    refine ⟨hlack, ?_, by omega⟩
    by_contra hnone
    obtain ⟨hheld, hready⟩ := not_or.1 hnone
    rw [not_not.1 hheld, not_not.1 hready, List.length_nil, granted_nil] at hpermits
    omega
  · obtain ⟨first, rfl, hfirst⟩ := h.order
    exact hfirst.append_right _

theorem Balanced.held_of_awaitAll {x : ι} (h : Balanced n 0 [] live p)
    (hdone : (p.awaitAll x).1 = .done) : p.held = [] := by
  have hpermits := h.permits
  unfold awaitAll Pool.request at hdone
  by_cases henough : wanted p.size .all ≤ p.free
  · simp only [wanted, h.size] at henough
    exact List.length_eq_zero_iff.1 (by omega)
  · simp [henough] at hdone

theorem Balanced.held_of_poll [DecidableEq ι] {x : ι} (h : Balanced n 0 [] live p)
    (hdone : (p.poll x).1 = some .done) : x ∈ p.finished ∨ p.held = [] := by
  unfold Pool.poll at hdone
  split at hdone
  · cases hdone
  split at hdone
  · rename_i hfin
    exact .inl (by simpa using hfin)
  split at hdone
  · rename_i w hfind
    have hmem := List.mem_of_find?_eq_some hfind
    have htaken := (h.takeReady hmem).permits
    have hgot := h.served w hmem
    cases hw : w.purpose with
    | slot => simp [Pool.settle, hw] at hdone
    | all =>
      rw [hw] at hgot
      simp only [wanted] at hgot
      dsimp only at htaken
      exact .inr (List.length_eq_zero_iff.1 (by omega))
  · split at hdone <;> cases hdone

theorem exists_ofSize_iff {n : Nat} :
    (∃ p : Pool ι, ofSize n = .ok p) ↔ 1 ≤ n ∧ n ≤ 4294967295 := by
  have hmax : maxSize = 4294967295 := rfl
  unfold ofSize
  rw [hmax]
  split <;> simp_all

/-- **A pool keeps its permits and serves in order.**  It can have any size from
    one to the largest number of 32 bits; whatever is asked of it afterwards, its
    laws hold, and a request for all slots is over only when no slot is held. -/
theorem pool_lawful [DecidableEq ι] (n : Nat) :
    ((∃ p : Pool ι, ofSize n = .ok p) ↔ 1 ≤ n ∧ n ≤ 4294967295) ∧
    ∀ (live : List ι) (p : Pool ι), Reachable n live p →
      Lawful n live p ∧
      (∀ x, (p.awaitAll x).1 = .done → p.held = []) ∧
      ∀ x, (p.poll x).1 = some .done → x ∈ p.finished ∨ p.held = [] :=
  ⟨exists_ofSize_iff, fun _ _ h =>
    ⟨h.balanced.lawful, fun _ => h.balanced.held_of_awaitAll, fun _ => h.balanced.held_of_poll⟩⟩

/-- A pool of two slots of which one is held, one is kept for a request for all
    slots, and a request for a slot waits behind that one. -/
theorem pool_lawful_behindAll :
    let p : Pool Nat := ⟨2, 0, [⟨1, .all, 1⟩, ⟨2, .slot, 0⟩], [], [0], []⟩
    Reachable 2 [0, 1, 2] p ∧ Lawful 2 [0, 1, 2] p ∧
      wanted 2 .all ≤ 1 + p.held.length + granted p.ready := by
  have hstart : Reachable 2 [] (⟨2, 2, [], [], [], []⟩ : Pool Nat) := .start rfl
  have hreach := ((hstart.acquire (x := 0) (by simp)).awaitAll (x := 1) (by simp)).acquire (x := 2)
    (by simp)
  have hlaw := ((pool_lawful 2).2 _ _ hreach).1
  exact ⟨hreach, hlaw, (hlaw.unstuck ⟨1, .all, 1⟩ _ rfl).2.2⟩

end Concord.Pool
