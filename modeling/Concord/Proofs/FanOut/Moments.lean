/-
  Every moment of a fan-out, for units whose fates are fixed beforehand.

  A schedule says which moves are made one after the other, so the moments of a
  fan-out are the states after all possible schedules (`moment`), and the
  fan-out itself ends at one of them.

  * `Underway`: what holds at every moment.
  * `fan_out_complete`: the moments of a fan-out, and its end.
-/
import Concord.Proofs.FanOut.Progress

namespace Concord.FanOut

variable {ι ρ : Type} {n : Nat} {items : List ι} {pool : Pool Nat} {fate : ι → Except String ρ}
  {f : FanOut ι ρ}

/-! ## Moments -/

/-- A unit whose fate is fixed: a result, or the text of a panic.  Units of equal
    items have different fates where the items carry their positions. -/
def fixed (fate : ι → Except String ρ) (x : ι) : Id (Except String ρ) := pure (fate x)

/-- The state of a fan-out after some moves. -/
def moment (pool : Pool Nat) (items : List ι) (fate : ι → Except String ρ) (moves : List Move) :
    FanOut ι ρ :=
  (follow (fixed fate) moves (start pool items)).run

theorem follow_append (work : ι → Id (Except String ρ)) :
    ∀ (moves more : List Move) (f : FanOut ι ρ),
      (follow work (moves ++ more) f).run = (follow work more (follow work moves f).run).run
  | [], _, _ => rfl
  | a :: r, more, f => follow_append work r more (f.move work a).run

theorem moment_append_singleton (moves : List Move) (a : Move) :
    moment pool items fate (moves ++ [a]) =
      ((moment pool items fate moves).move (fixed fate) a).run :=
  follow_append _ moves [a] _

/-- A fan-out that goes on by itself makes moves, too. -/
theorem exists_follow_of_drain (work : ι → Id (Except String ρ)) :
    ∀ (rounds : Nat) (f : FanOut ι ρ),
      ∃ moves, (drain work rounds f).run = (follow work moves f).run
  | 0, f => ⟨[], rfl⟩
  | rounds + 1, f => by
    by_cases h : f.launch.next = f.next
    · obtain ⟨moves, hmoves⟩ :=
        exists_follow_of_drain work rounds (f.launch.move work f.launch.onward).run
      refine ⟨.launch :: f.launch.onward :: moves, Eq.trans ?_ hmoves⟩
      rw [drain, if_pos h]
      rfl
    · obtain ⟨moves, hmoves⟩ := exists_follow_of_drain work rounds f.launch
      refine ⟨.launch :: moves, Eq.trans ?_ hmoves⟩
      rw [drain, if_neg h]

theorem exists_follow_of_perform (work : ι → Id (Except String ρ)) (pool : Pool Nat)
    (schedule : List Move) (items : List ι) :
    ∃ more, (perform pool schedule work items).run =
      (follow work (schedule ++ more) (start pool items)).run := by
  obtain ⟨more, hmore⟩ := exists_follow_of_drain work (3 * items.length + 1)
    (follow work schedule (start pool items)).run
  exact ⟨more, hmore.trans (follow_append work schedule more _).symm⟩

/-! ## What holds at every moment -/

/-- What a unit of an item ends with, when its fate is fixed. -/
def Fated (fate : ι → Except String ρ) (x : ι) (left : Except String ρ) : Prop := left = fate x

/-- What holds at every moment of a fan-out of `items` over `n` slots. -/
structure Underway (n : Nat) (items : List ι) (fate : ι → Except String ρ) (f : FanOut ι ρ) :
    Prop where
  /-- No more units are running than there are slots, and no more were before. -/
  bounded : f.running.length ≤ f.peak ∧ f.peak ≤ n
  /-- The slots that are held are those of the running units. -/
  held : f.pool.held = f.running.map (·.1)
  /-- The items that are not started are the last ones. -/
  waiting : f.waiting = items.drop f.next ∧ f.next ≤ items.length
  /-- The units that are running were started in the order of their items. -/
  inOrder : f.running.Sublist ((placed items).take f.next)
  /-- Every item that is started has one unit, which is running or has met its
      own fate; what is joined is there, and the first panic of it is kept. -/
  once : ∃ joined unjoined : List (Nat × ι),
    (joined ++ (unjoined ++ f.running)).Perm ((placed items).take f.next) ∧
    f.ended = unjoined.map (fun e => fate e.2) ∧
    f.results = joined.filterMap (fun e => (fate e.2).toOption) ∧
    f.failure = joined.findSome? (fun e => panic? (fate e.2))
  /-- Nothing is joined before all units are started. -/
  joining : f.waiting ≠ [] → f.results = [] ∧ f.failure = none
  /-- The fan-out is over only when every unit is joined. -/
  closed : f.closed = true → f.waiting = [] ∧ f.running = [] ∧ f.ended = []

/-- Units whose fates are fixed are known with what they ended with. -/
theorem eq_map_fated {β : Type} {g : β → Except String ρ} {es : List (β × Except String ρ)}
    (h : ∀ e ∈ es, e.2 = g e.1) : es = (es.map (·.1)).map fun x => (x, g x) := by
  rw [List.map_map]
  exact (List.map_id es).symm.trans (List.map_congr_left fun e he => Prod.ext rfl (h e he))

theorem Sound.underway (h : Sound n items (Fated fate) f) : Underway n items fate f := by
  obtain ⟨joined, unjoined, hacc⟩ := h.accounted
  have hjoined := eq_map_fated (g := fun u : Nat × ι => fate u.2) fun e he =>
    hacc.able e (List.mem_append_left unjoined he)
  have hunjoined := eq_map_fated (g := fun u : Nat × ι => fate u.2) fun e he =>
    hacc.able e (List.mem_append_right joined he)
  refine ⟨h.peak, h.held, ⟨h.waiting, h.next_le⟩, h.inOrder, ⟨joined.map (·.1), unjoined.map (·.1),
    hacc.perm, ?_, ?_, ?_⟩, h.unjoined, fun hclosed => allJoined_iff.1 (h.closed hclosed)⟩
  · rw [hacc.ended, hunjoined]
    simp
  · rw [hacc.results, hjoined, List.filterMap_map]
    simp [Function.comp_def]
  · rw [hacc.failure, hjoined, List.findSome?_map]
    simp [Function.comp_def]

theorem sound_moment (h : Pool.ofSize n = .ok pool) (items : List ι) (fate : ι → Except String ρ)
    (moves : List Move) : Sound n items (Fated fate) (moment pool items fate moves) :=
  stepwise_id.follow (fun _ a hf => stepwise_id.move (Q := Fated fate) h (fun _ => rfl) hf a) moves
    (sound_start h items (Fated fate))

/-- A running unit stays running whatever else happens. -/
theorem mem_running_move {e : Nat × ι} (he : e ∈ f.running) (work : ι → Id (Except String ρ))
    (a : Move) :
    e ∈ (f.move work a).run.running ∨ ∃ k, a = .finish k ∧ f.running[k]? = some e := by
  cases a with
  | launch => exact .inl (f.running_launch.subset he)
  | finish k =>
    by_cases hk : f.running[k]? = some e
    · exact .inr ⟨k, rfl, hk⟩
    · refine .inl ?_
      obtain ⟨j, hj⟩ := List.mem_iff_getElem?.1 he
      have hne : j ≠ k := fun heq => hk (heq ▸ hj)
      have hmem : e ∈ f.running.eraseIdx k := List.mem_eraseIdx_iff_getElem?.2 ⟨j, hne, hj⟩
      show e ∈ (f.finish work k).run.running
      unfold finish
      cases hu : f.running[k]? with
      | none => exact he
      | some u =>
        show e ∈ (f.leave k (work u.2).run).running
        rwa [leave_of_some hu]
  | join k =>
    refine .inl ?_
    show e ∈ (f.join k).running
    rwa [running_join]
  | await =>
    refine .inl ?_
    show e ∈ f.await.running
    rwa [await_eq]

/-- The first panic that is joined is kept. -/
theorem failure_move {text : String} (h : f.failure = some text)
    (work : ι → Id (Except String ρ)) (a : Move) :
    (f.move work a).run.failure = some text := by
  cases a with
  | launch => exact f.failure_launch.trans h
  | finish k =>
    show (f.finish work k).run.failure = some text
    unfold finish
    cases f.running[k]? with
    | none => exact h
    | some u => exact (f.failure_leave k (work u.2).run).trans h
  | join k =>
    show (f.join k).failure = some text
    unfold join
    split <;> simp [h]
  | await =>
    show f.await.failure = some text
    rwa [await_eq]

/-! ## The end -/

/-- The end of a fan-out of `items` over a pool that nobody else uses. -/
structure Ended (pool : Pool Nat) (items : List ι) (fate : ι → Except String ρ) (f : FanOut ι ρ) :
    Prop where
  /-- Every unit was started, has ended and is joined, and all slots were waited
      for. -/
  waiting : f.waiting = []
  running : f.running = []
  ended : f.ended = []
  closed : f.closed = true
  /-- All slots are back, so that nobody has to wait for them. -/
  pool : f.pool = pool
  inFlight : f.pool.inFlight = 0
  awaited : ∀ x, (f.pool.awaitAll x).1 = .done ∧ (f.pool.awaitAll x).2.inFlight = 0
  /-- The results of all units that have one are there. -/
  results : f.results.Perm (items.filterMap fun x => (fate x).toOption)
  ok_iff : (∃ rs, f.outcome = .ok rs) ↔ ∀ x ∈ items, ∃ r, fate x = .ok r
  perm : ∀ rs, f.outcome = .ok rs → (rs.map .ok).Perm (items.map fate)
  /-- If units panicked, the text is that of one of them. -/
  panicked : (∃ x ∈ items, ∃ text, fate x = .error text) →
    ∃ x ∈ items, ∃ text, fate x = .error text ∧ f.outcome = .error (.workerPanicked text)

theorem inFlight_of_ofSize (h : Pool.ofSize n = .ok pool) : pool.inFlight = 0 ∧
    ∀ x, (pool.awaitAll x).1 = .done ∧ (pool.awaitAll x).2.inFlight = 0 := by
  obtain ⟨rfl, -⟩ := eq_of_ofSize h
  refine ⟨by simp [Pool.inFlight], fun x => ?_⟩
  simp [Pool.awaitAll, Pool.request, Pool.wanted, Pool.settle, Pool.give, Pool.distribute,
    Pool.inFlight]

theorem panic?_eq_some_iff {left : Except String ρ} {text : String} :
    panic? left = some text ↔ left = .error text := by
  cases left <;> simp [panic?]

theorem panic?_eq_none_iff {left : Except String ρ} : panic? left = none ↔ ∃ r, left = .ok r := by
  cases left <;> simp [panic?]

/-- What a fan-out says when all units are joined, whatever the order. -/
theorem outcome_of_joined {order : List ι} (horder : order.Perm items)
    (hresults : f.results = order.filterMap fun x => (fate x).toOption)
    (hfailure : f.failure = order.findSome? fun x => panic? (fate x)) :
    ((∃ rs, f.outcome = .ok rs) ↔ ∀ x ∈ items, ∃ r, fate x = .ok r) ∧
    (∀ rs, f.outcome = .ok rs → (rs.map .ok).Perm (items.map fate)) ∧
    ((∃ x ∈ items, ∃ text, fate x = .error text) →
      ∃ x ∈ items, ∃ text, fate x = .error text ∧ f.outcome = .error (.workerPanicked text)) := by
  cases hfail : f.failure with
  | some text =>
    have houtcome : f.outcome = .error (.workerPanicked text) := by simp [outcome, hfail]
    obtain ⟨x, hx, hpanic⟩ := List.exists_of_findSome?_eq_some (hfailure ▸ hfail)
    have hx := horder.mem_iff.1 hx
    have hfate := panic?_eq_some_iff.1 hpanic
    have hno : ∀ rs, f.outcome ≠ .ok rs := fun rs hrs => by
      rw [houtcome] at hrs
      cases hrs
    refine ⟨⟨?_, fun hall => ?_⟩, fun rs hrs => absurd hrs (hno rs), fun _ =>
      ⟨x, hx, text, hfate, houtcome⟩⟩
    · rintro ⟨rs, hrs⟩
      exact absurd hrs (hno rs)
    · obtain ⟨r, hr⟩ := hall x hx
      rw [hfate] at hr
      cases hr
  | none =>
    have houtcome : f.outcome = .ok f.results := by simp [outcome, hfail]
    have hall : ∀ x ∈ items, ∃ r, fate x = .ok r := fun x hx =>
      panic?_eq_none_iff.1 (List.findSome?_eq_none_iff.1 (hfailure ▸ hfail) x (horder.mem_iff.2 hx))
    refine ⟨⟨fun _ => hall, fun _ => ⟨_, houtcome⟩⟩, fun rs hrs => ?_, ?_⟩
    · rw [houtcome] at hrs
      cases hrs
      refine List.Perm.trans (.of_eq ?_) (horder.map fate)
      rw [hresults, List.map_filterMap, ← List.filterMap_eq_map]
      refine List.filterMap_congr fun x hx => ?_
      obtain ⟨r, hr⟩ := hall x (horder.mem_iff.1 hx)
      simp [hr, Except.toOption]
    · rintro ⟨x, hx, text, hfate⟩
      obtain ⟨r, hr⟩ := hall x hx
      rw [hfate] at hr
      cases hr

theorem ended_perform (h : Pool.ofSize n = .ok pool) (schedule : List Move) (items : List ι)
    (fate : ι → Except String ρ) :
    Ended pool items fate (perform pool schedule (fixed fate) items).run := by
  obtain ⟨hs, hw, hr, hended, hclosed⟩ :=
    stepwise_id.perform (Q := Fated fate) h (fun _ => rfl) schedule items
  obtain ⟨joined, hperm, hfate, hresults, hfailure⟩ := hs.complete hw hr hended
  rw [eq_map_fated hfate, List.filterMap_map] at hresults
  rw [eq_map_fated hfate, List.findSome?_map] at hfailure
  obtain ⟨hok, hall, hpanicked⟩ := outcome_of_joined hperm hresults hfailure
  obtain ⟨hidle, hawaited⟩ := inFlight_of_ofSize h
  have hpool := hs.pool_eq h hw hr
  exact
    { waiting := hw
      running := hr
      ended := hended
      closed := hclosed
      pool := hpool
      inFlight := hpool.symm ▸ hidle
      awaited := hpool.symm ▸ hawaited
      results := hresults ▸ hperm.filterMap _
      ok_iff := hok
      perm := hall
      panicked := hpanicked }

/-- **A fan-out is complete and bounded under every schedule.**  At every moment
    at most as many units are running as there are slots, and items are started
    in their order, each by one unit that nobody else can end; the first panic
    that is joined is kept.  At the end all units have ended and are joined and
    all slots are back, and there is a result for every item unless a unit
    panicked. -/
theorem fan_out_complete (h : Pool.ofSize n = .ok pool) (items : List ι)
    (fate : ι → Except String ρ) (schedule : List Move) :
    (∀ moves, Underway n items fate (moment pool items fate moves) ∧
      ∀ (a : Move),
        (∀ e ∈ (moment pool items fate moves).running,
          e ∈ (moment pool items fate (moves ++ [a])).running ∨
            ∃ k, a = .finish k ∧ (moment pool items fate moves).running[k]? = some e) ∧
        (∀ text, (moment pool items fate moves).failure = some text →
          (moment pool items fate (moves ++ [a])).failure = some text)) ∧
    (∃ more, (perform pool schedule (fixed fate) items).run =
      moment pool items fate (schedule ++ more)) ∧
    Ended pool items fate (perform pool schedule (fixed fate) items).run := by
  refine ⟨fun moves => ⟨(sound_moment h items fate moves).underway, fun a => ?_⟩,
    exists_follow_of_perform (fixed fate) pool schedule items, ended_perform h schedule items fate⟩
  rw [moment_append_singleton]
  exact ⟨fun e he => mem_running_move he (fixed fate) a,
    fun text htext => failure_move htext (fixed fate) a⟩

/-- Two slots for four items; the second panics before the third is started, and
    the fourth, which ends later, is joined before it. -/
theorem fan_out_complete_panicking :
    let pool : Pool Nat := ⟨2, 2, [], [], [], []⟩
    let fate := fun x : Nat => if x % 20 = 0 then .error s!"unit {x}" else .ok (x + 1)
    let schedule : List Move :=
      [.launch, .launch, .finish 1, .launch, .join 0, .finish 1, .launch, .finish 1, .join 2]
    let f := (perform pool schedule (fixed fate) [10, 20, 30, 40]).run
    Pool.ofSize 2 = .ok pool ∧ Ended pool [10, 20, 30, 40] fate f ∧ f.results = [31, 11] ∧
      f.peak = 2 ∧ f.outcome = .error (.workerPanicked "unit 40") := by
  have hpool : Pool.ofSize 2 = .ok (⟨2, 2, [], [], [], []⟩ : Pool Nat) := rfl
  have hend := (fan_out_complete hpool [10, 20, 30, 40]
    (fun x : Nat => if x % 20 = 0 then .error s!"unit {x}" else .ok (x + 1))
    [.launch, .launch, .finish 1, .launch, .join 0, .finish 1, .launch, .finish 1, .join 2]).2.2
  exact ⟨hpool, hend, by decide, by decide, by decide⟩

end Concord.FanOut
