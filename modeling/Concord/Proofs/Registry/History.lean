/-
  A registry that callers share.

  Each request is served as a whole.  So whatever callers do at the same time
  is one list of events, in which the requests of the callers are interleaved
  in any order.  What a registry has to tell after such a history is what has
  been marked since the last reset, and nothing else of it matters.

  * `after`, `replies`: a history served by a registry.
  * `MarkedIn`: what a history has marked since its last reset.
  * `isValid_after`: the invariant.
  * `replies_congr`: two registries with the same valid addresses are alike to
    all callers.
  * `replies_to_marks`: of the markings of an address, the first one counts.
  * `history_lawful`: what a registry tells after every history.
-/
import Mathlib.Data.List.DropRight
import Concord.Proofs.Registry

namespace Concord.Registry

/-- A request of one of the callers. -/
structure Event (γ : Type) where
  caller : γ
  request : Request
  deriving DecidableEq

variable {γ : Type} {configured : List String} {r r' : Registry} {es seg : List (Event γ)}
  {e : Event γ} {a : String}

/-! ## Histories -/

/-- The registry after some events. -/
def after (r : Registry) (es : List (Event γ)) : Registry :=
  es.foldl (fun r e => (r.serve e.request).1) r

/-- The replies to some events. -/
def replies (r : Registry) : List (Event γ) → List Reply
  | [] => []
  | e :: es => (r.serve e.request).2 :: replies (r.serve e.request).1 es

/-- The replies to the markings of an address among some events. -/
def markReplies (r : Registry) (a : String) (es : List (Event γ)) : List Reply :=
  ((es.zip (r.replies es)).filter (·.1.request = .mark a)).map (·.2)

@[simp] theorem after_nil (r : Registry) : r.after ([] : List (Event γ)) = r := rfl

@[simp] theorem after_cons (r : Registry) (e : Event γ) (es : List (Event γ)) :
    r.after (e :: es) = (r.serve e.request).1.after es := rfl

theorem after_append (r : Registry) (es seg : List (Event γ)) :
    r.after (es ++ seg) = (r.after es).after seg :=
  List.foldl_append

theorem after_concat (r : Registry) (es : List (Event γ)) (e : Event γ) :
    r.after (es ++ [e]) = ((r.after es).serve e.request).1 := by
  rw [after_append, after_cons, after_nil]

/-- A reply is given by the registry that the events before have left. -/
theorem replies_eq (r : Registry) (es : List (Event γ)) :
    r.replies es = es.mapIdx fun i e => ((r.after (es.take i)).serve e.request).2 := by
  induction es generalizing r with
  | nil => rfl
  | cons e es ih => simp [replies, ih, List.mapIdx_cons]

theorem markReplies_cons (r : Registry) (a : String) (e : Event γ) (es : List (Event γ)) :
    r.markReplies a (e :: es) =
      (if e.request = .mark a then [(r.serve e.request).2] else []) ++
        (r.serve e.request).1.markReplies a es := by
  by_cases h : e.request = .mark a <;> simp [markReplies, replies, h]

@[simp] theorem configured_serve (r : Registry) (q : Request) :
    (r.serve q).1.configured = r.configured := by
  cases q <;> simp [serve]

@[simp] theorem configured_after (r : Registry) (es : List (Event γ)) :
    (r.after es).configured = r.configured := by
  induction es generalizing r with
  | nil => rfl
  | cons e es ih => rw [after_cons, ih, configured_serve]

/-! ## What is marked -/

/-- The events after the last reset. -/
def sinceReset (es : List (Event γ)) : List (Event γ) := es.rtakeWhile fun e => e.request ≠ .reset

/-- An address has been marked since the last reset. -/
def MarkedIn (es : List (Event γ)) (a : String) : Prop := ∃ e ∈ sinceReset es, e.request = .mark a

instance (es : List (Event γ)) : DecidablePred (MarkedIn es) :=
  fun a => List.decidableBEx (fun e : Event γ => e.request = .mark a) (sinceReset es)

@[simp] theorem not_markedIn_nil : ¬ MarkedIn ([] : List (Event γ)) a := by
  simp [MarkedIn, sinceReset]

theorem markedIn_concat :
    MarkedIn (es ++ [e]) a ↔ e.request ≠ .reset ∧ (MarkedIn es a ∨ e.request = .mark a) := by
  unfold MarkedIn sinceReset
  rw [List.rtakeWhile_concat]
  by_cases h : e.request = .reset <;> simp [h, or_and_right, exists_or]

/-- A request makes an address invalid by marking it, and valid by a reset. -/
theorem isValid_serve (r : Registry) (q : Request) (a : String) :
    (r.serve q).1.isValid a = true ↔ q = .reset ∨ r.isValid a = true ∧ q ≠ .mark a := by
  cases q with
  | mark b => simp [serve, isValid_markInvalid, eq_comm (a := a)]
  | _ => simp [serve]

/-- The valid addresses are those that have not been marked since the last
    reset, whatever else the callers have asked. -/
theorem isValid_after :
    ((ofAddresses configured).after es).isValid a = true ↔ ¬ MarkedIn es a := by
  induction es using List.reverseRecOn with
  | nil => simp [ofAddresses, isValid]
  | append_singleton es e ih =>
    rw [after_concat, isValid_serve, ih, markedIn_concat]
    tauto

theorem isValid_after_eq :
    ((ofAddresses configured).after es).isValid a = decide (¬ MarkedIn es a) := by
  rw [Bool.eq_iff_iff, isValid_after, decide_eq_true_iff]

theorem valid_after (configured : List String) (es : List (Event γ)) :
    ((ofAddresses configured).after es).valid = configured.filter fun a => ¬ MarkedIn es a := by
  simp only [valid, configured_after]
  exact List.filter_congr fun a _ => isValid_after_eq

theorem invalid_after (configured : List String) (es : List (Event γ)) :
    ((ofAddresses configured).after es).invalid = configured.filter fun a => MarkedIn es a := by
  simp only [invalid, configured_after]
  exact List.filter_congr fun a _ => by simp [isValid_after_eq]

/-! ## Replies -/

/-- The reply that a request gets after some events. -/
def expected (configured : List String) (es : List (Event γ)) : Request → Reply
  | .mark a => .flag (¬ MarkedIn es a)
  | .reset => .done
  | .isValid a => .flag (¬ MarkedIn es a)
  | .valid => .addresses (configured.filter fun a => ¬ MarkedIn es a)
  | .invalid => .addresses (configured.filter fun a => MarkedIn es a)
  | .configured => .addresses configured

theorem reply_after (configured : List String) (es : List (Event γ)) (q : Request) :
    (((ofAddresses configured).after es).serve q).2 = expected configured es q := by
  cases q <;> simp only [serve, expected, isValid_after_eq, valid_after, invalid_after,
    configured_after]
  rfl

/-- A reply shows no more of a registry than its valid addresses. -/
theorem reply_congr (hc : r.configured = r'.configured)
    (hv : ∀ a, r.isValid a = r'.isValid a) (q : Request) : (r.serve q).2 = (r'.serve q).2 := by
  have same : r.isValid = r'.isValid := funext hv
  cases q <;> simp [serve, valid, invalid, hc, same]

/-- Callers cannot tell two registries apart that have the same valid
    addresses, whatever they ask. -/
theorem replies_congr (hc : r.configured = r'.configured)
    (hv : ∀ a, r.isValid a = r'.isValid a) (es : List (Event γ)) :
    r.replies es = r'.replies es := by
  induction es generalizing r r' with
  | nil => rfl
  | cons e es ih =>
    have step : ∀ a, (r.serve e.request).1.isValid a = (r'.serve e.request).1.isValid a := by
      intro a
      rw [Bool.eq_iff_iff, isValid_serve, isValid_serve, hv]
    unfold replies
    rw [reply_congr hc hv, ih (by simp [hc]) step]

/-! ## Markings -/

/-- The replies to markings of which only the first one changes something. -/
def firstOnly : Nat → List Reply
  | 0 => []
  | n + 1 => .flag true :: List.replicate n (.flag false)

/-- Markings of an invalid address change nothing. -/
theorem replies_to_marks_invalid (ha : r.isValid a = false)
    (hs : ∀ e ∈ seg, e.request ≠ .reset) :
    r.markReplies a seg = List.replicate (seg.countP (·.request = .mark a)) (.flag false) := by
  induction seg generalizing r with
  | nil => rfl
  | cons e seg ih =>
    have stays : (r.serve e.request).1.isValid a = false := by
      rw [Bool.eq_false_iff, ne_eq, isValid_serve]
      simp [ha, hs e List.mem_cons_self]
    rw [markReplies_cons, ih stays fun e he => hs e (List.mem_cons_of_mem _ he)]
    by_cases h : e.request = .mark a
    · simp [h, serve, ha, List.replicate_succ]
    · simp [h]

/-- **Of the markings of a valid address, the first one changes something and
    is the only one, until the next reset.** -/
theorem replies_to_marks (ha : r.isValid a = true) (hs : ∀ e ∈ seg, e.request ≠ .reset) :
    r.markReplies a seg = firstOnly (seg.countP (·.request = .mark a)) := by
  induction seg generalizing r with
  | nil => rfl
  | cons e seg ih =>
    have later : ∀ e ∈ seg, e.request ≠ .reset := fun e he => hs e (List.mem_cons_of_mem _ he)
    rw [markReplies_cons]
    by_cases h : e.request = .mark a
    · have gone : (r.serve e.request).1.isValid a = false := by
        rw [Bool.eq_false_iff, ne_eq, isValid_serve]
        simp [h]
      rw [replies_to_marks_invalid gone later]
      simp [h, serve, ha, firstOnly]
    · have stays : (r.serve e.request).1.isValid a = true :=
        (isValid_serve ..).2 (.inr ⟨ha, h⟩)
      rw [ih stays later]
      simp [h]

/-! ## The law -/

/-- What a registry tells after a history of requests. -/
structure Lawful (configured : List String) (es : List (Event γ)) : Prop where
  /-- An address is valid unless it was marked since the last reset. -/
  isValid : ∀ a, ((ofAddresses configured).after es).isValid a = true ↔ ¬ MarkedIn es a
  /-- The valid addresses are the configured ones that were not marked. -/
  valid : ((ofAddresses configured).after es).valid = configured.filter fun a => ¬ MarkedIn es a
  /-- The invalid addresses are the configured ones that were marked. -/
  invalid : ((ofAddresses configured).after es).invalid = configured.filter fun a => MarkedIn es a
  /-- Every configured entry is in one of the two lists, and once. -/
  whole : (((ofAddresses configured).after es).valid ++
    ((ofAddresses configured).after es).invalid).Perm configured
  /-- Every request was answered by what was marked when it was served. -/
  replies : (ofAddresses configured).replies es =
    es.mapIdx fun i e => expected configured (es.take i) e.request
  /-- Among the events that follow a reset, or the start, and have no reset
      themselves, the first marking of an address changes something and the
      other ones do not. -/
  marks : ∀ a before seg rest, es = before ++ seg ++ rest →
    (before = [] ∨ ∃ init e, before = init ++ [e] ∧ e.request = .reset) →
    (∀ e ∈ seg, e.request ≠ .reset) →
    ((ofAddresses configured).after before).markReplies a seg =
      firstOnly (seg.countP (·.request = .mark a))
  /-- Another history with the same marks cannot be told from this one. -/
  alike : ∀ es' : List (Event γ), (∀ a, MarkedIn es a ↔ MarkedIn es' a) →
    ∀ next : List (Event γ), ((ofAddresses configured).after es).replies next =
      ((ofAddresses configured).after es').replies next

/-- Nothing is marked at the start, or right after a reset. -/
theorem not_markedIn_start {before : List (Event γ)}
    (h : before = [] ∨ ∃ init e, before = init ++ [e] ∧ e.request = .reset) :
    ¬ MarkedIn before a := by
  obtain rfl | ⟨init, e, rfl, he⟩ := h
  · exact not_markedIn_nil
  · exact fun hm => (markedIn_concat.1 hm).1 he

/-- **Whatever callers ask of a registry, in whatever order, it tells of each
    address whether it was marked since the last reset.** -/
theorem history_lawful (configured : List String) (es : List (Event γ)) :
    Lawful configured es where
  isValid _ := isValid_after
  valid := valid_after configured es
  invalid := invalid_after configured es
  whole := by
    have split := List.filter_append_perm ((ofAddresses configured).after es).isValid configured
    simpa only [Registry.valid, Registry.invalid, configured_after, ofAddresses] using split
  replies := by
    rw [replies_eq]
    simp only [reply_after]
  marks a before seg rest _ hb hs :=
    replies_to_marks (isValid_after.2 (not_markedIn_start hb)) hs
  alike es' hm next := by
    refine replies_congr (by simp) (fun a => ?_) next
    rw [isValid_after_eq, isValid_after_eq, decide_eq_decide, hm]

example : (ofAddresses ["x", "y", "x"]).replies
    [⟨0, .mark "x"⟩, ⟨1, .mark "x"⟩, ⟨1, .reset⟩, ⟨0, .mark "x"⟩, ⟨1, .invalid⟩] =
      [.flag true, .flag false, .done, .flag true, .addresses ["x", "x"]] := by
  decide

end Concord.Registry
