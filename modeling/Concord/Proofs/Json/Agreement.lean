/-
  Readers of one text that stop at the same places.

  Where two readers of elements stop at the same places, so do the readers of
  sequences and objects that are made of them.

  * `Agree`: readers that stop at the same places, with results that belong
    together.
  * `sequence_cases`, `elements_cases`, `keyed_cases`: what there is in a text of
    which something is read.
  * `Agree.elements`, `Agree.keyed_member`, `Agree.member`: elements and members.
-/
import Mathlib.Data.List.Forall2
import Concord.Proofs.Json.Reading

namespace Concord.Json

variable {α β : Type} {R : α → β → Prop} {read : List Char → Option (α × List Char)}
  {read' : List Char → Option (β × List Char)} {close : Char} {cs rest rest' : List Char}

/-- Two readers that stop at the same place, with results that belong together,
    where both of them read something. -/
def Agree (read : List Char → Option (α × List Char)) (read' : List Char → Option (β × List Char))
    (R : α → β → Prop) : Prop :=
  ∀ cs x rest y rest', read cs = some (x, rest) → read' cs = some (y, rest') →
    rest = rest' ∧ R x y

/-! ## Elements -/

/-- A sequence is an element and a comma before further ones, or before the
    closing character. -/
theorem sequence_cases {fuel : Nat} {xs : List α}
    (h : sequence close read fuel cs = some (xs, rest)) :
    ∃ n x r, fuel = n + 1 ∧ read cs = some (x, r) ∧
      ((∃ r' ys, skipSpace r = ',' :: r' ∧ sequence close read n r' = some (ys, rest) ∧
          xs = x :: ys) ∨
        (skipSpace r = close :: rest ∧ close ≠ ',' ∧ xs = [x])) := by
  cases fuel with
  | zero => cases h
  | succ n =>
    obtain ⟨⟨x, r⟩, hx, hrest⟩ := Option.bind_eq_some_iff.1 h
    refine ⟨n, x, r, rfl, hx, ?_⟩
    simp only at hrest
    split at hrest
    · rename_i r' hr
      obtain ⟨⟨ys, rest⟩, hys, heq⟩ := Option.bind_eq_some_iff.1 hrest
      cases heq
      exact .inl ⟨r', ys, hr, hys, rfl⟩
    · rename_i c r' hne hr
      split at hrest
      · rename_i hc
        subst hc
        cases hrest
        exact .inr ⟨hr, hne, rfl⟩
      · cases hrest
    · cases hrest

theorem Agree.sequence (h : Agree read read' R) (fuel fuel' : Nat) :
    Agree (sequence close read fuel) (sequence close read' fuel') (List.Forall₂ R) := by
  induction fuel generalizing fuel' with
  | zero =>
    intro cs xs rest ys rest' hxs
    cases hxs
  | succ n ih =>
    intro cs xs rest ys rest' hxs hys
    obtain ⟨n', x, r, hn, hx, hafter⟩ := sequence_cases hxs
    obtain ⟨m, y, r', -, hy, hafter'⟩ := sequence_cases hys
    obtain rfl := Nat.succ.inj hn
    obtain ⟨rfl, hR⟩ := h _ _ _ _ _ hx hy
    obtain ⟨s, xs, hs, hmore, rfl⟩ | ⟨hs, hclose, rfl⟩ := hafter
    · obtain ⟨s', ys, hs', hmore', rfl⟩ | ⟨hs', hclose, rfl⟩ := hafter'
      · cases hs.symm.trans hs'
        obtain ⟨hrest, hall⟩ := ih m _ _ _ _ _ hmore hmore'
        exact ⟨hrest, .cons hR hall⟩
      · cases hs.symm.trans hs'
        exact absurd rfl hclose
    · obtain ⟨s', ys, hs', -, rfl⟩ | ⟨hs', -, rfl⟩ := hafter'
      · cases hs.symm.trans hs'
        exact absurd rfl hclose
      · cases hs.symm.trans hs'
        exact ⟨rfl, .cons hR .nil⟩

theorem elements_cases {xs : List α} (h : elements close read cs = some (xs, rest)) :
    (skipSpace cs = close :: rest ∧ xs = []) ∨
      ∃ c r, skipSpace cs = c :: r ∧ c ≠ close ∧
        sequence close read (r.length + 1) (c :: r) = some (xs, rest) := by
  unfold elements at h
  split at h
  · rename_i c r hr
    split at h
    · rename_i hc
      cases h
      exact .inl ⟨hc ▸ hr, rfl⟩
    · rename_i hc
      exact .inr ⟨c, r, hr, hc, h⟩
  · cases h

theorem Agree.elements (h : Agree read read' R) :
    Agree (elements close read) (elements close read') (List.Forall₂ R) := by
  intro cs xs rest ys rest' hxs hys
  obtain ⟨hs, rfl⟩ | ⟨c, r, hs, hc, hxs⟩ := elements_cases hxs
  · obtain ⟨hs', rfl⟩ | ⟨c', r', hs', hc', hys⟩ := elements_cases hys
    · cases hs.symm.trans hs'
      exact ⟨rfl, .nil⟩
    · cases hs.symm.trans hs'
      exact absurd rfl hc'
  · obtain ⟨hs', rfl⟩ | ⟨c', r', hs', hc', hys⟩ := elements_cases hys
    · cases hs.symm.trans hs'
      exact absurd rfl hc
    · cases hs.symm.trans hs'
      exact h.sequence _ _ _ _ _ _ _ hxs hys

/-! ## Members -/

theorem keyed_cases {value : String → List Char → Option (α × List Char)} {x : α}
    (h : keyed value cs = some (x, rest)) :
    ∃ r k cs' r', skipSpace cs = '"' :: r ∧ stringChars [] r = some (k, cs') ∧
      skipSpace cs' = ':' :: r' ∧ value k r' = some (x, rest) := by
  unfold keyed at h
  split at h
  · rename_i r hr
    obtain ⟨⟨k, cs'⟩, hk, hvalue⟩ := Option.bind_eq_some_iff.1 h
    simp only at hvalue
    split at hvalue
    · rename_i r' hr'
      exact ⟨r, k, cs', r', hr, hk, hr', hvalue⟩
    · cases hvalue
  · cases h

theorem Agree.keyed {read : String → List Char → Option (α × List Char)}
    {read' : String → List Char → Option (β × List Char)} (h : ∀ k, Agree (read k) (read' k) R) :
    Agree (keyed read) (keyed read') R := by
  intro cs x rest y rest' hx hy
  obtain ⟨r, k, _, _, hr, hk, hcolon, hx⟩ := keyed_cases hx
  obtain ⟨r', k', _, _, hr', hk', hcolon', hy⟩ := keyed_cases hy
  cases hr.symm.trans hr'
  cases hk.symm.trans hk'
  cases hcolon.symm.trans hcolon'
  exact h k _ _ _ _ _ hx hy

/-- A member is a value under its key. -/
theorem keyed_of_member {value : List Char → Option (Json × List Char)} {e : String × Json}
    (h : member value cs = some (e, rest)) :
    keyed (fun k cs => (value cs).map fun p => ((k, p.1), p.2)) cs = some (e, rest) := by
  unfold member at h
  unfold keyed
  split at h
  · rename_i r hr
    obtain ⟨⟨k, cs'⟩, hk, hvalue⟩ := Option.bind_eq_some_iff.1 h
    simp only at hvalue
    split at hvalue
    · rename_i r' hr'
      obtain ⟨⟨v, rest'⟩, hv, heq⟩ := Option.bind_eq_some_iff.1 hvalue
      cases heq
      simp only [hr, hk, Option.bind_eq_bind, Option.bind_some, hr', hv, Option.map_some]
    · cases hvalue
  · cases h

theorem Agree.keyed_member {read : String → List Char → Option (α × List Char)}
    {value : List Char → Option (Json × List Char)} {R : α → String × Json → Prop}
    (h : ∀ k, Agree (read k) value fun x v => R x (k, v)) :
    Agree (Json.keyed read) (member value) R := by
  intro cs x rest e rest' hx he
  refine Agree.keyed (fun k => ?_) cs x rest e rest' hx (keyed_of_member he)
  intro cs x rest e rest' hx he
  obtain ⟨⟨v, r⟩, hv, heq⟩ := Option.map_eq_some_iff.1 he
  cases heq
  exact h k cs x rest v r hx hv

theorem Agree.member {read value : List Char → Option (Json × List Char)} {R : Json → Json → Prop}
    (h : Agree read value R) :
    Agree (Json.member read) (Json.member value) fun e e' => e.1 = e'.1 ∧ R e.2 e'.2 := by
  intro cs e rest e' rest' he he'
  refine Agree.keyed_member (R := fun e e' => e.1 = e'.1 ∧ R e.2 e'.2) (fun k => ?_)
    cs e rest e' rest' (keyed_of_member he) he'
  intro cs e rest v rest' he hv
  obtain ⟨⟨j, r⟩, hj, heq⟩ := Option.map_eq_some_iff.1 he
  cases heq
  obtain ⟨hrest, hR⟩ := h cs j r v rest' hj hv
  exact ⟨hrest, rfl, hR⟩

end Concord.Json
