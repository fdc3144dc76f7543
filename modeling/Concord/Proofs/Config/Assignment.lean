/-
  To which instance each object of a document belongs.

  Every kind wants of an instance the items of its section with that address.
  In an accepted document each object belongs to one of the listed instances,
  and what is wanted of an instance repeats no key, as a comparison expects.

  * `KindName.address`, `Config.desired_eq`: what is wanted of an instance.
  * `Config.Assigned`: the objects of a section and the instances.
  * `Config.validation_decides`: which documents are accepted, what is said of
    the others, and what acceptance promises.
-/
import Concord.Proofs.Run.Kinds

namespace Concord

/-- The address of the instance that an item belongs to. -/
def KindName.address : (k : KindName) → k.Object → String
  | audit, (b : Backend) | engine, (b : Backend) => b.address
  | policy, (p : Policy) => p.address

namespace Config

variable {c : Config} {k : KindName}

theorem desired_eq (c : Config) (k : KindName) (a : String) :
    (c.kind k).desired a = (c.items k).filter fun x => k.address x = a := by
  cases k <;> rfl

/-- The objects of a section and the items that are wanted of the instances. -/
structure Assigned (c : Config) (k : KindName) : Prop where
  /-- What is wanted of an instance stands in the order of the document. -/
  ordered : ∀ a, ((c.kind k).desired a).Sublist (c.items k)
  /-- All that is wanted of the listed instances is the section, each object
      once. -/
  complete : (c.addresses.flatMap (c.kind k).desired).Perm (c.items k)
  /-- No object is wanted of two instances. -/
  unique : ∀ x ∈ c.items k, ∃! a, a ∈ c.addresses ∧ x ∈ (c.kind k).desired a
  nodup : ∀ a, (((c.kind k).desired a).map Item.key).Nodup

/-! ## One instance for each object -/

/-- A list in parts, by the values of a function that are all listed once. -/
theorem flatMap_filter_perm {β γ : Type} [DecidableEq γ] {f : β → γ} {xs : List β} {values : List γ}
    (hn : values.Nodup) (h : ∀ x ∈ xs, f x ∈ values) :
    (values.flatMap fun v => xs.filter fun x => f x = v).Perm xs := by
  induction values generalizing xs with
  | nil =>
    obtain rfl : xs = [] := List.eq_nil_iff_forall_not_mem.2 fun x hx => by cases h x hx
    exact .nil
  | cons v values ih =>
    obtain ⟨hv, hvalues⟩ := List.nodup_cons.1 hn
    let others := xs.filter fun x => !decide (f x = v)
    have hothers : ∀ x ∈ others, f x ∈ values := fun x hx => by
      obtain ⟨hmem, hne⟩ := List.mem_filter.1 hx
      exact (List.mem_cons.1 (h x hmem)).resolve_left (by simpa using hne)
    -- the parts of the other values have nothing of the first
    have hparts : (values.flatMap fun u => xs.filter fun x => f x = u) =
        values.flatMap fun u => others.filter fun x => f x = u := by
      refine List.flatMap_congr fun u hu => ?_
      rw [List.filter_filter]
      refine List.filter_congr fun x _ => ?_
      by_cases hx : f x = u
      · have hne : f x ≠ v := fun heq => hv (heq ▸ hx ▸ hu)
        simp [hx, hx ▸ hne]
      · simp [hx]
    rw [List.flatMap_cons, hparts]
    exact ((ih hvalues hothers).append_left _).trans (List.filter_append_perm _ xs)

theorem address_mem_of_wellFormed (h : c.WellFormed) {x : k.Object} (hx : x ∈ c.items k) :
    k.address x ∈ c.addresses := by
  cases k with
  | audit =>
    obtain ⟨b, hb, rfl⟩ := List.mem_map.1 hx
    exact (h.audits b hb).address
  | engine =>
    obtain ⟨b, hb, rfl⟩ := List.mem_map.1 hx
    exact (h.engines b hb).address
  | policy =>
    obtain ⟨p, hp, rfl⟩ := List.mem_map.1 hx
    exact (h.policies p hp).address

/-- **Every object has its instance** in an accepted document. -/
theorem Accepted.assigned (h : c.Accepted) (k : KindName) : c.Assigned k where
  ordered a := c.desired_eq k a ▸ List.filter_sublist
  complete := by
    have hparts := flatMap_filter_perm h.nodup_addresses fun x hx =>
      address_mem_of_wellFormed (k := k) (accepted_iff_wellFormed.1 h) hx
    rwa [← funext (c.desired_eq k)] at hparts
  unique x hx := by
    refine ⟨k.address x, ⟨?_, ?_⟩, fun a ha => ?_⟩
    · exact address_mem_of_wellFormed (accepted_iff_wellFormed.1 h) hx
    · rw [desired_eq]
      exact List.mem_filter.2 ⟨hx, by simp⟩
    · have hmem := ha.2
      rw [desired_eq] at hmem
      exact (of_decide_eq_true (List.mem_filter.1 hmem).2).symm
  nodup a := by
    cases k with
    | audit => exact h.nodup_audits a
    | engine => exact h.nodup_engines a
    | policy => exact h.nodup_policies a

/-- **The validation decides what the engine can handle.**  It accepts the
    well-formed documents and no others; of another document it reports the
    first check that does not hold.  In an accepted document each object of a
    kind is wanted of exactly one of the listed instances, once and in its
    place, and no two items wanted of an instance have one key. -/
theorem validation_decides (c : Config) :
    (c.Accepted ↔ c.WellFormed) ∧
      (∀ e, c.validate = .error e ↔ FirstFailure c.checks e) ∧
      (c.Accepted → ∀ k, c.Assigned k) :=
  ⟨accepted_iff_wellFormed, fun _ => c.validate_eq_error_iff, fun h => h.assigned⟩

theorem validation_decides_engine :
    let c := Run.engineDocument "kv"
    c.Accepted ∧ c.WellFormed ∧ c.Assigned .engine := by
  intro c
  have haccepted : c.Accepted := ⟨_, rfl⟩
  obtain ⟨hiff, -, hassigned⟩ := validation_decides c
  exact ⟨haccepted, hiff.1 haccepted, hassigned haccepted .engine⟩

end Config

end Concord
