/-
  Which objects the URLs of a document name.

  A name or a path is put into a URL as it is, and the path of a URL ends where
  its query or its fragment begins.  So what stands behind the mark of one of
  these in a name is not part of the endpoint, and neither is the name itself
  if the address has a mark.  The path of a mount that is tuned has a word more,
  which another mount can end in.

  * `Http.pathPart`, `Http.IsPlain`: the path of a URL, and what leaves it.
  * `Http.target`: the endpoint that a call reaches.
  * `Http.shows_target_iff`: which endpoints show the whole key of their object.
  * `Config.faithful_iff`: which documents have an endpoint for each object.
-/
import Concord.Proofs.Config.Assignment
import Concord.Proofs.MountPath
import Concord.Proofs.Run.Addresses

namespace Concord

/-! ## Paths of URLs -/

namespace Http

variable {s t a key : String}

/-- The marks at which a query and a fragment begin. -/
def endsPath (c : Char) : Bool := c == '?' || c == '#'

/-- A URL up to the end of its path. -/
def pathPart (url : String) : String :=
  String.ofList (url.toList.takeWhile fun c => !endsPath c)

/-- A text in which no path ends. -/
def IsPlain (s : String) : Prop := ∀ c ∈ s.toList, endsPath c = false

instance : DecidablePred IsPlain :=
  fun s => List.decidableBAll (fun c => endsPath c = false) s.toList

theorem isPlain_append : IsPlain (s ++ t) ↔ IsPlain s ∧ IsPlain t := by
  simp [IsPlain, or_imp, forall_and]

theorem isPlain_pathPart (s : String) : IsPlain (pathPart s) := by
  intro c hc
  rw [pathPart, String.toList_ofList] at hc
  simpa using List.mem_takeWhile_imp hc

theorem pathPart_of_isPlain (h : IsPlain s) : pathPart s = s := by
  rw [pathPart, List.takeWhile_eq_self_iff.2 fun c hc => by simp [h c hc], String.ofList_toList]

/-- Nothing that follows a mark is part of the path. -/
theorem pathPart_append_of_not_isPlain (h : ¬ IsPlain s) (t : String) :
    pathPart (s ++ t) = pathPart s := by
  have hlength : (s.toList.takeWhile fun c => !endsPath c).length ≠ s.toList.length := by
    intro heq
    have hself := (List.takeWhile_prefix _).eq_of_length heq
    exact h fun c hc => by simpa using List.takeWhile_eq_self_iff.1 hself c hc
  rw [pathPart, String.toList_append, List.takeWhile_append, if_neg hlength]
  rfl

theorem isSlash_of_endsPath {c : Char} (h : endsPath c = true) : MountPath.isSlash c = false := by
  rw [endsPath, Bool.or_eq_true, beq_iff_eq, beq_iff_eq] at h
  rcases h with rfl | rfl <;> rfl

/-- Texts with the same marks are both plain or neither is. -/
theorem isPlain_congr (h : ∀ c, endsPath c = true → (c ∈ s.toList ↔ c ∈ t.toList)) :
    IsPlain s ↔ IsPlain t := by
  have hmarks : ∀ s, IsPlain s ↔ ∀ c, endsPath c = true → c ∉ s.toList := fun s =>
    forall_congr' fun c => by rw [← Bool.not_eq_true, imp_not_comm]
  rw [hmarks, hmarks]
  exact forall₂_congr fun c hc => not_congr (h c hc)

theorem isPlain_base : IsPlain (base a) ↔ IsPlain a := by
  refine isPlain_congr fun c hc => ?_
  rw [base, Text.stripEnd, String.toList_ofList, Text.mem_stripListEnd_iff (isSlash_of_endsPath hc)]

theorem isPlain_segment : IsPlain (MountPath.segment key) ↔ IsPlain key := by
  refine isPlain_congr fun c hc => ?_
  rw [MountPath.segment, Text.toList_strip, Text.mem_stripList_iff (isSlash_of_endsPath hc)]

/-- The slashes at the end of an address are not part of a path that ends
    before them. -/
theorem pathPart_base (h : ¬ IsPlain a) : pathPart (base a) = pathPart a := by
  have hslash : ∀ c, MountPath.isSlash c = true → c = '/' := fun c hc => beq_iff_eq.1 hc
  obtain ⟨n, hn⟩ := Text.exists_eq_stripListEnd_append hslash a.toList
  have ha : a = base a ++ String.ofList (List.replicate n '/') := by
    rw [← String.toList_inj, String.toList_append, base, Text.stripEnd, String.toList_ofList,
      String.toList_ofList, ← hn]
  conv_rhs => rw [ha]
  exact (pathPart_append_of_not_isPlain (mt isPlain_base.1 h) _).symm

end Http

/-! ## Objects and their endpoints -/

namespace Operation

variable {key key' : String} {op op' : Operation} {k : KindName}

/-- An operation on the object of a kind that has a key. -/
def On (k : KindName) (key : String) : Operation → Prop
  | query q => k = .policy ∧ q = .readPolicy key
  | mutation m => m.kind = k ∧ (mutation m).key? = some key

/-- The path of an object. -/
def objectPath (key : String) : KindName → String
  | .policy => policyPath key
  | .engine => mountPath key
  | .audit => auditPath key

/-- What an operation has behind the path of its object. -/
def suffix : Operation → String
  | mutation (.tuneEngine ..) => "/tune"
  | _ => ""

/-- The removal of an object. -/
def removal (key : String) : KindName → Operation
  | .policy => mutation (.deletePolicy key)
  | .engine => mutation (.disableEngine key)
  | .audit => mutation (.disableAudit key)

theorem on_removal (k : KindName) (key : String) : (removal key k).On k key := by
  cases k <;> exact ⟨rfl, rfl⟩

theorem method_removal (k : KindName) (key : String) :
    (removal key k).endpoint.method = .delete := by
  cases k <;> rfl

/-- **The path of an operation** is that of its object and the suffix of the
    operation. -/
theorem path_of_on (h : op.On k key) : op.endpoint.path = objectPath key k ++ op.suffix := by
  cases op with
  | query q =>
    obtain ⟨rfl, rfl⟩ := h
    exact (String.append_empty ..).symm
  | mutation m =>
    cases m with
    | tuneEngine path s =>
      obtain ⟨rfl, hkey⟩ := h
      cases hkey
      rfl
    | _ =>
      obtain ⟨rfl, hkey⟩ := h
      cases hkey
      exact (String.append_empty ..).symm

theorem suffix_of_on (h : op.On k key) : op.suffix = "" ∨ k = .engine ∧ op.suffix = "/tune" := by
  cases op with
  | query q => exact .inl rfl
  | mutation m => cases m <;> first | exact .inl rfl | exact .inr ⟨h.1.symm, rfl⟩

theorem isPlain_suffix (op : Operation) : Http.IsPlain op.suffix := by
  unfold suffix
  split <;> decide

theorem isPlain_objectPath : Http.IsPlain (objectPath key k) ↔ Http.IsPlain key := by
  cases k with
  | policy => exact Http.isPlain_append.trans (and_iff_right (by decide))
  | engine | audit =>
    exact (Http.isPlain_append.trans (and_iff_right (by decide))).trans Http.isPlain_segment

/-- No path of an object begins with a slash. -/
theorem stripStart_objectPath (key : String) (k : KindName) (t : String) :
    Text.stripStart MountPath.isSlash (objectPath key k ++ t) = objectPath key k ++ t := by
  have hsys : ∀ s, Text.stripStart MountPath.isSlash ("sys/" ++ s) = "sys/" ++ s := by
    intro s
    have hlist : ("sys/" ++ s).toList = 's' :: 'y' :: 's' :: '/' :: s.toList :=
      String.toList_append
    rw [Text.stripStart, hlist, List.dropWhile_cons_of_neg (by decide), ← hlist,
      String.ofList_toList]
  obtain ⟨rest, hrest⟩ : ∃ rest, objectPath key k = "sys/" ++ rest := by
    cases k with
    | policy => exact ⟨"policies/acl/" ++ key, by rw [← String.append_assoc]; rfl⟩
    | engine => exact ⟨"mounts/" ++ MountPath.segment key, by rw [← String.append_assoc]; rfl⟩
    | audit => exact ⟨"audit/" ++ MountPath.segment key, by rw [← String.append_assoc]; rfl⟩
  rw [hrest, String.append_assoc, hsys]

/-! ## Normal keys -/

/-- A key as documents and listings have it: a path ends in one slash. -/
def IsNormal (k : KindName) (key : String) : Prop :=
  k = .policy ∨ key = MountPath.segment key ++ "/"

theorem objectPath_inj (h : IsNormal k key) (h' : IsNormal k key')
    (heq : objectPath key k = objectPath key' k) : key = key' := by
  have hsegment : MountPath.segment key = MountPath.segment key' → k ≠ .policy → key = key' :=
    fun hseg hk => by rw [h.resolve_left hk, h'.resolve_left hk, hseg]
  cases k with
  | policy => exact (String.append_right_inj _).1 heq
  | engine => exact hsegment ((String.append_right_inj _).1 heq) (by decide)
  | audit => exact hsegment ((String.append_right_inj _).1 heq) (by decide)

/-- A mount is where another one is tuned if its path goes on with that word. -/
theorem mountPath_eq_tune_iff (h : IsNormal .engine key) (h' : IsNormal .engine key') :
    mountPath key = mountPath key' ++ "/tune" ↔ key = key' ++ "tune/" := by
  have hkey := h.resolve_left (by decide)
  have hkey' := h'.resolve_left (by decide)
  have hword : MountPath.segment key' ++ "/" ++ "tune/" =
      MountPath.segment key' ++ "/tune" ++ "/" := by
    rw [String.append_assoc, String.append_assoc]
    rfl
  calc mountPath key = mountPath key' ++ "/tune"
      _ ↔ MountPath.segment key = MountPath.segment key' ++ "/tune" := by
        rw [mountPath, mountPath, String.append_assoc, String.append_right_inj]
      _ ↔ MountPath.segment key ++ "/" = MountPath.segment key' ++ "/" ++ "tune/" := by
        rw [hword, String.append_left_inj]
      _ ↔ key = key' ++ "tune/" := by rw [← hkey, ← hkey']

/-- **Two operations with one path** are on one object, unless one of them
    tunes a mount. -/
theorem eq_or_tune_of_path_eq (hn : IsNormal k key) (hn' : IsNormal k key') (h : op.On k key)
    (h' : op'.On k key')
    (heq : objectPath key k ++ op.suffix = objectPath key' k ++ op'.suffix) :
    key = key' ∨ k = .engine ∧ (key = key' ++ "tune/" ∨ key' = key ++ "tune/") := by
  rcases suffix_of_on h with hs | ⟨rfl, hs⟩ <;> rcases suffix_of_on h' with hs' | ⟨hk, hs'⟩ <;>
    rw [hs, hs'] at heq
  · rw [String.append_empty, String.append_empty] at heq
    exact .inl (objectPath_inj hn hn' heq)
  · subst hk
    rw [String.append_empty] at heq
    exact .inr ⟨rfl, .inl ((mountPath_eq_tune_iff hn hn').1 heq)⟩
  · rw [String.append_empty] at heq
    exact .inr ⟨rfl, .inr ((mountPath_eq_tune_iff hn' hn).1 heq.symm)⟩
  · exact .inl (objectPath_inj hn hn' ((String.append_left_inj _).1 heq))

end Operation

/-! ## What calls reach -/

namespace Http

variable {a key key' path : String} {op op' : Operation} {k : KindName}

theorem urlText_of_on (h : op.On k key) (a : String) :
    urlText a op.endpoint.path =
      base a ++ ("/v1/" ++ (Operation.objectPath key k ++ op.suffix)) := by
  rw [Operation.path_of_on h, urlText, Operation.stripStart_objectPath, String.append_assoc]
  rfl

/-- The endpoint that a call reaches: a method, and a URL without what follows
    its path. -/
def target (address : String) (op : Operation) : HttpMethod × String :=
  (op.endpoint.method, pathPart (urlText address op.endpoint.path))

theorem target_of_isPlain (ha : IsPlain a) (hkey : IsPlain key) (h : op.On k key) :
    target a op =
      (op.endpoint.method, base a ++ ("/v1/" ++ (Operation.objectPath key k ++ op.suffix))) := by
  have hpath : IsPlain ("/v1/" ++ (Operation.objectPath key k ++ op.suffix)) :=
    isPlain_append.2 ⟨by decide,
      isPlain_append.2 ⟨Operation.isPlain_objectPath.2 hkey, Operation.isPlain_suffix op⟩⟩
  rw [target, urlText_of_on h, pathPart_of_isPlain (isPlain_append.2 ⟨isPlain_base.2 ha, hpath⟩)]

/-- All calls of one method reach one endpoint behind an address with a mark. -/
theorem target_of_not_isPlain (ha : ¬ IsPlain a) (h : op.On k key) :
    target a op = (op.endpoint.method, pathPart a) := by
  rw [target, urlText_of_on h, pathPart_append_of_not_isPlain (mt isPlain_base.1 ha),
    pathPart_base ha]

/-- A path shows a key: that of a policy after the path of policies at its end,
    that of a mount or an audit device anywhere, without slashes at its ends. -/
def Shows (k : KindName) (key path : String) : Prop :=
  match k with
  | .policy => (Operation.policyPath key).toList <:+ path.toList
  | .audit | .engine => (MountPath.segment key).toList <:+: path.toList

theorem isPlain_of_part {s t : String} (h : t.toList <:+: s.toList) (hs : IsPlain s) :
    IsPlain t :=
  fun c hc => hs c (h.subset hc)

theorem isPlain_of_shows (hpath : IsPlain path) (h : Shows k key path) : IsPlain key := by
  cases k with
  | policy =>
    exact (Operation.isPlain_objectPath (k := .policy)).1 (isPlain_of_part h.isInfix hpath)
  | engine => exact isPlain_segment.1 (isPlain_of_part h hpath)
  | audit => exact isPlain_segment.1 (isPlain_of_part h hpath)

/-- The URL of an operation shows the key of its object. -/
theorem shows_url (h : op.On k key) (s : String) :
    Shows k key (s ++ (Operation.objectPath key k ++ op.suffix)) := by
  cases k with
  | policy =>
    have hsuffix : op.suffix = "" := (Operation.suffix_of_on h).resolve_right (by simp)
    rw [hsuffix, String.append_empty]
    exact ⟨s.toList, String.toList_append.symm⟩
  | engine =>
    refine ⟨(s ++ "sys/mounts/").toList, op.suffix.toList, ?_⟩
    simp only [Operation.objectPath, Operation.mountPath, String.toList_append, List.append_assoc]
  | audit =>
    refine ⟨(s ++ "sys/audit/").toList, op.suffix.toList, ?_⟩
    simp only [Operation.objectPath, Operation.auditPath, String.toList_append, List.append_assoc]

/-- **An endpoint shows the key of its object** if there is no mark in it, nor
    in the address. -/
theorem shows_target_iff (h : op.On k key) :
    Shows k key (target a op).2 ↔
      IsPlain key ∧ (IsPlain a ∨ Shows k key (pathPart a)) := by
  constructor
  · intro hshows
    refine ⟨isPlain_of_shows (isPlain_pathPart _) hshows, or_iff_not_imp_left.2 fun ha => ?_⟩
    rwa [target_of_not_isPlain ha h] at hshows
  · rintro ⟨hkey, ha⟩
    by_cases hplain : IsPlain a
    · rw [target_of_isPlain hplain hkey h, ← String.append_assoc]
      exact shows_url h _
    · rw [target_of_not_isPlain hplain h]
      exact ha.resolve_left hplain

end Http

/-! ## Documents -/

namespace Config

open Http

variable {c : Config} {k : KindName} {a : String}

/-- The objects of a kind that a document wants on an instance have endpoints
    of their own. -/
structure Faithful (c : Config) (k : KindName) (a : String) : Prop where
  /-- Every call on an object reaches an endpoint that shows its key. -/
  shown : ∀ x ∈ (c.kind k).desired a, ∀ op, Operation.On k (Item.key x) op →
    Shows k (Item.key x) (target a op).2
  /-- Calls on two objects do not reach one endpoint. -/
  apart : ∀ x ∈ (c.kind k).desired a, ∀ y ∈ (c.kind k).desired a, Item.key x ≠ Item.key y →
    ∀ op op', Operation.On k (Item.key x) op → Operation.On k (Item.key y) op' →
      target a op ≠ target a op'

/-- The keys of the objects can be put into URLs as they are. -/
structure Spliced (c : Config) (k : KindName) (a : String) : Prop where
  /-- No key has a mark. -/
  keys : ∀ x ∈ (c.kind k).desired a, IsPlain (Item.key x)
  /-- No mount is where another one is tuned. -/
  tune : k = .engine → ∀ x ∈ (c.kind k).desired a, ∀ y ∈ (c.kind k).desired a,
    Item.key x ≠ Item.key y ++ "tune/"
  /-- The address has no mark, or it shows the key of the only object. -/
  address : IsPlain a ∨ ((c.kind k).desired a).length ≤ 1 ∧
    ∀ x ∈ (c.kind k).desired a, Shows k (Item.key x) (pathPart a)

theorem isNormal_of_mem_desired {x : k.Object} (hx : x ∈ (c.kind k).desired a) :
    Operation.IsNormal k (Item.key x) := by
  rw [desired_eq] at hx
  have hitem := (List.mem_filter.1 hx).1
  cases k with
  | policy => exact .inl rfl
  | engine =>
    obtain ⟨b, -, rfl⟩ := List.mem_map.1 hitem
    exact .inr (MountPath.normalize_eq_segment b.path)
  | audit =>
    obtain ⟨b, -, rfl⟩ := List.mem_map.1 hitem
    exact .inr (MountPath.normalize_eq_segment b.path)

theorem eq_of_length_le_one {α : Type} {l : List α} (h : l.length ≤ 1) {x y : α} (hx : x ∈ l)
    (hy : y ∈ l) : x = y := by
  match l, h with
  | [z], _ => rw [List.mem_singleton.1 hx, List.mem_singleton.1 hy]

theorem length_le_one_of_key_eq {α : Type} [Item α] {l : List α}
    (hn : (l.map Item.key).Nodup) (h : ∀ x ∈ l, ∀ y ∈ l, Item.key x = Item.key y) :
    l.length ≤ 1 := by
  match l with
  | [] | [_] => simp
  | x :: y :: l =>
    have hkey := h x (by simp) y (by simp)
    simp [hkey] at hn

theorem Spliced.faithful (h : c.Spliced k a) : c.Faithful k a where
  shown x hx op hop :=
    (shows_target_iff hop).2 ⟨h.keys x hx, h.address.imp_right fun haddress => haddress.2 x hx⟩
  apart x hx y hy hne op op' hop hop' heq := by
    rcases h.address with ha | ⟨hlength, -⟩
    · rw [target_of_isPlain ha (h.keys x hx) hop, target_of_isPlain ha (h.keys y hy) hop'] at heq
      have hurl := (Prod.mk.inj heq).2
      have hpath := (String.append_right_inj _).1 ((String.append_right_inj _).1 hurl)
      rcases Operation.eq_or_tune_of_path_eq (isNormal_of_mem_desired hx)
        (isNormal_of_mem_desired hy) hop hop' hpath with hkey | ⟨hk, htune | htune⟩
      · exact hne hkey
      · exact h.tune hk x hx y hy htune
      · exact h.tune hk y hy x hx htune
    · exact hne (congrArg Item.key (eq_of_length_le_one hlength hx hy))

theorem Faithful.key_ne_tune (h : c.Faithful .engine a) {x y : Backend}
    (hx : x ∈ (c.kind .engine).desired a) (hy : y ∈ (c.kind .engine).desired a) :
    Item.key x ≠ Item.key y ++ "tune/" := by
  intro heq
  have hne : Item.key x ≠ Item.key y := fun hkey => by
    have hlength := congrArg String.length (hkey.symm.trans heq)
    rw [String.length_append] at hlength
    have hword : "tune/".length = 5 := rfl
    omega
  -- the first mount is enabled where the second one is tuned
  have hpath := (Operation.mountPath_eq_tune_iff (isNormal_of_mem_desired hx)
    (isNormal_of_mem_desired hy)).2 heq
  refine h.apart x hx y hy hne (.mutation (.enableEngine (Item.key x) x.settings))
    (.mutation (.tuneEngine (Item.key y) y.settings)) ⟨rfl, rfl⟩ ⟨rfl, rfl⟩ ?_
  exact congrArg (fun path => (HttpMethod.post, pathPart (urlText a path))) hpath

theorem Faithful.spliced (hc : c.Accepted) (h : c.Faithful k a) : c.Spliced k a where
  keys x hx := by
    have hshown := h.shown x hx _ (Operation.on_removal k _)
    exact ((shows_target_iff (Operation.on_removal k _)).1 hshown).1
  tune := by
    rintro rfl x hx y hy
    exact h.key_ne_tune hx hy
  address := by
    refine or_iff_not_imp_left.2 fun ha => ⟨?_, fun x hx => ?_⟩
    · refine length_le_one_of_key_eq ((hc.assigned k).nodup a) fun x hx y hy => ?_
      by_contra hne
      refine h.apart x hx y hy hne _ _ (Operation.on_removal k _) (Operation.on_removal k _) ?_
      rw [target_of_not_isPlain ha (Operation.on_removal k _),
        target_of_not_isPlain ha (Operation.on_removal k _), Operation.method_removal,
        Operation.method_removal]
    · have hshown := h.shown x hx _ (Operation.on_removal k _)
      exact ((shows_target_iff (Operation.on_removal k _)).1 hshown).2.resolve_left ha

/-- **Every object has endpoints of its own**, which show its key, exactly if
    the keys can be put into URLs as they are. -/
theorem faithful_iff (hc : c.Accepted) (k : KindName) (a : String) :
    c.Faithful k a ↔ c.Spliced k a :=
  ⟨Faithful.spliced hc, Spliced.faithful⟩

theorem faithful_iff_engine :
    let c := Run.engineDocument "kv"
    c.Accepted ∧ c.Faithful .engine "http://a" := by
  intro c
  have haccepted : c.Accepted := ⟨_, rfl⟩
  refine ⟨haccepted, (faithful_iff haccepted .engine "http://a").2 ⟨?_, fun _ => ?_, .inl ?_⟩⟩ <;>
    decide

/-- **Two policies share an endpoint** if their names differ only behind a
    mark. -/
theorem marked_names_share_endpoint :
    let c : Config := ⟨[⟨"http://a", "TOKEN"⟩], [], [],
      [⟨"a?b", "acl", "", "http://a", "x"⟩, ⟨"a?c", "acl", "", "http://a", "y"⟩]⟩
    c.Accepted ∧ ((c.kind .policy).desired "http://a").map Item.key = ["a?b", "a?c"] ∧
      target "http://a" (.mutation (.writePolicy "a?b" "x")) =
        (.put, "http://a/v1/sys/policies/acl/a") ∧
      target "http://a" (.mutation (.writePolicy "a?c" "y")) =
        (.put, "http://a/v1/sys/policies/acl/a") ∧
      ¬ c.Faithful .policy "http://a" := by
  intro c
  have hb : target "http://a" (.mutation (.writePolicy "a?b" "x")) =
      (.put, "http://a/v1/sys/policies/acl/a") := by decide
  have hc : target "http://a" (.mutation (.writePolicy "a?c" "y")) =
      (.put, "http://a/v1/sys/policies/acl/a") := by decide
  refine ⟨⟨_, rfl⟩, by decide, hb, hc, fun h => ?_⟩
  have hapart := h.apart ⟨"a?b", "x", "acl", "", "http://a"⟩ (by decide)
    ⟨"a?c", "y", "acl", "", "http://a"⟩ (by decide) (by decide)
  exact hapart (.mutation (.writePolicy "a?b" "x")) (.mutation (.writePolicy "a?c" "y"))
    ⟨rfl, rfl⟩ ⟨rfl, rfl⟩ (hb.trans hc.symm)

end Config

end Concord
