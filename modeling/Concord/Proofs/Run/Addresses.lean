/-
  Instances that are listed under two addresses.

  The validation compares the addresses of a document as they are written, and
  an instance is known to a run by its address.  A URL is made of an address
  without the slashes at its end.  So two listed instances have the same URLs
  exactly if one address is the other with slashes after it; the validation
  gives no more than a warning then.  What is wanted under one of the addresses
  is nobody's under the other, where all of it is found and deleted.

  * `EqUpToSlashes`, `Http.urlText_eq_iff`: two addresses with the same URLs.
  * `Server.SameAt`, `Http.sameAt_server`: calls that come to the same.
  * `Config.Clash`, `Config.Separate`: what two instances are to a run.
  * `Config.clash_or_separate`: which of the two they are.
-/
import Mathlib.Data.List.DropRight
import Concord.Proofs.Run.Deletions
import Concord.Server.Http

namespace Concord

open Session

variable {σ : Type} {a b : String}

/-! ## Addresses and URLs -/

/-- An address is another one with slashes after it. -/
def SlashesAfter (a b : String) : Prop := ∃ n, b.toList = a.toList ++ List.replicate n '/'

/-- Two addresses differ at most in the number of slashes at their ends. -/
def EqUpToSlashes (a b : String) : Prop := SlashesAfter a b ∨ SlashesAfter b a

theorem SlashesAfter.getLast? (h : SlashesAfter a b) (hne : a ≠ b) :
    b.toList.getLast? = some '/' := by
  obtain ⟨n, hn⟩ := h
  have hpos : n ≠ 0 := by
    rintro rfl
    exact hne (String.toList_inj.1 (by simpa using hn.symm))
  rw [hn, List.getLast?_append, List.getLast?_replicate, if_neg hpos]
  rfl

namespace Text

theorem stripListEnd_append_replicate {p : Char → Bool} {x : Char} (hx : p x = true)
    (cs : List Char) (n : Nat) :
    stripListEnd p (cs ++ List.replicate n x) = stripListEnd p cs := by
  induction n with
  | zero => rw [List.replicate_zero, List.append_nil]
  | succ n ih =>
    rw [List.replicate_succ', ← List.append_assoc]
    exact (List.rdropWhile_concat_pos p _ x hx).trans ih

/-- A text ends in the characters of a class that are stripped from it. -/
theorem exists_eq_stripListEnd_append {p : Char → Bool} {x : Char} (hx : ∀ c, p c = true → c = x)
    (cs : List Char) : ∃ n, cs = stripListEnd p cs ++ List.replicate n x := by
  refine ⟨(cs.rtakeWhile p).length, ?_⟩
  have htail : cs.rtakeWhile p = List.replicate (cs.rtakeWhile p).length x :=
    List.eq_replicate_iff.2 ⟨rfl, fun c hc => hx c (List.mem_rtakeWhile_imp hc)⟩
  rw [← htail]
  exact List.rdropWhile_append_rtakeWhile.symm

end Text

namespace Http

/-- An address as it stands in URLs. -/
def base (address : String) : String := Text.stripEnd MountPath.isSlash address

theorem base_eq_iff : base a = base b ↔ EqUpToSlashes a b := by
  have hslash : ∀ c, MountPath.isSlash c = true → c = '/' := fun c hc => beq_iff_eq.1 hc
  rw [base, base, Text.stripEnd, Text.stripEnd, String.ofList_inj]
  constructor
  · intro h
    obtain ⟨m, hm⟩ := Text.exists_eq_stripListEnd_append hslash a.toList
    obtain ⟨n, hn⟩ := Text.exists_eq_stripListEnd_append hslash b.toList
    -- the address with fewer slashes is the start of the other
    rcases Nat.le_total m n with hmn | hmn
    · refine .inl ⟨n - m, ?_⟩
      rw [hn, hm, ← h, List.append_assoc, List.replicate_append_replicate, Nat.add_sub_cancel' hmn]
    · refine .inr ⟨m - n, ?_⟩
      rw [hm, hn, h, List.append_assoc, List.replicate_append_replicate, Nat.add_sub_cancel' hmn]
  · rintro (⟨n, hn⟩ | ⟨n, hn⟩)
    · rw [hn, Text.stripListEnd_append_replicate rfl]
    · rw [hn, Text.stripListEnd_append_replicate rfl]

/-- **The URLs of an endpoint** on two addresses are the same exactly if the
    addresses differ at most in slashes at their ends. -/
theorem urlText_eq_iff (path : String) : urlText a path = urlText b path ↔ EqUpToSlashes a b := by
  rw [← base_eq_iff]
  simp only [urlText, base, String.append_left_inj]

end Http

/-! ## Calls that come to the same -/

/-- A server that makes no difference between two addresses but in its errors,
    which name them. -/
structure Server.SameAt (server : Server σ) (a b : String) : Prop where
  answer : ∀ q s, (server.ask a q s).1.toOption = (server.ask b q s).1.toOption
  asked : ∀ q s, (server.ask a q s).2 = (server.ask b q s).2
  effect : ∀ m s, (server.change a m s).1.toOption = (server.change b m s).1.toOption
  changed : ∀ m s, (server.change a m s).2 = (server.change b m s).2

theorem toOption_eq_some_iff {ε β : Type} {x : Except ε β} {v : β} :
    x.toOption = some v ↔ x = .ok v := by
  cases x <;> simp [Except.toOption]

theorem Server.SameAt.answer_iff {server : Server σ} (h : server.SameAt a b) {q : Query} {s : σ}
    {answer : q.Answer} :
    (server.ask a q s).1 = .ok answer ↔ (server.ask b q s).1 = .ok answer := by
  rw [← toOption_eq_some_iff, h.answer, toOption_eq_some_iff]

theorem toOption_bind_congr {ε β γ : Type} {x y : Except ε β} {f g : β → Except ε γ}
    (h : x.toOption = y.toOption) (hfg : ∀ v, (f v).toOption = (g v).toOption) :
    (x >>= f).toOption = (y >>= g).toOption := by
  cases x with
  | error e =>
    cases y with
    | error e' => rfl
    | ok v => cases h
  | ok v =>
    cases y with
    | error e' => cases h
    | ok v' =>
      obtain rfl : v = v' := Option.some.inj h
      exact hfg v

namespace Http

variable {tokens : Dict String}

theorem toOption_accept (a b : String) (r : HttpResponse) :
    (accept a r).toOption = (accept b r).toOption := by
  unfold accept
  cases rejection? r.status with
  | some reason => rfl
  | none => dsimp only; split <;> rfl

theorem toOption_answer (a b : String) (q : Query) (r : HttpResponse) :
    (answer a q r).toOption = (answer b q r).toOption := by
  refine toOption_bind_congr (toOption_accept a b r) fun r => ?_
  split
  · cases q <;> rfl
  · unfold decode
    split <;> rfl

theorem toOption_effect (a b : String) (m : Mutation) (r : HttpResponse) :
    (effect a m r).toOption = (effect b m r).toOption := by
  refine toOption_bind_congr (toOption_accept a b r) fun r => ?_
  split <;> rfl

theorem toOption_prepare (h : EqUpToSlashes a b) (htoken : tokens.get? a = tokens.get? b)
    (operation : Operation) :
    (prepare tokens a operation).toOption = (prepare tokens b operation).toOption := by
  rw [prepare, prepare, htoken]
  cases tokens.get? b with
  | none => rfl
  | some token =>
    have hrequest : request a token operation.endpoint = request b token operation.endpoint := by
      rw [request, request, (urlText_eq_iff _).2 h]
    dsimp only
    rw [hrequest]
    cases request b token operation.endpoint <;> rfl

/-- The same request is sent, and the transport goes on in the same state. -/
theorem send_congr (transport : Transport σ) (h : EqUpToSlashes a b)
    (htoken : tokens.get? a = tokens.get? b) (operation : Operation) (s : σ) :
    (send tokens transport a operation s).1.toOption =
        (send tokens transport b operation s).1.toOption ∧
      (send tokens transport a operation s).2 = (send tokens transport b operation s).2 := by
  have hprepare := toOption_prepare h htoken operation
  unfold send
  cases ha : prepare tokens a operation with
  | error e =>
    cases hb : prepare tokens b operation with
    | error e' => exact ⟨rfl, rfl⟩
    | ok r => rw [ha, hb] at hprepare; cases hprepare
  | ok r =>
    cases hb : prepare tokens b operation with
    | error e' => rw [ha, hb] at hprepare; cases hprepare
    | ok r' =>
      rw [ha, hb] at hprepare
      obtain rfl : r = r' := Option.some.inj hprepare
      dsimp only
      cases transport r s with
      | mk response s => cases response <;> exact ⟨rfl, rfl⟩

/-- **Behind HTTP** two addresses of the same URLs come to the same, with one
    token. -/
theorem sameAt_server (transport : Transport σ) (h : EqUpToSlashes a b)
    (htoken : tokens.get? a = tokens.get? b) : (server tokens transport).SameAt a b where
  answer q s := toOption_bind_congr (send_congr transport h htoken (.query q) s).1
    (toOption_answer a b q)
  asked q s := (send_congr transport h htoken (.query q) s).2
  effect m s := toOption_bind_congr (send_congr transport h htoken (.mutation m) s).1
    (toOption_effect a b m)
  changed m s := (send_congr transport h htoken (.mutation m) s).2

end Http

/-- A server that is reached by URLs: a call is for what stands behind the URLs
    of its address. -/
def Server.behindUrls (server : Server σ) : Server σ where
  ask address := server.ask (Http.base address)
  change address := server.change (Http.base address)

theorem Server.sameAt_behindUrls (server : Server σ) (h : EqUpToSlashes a b) :
    server.behindUrls.SameAt a b := by
  have hbase : Http.base a = Http.base b := Http.base_eq_iff.2 h
  constructor <;> intro _ _ <;> simp only [behindUrls, hbase]

/-! ## Passes -/

namespace Pass

/-- **A pass deletes what is wanted under another address** of its instance: of
    a key that is not wanted under its own, all that the listing shows. -/
theorem deletions_of_sameAt {ctx : Context σ} {w : World σ} (k : KindName) (items : List k.Object)
    (hsame : ctx.server.SameAt a b) {listed : k.listing.Answer}
    (hlisted : (ctx.server.ask a k.listing w.server).1 = .ok listed)
    (hfetch : ∃ found, ((k.toKind items).fetch ctx b).result w = .ok found) {key : String}
    (hkey : key ∉ ((k.toKind items).desired b).map Item.key)
    (hbuiltin : k.comesWithInstance key = false) :
    ((onInstance ctx (k.toKind items) b).result w).deletions key =
      (k.listedKeys listed).count key := by
  obtain ⟨found, hfound⟩ := hfetch
  obtain ⟨listed', hlisted', hkeys⟩ := k.keys_of_fetch items hfound
  obtain rfl : listed = listed' :=
    Except.ok.inj ((hsame.answer_iff.1 hlisted).symm.trans hlisted')
  rw [deletions_onInstance k items hfound, hbuiltin, if_neg Bool.false_ne_true, if_neg hkey,
    hkeys.count_eq]

/-- A pass by URLs leaves what stands behind others. -/
theorem instance_onInstance_behindUrls {ctx : Context Memory} {k : KindName} {items : List k.Object}
    (hc : ctx.server = Memory.server.behindUrls) (h : ¬ EqUpToSlashes a b) (w : World Memory) :
    ((onInstance ctx (k.toKind items) b).after w).server.instances.get? (Http.base a) =
      w.server.instances.get? (Http.base a) := by
  have hne : Http.base a ≠ Http.base b := fun heq => h (Http.base_eq_iff.1 heq)
  have hbears : Bears (Fixes fun w : World Memory => w.server.instances.get? (Http.base a)) ctx
      (k.toKind items) b :=
    { asks := (k.serves items).asks
      reading := ⟨fun _ _ => rfl, fun _ _ => hc ▸ rfl⟩
      change := fun _ _ _ m _ w => hc ▸ Memory.fixes_other hne m w }
  exact keeps_onInstance hbears w

end Pass

/-! ## Listed instances -/

namespace Config

/-- Two listed instances that are one and the same to whoever gets the
    requests. -/
structure Clash (c : Config) (x y : InstanceSpec) : Prop where
  urls : ∀ path, Http.urlText x.address path = Http.urlText y.address path
  /-- Calls to the two come to the same, if both have one token. -/
  calls : ∀ {σ : Type} (tokens : Dict String) (transport : Transport σ),
    tokens.get? x.address = tokens.get? y.address →
      (Http.server tokens transport).SameAt x.address y.address
  /-- What is wanted of the first and found there is deleted by a pass on the
      second, unless it is wanted of the second too. -/
  deleted : ∀ {σ : Type} (ctx : Context σ), ctx.server.SameAt x.address y.address →
    ∀ (k : KindName) (w : World σ) (listed : k.listing.Answer),
      (ctx.server.ask x.address k.listing w.server).1 = .ok listed →
      (∃ found, ((c.kind k).fetch ctx y.address).result w = .ok found) →
      ∀ key ∈ ((c.kind k).desired x.address).map Item.key,
        key ∉ ((c.kind k).desired y.address).map Item.key → k.comesWithInstance key = false →
          ((Pass.onInstance ctx (c.kind k) y.address).result w).deletions key =
            (k.listedKeys listed).count key

/-- Two listed instances whose requests go to different places. -/
structure Separate (c : Config) (x y : InstanceSpec) : Prop where
  urls : ∀ path, Http.urlText x.address path ≠ Http.urlText y.address path
  /-- A pass on the second leaves what stands behind the URLs of the first. -/
  untouched : ∀ ctx : Context Memory, ctx.server = Memory.server.behindUrls →
    ∀ (k : KindName) (w : World Memory),
      ((Pass.onInstance ctx (c.kind k) y.address).after w).server.instances.get?
          (Http.base x.address) =
        w.server.instances.get? (Http.base x.address)

variable {c : Config} {x y : InstanceSpec}

theorem clash_of_eqUpToSlashes (c : Config) (h : EqUpToSlashes x.address y.address) :
    c.Clash x y where
  urls path := (Http.urlText_eq_iff path).2 h
  calls _ transport htoken := Http.sameAt_server transport h htoken
  deleted ctx hsame k w listed hlisted hfetch key _ hkey hbuiltin := by
    rw [c.kind_eq] at hfetch hkey ⊢
    exact Pass.deletions_of_sameAt k (c.items k) hsame hlisted hfetch hkey hbuiltin

theorem separate_of_not_eqUpToSlashes (c : Config) (h : ¬ EqUpToSlashes x.address y.address) :
    c.Separate x y where
  urls path heq := h ((Http.urlText_eq_iff path).1 heq)
  untouched ctx hc k w := by
    rw [c.kind_eq]
    exact Pass.instance_onInstance_behindUrls hc h w

theorem eq_of_validate_eq_ok {warnings : List String} (h : c.validate = .ok warnings) :
    c.warnings = warnings := by
  unfold validate at h
  split at h
  · exact Except.ok.inj h
  · cases h

/-- An address that ends in a slash is warned of. -/
theorem exists_warning_of_getLast? {i : Nat} (hx : c.instances[i]? = some x)
    (hslash : x.address.toList.getLast? = some '/') :
    ∃ text ∈ instanceWarnings i x, text ∈ c.warnings := by
  have hwarned : instanceWarnings i x ∈ c.instances.mapIdx instanceWarnings :=
    List.mem_mapIdx.2 ⟨i, (List.getElem?_eq_some_iff.1 hx).1,
      congrArg (instanceWarnings i) (List.getElem?_eq_some_iff.1 hx).2⟩
  have hone : ∃ text, instanceWarnings i x = [text] := ⟨_, if_pos hslash⟩
  obtain ⟨text, htext⟩ := hone
  refine ⟨text, htext ▸ List.mem_singleton_self text, ?_⟩
  have hmem : text ∈ (c.instances.mapIdx instanceWarnings).flatten :=
    List.mem_flatten.2 ⟨_, hwarned, htext ▸ List.mem_singleton_self text⟩
  simp only [warnings, List.mem_append, hmem, true_or]

/-- **Two listed instances are two servers or one.**  The addresses of an
    accepted document differ as they are written.  If they differ by more than
    slashes at their ends, the instances have no URL of an endpoint in common,
    and a pass on one leaves what stands behind the URLs of the other.  If they
    do not, all URLs are the same, the validation gives a warning for one of
    them, and a pass on one deletes what is wanted of the other. -/
theorem clash_or_separate (h : c.Accepted) {i j : Nat} (hx : c.instances[i]? = some x)
    (hy : c.instances[j]? = some y) (hij : i ≠ j) :
    x.address ≠ y.address ∧
      (¬ EqUpToSlashes x.address y.address → c.Separate x y) ∧
      (EqUpToSlashes x.address y.address → c.Clash x y ∧
        ∀ warnings, c.validate = .ok warnings →
          ∃ text ∈ instanceWarnings i x ++ instanceWarnings j y, text ∈ warnings) := by
  have hne : x.address ≠ y.address := by
    intro heq
    have hx' : c.addresses[i]? = some x.address := by rw [addresses, List.getElem?_map, hx]; rfl
    have hy' : c.addresses[j]? = some y.address := by rw [addresses, List.getElem?_map, hy]; rfl
    have hi : i < c.addresses.length := (List.getElem?_eq_some_iff.1 hx').1
    exact hij ((List.getElem?_inj hi h.nodup_addresses).1 (hx'.trans (heq ▸ hy'.symm)))
  refine ⟨hne, c.separate_of_not_eqUpToSlashes, fun hslashes => ⟨c.clash_of_eqUpToSlashes hslashes,
    fun warnings hwarnings => ?_⟩⟩
  obtain rfl : c.warnings = warnings := eq_of_validate_eq_ok hwarnings
  -- the longer of the two addresses ends in a slash
  rcases hslashes with hafter | hafter
  · obtain ⟨text, htext, hmem⟩ := exists_warning_of_getLast? hy (hafter.getLast? hne)
    exact ⟨text, List.mem_append_right _ htext, hmem⟩
  · obtain ⟨text, htext, hmem⟩ := exists_warning_of_getLast? hx (hafter.getLast? hne.symm)
    exact ⟨text, List.mem_append_left _ htext, hmem⟩

/-- A document that lists an instance under two addresses, with a mount for
    each of them. -/
def listedTwice : Config :=
  ⟨[⟨"http://a", "TOKEN"⟩, ⟨"http://a/", "TOKEN"⟩], [],
    [⟨"kv/", "kv", "", "http://a", Dict.empty⟩, ⟨"db/", "database", "", "http://a/", Dict.empty⟩],
    []⟩

theorem clash_or_separate_slash :
    let c := listedTwice
    let c' : Config := ⟨[⟨"http://a", "TOKEN"⟩, ⟨"http://b", "TOKEN"⟩], [], [], []⟩
    let mounts := InstanceState.fresh.mounts.insert "kv/" (InstanceState.builtinMount "kv")
    let w := World.ofInstance "http://a" { InstanceState.fresh with mounts := mounts }
    c.Accepted ∧ c.Clash ⟨"http://a", "TOKEN"⟩ ⟨"http://a/", "TOKEN"⟩ ∧
      ((Pass.onInstance ⟨Memory.server.behindUrls, false, 2, []⟩ (c.kind .engine)
        "http://a/").result w).deletions "kv/" = 1 ∧
      c'.Accepted ∧ c'.Separate ⟨"http://a", "TOKEN"⟩ ⟨"http://b", "TOKEN"⟩ := by
  intro c c' mounts w
  have haccepted : c.Accepted := ⟨_, rfl⟩
  have haccepted' : c'.Accepted := ⟨_, rfl⟩
  have hslash : EqUpToSlashes "http://a" "http://a/" := .inl ⟨1, rfl⟩
  have hother : ¬ EqUpToSlashes "http://a" "http://b" := fun h =>
    absurd (Http.base_eq_iff.2 h) (by decide)
  obtain ⟨-, -, hone⟩ := clash_or_separate haccepted (i := 0) (j := 1) rfl rfl (by decide)
  obtain ⟨-, htwo, -⟩ := clash_or_separate haccepted' (i := 0) (j := 1) rfl rfl (by decide)
  have hclash := (hone hslash).1
  have hdeleted := hclash.deleted ⟨Memory.server.behindUrls, false, 2, []⟩
    (Memory.server.sameAt_behindUrls hslash) .engine w mounts rfl ⟨_, rfl⟩ "kv/" (by decide)
    (by decide) (by decide)
  exact ⟨haccepted, hclash, hdeleted.trans (by decide), haccepted', htwo hother⟩

/-- **An instance that is listed twice** gets the mount of its first address and
    loses it again under the second, and so in the next run. -/
theorem listed_twice_undone :
    let c := listedTwice
    let w : World Memory :=
      ⟨.ofInstances (Dict.ofList [("http://a", InstanceState.fresh)]), .ofAddresses c.addresses,
        [], []⟩
    let run := Run.perform ⟨Memory.server.behindUrls, false, 2, []⟩ c [.engine]
      ⟨"first", ⟨0, 0⟩, Decimal.zero false⟩
    let w₁ := run.after w
    c.Accepted ∧ c.addresses = ["http://a", "http://a/"] ∧
      (∀ path, Http.urlText "http://a" path = Http.urlText "http://a/" path) ∧
      (run.result w).success = true ∧
      "kv/" ∈ ((c.kind .engine).desired "http://a").map Item.key ∧
      (run.result w).outcomes.map (fun o => (o.address, o.applied, o.deletions "kv/")) =
        [("http://a", 1, 0), ("http://a/", 2, 1)] ∧
      (w₁.server.state "http://a").mounts.keys = ["cubbyhole/", "db/", "identity/", "sys/"] ∧
      (run.result w₁).outcomes.map (fun o => (o.address, o.applied, o.deletions "kv/")) =
        [("http://a", 2, 0), ("http://a/", 2, 1)] ∧
      ((run.after w₁).server.state "http://a").mounts.keys =
        ["cubbyhole/", "db/", "identity/", "sys/"] := by
  intro c w run w₁
  exact ⟨⟨_, rfl⟩, rfl, fun _ => rfl, by decide +kernel, by decide, by decide +kernel,
    by decide +kernel, by decide +kernel, by decide +kernel⟩

end Config

end Concord
