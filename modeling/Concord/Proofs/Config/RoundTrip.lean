/-
  Documents that are written as JSON texts and read again.

  All of a text is read back but the options of mounts and audit devices, which
  are values of any kind: they are read anew from their texts.  A decimal among
  them need not be read as itself, and arrays and objects may nest too deep.

  * `Config.ofText?_toText`: what is read of the text of a document.
  * `Config.ReadsBack`: documents of which nothing is changed thereby.
  * `Config.reread_asRecord`: the JSON value in the text of a document.
  * `Config.format_round_trips`: documents as JSON values and as JSON texts.
-/
import Concord.Proofs.Config.Document
import Concord.Proofs.Json.Rereading
import Concord.Proofs.Schema.Acceptance

namespace Concord

open Json Shape

variable {depth : Nat}

/-! ## Instances, policies, mounts and audit devices -/

theorem InstanceSpec.reads_toJson (depth : Nat) (i : InstanceSpec) :
    Reads (schema.readChars (depth + 1)) i.toJson.compactChars (some i.toJson) := by
  refine reads_record_self "InstanceConfig" ?_ (by simp) (congrArg Except.ok i.ofMembers_values)
  intro e he
  rcases List.mem_pair.1 he with rfl | rfl
  · exact ⟨.text, none, rfl, reads_text _ _⟩
  · exact ⟨.text, some (.str "VAULT_TOKEN"), rfl, reads_text _ _⟩

theorem InstanceSpec.reads_reference (depth : Nat) (address : String) :
    Reads (referenceSchema.readChars (depth + 1)) (reference address).compactChars
      (some (reference address)) := by
  refine reads_record_self "InstanceRef" ?_ (List.pairwise_singleton _ _) rfl
  intro e he
  obtain rfl := List.mem_singleton.1 he
  exact ⟨.text, none, rfl, reads_text _ _⟩

theorem InstanceSpec.reread_toJson (depth : Nat) (i : InstanceSpec) :
    i.toJson.reread (depth + 1) = some i.toJson := by
  rw [toJson, Json.reread]
  simp only [List.mapM_cons, List.mapM_nil, keep, Json.reread]
  exact congrArg some i.ofMembers_values

theorem InstanceSpec.reread_reference (depth : Nat) (address : String) :
    (reference address).reread (depth + 1) = some (reference address) := by
  rw [reference, Json.reread]
  simp only [List.mapM_cons, List.mapM_nil, keep, Json.reread]
  rfl

theorem PolicySpec.reads_asRecord (depth : Nat) (p : PolicySpec) :
    Reads (schema.readChars (depth + 2)) p.asRecord.compactChars (some p.toJson) := by
  refine reads_record_self "PolicyConfig" ?_ (by simp) (congrArg Except.ok p.ofMembers_values)
  intro e he
  simp only [List.mem_cons, List.not_mem_nil, or_false] at he
  rcases he with rfl | rfl | rfl | rfl | rfl
  · exact ⟨.text, none, rfl, reads_text _ _⟩
  · exact ⟨.text, some (.str "acl"), rfl, reads_text _ _⟩
  · exact ⟨.text, some (.str ""), rfl, reads_text _ _⟩
  · exact ⟨InstanceSpec.referenceSchema, none, rfl, InstanceSpec.reads_reference depth p.address⟩
  · exact ⟨.text, none, rfl, reads_text _ _⟩

theorem PolicySpec.reread_asRecord (depth : Nat) (p : PolicySpec) :
    p.asRecord.reread (depth + 2) = some p.toJson := by
  have hinstance := InstanceSpec.reread_reference depth p.address
  rw [InstanceSpec.reference] at hinstance
  rw [asRecord, Json.reread]
  simp only [List.mapM_cons, List.mapM_nil, keep, hinstance]
  simp only [Json.reread]
  exact congrArg some p.ofMembers_values

namespace BackendSpec

variable {b : BackendSpec}

theorem exists_of_reread_ofDict {d : Dict Json} {j : Json}
    (h : (ofDict d).reread (depth + 1) = some j) : ∃ o, j = ofDict o := by
  rw [ofDict, Json.reread] at h
  obtain ⟨es, -, rfl⟩ := Option.map_eq_some_iff.1 h
  exact ⟨Dict.ofList es, rfl⟩

/-- A mount or an audit device whose options are read anew from their text. -/
def reread (depth : Nat) (b : BackendSpec) : Option BackendSpec :=
  ((ofDict b.options).reread (depth + 1)).map fun options => { b with options := options.members }

theorem reread_eq_self_iff :
    b.reread depth = some b ↔ (ofDict b.options).ReadsBack (depth + 1) := by
  rw [reread, ← Json.reread_eq_self_iff]
  constructor
  · intro h
    obtain ⟨j, hj, heq⟩ := Option.map_eq_some_iff.1 h
    obtain ⟨o, rfl⟩ := exists_of_reread_ofDict hj
    have hoptions : o = b.options := by
      rw [← members_ofDict o]
      exact congrArg BackendSpec.options heq
    rw [hj, hoptions]
  · intro h
    rw [h, Option.map_some, members_ofDict]

theorem reads_asRecord (name : String) (depth : Nat) (b : BackendSpec) :
    Reads ((schema name).readChars (depth + 2)) b.asRecord.compactChars
      ((b.reread depth).map toJson) := by
  -- of its members only the options may change
  refine reads_record name (g := fun e =>
    if e.1 = "options" then (ofDict b.options).reread (depth + 1) else some e.2) ?_ ?_ ?_
  · intro e he
    simp only [List.mem_cons, List.not_mem_nil, or_false] at he
    rcases he with rfl | rfl | rfl | rfl | rfl
    · exact ⟨.text, none, rfl, reads_text _ _⟩
    · exact ⟨.text, none, rfl, reads_text _ _⟩
    · exact ⟨.text, some (.str ""), rfl, reads_text _ _⟩
    · exact ⟨InstanceSpec.referenceSchema, none, rfl, InstanceSpec.reads_reference depth b.address⟩
    · refine ⟨.dict false .any, some (.obj []), rfl, ?_⟩
      show Reads _ _ ((ofDict b.options).reread (depth + 1))
      rw [ofDict, Json.reread]
      exact reads_dict false fun e _ => reads_reread depth e.2
  · simp
  · rw [reread]
    cases hoptions : (ofDict b.options).reread (depth + 1) with
    | none => simp [keep]
    | some j =>
      obtain ⟨o, rfl⟩ := exists_of_reread_ofDict hoptions
      rw [Option.map_some, Option.map_some, members_ofDict, ← ofMembers_values]
      simp only [List.mapM_cons, List.mapM_nil, keep]
      rfl

theorem reread_asRecord (depth : Nat) (h : (ofDict b.options).ReadsBack (depth + 1)) :
    b.asRecord.reread (depth + 2) = some b.toJson := by
  have hinstance := InstanceSpec.reread_reference depth b.address
  have hoptions := Json.reread_eq_self_iff.2 h
  rw [InstanceSpec.reference] at hinstance
  rw [asRecord, Json.reread]
  simp only [List.mapM_cons, List.mapM_nil, keep, hinstance, hoptions]
  simp only [Json.reread]
  exact congrArg some b.ofMembers_values

end BackendSpec

namespace Config

/-- A document whose options are read anew from their texts. -/
def reread (depth : Nat) (c : Config) : Option Config :=
  (c.audits.mapM (BackendSpec.reread depth)).bind fun audits =>
    (c.engines.mapM (BackendSpec.reread depth)).map fun engines =>
      { c with audits := audits, engines := engines }

theorem reads_backends (name : String) (depth : Nat) (l : List BackendSpec) :
    Reads ((Shape.list (BackendSpec.schema name)).readChars (depth + 3))
      (Json.arr (l.map BackendSpec.asRecord)).compactChars
      ((l.mapM (BackendSpec.reread depth)).map fun l => .arr (l.map BackendSpec.toJson)) := by
  have hlist := reads_list fun b (_ : b ∈ l) => BackendSpec.reads_asRecord name depth b
  rw [mapM_option_map, Option.map_map] at hlist
  exact hlist

theorem reads_asRecord (depth : Nat) (c : Config) :
    Reads (schema.readChars (depth + 4)) c.asRecord.compactChars
      ((c.reread depth).map toJson) := by
  refine reads_record "ConvergeConfig" (g := fun e =>
    if e.1 = "vault_audit_backends" then
      (c.audits.mapM (BackendSpec.reread depth)).map fun l => .arr (l.map BackendSpec.toJson)
    else if e.1 = "vault_secret_engines" then
      (c.engines.mapM (BackendSpec.reread depth)).map fun l => .arr (l.map BackendSpec.toJson)
    else if e.1 = "vault_policies" then some (.arr (c.policies.map PolicySpec.toJson))
    else some e.2) ?_ ?_ ?_
  · have hinstances := reads_list_map fun i (_ : i ∈ c.instances) =>
      InstanceSpec.reads_toJson (depth + 1) i
    have hpolicies := reads_list_map fun p (_ : p ∈ c.policies) =>
      PolicySpec.reads_asRecord depth p
    intro e he
    simp only [List.mem_cons, List.not_mem_nil, or_false] at he
    rcases he with rfl | rfl | rfl | rfl
    · exact ⟨.list InstanceSpec.schema, none, rfl, hinstances⟩
    · exact ⟨_, some (.arr []), rfl, reads_backends "AuditDeviceConfig" depth c.audits⟩
    · exact ⟨_, some (.arr []), rfl, reads_backends "SecretsEngineConfig" depth c.engines⟩
    · exact ⟨.list PolicySpec.schema, some (.arr []), rfl, hpolicies⟩
  · simp
  · rw [reread]
    cases c.audits.mapM (BackendSpec.reread depth) with
    | none => simp [keep]
    | some audits =>
      cases c.engines.mapM (BackendSpec.reread depth) with
      | none => simp [keep]
      | some engines =>
        simp only [Option.map_some, Option.bind_some]
        rw [← ofMembers_values]
        simp only [List.mapM_cons, List.mapM_nil, keep]
        rfl

/-- A document whose options are all read back from their texts.  They stand on
    the fourth level of the text. -/
def ReadsBack (c : Config) : Prop :=
  ∀ b ∈ c.audits ++ c.engines, (Json.ofDict b.options).ReadsBack (depthLimit - 3)

/-- **What is read of the text of a document** is the document with its options
    read anew. -/
theorem ofText?_toText (c : Config) : ofText? c.toText = c.reread 123 := by
  have hcanonical : ofCanonical ∘ toJson = id := funext ofCanonical_toJson
  have hreads : Reads (schema.readChars depthLimit) c.asRecord.compactChars _ :=
    reads_asRecord 123 c
  rw [ofText?, toText, ofText?_of_reads hreads, Option.map_map, hcanonical, Option.map_id, id]

theorem reread_eq_self_iff {c : Config} : c.reread 123 = some c ↔ c.ReadsBack := by
  have hitems : c.ReadsBack ↔ c.audits.mapM (BackendSpec.reread 123) = some c.audits ∧
      c.engines.mapM (BackendSpec.reread 123) = some c.engines := by
    rw [ReadsBack, List.forall_mem_append, mapM_eq_self_iff, mapM_eq_self_iff]
    exact and_congr (forall₂_congr fun _ _ => BackendSpec.reread_eq_self_iff.symm)
      (forall₂_congr fun _ _ => BackendSpec.reread_eq_self_iff.symm)
  rw [hitems]
  constructor
  · intro h
    obtain ⟨audits, haudits, hc⟩ := Option.bind_eq_some_iff.1 h
    obtain ⟨engines, hengines, heq⟩ := Option.map_eq_some_iff.1 hc
    rw [haudits, hengines]
    exact ⟨congrArg (some ∘ Config.audits) heq, congrArg (some ∘ Config.engines) heq⟩
  · rintro ⟨haudits, hengines⟩
    rw [reread, haudits, Option.bind_some, hengines, Option.map_some]

theorem reread_asRecord {c : Config} (h : c.ReadsBack) :
    c.asRecord.reread depthLimit = some c.toJson := by
  rw [ReadsBack, List.forall_mem_append] at h
  have hinstances := reread_arr_map fun i (_ : i ∈ c.instances) =>
    InstanceSpec.reread_toJson 124 i
  have haudits := reread_arr_map fun b hb =>
    BackendSpec.reread_asRecord 123 (h.1 b hb)
  have hengines := reread_arr_map fun b hb =>
    BackendSpec.reread_asRecord 123 (h.2 b hb)
  have hpolicies := reread_arr_map fun p (_ : p ∈ c.policies) =>
    PolicySpec.reread_asRecord 123 p
  rw [asRecord, depthLimit, Json.reread]
  simp only [List.mapM_cons, List.mapM_nil, keep, hinstances, haudits, hengines, hpolicies]
  exact congrArg some c.ofMembers_values

/-- **The text of a document holds its JSON value** if it is read back. -/
theorem read?_toText {c : Config} (h : c.ReadsBack) : Json.read? c.toText = some c.toJson := by
  rw [toText, read?_of_reads (reads_reread depthLimit c.asRecord), reread_asRecord h]

/-! ## Documents with one option -/

/-- The digits of a quotient are those of its double. -/
theorem number_of_quotient {text : List Char} {m n : Nat} {s d : Double} {r : Decimal}
    (hs : Double.nearest m 1 = some s) (hd : divideByPower 3 s (n + 1) = some d)
    (hr : d.shortest = (r.digits, r.exponent)) (hdigits : r.digits % 10 ≠ 0)
    (h : number text = (scaledDecimal r.negative m (-(n + 1))).map (·, [])) :
    number text = some (.float r, []) := by
  have hdecimal : d.toDecimal r.negative = r := by
    simp only [Double.toDecimal, hr]
    rw [Decimal.reduce, dif_neg hdigits]
  have hnegative : ¬(0 : Int) ≤ -(n + 1) := by omega
  have hn : (-(n + 1) : Int).natAbs = n + 1 := by omega
  rw [h, scaledDecimal, hs]
  simp only [Option.bind_eq_bind, Option.bind_some, if_neg hnegative, hn, hd, hdecimal,
    Option.map_some]

/-- A document with one option. -/
def withOption (j : Json) : Config where
  instances := [⟨"http://a", "VAULT_TOKEN"⟩]
  audits := []
  engines := [⟨"kv/", "kv", "", "http://a", Dict.empty.insert "ratio" j⟩]
  policies := []

theorem reread_withOption (j : Json) :
    (withOption j).reread 123 = (j.reread 123).map withOption := by
  have hoption : (Json.ofDict (Dict.empty.insert "ratio" j)).reread 124 =
      (j.reread 123).map fun j => Json.ofDict (Dict.empty.insert "ratio" j) := by
    show (Json.obj [("ratio", j)]).reread 124 = _
    simp only [Json.reread, List.mapM_cons, List.mapM_nil, keep]
    cases j.reread 123 <;> rfl
  rw [reread]
  simp only [withOption, List.mapM_cons, List.mapM_nil, BackendSpec.reread, hoption]
  cases j.reread 123 <;> rfl

/-- The decimal `0.125`. -/
def eighth : Decimal := ⟨false, 125, -3, .inl (by decide)⟩

theorem number_eighth : number eighth.json.toList = some (.float eighth, []) := by
  refine number_of_quotient (m := 125) (n := 2) (s := ⟨8796093022208000, -46⟩)
    (d := ⟨4503599627370496, -55⟩) ?_ ?_ ?_ (by decide) rfl
  · decide +kernel
  · decide +kernel
  · decide +kernel

/-- Three decimals, each of which is what is read of the text of the one before:
    `7.4350052557e-54`, `7.435005255699999e-54` and `7.435005255699998e-54`. -/
def drift : Fin 3 → Decimal
  | 0 => ⟨false, 74350052557, -64, .inl (by decide)⟩
  | 1 => ⟨false, 7435005255699999, -69, .inl (by decide)⟩
  | 2 => ⟨false, 7435005255699998, -69, .inl (by decide)⟩

theorem number_drift_zero : number (drift 0).json.toList = some (.float (drift 1), []) := by
  refine number_of_quotient (m := 74350052557) (n := 63) (s := ⟨4872605044375552, -16⟩)
    (d := ⟨6414315045237014, -229⟩) ?_ ?_ ?_ (by decide) rfl
  · decide +kernel
  · decide +kernel
  · decide +kernel

theorem number_drift_one : number (drift 1).json.toList = some (.float (drift 2), []) := by
  refine number_of_quotient (m := 7435005255699999) (n := 68) (s := ⟨7435005255699999, 0⟩)
    (d := ⟨6414315045237013, -229⟩) ?_ ?_ ?_ (by decide) rfl
  · decide +kernel
  · decide +kernel
  · decide +kernel

/-- An array in an array, and so on. -/
def nested : Nat → Json
  | 0 => .arr []
  | n + 1 => .arr [nested n]

theorem reread_nested {n : Nat} (h : depth ≤ n) : (nested n).reread depth = none := by
  induction depth generalizing n with
  | zero => cases n <;> rw [nested, Json.reread]
  | succ depth ih =>
    obtain ⟨n, rfl⟩ : ∃ m, n = m + 1 := ⟨n - 1, by omega⟩
    rw [nested, Json.reread, List.mapM_cons, ih (by omega)]
    rfl

/-! ## The format -/

/-- **The format of documents round-trips** as JSON values, and as JSON texts as
    far as options are read back.

    As JSON values: a document is read back from what is written of it, and what
    a value is decoded to is written with everything that the value leaves out.  A
    value that is completed to what is written of a document is decoded to that
    document, whatever it leaves out or adds.

    As JSON texts: a document is read back from its text just if its options are,
    and the text then holds its JSON value.  What a text is decoded to is what its
    value is decoded to, and a value that is read back is decoded from its text. -/
theorem format_round_trips :
    ((∀ c : Config, ofJson? c.toJson = .ok c) ∧
      (∀ d c, ofJson? d = .ok c → ofJson? c.toJson = .ok c ∧ Explicit d c) ∧
      ∀ d c, d.Distinct → Completes schema d c.toJson → ofJson? d = .ok c) ∧
    (∀ c : Config, ofText? c.toText = some c ↔ c.ReadsBack) ∧
    (∀ c : Config, c.ReadsBack → Json.read? c.toText = some c.toJson) ∧
    (∀ s d c, ofText? s = some c → Json.read? s = some d → ofJson? d = .ok c ∧ Explicit d c) ∧
    ∀ d c, d.ReadsBack depthLimit → ofJson? d = .ok c → ofText? d.compact = some c := by
  refine ⟨⟨ofJson?_toJson, fun d c h => ⟨ofJson?_toJson c, explicit_of_ofJson? h⟩,
    fun d c hd h => ofJson?_of_completes hd h⟩, fun c => ?_, fun c h => read?_toText h,
    fun s d c hc hd => ?_, fun d c hd h => ?_⟩
  · rw [ofText?_toText, reread_eq_self_iff]
  · obtain ⟨j, hj, rfl⟩ := Option.map_eq_some_iff.1 hc
    have hread : ofJson? d = .ok (ofCanonical j) := by
      rw [ofJson?, read_of_ofText? sound_schema hj hd]
      rfl
    exact ⟨hread, explicit_of_ofJson? hread⟩
  · obtain ⟨j, hj, rfl⟩ := map_eq_ok_iff.1 h
    rw [ofText?, ofText?_compact sound_schema hd hj, Option.map_some]

/-- A value that leaves out what may be missing and has members that the schema
    does not know. -/
def sparse : Json :=
  .obj [("instances", .arr [.obj [("address", .str "http://a")],
      .obj [("address", .str "http://b"), ("token_env", .str "B_TOKEN")]]),
    ("vault_policies", .arr [.obj [("instance", .obj [("address", .str "http://b")]),
      ("name", .str "reader"), ("rules", .str "deny")]]),
    ("vault_secret_engines", .arr [.obj [("_path", .str "kv/"),
      ("instance", .obj [("address", .str "http://a"), ("zone", .null)]),
      ("options", .obj [("ratio", .float eighth)]), ("type", .str "kv")]]),
    ("version", .int 2)]

/-- The document of that value. -/
def sparseDocument : Config where
  instances := [⟨"http://a", "VAULT_TOKEN"⟩, ⟨"http://b", "B_TOKEN"⟩]
  audits := []
  engines := [⟨"kv/", "kv", "", "http://a", Dict.empty.insert "ratio" (.float eighth)⟩]
  policies := [⟨"reader", "acl", "", "http://b", "deny"⟩]

theorem format_round_trips_sparse :
    ofJson? sparse = .ok sparseDocument ∧ sparse.ReadsBack depthLimit ∧
      Json.read? sparse.compact = some sparse ∧
      ofText? sparse.compact = some sparseDocument ∧ sparseDocument.ReadsBack ∧
      ofText? sparseDocument.toText = some sparseDocument ∧
      Json.read? sparseDocument.toText = some sparseDocument.toJson ∧ sparse.Distinct ∧
      Completes schema sparse sparseDocument.toJson ∧
      sparseDocument.toJson.get? "vault_audit_backends" = some (.arr []) := by
  have hread : ofJson? sparse = .ok sparseDocument := rfl
  have hdistinct : sparse.Distinct := by
    simp [sparse, Json.Distinct.str, Json.Distinct.int, Json.Distinct.null, Json.Distinct.float]
  have hratio : ∀ depth, (Json.float eighth).ReadsBack depth := fun _ => .float number_eighth
  have hback : sparse.ReadsBack depthLimit := by
    have hversion : (Json.int 2).ReadsBack 126 := .int (by decide) (by decide)
    simp only [sparse, depthLimit, readsBack_obj_iff, readsBack_arr_iff, List.forall_mem_cons,
      List.not_mem_nil, false_implies, implies_true, List.map_cons, List.map_nil, and_true,
      Json.ReadsBack.str, Json.ReadsBack.null, hratio, hversion, true_and]
    -- what is left is that the members of each object are in order
    decide
  have hdocument : sparseDocument.ReadsBack := by
    intro b hb
    obtain rfl := List.mem_singleton.1 hb
    show (Json.obj [("ratio", .float eighth)]).ReadsBack 124
    simp [hratio]
  have hsparse : Json.read? sparse.compact = some sparse := by
    rw [read?_of_reads (reads_reread depthLimit sparse), Json.reread_eq_self_iff.2 hback]
  obtain ⟨⟨-, -, hcompleted⟩, htext, hvalue, hread?, hdecodes⟩ := format_round_trips
  have hdecoded := hdecodes sparse sparseDocument hback hread
  obtain ⟨-, hexplicit⟩ := hread? _ _ _ hdecoded hsparse
  have hmissing := hexplicit.sections "vault_audit_backends" (by decide) _ rfl rfl
  exact ⟨hcompleted _ _ hdistinct hexplicit.completes, hback, hsparse, hdecoded, hdocument,
    (htext _).2 hdocument, hvalue _ hdocument, hdistinct, hexplicit.completes, hmissing⟩

/-- Options that are decimals drift from one text to the next, and those that
    nest too deep are not read at all. -/
theorem options_change :
    ofText? (withOption (.float (drift 0))).toText = some (withOption (.float (drift 1))) ∧
      ofText? (withOption (.float (drift 1))).toText = some (withOption (.float (drift 2))) ∧
      withOption (.float (drift 1)) ≠ withOption (.float (drift 2)) ∧
      ofText? (withOption (nested 124)).toText = none := by
  have hnested : (nested 124).reread 123 = none := reread_nested (by decide)
  simp only [ofText?_toText, reread_withOption, Json.reread, number_drift_zero, number_drift_one,
    hnested, Option.map_some, Option.map_none, true_and, and_true]
  intro h
  have hratio : [some (Json.float (drift 1))] = [some (Json.float (drift 2))] :=
    congrArg (fun c : Config => c.engines.map fun b : BackendSpec => b.options.get? "ratio") h
  simp only [List.cons.injEq, Option.some.injEq, Json.float.injEq, and_true] at hratio
  exact absurd hratio (by decide)

end Config

end Concord
