/-
  Documents that are written as JSON values and read again.

  A document is written with every field, so what is written is in canonical
  form: the schema reads it as it is.  The canonical forms are just what
  documents are written as, and a document is known by what it is written as.

  For instances, mounts and audit devices, policies, and documents:

  * `sound_schema`: defaults are values of their shapes.
  * `read_toJson`: what is written is read as it is.
  * `ofCanonical_toJson`, `exists_of_completes`: canonical forms and what they
    are written of.

  `Config.ofJson?_toJson` and `Config.explicit_of_ofJson?` are the results about
  documents as JSON values.
-/
import Concord.Config.Document
import Concord.Proofs.Json.Reading
import Concord.Proofs.Schema.Canonical

namespace Concord

open Shape

variable {d j : Json}

/-! ## Instances -/

namespace InstanceSpec

theorem sound_schema : schema.Sound := by
  refine .record (by decide) ?_ ?_
  · simp [Sound.text]
  · simp [Completes.text]

/-- The values of an instance in the order of its shape. -/
def values (i : InstanceSpec) : List Json := [.str i.address, .str i.tokenVariable]

theorem ofMembers_values (i : InstanceSpec) :
    Json.ofMembers (["address", "token_env"].zip i.values) = i.toJson :=
  Json.ofMembers_of_mem_iff (by show ["address", "token_env"].Nodup; decide)
    (by show ["address", "token_env"].Pairwise (· < ·); decide) fun _ => Iff.rfl

theorem read_toJson (i : InstanceSpec) : schema.read i.toJson = .ok i.toJson := by
  rw [← ofMembers_values]
  exact read_ofMembers_eq_self (by decide) (.cons rfl (.cons rfl .nil))

theorem ofCanonical_toJson (i : InstanceSpec) : ofCanonical i.toJson = i := rfl

theorem exists_of_completes (h : Completes schema d j) : ∃ i : InstanceSpec, j = i.toJson := by
  obtain ⟨_, rfl, hvs⟩ := exists_of_completes_record sound_schema h
  obtain _ | ⟨⟨_, haddress⟩, _ | ⟨⟨_, htoken⟩, _ | _⟩⟩ := hvs
  obtain ⟨address, rfl⟩ := exists_of_completes_text haddress
  obtain ⟨token, rfl⟩ := exists_of_completes_text htoken
  exact ⟨⟨address, token⟩, ofMembers_values ⟨address, token⟩⟩

end InstanceSpec

/-! ## References to instances -/

/-- The reference to an instance. -/
def InstanceSpec.reference (address : String) : Json := .obj [("address", .str address)]

theorem InstanceSpec.sound_referenceSchema : referenceSchema.Sound := by
  refine .record (by decide) ?_ ?_
  · simp [Sound.text]
  · simp

theorem InstanceSpec.read_reference (address : String) :
    referenceSchema.read (reference address) = .ok (reference address) :=
  read_ofMembers_eq_self (by decide) (.cons rfl .nil)

theorem InstanceSpec.exists_of_completes_reference (h : Completes referenceSchema d j) :
    ∃ address, j = reference address := by
  obtain ⟨_, rfl, hvs⟩ := exists_of_completes_record sound_referenceSchema h
  obtain _ | ⟨⟨_, haddress⟩, _ | _⟩ := hvs
  obtain ⟨address, rfl⟩ := exists_of_completes_text haddress
  exact ⟨address, rfl⟩

/-! ## Mounts and audit devices -/

namespace BackendSpec

variable {name : String}

theorem sound_schema (name : String) : (schema name).Sound := by
  refine .record (by decide) ?_ ?_
  · simp [Sound.text, Sound.any, Sound.dict, InstanceSpec.sound_referenceSchema]
  · have hoptions : Completes (.dict false .any) (.obj []) (.obj []) :=
      completes_of_read (.dict .any) (read_dict_any Dict.empty)
    simp [Completes.text, hoptions]

/-- The values of a mount or an audit device in the order of its shape. -/
def values (b : BackendSpec) : List Json :=
  [.str b.path, .str b.type, .str b.description, InstanceSpec.reference b.address,
    Json.ofDict b.options]

theorem ofMembers_values (b : BackendSpec) :
    Json.ofMembers (["_path", "type", "description", "instance", "options"].zip b.values) =
      b.toJson := by
  refine Json.ofMembers_of_mem_iff ?_ ?_ fun e => ?_
  · show ["_path", "type", "description", "instance", "options"].Nodup
    decide
  · show ["_path", "description", "instance", "options", "type"].Pairwise (· < ·)
    decide
  · simp only [values, List.zip_cons_cons, List.zip_nil_right, List.mem_cons, List.not_mem_nil]
    tauto

theorem read_toJson (b : BackendSpec) : (schema name).read b.toJson = .ok b.toJson := by
  rw [← ofMembers_values]
  exact read_ofMembers_eq_self (by decide) (.cons rfl (.cons rfl (.cons rfl
    (.cons (InstanceSpec.read_reference _) (.cons (read_dict_any _) .nil)))))

theorem ofCanonical_toJson (b : BackendSpec) : ofCanonical b.toJson = b := by
  obtain ⟨path, type, description, address, options⟩ := b
  show BackendSpec.mk path type description address (Json.ofDict options).members = _
  rw [Json.members_ofDict]

theorem exists_of_completes (h : Completes (schema name) d j) :
    ∃ b : BackendSpec, j = b.toJson := by
  obtain ⟨_, rfl, hvs⟩ := exists_of_completes_record (sound_schema name) h
  obtain _ | ⟨⟨_, hpath⟩, _ | ⟨⟨_, htype⟩, _ | ⟨⟨_, hdescription⟩, _ | ⟨⟨_, hinstance⟩,
    _ | ⟨⟨_, hoptions⟩, _ | _⟩⟩⟩⟩⟩ := hvs
  obtain ⟨path, rfl⟩ := exists_of_completes_text hpath
  obtain ⟨type, rfl⟩ := exists_of_completes_text htype
  obtain ⟨description, rfl⟩ := exists_of_completes_text hdescription
  obtain ⟨address, rfl⟩ := InstanceSpec.exists_of_completes_reference hinstance
  obtain ⟨options, rfl⟩ := exists_of_completes_dict hoptions
  exact ⟨_, ofMembers_values ⟨path, type, description, address, options⟩⟩

end BackendSpec

/-! ## Policies -/

namespace PolicySpec

theorem sound_schema : schema.Sound := by
  refine .record (by decide) ?_ ?_
  · simp [Sound.text, InstanceSpec.sound_referenceSchema]
  · simp [Completes.text]

/-- The values of a policy in the order of its shape. -/
def values (p : PolicySpec) : List Json :=
  [.str p.name, .str p.type, .str p.description, InstanceSpec.reference p.address, .str p.rules]

theorem ofMembers_values (p : PolicySpec) :
    Json.ofMembers (["name", "type", "description", "instance", "rules"].zip p.values) =
      p.toJson := by
  refine Json.ofMembers_of_mem_iff ?_ ?_ fun e => ?_
  · show ["name", "type", "description", "instance", "rules"].Nodup
    decide
  · show ["description", "instance", "name", "rules", "type"].Pairwise (· < ·)
    decide
  · simp only [values, List.zip_cons_cons, List.zip_nil_right, List.mem_cons, List.not_mem_nil]
    tauto

theorem read_toJson (p : PolicySpec) : schema.read p.toJson = .ok p.toJson := by
  rw [← ofMembers_values]
  exact read_ofMembers_eq_self (by decide) (.cons rfl (.cons rfl (.cons rfl
    (.cons (InstanceSpec.read_reference _) (.cons rfl .nil)))))

theorem ofCanonical_toJson (p : PolicySpec) : ofCanonical p.toJson = p := rfl

theorem exists_of_completes (h : Completes schema d j) : ∃ p : PolicySpec, j = p.toJson := by
  obtain ⟨_, rfl, hvs⟩ := exists_of_completes_record sound_schema h
  obtain _ | ⟨⟨_, hname⟩, _ | ⟨⟨_, htype⟩, _ | ⟨⟨_, hdescription⟩, _ | ⟨⟨_, hinstance⟩,
    _ | ⟨⟨_, hrules⟩, _ | _⟩⟩⟩⟩⟩ := hvs
  obtain ⟨name, rfl⟩ := exists_of_completes_text hname
  obtain ⟨type, rfl⟩ := exists_of_completes_text htype
  obtain ⟨description, rfl⟩ := exists_of_completes_text hdescription
  obtain ⟨address, rfl⟩ := InstanceSpec.exists_of_completes_reference hinstance
  obtain ⟨rules, rfl⟩ := exists_of_completes_text hrules
  exact ⟨_, ofMembers_values ⟨name, type, description, address, rules⟩⟩

end PolicySpec

/-! ## Documents -/

namespace Config

theorem sound_schema : schema.Sound := by
  have hempty : ∀ item, Completes (.list item) (.arr []) (.arr []) := fun _ =>
    .list rfl (by simp)
  refine .record (by decide) ?_ ?_
  · simp [Sound.list, InstanceSpec.sound_schema, BackendSpec.sound_schema, PolicySpec.sound_schema]
  · simp [hempty]

/-- The sections of a document in the order of its shape. -/
def values (c : Config) : List Json :=
  [.arr (c.instances.map InstanceSpec.toJson), .arr (c.audits.map BackendSpec.toJson),
    .arr (c.engines.map BackendSpec.toJson), .arr (c.policies.map PolicySpec.toJson)]

theorem ofMembers_values (c : Config) :
    Json.ofMembers
      (["instances", "vault_audit_backends", "vault_secret_engines", "vault_policies"].zip
        c.values) = c.toJson := by
  refine Json.ofMembers_of_mem_iff ?_ ?_ fun e => ?_
  · show ["instances", "vault_audit_backends", "vault_secret_engines", "vault_policies"].Nodup
    decide
  · show ["instances", "vault_audit_backends", "vault_policies", "vault_secret_engines"].Pairwise
      (· < ·)
    decide
  · simp only [values, List.zip_cons_cons, List.zip_nil_right, List.mem_cons, List.not_mem_nil]
    tauto

/-- **What is written is read as it is.** -/
theorem read_toJson (c : Config) : schema.read c.toJson = .ok c.toJson := by
  rw [← ofMembers_values]
  exact read_ofMembers_eq_self (by decide)
    (.cons (read_list_map InstanceSpec.read_toJson _)
      (.cons (read_list_map (fun _ => BackendSpec.read_toJson _) _)
        (.cons (read_list_map (fun _ => BackendSpec.read_toJson _) _)
          (.cons (read_list_map PolicySpec.read_toJson _) .nil))))

theorem ofCanonical_toJson (c : Config) : ofCanonical c.toJson = c := by
  obtain ⟨instances, audits, engines, policies⟩ := c
  show Config.mk ((instances.map InstanceSpec.toJson).map InstanceSpec.ofCanonical)
    ((audits.map BackendSpec.toJson).map BackendSpec.ofCanonical)
    ((engines.map BackendSpec.toJson).map BackendSpec.ofCanonical)
    ((policies.map PolicySpec.toJson).map PolicySpec.ofCanonical) = _
  have hbackend : BackendSpec.ofCanonical ∘ BackendSpec.toJson = id :=
    funext BackendSpec.ofCanonical_toJson
  have hinstance : InstanceSpec.ofCanonical ∘ InstanceSpec.toJson = id :=
    funext InstanceSpec.ofCanonical_toJson
  have hpolicy : PolicySpec.ofCanonical ∘ PolicySpec.toJson = id :=
    funext PolicySpec.ofCanonical_toJson
  simp only [List.map_map, hinstance, hbackend, hpolicy, List.map_id]

/-- What the schema makes of a value is written by a document. -/
theorem exists_of_completes (h : Completes schema d j) : ∃ c : Config, j = c.toJson := by
  obtain ⟨_, rfl, hvs⟩ := exists_of_completes_record sound_schema h
  obtain _ | ⟨⟨_, hinstances⟩, _ | ⟨⟨_, haudits⟩, _ | ⟨⟨_, hengines⟩, _ | ⟨⟨_, hpolicies⟩,
    _ | _⟩⟩⟩⟩ := hvs
  obtain ⟨instances, rfl⟩ := exists_of_completes_list (fun _ _ => InstanceSpec.exists_of_completes)
    hinstances
  obtain ⟨audits, rfl⟩ := exists_of_completes_list (fun _ _ => BackendSpec.exists_of_completes)
    haudits
  obtain ⟨engines, rfl⟩ := exists_of_completes_list (fun _ _ => BackendSpec.exists_of_completes)
    hengines
  obtain ⟨policies, rfl⟩ := exists_of_completes_list (fun _ _ => PolicySpec.exists_of_completes)
    hpolicies
  exact ⟨_, ofMembers_values ⟨instances, audits, engines, policies⟩⟩

/-! ## What is written -/

/-- The members of an item of a section that may be missing, with their values
    then. -/
def optional : List (String × String × Json) :=
  [("instances", "token_env", .str "VAULT_TOKEN"),
    ("vault_audit_backends", "description", .str ""),
    ("vault_audit_backends", "options", .obj []),
    ("vault_secret_engines", "description", .str ""),
    ("vault_secret_engines", "options", .obj []),
    ("vault_policies", "type", .str "acl"),
    ("vault_policies", "description", .str "")]

/-- A document written with everything that its value leaves out. -/
structure Explicit (d : Json) (c : Config) : Prop where
  /-- What is written is the value completed by the schema: what it has is kept,
      what the schema does not know is left out, and defaults are filled in. -/
  completes : Completes schema d c.toJson
  /-- A section that is missing is written without items. -/
  sections : ∀ s ∈ ["vault_audit_backends", "vault_secret_engines", "vault_policies"],
    ∀ ms, d = .obj ms → ms.lookup s = none → c.toJson.get? s = some (.arr [])
  /-- A member that is missing from an item is written with its default. -/
  members : ∀ s k v, (s, k, v) ∈ optional → ∀ ms ds (i : Nat) item, d = .obj ms →
    ms.lookup s = some (.arr ds) → ds[i]? = some (.obj item) → item.lookup k = none →
      ∃ written : Json, (c.toJson.get s).items[i]? = some written ∧ written.get? k = some v

theorem Explicit.of_completes {c : Config} (h : Completes schema d c.toJson) : Explicit d c where
  completes := h
  sections := by
    rintro s hs ms rfl hnone
    simp only [List.mem_cons, List.not_mem_nil, or_false] at hs
    rcases hs with rfl | rfl | rfl
    · exact h.get?_missing sound_schema (.tail _ (.head _)) hnone
    · exact h.get?_missing sound_schema (.tail _ (.tail _ (.head _))) hnone
    · exact h.get?_missing sound_schema (.tail _ (.tail _ (.tail _ (.head _)))) hnone
  members := by
    rintro s k v hs ms ds i item rfl hgiven hitem hnone
    simp only [optional, List.mem_cons, Prod.mk.injEq, List.not_mem_nil, or_false] at hs
    rcases hs with ⟨rfl, rfl, rfl⟩ | ⟨rfl, rfl, rfl⟩ | ⟨rfl, rfl, rfl⟩ | ⟨rfl, rfl, rfl⟩ |
      ⟨rfl, rfl, rfl⟩ | ⟨rfl, rfl, rfl⟩ | ⟨rfl, rfl, rfl⟩
    · exact h.get?_missing_item sound_schema 0 1 rfl rfl hgiven hitem hnone
    · exact h.get?_missing_item sound_schema 1 2 rfl rfl hgiven hitem hnone
    · exact h.get?_missing_item sound_schema 1 4 rfl rfl hgiven hitem hnone
    · exact h.get?_missing_item sound_schema 2 2 rfl rfl hgiven hitem hnone
    · exact h.get?_missing_item sound_schema 2 4 rfl rfl hgiven hitem hnone
    · exact h.get?_missing_item sound_schema 3 1 rfl rfl hgiven hitem hnone
    · exact h.get?_missing_item sound_schema 3 2 rfl rfl hgiven hitem hnone

/-- **A document is read back** from what is written of it. -/
theorem ofJson?_toJson (c : Config) : ofJson? c.toJson = .ok c := by
  rw [ofJson?, read_toJson, Except.map, ofCanonical_toJson]

/-- What a value is decoded to is written with everything that the value leaves
    out. -/
theorem explicit_of_ofJson? {c : Config} (h : ofJson? d = .ok c) : Explicit d c := by
  obtain ⟨j, hj, rfl⟩ := map_eq_ok_iff.1 h
  have hj' := completes_of_read sound_schema hj
  obtain ⟨c, rfl⟩ := exists_of_completes hj'
  rw [ofCanonical_toJson]
  exact .of_completes hj'

/-- A value that is completed to what is written of a document is decoded to that
    document, whatever it leaves out or adds. -/
theorem ofJson?_of_completes {c : Config} (hd : d.Distinct) (h : Completes schema d c.toJson) :
    ofJson? d = .ok c := by
  rw [ofJson?, read_of_completes sound_schema hd h, Except.map, ofCanonical_toJson]

end Config

end Concord
