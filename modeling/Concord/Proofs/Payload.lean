/-
  Records and answers that are read back from their texts.

  A record is read by its shape, so the order of its members does not matter.
  Its options are read as values of any type; those that are texts are read as
  they were written.

  * `BackendRecord.ofText?_of_perm`: the members of a record in any order.
  * `Query.payload?_of_textual`: the answer in a response.
-/
import Concord.Proofs.Json.Reading
import Concord.Proofs.Options
import Concord.Proofs.Schema.Canonical
import Concord.Server.Payload

namespace Concord

open Json

/-! ## Mounts and audit devices -/

namespace BackendRecord

variable {r : BackendRecord}

/-- Whether all options of a record are texts. -/
def Textual (r : BackendRecord) : Prop :=
  ∀ raw, r.options = some raw → ∀ e ∈ raw.entries, Options.IsText e.2

/-- The options of a record as a JSON value. -/
def optionsJson (r : BackendRecord) : Json :=
  match r.options with
  | some raw => ofDict raw
  | none => .null

/-- The members of a record in the order of its shape. -/
def fieldValues (r : BackendRecord) : List (String × Json) :=
  [("type", .str r.type), ("description", .str r.description), ("options", r.optionsJson)]

/-- The shapes of the members of a record. -/
def fields : List (String × Shape × Option Json) :=
  [("type", .text, none), ("description", .text, some (.str "")),
    ("options", .dict true .any, some .null)]

/-- The object of a record is its canonical form. -/
theorem ofMembers_fieldValues (r : BackendRecord) : ofMembers r.fieldValues = r.toJson := by
  show ofMembers r.fieldValues = obj [("description", .str r.description),
    ("options", r.optionsJson), ("type", .str r.type)]
  refine ofMembers_of_mem_iff ?_ ?_ fun e => ?_
  · show ["type", "description", "options"].Nodup
    decide
  · show ["description", "options", "type"].Pairwise (· < ·)
    decide
  · simp only [fieldValues, List.mem_cons, List.not_mem_nil]
    tauto

theorem ofCanonical_toJson (r : BackendRecord) : ofCanonical r.toJson = r := by
  obtain ⟨type, description, options⟩ := r
  cases options with
  | none => rfl
  | some raw =>
    show BackendRecord.mk type description (some (ofDict raw).members) = _
    rw [members_ofDict]

theorem reads_options (hr : r.Textual) (depth : Nat) :
    Reads ((Shape.dict true .any).readChars (depth + 1)) r.optionsJson.compactChars
      (some r.optionsJson) := by
  unfold optionsJson
  split
  · rename_i raw hraw
    have hread : ∀ e ∈ raw.entries,
        Reads (Shape.any.readChars depth) e.2.compactChars (some e.2) := by
      intro e he
      obtain ⟨s, hs⟩ := hr raw hraw e he
      rw [hs]
      exact reads_str depth s
    have hdict := Shape.reads_dict_self true hread
    rwa [ofMembers_entries] at hdict
  · exact Shape.reads_null .any _

/-- **A record is read back** from its members in any order. -/
theorem reads_of_perm (hr : r.Textual) (depth : Nat) {ms : List (String × Json)}
    (hperm : ms.Perm r.fieldValues) (hcomplete : Shape.complete ms fields = .ok r.fieldValues) :
    Reads (schema.readChars (depth + 2)) (obj ms).compactChars (some r.toJson) := by
  refine Shape.reads_record_self "BackendInfo" ?_ ?_ ?_
  · intro e he
    have hmem : e ∈ r.fieldValues := hperm.subset he
    simp only [fieldValues, List.mem_cons, List.not_mem_nil, or_false] at hmem
    rcases hmem with rfl | rfl | rfl
    · exact ⟨.text, none, rfl, Shape.reads_text _ _⟩
    · exact ⟨.text, some (.str ""), rfl, Shape.reads_text _ _⟩
    · exact ⟨.dict true .any, some .null, rfl, reads_options hr depth⟩
  · have hn : (r.fieldValues.map Prod.fst).Nodup := by simp [fieldValues]
    have hn' : (ms.map Prod.fst).Nodup := (hperm.map Prod.fst).nodup_iff.2 hn
    exact List.pairwise_map.1 hn'
  · show (Shape.complete ms fields).map ofMembers = .ok r.toJson
    rw [hcomplete]
    exact congrArg Except.ok r.ofMembers_fieldValues

theorem ofText?_of_perm (hr : r.Textual) {ms : List (String × Json)}
    (hperm : ms.Perm r.fieldValues) (hcomplete : Shape.complete ms fields = .ok r.fieldValues) :
    ofText? (obj ms).compact = some r := by
  have hread : Reads (schema.readChars depthLimit) (obj ms).compactChars (some r.toJson) :=
    reads_of_perm hr 125 hperm hcomplete
  rw [ofText?, Shape.ofText?_of_reads hread, Option.map_some, ofCanonical_toJson]

/-- A record is read back from its own object. -/
theorem reads_toJson (hr : r.Textual) (depth : Nat) :
    Reads (schema.readChars (depth + 2)) r.toJson.compactChars (some r.toJson) := by
  have hperm := List.perm_append_singleton ("type", Json.str r.type)
    [("description", Json.str r.description), ("options", r.optionsJson)]
  exact reads_of_perm hr depth hperm rfl

end BackendRecord

/-! ## Answers -/

namespace Query

/-- The data that answers a query. -/
def dataOf : (q : Query) → q.Answer → Json
  | listPolicies, names => .obj [("keys", Json.texts names)]
  | readPolicy _, rules => .obj [("policy", .str rules)]
  | listEngines, records | listAudits, records => ofDict (records.map BackendRecord.toJson)

/-- Whether all options in an answer are texts. -/
def Textual : (q : Query) → q.Answer → Prop
  | listPolicies, _ | readPolicy _, _ => True
  | listEngines, records | listAudits, records => ∀ e ∈ records.entries, e.2.Textual

variable {q : Query}

theorem reads_dataOf {answer : q.Answer} (h : q.Textual answer) (depth : Nat) :
    Reads (q.dataSchema.readChars (depth + 3)) (q.dataOf answer).compactChars
      (some (q.dataOf answer)) := by
  cases q with
  | listPolicies =>
    refine Shape.reads_record_self "KeyList" ?_ (List.pairwise_singleton _ _) rfl
    intro e he
    obtain rfl := List.mem_singleton.1 he
    exact ⟨.list .text, some (.arr []), rfl, Shape.reads_list_map fun s _ => Shape.reads_text _ s⟩
  | readPolicy name =>
    refine Shape.reads_record_self "PolicyBody" ?_ (List.pairwise_singleton _ _) rfl
    intro e he
    obtain rfl := List.mem_singleton.1 he
    exact ⟨.text, some (.str ""), rfl, Shape.reads_text _ answer⟩
  | listEngines | listAudits =>
    have hread : ∀ e ∈ (answer.map BackendRecord.toJson).entries,
        Reads (BackendRecord.schema.readChars (depth + 2)) e.2.compactChars (some e.2) := by
      intro e he
      obtain ⟨e, hmem, rfl⟩ := List.mem_map.1 he
      exact BackendRecord.reads_toJson (h e hmem) depth
    have hdict := Shape.reads_dict_self false hread
    rwa [ofMembers_entries] at hdict

theorem ofCanonical_dataOf (answer : q.Answer) : q.ofCanonical (q.dataOf answer) = answer := by
  cases q with
  | listPolicies =>
    show (answer.map Json.str).map Json.text = answer
    rw [List.map_map]
    exact List.map_id answer
  | readPolicy name => rfl
  | listEngines | listAudits =>
    show (ofDict (answer.map BackendRecord.toJson)).members.map BackendRecord.ofCanonical = answer
    rw [members_ofDict]
    apply Dict.ext
    show (answer.entries.map fun e => (e.1, e.2.toJson)).map _ = answer.entries
    rw [List.map_map]
    refine (List.map_congr_left fun e _ => ?_).trans (List.map_id _)
    exact Prod.ext rfl e.2.ofCanonical_toJson

/-- **An answer is read back** from the response that carries it. -/
theorem payload?_of_textual {answer : q.Answer} (h : q.Textual answer) :
    q.payload? (obj [("data", q.dataOf answer)]).compact = some answer := by
  have hread : Reads (q.responseSchema.readChars depthLimit)
      (obj [("data", q.dataOf answer)]).compactChars (some (obj [("data", q.dataOf answer)])) := by
    refine Shape.reads_record_self "DataResponse" ?_ (List.pairwise_singleton _ _) rfl
    intro e he
    obtain rfl := List.mem_singleton.1 he
    exact ⟨q.dataSchema, none, rfl, reads_dataOf h 123⟩
  rw [payload?, Shape.ofText?_of_reads hread]
  exact congrArg some (ofCanonical_dataOf answer)

end Query

end Concord
