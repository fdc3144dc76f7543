/-
  What is written of a mount or audit device is read back.

  Settings and records are written and read by different shapes: settings leave
  an empty type out, and records have options in any type.  The options of
  settings are texts already, so nothing is lost on the way, and what a run has
  written it does not plan to write again.

  * `BackendSettings.ofText?_toJson`: settings read as a record.
  * `Backend.tunedBy_tuning`: a record after a tuning.
  * `Config.written_reads_back`: both, for all objects of a document.
-/
import Concord.Proofs.Config.Accepted
import Concord.Proofs.Kind.Upkeep
import Concord.Proofs.Payload
import Concord.Run
import Concord.Server.Http

namespace Concord

open Json

/-! ## Settings as texts -/

namespace BackendSettings

variable {s : BackendSettings}

theorem textual_stored (s : BackendSettings) : (InstanceState.stored s).Textual := by
  intro raw hraw e he
  obtain rfl := Option.some.inj hraw
  obtain ⟨o, -, rfl⟩ := List.mem_map.1 he
  exact ⟨o.2, rfl⟩

/-- **Settings with a type are read as the record** that an instance makes of
    them. -/
theorem ofText?_toJson (h : s.type ≠ "") :
    BackendRecord.ofText? s.toJson.compact = some (InstanceState.stored s) := by
  have hfields : s.toJson = obj (InstanceState.stored s).fieldValues := by
    rw [toJson, if_neg (mt String.isEmpty_iff.1 h)]
    rfl
  rw [hfields]
  exact BackendRecord.ofText?_of_perm s.textual_stored (List.Perm.refl _) rfl

theorem reads_options (o : Options) (depth : Nat) :
    Reads (value (depth + 1)) o.toJson.compactChars (some o.toJson) := by
  have hread : ∀ e ∈ (o.map Json.str).entries, Reads (value depth) e.2.compactChars (some e.2) := by
    intro e he
    obtain ⟨o, -, rfl⟩ := List.mem_map.1 he
    exact reads_str depth o.2
  have hobj := reads_obj_self hread
  rwa [ofMembers_entries] at hobj

/-- Settings without a type are read back as they are. -/
theorem read?_toJson (h : s.type = "") : read? s.toJson.compact = some s.toJson := by
  obtain ⟨type, description, options⟩ := s
  obtain rfl : type = "" := h
  have hread : ∀ e ∈ [("description", Json.str description), ("options", options.toJson)],
      Reads (value 126) e.2.compactChars (some e.2) := by
    intro e he
    simp only [List.mem_cons, List.not_mem_nil, or_false] at he
    rcases he with rfl | rfl
    · exact reads_str _ _
    · exact reads_options options 125
  have hsorted : [("description", Json.str description), ("options", options.toJson)].Pairwise
      fun a b => a.1 < b.1 := by
    have hlt : "description" < "options" := by decide
    simpa only [List.pairwise_pair] using hlt
  have hobj := reads_obj_self hread
  rw [ofMembers_entries ⟨_, hsorted⟩] at hobj
  exact read?_of_reads hobj

end BackendSettings

/-! ## Settings on an instance -/

namespace InstanceState

variable {s : InstanceState} {path : String} {r : BackendRecord}

theorem perform_enableEngine (settings : BackendSettings) (h : s.mounts.get? path = none) :
    s.perform (.enableEngine path settings) =
      .ok { s with mounts := s.mounts.insert path (stored settings) } := by
  simp [perform, Dict.contains, h]

theorem perform_tuneEngine (settings : BackendSettings) (h : s.mounts.get? path = some r) :
    s.perform (.tuneEngine path settings) =
      .ok { s with mounts := s.mounts.insert path { stored settings with type := r.type } } := by
  simp [perform, h]

theorem perform_enableAudit (settings : BackendSettings) (h : s.audits.get? path = none) :
    s.perform (.enableAudit path settings) =
      .ok { s with audits := s.audits.insert path (stored settings) } := by
  simp [perform, Dict.contains, h]

end InstanceState

/-! ## Items -/

/-- A record whose description and options are set from a JSON object. -/
def BackendRecord.tunedBy (r : BackendRecord) (body : Json) : BackendRecord :=
  { r with
    description := (body.get "description").text
    options := some (body.get "options").members }

namespace Backend

variable {b : Backend}

/-- A record after a tuning has the settings of the item and its own type. -/
theorem tunedBy_tuning (b : Backend) (r : BackendRecord) :
    r.tunedBy b.tuning.toJson = { InstanceState.stored b.settings with type := r.type } := by
  show BackendRecord.mk r.type b.description (some b.options.toJson.members) = _
  rw [Options.toJson, members_ofDict]
  rfl

/-- What is written of an item is read back: from the bodies that are sent, and
    on an instance in memory, where its kind has a place of its own. -/
structure ReadBack (b : Backend) (kind : Kind Backend)
    (place : InstanceState → Dict BackendRecord) : Prop where
  /-- The body that creates it is read as a record that matches it, and the
      record is left on the instance if there is none. -/
  created : ∃ m body r, kind.mutations .create b = [m] ∧
    (Operation.mutation m).endpoint.body = some body ∧
    BackendRecord.ofText? body.compact = some r ∧ b.Matches r ∧
    ∀ s, (place s).get? b.path = none →
      ∃ s', s.perform m = .ok s' ∧ (place s').get? b.path = some r
  stored : b.Matches (InstanceState.stored b.settings)
  /-- The body that tunes it has no type, and gives any record the rest of its
      settings. -/
  tuned : ∃ body, (Operation.mutation (.tuneEngine b.path b.tuning)).endpoint.body = some body ∧
    read? body.compact = some body ∧ body.get? "type" = none ∧
    (∀ r : BackendRecord, (r.tunedBy body).type = r.type ∧
      (r.tunedBy body).description = b.description ∧
      (r.tunedBy body).normalizedOptions = b.options) ∧
    ∀ (s : InstanceState) (r : BackendRecord), s.mounts.get? b.path = some r →
      ∃ s', s.perform (.tuneEngine b.path b.tuning) = .ok s' ∧
        s'.mounts.get? b.path = some (r.tunedBy body)

/-- An item with a type is read back, if its kind sends its settings to where
    there is nothing under its path. -/
theorem readBack {kind : Kind Backend} {place : InstanceState → Dict BackendRecord} {m : Mutation}
    (htype : b.type ≠ "") (hm : kind.mutations .create b = [m])
    (hbody : (Operation.mutation m).endpoint.body = some b.settings.toJson)
    (hleft : ∀ s, (place s).get? b.path = none → ∃ s', s.perform m = .ok s' ∧
      (place s').get? b.path = some (InstanceState.stored b.settings)) :
    b.ReadBack kind place where
  created := ⟨m, _, _, hm, hbody, BackendSettings.ofText?_toJson htype, b.matches_stored, hleft⟩
  stored := b.matches_stored
  tuned := by
    -- the body of a tuning has no type, so it is read as a value and not as a record
    refine ⟨b.tuning.toJson, rfl, BackendSettings.read?_toJson rfl, rfl, fun r => ?_,
      fun s r hr => ?_⟩
    · rw [tunedBy_tuning]
      exact ⟨rfl, b.matches_stored.2⟩
    · refine ⟨_, InstanceState.perform_tuneEngine b.tuning hr, ?_⟩
      rw [tunedBy_tuning, Dict.get?_insert, if_pos rfl]
      rfl

end Backend

/-! ## Documents -/

namespace Config

variable {c : Config} {spec : BackendSpec}

theorem type_ne_empty_of_complete (h : spec.Complete c.addresses) :
    (Backend.ofSpec spec).type ≠ "" := by
  intro hempty
  obtain ⟨ch, hch, -⟩ := h.type
  have hempty : spec.type = "" := hempty
  rw [hempty] at hch
  cases hch

theorem readBack_audit (h : spec.Complete c.addresses) :
    (Backend.ofSpec spec).ReadBack c.auditKind InstanceState.audits := by
  refine Backend.readBack (type_ne_empty_of_complete h) rfl rfl fun s hs => ?_
  exact ⟨_, InstanceState.perform_enableAudit _ hs, by simp⟩

theorem readBack_engine (h : spec.Complete c.addresses) :
    (Backend.ofSpec spec).ReadBack c.engineKind InstanceState.mounts := by
  refine Backend.readBack (type_ne_empty_of_complete h) rfl rfl fun s hs => ?_
  exact ⟨_, InstanceState.perform_enableEngine _ hs, by simp⟩

/-- **What is written is read back** for all mounts and audit devices of an
    accepted document: what is sent to create one is read as a record that
    matches it, and what is sent to tune one gives any record its description
    and options.  So options in normal form are their own normal form. -/
theorem written_reads_back (hc : c.Accepted) :
    (∀ spec ∈ c.audits, (Backend.ofSpec spec).ReadBack c.auditKind InstanceState.audits) ∧
      (∀ spec ∈ c.engines, (Backend.ofSpec spec).ReadBack c.engineKind InstanceState.mounts ∧
        c.engineKind.mutations .update (Backend.ofSpec spec) =
          [.tuneEngine (Backend.ofSpec spec).path (Backend.ofSpec spec).tuning]) ∧
      ∀ raw : Dict Json, Options.ofRaw ((Options.ofRaw raw).map .str) = Options.ofRaw raw := by
  have hwell := accepted_iff_wellFormed.1 hc
  refine ⟨fun spec hspec => ?_, fun spec hspec => ?_, fun raw => ofRaw_map_str _⟩
  · exact readBack_audit (hwell.audits spec hspec)
  · exact ⟨readBack_engine (hwell.engines spec hspec), rfl⟩

/-- A wanted mount with options of many types, among them nested ones and one
    that is nothing. -/
def nestedMount : BackendSpec :=
  ⟨"kv", "kv", "a mount", "http://a", Dict.ofList [("empty", .obj []),
    ("nested", .arr [.arr [.null, .int 2]]), ("none", .null),
    ("ratio", .float ⟨false, 15, -1, .inl (by decide)⟩), ("text", .str "a\"b")]⟩

/-- A document that wants it. -/
def nestedDocument : Config := ⟨[⟨"http://a", "TOKEN"⟩], [], [nestedMount], []⟩

theorem written_reads_back_nested :
    let b := Backend.ofSpec nestedMount
    nestedDocument.Accepted ∧ b.ReadBack nestedDocument.engineKind InstanceState.mounts ∧
      b.options.entries = [("empty", "\x7b\x7d"), ("nested", "[[null,2]]"), ("ratio", "1.5"),
        ("text", "a\"b")] := by
  intro b
  have hc : nestedDocument.Accepted := ⟨_, rfl⟩
  obtain ⟨-, hengines, -⟩ := written_reads_back hc
  obtain ⟨hback, -⟩ := hengines nestedMount List.mem_cons_self
  exact ⟨hc, hback, by decide⟩

end Config

end Concord
