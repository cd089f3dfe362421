import ReisOs.GovernanceRefactor.Contracts
import ReisOs.GovernanceRefactor.TenantIsolation

/-!
# Candidate dataclasses

The fields that each dataclass of `CandidateRecord` declares, with their types, and the
fields that its `__post_init__` requires.  A record that has been built has what is
declared; `_normalize` and `_refs` keep its references.
-/

namespace ReisOs.GovernanceRefactor

open ReisOs.Core ReisOs.Core.JsonText

/-! ## Declarations -/

/-- The types of the fields; an enumeration is the list of its values. -/
inductive Column where
  | text
  | optionalText
  | optionalCount
  | flag
  | optionalFlag
  | moment
  | optionalMoment
  | refs
  | links
  | enum (values : List String)
  deriving DecidableEq, Repr

/-- A dataclass: its fields in their order, and the texts that must not be blank. -/
structure RecordClass where
  recordType : String
  columns : List (String × Column)
  required : List String

def completeness : List String :=
  ["UNKNOWN", "PARTIAL", "COMPLETE"]

def gateVerdict : List String :=
  ["UNKNOWN", "OPEN", "PASS_WITH_RESERVATIONS", "FAIL", "HOLD"]

def qualityVerdict : List String :=
  ["UNKNOWN", "SATISFIED", "SATISFIED_WITH_RESERVATIONS", "BLOCKED", "NOT_APPLICABLE"]

def readiness : List String :=
  ["NOT_READY", "READY_FOR_FOUNDER_REVIEW"]

def founderDecision : List String :=
  ["APPROVE_FOR_RELEASE", "APPROVE_WITH_EXPLICIT_RESERVATIONS", "RETURN_FOR_REFACTOR",
    "HOLD", "REJECT_BASELINE"]

def refactorClass : List String :=
  ["DEFECT_CORRECTION", "QUALITY_REFACTOR", "ARCHITECTURAL_REFACTOR", "PRODUCT_REFINEMENT"]

def availabilityState : List String :=
  ["UNKNOWN", "NATIVE_HOST_ONLY", "OPERATIONALLY_BOUND", "RECOVERABLE", "UNAVAILABLE"]

def routingState : List String :=
  ["UNKNOWN", "ADDRESSABLE", "HOLD"]

def missionMetricsRecord : RecordClass where
  recordType := "MissionMetricsRecord"
  columns :=
    [("record_id", .text), ("mission_id", .text), ("ocs_id", .text),
      ("product_id", .optionalText), ("gate_id", .optionalText), ("started_at", .moment),
      ("completed_at", .optionalMoment), ("active_execution_seconds", .optionalCount),
      ("waiting_seconds", .optionalCount), ("founder_wait_seconds", .optionalCount),
      ("external_wait_seconds", .optionalCount), ("retries", .optionalCount),
      ("failures", .optionalCount), ("refactors", .optionalCount),
      ("founder_interventions", .optionalCount), ("autonomous_completion", .optionalFlag),
      ("source_refs", .refs), ("source_links", .links), ("provenance_refs", .refs),
      ("measurement_method", .text), ("measurement_version", .text),
      ("observed_at", .moment), ("completeness", .enum completeness),
      ("schema_version", .text)]
  required :=
    ["record_id", "mission_id", "ocs_id", "measurement_method", "measurement_version"]

def gatePerformanceRecord : RecordClass where
  recordType := "GatePerformanceRecord"
  columns :=
    [("gate_id", .text), ("object_ref", .text), ("gate_class", .text),
      ("opened_at", .moment), ("closed_at", .optionalMoment),
      ("elapsed_seconds", .optionalCount), ("blocking_seconds", .optionalCount),
      ("owner_ocs", .text), ("verifier_ocs", .optionalText), ("assurance_required", .flag),
      ("evidence_refs", .refs), ("source_links", .links), ("provenance_refs", .refs),
      ("blockers", .refs), ("findings", .refs), ("verdict", .enum gateVerdict),
      ("routing_result", .optionalText), ("version", .text), ("schema_version", .text)]
  required :=
    ["gate_id", "object_ref", "gate_class", "owner_ocs", "version"]

def qualityApplicabilityMatrix : RecordClass where
  recordType := "QualityApplicabilityMatrix"
  columns :=
    [("matrix_id", .text), ("object_ref", .text), ("domain", .text), ("applicable", .flag),
      ("reason", .text), ("required_evidence", .refs), ("mandatory_for_promotion", .flag),
      ("source_links", .links), ("provenance_refs", .refs), ("version", .text),
      ("schema_version", .text)]
  required :=
    ["matrix_id", "object_ref", "domain", "reason", "version"]

def qualityDomainAssessment : RecordClass where
  recordType := "QualityDomainAssessment"
  columns :=
    [("assessment_id", .text), ("product_id", .text), ("baseline_ref", .text),
      ("domain", .text), ("applicable", .flag), ("applicability_reason", .text),
      ("assessor_ocs", .text), ("evidence_refs", .refs), ("source_links", .links),
      ("provenance_refs", .refs), ("findings", .refs), ("verdict", .enum qualityVerdict),
      ("assessed_at", .moment), ("assessment_version", .text), ("schema_version", .text)]
  required :=
    ["assessment_id", "product_id", "baseline_ref", "domain", "applicability_reason",
      "assessor_ocs", "assessment_version"]

def qualityEvidenceBundle : RecordClass where
  recordType := "QualityEvidenceBundle"
  columns :=
    [("bundle_id", .text), ("baseline_ref", .text), ("evidence_refs", .refs),
      ("provenance_refs", .refs), ("source_links", .links), ("assessment_refs", .refs),
      ("assurance_refs", .refs), ("known_limitations", .refs),
      ("evidence_completeness", .enum completeness), ("created_at", .moment),
      ("bundle_version", .text), ("schema_version", .text)]
  required :=
    ["bundle_id", "baseline_ref", "bundle_version"]

def promotionReadinessState : RecordClass where
  recordType := "PromotionReadinessState"
  columns :=
    [("readiness_id", .text), ("product_id", .text), ("baseline_ref", .text),
      ("required_domains", .refs), ("completed_assessments", .refs),
      ("open_blockers", .refs), ("assurance_state", .text), ("readiness", .enum readiness),
      ("evidence_bundle_ref", .text), ("derived_from", .refs), ("source_links", .links),
      ("provenance_refs", .refs), ("derivation_version", .text), ("derived_at", .moment),
      ("schema_version", .text)]
  required :=
    ["readiness_id", "product_id", "baseline_ref", "assurance_state",
      "evidence_bundle_ref", "derivation_version"]

def founderApprovalDecision : RecordClass where
  recordType := "FounderApprovalDecision"
  columns :=
    [("decision_id", .text), ("product_id", .text), ("baseline_ref", .text),
      ("evidence_bundle_ref", .text), ("decision", .enum founderDecision),
      ("reservations", .refs), ("authority_ref", .text), ("decided_at", .moment),
      ("explicit_founder_act_ref", .text), ("source_links", .links),
      ("provenance_refs", .refs), ("schema_version", .text)]
  required :=
    ["decision_id", "product_id", "baseline_ref", "evidence_bundle_ref", "authority_ref",
      "explicit_founder_act_ref"]

def refactorEvent : RecordClass where
  recordType := "RefactorEvent"
  columns :=
    [("refactor_id", .text), ("object_ref", .text),
      ("refactor_class", .enum refactorClass), ("reason", .text),
      ("discovered_at_stage", .text), ("affected_contracts", .refs),
      ("started_at", .moment), ("completed_at", .optionalMoment),
      ("elapsed_seconds", .optionalCount), ("recurrence_ref", .optionalText),
      ("evidence_refs", .refs), ("source_links", .links), ("provenance_refs", .refs),
      ("learning_ref", .optionalText), ("event_version", .text), ("schema_version", .text)]
  required :=
    ["refactor_id", "object_ref", "reason", "discovered_at_stage", "event_version"]

def integrationCapabilityRecord : RecordClass where
  recordType := "IntegrationCapabilityRecord"
  columns :=
    [("integration_id", .text), ("provider", .text), ("category", .text),
      ("purpose", .text), ("connection_status", .text), ("validation_status", .text),
      ("read_capabilities", .refs), ("write_capabilities", .refs),
      ("supported_artifacts", .refs), ("authentication_boundary", .text),
      ("canonical_source_role", .optionalText), ("primary_ocs_users", .refs),
      ("authorized_use_cases", .refs), ("prohibited_use_cases", .refs),
      ("known_limitations", .refs), ("security_risks", .refs), ("data_risks", .refs),
      ("reversibility", .text), ("evidence_capability", .text),
      ("last_validated_at", .optionalMoment), ("capability_version", .text),
      ("source_links", .links), ("provenance_refs", .refs), ("schema_version", .text)]
  required :=
    ["integration_id", "provider", "category", "purpose", "connection_status",
      "validation_status", "authentication_boundary", "reversibility",
      "evidence_capability", "capability_version"]

def agentAvailabilityContract : RecordClass where
  recordType := "AgentAvailabilityContract"
  columns :=
    [("contract_id", .text), ("ocs_id", .text),
      ("availability_state", .enum availabilityState),
      ("current_instance_id", .optionalText), ("generation", .optionalCount),
      ("mission_bound", .flag), ("lease_status", .text), ("recovery_ready", .flag),
      ("recovery_proof_ref", .optionalText), ("auxiliary_spawn", .flag),
      ("chat_addressable", .flag), ("last_checkpoint_ref", .optionalText),
      ("last_readback_ref", .optionalText), ("evidence_state", .enum completeness),
      ("freshness_at", .optionalMoment), ("source_links", .links),
      ("provenance_refs", .refs), ("contract_version", .text), ("schema_version", .text)]
  required :=
    ["contract_id", "ocs_id", "lease_status", "contract_version"]

def chatInstitutionalRoutingContract : RecordClass where
  recordType := "ChatInstitutionalRoutingContract"
  columns :=
    [("route_id", .text), ("addressed_ocs_id", .text), ("mission_id", .text),
      ("resolved_instance_id", .optionalText), ("generation", .optionalCount),
      ("routing_state", .enum routingState), ("route_receipt_ref", .optionalText),
      ("response_correlation_id", .text), ("chat_addressable", .flag),
      ("chat_native_execution", .flag), ("source_links", .links),
      ("provenance_refs", .refs), ("contract_version", .text), ("schema_version", .text)]
  required :=
    ["route_id", "addressed_ocs_id", "mission_id", "response_correlation_id",
      "contract_version"]

def auxiliaryAgentEvidenceContract : RecordClass where
  recordType := "AuxiliaryAgentEvidenceContract"
  columns :=
    [("evidence_id", .text), ("parent_ocs_id", .text), ("auxiliary_id", .text),
      ("mission_id", .text), ("requested_scope", .refs), ("parent_authority_scope", .refs),
      ("produced_evidence_refs", .refs), ("created_new_ocs_identity", .flag),
      ("source_links", .links), ("provenance_refs", .refs), ("contract_version", .text),
      ("schema_version", .text)]
  required :=
    ["evidence_id", "parent_ocs_id", "auxiliary_id", "mission_id", "contract_version"]

/-- The dataclasses of `CandidateRecord`. -/
def recordClasses : List RecordClass :=
  [missionMetricsRecord, gatePerformanceRecord, qualityApplicabilityMatrix,
    qualityDomainAssessment, qualityEvidenceBundle, promotionReadinessState,
    founderApprovalDecision, refactorEvent, integrationCapabilityRecord,
    agentAvailabilityContract, chatInstitutionalRoutingContract,
    auxiliaryAgentEvidenceContract]

/-! ## Records of a class -/

theorem exists_related {A B : Type} {related : A → B → Prop} {lefts : List A}
    {rights : List B} (h : List.Forall₂ related lefts rights) {left : A}
    (hleft : left ∈ lefts) : ∃ right ∈ rights, related left right := by
  induction h with
  | nil => cases hleft
  | cons hfirst _ ih =>
    rcases List.mem_cons.mp hleft with rfl | hlater
    · exact ⟨_, List.mem_cons_self, hfirst⟩
    · obtain ⟨right, hright, hrelated⟩ := ih hlater
      exact ⟨right, List.mem_cons_of_mem _ hright, hrelated⟩

section Records

variable {N : Type}

/-- A `SourceLink`. -/
def sourceLink (sourceType sourceRef relation : String) : Value N :=
  .dataclass [("source_type", .string sourceType), ("source_ref", .string sourceRef),
    ("relation", .string relation)]

/-- The value is of the type. -/
def Column.Holds : Column → Value N → Prop
  | .text, .string _ => True
  | .optionalText, .none => True
  | .optionalText, .string _ => True
  | .optionalCount, .none => True
  | .optionalCount, .number _ => True
  | .flag, .bool _ => True
  | .optionalFlag, .none => True
  | .optionalFlag, .bool _ => True
  | .moment, .datetime _ => True
  | .optionalMoment, .none => True
  | .optionalMoment, .datetime _ => True
  | .refs, .tuple items => ∃ refs : List String, items = refs.map .string
  | .links, .tuple items => ∀ item ∈ items, ∃ sourceType sourceRef relation,
      item = sourceLink sourceType sourceRef relation
  | .enum values, .enum value => value ∈ values
  | _, _ => False

/-- The record has the fields that its class declares, and no required one is blank. -/
structure RecordClass.Builds (candidate : RecordClass) (record : CandidateRecord N) :
    Prop where
  recordType : record.recordType = candidate.recordType
  fields : List.Forall₂ (fun field column => field.1 = column.1 ∧ column.2.Holds field.2)
    record.fields candidate.columns
  required : ∀ name ∈ candidate.required, ∃ text,
    record.fields.lookup name = some (.string text) ∧ isBlankText text = false

/-- The record is an instance of one of the dataclasses. -/
def CandidateRecord.Built (record : CandidateRecord N) : Prop :=
  ∃ candidate ∈ recordClasses, candidate.Builds record

/-! ## What is declared of every class -/

/-- Field names are distinct, the identifier is a required text, and both kinds of
references are declared as such, the sources in one class only. -/
def RecordClass.isSound (candidate : RecordClass) : Bool :=
  decide (candidate.columns.map Prod.fst).Nodup &&
    candidate.required.contains (recordIdField candidate.recordType) &&
    candidate.columns.all (fun column =>
      column.1 != "source_refs" && column.1 != "provenance_refs" || column.2 = .refs)

theorem recordClasses_sound : recordClasses.all RecordClass.isSound = true := by decide

variable {candidate : RecordClass} {record : CandidateRecord N}

theorem isSound_of_mem (h : candidate ∈ recordClasses) : candidate.isSound = true :=
  List.all_eq_true.mp recordClasses_sound candidate h

theorem RecordClass.Builds.map_fst (h : candidate.Builds record) :
    record.fields.map Prod.fst = candidate.columns.map Prod.fst := by
  have hfields := h.fields
  generalize record.fields = fields at hfields
  generalize candidate.columns = columns at hfields
  induction hfields with
  | nil => rfl
  | cons hfield _ ih => rw [List.map_cons, List.map_cons, hfield.1, ih]

theorem CandidateRecord.Built.nodup (h : record.Built) :
    (record.fields.map Prod.fst).Nodup := by
  obtain ⟨candidate, hmem, hbuilds⟩ := h
  have hsound := isSound_of_mem hmem
  rw [RecordClass.isSound, Bool.and_eq_true, Bool.and_eq_true] at hsound
  rw [hbuilds.map_fst]
  exact of_decide_eq_true hsound.1.1

theorem CandidateRecord.Built.recordId (h : record.Built) :
    ∃ identifier, record.recordId = some identifier ∧ isBlankText identifier = false := by
  obtain ⟨candidate, hmem, hbuilds⟩ := h
  have hsound := isSound_of_mem hmem
  rw [RecordClass.isSound, Bool.and_eq_true, Bool.and_eq_true] at hsound
  have hrequired : recordIdField candidate.recordType ∈ candidate.required := by
    simpa using hsound.1.2
  obtain ⟨identifier, hlookup, hblank⟩ := hbuilds.required _ hrequired
  refine ⟨identifier, ?_, hblank⟩
  rw [CandidateRecord.recordId, hbuilds.recordType, hlookup]

theorem CandidateRecord.Built.refs (h : record.Built) {name : String}
    (hname : name = "source_refs" ∨ name = "provenance_refs") {value : Value N}
    (hfield : (name, value) ∈ record.fields) :
    ∃ refs : List String, value = .tuple (refs.map .string) := by
  obtain ⟨candidate, hmem, hbuilds⟩ := h
  have hsound := isSound_of_mem hmem
  rw [RecordClass.isSound, Bool.and_eq_true, List.all_eq_true] at hsound
  obtain ⟨column, hcolumn, hsame, hholds⟩ := exists_related hbuilds.fields hfield
  have hdeclared := hsound.2 column hcolumn
  have htype : column.2 = .refs := by
    rcases hname with rfl | rfl
    · simpa [← hsame] using hdeclared
    · simpa [← hsame] using hdeclared
  rw [htype] at hholds
  cases value with
  | tuple items =>
    obtain ⟨refs, rfl⟩ := hholds
    exact ⟨refs, rfl⟩
  | _ => exact hholds.elim

end Records

/-!
## Reading stored records

A row that was stored of a built record passes the checks of `_record` and `_event`: the
references that `_refs` takes from the payload and stores apart are the ones that the
payload has after it was written and read back.
-/

open ReisOs.Core.PyValue (document item readBack readBack_dict mem_dictOf ofFields_eq_map
  perm_sortKeys fieldDocuments_eq_map item_readBack itemDocuments_eq_map ofItems_eq_map
  ofJson)

variable {N : Type} {library : Library N} {record : CandidateRecord N}

/-! ## Payloads -/

theorem payload_eq_map (library : Library N) (record : CandidateRecord N) :
    library.payload record =
      record.fields.map fun field => (field.1, library.normalize field.2) := by
  rw [Library.payload]
  generalize record.fields = fields
  induction fields with
  | nil => rfl
  | cons field fields ih => rw [Library.normalizeFields, ih, List.map_cons]

theorem normalize_refs (refs : List String) :
    library.normalize (.tuple (refs.map .string)) = .list (refs.map .string) := by
  rw [Library.normalize]
  congr 1
  induction refs with
  | nil => rfl
  | cons ref refs ih =>
    rw [List.map_cons, Library.normalizeItems, ih, Library.normalize, List.map_cons]

theorem item_dict (fields : Fields N) (name : String) :
    item name (.dict fields) = fields.lookup name := by
  induction fields with
  | nil => rfl
  | cons field fields ih =>
    rw [item] at ih ⊢
    rw [List.lookup_cons]
    by_cases hname : field.1 = name
    · simp [hname]
    · have hother : (name == field.1) = false := by simp [Ne.symm hname]
      simpa [hname, hother] using ih

theorem get_readBack (fields : Fields N) (name : String) (default : PyValue N) :
    Library.get (readBack (.dict fields)) name default =
      .ok ((item name (readBack (.dict fields))).getD default) := rfl

theorem CandidateRecord.Built.payload_nodup (h : record.Built) :
    ((library.payload record).map Prod.fst).Nodup := by
  rw [payload_eq_map, List.map_map]
  exact h.nodup

theorem item_readBack_eq_none {fields : Fields N} {name : String}
    (h : name ∉ fields.map Prod.fst) : item name (readBack (.dict fields)) = none := by
  rw [readBack_dict, item, Option.map_eq_none_iff, List.find?_eq_none]
  intro field hfield hname
  have hread := mem_dictOf hfield
  rw [ofFields_eq_map] at hread
  obtain ⟨written, hwritten, rfl⟩ := List.mem_map.mp hread
  rw [(perm_sortKeys _).mem_iff, fieldDocuments_eq_map] at hwritten
  obtain ⟨old, hold, rfl⟩ := List.mem_map.mp hwritten
  apply h
  rw [← of_decide_eq_true hname]
  exact List.mem_map.mpr ⟨old, hold, rfl⟩

/-- The references that are stored apart are those of the payload as it is read back. -/
theorem CandidateRecord.Built.embedded (library : Library N) (h : record.Built)
    {name : String} (hname : name = "source_refs" ∨ name = "provenance_refs") :
    Library.get (readBack (.dict (library.payload record))) name (.list []) =
      .ok (.list ((library.refs (library.payload record) name).map .string)) := by
  rw [get_readBack]
  congr 1
  cases hlookup : (library.payload record).lookup name with
  | none =>
    have habsent : name ∉ (library.payload record).map Prod.fst := by
      intro hmem
      obtain ⟨field, hfield, hfst⟩ := List.mem_map.mp hmem
      have hnone := List.lookup_eq_none_iff.mp hlookup field hfield
      simp [hfst] at hnone
    rw [item_readBack_eq_none habsent, Library.refs, hlookup]
    rfl
  | some value =>
    have hitem : item name (.dict (library.payload record)) = some value := by
      rw [item_dict, hlookup]
    have hfield : (name, value) ∈ library.payload record := by
      obtain ⟨field, hfound, rfl⟩ := Option.map_eq_some_iff.mp hitem
      have hmem := List.mem_of_find?_eq_some hfound
      have hfst : field.1 = name := by simpa using List.find?_some hfound
      rwa [← hfst]
    rw [payload_eq_map] at hfield
    obtain ⟨field, hmem, hpair⟩ := List.mem_map.mp hfield
    obtain ⟨rfl, rfl⟩ := Prod.mk.inj hpair
    obtain ⟨refs, hrefs⟩ := h.refs hname hmem
    rw [item_readBack h.payload_nodup hitem, Library.refs, hlookup, hrefs, normalize_refs]
    simp [Library.strOf, readBack, document, itemDocuments_eq_map, ofJson,
      ofItems_eq_map, Function.comp_def]

theorem equal_refs (library : Library N) (refs : List String) :
    library.equal (.list (refs.map .string)) (.list (refs.map .string)) = true := by
  rw [Library.equal]
  induction refs with
  | nil => rfl
  | cons ref refs ih =>
    rw [List.map_cons, Library.equalItems, ih, Library.equal, Bool.and_true]
    exact decide_eq_true rfl

theorem loads_canonicalJson (library : Library N) (value : PyValue N) :
    library.loads (library.canonicalJson value) = some (readBack value) := by
  rw [Library.loads, Library.canonicalJson, read_write]
  rfl

theorem parse_canonicalJson (library : Library N) (value : PyValue N) :
    library.parse (library.canonicalJson value) = .ok (readBack value) := by
  rw [Library.parse, loads_canonicalJson]

theorem parse_refsJson (library : Library N) (refs : List String) :
    library.parse (library.refsJson refs) = .ok (.list (refs.map .string)) := by
  rw [Library.parse, loads_refsJson]

/-! ## Rows -/

/-- The envelope was made of a built record. -/
structure Envelope.Of (library : Library N) (record : CandidateRecord N)
    (envelope : Envelope) : Prop where
  built : record.Built
  recordType : envelope.recordType = record.recordType
  allowed : record.recordType ∈ allowedRecordTypes
  recordId : record.recordId = some envelope.recordId
  schemaVersion : envelope.schemaVersion = GovernanceRefactor.schemaVersion
  payloadJson : envelope.payloadJson = library.canonicalJson (.dict (library.payload record))
  payloadHash : envelope.payloadHash = library.sha256 envelope.payloadJson
  sourceRefs : envelope.sourceRefs = library.refs (library.payload record) "source_refs"
  provenanceRefs : envelope.provenanceRefs =
    library.refs (library.payload record) "provenance_refs"

variable {envelope : Envelope}

theorem Envelope.Of.of_prepare {call : AppendCall N}
    (h : prepare library call = .ok envelope) (hbuilt : call.record.Built) :
    envelope.Of library call.record := by
  rw [prepare] at h
  split at h
  · cases h
  split at h
  · cases h
  simp only at h
  split at h
  · cases h
  rename_i hversion
  split at h
  · cases h
  rename_i htype
  split at h
  · cases h
  rename_i identifier hid
  cases h
  constructor
  case built => exact hbuilt
  case recordType => rfl
  case allowed => exact not_not.mp htype
  case recordId => exact hid
  case schemaVersion => exact not_not.mp hversion
  case payloadJson => rfl
  case payloadHash => rfl
  case sourceRefs => rfl
  case provenanceRefs => rfl

theorem Envelope.Of.recordId_not_blank
    (h : envelope.Of library record) : isBlankText envelope.recordId = false := by
  obtain ⟨identifier, hid, hblank⟩ := h.built.recordId
  rw [h.recordId, Option.some_inj] at hid
  rw [hid]
  exact hblank

theorem Envelope.Of.verified (h : envelope.Of library record) :
    library.verifyEvidenceEnvelope (readBack (.dict (library.payload record)))
      (library.refsJson envelope.sourceRefs)
      (library.refsJson envelope.provenanceRefs) = .ok () := by
  have hsource := h.built.embedded library (.inl rfl)
  have hprovenance := h.built.embedded library (.inr rfl)
  rw [Library.verifyEvidenceEnvelope, Library.verifyRefs, Library.verifyRefs,
    parse_refsJson, parse_refsJson, h.sourceRefs, h.provenanceRefs]
  simp only [Bind.bind, Except.bind]
  rw [hsource, hprovenance]
  simp only [equal_refs, if_true]

/-- The item of a stored record has the payload as it is read back, whenever it is read. -/
theorem Envelope.Of.candidateItem (h : envelope.Of library record)
    (position : ℕ) {now : Moment} (hnow : now.utcoffset ≠ none) :
    ∃ item, candidateItem library (recordRow library position envelope) now = .ok item ∧
      item.position = position ∧ item.recordType = envelope.recordType ∧
      item.recordId = envelope.recordId ∧
      item.payload = readBack (.dict (library.payload record)) := by
  have hhash : library.verifyHash envelope.payloadJson envelope.payloadHash = .ok () := by
    rw [Library.verifyHash, h.payloadHash, if_neg (not_not.mpr rfl)]
  have hpayload : library.parse envelope.payloadJson =
      .ok (readBack (.dict (library.payload record))) := by
    rw [h.payloadJson, parse_canonicalJson]
  obtain ⟨observed, hobserved⟩ : ∃ observed, library.observedAt
      (readBack (.dict (library.payload record))) envelope.timestamp = .ok observed := by
    rw [Library.observedAt, get_readBack]
    simp only [Bind.bind, Except.bind]
    split
    · exact ⟨_, rfl⟩
    · exact ⟨_, rfl⟩
  obtain ⟨answer, hfreshness⟩ : ∃ answer, freshness observed now = .ok answer := by
    cases observed with
    | none => exact ⟨_, rfl⟩
    | some observed =>
      simp only [freshness, if_neg hnow]
      split
      · exact ⟨_, rfl⟩
      · split
        · exact ⟨_, rfl⟩
        · exact ⟨_, rfl⟩
  refine ⟨⟨position, envelope.recordType, envelope.recordId, envelope.schemaVersion,
    envelope.payloadHash, readBack (.dict (library.payload record)),
    .list (envelope.sourceRefs.map .string), .list (envelope.provenanceRefs.map .string),
    envelope.timestamp, answer, "candidate"⟩, ?_, rfl, rfl, rfl, rfl⟩
  rw [GovernanceRefactor.candidateItem]
  simp only [recordRow, Bind.bind, Except.bind, hhash, hpayload, h.verified, hobserved,
    parse_refsJson, hfreshness]
  rfl

theorem Envelope.Of.eventItem (h : envelope.Of library record)
    (position : ℕ) :
    eventItem library (eventRow library position envelope) =
      .ok ⟨position, envelope.eventId, envelope.recordType, envelope.recordId,
        "CANDIDATE_RECORD_APPENDED", envelope.payloadHash, envelope.timestamp⟩ := by
  have hhash : library.verifyHash envelope.payloadJson envelope.payloadHash = .ok () := by
    rw [Library.verifyHash, h.payloadHash, if_neg (not_not.mpr rfl)]
  have hpayload : library.parse envelope.payloadJson =
      .ok (readBack (.dict (library.payload record))) := by
    rw [h.payloadJson, parse_canonicalJson]
  rw [GovernanceRefactor.eventItem]
  simp only [eventRow, Bind.bind, Except.bind, hhash, hpayload, h.verified]
  rfl

end ReisOs.GovernanceRefactor
