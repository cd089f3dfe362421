import Mathlib.Data.List.Sort
import Mathlib.Data.String.Basic
import ReisOs.Core.Json
import ReisOs.Instances.Store

/-!
# Views of the instance registry

`CommandInstanceViews.list_instances` over the tables of the registry: the rows of an
organization in a fixed order, cut at a snapshot time and after the last row of the page
before.  `now` is the clock of the call and `wall` the text of the current time.
-/

namespace ReisOs.Command

open ReisOs.Core ReisOs.Kernel ReisOs.Instances

/-! ## The registry -/

/-- A row of `ocs_instance_bindings`. -/
structure BindingRow extends InstanceBinding where
  updatedAt : Time
  deriving DecidableEq, Repr

/-- The three tables; `binding_id` is a primary key. -/
structure Registry where
  bindings : List BindingRow
  journal : List JournalEntry
  sagas : List ActionSaga
  keys : (bindings.map fun row => row.bindingId).Nodup

/-- `_source_health`. -/
inductive Health where
  | available | unavailable | degraded
  deriving DecidableEq, Repr

inductive OperationalPhase where
  | awaitingPlatformInstance | bootstrapAcknowledged | replacementPending | recovered
  deriving DecidableEq, Repr

def OperationalPhase.value : OperationalPhase → String
  | .awaitingPlatformInstance => "awaiting_platform_instance"
  | .bootstrapAcknowledged => "bootstrap_acknowledged"
  | .replacementPending => "replacement_pending"
  | .recovered => "recovered"

def operationalPhases : List OperationalPhase :=
  [.awaitingPlatformInstance, .bootstrapAcknowledged, .replacementPending, .recovered]

/-- `CANONICAL_STATUSES`. -/
def canonicalStatuses : List String :=
  [InstanceStatus.prepared, .persisted, .bound, .active, .checkpointed, .replaced, .closed,
    .revoked, .hold].map InstanceStatus.value

inductive ViewFreshness where
  | current | stale | unknown
  deriving DecidableEq, Repr

/-- `DERIVATION_VERSION`. -/
def derivationVersion : String := "ib6-v2"

/-! ## Requests and cursors -/

/-- A `ValueError`. -/
structure ViewError where
  message : String
  deriving DecidableEq, Repr

structure InstanceFilter where
  missionId : Option String := none
  ocsId : Option String := none
  canonicalStatus : Option String := none
  operationalPhase : Option String := none
  recoveryOnly : Bool := false
  deriving DecidableEq, Repr

structure PageCursor where
  organizationId : String
  filterHash : String
  snapshotAt : Time
  lastCreatedAt : Option Time := none
  lastBindingId : Option String := none
  deriving DecidableEq, Repr

/-- How documents are hashed and how they are written as cursors: SHA-256 and URL-safe
base64 of their texts. -/
structure Codec where
  sha256 : Json Time → String
  encode : Json Time → String
  decode : String → Option (Json Time)
  decode_encode : ∀ document, decode (encode document) = some document

def textOrNull : Option String → Json Time
  | none => .null
  | some text => .string text

def timeOrNull : Option Time → Json Time
  | none => .null
  | some time => .number time

/-- A member that may be null or left out. -/
def optional {A : Type} (decode : Json Time → Option A) : Json Time → Option (Option A)
  | .null => some none
  | json => (decode json).map some

/-- `asdict(filters)`, with its keys sorted. -/
def InstanceFilter.document (filters : InstanceFilter) : Json Time :=
  .object [("canonical_status", textOrNull filters.canonicalStatus),
    ("mission_id", textOrNull filters.missionId), ("ocs_id", textOrNull filters.ocsId),
    ("operational_phase", textOrNull filters.operationalPhase),
    ("recovery_only", .bool filters.recoveryOnly)]

/-- `InstanceFilter.digest`. -/
def InstanceFilter.digest (filters : InstanceFilter) (codec : Codec) : String :=
  codec.sha256 filters.document

namespace PageCursor

/-- `asdict(cursor)`, with its keys sorted. -/
def document (cursor : PageCursor) : Json Time :=
  .object [("filter_hash", .string cursor.filterHash),
    ("last_binding_id", textOrNull cursor.lastBindingId),
    ("last_created_at", timeOrNull cursor.lastCreatedAt),
    ("organization_id", .string cursor.organizationId),
    ("snapshot_at", .number cursor.snapshotAt)]

def fieldNames : List String :=
  ["organization_id", "filter_hash", "snapshot_at", "last_created_at", "last_binding_id"]

/-- `PageCursor(**payload)`, where the payload's values are of the right types. -/
def ofDocument (document : Json Time) : Option PageCursor :=
  match document with
  | .object fields =>
    if fields.all fun field => field.1 ∈ fieldNames then do
      let organizationId ← document.fieldAs "organization_id" Json.asString
      let filterHash ← document.fieldAs "filter_hash" Json.asString
      let snapshotAt ← document.fieldAs "snapshot_at" Json.asNumber
      let lastCreatedAt ← document.fieldOr "last_created_at" (optional Json.asNumber) none
      let lastBindingId ← document.fieldOr "last_binding_id" (optional Json.asString) none
      return ⟨organizationId, filterHash, snapshotAt, lastCreatedAt, lastBindingId⟩
    else none
  | _ => none

/-- `_encode_cursor`. -/
def encode (codec : Codec) (cursor : PageCursor) : String := codec.encode cursor.document

/-- `_decode_cursor`. -/
def decode (codec : Codec) (cursor : Option String) (organizationId filterHash : String)
    (clock : Time) : Except ViewError PageCursor :=
  match cursor with
  | none => .ok { organizationId, filterHash, snapshotAt := clock }
  | some text =>
    match (codec.decode text).bind ofDocument with
    | none => .error ⟨"command_instance_cursor_invalid"⟩
    | some result =>
      if result.organizationId ≠ organizationId ∨ result.filterHash ≠ filterHash ∨
          clock < result.snapshotAt ∨ result.lastCreatedAt = none ∨
          result.lastBindingId = none then
        .error ⟨"command_instance_cursor_scope_mismatch"⟩
      else .ok result

end PageCursor

/-- `_validate_scope`. -/
def validateScope (organizationId : String) (filters : InstanceFilter) :
    Except ViewError Unit :=
  if organizationId = "" then .error ⟨"command_instance_organization_required"⟩
  else if filters.canonicalStatus.any fun status => status ∉ canonicalStatuses then
    .error ⟨"command_instance_status_invalid"⟩
  else if filters.operationalPhase.any fun phase =>
      phase ∉ operationalPhases.map OperationalPhase.value then
    .error ⟨"command_instance_phase_invalid"⟩
  else .ok ()

/-! ## Projecting a binding -/

namespace Registry

variable (registry : Registry)

/-- `_get_scoped`, without the exception. -/
def getScoped (bindingId organizationId : String) : Option BindingRow :=
  registry.bindings.find? fun row =>
    row.bindingId = bindingId ∧ row.organizationId = organizationId

/-- `_predecessor`. -/
def predecessor (row : BindingRow) : Option BindingRow :=
  row.predecessorBindingId.bind fun bindingId =>
    registry.getScoped bindingId row.organizationId

/-- `_journal_rows`. -/
def journalRows (bindingId : String) : List JournalEntry :=
  registry.journal.filter (·.bindingId = bindingId)

/-- `_replacement_saga`. -/
def replacementSaga (bindingId : String) : Option ActionSaga :=
  (((registry.sagas.filter (·.bindingId = bindingId)).filter
    (·.operation = .replacement)).insertionSort
      fun left right => right.updatedAt ≤ left.updatedAt).head?

/-- The checks of `_recovery_proof`. -/
def recoveryChecks (current : BindingRow) (predecessor : Option BindingRow) :
    List (String × Bool) :=
  let saga := predecessor.bind fun row => registry.replacementSaga row.bindingId
  let events := (registry.journalRows current.bindingId).map JournalEntry.eventType
  [("predecessor_present", predecessor.isSome),
    ("generation_contiguous",
      predecessor.any fun row => current.generation = row.generation + 1),
    ("checkpoint_version_contiguous",
      predecessor.any fun row => current.checkpointVersion = row.checkpointVersion + 1),
    ("checkpoint_hash_present", current.checkpointHash.any (· ≠ "")),
    ("hazel_event_hash_present", current.hazelEventHash.any (· ≠ "")),
    ("identity_preserved", predecessor.any fun row =>
      current.profileHash = row.profileHash ∧
        current.identityBindingHash = row.identityBindingHash ∧
        current.authorityRef = row.authorityRef ∧
        current.stateNamespace = row.stateNamespace ∧
        current.memoryNamespace = row.memoryNamespace),
    ("readback_verified_event", "OCS_REPLACEMENT_PERSISTED" ∈ events),
    ("replacement_saga_finalized", saga.any (·.state = .leaseFinalized))]

/-- `_recovery_proof(...)["complete"]`. -/
def recoveryComplete (current : BindingRow) (predecessor : Option BindingRow) : Bool :=
  (registry.recoveryChecks current predecessor).all Prod.snd

/-- `_phases`. -/
def phases (row : BindingRow) : List OperationalPhase :=
  let events := (registry.journalRows row.bindingId).map JournalEntry.eventType
  (if row.status = .persisted ∧ row.platformInstanceId = none then
    [.awaitingPlatformInstance] else []) ++
  (if "OCS_BOOTSTRAP_ACKNOWLEDGED" ∈ events then [.bootstrapAcknowledged] else []) ++
  (if (registry.replacementSaga row.bindingId).any (·.state ≠ .leaseFinalized) then
    [.replacementPending] else []) ++
  (if registry.recoveryComplete row (registry.predecessor row) then [.recovered] else [])

/-- The rows of the mission and the OCS of a binding. -/
def lineageRows (row : BindingRow) : List BindingRow :=
  registry.bindings.filter fun other =>
    other.organizationId = row.organizationId ∧ other.missionId = row.missionId ∧
      other.ocsId = row.ocsId

/-- `_generation_has_platform`. -/
def generationHasPlatform (row : BindingRow) (generation : ℕ) : Bool :=
  ((registry.lineageRows row).find? (·.generation = generation)).any fun other =>
    other.platformInstanceId.any (· ≠ "")

/-- `_lineage_has_pending_replacement`. -/
def lineageHasPendingReplacement (row : BindingRow) : Bool :=
  (registry.lineageRows row).any fun other =>
    registry.sagas.any fun saga =>
      saga.bindingId = other.bindingId ∧ saga.operation = .replacement ∧
        saga.state ≠ .leaseFinalized

end Registry

structure Fencing where
  generation : ℕ
  latestRegistryGeneration : Option ℕ
  currentWorkerGeneration : Option ℕ
  activeGenerationCount : ℕ
  nonterminalGenerationCount : ℕ
  platformInstanceId : Option String
  isCurrentWorker : Option Bool
  ambiguous : Bool
  basis : String
  evidenceRefs : List String
  deriving DecidableEq, Repr

structure PhaseDerivation where
  phase : OperationalPhase
  basis : String
  sourceRefs : List String
  derivedAt : String
  derivationVersion : String
  deriving DecidableEq, Repr

structure Item where
  binding : BindingRow
  canonicalStatus : String
  operationalPhases : List OperationalPhase
  phaseDerivations : List PhaseDerivation
  freshness : ViewFreshness
  sourceVersion : String
  evidenceRefs : List String
  fencing : Fencing
  epistemicState : String
  deriving DecidableEq, Repr

/-- `_phase_basis`. -/
def phaseBasis : OperationalPhase → String
  | .awaitingPlatformInstance => "status=persisted AND platform_instance_id IS NULL"
  | .bootstrapAcknowledged => "journal contains OCS_BOOTSTRAP_ACKNOWLEDGED"
  | .replacementPending => "replacement saga exists AND state!=LEASE_FINALIZED"
  | .recovered => "complete IB5 replacement/readback proof"

/-- `_freshness`. -/
def freshness (updatedAt clock : Time) (health : Health) : ViewFreshness :=
  if health ≠ .available then .unknown
  else if clock - updatedAt < 0 then .unknown
  else if clock - updatedAt ≤ 300 then .current
  else .stale

/-- `_evidence_refs`. -/
def evidenceRefs (row : BindingRow) : List String :=
  [s!"binding:{row.bindingId}", s!"journal:{row.bindingId}"] ++
    match row.hazelEventHash with
    | none => []
    | some hash => [s!"hazel:event:{hash}"]

namespace Registry

variable (registry : Registry)

/-- The greatest of some generations. -/
def maximum : List ℕ → Option ℕ
  | [] => none
  | generation :: generations => some (generations.foldl max generation)

/-- `_fencing`. -/
def fencing (row : BindingRow) : Fencing :=
  let rows := registry.lineageRows row
  let latest := maximum (rows.map fun other => other.generation)
  let active := (rows.filter (·.status = .active)).length
  let nonterminal := (rows.filter (InstanceStore.isLive ·.status)).length
  let workerRows := rows.filter fun other =>
    (other.status = .bound ∨ other.status = .active ∨ other.status = .checkpointed) ∧
      registry.generationHasPlatform row other.generation
  let ambiguous := latest = none ∨ 1 < active ∨ 1 < nonterminal ∨ workerRows.length ≠ 1 ∨
    registry.lineageHasPendingReplacement row
  let workerGeneration :=
    if ambiguous then none else workerRows.head?.map fun other => other.generation
  { generation := row.generation
    latestRegistryGeneration := latest
    currentWorkerGeneration := workerGeneration
    activeGenerationCount := active
    nonterminalGenerationCount := nonterminal
    platformInstanceId := row.platformInstanceId
    isCurrentWorker := workerGeneration.map fun generation => row.generation = generation
    ambiguous := ambiguous
    basis := "worker requires one nonterminal bound generation, platform receipt, " ++
      "and no pending replacement"
    evidenceRefs := [s!"lineage:{row.runId}", s!"binding:{row.bindingId}"] }

/-- `_project`. -/
def project (row : BindingRow) (clock : Time) (health : Health) (wall : String) : Item :=
  let phases := registry.phases row
  { binding := row
    canonicalStatus := row.status.value
    operationalPhases := phases
    phaseDerivations := phases.map fun phase =>
      ⟨phase, phaseBasis phase, evidenceRefs row, wall, derivationVersion⟩
    freshness := freshness row.updatedAt clock health
    sourceVersion := row.version.repr
    evidenceRefs := evidenceRefs row
    fencing := registry.fencing row
    epistemicState :=
      if OperationalPhase.recovered ∈ phases then "verified"
      else if row.status = .prepared ∨ row.status = .persisted then "requested"
      else if row.status = .bound ∨ row.status = .active then "executed"
      else "observed" }

end Registry

/-! ## Listing -/

structure Source where
  name : String
  projectionVersion : String
  health : Health
  claimBoundary : String
  deriving DecidableEq, Repr

/-- `_source`. -/
def source (health : Health) : Source :=
  ⟨"ocs_instance_registry", derivationVersion, health, "verified_is_not_assured"⟩

structure Snapshot where
  generatedAt : String
  snapshotAt : Option Time
  boundaryKind : String
  contentImmutable : Bool
  total : Option ℕ
  freshness : ViewFreshness
  sourceHealth : Health
  deriving DecidableEq, Repr

structure Page where
  items : List Item
  count : ℕ
  total : Option ℕ
  nextCursor : Option String
  snapshot : Snapshot
  source : Source
  deriving DecidableEq, Repr

/-- `_empty_page`. -/
def Page.empty (health : Health) (wall : String) : Page where
  items := []
  count := 0
  total := none
  nextCursor := none
  snapshot := ⟨wall, none, "unavailable", false, none, .unknown, health⟩
  source := Command.source health

/-- `_snapshot`. -/
def snapshot (items : List Item) (total : ℕ) (snapshotAt : Time) (health : Health)
    (wall : String) : Snapshot where
  generatedAt := wall
  snapshotAt := some snapshotAt
  boundaryKind := "membership_created_at"
  contentImmutable := false
  total := some total
  freshness :=
    if items.any (·.freshness = .stale) then .stale
    else if items ≠ [] ∧ items.all (·.freshness = .current) then .current
    else .unknown
  sourceHealth := health

/-- `ORDER BY created_at DESC, binding_id ASC`. -/
def listOrder (left right : BindingRow) : Prop :=
  right.createdAt < left.createdAt ∨
    right.createdAt = left.createdAt ∧ left.bindingId ≤ right.bindingId

instance : DecidableRel listOrder := fun left right =>
  inferInstanceAs (Decidable (right.createdAt < left.createdAt ∨
    right.createdAt = left.createdAt ∧ left.bindingId ≤ right.bindingId))

/-- The `WHERE` clause of `_filtered_items`. -/
def selects (organizationId : String) (filters : InstanceFilter) (snapshotAt : Time)
    (row : BindingRow) : Bool :=
  row.organizationId = organizationId && row.createdAt ≤ snapshotAt &&
    filters.missionId.all (row.missionId = ·) && filters.ocsId.all (row.ocsId = ·) &&
    filters.canonicalStatus.all (row.status.value = ·)

/-- The filters of `_filtered_items` on the projected items. -/
def keeps (filters : InstanceFilter) (item : Item) : Bool :=
  (filters.operationalPhase.all fun phase =>
    phase ∈ item.operationalPhases.map OperationalPhase.value) &&
  (!filters.recoveryOnly ||
    item.canonicalStatus ∈ [InstanceStatus.hold, .revoked, .replaced].map
      InstanceStatus.value ||
    OperationalPhase.replacementPending ∈ item.operationalPhases ||
    OperationalPhase.recovered ∈ item.operationalPhases ||
    item.freshness ≠ .current)

/-- `_filtered_items`. -/
def filteredItems (registry : Registry) (organizationId : String) (filters : InstanceFilter)
    (snapshotAt clock : Time) (health : Health) (wall : String) : List Item :=
  let rows := (registry.bindings.filter
    (selects organizationId filters snapshotAt)).insertionSort listOrder
  (rows.map fun row => registry.project row clock health wall).filter (keeps filters)

/-- The candidates of a page. -/
def isCandidate (page : PageCursor) (item : Item) : Bool :=
  match page.lastCreatedAt with
  | none => true
  | some lastCreatedAt =>
    item.binding.createdAt < lastCreatedAt ||
      (item.binding.createdAt = lastCreatedAt &&
        page.lastBindingId.getD "None" < item.binding.bindingId)

/-- `list_instances`. -/
def listInstances (codec : Codec) (registry : Registry) (health : Health)
    (organizationId : String) (filters : InstanceFilter) (cursor : Option String)
    (limit : ℕ) (now : Time) (wall : String) : Except ViewError Page := do
  validateScope organizationId filters
  let page ← PageCursor.decode codec cursor organizationId (filters.digest codec) now
  if health ≠ .available then return .empty health wall
  let allItems := filteredItems registry organizationId filters page.snapshotAt now health wall
  let candidates := allItems.filter (isCandidate page)
  let selected := candidates.take limit
  let nextCursor :=
    if limit < candidates.length then
      selected.getLast?.map fun last => PageCursor.encode codec
        { organizationId
          filterHash := filters.digest codec
          snapshotAt := page.snapshotAt
          lastCreatedAt := some last.binding.createdAt
          lastBindingId := some last.binding.bindingId }
    else none
  return {
    items := selected
    count := selected.length
    total := some allItems.length
    nextCursor
    snapshot := snapshot selected allItems.length page.snapshotAt health wall
    source := source health }

end ReisOs.Command
