import ReisOs.Core.Dict
import ReisOs.Core.Documents
import ReisOs.Core.JsonChars
import ReisOs.Core.Runs
import ReisOs.Core.Tables

/-!
# The store of the second trial

`Trial2PersistentStore` and `IntegrityCheckedTrial2Store`, which overrides three of its
methods.  Every method is one transaction.  Values are written as JSON with sorted keys
and the SHA-256 digest of a written document is a parameter; `now` gives the clock
readings of a call in their order.
-/

namespace ReisOs.Trial2

open ReisOs.Core ReisOs.Core.JsonText

/-- How values are written and hashed. -/
structure Encoding (N : Type) where
  format : NumberFormat N
  ofInt : ℤ → N
  digest : Json N → String

inductive Trial2Error where
  | hold (reason : String)
  | noResultFound
  | integrityError
  deriving DecidableEq, Repr

inductive BindingStatus where
  | bound | active | quiescent
  deriving DecidableEq, Repr

/-! ## Tables -/

structure MissionRow where
  canonicalStateRef : String
  currentGate : String
  status : String
  activeOcsId : Option String
  activeInstanceId : Option String
  currentHandoffRef : Option String
  autonomyBudget : ℤ
  autonomousStepCounter : ℕ
  autonomousHandoffCounter : ℕ
  repairCycleCounter : ℕ
  version : ℕ
  deriving DecidableEq, Repr

structure BindingRow where
  bindingId : String
  missionId : String
  ocsId : String
  instanceId : String
  generation : ℕ
  fencingEpoch : ℕ
  authorityRef : String
  role : String
  status : BindingStatus
  checkpointRef : Option String
  createdAt : String
  deriving DecidableEq, Repr

/-- `uq_trial2_binding_instance`. -/
def BindingRow.key (row : BindingRow) : String × String := (row.missionId, row.instanceId)

structure CheckpointRow where
  checkpointId : String
  missionId : String
  instanceId : String
  ocsId : String
  sequence : ℕ
  canonicalStateRef : String
  localStateJson : List Char
  localStateHash : String
  createdAt : String
  deriving DecidableEq, Repr

structure HandoffRow where
  missionId : String
  routeId : String
  sourceOcsId : String
  sourceInstanceId : String
  targetOcsId : String
  targetInstanceId : String
  checkpointRef : String
  envelopeJson : List Char
  envelopeHash : String
  accepted : Bool
  acceptanceReceiptRef : Option String
  createdAt : String
  deriving DecidableEq, Repr

structure ReceiptRow where
  missionId : String
  kind : String
  payloadJson : List Char
  payloadHash : String
  createdAt : String
  deriving DecidableEq, Repr

/-- The arguments of `_observe` that may be left out. -/
structure Observation where
  fromIdentity : Option String := none
  fromInstance : Option String := none
  toIdentity : Option String := none
  toInstance : Option String := none
  role : Option String := none
  authorityRef : Option String := none
  fencingEpoch : Option ℕ := none
  handoffRef : Option String := none
  receiptRef : Option String := none
  checkpointRef : Option String := none
  deriving DecidableEq, Repr

structure ObservationRow extends Observation where
  missionId : String
  gate : String
  stateBeforeHash : String
  stateAfterHash : String
  outcome : String
  createdAt : String
  deriving DecidableEq, Repr

structure EffectRow where
  effectId : String
  missionId : String
  instanceId : String
  ocsId : String
  fencingEpoch : ℤ
  authorityRef : String
  idempotencyKey : String
  payloadHash : String
  receiptRef : String
  createdAt : String
  deriving DecidableEq, Repr

/-- `uq_trial2_effect_idempotency`. -/
def EffectRow.key (row : EffectRow) : String × String := (row.missionId, row.idempotencyKey)

structure StateEntry where
  valueHash : String
  lastInstanceId : String
  lastEpoch : ℤ
  deriving DecidableEq, Repr

/-- The database.  A table with a primary key that no method sorts or counts is a
map from its key. -/
structure Database where
  missions : Dict String MissionRow
  bindings : List BindingRow
  fencing : Dict (String × String) ℕ
  checkpoints : List CheckpointRow
  handoffs : Dict String HandoffRow
  receipts : Dict String ReceiptRow
  observability : Dict String ObservationRow
  effects : List EffectRow
  stateEntries : Dict (String × String) StateEntry

structure RecoverySnapshot where
  missionId : String
  currentPrimaryActor : String
  currentInstance : String
  currentGate : String
  currentHandoffRef : Option String
  lastValidCheckpoint : String
  authorityRef : String
  role : String
  fencingEpoch : ℕ
  autonomousStepCounter : ℕ
  autonomousHandoffCounter : ℕ
  repairCycleCounter : ℕ
  deriving DecidableEq, Repr

structure EffectResult where
  effectId : String
  receiptRef : String
  mutationCount : ℕ
  duplicateReconciled : Bool
  deriving DecidableEq, Repr

structure BindResult where
  bindingId : String
  epoch : ℕ
  generation : ℕ
  receiptRef : String
  deriving DecidableEq, Repr

/-- `ROUTES`: the source, if it is fixed, and the target. -/
def routes : List (String × Option String × String) :=
  [("L2-SINGLE-SURFACE-DEDALA-TO-SOFIA-PLAN-001", some "DÉDALA", "SOFIA"),
    ("L2-SINGLE-SURFACE-SOFIA-TO-SYNESIS-ASSURANCE-001", some "SOFIA", "SÝNESIS"),
    ("L2-SINGLE-SURFACE-IMPLEMENTER-TO-SYNESIS-IMPLEMENTATION-ASSURANCE-001", none,
      "SÝNESIS")]

/-- `_state_ns`. -/
def stateNamespace (missionId ocsId : String) : String :=
  s!"trial2:{missionId}:{ocsId}:state:"

/-- A text that Python takes for true. -/
def given (text : Option String) : Option String := text.filter (· ≠ "")

/-! ## Hashes -/

variable {N : Type}

def textOrNone : Option String → PyValue N
  | none => .none
  | some text => .string text

namespace Encoding

variable (encoding : Encoding N)

/-- `_json`. -/
def json (value : PyValue N) : List Char := write encoding.format .compact value.document

/-- `_hash`. -/
def hash (value : PyValue N) : String := encoding.digest value.document

/-- `json.loads`. -/
def loads (text : List Char) : Option (PyValue N) :=
  (read encoding.format text).map PyValue.ofJson

def int (value : ℤ) : PyValue N := .number (encoding.ofInt value)

/-- The row of a mission, as a dictionary. -/
def mission (missionId : String) (row : MissionRow) : PyValue N :=
  .dict [("mission_id", .string missionId),
    ("canonical_state_ref", .string row.canonicalStateRef),
    ("current_gate", .string row.currentGate),
    ("status", .string row.status),
    ("active_ocs_id", textOrNone row.activeOcsId),
    ("active_instance_id", textOrNone row.activeInstanceId),
    ("current_handoff_ref", textOrNone row.currentHandoffRef),
    ("autonomy_budget", encoding.int row.autonomyBudget),
    ("autonomous_step_counter", encoding.int row.autonomousStepCounter),
    ("autonomous_handoff_counter", encoding.int row.autonomousHandoffCounter),
    ("repair_cycle_counter", encoding.int row.repairCycleCounter),
    ("version", encoding.int row.version)]

def bindingId (missionId ocsId instanceId : String) (epoch : ℕ) : String :=
  let digest := encoding.hash (.dict
    [("mission", .string missionId), ("ocs", .string ocsId),
      ("instance", .string instanceId), ("epoch", encoding.int epoch)])
  s!"binding:{digest}"

def checkpointId (missionId instanceId : String) (sequence : ℕ) (state : PyValue N) :
    String :=
  let digest := encoding.hash (.dict
    [("mission", .string missionId), ("instance", .string instanceId),
      ("sequence", encoding.int sequence), ("state", state)])
  s!"checkpoint:{digest}"

def handoffId (missionId routeId source target checkpointRef : String)
    (envelope : PyValue N) : String :=
  let digest := encoding.hash (.dict
    [("mission", .string missionId), ("route", .string routeId), ("source", .string source),
      ("target", .string target), ("checkpoint", .string checkpointRef),
      ("envelope", envelope)])
  s!"handoff:{digest}"

def receiptId (missionId kind : String) (payload : PyValue N) (time : String) : String :=
  let digest := encoding.hash (.dict
    [("mission", .string missionId), ("kind", .string kind), ("payload", payload),
      ("at", .string time)])
  s!"receipt:{digest}"

def eventId (missionId outcome : String) (before after : PyValue N) (time : String) :
    String :=
  let digest := encoding.hash (.dict
    [("mission", .string missionId), ("outcome", .string outcome), ("at", .string time),
      ("before", before), ("after", after)])
  s!"obs:{digest}"

def effectId (missionId key : String) (payload : PyValue N) : String :=
  let digest := encoding.hash (.dict
    [("mission", .string missionId), ("key", .string key), ("payload", payload)])
  s!"effect:{digest}"

end Encoding

/-! ## Queries and statements -/

/-- `ORDER BY generation DESC`. -/
def newerFirst (left right : BindingRow) : Prop := right.generation ≤ left.generation

instance : DecidableRel newerFirst := fun left right =>
  inferInstanceAs (Decidable (right.generation ≤ left.generation))

namespace Database

def empty : Database := ⟨∅, [], ∅, [], ∅, ∅, ∅, [], ∅⟩

/-- `_mission`. -/
def mission (database : Database) (missionId : String) : Except Trial2Error MissionRow :=
  match database.missions.lookup missionId with
  | none => .error (.hold "unknown_recovery_state")
  | some mission => .ok mission

/-- The row of a mission and an instance, which the table has at most once. -/
def binding? (database : Database) (missionId instanceId : String) : Option BindingRow :=
  database.bindings.find? (BindingRow.key · = (missionId, instanceId))

/-- `_binding`. -/
def binding (database : Database) (missionId instanceId : String) :
    Except Trial2Error BindingRow :=
  match database.binding? missionId instanceId with
  | none => .error (.hold "binding_missing")
  | some binding => .ok binding

/-- The row of the highest generation of an OCS. -/
def newest (database : Database) (missionId ocsId : String) : Option BindingRow :=
  ((database.bindings.filter fun binding =>
    binding.missionId = missionId ∧ binding.ocsId = ocsId).insertionSort newerFirst).head?

def updateMission (database : Database) (missionId : String) (mission : MissionRow) :
    Database :=
  { database with missions := database.missions.insert missionId mission }

/-- `UPDATE trial2_bindings ... WHERE binding_id = ...`. -/
def updateBinding (database : Database) (bindingId : String)
    (change : BindingRow → BindingRow) : Database :=
  { database with
    bindings := updateWhere (fun binding => binding.bindingId = bindingId) change
      database.bindings }

def insertBinding (database : Database) (row : BindingRow) : Except Trial2Error Database :=
  if database.bindings.any fun binding =>
      binding.bindingId = row.bindingId || binding.key = row.key then
    .error .integrityError
  else .ok { database with bindings := database.bindings ++ [row] }

def insertCheckpoint (database : Database) (row : CheckpointRow) :
    Except Trial2Error Database :=
  if database.checkpoints.any fun checkpoint =>
      checkpoint.checkpointId = row.checkpointId ||
        (checkpoint.missionId = row.missionId && checkpoint.sequence = row.sequence) then
    .error .integrityError
  else .ok { database with checkpoints := database.checkpoints ++ [row] }

def insertHandoff (database : Database) (handoffId : String) (row : HandoffRow) :
    Except Trial2Error Database :=
  if (database.handoffs.lookup handoffId).isSome then .error .integrityError
  else .ok { database with handoffs := database.handoffs.insert handoffId row }

def insertEffect (database : Database) (row : EffectRow) : Except Trial2Error Database :=
  if database.effects.any fun effect =>
      effect.effectId = row.effectId || effect.key = row.key then
    .error .integrityError
  else .ok { database with effects := database.effects ++ [row] }

/-- `_receipt`. -/
def receipt (encoding : Encoding N) (database : Database) (missionId kind : String)
    (payload : PyValue N) (time : String) : Except Trial2Error (Database × String) :=
  let receiptId := encoding.receiptId missionId kind payload time
  if (database.receipts.lookup receiptId).isSome then .error .integrityError
  else
    .ok ({ database with
        receipts := database.receipts.insert receiptId
          ⟨missionId, kind, encoding.json payload, encoding.hash payload, time⟩ },
      receiptId)

/-- `_observe` with the gates of the mission before and after, and the dictionaries. -/
def observe (encoding : Encoding N) (database : Database) (missionId : String)
    (gateBefore gateAfter : Option String) (before after : PyValue N)
    (observation : Observation) (outcome time : String) : Except Trial2Error Database :=
  let eventId := encoding.eventId missionId outcome before after time
  if (database.observability.lookup eventId).isSome then .error .integrityError
  else
    .ok { database with
      observability := database.observability.insert eventId
        { observation with
          missionId := missionId
          gate := ((given gateAfter).or (given gateBefore)).getD "UNKNOWN"
          stateBeforeHash := encoding.hash before
          stateAfterHash := encoding.hash after
          outcome := outcome
          createdAt := time } }

/-- `_observe` with the mission's row as it is now. -/
def observeMission (encoding : Encoding N) (database : Database) (missionId : String)
    (before : MissionRow) (observation : Observation) (outcome time : String) :
    Except Trial2Error Database := do
  let after ← database.mission missionId
  database.observe encoding missionId (some before.currentGate) (some after.currentGate)
    (encoding.mission missionId before) (encoding.mission missionId after) observation
    outcome time

/-- The epoch and the generation of the next binding of an OCS. -/
def advanceEpoch (database : Database) (missionId ocsId : String) :
    Except Trial2Error (Database × ℕ × ℕ) :=
  match database.fencing.lookup (missionId, ocsId) with
  | none =>
    .ok ({ database with fencing := database.fencing.insert (missionId, ocsId) 1 }, 1, 1)
  | some priorEpoch =>
    match database.newest missionId ocsId with
    | none => .error .noResultFound
    | some newest =>
      .ok ({ database with
          fencing := database.fencing.insert (missionId, ocsId) (priorEpoch + 1) },
        priorEpoch + 1, newest.generation + 1)

/-- The row of a handoff of the mission. -/
def handoffRow (database : Database) (missionId handoffId : String) :
    Except Trial2Error HandoffRow :=
  match database.handoffs.lookup handoffId with
  | none => .error .noResultFound
  | some row => if row.missionId = missionId then .ok row else .error .noResultFound

/-- `_validated_handoff_row`. -/
def validatedHandoffRow (encoding : Encoding N) (database : Database)
    (missionId handoffId : String) : Except Trial2Error HandoffRow := do
  let row ← database.handoffRow missionId handoffId
  match encoding.loads row.envelopeJson with
  | none => .error (.hold "handoff_envelope_integrity_failure")
  | some envelope =>
    if encoding.hash envelope ≠ row.envelopeHash then
      .error (.hold "handoff_envelope_integrity_failure")
    else return row

end Database

/-! ## Methods -/

section Methods

variable (encoding : Encoding N)

def createMission (missionId canonicalStateRef currentGate : String) (autonomyBudget : ℤ)
    (now : ℕ → String) : Transaction Database Trial2Error Unit := fun database =>
  if autonomyBudget < 1 then .error (.hold "autonomy_budget_required")
  else if (database.missions.lookup missionId).isSome then .error .integrityError
  else do
    let row : MissionRow :=
      { canonicalStateRef := canonicalStateRef
        currentGate := currentGate
        status := "TRIAL_2_BUILD"
        activeOcsId := none
        activeInstanceId := none
        currentHandoffRef := none
        autonomyBudget := autonomyBudget
        autonomousStepCounter := 0
        autonomousHandoffCounter := 0
        repairCycleCounter := 0
        version := 1 }
    let created := database.updateMission missionId row
    let database ← created.observe encoding missionId none (some currentGate) (.dict [])
      (encoding.mission missionId row) {} "mission_created" (now 0)
    return (database, ())

def bind (missionId ocsId instanceId authorityRef role : String) (activateIfEmpty : Bool)
    (now : ℕ → String) : Transaction Database Trial2Error BindResult := fun database =>
  if missionId = "" ∨ ocsId = "" ∨ instanceId = "" ∨ authorityRef = "" ∨ role = "" then
    .error (.hold "binding_identity_authority_or_role_ambiguous")
  else do
    let mission ← database.mission missionId
    let (advanced, epoch, generation) ← database.advanceEpoch missionId ocsId
    let active := activateIfEmpty && mission.activeInstanceId.isNone
    let bindingId := encoding.bindingId missionId ocsId instanceId epoch
    let bound ← advanced.insertBinding
      { bindingId := bindingId
        missionId := missionId
        ocsId := ocsId
        instanceId := instanceId
        generation := generation
        fencingEpoch := epoch
        authorityRef := authorityRef
        role := role
        status := if active then .active else .bound
        checkpointRef := none
        createdAt := now 0 }
    let activated :=
      if active then
        bound.updateMission missionId
          { mission with
            activeOcsId := some ocsId
            activeInstanceId := some instanceId
            version := mission.version + 1 }
      else bound
    let (receipted, receipt) ← activated.receipt encoding missionId "binding"
      (.dict [("binding_id", .string bindingId), ("instance_id", .string instanceId),
        ("ocs_id", .string ocsId), ("epoch", encoding.int epoch)]) (now 1)
    let database ← receipted.observeMission encoding missionId mission
      { fromIdentity := mission.activeOcsId
        fromInstance := mission.activeInstanceId
        toIdentity := if active then some ocsId else mission.activeOcsId
        toInstance := if active then some instanceId else mission.activeInstanceId
        role := some role
        authorityRef := some authorityRef
        fencingEpoch := some epoch
        receiptRef := some receipt }
      "binding_persisted" (now 2)
    return (database, ⟨bindingId, epoch, generation, receipt⟩)

def checkpoint (missionId instanceId : String) (localState : PyValue N) (now : ℕ → String) :
    Transaction Database Trial2Error String := fun database => do
  let mission ← database.mission missionId
  if mission.activeInstanceId ≠ some instanceId then
    .error (.hold "checkpoint_requires_active_instance")
  else
    let binding ← database.binding missionId instanceId
    if binding.status ≠ .active then
      .error (.hold "checkpoint_requires_active_binding")
    else
      let sequence :=
        ((database.checkpoints.filter fun row => row.missionId = missionId).map
          (·.sequence)).foldr max 0 + 1
      let checkpointId := encoding.checkpointId missionId instanceId sequence localState
      let saved ← database.insertCheckpoint
        { checkpointId := checkpointId
          missionId := missionId
          instanceId := instanceId
          ocsId := binding.ocsId
          sequence := sequence
          canonicalStateRef := mission.canonicalStateRef
          localStateJson := encoding.json localState
          localStateHash := encoding.hash localState
          createdAt := now 0 }
      let referenced := saved.updateBinding binding.bindingId fun row =>
        { row with checkpointRef := some checkpointId }
      let (receipted, receipt) ← referenced.receipt encoding missionId "checkpoint"
        (.dict [("checkpoint_id", .string checkpointId),
          ("instance_id", .string instanceId)]) (now 1)
      let database ← receipted.observeMission encoding missionId mission
        { fromIdentity := some binding.ocsId
          fromInstance := some instanceId
          toIdentity := some binding.ocsId
          toInstance := some instanceId
          role := some binding.role
          authorityRef := some binding.authorityRef
          fencingEpoch := some binding.fencingEpoch
          receiptRef := some receipt
          checkpointRef := some checkpointId }
        "checkpoint_persisted" (now 2)
      return (database, checkpointId)

def issueHandoff (missionId routeId targetInstanceId targetOcsId : String)
    (envelope : PyValue N) (now : ℕ → String) : Transaction Database Trial2Error String :=
  fun database =>
    match routes.lookup routeId with
    | none => .error (.hold "unlisted_l2_route")
    | some (routeSource, routeTarget) => do
        let mission ← database.mission missionId
        match given mission.activeOcsId, given mission.activeInstanceId with
        | some sourceOcs, some sourceInstance =>
          if routeSource.any (· ≠ sourceOcs) then
            .error (.hold "route_source_mismatch")
          else if routeTarget ≠ targetOcsId then
            .error (.hold "route_target_mismatch")
          else
            let source ← database.binding missionId sourceInstance
            let target ← database.binding missionId targetInstanceId
            match given source.checkpointRef with
            | none => .error (.hold "source_checkpoint_required")
            | some checkpointRef =>
              if target.ocsId ≠ targetOcsId ∨ target.status ≠ .bound then
                .error (.hold "target_binding_required")
              else
                let handoffId := encoding.handoffId missionId routeId sourceInstance
                  targetInstanceId checkpointRef envelope
                let issued ← database.insertHandoff handoffId
                  { missionId := missionId
                    routeId := routeId
                    sourceOcsId := sourceOcs
                    sourceInstanceId := sourceInstance
                    targetOcsId := targetOcsId
                    targetInstanceId := targetInstanceId
                    checkpointRef := checkpointRef
                    envelopeJson := encoding.json envelope
                    envelopeHash := encoding.hash envelope
                    accepted := false
                    acceptanceReceiptRef := none
                    createdAt := now 0 }
                let noted := issued.updateMission missionId
                  { mission with currentHandoffRef := some handoffId }
                let (receipted, receipt) ← noted.receipt encoding missionId
                  "handoff_envelope" (.dict [("handoff_id", .string handoffId)]) (now 1)
                let database ← receipted.observeMission encoding missionId mission
                  { fromIdentity := some sourceOcs
                    fromInstance := some sourceInstance
                    toIdentity := some targetOcsId
                    toInstance := some targetInstanceId
                    role := some source.role
                    authorityRef := some source.authorityRef
                    fencingEpoch := some source.fencingEpoch
                    handoffRef := some handoffId
                    receiptRef := some receipt
                    checkpointRef := some checkpointRef }
                  "handoff_persisted" (now 2)
                return (database, handoffId)
        | _, _ => .error (.hold "active_source_missing")

/-- What `accept_handoff` has read before its first write. -/
structure Reading where
  mission : MissionRow
  row : HandoffRow
  source : BindingRow
  target : BindingRow
  deriving DecidableEq, Repr

/-- The reads and the checks of `accept_handoff`; `found` is its query for the
handoff. -/
def readAcceptance (missionId : String) (found : Except Trial2Error HandoffRow)
    (database : Database) : Except Trial2Error Reading := do
  let mission ← database.mission missionId
  let row ← found
  if row.accepted then .error (.hold "blind_retry_forbidden")
  else if mission.activeInstanceId ≠ some row.sourceInstanceId then
    .error (.hold "source_no_longer_active")
  else
    let source ← database.binding missionId row.sourceInstanceId
    let target ← database.binding missionId row.targetInstanceId
    if given source.checkpointRef ≠ some row.checkpointRef then
      .error (.hold "checkpoint_integrity_or_continuity_failure")
    else if target.status ≠ .bound then .error (.hold "target_binding_required")
    else if (mission.autonomousStepCounter + 1 : ℤ) > mission.autonomyBudget then
      .error (.hold "autonomy_budget_exhausted")
    else return ⟨mission, row, source, target⟩

/-- The writes of `accept_handoff`, with the mission's row as they find it.  The two
stores update the mission at different places among statements that do not touch it. -/
def handOver (missionId handoffId : String) (reading : Reading) (current : MissionRow)
    (now : ℕ → String) : Transaction Database Trial2Error String := fun database => do
  let claimed := database.updateMission missionId
    { current with
      activeOcsId := some reading.row.targetOcsId
      activeInstanceId := some reading.row.targetInstanceId
      currentHandoffRef := some handoffId
      autonomousStepCounter := reading.mission.autonomousStepCounter + 1
      autonomousHandoffCounter := reading.mission.autonomousHandoffCounter + 1
      version := reading.mission.version + 1 }
  let quiesced := claimed.updateBinding reading.source.bindingId fun binding =>
    { binding with status := .quiescent }
  let activated := quiesced.updateBinding reading.target.bindingId fun binding =>
    { binding with status := .active }
  let (receipted, receipt) ← activated.receipt encoding missionId "handoff_acceptance"
    (.dict [("handoff_id", .string handoffId),
      ("target_instance_id", .string reading.row.targetInstanceId)]) (now 0)
  let accepted := { receipted with
    handoffs := match receipted.handoffs.lookup handoffId with
      | none => receipted.handoffs
      | some row => receipted.handoffs.insert handoffId
          { row with accepted := true, acceptanceReceiptRef := some receipt } }
  let database ← accepted.observeMission encoding missionId reading.mission
    { fromIdentity := some reading.row.sourceOcsId
      fromInstance := some reading.row.sourceInstanceId
      toIdentity := some reading.row.targetOcsId
      toInstance := some reading.row.targetInstanceId
      role := some reading.target.role
      authorityRef := some reading.target.authorityRef
      fencingEpoch := some reading.target.fencingEpoch
      handoffRef := some handoffId
      receiptRef := some receipt
      checkpointRef := some reading.row.checkpointRef }
    "handoff_accepted" (now 1)
  return (database, receipt)

def acceptHandoff (missionId handoffId : String) (now : ℕ → String) :
    Transaction Database Trial2Error String := fun database => do
  let reading ← readAcceptance missionId (database.handoffRow missionId handoffId) database
  handOver encoding missionId handoffId reading reading.mission now database

/-- The checks of `recover_snapshot` on the checkpoint. -/
def checkCheckpoint (database : Database) (checkpointRef : String) :
    Except Trial2Error Unit :=
  match database.checkpoints.find? (·.checkpointId = checkpointRef) with
  | none => .error .noResultFound
  | some saved =>
    match encoding.loads saved.localStateJson with
    | none => .error (.hold "checkpoint_integrity_failure")
    | some localState =>
      if encoding.hash localState ≠ saved.localStateHash then
        .error (.hold "checkpoint_integrity_failure")
      else .ok ()

/-- Its checks on the current handoff, with the query of the store for it. -/
def checkCurrentHandoff (handoffOf : Database → String → Except Trial2Error HandoffRow)
    (database : Database) (mission : MissionRow) : Except Trial2Error Unit :=
  match given mission.currentHandoffRef with
  | none => .ok ()
  | some handoffId => do
      let row ← handoffOf database handoffId
      if !row.accepted then .ok ()
      else
        match given row.acceptanceReceiptRef with
        | none => .error (.hold "handoff_receipt_recovery_failure")
        | some receipt =>
          if (database.receipts.lookup receipt).isNone then
            .error (.hold "handoff_receipt_recovery_failure")
          else .ok ()

def recoverSnapshotWith (handoffOf : Database → String → Except Trial2Error HandoffRow)
    (missionId : String) (authorityValidator : String → String → String → Bool)
    (now : ℕ → String) : Transaction Database Trial2Error RecoverySnapshot :=
  fun database => do
    let mission ← database.mission missionId
    match given mission.activeOcsId, given mission.activeInstanceId with
    | some actor, some instanceId =>
      let binding ← database.binding missionId instanceId
      if binding.status ≠ .active then .error (.hold "unknown_recovery_state")
      else
        match given binding.checkpointRef with
        | none => .error (.hold "no_checkpoint_for_required_recovery")
        | some checkpointRef =>
          checkCheckpoint encoding database checkpointRef
          if database.fencing.lookup (missionId, actor) ≠
              some binding.fencingEpoch then
            .error (.hold "fencing_revalidation_failure")
          else if !authorityValidator binding.authorityRef actor binding.role then
            .error (.hold "authority_revalidation_failure")
          else
            checkCurrentHandoff handoffOf database mission
            let database ← database.observe encoding missionId
              (some mission.currentGate) (some mission.currentGate)
              (encoding.mission missionId mission) (encoding.mission missionId mission)
              { fromIdentity := some actor
                fromInstance := some instanceId
                toIdentity := some actor
                toInstance := some instanceId
                role := some binding.role
                authorityRef := some binding.authorityRef
                fencingEpoch := some binding.fencingEpoch
                handoffRef := mission.currentHandoffRef
                checkpointRef := some checkpointRef }
              "restart_recovery_revalidated" (now 0)
            return (database,
              { missionId := missionId
                currentPrimaryActor := actor
                currentInstance := instanceId
                currentGate := mission.currentGate
                currentHandoffRef := mission.currentHandoffRef
                lastValidCheckpoint := checkpointRef
                authorityRef := binding.authorityRef
                role := binding.role
                fencingEpoch := binding.fencingEpoch
                autonomousStepCounter := mission.autonomousStepCounter
                autonomousHandoffCounter := mission.autonomousHandoffCounter
                repairCycleCounter := mission.repairCycleCounter })
    | _, _ => .error (.hold "unknown_recovery_state")

def recoverSnapshot (missionId : String)
    (authorityValidator : String → String → String → Bool) (now : ℕ → String) :
    Transaction Database Trial2Error RecoverySnapshot :=
  recoverSnapshotWith encoding (fun database handoffId =>
      match database.handoffs.lookup handoffId with
      | none => .error .noResultFound
      | some row => .ok row)
    missionId authorityValidator now

/-- `apply_synthetic_effect`; `conflicts` is the check of a stored effect with the key. -/
def applySyntheticEffectWith (conflicts : EffectRow → Bool)
    (missionId ocsId instanceId : String) (epoch : ℤ) (authorityRef idempotencyKey : String)
    (payload : PyValue N) (now : ℕ → String) :
    Transaction Database Trial2Error EffectResult := fun database => do
  let mission ← database.mission missionId
  if mission.activeOcsId ≠ some ocsId ∨ mission.activeInstanceId ≠ some instanceId then
    .error (.hold "unauthorized_effect")
  else
    let binding ← database.binding missionId instanceId
    if (binding.fencingEpoch : ℤ) ≠ epoch then .error (.hold "stale_epoch")
    else if binding.authorityRef ≠ authorityRef then .error (.hold "authority_mismatch")
    else
      match database.effects.find? (EffectRow.key · = (missionId, idempotencyKey)) with
      | some prior =>
        if conflicts prior then .error (.hold "idempotency_key_payload_mismatch")
        else return (database, ⟨prior.effectId, prior.receiptRef, 0, true⟩)
      | none =>
        let payloadHash := encoding.hash payload
        let (receipted, receipt) ← database.receipt encoding missionId "effect"
          (.dict [("idempotency_key", .string idempotencyKey),
            ("payload_hash", .string payloadHash)]) (now 0)
        let effectId := encoding.effectId missionId idempotencyKey payload
        let database ← receipted.insertEffect
          { effectId := effectId
            missionId := missionId
            instanceId := instanceId
            ocsId := ocsId
            fencingEpoch := epoch
            authorityRef := authorityRef
            idempotencyKey := idempotencyKey
            payloadHash := payloadHash
            receiptRef := receipt
            createdAt := now 1 }
        return (database, ⟨effectId, receipt, 1, false⟩)

def applySyntheticEffect (missionId ocsId instanceId : String) (epoch : ℤ)
    (authorityRef idempotencyKey : String) (payload : PyValue N) (now : ℕ → String) :
    Transaction Database Trial2Error EffectResult :=
  applySyntheticEffectWith encoding (fun _ => false) missionId ocsId instanceId epoch
    authorityRef idempotencyKey payload now

def writeState (missionId ocsId instanceId : String) (epoch : ℤ) (namespaceKey : String)
    (value : PyValue N) : Transaction Database Trial2Error ℕ := fun database => do
  let mission ← database.mission missionId
  if mission.activeOcsId ≠ some ocsId ∨ mission.activeInstanceId ≠ some instanceId then
    return (database, 0)
  else if !(stateNamespace missionId ocsId).toList.isPrefixOf namespaceKey.toList then
    return (database, 0)
  else
    let binding ← database.binding missionId instanceId
    if (binding.fencingEpoch : ℤ) ≠ epoch then return (database, 0)
    else
      return ({ database with
          stateEntries := database.stateEntries.insert (missionId, namespaceKey)
            ⟨encoding.hash value, instanceId, epoch⟩ }, 1)

end Methods

/-! ## The integrity-checked store -/

namespace IntegrityChecked

variable (encoding : Encoding N)

/-- The part of `accept_handoff` from the compare-and-set of the mission's version on. -/
def claim (missionId handoffId : String) (reading : Reading) (now : ℕ → String) :
    Transaction Database Trial2Error String := fun database =>
  match database.missions.lookup missionId with
  | none => .error (.hold "concurrent_handoff_conflict")
  | some current =>
    if current.version ≠ reading.mission.version ∨
        current.activeInstanceId ≠ some reading.row.sourceInstanceId then
      .error (.hold "concurrent_handoff_conflict")
    else handOver encoding missionId handoffId reading current now database

/-- The part before it. -/
def readHandoff (missionId handoffId : String) (database : Database) :
    Except Trial2Error Reading :=
  readAcceptance missionId (database.validatedHandoffRow encoding missionId handoffId)
    database

def acceptHandoff (missionId handoffId : String) (now : ℕ → String) :
    Transaction Database Trial2Error String := fun database => do
  let reading ← readHandoff encoding missionId handoffId database
  claim encoding missionId handoffId reading now database

def recoverSnapshot (missionId : String)
    (authorityValidator : String → String → String → Bool) (now : ℕ → String) :
    Transaction Database Trial2Error RecoverySnapshot :=
  recoverSnapshotWith encoding (fun database handoffId =>
      database.validatedHandoffRow encoding missionId handoffId)
    missionId authorityValidator now

def applySyntheticEffect (missionId ocsId instanceId : String) (epoch : ℤ)
    (authorityRef idempotencyKey : String) (payload : PyValue N) (now : ℕ → String) :
    Transaction Database Trial2Error EffectResult :=
  applySyntheticEffectWith encoding (fun prior => prior.payloadHash ≠ encoding.hash payload)
    missionId ocsId instanceId epoch authorityRef idempotencyKey payload now

end IntegrityChecked

/-! ## Runs -/

/-- The two classes. -/
inductive StoreClass where
  | persistent | integrityChecked
  deriving DecidableEq, Repr

/-- The methods of the stores. -/
inductive Call (N : Type) where
  | createMission (missionId canonicalStateRef currentGate : String) (autonomyBudget : ℤ)
      (now : ℕ → String)
  | bind (missionId ocsId instanceId authorityRef role : String) (activateIfEmpty : Bool)
      (now : ℕ → String)
  | checkpoint (missionId instanceId : String) (localState : PyValue N) (now : ℕ → String)
  | issueHandoff (missionId routeId targetInstanceId targetOcsId : String)
      (envelope : PyValue N) (now : ℕ → String)
  | acceptHandoff (store : StoreClass) (missionId handoffId : String) (now : ℕ → String)
  | recoverSnapshot (store : StoreClass) (missionId : String)
      (authorityValidator : String → String → String → Bool) (now : ℕ → String)
  | applySyntheticEffect (store : StoreClass) (missionId ocsId instanceId : String)
      (epoch : ℤ) (authorityRef idempotencyKey : String) (payload : PyValue N)
      (now : ℕ → String)
  | writeState (missionId ocsId instanceId : String) (epoch : ℤ) (namespaceKey : String)
      (value : PyValue N)

/-- The method of a class. -/
def StoreClass.choose {A : Type} (store : StoreClass) (persistent integrityChecked : A) : A :=
  match store with
  | .persistent => persistent
  | .integrityChecked => integrityChecked

/-- The database after a call, accepted or rejected. -/
def perform (encoding : Encoding N) (database : Database) : Call N → Database
  | .createMission missionId canonicalStateRef currentGate autonomyBudget now =>
    (createMission encoding missionId canonicalStateRef currentGate autonomyBudget
      now).leaves database
  | .bind missionId ocsId instanceId authorityRef role activateIfEmpty now =>
    (Trial2.bind encoding missionId ocsId instanceId authorityRef role activateIfEmpty
      now).leaves database
  | .checkpoint missionId instanceId localState now =>
    (checkpoint encoding missionId instanceId localState now).leaves database
  | .issueHandoff missionId routeId targetInstanceId targetOcsId envelope now =>
    (issueHandoff encoding missionId routeId targetInstanceId targetOcsId envelope
      now).leaves database
  | .acceptHandoff store missionId handoffId now =>
    (store.choose (acceptHandoff encoding missionId handoffId now)
      (IntegrityChecked.acceptHandoff encoding missionId handoffId now)).leaves database
  | .recoverSnapshot store missionId authorityValidator now =>
    (store.choose (recoverSnapshot encoding missionId authorityValidator now)
      (IntegrityChecked.recoverSnapshot encoding missionId authorityValidator
        now)).leaves database
  | .applySyntheticEffect store missionId ocsId instanceId epoch authorityRef idempotencyKey
      payload now =>
      (store.choose
        (applySyntheticEffect encoding missionId ocsId instanceId epoch authorityRef
          idempotencyKey payload now)
        (IntegrityChecked.applySyntheticEffect encoding missionId ocsId instanceId epoch
          authorityRef idempotencyKey payload now)).leaves database
  | .writeState missionId ocsId instanceId epoch namespaceKey value =>
    (writeState encoding missionId ocsId instanceId epoch namespaceKey value).leaves
      database

/-- Integers in decimal, and a digest that joins the texts of an object's fields. -/
def plainEncoding : Encoding ℤ where
  format := integerFormat
  ofInt := id
  digest
    | .object fields => String.join (fields.map fun field =>
      match field.2 with
      | .string text => text
      | .number value => value.repr
      | _ => "")
    | _ => ""

/-- A clock whose readings all name the call. -/
def clockAt (call : String) : ℕ → String := fun _ => call

end ReisOs.Trial2
