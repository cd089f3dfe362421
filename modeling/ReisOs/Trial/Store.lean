import ReisOs.Core.Dict
import ReisOs.Core.Json
import ReisOs.Core.Tables

/-!
# The trial store

The single-surface trial keeps its missions, bindings, fencing epochs, checkpoints,
handoffs, state entries and receipts in one database.  Every method is a transaction,
or a few of them one after the other.  The canonical hash is a parameter, and `now`
gives the clock readings of a transaction in their order.
-/

namespace ReisOs.Trial

open ReisOs.Core

/-! ## Contracts -/

/-- A JSON value; a number is its text. -/
abbrev Value := Json String

inductive TrialError where
  | hold (reason : String)
  | noResultFound
  | multipleResultsFound
  | integrityError
  deriving DecidableEq, Repr

inductive MissionStatus where
  | prepared | buildVerification | hold | implementationComplete
  deriving DecidableEq, Repr

inductive BindingStatus where
  | bound | active | quiescent | fenced
  deriving DecidableEq, Repr

inductive Decision where
  | allow | deny | hold
  deriving DecidableEq, Repr

structure RouteSpec where
  routeId : String
  sourceOcs : Option String
  targetOcs : Option String

/-- `L2_ROUTES`. -/
def l2Routes : List RouteSpec :=
  [{ routeId := "L2-SINGLE-SURFACE-DEDALA-TO-SOFIA-PLAN-001"
     sourceOcs := some "DÉDALA"
     targetOcs := some "SOFIA" },
    { routeId := "L2-SINGLE-SURFACE-SOFIA-TO-SYNESIS-ASSURANCE-001"
      sourceOcs := some "SOFIA"
      targetOcs := some "SÝNESIS" },
    { routeId :=
        "L2-SINGLE-SURFACE-IMPLEMENTER-TO-SYNESIS-IMPLEMENTATION-ASSURANCE-001"
      sourceOcs := none
      targetOcs := some "SÝNESIS" },
    { routeId := "L2-SINGLE-SURFACE-SYNESIS-TO-FOUNDER-TRIAL-GATE-001"
      sourceOcs := some "SÝNESIS"
      targetOcs := none }]

def stateNamespace (missionId ocsId : String) : String := s!"trial:{missionId}:{ocsId}:state:"

def memoryNamespace (missionId ocsId : String) : String :=
  s!"trial:{missionId}:{ocsId}:memory:"

/-! ## Tables -/

structure MissionRow where
  canonicalStateRef : String
  activeOcsId : Option String
  activeInstanceId : Option String
  currentGate : String
  status : MissionStatus
  autonomyBudget : ℤ
  autonomousStepCounter : ℕ
  autonomousHandoffCounter : ℕ
  version : ℕ
  deriving DecidableEq, Repr

structure BindingRow where
  bindingId : String
  missionId : String
  ocsId : String
  instanceId : String
  predecessorInstanceId : Option String
  generation : ℕ
  fencingEpoch : ℕ
  stateNamespaceRef : String
  memoryNamespaceRef : String
  authorityRef : String
  status : BindingStatus
  checkpointRef : Option String
  createdAt : String
  deriving DecidableEq, Repr

structure CheckpointRow where
  checkpointId : String
  missionId : String
  instanceId : String
  ocsId : String
  sequence : ℕ
  canonicalStateRef : String
  localStateHash : String
  createdAt : String
  deriving DecidableEq, Repr

structure HandoffRow where
  missionId : String
  routeId : String
  sourceInstanceId : String
  sourceOcsId : String
  targetInstanceId : String
  targetOcsId : String
  checkpointRef : String
  envelopeHash : String
  accepted : Bool
  acceptanceReceiptRef : Option String
  createdAt : String
  deriving DecidableEq, Repr

structure StateEntry where
  valueHash : String
  lastInstanceId : String
  lastEpoch : ℤ
  deriving DecidableEq, Repr

structure ReceiptRow where
  missionId : String
  kind : String
  payloadHash : String
  createdAt : String
  deriving DecidableEq, Repr

structure LedgerRow where
  missionId : String
  eventType : String
  eventRef : String
  payloadHash : String
  createdAt : String
  deriving DecidableEq, Repr

/-- The database.  A table with a primary key that no method sorts or counts is a
map from its key. -/
structure TrialDatabase where
  missions : Dict String MissionRow
  bindings : List BindingRow
  fencing : Dict (String × String) ℕ
  checkpoints : List CheckpointRow
  handoffs : Dict String HandoffRow
  stateEntries : Dict (String × String) StateEntry
  receipts : Dict String ReceiptRow
  ledger : Dict String LedgerRow

structure BindingReceipt where
  bindingId : String
  missionId : String
  ocsId : String
  instanceId : String
  generation : ℕ
  fencingEpoch : ℕ
  status : BindingStatus
  receiptId : String
  deriving DecidableEq, Repr

structure MutationReceipt where
  decision : Decision
  mutationCount : ℕ
  reason : String
  receiptId : String
  deriving DecidableEq, Repr

structure HandoffReceipt where
  handoffId : String
  acceptanceReceiptId : String
  sourceOcsId : String
  targetOcsId : String
  deriving DecidableEq, Repr

/-! ## Queries -/

/-- `.one()`. -/
def one {A : Type} : List A → Except TrialError A
  | [] => .error .noResultFound
  | [row] => .ok row
  | _ => .error .multipleResultsFound

/-- `.one_or_none()`. -/
def oneOrNone {A : Type} : List A → Except TrialError (Option A)
  | [] => .ok none
  | [row] => .ok (some row)
  | _ => .error .multipleResultsFound

/-- `ORDER BY generation DESC`. -/
def newerFirst (left right : BindingRow) : Prop := right.generation ≤ left.generation

instance : DecidableRel newerFirst := fun left right =>
  inferInstanceAs (Decidable (right.generation ≤ left.generation))

namespace TrialDatabase

def empty : TrialDatabase := ⟨∅, [], ∅, [], ∅, ∅, ∅, ∅⟩

def mission (database : TrialDatabase) (missionId : String) :
    Except TrialError MissionRow :=
  match database.missions.lookup missionId with
  | none => .error .noResultFound
  | some mission => .ok mission

/-- The row of the highest generation of an OCS. -/
def newest (database : TrialDatabase) (missionId ocsId : String) : Option BindingRow :=
  ((database.bindings.filter fun binding =>
    binding.missionId = missionId ∧ binding.ocsId = ocsId).insertionSort newerFirst).head?

def instanceBindings (database : TrialDatabase) (missionId instanceId : String) :
    List BindingRow :=
  database.bindings.filter fun binding =>
    binding.missionId = missionId ∧ binding.instanceId = instanceId

/-- The ACTIVE bindings of a mission. -/
def activeBindings (database : TrialDatabase) (missionId : String) : List BindingRow :=
  database.bindings.filter fun binding =>
    binding.missionId = missionId ∧ binding.status = .active

def updateMission (database : TrialDatabase) (missionId : String) (mission : MissionRow) :
    TrialDatabase :=
  { database with missions := database.missions.insert missionId mission }

/-- `UPDATE trial_bindings ... WHERE binding_id = ...`. -/
def updateBinding (database : TrialDatabase) (bindingId : String)
    (change : BindingRow → BindingRow) : TrialDatabase :=
  { database with
    bindings := updateWhere (fun binding => binding.bindingId = bindingId) change
      database.bindings }

def insertBinding (database : TrialDatabase) (row : BindingRow) :
    Except TrialError TrialDatabase :=
  if database.bindings.any fun binding =>
      binding.bindingId = row.bindingId ||
        (binding.missionId = row.missionId && binding.ocsId = row.ocsId &&
          binding.generation = row.generation) then
    .error .integrityError
  else .ok { database with bindings := database.bindings ++ [row] }

def insertCheckpoint (database : TrialDatabase) (row : CheckpointRow) :
    Except TrialError TrialDatabase :=
  if database.checkpoints.any fun checkpoint =>
      checkpoint.checkpointId = row.checkpointId ||
        (checkpoint.missionId = row.missionId && checkpoint.sequence = row.sequence) then
    .error .integrityError
  else .ok { database with checkpoints := database.checkpoints ++ [row] }

def insertHandoff (database : TrialDatabase) (handoffId : String) (row : HandoffRow) :
    Except TrialError TrialDatabase :=
  if (database.handoffs.lookup handoffId).isSome then .error .integrityError
  else .ok { database with handoffs := database.handoffs.insert handoffId row }

variable (canonicalHash : Value → String)

/-- `_append_ledger`. -/
def appendLedger (database : TrialDatabase) (missionId eventType eventRef : String)
    (payload : Value) (now : ℕ → String) : Except TrialError TrialDatabase :=
  let digest := canonicalHash (.object
    [("mission", .string missionId), ("event_type", .string eventType),
      ("event_ref", .string eventRef), ("payload", payload), ("at", .string (now 0))])
  let ledgerId := s!"ledger:{digest}"
  if (database.ledger.lookup ledgerId).isSome then .error .integrityError
  else
    .ok { database with
      ledger := database.ledger.insert ledgerId
        ⟨missionId, eventType, eventRef, canonicalHash payload, now 1⟩ }

/-- `_receipt`. -/
def receipt (database : TrialDatabase) (missionId kind : String) (payload : Value)
    (now : ℕ → String) : Except TrialError (TrialDatabase × String) :=
  let digest := canonicalHash (.object
    [("mission", .string missionId), ("kind", .string kind), ("payload", payload),
      ("at", .string (now 0))])
  let receiptId := s!"receipt:{digest}"
  if (database.receipts.lookup receiptId).isSome then .error .integrityError
  else do
    let noted := { database with
      receipts := database.receipts.insert receiptId
        ⟨missionId, kind, canonicalHash payload, now 1⟩ }
    let database ← noted.appendLedger canonicalHash missionId s!"receipt:{kind}" receiptId
      payload fun n => now (n + 2)
    return (database, receiptId)

/-- The fencing epoch and the generation of the next binding of an OCS, with the
instance it succeeds; the newest binding so far is fenced. -/
def advanceEpoch (database : TrialDatabase) (missionId ocsId : String) :
    Except TrialError (TrialDatabase × ℕ × ℕ × Option String) :=
  match database.fencing.lookup (missionId, ocsId) with
  | none =>
    .ok ({ database with fencing := database.fencing.insert (missionId, ocsId) 1 },
      1, 1, none)
  | some currentEpoch =>
    match database.newest missionId ocsId with
    | none => .error .noResultFound
    | some prior =>
      let fenced := database.updateBinding prior.bindingId fun binding =>
        { binding with status := .fenced }
      .ok ({ fenced with
          fencing := database.fencing.insert (missionId, ocsId) (currentEpoch + 1) },
        currentEpoch + 1, prior.generation + 1, some prior.instanceId)

/-- `_write_denial_reason`. -/
def writeDenialReason (database : TrialDatabase) (missionId ocsId instanceId : String)
    (epoch : ℤ) (namespaceKey : String) : Except TrialError (Option String) := do
  let mission ← database.mission missionId
  if mission.activeOcsId ≠ some ocsId ∨ mission.activeInstanceId ≠ some instanceId then
    return some "instance_not_active"
  else if !(stateNamespace missionId ocsId).toList.isPrefixOf namespaceKey.toList then
    return some "cross_ocs_namespace_write_forbidden"
  else
    match database.fencing.lookup (missionId, ocsId) with
    | none => .error .noResultFound
    | some currentEpoch =>
      if (currentEpoch : ℤ) ≠ epoch then return some "stale_epoch" else return none

end TrialDatabase

/-! ## Methods -/

section Methods

variable (canonicalHash : Value → String)

def createMission (missionId canonicalStateRef currentGate : String)
    (autonomyBudget : ℤ) (now : ℕ → String) : Transaction TrialDatabase TrialError Unit :=
  fun database =>
    if autonomyBudget < 1 then .error (.hold "autonomy_budget_required")
    else if (database.missions.lookup missionId).isSome then .error .integrityError
    else do
      let created := database.updateMission missionId
        { canonicalStateRef := canonicalStateRef
          activeOcsId := none
          activeInstanceId := none
          currentGate := currentGate
          status := .buildVerification
          autonomyBudget := autonomyBudget
          autonomousStepCounter := 0
          autonomousHandoffCounter := 0
          version := 1 }
      let database ← created.appendLedger canonicalHash missionId "mission_created"
        missionId (.object [("gate", .string currentGate)]) now
      return (database, ())

def bind (missionId ocsId instanceId authorityRef : String) (activateIfEmpty : Bool)
    (now : ℕ → String) : Transaction TrialDatabase TrialError BindingReceipt :=
  fun database =>
    if missionId = "" ∨ ocsId = "" ∨ instanceId = "" ∨ authorityRef = "" then
      .error (.hold "binding_identity_or_authority_ambiguous")
    else do
      let mission ← database.mission missionId
      let (fenced, epoch, generation, predecessor) ← database.advanceEpoch missionId ocsId
      let shouldActivate := activateIfEmpty && mission.activeInstanceId.isNone
      let status : BindingStatus := if shouldActivate then .active else .bound
      let digest := canonicalHash (.object
        [("mission", .string missionId), ("ocs", .string ocsId),
          ("instance", .string instanceId), ("epoch", .number (toString epoch))])
      let bindingId := s!"binding:{digest}"
      let bound ← fenced.insertBinding
        { bindingId := bindingId
          missionId := missionId
          ocsId := ocsId
          instanceId := instanceId
          predecessorInstanceId := predecessor
          generation := generation
          fencingEpoch := epoch
          stateNamespaceRef := stateNamespace missionId ocsId
          memoryNamespaceRef := memoryNamespace missionId ocsId
          authorityRef := authorityRef
          status := status
          checkpointRef := none
          createdAt := now 0 }
      let activated :=
        if shouldActivate then
          bound.updateMission missionId
            { mission with
              activeOcsId := some ocsId
              activeInstanceId := some instanceId
              version := mission.version + 1 }
        else bound
      let (database, receiptId) ← activated.receipt canonicalHash missionId "binding"
        (.object [("binding_id", .string bindingId), ("ocs_id", .string ocsId),
          ("instance_id", .string instanceId), ("epoch", .number (toString epoch))])
        fun n => now (n + 1)
      return (database,
        { bindingId := bindingId
          missionId := missionId
          ocsId := ocsId
          instanceId := instanceId
          generation := generation
          fencingEpoch := epoch
          status := status
          receiptId := receiptId })

def checkpoint (missionId instanceId : String) (localState : Value) (now : ℕ → String) :
    Transaction TrialDatabase TrialError String :=
  fun database => do
    let mission ← database.mission missionId
    if mission.activeInstanceId ≠ some instanceId then
      .error (.hold "checkpoint_requires_active_instance")
    else
      let binding ← one ((database.instanceBindings missionId instanceId).filter fun row =>
        row.status = .active)
      let sequence :=
        ((database.checkpoints.filter fun row => row.missionId = missionId).map
          (·.sequence)).foldr max 0 + 1
      let digest := canonicalHash (.object
        [("mission", .string missionId), ("instance", .string instanceId),
          ("sequence", .number (toString sequence)), ("state", localState)])
      let checkpointId := s!"checkpoint:{digest}"
      let saved ← database.insertCheckpoint
        { checkpointId := checkpointId
          missionId := missionId
          instanceId := instanceId
          ocsId := binding.ocsId
          sequence := sequence
          canonicalStateRef := mission.canonicalStateRef
          localStateHash := canonicalHash localState
          createdAt := now 0 }
      let referenced := saved.updateBinding binding.bindingId fun row =>
        { row with checkpointRef := some checkpointId }
      let (receipted, _) ← referenced.receipt canonicalHash missionId "checkpoint"
        (.object [("checkpoint_id", .string checkpointId),
          ("instance_id", .string instanceId)]) fun n => now (n + 1)
      let database ← receipted.appendLedger canonicalHash missionId "checkpoint" checkpointId
        (.object [("instance_id", .string instanceId)]) fun n => now (n + 5)
      return (database, checkpointId)

def writeState (missionId ocsId instanceId : String) (epoch : ℤ) (namespaceKey : String)
    (value : Value) (now : ℕ → String) :
    Transaction TrialDatabase TrialError MutationReceipt :=
  fun database => do
    match ← database.writeDenialReason missionId ocsId instanceId epoch namespaceKey with
    | some reason =>
      let (database, receiptId) ← database.receipt canonicalHash missionId "deny"
        (.object [("reason", .string reason), ("instance_id", .string instanceId),
          ("epoch", .number (toString epoch)), ("mutation_count", .number "0")]) now
      return (database, ⟨.deny, 0, reason, receiptId⟩)
    | none =>
      let written := { database with
        stateEntries := database.stateEntries.insert (missionId, namespaceKey)
          ⟨canonicalHash value, instanceId, epoch⟩ }
      let (database, receiptId) ← written.receipt canonicalHash missionId "state_write"
        (.object [("instance_id", .string instanceId),
          ("epoch", .number (toString epoch)), ("namespace_key", .string namespaceKey),
          ("mutation_count", .number "1")]) now
      return (database, ⟨.allow, 1, "ok", receiptId⟩)

def issueHandoff (missionId routeId targetInstanceId targetOcsId : String)
    (envelope : Value) (now : ℕ → String) : Transaction TrialDatabase TrialError String :=
  fun database =>
    match l2Routes.find? (·.routeId = routeId) with
    | none => .error (.hold "unlisted_l2_route")
    | some route => do
        let mission ← database.mission missionId
        let sourceOcs := mission.activeOcsId.getD ""
        let sourceInstance := mission.activeInstanceId.getD ""
        if sourceOcs = "" ∨ sourceInstance = "" then
          .error (.hold "active_source_missing")
        else if route.sourceOcs.any (· ≠ sourceOcs) then
          .error (.hold "route_source_mismatch")
        else if route.targetOcs.any (· ≠ targetOcsId) then
          .error (.hold "route_target_mismatch")
        else
          let sourceBinding ← one ((database.instanceBindings missionId
            sourceInstance).filter fun row => row.status = .active)
          match sourceBinding.checkpointRef with
          | none => .error (.hold "source_checkpoint_required")
          | some checkpointRef =>
            let targetBinding ← oneOrNone ((database.instanceBindings missionId
              targetInstanceId).filter fun row =>
                row.ocsId = targetOcsId ∧ row.status = .bound)
            if targetBinding = none then .error (.hold "target_binding_required")
            else
              let digest := canonicalHash (.object
                [("mission", .string missionId), ("route", .string routeId),
                  ("source", .string sourceInstance),
                  ("target", .string targetInstanceId),
                  ("checkpoint", .string checkpointRef), ("envelope", envelope)])
              let handoffId := s!"handoff:{digest}"
              let issued ← database.insertHandoff handoffId
                { missionId := missionId
                  routeId := routeId
                  sourceInstanceId := sourceInstance
                  sourceOcsId := sourceOcs
                  targetInstanceId := targetInstanceId
                  targetOcsId := targetOcsId
                  checkpointRef := checkpointRef
                  envelopeHash := canonicalHash envelope
                  accepted := false
                  acceptanceReceiptRef := none
                  createdAt := now 0 }
              let database ← issued.appendLedger canonicalHash missionId
                "handoff_issued" handoffId envelope fun n => now (n + 1)
              return (database, handoffId)

def acceptHandoff (missionId handoffId : String) (now : ℕ → String) :
    Transaction TrialDatabase TrialError HandoffReceipt :=
  fun database => do
    let row ← one ((database.handoffs.lookup handoffId).toList.filter fun row =>
      row.missionId = missionId)
    if row.accepted then .error (.hold "blind_retry_forbidden")
    else
      let mission ← database.mission missionId
      if mission.activeInstanceId ≠ some row.sourceInstanceId then
        .error (.hold "source_no_longer_active")
      else
        let target ← one ((database.instanceBindings missionId
          row.targetInstanceId).filter fun binding => binding.status = .bound)
        let currentSteps := mission.autonomousStepCounter
        let currentHandoffs := mission.autonomousHandoffCounter
        if (currentSteps + 1 : ℤ) > mission.autonomyBudget then
          -- the transaction sets the status HOLD before it raises, and loses it
          .error (.hold "autonomy_budget_exhausted")
        else
          let quiesced := { database with
            bindings := updateWhere (fun binding => binding.missionId = missionId ∧
                binding.instanceId = row.sourceInstanceId)
              (fun binding => { binding with status := .quiescent }) database.bindings }
          let activated := quiesced.updateBinding target.bindingId fun binding =>
            { binding with status := .active }
          let (receipted, receiptId) ← activated.receipt canonicalHash missionId
            "handoff_acceptance"
            (.object [("handoff_id", .string handoffId),
              ("target_instance_id", .string row.targetInstanceId)]) now
          let accepted := { receipted with
            handoffs := receipted.handoffs.insert handoffId
              { row with accepted := true, acceptanceReceiptRef := some receiptId } }
          let advanced := accepted.updateMission missionId
            { mission with
              activeOcsId := some row.targetOcsId
              activeInstanceId := some row.targetInstanceId
              autonomousStepCounter := currentSteps + 1
              autonomousHandoffCounter := currentHandoffs + 1
              version := mission.version + 1 }
          let database ← advanced.appendLedger canonicalHash missionId "handoff_accepted"
            receiptId (.object [("handoff_id", .string handoffId)]) fun n => now (n + 4)
          return (database,
            { handoffId := handoffId
              acceptanceReceiptId := receiptId
              sourceOcsId := row.sourceOcsId
              targetOcsId := row.targetOcsId })

/-- The first transaction of `recover`: the active instance is fenced and the mission
left without one. -/
def release (missionId ocsId : String) : Transaction TrialDatabase TrialError String :=
  fun database => do
    let mission ← database.mission missionId
    if mission.activeOcsId ≠ some ocsId then
      .error (.hold "recovery_requires_active_ocs")
    else
      let activeInstance := mission.activeInstanceId.getD ""
      let active ← one (database.instanceBindings missionId activeInstance)
      if active.checkpointRef = none then .error (.hold "recovery_checkpoint_required")
      else
        let fenced := database.updateBinding active.bindingId fun binding =>
          { binding with status := .fenced }
        return (fenced.updateMission missionId
            { mission with activeOcsId := none, activeInstanceId := none },
          activeInstance)

/-- The last transaction of `recover`. -/
def recoveryReceipt (missionId activeInstance successorInstanceId : String) (epoch : ℕ)
    (now : ℕ → String) : Transaction TrialDatabase TrialError String :=
  fun database =>
    database.receipt canonicalHash missionId "recovery"
      (.object [("predecessor", .string activeInstance),
        ("successor", .string successorInstanceId),
        ("epoch", .number (toString epoch))]) now

/-- `recover`, in its three transactions. -/
def recover (missionId ocsId successorInstanceId authorityRef : String)
    (now : ℕ → String) : Script TrialDatabase TrialError BindingReceipt := do
  let activeInstance ← (release missionId ocsId).commit
  let receipt ← (bind canonicalHash missionId ocsId successorInstanceId authorityRef true
    now).commit
  let _ ← (recoveryReceipt canonicalHash missionId activeInstance successorInstanceId
    receipt.fencingEpoch fun n => now (n + 5)).commit
  return receipt

end Methods

/-! ## Runs -/

/-- The methods of the store.  A call of `recover` may stop, as at a crash, after some
of its transactions. -/
inductive TrialOp where
  | createMission (missionId canonicalStateRef currentGate : String)
      (autonomyBudget : ℤ) (now : ℕ → String)
  | bind (missionId ocsId instanceId authorityRef : String) (activateIfEmpty : Bool)
      (now : ℕ → String)
  | checkpoint (missionId instanceId : String) (localState : Value) (now : ℕ → String)
  | writeState (missionId ocsId instanceId : String) (epoch : ℤ) (namespaceKey : String)
      (value : Value) (now : ℕ → String)
  | issueHandoff (missionId routeId targetInstanceId targetOcsId : String)
      (envelope : Value) (now : ℕ → String)
  | acceptHandoff (missionId handoffId : String) (now : ℕ → String)
  | recover (missionId ocsId successorInstanceId authorityRef : String)
      (now : ℕ → String) (crash : Option ℕ)

/-- The database after a call, accepted or rejected. -/
def perform (canonicalHash : Value → String) (database : TrialDatabase) :
    TrialOp → TrialDatabase
  | .createMission missionId canonicalStateRef currentGate autonomyBudget now =>
    (createMission canonicalHash missionId canonicalStateRef currentGate autonomyBudget
      now).leaves database
  | .bind missionId ocsId instanceId authorityRef activateIfEmpty now =>
    (Trial.bind canonicalHash missionId ocsId instanceId authorityRef activateIfEmpty
      now).leaves database
  | .checkpoint missionId instanceId localState now =>
    (checkpoint canonicalHash missionId instanceId localState now).leaves database
  | .writeState missionId ocsId instanceId epoch namespaceKey value now =>
    (writeState canonicalHash missionId ocsId instanceId epoch namespaceKey value
      now).leaves database
  | .issueHandoff missionId routeId targetInstanceId targetOcsId envelope now =>
    (issueHandoff canonicalHash missionId routeId targetInstanceId targetOcsId envelope
      now).leaves database
  | .acceptHandoff missionId handoffId now =>
    (acceptHandoff canonicalHash missionId handoffId now).leaves database
  | .recover missionId ocsId successorInstanceId authorityRef now none =>
    ((recover canonicalHash missionId ocsId successorInstanceId authorityRef
      now).exec database).1
  | .recover missionId ocsId successorInstanceId authorityRef now (some count) =>
    (recover canonicalHash missionId ocsId successorInstanceId authorityRef
      now).crashed count database

end ReisOs.Trial
