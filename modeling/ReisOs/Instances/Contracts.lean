import ReisOs.Kernel.HazelContinuity

/-!
# Instance contracts

The data of the instance registry: bindings of a physical worker generation to a
mission-scoped OCS, requests, bootstrap envelopes and the payloads sent to Hazel.
The state that a worker checkpoints is an arbitrary type.
-/

namespace ReisOs.Instances

open ReisOs.Core ReisOs.Kernel

inductive BindingMaturity where
  | preparedUnverified | operationallyBoundL1
  deriving DecidableEq, Repr

inductive InstanceStatus where
  | prepared | persisted | bound | active | checkpointed | replaced | closed | revoked
  | hold
  deriving DecidableEq, Repr

def InstanceStatus.value : InstanceStatus → String
  | .prepared => "prepared"
  | .persisted => "persisted"
  | .bound => "bound"
  | .active => "active"
  | .checkpointed => "checkpointed"
  | .replaced => "replaced"
  | .closed => "closed"
  | .revoked => "revoked"
  | .hold => "hold"

/-- `ALLOWED_TRANSITIONS`. -/
def allowedTransitions : InstanceStatus → List InstanceStatus
  | .prepared => [.persisted, .revoked, .hold]
  | .persisted => [.bound, .revoked, .hold]
  | .bound => [.active, .revoked, .hold]
  | .active => [.checkpointed, .replaced, .closed, .revoked, .hold]
  | .checkpointed => [.active, .checkpointed, .replaced, .closed, .revoked, .hold]
  | .replaced | .closed | .revoked | .hold => []

/-- What the instance services raise: an `InstanceBindingError`, or an error of the
kernel, of Hazel or of SQLite. -/
inductive InstanceError where
  | binding (message : String)
  | hazel (error : HazelError)
  deriving DecidableEq, Repr

namespace InstanceError

def kernel (error : PyError) : InstanceError := .hazel (.kernel error)

def value (message : String) : InstanceError := kernel (.valueError message)

/-- `sqlite3.IntegrityError`. -/
def integrity : InstanceError := kernel .integrityError

end InstanceError

def transitionForbidden (current target : InstanceStatus) : InstanceError :=
  .binding s!"instance_transition_forbidden:{current.value}->{target.value}"

structure PrepareInstanceRequest where
  missionId : String
  organizationId : String
  ocsId : String
  capability : String
  leaseId : String
  host : String
  scope : List String
  idempotencyKey : String
  correlationId : String
  actor : String
  contextRef : String
  policySnapshot : String
  traceRef : String
  causationId : Option String
  deriving DecidableEq, Repr

structure InstanceBinding where
  bindingId : String
  missionId : String
  runId : String
  organizationId : String
  ocsId : String
  profileVersion : String
  profileHash : String
  identityBindingHash : String
  requestHash : String
  maturity : BindingMaturity
  host : String
  capability : String
  leaseId : String
  authorityRef : String
  scope : List String
  stateNamespace : String
  memoryNamespace : String
  generation : ℕ
  platformInstanceId : Option String
  challengeHash : String
  bootstrapHash : String
  status : InstanceStatus
  version : ℕ
  predecessorBindingId : Option String
  checkpointVersion : ℕ
  checkpointHash : Option String
  hazelEventHash : Option String
  idempotencyKey : String
  correlationId : String
  causationId : Option String
  createdAt : Time
  deriving DecidableEq, Repr

structure InstanceBootstrapEnvelope where
  schemaVersion : String
  bindingId : String
  missionId : String
  runId : String
  ocsId : String
  canonicalName : String
  identityRef : String
  ancestryRef : String
  constitutionRef : String
  cspRef : String
  profileVersion : String
  profileHash : String
  identityBindingHash : String
  maturity : BindingMaturity
  host : String
  capability : String
  leaseId : String
  authorityRef : String
  scope : List String
  allowedActionClasses : List String
  deniedActionClasses : List String
  toolPermissions : List String
  stateNamespace : String
  memoryNamespace : String
  stopPolicy : String
  handoffPolicy : String
  recoveryPolicy : String
  generation : ℕ
  predecessorBindingId : Option String
  checkpointVersion : ℕ
  checkpointHash : Option String
  challengeNonce : String
  issuedAt : Time
  expiresAt : Time
  bindingLeaseConsumed : Bool := true
  executionAuthorityGranted : Bool := false
  perActionLeaseRequired : Bool := true
  deriving DecidableEq, Repr

structure BootstrapAck where
  bindingId : String
  platformInstanceId : String
  generation : ℕ
  bootstrapHash : String
  identityBindingHash : String
  challengeNonce : String
  idempotencyKey : String
  deriving DecidableEq, Repr

/-! ## Hazel payloads -/

/-- The three dictionaries that the binder sends to Hazel as `payload`. -/
inductive HazelPayload (S : Type) where
  /-- The state of `_ensure_hazel`, whose `status` is always `persisted`. -/
  | prepared (bindingId missionId organizationId : String) (generation : ℕ)
      (profileHash identityBindingHash bootstrapHash : String)
      (maturity : BindingMaturity)
  | checkpoint (bindingId missionId : String) (generation : ℕ) (state : S)
  | replacement (bindingId missionId : String) (generation : ℕ) (recoveredFrom : String)
      (recoveredPayload : HazelPayload S) (bootstrapHash : String)
  deriving DecidableEq, Repr

namespace HazelPayload

variable {S : Type}

/-- `payload["binding_id"]`. -/
def bindingId : HazelPayload S → String
  | prepared bindingId .. | checkpoint bindingId .. | replacement bindingId .. => bindingId

/-- `payload["generation"]`. -/
def generation : HazelPayload S → ℕ
  | prepared _ _ _ generation .. | checkpoint _ _ generation ..
  | replacement _ _ generation .. => generation

/-- `payload.get("recovered_from")`. -/
def recoveredFrom : HazelPayload S → Option String
  | replacement _ _ _ recoveredFrom .. => some recoveredFrom
  | prepared .. | checkpoint .. => none

/-- `payload.get("recovered_payload")`. -/
def recoveredPayload : HazelPayload S → Option (HazelPayload S)
  | replacement _ _ _ _ recoveredPayload _ => some recoveredPayload
  | prepared .. | checkpoint .. => none

end HazelPayload

end ReisOs.Instances
