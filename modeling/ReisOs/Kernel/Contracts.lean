import ReisOs.Core.Dict

/-!
# Kernel contracts

The data exchanged inside the universal kernel.  Payloads (JSON-like
dictionaries in the source) are an arbitrary type `P`; clock values are
integers, since the kernel only ever compares them.
-/

namespace ReisOs.Kernel

open ReisOs.Core

abbrev Time := ℤ

/-- The exceptions the kernel raises or lets through. -/
inductive PyError where
  | valueError (message : String)
  | runtimeError (message : String)
  | keyError (key : String)
  | integrityError
  deriving DecidableEq, Repr

inductive RiskLevel where
  | low | medium | high
  deriving DecidableEq, Repr

inductive AuthorizationDecision where
  | allow | deny | hold
  deriving DecidableEq, Repr

def AuthorizationDecision.value : AuthorizationDecision → String
  | .allow => "allow"
  | .deny => "deny"
  | .hold => "hold"

inductive SideEffectClass where
  | none | bounded | material
  deriving DecidableEq, Repr

inductive ReversibilityClass where
  | reversible | compensatable | irreversible
  deriving DecidableEq, Repr

structure Evidence where
  ref : String
  passed : Bool
  independentAssurer : Option String
  deriving DecidableEq, Repr

structure EvidenceAssessment where
  sufficiency : Bool
  deficits : List String
  contradictions : List String
  riskBurden : RiskLevel
  evidenceRef : String
  deriving DecidableEq, Repr

structure ActionProposal (P : Type) where
  actionId : String
  actor : String
  ocs : String
  capability : String
  operation : String
  payload : P
  risk : RiskLevel
  leaseId : Option String
  evidence : List Evidence
  actionType : Option String
  issuedAt : Option Time
  cspRef : Option String
  objectRef : Option String
  tenant : Option String
  contextRef : Option String
  scope : List String
  authorityRef : Option String
  policySnapshot : Option String
  idempotencyKey : Option String
  expectedEffect : Option String
  sideEffectClass : Option SideEffectClass
  reversibilityClass : Option ReversibilityClass
  recoveryRef : Option String
  expiresAt : Option Time
  evidenceAssessmentRef : Option String
  traceId : Option String
  deriving DecidableEq, Repr

structure AuthorizedActionEnvelope (P : Type) where
  actionId : String
  actor : String
  ocs : String
  capability : String
  operation : String
  actionType : String
  issuedAt : Time
  payload : P
  leaseId : String
  evidenceRefs : List String
  cspRef : String
  objectRef : String
  tenant : String
  contextRef : String
  scope : List String
  validScope : Bool
  authorityRef : String
  policySnapshot : String
  idempotencyKey : String
  expectedEffect : String
  sideEffectClass : SideEffectClass
  reversibilityClass : ReversibilityClass
  recoveryRef : String
  expiresAt : Time
  evidenceAssessmentRef : String
  maxUses : ℕ
  traceId : String
  leaseUseIndex : Option ℕ
  deriving DecidableEq, Repr

structure GovernanceResult (P : Type) where
  decision : AuthorizationDecision
  reason : String
  envelope : Option (AuthorizedActionEnvelope P) := none
  evidenceAssessment : Option EvidenceAssessment := none
  deriving DecidableEq, Repr

structure MaterialReadback (P : Type) where
  mutationId : String
  state : P
  deriving DecidableEq, Repr

structure RecoveryReceipt (P : Type) where
  disposition : String
  stateRecovered : Bool
  materialCompensated : Bool
  residualEffect : Bool
  externalReadback : Option (MaterialReadback P) := none
  deriving DecidableEq, Repr

structure ExecutionResult (P : Type) where
  authorized : Bool
  effected : Bool
  proven : Bool
  reason : String
  readback : Option (MaterialReadback P) := none
  governanceDecision : Option AuthorizationDecision := none
  traceId : Option String := none
  recoveryReceipt : Option (RecoveryReceipt P) := none
  residualEffect : Bool := false
  deriving DecidableEq, Repr

structure StateRecord (P : Type) where
  stateId : String
  ocs : String
  version : ℕ
  predecessor : Option String
  payload : P
  verified : Bool
  deriving DecidableEq, Repr

structure VerifiedCheckpoint (P : Type) where
  checkpointId : String
  state : StateRecord P
  deriving DecidableEq, Repr

/-- The values that occur in event details. -/
inductive Detail where
  | none
  | text (value : String)
  | number (value : ℕ)
  | flag (value : Bool)
  | texts (values : List String)
  deriving DecidableEq, Repr

abbrev Details := List (String × Detail)

structure TraceEvent where
  eventId : String
  actionId : String
  stage : String
  predecessor : Option String
  details : Details
  deriving DecidableEq, Repr

end ReisOs.Kernel
