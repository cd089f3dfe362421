import ReisOs.RecursiveRuntime.Contracts
import ReisOs.Core.Checks
import ReisOs.Core.LinkedPools
import ReisOs.RecursiveRuntime.JournalContract
import ReisOs.RecursiveRuntime.StateRepository

/-!
# Runtime bindings of the OCS identities

`ocs_canonical_policy.py` and `OCSRuntimeEnforcer`: which outcomes an identity may
produce and when it may delegate.
-/

namespace ReisOs.RecursiveRuntime

structure CanonicalOCSPolicy where
  ocsId : String
  role : String
  mayDelegate : Bool
  deriving DecidableEq, Repr

/-- `CANONICAL_OCS_POLICY`. -/
def canonicalOcsPolicy : List CanonicalOCSPolicy :=
  [⟨"NOESIS", "orchestration/meta-architecture", true⟩,
    ⟨"DEDALA", "technical/adversarial assurance", true⟩,
    ⟨"SYNESIS", "independent institutional assurance", false⟩,
    ⟨"SOFIA", "software implementation", true⟩,
    ⟨"IRIS", "ux/ui and founder experience", true⟩,
    ⟨"LYRA", "brand/language/semantic identity", true⟩,
    ⟨"AGORA", "qa/reproducibility/ci evidence", true⟩,
    ⟨"AURI", "administrative continuity/records", true⟩,
    ⟨"METIS", "research/strategy/intelligence", true⟩,
    ⟨"SYNERGEIA", "gtm/channels/activation/distribution", true⟩]

def globalForbidden : List String :=
  ["SELF_PROMOTE", "ASSURANCE_BYPASS", "FOUNDER_GATE_BYPASS", "AUTHORITY_EXPANSION",
    "PRODUCTION_EFFECT", "MULTI_PROVIDER_EXPANSION"]

def commonAllowed : List String :=
  ["SELF_INSPECT", "REFLECT", "CONTINUE", "HOLD", "STOP", "ESCALATE"]

structure OCSRuntimeBinding where
  ocsId : String
  allowedRuntimeCapabilities : List String
  forbiddenRuntimeCapabilities : List String
  deriving DecidableEq, Repr

/-- `_binding`. -/
def CanonicalOCSPolicy.binding (policy : CanonicalOCSPolicy) : OCSRuntimeBinding :=
  { ocsId := policy.ocsId
    allowedRuntimeCapabilities :=
      commonAllowed ++ if policy.mayDelegate then ["DELEGATE"] else []
    forbiddenRuntimeCapabilities := globalForbidden }

/-- The enforcer, over what `strip().upper()` does to an identity. -/
structure OCSRuntimeEnforcer where
  stripUpper : String → String

namespace OCSRuntimeEnforcer

variable (enforcer : OCSRuntimeEnforcer) (actor : ActorState)

def getBinding (ocsId : String) : Except Fault OCSRuntimeBinding :=
  match canonicalOcsPolicy.find? (·.ocsId = enforcer.stripUpper ocsId) with
  | some policy => .ok policy.binding
  | none => .error (.keyError s!"UNKNOWN_OCS:{ocsId}")

def bindingForActor : Except Fault OCSRuntimeBinding := enforcer.getBinding actor.identityId

end OCSRuntimeEnforcer

/-!
## The production effect gateway

`ProductionEffectGateway.execute`: an intent is made durable before the adapter of the
provider is called, and a commit after it.  Gateways share the journal; what a gateway
remembers is its own and is lost when it is built anew.  Amounts and times are integers.
-/

open ReisOs.Core DurableJournal

structure EffectRequest where
  requestId : String
  actorId : String
  target : String
  capability : String
  payloadRef : String
  authorityRef : String
  missionBinding : String
  generation : ℤ
  fencingEpoch : ℤ
  estimatedIncrementalCostUsd : ℤ
  requiresPaidUpgrade : Bool
  deriving DecidableEq, Repr

/-- `_fingerprint`: all of a request but its id. -/
structure EffectFingerprint where
  actorId : String
  target : String
  capability : String
  payloadRef : String
  authorityRef : String
  missionBinding : String
  generation : ℤ
  fencingEpoch : ℤ
  estimatedIncrementalCostUsd : ℤ
  requiresPaidUpgrade : Bool
  deriving DecidableEq, Repr

def EffectRequest.fingerprint (request : EffectRequest) : EffectFingerprint :=
  { actorId := request.actorId
    target := request.target
    capability := request.capability
    payloadRef := request.payloadRef
    authorityRef := request.authorityRef
    missionBinding := request.missionBinding
    generation := request.generation
    fencingEpoch := request.fencingEpoch
    estimatedIncrementalCostUsd := request.estimatedIncrementalCostUsd
    requiresPaidUpgrade := request.requiresPaidUpgrade }

structure ActivationLease where
  leaseId : String
  environment : String
  allowedTargets : Finset String
  allowedCapabilities : Finset String
  founderApprovalRef : String
  active : Bool
  maxEffects : ℤ
  expiresAtUnix : ℤ
  deriving DecidableEq

structure ProductionAuthorizationPolicy where
  policyId : String
  allowedOcsIds : Finset String
  allowedTargetPrefixes : List String
  allowedCapabilities : Finset String
  founderApprovalRef : String
  zeroUnauthorizedSpend : Bool
  allowGithubMerge : Bool
  active : Bool
  deriving DecidableEq

structure VerifiedCostDecision where
  requestId : String
  target : String
  capability : String
  incrementalCostUsd : ℤ
  paidUpgradeRequired : Bool
  sourceRef : String
  validUntilUnix : ℤ
  deriving DecidableEq, Repr

structure EffectReceipt where
  requestId : String
  actorId : String
  target : String
  capability : String
  payloadRef : String
  adapterEnvironment : String
  status : String
  resultRef : String
  deriving DecidableEq, Repr

/-- What a gateway is built with, and what its callbacks answer. -/
structure GatewayEnvironment where
  states : StateRepository
  ocsEnforcer : OCSRuntimeEnforcer
  /-- `getattr(self.adapter, "environment", None)`. -/
  adapterEnvironment : Option String
  adapterExecute : EffectRequest → Except Fault String
  activationLease : Option ActivationLease
  productionPolicy : Option ProductionAuthorizationPolicy
  approvalVerifier : Option (ProductionAuthorizationPolicy → ActivationLease → ActorState →
    EffectRequest → Except Fault Bool)
  /-- The answer is `none` if it is not a `VerifiedCostDecision`. -/
  costPreflight : Option (EffectRequest → Except Fault (Option VerifiedCostDecision))
  clock : ℤ
  journalBound : Bool
  /-- The answer is `none` if it is false for Python. -/
  providerReconciler : Option (EffectRequest → Except Fault (Option String))
  traceEmit : EffectReceipt → Except Fault Unit

/-- The three dictionaries of a gateway. -/
structure GatewayMemory where
  receipts : String → Option EffectReceipt
  fingerprints : String → Option EffectFingerprint
  leaseEffectCounts : String → ℕ

def GatewayMemory.empty : GatewayMemory := ⟨fun _ => none, fun _ => none, fun _ => 0⟩

/-- A call of `adapter.execute` in production, under the lease of that moment. -/
structure Invocation where
  leaseId : Option String
  request : EffectRequest
  deriving DecidableEq, Repr

structure Gateway where
  environment : GatewayEnvironment
  memory : GatewayMemory
  calls : List Invocation
  process : ℕ

/-- What gateways share: the records of the journal, which gateway has made the intent of
a request, and the receipts that were returned. -/
structure EffectStore where
  journal : List JournalRecord
  owner : String → Option ℕ
  returned : List (EffectRequest × EffectReceipt)

abbrev EffectWorld := EffectStore × Gateway

def effectParts : Parts EffectWorld EffectStore Gateway where
  join := Prod.mk
  shared := Prod.fst
  own := Prod.snd
  shared_join _ _ := rfl
  own_join _ _ := rfl

abbrev EffectScript (A : Type) := Script EffectWorld Fault A

/-! ## Validations -/

/-- `raise RuntimeError(reason)` at the first of the conditions that holds. -/
def refuse (checks : List (Bool × String)) : Except Fault Unit :=
  match firstFailure checks with
  | none => .ok ()
  | some reason => .error (.runtimeError reason)

def JournalError.fault : JournalError → Fault
  | .conflict message => .conflict message
  | .unreadable => .runtimeError "JSONDecodeError"

/-- `dict(row["payload"]).get(key)`. -/
def JournalRecord.field (record : JournalRecord) (key : String) : Option String :=
  (record.payload.reverse.find? (·.1 = key)).map (·.2)

namespace GatewayEnvironment

variable (environment : GatewayEnvironment) (request : EffectRequest)

def validateCommon : Except Fault ActorState := do
  let actor ← environment.states.get request.actorId
  environment.states.validateCurrent actor.actorId request.generation request.fencingEpoch
  let _ ← environment.ocsEnforcer.bindingForActor actor
  refuse [(actor.authority.authorityRef ≠ request.authorityRef, "EFFECT_AUTHORITY_MISMATCH"),
    (actor.missionBinding ≠ request.missionBinding, "EFFECT_MISSION_MISMATCH"),
    (request.capability ∉ actor.capability.capabilities, "EFFECT_CAPABILITY_NOT_BOUND")]
  return actor

/-- The part of `_validate_production_policy` for `zero_unauthorized_spend`. -/
def validateSpend : Except Fault Unit := do
  refuse [(request.estimatedIncrementalCostUsd ≠ 0, "ZERO_SPEND_POLICY_VIOLATION"),
    (request.requiresPaidUpgrade, "PAID_UPGRADE_FORBIDDEN")]
  match environment.costPreflight with
  | none => .error (.runtimeError "COST_PREFLIGHT_NOT_BOUND")
  | some preflight =>
    match ← preflight request with
    | none => .error (.runtimeError "COST_PREFLIGHT_UNVERIFIED")
    | some decision =>
      refuse [(decision.sourceRef = "", "COST_PREFLIGHT_UNVERIFIED"),
        (decision.requestId ≠ request.requestId ∨ decision.target ≠ request.target ∨
          decision.capability ≠ request.capability, "COST_PREFLIGHT_SCOPE_MISMATCH"),
        (decision.validUntilUnix ≤ environment.clock, "COST_PREFLIGHT_EXPIRED"),
        (decision.incrementalCostUsd ≠ 0, "ZERO_SPEND_POLICY_VIOLATION"),
        (decision.paidUpgradeRequired, "PAID_UPGRADE_FORBIDDEN")]

/-- The part of `_validate_production_policy` after the approval references. -/
def validateApproval (policy : ProductionAuthorizationPolicy) (lease : ActivationLease)
    (actor : ActorState) : Except Fault Unit :=
  match environment.approvalVerifier with
  | none => .error (.runtimeError "FOUNDER_APPROVAL_VERIFIER_NOT_BOUND")
  | some verifier => do
      let verified ← verifier policy lease actor request
      refuse [(!verified, "FOUNDER_APPROVAL_NOT_VERIFIED"),
        (actor.identityId ∉ policy.allowedOcsIds, "PRODUCTION_OCS_NOT_ALLOWED"),
        (request.capability ∉ policy.allowedCapabilities,
          "PRODUCTION_POLICY_CAPABILITY_NOT_ALLOWED"),
        (policy.allowedTargetPrefixes.all (!·.toList.isPrefixOf request.target.toList),
          "PRODUCTION_POLICY_TARGET_NOT_ALLOWED"),
        (request.capability = "GITHUB_MERGE_PR" ∧ policy.allowGithubMerge = false,
          "GITHUB_MERGE_REQUIRES_EXPLICIT_POLICY")]
      if policy.zeroUnauthorizedSpend then environment.validateSpend request else .ok ()

def validateProductionPolicy (actor : ActorState) : Except Fault Unit :=
  match environment.productionPolicy with
  | none => .error (.runtimeError "PRODUCTION_POLICY_NOT_ACTIVE")
  | some policy => do
      refuse [(!policy.active, "PRODUCTION_POLICY_NOT_ACTIVE"),
        (policy.founderApprovalRef = "", "PRODUCTION_POLICY_FOUNDER_APPROVAL_REQUIRED")]
      match environment.activationLease with
      | none => .error (.attributeError "founder_approval_ref")
      | some lease => do
          refuse [(lease.founderApprovalRef ≠ policy.founderApprovalRef,
            "FOUNDER_APPROVAL_REF_MISMATCH")]
          environment.validateApproval request policy lease actor

end GatewayEnvironment

/-- `_journal_rows`. -/
def journalRows (world : EffectWorld) : List JournalRecord :=
  if world.2.environment.journalBound then world.1.journal else []

/-- `_durable_effect_count`. -/
def durableEffectCount (rows : List JournalRecord) (leaseId : String) : ℕ :=
  rows.countP fun row =>
    row.kind = "PRODUCTION_EFFECT_COMMIT" ∧ row.field "lease_id" = some leaseId

/-- The larger of the count in memory and the durable one. -/
def usedEffects (world : EffectWorld) (leaseId : String) : ℕ :=
  let remembered := world.2.memory.leaseEffectCounts leaseId
  let durable := durableEffectCount (journalRows world) leaseId
  if remembered ≤ durable then durable else remembered

def validateLease (request : EffectRequest) (world : EffectWorld) : Except Fault Unit :=
  match world.2.environment.activationLease with
  | none => .error (.runtimeError "PRODUCTION_ACTIVATION_REQUIRED")
  | some lease =>
    refuse [(!lease.active, "PRODUCTION_ACTIVATION_REQUIRED"),
      (lease.environment ≠ "PRODUCTION", "PRODUCTION_LEASE_ENVIRONMENT_MISMATCH"),
      (lease.founderApprovalRef = "", "FOUNDER_APPROVAL_REF_REQUIRED"),
      (lease.maxEffects ≤ 0, "PRODUCTION_LEASE_EFFECT_LIMIT_INVALID"),
      (lease.expiresAtUnix ≤ world.2.environment.clock, "PRODUCTION_LEASE_EXPIRED"),
      (request.target ∉ lease.allowedTargets, "PRODUCTION_TARGET_NOT_ALLOWED"),
      (request.capability ∉ lease.allowedCapabilities, "PRODUCTION_CAPABILITY_NOT_ALLOWED"),
      (lease.maxEffects ≤ usedEffects world lease.leaseId,
        "PRODUCTION_LEASE_EFFECT_LIMIT_EXHAUSTED")]

/-! ## Durable rows -/

/-- The last row of the kind for a request. -/
def lastRow (kind requestId : String) (rows : List JournalRecord) : Option JournalRecord :=
  rows.reverse.find? fun row => row.kind = kind ∧ row.field "request_id" = some requestId

/-- `_find_durable`: the intent and the commit of a request. -/
def findDurable (requestId : String) (rows : List JournalRecord) :
    Option JournalRecord × Option JournalRecord :=
  (lastRow "PRODUCTION_EFFECT_INTENT" requestId rows,
    lastRow "PRODUCTION_EFFECT_COMMIT" requestId rows)

section Digest

variable (digest : EffectFingerprint → String)

def validateDurableRow (row : JournalRecord) (request : EffectRequest) : Except Fault Unit :=
  if row.field "fingerprint" ≠ some (digest request.fingerprint) then
    .error (.runtimeError "DURABLE_EFFECT_REQUEST_CONFLICT")
  else .ok ()

def committedReceipt (request : EffectRequest) (adapterEnvironment status resultRef : String) :
    EffectReceipt :=
  { requestId := request.requestId
    actorId := request.actorId
    target := request.target
    capability := request.capability
    payloadRef := request.payloadRef
    adapterEnvironment := adapterEnvironment
    status := status
    resultRef := resultRef }

def receiptFromCommit (request : EffectRequest) (commit : JournalRecord) :
    Except Fault EffectReceipt := do
  validateDurableRow digest commit request
  match commit.field "result_ref" with
  | none => .error (.keyError "result_ref")
  | some resultRef => return committedReceipt request "PRODUCTION" "COMMITTED" resultRef

def intentRecord (actor : ActorState) (request : EffectRequest) (leaseId : String) :
    JournalRecord :=
  { journalId := "effect-intent:" ++ request.requestId
    kind := "PRODUCTION_EFFECT_INTENT"
    actorId := actor.actorId
    traceId := actor.traceId
    generation := actor.generation
    fencingEpoch := actor.fencingEpoch
    status := "INTENT_PERSISTED"
    payload := [("request_id", request.requestId),
      ("fingerprint", digest request.fingerprint), ("target", request.target),
      ("capability", request.capability), ("payload_ref", request.payloadRef),
      ("lease_id", leaseId)] }

def commitRecord (actor : ActorState) (request : EffectRequest) (leaseId resultRef : String) :
    JournalRecord :=
  { journalId := "effect-commit:" ++ request.requestId
    kind := "PRODUCTION_EFFECT_COMMIT"
    actorId := actor.actorId
    traceId := actor.traceId
    generation := actor.generation
    fencingEpoch := actor.fencingEpoch
    status := "COMMITTED"
    payload := [("request_id", request.requestId),
      ("fingerprint", digest request.fingerprint), ("target", request.target),
      ("capability", request.capability), ("payload_ref", request.payloadRef),
      ("lease_id", leaseId), ("result_ref", resultRef)] }

/-! ## The steps of a call -/

/-- A step that looks at the world and may raise. -/
def inspect {A : Type} (f : EffectWorld → Except Fault A) : EffectScript A :=
  .act fun world => (world, f world)

/-- A put of a record, and what else the store notes if it is accepted. -/
def putAnswer (record : EffectWorld → Except Fault JournalRecord)
    (noted : EffectStore → Gateway → EffectStore) (world : EffectWorld) :
    EffectWorld × Except Fault Unit :=
  match record world with
  | .error fault => (world, .error fault)
  | .ok record =>
    let answer := putRecord world.1.journal record
    match answer.2 with
    | .error error => (world, .error error.fault)
    | .ok () => ((noted { world.1 with journal := answer.1 } world.2, world.2), .ok ())

def putStep (record : EffectWorld → Except Fault JournalRecord)
    (noted : EffectStore → Gateway → EffectStore) : EffectScript Unit :=
  .act (putAnswer record noted)

/-- The `lease_id` of the bound lease. -/
def boundLeaseId (environment : GatewayEnvironment) : Except Fault String :=
  match environment.activationLease with
  | none => .error (.attributeError "lease_id")
  | some lease => .ok lease.leaseId

/-- `_persist_intent`, which makes the gateway the owner of the request. -/
def persistIntent (actor : ActorState) (request : EffectRequest) : EffectScript Unit :=
  putStep
    (fun world =>
      if world.2.environment.journalBound then
        (boundLeaseId world.2.environment).map (intentRecord digest actor request)
      else .error (.runtimeError "EFFECT_JOURNAL_NOT_BOUND"))
    fun store gateway =>
      { store with owner := Function.update store.owner request.requestId (some gateway.process) }

def persistCommit (actor : ActorState) (request : EffectRequest) (resultRef : String) :
    EffectScript Unit :=
  putStep
    (fun world => (boundLeaseId world.2.environment).map fun leaseId =>
      commitRecord digest actor request leaseId resultRef)
    fun store _ => store

/-- The receipt that is remembered for the request, if there is one. -/
def remembered (request : EffectRequest) : EffectScript (Option EffectReceipt) :=
  inspect fun world =>
    match world.2.memory.receipts request.requestId with
    | none => .ok none
    | some receipt =>
      match world.2.memory.fingerprints request.requestId with
      | none => .error (.keyError request.requestId)
      | some fingerprint =>
        if fingerprint ≠ request.fingerprint then
          .error (.runtimeError "EFFECT_REQUEST_ID_CONFLICT")
        else .ok (some receipt)

/-- Both dictionaries are set under the lock of the gateway. -/
def remember (request : EffectRequest) (receipt : EffectReceipt) : EffectScript Unit :=
  .act fun world =>
    let memory := world.2.memory
    ((world.1, { world.2 with
      memory := { memory with
        receipts := Function.update memory.receipts request.requestId (some receipt)
        fingerprints :=
          Function.update memory.fingerprints request.requestId (some request.fingerprint) } }),
      .ok ())

/-- `_lease_effect_counts[lease_id] = _durable_effect_count(lease_id)`. -/
def countEffects : EffectScript Unit :=
  .act fun world =>
    match boundLeaseId world.2.environment with
    | .error fault => (world, .error fault)
    | .ok leaseId =>
      let memory := world.2.memory
      ((world.1, { world.2 with
        memory := { memory with
          leaseEffectCounts := Function.update memory.leaseEffectCounts leaseId
            (durableEffectCount (journalRows world) leaseId) } }), .ok ())

/-- `adapter.execute(request)`; a call in production is noted, also if it raises. -/
def callAdapter (request : EffectRequest) (production : Bool) (world : EffectWorld) :
    EffectWorld × Except Fault String :=
  let call := ⟨world.2.environment.activationLease.map (·.leaseId), request⟩
  ((world.1, { world.2 with
    calls := if production then world.2.calls ++ [call] else world.2.calls }),
    world.2.environment.adapterExecute request)

def adapterExecute (request : EffectRequest) (production : Bool) : EffectScript String :=
  .act (callAdapter request production)

def traceEffect (receipt : EffectReceipt) : EffectScript Unit :=
  inspect fun world => world.2.environment.traceEmit receipt

/-! ## Execute -/

/-- From the call of the adapter to the end. -/
def perform (actor : ActorState) (request : EffectRequest) (production : Bool) :
    EffectScript EffectReceipt := do
  let resultRef ← adapterExecute request production
  if production then persistCommit digest actor request resultRef else pure ()
  let receipt := committedReceipt request (if production then "PRODUCTION" else "SANDBOX")
    (if production then "COMMITTED" else "SIMULATED") resultRef
  remember request receipt
  if production then countEffects else pure ()
  traceEffect receipt
  return receipt

/-- The branch of a commit that is found. -/
def replayCommit (request : EffectRequest) (commit : JournalRecord) :
    EffectScript EffectReceipt := do
  let receipt ← inspect fun _ => receiptFromCommit digest request commit
  remember request receipt
  return receipt

/-- The branch of an intent without a commit. -/
def reconcile (actor : ActorState) (request : EffectRequest) (intent : JournalRecord) :
    EffectScript EffectReceipt := do
  inspect fun _ => validateDurableRow digest intent request
  let resultRef ← inspect fun world =>
    match world.2.environment.providerReconciler with
    | none => .error (.runtimeError "EFFECT_OUTCOME_UNKNOWN_HOLD")
    | some reconciler =>
      match reconciler request with
      | .error fault => .error fault
      | .ok none => .error (.runtimeError "EFFECT_OUTCOME_UNKNOWN_HOLD")
      | .ok (some resultRef) =>
        if resultRef = "" then .error (.runtimeError "EFFECT_OUTCOME_UNKNOWN_HOLD")
        else .ok resultRef
  persistCommit digest actor request resultRef
  let receipt ← inspect fun world =>
    match (findDurable request.requestId (journalRows world)).2 with
    | none => .error (.attributeError "payload")
    | some commit => receiptFromCommit digest request commit
  remember request receipt
  countEffects
  return receipt

/-- The branch for an adapter of production. -/
def executeProduction (actor : ActorState) (request : EffectRequest) :
    EffectScript EffectReceipt := do
  if ← Script.read (·.2.environment.journalBound) then
    let found ← Script.read fun world => findDurable request.requestId (journalRows world)
    match found with
    | (_, some commit) => replayCommit digest request commit
    | (some intent, none) => reconcile digest actor request intent
    | (none, none) => do
        inspect (validateLease request)
        inspect fun world => world.2.environment.validateProductionPolicy request actor
        persistIntent digest actor request
        perform digest actor request true
  else
    inspect (validateLease request)
    .raise (.runtimeError "EFFECT_JOURNAL_NOT_BOUND")

def execute (request : EffectRequest) : EffectScript EffectReceipt := do
  match ← remembered request with
  | some receipt => return receipt
  | none =>
    let actor ← inspect fun world => world.2.environment.validateCommon request
    let adapterEnvironment ← Script.read (·.2.environment.adapterEnvironment)
    if adapterEnvironment = some "PRODUCTION" then executeProduction digest actor request
    else if adapterEnvironment = some "SANDBOX" then perform digest actor request false
    else .raise (.runtimeError "UNKNOWN_EFFECT_ADAPTER_ENVIRONMENT")

/-- A call of `execute`, whose receipt is handed to the caller. -/
def effectCall (request : EffectRequest) : EffectScript Unit := do
  let receipt ← execute digest request
  .act fun world =>
    (({ world.1 with returned := world.1.returned ++ [(request, receipt)] }, world.2), .ok ())

end Digest

end ReisOs.RecursiveRuntime
