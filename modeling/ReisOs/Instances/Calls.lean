import ReisOs.Instances.World
import ReisOs.Core.Identifiers
import ReisOs.Instances.Recovery

/-!
# Attaching and acknowledging physical workers

`WorkInstanceBridge`: the receipt of a spawned worker is attached to a binding, and the
worker's answer to its bootstrap envelope activates it.
-/

namespace ReisOs.Instances

open ReisOs.Core ReisOs.Kernel World

variable {S : Type}

/-- `str.casefold` and the NFKD normal form. -/
structure TextFolding where
  casefold : String → String
  nfkd : String → String

structure WorkSpawnReceipt where
  platformInstanceId : String
  taskName : String
  deriving DecidableEq, Repr

/-- `expected_prefix`: the ASCII characters of the folded identity. -/
def taskStem (folding : TextFolding) (ocsId : String) : String :=
  String.ofList ((folding.nfkd (folding.casefold ocsId)).toList.filter (·.toNat < 128))

/-- Whether a worker's task carries the name of the OCS. -/
def taskNamed (folding : TextFolding) (ocsId taskName : String) : Bool :=
  folding.casefold taskName = taskStem folding ocsId ||
    (taskStem folding ocsId ++ "__").toList.isPrefixOf (folding.casefold taskName).toList

/-- The keyword arguments of `attach`. -/
structure AttachCall where
  bindingId : String
  receipt : WorkSpawnReceipt
  expectedVersion : ℕ
  idempotencyKey : String

def attachTransition (call : AttachCall) : InstanceStore.Transition :=
  { bindingId := call.bindingId
    expectedVersion := call.expectedVersion
    target := .bound
    idempotencyKey := call.idempotencyKey
    eventType := "OCS_PLATFORM_INSTANCE_ATTACHED"
    platformInstanceId := some call.receipt.platformInstanceId
    payload := [("task_name", .text call.receipt.taskName)] }

def attach (folding : TextFolding) (call : AttachCall) : Service S InstanceBinding := do
  .raiseIf (call.receipt.platformInstanceId = "" ∨ call.receipt.taskName = "")
    (.binding "work_spawn_receipt_incomplete")
  let binding ← onStore (InstanceStore.get call.bindingId)
  .raiseIf (taskNamed folding binding.ocsId call.receipt.taskName = false)
    (.binding "work_task_name_ocs_mismatch")
  onStore (InstanceStore.transition (attachTransition call))

/-- The checks of `acknowledge`. -/
def ackFailure (config : BinderConfig S) (ack : BootstrapAck) (binding : InstanceBinding) :
    Option String :=
  firstFailure
    [(binding.status != .bound, "instance_must_be_bound_before_ack"),
      (binding.platformInstanceId != some ack.platformInstanceId,
        "platform_instance_binding_mismatch"),
      (binding.generation != ack.generation, "instance_generation_mismatch"),
      (binding.bootstrapHash != ack.bootstrapHash, "bootstrap_hash_mismatch"),
      (binding.identityBindingHash != ack.identityBindingHash,
        "identity_binding_hash_mismatch"),
      (binding.challengeHash != config.challengeHash ack.challengeNonce,
        "bootstrap_challenge_failed")]

def acknowledgeTransition (ack : BootstrapAck) (expectedVersion : ℕ) :
    InstanceStore.Transition :=
  { bindingId := ack.bindingId
    expectedVersion := expectedVersion
    target := .active
    idempotencyKey := ack.idempotencyKey
    eventType := "OCS_BOOTSTRAP_ACKNOWLEDGED"
    maturity := some .operationallyBoundL1
    payload := [("generation", .number ack.generation),
      ("bootstrap_hash", .text ack.bootstrapHash)] }

def acknowledge (config : BinderConfig S) (ack : BootstrapAck) (expectedVersion : ℕ) :
    Service S InstanceBinding := do
  let binding ← onStore (InstanceStore.get ack.bindingId)
  match ackFailure config ack binding with
  | some reason => .raise (.binding reason)
  | none => onStore (InstanceStore.transition (acknowledgeTransition ack expectedVersion))

end ReisOs.Instances

/-!
## The calls of the instance services

Every call of the binder, the bridge and recovery, and what it leaves: at its end, or
where a crash cuts it short.
-/

namespace ReisOs.Instances

open ReisOs.Core ReisOs.Kernel

variable {S : Type}

/-- The calls that the services take, with their arguments. -/
inductive Call (S : Type) where
  | prepare (request : PrepareInstanceRequest)
  | attach (call : AttachCall)
  | acknowledge (ack : BootstrapAck) (expectedVersion : ℕ)
  | checkpoint (call : CheckpointCall S)
  | replaceInstance (call : ReplaceCall)
  | recoverInstance (organizationId missionId ocsId : String)

/-- A call as a script; its answer is left out. -/
def Call.script [DecidableEq S] (config : BinderConfig S) (folding : TextFolding) :
    Call S → Service S Unit
  | .prepare request => do
      let _ ← Instances.prepare config request
      return ()
  | .attach call => do
      let _ ← Instances.attach folding call
      return ()
  | .acknowledge ack expectedVersion => do
      let _ ← Instances.acknowledge config ack expectedVersion
      return ()
  | .checkpoint call => do
      let _ ← Instances.checkpoint config call
      return ()
  | .replaceInstance call => do
      let _ ← Instances.replaceInstance config call
      return ()
  | .recoverInstance organizationId missionId ocsId => do
      let _ ← Instances.recoverInstance config organizationId missionId ocsId
      return ()

/-! ## A small deployment -/

/-- The one profile of the deployment. -/
def sofia : OCSProfile :=
  { ocsId := "SOFIA", identity := "identity", ancestry := "ancestry"
    constitutionRef := "constitution", cspRef := "csp", specialty := "strategy"
    supportCapabilities := [], authorityEnvelopeRef := "authority"
    allowedActionClasses := ["bounded"], deniedActionClasses := [], evidenceProfile := ""
    piActivationPolicy := "", capabilityAdapters := [], toolPermissions := []
    stateNamespace := "state", memoryNamespace := "memory", riskModel := "low"
    stopPolicy := "stop", handoffPolicy := "handoff", recoveryPolicy := "recover"
    version := "v1", predecessor := "", rollbackPointer := "", kernelInterfaceRef := "" }

/-- A payload as a text. -/
def payloadText : HazelPayload ℕ → String
  | .prepared bindingId _ _ generation .. => withNumber s!"{bindingId}/prepared" generation
  | .checkpoint bindingId _ generation state =>
    withNumber (withNumber s!"{bindingId}/checkpoint" generation) state
  | .replacement bindingId _ generation recoveredFrom recoveredPayload _ =>
    withNumber s!"{bindingId}/{recoveredFrom}/{payloadText recoveredPayload}" generation

/-- A text for each hash input, instead of its digest. -/
def inputText : HashInput ℕ → String
  | .run institutionId organizationId missionId ocsId =>
    s!"{institutionId}/{organizationId}/{missionId}/{ocsId}"
  | .request _ request => s!"{request.idempotencyKey}/{request.leaseId}"
  | .session _ _ _ _ contextRef _ traceRef => s!"{contextRef}/{traceRef}"
  | .profile profile => s!"{profile.ocsId}/{profile.version}"
  | .nonce nonce => s!"challenge/{nonce}"
  | .checkpoint payload authority => s!"{payloadText payload}/{authority.idempotencyKey}"
  | .replacement requestHash predecessor _ checkpointVersion =>
    withNumber s!"{requestHash}/{predecessor}" checkpointVersion
  | .envelope envelope =>
    let maturity :=
      match envelope.maturity with
      | .preparedUnverified => "unverified"
      | .operationallyBoundL1 => "bound"
    withNumber s!"{envelope.bindingId}/{maturity}" envelope.issuedAt.toNat

def sofiaConfig : BinderConfig ℕ where
  hazel :=
    { identity :=
        { profiles := (∅ : Dict String OCSProfile).insert "SOFIA" sofia
          hashPayload := fun base => withNumber base.eventType base.sequence
          bindingHash := fun active => withNumber active.runId active.boundAt.toNat }
      payloadHash := payloadText }
  canonicalHash := inputText
  nonce := id
  eventHash := fun envelope =>
    withNumber s!"{envelope.runId}/{payloadText envelope.payload}" envelope.stateVersion

def sofiaLease (leaseId actionBinding : String) (maxUses : ℕ) (expiresAt : Time) :
    AuthorityLease :=
  { leaseId := leaseId, ocs := "SOFIA", capability := "operate", expiresAt := expiresAt
    actor := "actor", issuedAt := 1, notBefore := 1, scope := ["mission"], tenant := "org"
    contextRef := "context", authorityRef := "authority", policySnapshot := "policy"
    actionBinding := actionBinding, objectRefOrSelector := "mission", traceRef := "trace"
    maxUses := maxUses, usesConsumed := 0, revocable := true, singleUse := maxUses = 1
    state := .active, revoked := false }

def sofiaRequest (leaseId idempotencyKey : String) (causationId : Option String) :
    PrepareInstanceRequest :=
  { missionId := "mission", organizationId := "org", ocsId := "SOFIA"
    capability := "operate", leaseId := leaseId, host := "ChatGPT Work"
    scope := ["mission"], idempotencyKey := idempotencyKey, correlationId := "correlation"
    actor := "actor", contextRef := "context", policySnapshot := "policy"
    traceRef := "trace", causationId := causationId }

/-- Nothing is folded. -/
def plainFolding : TextFolding := ⟨id, id⟩

end ReisOs.Instances
