import ReisOs.Instances.Store
import ReisOs.Kernel.Governance

/-!
# The world of the instance services

A binder process works on the registry, on Hazel, on its lease manager and on its
identity guard, and reads clocks.  SHA-256 and HMAC digests, which the source takes of
canonical JSON, are functions of the configuration.
-/

namespace ReisOs.Instances

open ReisOs.Core ReisOs.Kernel HazelBoundContinuity

/-- The dictionaries of which the services take a `canonical_hash`. -/
inductive HashInput (S : Type) where
  | run (institutionId organizationId missionId ocsId : String)
  | request (institutionId : String) (request : PrepareInstanceRequest)
  | session (institutionId organizationId missionId ocsId contextRef policySnapshot
      traceRef : String)
  | profile (profile : OCSProfile)
  | nonce (nonce : String)
  | checkpoint (payload : HazelPayload S) (authority : PrepareInstanceRequest)
  | replacement (requestHash predecessor : String) (checkpointHash : Option String)
      (checkpointVersion : ℕ)
  | envelope (envelope : InstanceBootstrapEnvelope)
  deriving DecidableEq, Repr

/-- `nonce` is the HMAC under the binding secret, `eventHash` the digest by which
Hazel names an event. -/
structure BinderConfig (S : Type) where
  hazel : HazelConfig (HazelPayload S)
  canonicalHash : HashInput S → String
  nonce : String → String
  eventHash : HazelEnvelope (HazelPayload S) → String

variable {S : Type}

namespace BinderConfig

/-- `PROFILES`. -/
def profiles (config : BinderConfig S) : Dict String OCSProfile :=
  config.hazel.identity.profiles

def profileHash (config : BinderConfig S) (profile : OCSProfile) : String :=
  config.canonicalHash (.profile profile)

def requestHash (config : BinderConfig S) (request : PrepareInstanceRequest) : String :=
  config.canonicalHash (.request institution request)

def challengeHash (config : BinderConfig S) (nonce : String) : String :=
  config.canonicalHash (.nonce nonce)

/-- `envelope.digest()`. -/
def digest (config : BinderConfig S) (envelope : InstanceBootstrapEnvelope) : String :=
  config.canonicalHash (.envelope envelope)

/-- `stable_run_id`, on fields that are not empty. -/
def runId (config : BinderConfig S) (organizationId missionId ocsId : String) : String :=
  s!"run:{config.canonicalHash (.run institution organizationId missionId ocsId)}"

/-- `binding:{request_hash[:32]}`. -/
def bindingId (config : BinderConfig S) (request : PrepareInstanceRequest) : String :=
  s!"binding:{String.ofList ((config.requestHash request).toList.take 32)}"

end BinderConfig

/-! ## Hazel -/

/-- The latest record of each run. -/
abbrev Hazel (S : Type) := Dict String (HazelRecord (HazelPayload S))

namespace Hazel

/-- Hazel accepts version one of a new run, and the next version on top of the latest
event otherwise. -/
def accepts (hazel : Hazel S) (envelope : HazelEnvelope (HazelPayload S)) : Bool :=
  match hazel.lookup envelope.runId with
  | none => envelope.stateVersion = 1 && envelope.predecessorHash = none
  | some latest =>
    latest.stateVersion.map (· + 1) = some envelope.stateVersion &&
      envelope.predecessorHash = latest.eventHash

def recordOf (config : BinderConfig S) (envelope : HazelEnvelope (HazelPayload S)) :
    HazelRecord (HazelPayload S) :=
  { ocsId := some envelope.ocsId
    stateNamespace := some envelope.stateNamespace
    memoryNamespace := some envelope.memoryNamespace
    authorityRef := some envelope.authorityRef
    bindingHash := some envelope.bindingHash
    payload := some envelope.payload
    payloadHash := some (config.hazel.payloadHash envelope.payload)
    predecessorHash := envelope.predecessorHash
    traceId := some envelope.traceId
    eventHash := some (config.eventHash envelope)
    stateVersion := some envelope.stateVersion }

/-- `transport.persist`. -/
def persist (config : BinderConfig S) (hazel : Hazel S)
    (envelope : HazelEnvelope (HazelPayload S)) :
    Hazel S × Except HazelError HazelReceipt :=
  if hazel.accepts envelope then
    let record := recordOf config envelope
    (hazel.insert envelope.runId record,
      .ok ⟨true, record.ocsId, record.stateNamespace, record.eventHash, record.payloadHash⟩)
  else (hazel, .ok ⟨false, none, none, none, none⟩)

/-- `transport.recover`. -/
def recover (hazel : Hazel S) (request : HazelRequest) :
    Except HazelError (HazelRecord (HazelPayload S)) :=
  match hazel.lookup request.runId with
  | none => .error (.kernel (.keyError request.runId))
  | some record => .ok record

end Hazel

/-! ## World -/

/-- `clock` holds the readings that `time()` and the binder's clock will give next. -/
structure World (S : Type) where
  store : InstanceStore
  hazel : Hazel S
  leases : AuthorityLeaseManager
  guard : IdentityKernelGuard
  clock : ℕ → Time

/-- What the services do, in atomic steps. -/
abbrev Service (S A : Type) := Script (World S) InstanceError A

namespace World

def storePart : Lens (World S) InstanceStore where
  get := (·.store)
  set world store := { world with store := store }
  get_set _ _ := rfl
  set_set _ _ _ := rfl
  set_get _ := rfl

/-- A method of the registry. -/
def onStore {A : Type} (method : Script InstanceStore InstanceError A) : Service S A :=
  method.on storePart

/-- Read a clock. -/
def tick : Service S Time :=
  .act fun world => ({ world with clock := fun index => world.clock (index + 1) },
    .ok (world.clock 0))

/-- Raise the error of an answer. -/
def answer {A E : Type} (lift : E → InstanceError) : Except E A → Service S A
  | .error error => .raise (lift error)
  | .ok value => pure value

/-! ## Leases -/

def leaseFor (leaseId : String) : Service S AuthorityLease := do
  let found ← Script.read (·.leases.leaseFor leaseId)
  answer .kernel found

def finalize (leaseId : String) : Service S Unit :=
  .act fun world =>
    match world.leases.finalize leaseId with
    | .error error => (world, .error (.kernel error))
    | .ok (leases, _) => ({ world with leases := leases }, .ok ())

def reserveUse (now later : Time) (envelope : AuthorizedActionEnvelope String) :
    Service S Unit :=
  .act fun world =>
    match world.leases.reserveUse now later envelope with
    | (leases, .error reason) => ({ world with leases := leases }, .error (.binding reason))
    | (leases, .ok _) => ({ world with leases := leases }, .ok ())

/-! ## Identity and Hazel -/

/-- One call of the identity guard. -/
def onGuard {A E : Type} (lift : E → InstanceError)
    (call : IdentityKernelGuard → IdentityKernelGuard × Except E A) : Service S A :=
  .act fun world =>
    match call world.guard with
    | (guard, .error error) => ({ world with guard := guard }, .error (lift error))
    | (guard, .ok value) => ({ world with guard := guard }, .ok value)

/-- `HazelBoundContinuity.recover_state`. -/
def recoverState (config : BinderConfig S) (arguments : RecoverArguments) :
    Service S (HazelRecord (HazelPayload S)) := do
  let binding ← onGuard .hazel
    (recoverCall config.hazel · arguments)
  let recovered ← Script.read
    (·.hazel.recover (recoverRequest config.hazel binding arguments))
  onGuard .hazel (recoverReturn config.hazel · binding recovered)

/-- `transport.persist`, as a step of the world. -/
def transportPersist (config : BinderConfig S)
    (envelope : HazelEnvelope (HazelPayload S)) :
    Service S (Except HazelError HazelReceipt) :=
  .act fun world =>
    ({ world with hazel := (world.hazel.persist config envelope).1 },
      .ok (world.hazel.persist config envelope).2)

/-- `HazelBoundContinuity.persist_state`; the result is the receipt. -/
def persistState (config : BinderConfig S)
    (arguments : PersistArguments (HazelPayload S)) : Service S HazelReceipt := do
  let binding ← onGuard .hazel
    (persistRequest config.hazel · arguments)
  let receipt ← transportPersist config
    (envelope config.hazel binding arguments)
  onGuard .hazel
    (persistReturn config.hazel · binding arguments receipt)

end World

end ReisOs.Instances
