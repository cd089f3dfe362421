import ReisOs.Command.Events
import ReisOs.Core.Runs

/-!
# The Hazel adapter

`CommandHazelAdapter.persist` brings an authorized write to Hazel and reads it back.
Hazel itself is a service: it accepts the next version of a run on top of the current
one, and its answers may be lost or garbled on the way.
-/

namespace ReisOs.Command

open ReisOs.Core

inductive AuthorizationDecision where
  | allow | deny | hold
  deriving DecidableEq, Repr

/-- What the adapter reads of a `KernelDecisionReadback`. -/
structure KernelDecision where
  decision : AuthorizationDecision
  envelopeIssued : Bool
  expectedStateRef : String
  expectedStateVersion : ℤ
  idempotencyKey : String
  correlationId : String
  causationId : Option String
  traceId : String
  authorityRef : String
  deriving DecidableEq, Repr

structure AuthorizedPersistRequest (N : Type) where
  runId : String
  ocs : String
  host : String
  stateVersion : ℤ
  predecessorHash : Option String
  state : Mapping N
  idempotencyKey : String
  correlationId : String
  causationId : Option String

structure HazelPersistReadback where
  runId : String
  decision : AuthorizationDecision
  persisted : Bool
  recovered : Bool
  mutationCount : ℕ
  stateVersion : Option ℤ
  eventHash : Option String
  payloadHash : Option String
  idempotentReplay : Bool
  deriving DecidableEq, Repr

/-- `HazelIntegrationError` with its message, or an exception from the port. -/
inductive HazelError where
  | integration (message : String)
  | port
  deriving DecidableEq, Repr

/-! ## Hazel -/

/-- A write as Hazel accepts it. -/
structure HazelWrite (N : Type) where
  runId : String
  ocs : String
  host : String
  authorityRef : String
  stateVersion : ℤ
  predecessorHash : Option String
  payload : Mapping N
  traceId : String

/-- What the adapter reads of Hazel's answers; a field that is missing or not of its type
is none. -/
structure HazelDocument (N : Type) where
  accepted : Bool
  eventHash : Option String
  payloadHash : Option String
  stateVersion : Option ℤ
  payload : Option (Mapping N)

/-- The hashes of writes and payloads, and integers among the numbers of documents. -/
structure HazelLibrary (N : Type) where
  ofInt : ℤ → N
  eventHash : HazelWrite N → String
  payloadHash : Mapping N → String

/-- How the answer to a call comes back: a refused call does not reach Hazel. -/
inductive Delivery (N : Type) where
  | answered
  | refused
  | lost
  | garbled (document : HazelDocument N)

/-- What happens around a call: the writes that others send to Hazel before each of the
adapter's calls and how these are answered. -/
structure Surroundings (N : Type) where
  beforeProbe : List (HazelWrite N)
  probe : Delivery N
  beforePersist : List (HazelWrite N)
  persist : Delivery N
  beforeReadback : List (HazelWrite N)
  readback : Delivery N

variable {N : Type}

/-- The writes that Hazel has accepted, in their order. -/
abbrev Hazel (N : Type) := List (HazelWrite N)

namespace Hazel

/-- The state that Hazel recovers for a run. -/
def current (hazel : Hazel N) (runId ocs : String) : Option (HazelWrite N) :=
  (hazel.filter fun write => write.runId = runId ∧ write.ocs = ocs).getLast?

/-- The version of a run, none of whose states has version 0. -/
def version (hazel : Hazel N) (runId ocs : String) : ℤ :=
  (hazel.current runId ocs).elim 0 (·.stateVersion)

/-- Hazel accepts the next version with the hash of the current one. -/
def Accepts (library : HazelLibrary N) (hazel : Hazel N) (write : HazelWrite N) : Prop :=
  write.stateVersion = hazel.version write.runId write.ocs + 1 ∧
    write.predecessorHash = (hazel.current write.runId write.ocs).map library.eventHash

instance (library : HazelLibrary N) (hazel : Hazel N) (write : HazelWrite N) :
    Decidable (hazel.Accepts library write) :=
  inferInstanceAs (Decidable (_ ∧ _))

def submit (library : HazelLibrary N) (hazel : Hazel N) (write : HazelWrite N) : Hazel N :=
  if hazel.Accepts library write then hazel ++ [write] else hazel

def submitAll (library : HazelLibrary N) (hazel : Hazel N) (writes : List (HazelWrite N)) :
    Hazel N :=
  writes.foldl (submit library) hazel

/-- What Hazel tells of a write. -/
def document (library : HazelLibrary N) (write : HazelWrite N) : HazelDocument N where
  accepted := true
  eventHash := some (library.eventHash write)
  payloadHash := some (library.payloadHash write.payload)
  stateVersion := some write.stateVersion
  payload := some write.payload

/-- `recover_state`. -/
def recoverState (library : HazelLibrary N) (hazel : Hazel N) (delivery : Delivery N)
    (runId ocs : String) : Except HazelError (HazelDocument N) :=
  match delivery with
  | .garbled document => .ok document
  | .answered =>
    match hazel.current runId ocs with
    | none => .error .port
    | some write => .ok (document library write)
  | .lost => .error .port
  | .refused => .error .port

/-- The write of a `persist_state` call reaches Hazel and is accepted. -/
def Takes (library : HazelLibrary N) (hazel : Hazel N) (delivery : Delivery N)
    (write : HazelWrite N) : Prop :=
  (match delivery with
    | .refused => False
    | _ => True) ∧ hazel.Accepts library write

instance (library : HazelLibrary N) (hazel : Hazel N) (delivery : Delivery N)
    (write : HazelWrite N) : Decidable (hazel.Takes library delivery write) := by
  unfold Takes
  cases delivery <;> infer_instance

/-- The answer to a `persist_state` call whose write has been accepted. -/
def receipt (library : HazelLibrary N) (delivery : Delivery N) (write : HazelWrite N) :
    Except HazelError (HazelDocument N) :=
  match delivery with
  | .answered => .ok (document library write)
  | .garbled document => .ok document
  | .lost => .error .port
  | .refused => .error .port

end Hazel

/-! ## The adapter -/

/-- `command_causality`. -/
def causality (library : HazelLibrary N) (decision : KernelDecision)
    (request : AuthorizedPersistRequest N) : Json N :=
  .object
    [("idempotency_key", .string request.idempotencyKey),
      ("correlation_id", .string request.correlationId),
      ("causation_id", request.causationId.elim .null .string),
      ("expected_state_ref", .string decision.expectedStateRef),
      ("expected_state_version", .number (library.ofInt decision.expectedStateVersion))]

/-- The write that a request asks Hazel for. -/
def AuthorizedPersistRequest.write (library : HazelLibrary N) (decision : KernelDecision)
    (request : AuthorizedPersistRequest N) : HazelWrite N where
  runId := request.runId
  ocs := request.ocs
  host := request.host
  authorityRef := decision.authorityRef
  stateVersion := request.stateVersion
  predecessorHash := request.predecessorHash
  payload := request.state.insert "command_causality" (causality library decision request)
  traceId := decision.traceId

/-- `decision is ALLOW and envelope_issued`. -/
def KernelDecision.authorized (decision : KernelDecision) : Bool :=
  decision.decision = .allow && decision.envelopeIssued

/-- `_validate_binding`. -/
def validateBinding (decision : KernelDecision) (request : AuthorizedPersistRequest N) :
    Except HazelError Unit :=
  if request.idempotencyKey ≠ decision.idempotencyKey then
    .error (.integration "command_hazel_idempotency_binding_mismatch")
  else if request.correlationId ≠ decision.correlationId then
    .error (.integration "command_hazel_correlation_binding_mismatch")
  else if request.causationId ≠ decision.causationId then
    .error (.integration "command_hazel_causation_binding_mismatch")
  else if request.stateVersion ≤ 0 then
    .error (.integration "command_hazel_state_version_invalid")
  else .ok ()

/-- `_validate_predecessor`, with the answer to its probe. -/
def validatePredecessor (request : AuthorizedPersistRequest N)
    (probe : Except HazelError (HazelDocument N)) : Except HazelError Unit :=
  if request.stateVersion = 1 then
    if request.predecessorHash ≠ none then
      .error (.integration "command_hazel_initial_predecessor_invalid")
    else .ok ()
  else
    match probe with
    | .error error => .error error
    | .ok current =>
      if current.eventHash ≠ request.predecessorHash then
        .error (.integration "command_hazel_predecessor_drift")
      else if current.stateVersion.map (· + 1) ≠ some request.stateVersion then
        .error (.integration "command_hazel_version_drift")
      else .ok ()

/-- The idempotency key that a payload carries. -/
def causalityKey (payload : Mapping N) : Option (Json N) :=
  (payload.lookup "command_causality").bind (Json.field "idempotency_key")

/-- `_validate_readback`. -/
def validateReadback (request : AuthorizedPersistRequest N)
    (receipt recovered : HazelDocument N) : Except HazelError Unit :=
  if ¬receipt.accepted then .error (.integration "command_hazel_persist_not_accepted")
  else if recovered.eventHash ≠ receipt.eventHash then
    .error (.integration "command_hazel_readback_mismatch:event_hash")
  else if recovered.payloadHash ≠ receipt.payloadHash then
    .error (.integration "command_hazel_readback_mismatch:payload_hash")
  else if recovered.stateVersion ≠ receipt.stateVersion then
    .error (.integration "command_hazel_readback_mismatch:state_version")
  else if recovered.stateVersion ≠ some request.stateVersion then
    .error (.integration "command_hazel_readback_version_mismatch")
  else
    match recovered.payload with
    | none => .error (.integration "command_hazel_readback_payload_invalid")
    | some payload =>
      match payload.lookup "command_causality" with
      | some (.object fields) =>
        if ((Json.object fields).field "idempotency_key").bind Json.asString ≠
            some request.idempotencyKey then
          .error (.integration "command_hazel_idempotency_readback_mismatch")
        else .ok ()
      | _ => .error (.integration "command_hazel_causality_missing")

/-- A call of `persist`. -/
structure PersistCall (N : Type) where
  decision : KernelDecision
  request : AuthorizedPersistRequest N
  surroundings : Surroundings N

/-- Hazel and the adapter.  `own` records the writes of the adapter that Hazel has
accepted, `proven` the calls that have reported success. -/
structure Continuity (N : Type) where
  hazel : Hazel N
  recorded : Dict String HazelPersistReadback
  own : List (HazelWrite N)
  proven : List (PersistCall N)

namespace Continuity

def empty : Continuity N := ⟨[], ∅, [], []⟩

/-- The readback of a write that has been proven. -/
def readback (decision : KernelDecision) (request : AuthorizedPersistRequest N)
    (receipt : HazelDocument N) : HazelPersistReadback where
  runId := request.runId
  decision := decision.decision
  persisted := true
  recovered := true
  mutationCount := 1
  stateVersion := some request.stateVersion
  eventHash := receipt.eventHash
  payloadHash := receipt.payloadHash
  idempotentReplay := false

/-- The readback without authorization. -/
def unauthorized (decision : KernelDecision) (request : AuthorizedPersistRequest N) :
    HazelPersistReadback where
  runId := request.runId
  decision := decision.decision
  persisted := false
  recovered := false
  mutationCount := 0
  stateVersion := none
  eventHash := none
  payloadHash := none
  idempotentReplay := false

/-- `persist` from its `persist_state` call on. -/
def persistState (library : HazelLibrary N) (world : Continuity N) (call : PersistCall N) :
    Continuity N × Except HazelError HazelPersistReadback :=
  let around := call.surroundings
  let request := call.request
  let write := request.write library call.decision
  if world.hazel.Takes library around.persist write then
    let world := { world with hazel := world.hazel ++ [write], own := world.own ++ [write] }
    match Hazel.receipt library around.persist write with
    | .error error => (world, .error error)
    | .ok receipt =>
      let world :=
        { world with hazel := world.hazel.submitAll library around.beforeReadback }
      match world.hazel.recoverState library around.readback request.runId
          request.ocs with
      | .error error => (world, .error error)
      | .ok recovered =>
        match validateReadback request receipt recovered with
        | .error error => (world, .error error)
        | .ok () =>
          let readback := readback call.decision request receipt
          ({ world with
              recorded := world.recorded.insert request.idempotencyKey readback },
            .ok readback)
  else (world, .error .port)

/-- `persist`. -/
def persist (library : HazelLibrary N) (world : Continuity N) (call : PersistCall N) :
    Continuity N × Except HazelError HazelPersistReadback :=
  let around := call.surroundings
  let world := { world with hazel := world.hazel.submitAll library around.beforeProbe }
  if ¬call.decision.authorized then (world, .ok (unauthorized call.decision call.request))
  else
    match validateBinding call.decision call.request with
    | .error error => (world, .error error)
    | .ok () =>
      match world.recorded.lookup call.request.idempotencyKey with
      | some previous =>
        (world, .ok { previous with mutationCount := 0, idempotentReplay := true })
      | none =>
        match validatePredecessor call.request (world.hazel.recoverState library
            around.probe call.request.runId call.request.ocs) with
        | .error error => (world, .error error)
        | .ok () =>
          persistState library
            { world with hazel := world.hazel.submitAll library around.beforePersist }
            call

/-- A call with its answer recorded. -/
def step (library : HazelLibrary N) (world : Continuity N) (call : PersistCall N) :
    Continuity N :=
  match persist library world call with
  | (after, .error _) => after
  | (after, .ok readback) =>
    if readback.persisted then { after with proven := after.proven ++ [call] } else after

end Continuity

end ReisOs.Command
