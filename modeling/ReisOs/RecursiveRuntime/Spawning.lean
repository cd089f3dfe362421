import Mathlib.Data.Finset.Basic
import ReisOs.RecursiveRuntime.Cancellation

/-!
# Spawn transactions

`SpawnTransactionService.spawn`: a child is reserved, added, listed and counted, one step
after another, and a failure on the way is undone by the ids of the request.
-/

namespace ReisOs.RecursiveRuntime

open ReisOs.Core

/-- The points at which `hook` is called. -/
inductive HookPoint where
  | afterReservation
  | afterChildState
  | beforeCommit
  deriving DecidableEq, Repr

/-- A hook may raise, and may cancel actors, which changes lifecycles and writes intents to
the journal. -/
structure SpawnHook where
  run : HookPoint → ActorState → SpawnRequest → RuntimeState →
    RuntimeState × Except Fault Unit
  /-- The actors whose lifecycles it may change. -/
  touched : String → Prop
  marks : ∀ point parent request (runtime : RuntimeState),
    runtime.states.Marks touched (run point parent request runtime).1.states
  ledger : ∀ point parent request runtime,
    (run point parent request runtime).1.ledger = runtime.ledger
  results : ∀ point parent request runtime,
    (run point parent request runtime).1.results = runtime.results
  checkpoints : ∀ point parent request runtime,
    (run point parent request runtime).1.checkpoints = runtime.checkpoints
  journal : ∀ point parent request runtime, ∃ intents,
    (run point parent request runtime).1.journal = runtime.journal ++ intents ∧
      ∀ record ∈ intents, ∃ actorId reason actor, record = cancelIntent actorId reason actor

/-- `hook = None`. -/
def SpawnHook.none : SpawnHook where
  run _ _ _ runtime := (runtime, .ok ())
  touched _ := False
  marks _ _ _ runtime := .refl runtime.states
  ledger _ _ _ _ := rfl
  results _ _ _ _ := rfl
  checkpoints _ _ _ _ := rfl
  journal _ _ _ runtime := ⟨[], (List.append_nil runtime.journal).symm, fun _ h => nomatch h⟩

def SpawnHook.call (hook : SpawnHook) (point : HookPoint) (parent : ActorState)
    (request : SpawnRequest) : RuntimeScript Unit :=
  .act (hook.run point parent request)

section Spawn

variable (hook : SpawnHook) (parent : ActorState) (request : SpawnRequest)

/-- The reason of a request that is refused before the budget is asked. -/
def refusal : Option String :=
  if parent.lifecycle = .cancelling ∨ parent.lifecycle = .fenced ∨
      parent.lifecycle = .failedClosed then some "PARENT_NOT_ACTIVE"
  else if request.stopConditionRef = "" then some "STOP_CONDITION_REQUIRED"
  else if ¬ request.requestedScopes ⊆ parent.authority.scopes then some "SCOPE_ESCAPE"
  else if ¬ request.requestedCapabilities ⊆ parent.capability.capabilities then
    some "CAPABILITY_ESCAPE"
  else if ¬ request.requestedTools ⊆ parent.capability.tools then some "TOOL_ESCAPE"
  else none

/-- The child of a parent for a request. -/
def childActor (providerId : String) : ActorState :=
  { actorId := request.childActorId
    identityId := request.childIdentityId
    sessionBinding := parent.sessionBinding
    missionBinding := parent.missionBinding
    stateNamespace := request.childNamespace
    authority := ⟨parent.authority.authorityRef, request.requestedScopes⟩
    capability := ⟨parent.capability.capabilityRef, request.requestedCapabilities,
      request.requestedTools⟩
    budgetRef := parent.budgetRef
    providerId := providerId
    traceId := parent.traceId
    spanId := "span:" ++ request.childActorId
    generation := 1
    fencingEpoch := 1
    depth := parent.depth + 1
    lifecycle := .active
    cancellationPolicyRef := parent.cancellationPolicyRef
    parentActorId := some parent.actorId
    children := [] }

/-- `publish`. -/
def publish (result : SpawnResult) : RuntimeScript SpawnResult :=
  .act fun runtime =>
    ({ runtime with
      results := Function.update runtime.results request.requestId
        (some (request.fingerprint, result)) }, .ok result)

def aborted (detail : String) : SpawnResult := ⟨.aborted, none, detail⟩

/-- `raise Conflict` if the parent is being cancelled. -/
def notCancelled (runtime : RuntimeState) : Except Fault Unit :=
  match runtime.states.get parent.actorId with
  | .error fault => .error fault
  | .ok found =>
    if found.lifecycle = .cancelling then .error (.conflict "CANCELLED_DURING_SPAWN")
    else .ok ()

/-- The child is listed by the parent. -/
def listChild (states : StateRepository) : Except Fault StateRepository :=
  states.mutate parent.actorId fun found =>
    { found with children := found.children ++ [request.childActorId] }

/-- The body of `try`. -/
def attemptChild (providerId : String) : RuntimeScript SpawnResult := do
  hook.call .afterReservation parent request
  look (notCancelled parent)
  changeStates fun runtime => runtime.states.add (childActor parent request providerId) true
  hook.call .afterChildState parent request
  look (notCancelled parent)
  changeStates fun runtime => listChild parent request runtime.states
  hook.call .beforeCommit parent request
  look (notCancelled parent)
  changeLedger fun runtime => runtime.ledger.reconcileSpawn parent.budgetRef
  publish request ⟨.committed, some request.childActorId, "OK"⟩

/-- The child of the request is removed, whoever it is. -/
def popChild (states : StateRepository) : StateRepository :=
  match states.actors request.childActorId with
  | none => states
  | some child =>
    let popped := { states.setActor request.childActorId none with
      namespaces := states.namespaces.erase child.stateNamespace }
    if states.activeByIdentity child.identityId = some request.childActorId then
      popped.setIdentity child.identityId none
    else popped

/-- The parent no longer lists the child of the request. -/
def unlistChild (states : StateRepository) : Except Fault StateRepository :=
  states.mutate parent.actorId fun found =>
    { found with children := found.children.filter (· ≠ request.childActorId) }

/-- The handler of `try`. -/
def undoChild (fault : Fault) : RuntimeScript SpawnResult := do
  changeStates fun runtime => .ok (popChild request runtime.states)
  changeStates fun runtime => unlistChild parent request runtime.states
  changeLedger fun runtime => runtime.ledger.releaseSpawn parent.budgetRef
  publish request (aborted fault.message)

/-- `reserve_spawn`, with the detail of its conflict. -/
def reserveChild : RuntimeScript (Option String) :=
  .act fun runtime =>
    match runtime.ledger.reserveSpawn parent.budgetRef with
    | .ok ledger => ({ runtime with ledger := ledger }, .ok none)
    | .error (.conflict message) => (runtime, .ok (some message))
    | .error fault => (runtime, .error fault)

/-- What follows the refusals. -/
def spawnUnder : RuntimeScript SpawnResult := do
  let providerId ← look (·.ledger.provider parent.budgetRef)
  if request.providerId ≠ providerId then publish request (aborted "PROVIDER_BINDING_MISMATCH")
  else
    match ← reserveChild parent with
    | some detail => publish request (aborted detail)
    | none =>
      (attemptChild hook parent request providerId).handle fun fault =>
        some (undoChild parent request fault)

end Spawn

def spawn (hook : SpawnHook) (request : SpawnRequest) : RuntimeScript SpawnResult := do
  match ← Script.read (·.results request.requestId) with
  | some (fingerprint, result) =>
    if fingerprint ≠ request.fingerprint then return aborted "REQUEST_ID_CONFLICT"
    else return result
  | none =>
    let parent ← look (·.states.get request.parentActorId)
    look (·.states.validateCurrent parent.actorId parent.generation parent.fencingEpoch)
    match refusal parent request with
    | some detail => publish request (aborted detail)
    | none => spawnUnder hook parent request

end ReisOs.RecursiveRuntime
