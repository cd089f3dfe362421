import ReisOs.Core.Scripts
import ReisOs.RecursiveRuntime.Journal
import ReisOs.RecursiveRuntime.StateRepository
import ReisOs.RecursiveRuntime.ProductionEffects

/-!
# The state of a runtime

What the services of the runtime share: the actors, the budgets, the results of spawn
requests, the checkpoints and the journal.
-/

namespace ReisOs.RecursiveRuntime

open ReisOs.Core

/-! ## Budgets -/

/-- What `BudgetLedger` keeps for one reference. -/
structure BudgetAccount where
  providerId : String
  maxSpawns : ℕ
  reserved : ℕ
  actual : ℕ
  deriving DecidableEq, Repr

abbrev BudgetLedger := String → Option BudgetAccount

namespace BudgetLedger

variable (ledger : BudgetLedger) (ref : String)

def bind (providerId : String) (maxSpawns : ℕ) : BudgetLedger :=
  Function.update ledger ref (some ⟨providerId, maxSpawns, 0, 0⟩)

def provider : Except Fault String :=
  match ledger ref with
  | none => .error (.keyError ref)
  | some account => .ok account.providerId

def reserveSpawn : Except Fault BudgetLedger :=
  match ledger ref with
  | none => .error (.keyError ref)
  | some account =>
    if account.maxSpawns ≤ account.actual + account.reserved then
      .error (.conflict "BUDGET_EXHAUSTED")
    else
      .ok (Function.update ledger ref (some { account with reserved := account.reserved + 1 }))

/-- The subtraction of naturals is that of `max(0, reserved - 1)`. -/
def releaseSpawn : Except Fault BudgetLedger :=
  match ledger ref with
  | none => .error (.keyError ref)
  | some account =>
    .ok (Function.update ledger ref (some { account with reserved := account.reserved - 1 }))

def reconcileSpawn : Except Fault BudgetLedger :=
  match ledger ref with
  | none => .error (.keyError ref)
  | some account =>
    if account.reserved = 0 then .error (.conflict "NO_RESERVATION")
    else
      .ok (Function.update ledger ref (some
        { account with reserved := account.reserved - 1, actual := account.actual + 1 }))

end BudgetLedger

/-! ## The runtime -/

/-- `_fingerprint` of a spawn request: all of it but its id. -/
structure SpawnFingerprint where
  parentActorId : String
  childActorId : String
  childIdentityId : String
  requestedScopes : Finset String
  requestedCapabilities : Finset String
  requestedTools : Finset String
  childNamespace : String
  stopConditionRef : String
  providerId : String
  deriving DecidableEq

def SpawnRequest.fingerprint (request : SpawnRequest) : SpawnFingerprint :=
  { parentActorId := request.parentActorId
    childActorId := request.childActorId
    childIdentityId := request.childIdentityId
    requestedScopes := request.requestedScopes
    requestedCapabilities := request.requestedCapabilities
    requestedTools := request.requestedTools
    childNamespace := request.childNamespace
    stopConditionRef := request.stopConditionRef
    providerId := request.providerId }

structure RuntimeState where
  states : StateRepository
  ledger : BudgetLedger
  /-- `_request_fingerprints` and `_results`, which are set together. -/
  results : String → Option (SpawnFingerprint × SpawnResult)
  checkpoints : String → List Checkpoint
  journal : List JournalRecord

/-- What the services are built with: the resolvable policies, and which of them write to
the journal. -/
structure RuntimeConfig where
  policies : Finset String
  cancellationJournal : Bool
  recoveryJournal : Bool

abbrev RuntimeScript (A : Type) := Script RuntimeState Fault A

/-- A step that looks at the state and may raise. -/
def look {A : Type} (f : RuntimeState → Except Fault A) : RuntimeScript A :=
  .act fun runtime => (runtime, f runtime)

/-- A step that replaces the actors, or raises. -/
def changeStates (f : RuntimeState → Except Fault StateRepository) : RuntimeScript Unit :=
  .act fun runtime =>
    match f runtime with
    | .error fault => (runtime, .error fault)
    | .ok states => ({ runtime with states := states }, .ok ())

/-- A step that replaces the ledger, or raises. -/
def changeLedger (f : RuntimeState → Except Fault BudgetLedger) : RuntimeScript Unit :=
  .act fun runtime =>
    match f runtime with
    | .error fault => (runtime, .error fault)
    | .ok ledger => ({ runtime with ledger := ledger }, .ok ())

/-! ## Lifecycles -/

/-- An actor without its lifecycle. -/
def ActorState.unmarked (actor : ActorState) : ActorState := { actor with lifecycle := .active }

/-- At most the lifecycles of the given actors have changed. -/
structure StateRepository.Marks (touched : String → Prop) (states now : StateRepository) :
    Prop where
  actors : ∀ actorId, (now.actors actorId).map ActorState.unmarked =
    (states.actors actorId).map ActorState.unmarked
  kept : ∀ actorId, ¬ touched actorId → now.actors actorId = states.actors actorId
  identities : now.activeByIdentity = states.activeByIdentity
  namespaces : now.namespaces = states.namespaces

theorem StateRepository.Marks.refl {touched : String → Prop} (states : StateRepository) :
    states.Marks touched states :=
  ⟨fun _ => rfl, fun _ _ => rfl, rfl, rfl⟩

theorem StateRepository.Marks.trans {touched : String → Prop}
    {states middle now : StateRepository} (h : states.Marks touched middle)
    (hnext : middle.Marks touched now) : states.Marks touched now := by
  refine ⟨?_, ?_, hnext.identities.trans h.identities, hnext.namespaces.trans h.namespaces⟩
  · intro actorId
    rw [hnext.actors, h.actors]
  · intro actorId huntouched
    rw [hnext.kept actorId huntouched, h.kept actorId huntouched]

/-!
## Cancellation

`CancellationService`: an actor and its descendants are marked as cancelled, after the
intents have been written to the journal.
-/

open ReisOs.Core DurableJournal

/-- A record is put to the journal of the runtime. -/
def journalPut (record : JournalRecord) : RuntimeScript Unit :=
  .act fun runtime =>
    let answer := putRecord runtime.journal record
    match answer.2 with
    | .error error => (runtime, .error error.fault)
    | .ok () => ({ runtime with journal := answer.1 }, .ok ())

/-- A record is put if the service has a journal. -/
def journalPutIf (bound : Bool) (record : JournalRecord) : RuntimeScript Unit :=
  if bound then journalPut record else pure ()

/-- Whether the policy of an actor is set and known. -/
def resolvable (config : RuntimeConfig) (actor : ActorState) : Bool :=
  match actor.cancellationPolicyRef with
  | none => false
  | some ref => ref ≠ "" ∧ ref ∈ config.policies

def cancelIntent (actorId reason : String) (actor : ActorState) : JournalRecord :=
  { journalId := "cancel-intent:" ++ actorId ++ ":" ++ toString actor.generation ++ ":" ++
      toString actor.fencingEpoch
    kind := "CANCELLATION_INTENT"
    actorId := actorId
    traceId := actor.traceId
    generation := actor.generation
    fencingEpoch := actor.fencingEpoch
    status := "PERSISTED"
    payload := [("reason", reason)] }

/-- The loop of `descendants`; `none` is a run that is not over. -/
def walkChildren : ℕ → List String → List String → RuntimeScript (Option (List String))
  | _, out, [] => pure (some out)
  | 0, _, _ :: _ => pure none
  | fuel + 1, out, actorId :: queue => do
      let actor ← look (·.states.get actorId)
      walkChildren fuel (out ++ [actorId]) (queue ++ actor.children)

def descendantsOf (fuel : ℕ) (actorId : String) : RuntimeScript (Option (List String)) := do
  let actor ← look (·.states.get actorId)
  walkChildren fuel [] actor.children

def persistIntents (reason : String) : List String → RuntimeScript Unit
  | [] => pure ()
  | actorId :: targets => do
      let actor ← look (·.states.get actorId)
      journalPut (cancelIntent actorId reason actor)
      persistIntents reason targets

def persistIntentsIf (bound : Bool) (reason : String) (targets : List String) :
    RuntimeScript Unit :=
  if bound then persistIntents reason targets else pure ()

/-- The actors are marked; the receipt of each reads it once more. -/
def markCancelled : List String → RuntimeScript Unit
  | [] => pure ()
  | actorId :: targets => do
      changeStates (·.states.setLifecycle actorId .cancelling)
      let _ ← look (·.states.get actorId)
      markCancelled targets

/-- What follows the descendants. -/
def cancelTargets (config : RuntimeConfig) (actorId reason : String) :
    Option (List String) → RuntimeScript (Option (List String))
  | none => pure none
  | some below => do
      persistIntentsIf config.cancellationJournal reason (actorId :: below)
      markCancelled (actorId :: below)
      pure (some (actorId :: below))

/-- An actor without a policy fails closed. -/
def failUnresolved (actorId : String) : RuntimeScript (Option (List String)) := do
  changeStates (·.states.setLifecycle actorId .failedClosed)
  Script.raise (.conflict "UNRESOLVED_CANCELLATION_POLICY")

/-- The answer is `none` if the loop of `descendants` is not over. -/
def cancel (config : RuntimeConfig) (fuel : ℕ) (actorId reason : String) :
    RuntimeScript (Option (List String)) := do
  let actor ← look (·.states.get actorId)
  if resolvable config actor then
    descendantsOf fuel actorId >>= cancelTargets config actorId reason
  else failUnresolved actorId

/-- The loop of `replay`: actors that are gone are left out. -/
def replayIntents : List JournalRecord → StateRepository → StateRepository × List String
  | [], states => (states, [])
  | row :: rows, states =>
    if row.kind ≠ "CANCELLATION_INTENT" then replayIntents rows states
    else
      match states.setLifecycle row.actorId .cancelling with
      | .error _ => replayIntents rows states
      | .ok marked =>
        let (final, replayed) := replayIntents rows marked
        (final, row.actorId :: replayed)

/-- `CancellationService.replay`. -/
def replayCancellations (config : RuntimeConfig) : RuntimeScript (List String) :=
  .act fun runtime =>
    if config.cancellationJournal then
      let (states, replayed) := replayIntents runtime.journal runtime.states
      ({ runtime with states := states }, .ok replayed.eraseDups)
    else (runtime, .ok [])

end ReisOs.RecursiveRuntime
