import Mathlib.Data.Finset.Insert

/-!
# Actors of the recursive runtime

`contracts/model.py`: the state of an actor, its checkpoints and the requests to spawn a
child of it.
-/

namespace ReisOs.RecursiveRuntime

inductive Lifecycle where
  | active
  | hold
  | stopped
  | fenced
  | failedClosed
  | cancelling
  deriving DecidableEq, Repr

inductive Outcome where
  | continue_
  | delegate
  | escalate
  | hold
  | stop
  | failClosed
  deriving DecidableEq, Repr

structure AuthorityGrant where
  authorityRef : String
  scopes : Finset String
  deriving DecidableEq

structure CapabilityBinding where
  capabilityRef : String
  capabilities : Finset String
  tools : Finset String
  deriving DecidableEq

structure ActorState where
  actorId : String
  identityId : String
  sessionBinding : String
  missionBinding : String
  stateNamespace : String
  authority : AuthorityGrant
  capability : CapabilityBinding
  budgetRef : String
  providerId : String
  traceId : String
  spanId : String
  generation : ℤ
  fencingEpoch : ℤ
  depth : ℤ
  lifecycle : Lifecycle
  cancellationPolicyRef : Option String
  parentActorId : Option String
  children : List String
  deriving DecidableEq

structure Checkpoint where
  checkpointId : String
  actor : ActorState
  deriving DecidableEq

structure SpawnRequest where
  requestId : String
  parentActorId : String
  childActorId : String
  childIdentityId : String
  requestedScopes : Finset String
  requestedCapabilities : Finset String
  requestedTools : Finset String
  childNamespace : String
  stopConditionRef : String
  providerId : String
  deriving DecidableEq

inductive SpawnStatus where
  | committed
  | aborted
  deriving DecidableEq, Repr

structure SpawnResult where
  status : SpawnStatus
  childActorId : Option String
  detail : String
  deriving DecidableEq, Repr

/-- What the services raise. -/
inductive Fault where
  | keyError (key : String)
  | attributeError (name : String)
  | conflict (message : String)
  | stale (message : String)
  | invalidCheckpoint (message : String)
  | runtimeError (message : String)
  deriving DecidableEq, Repr

/-- `str` of an exception. -/
def Fault.message : Fault → String
  | keyError key => s!"'{key}'"
  | attributeError name => s!"'NoneType' object has no attribute '{name}'"
  | conflict message => message
  | stale message => message
  | invalidCheckpoint message => message
  | runtimeError message => message

end ReisOs.RecursiveRuntime
