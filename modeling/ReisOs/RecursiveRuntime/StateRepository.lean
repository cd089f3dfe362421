import Mathlib.Logic.Function.Basic
import ReisOs.RecursiveRuntime.Contracts

/-!
# The repository of actors

`StateRepository`: the actors by id, the current actor of each identity and the state
namespaces that are in use.
-/

namespace ReisOs.RecursiveRuntime

structure StateRepository where
  actors : String → Option ActorState
  activeByIdentity : String → Option String
  namespaces : Finset String

namespace StateRepository

/-- `StateRepository()`. -/
def empty : StateRepository := ⟨fun _ => none, fun _ => none, ∅⟩

def setActor (states : StateRepository) (actorId : String) (actor : Option ActorState) :
    StateRepository :=
  { states with actors := Function.update states.actors actorId actor }

def setIdentity (states : StateRepository) (identityId : String)
    (actorId : Option String) : StateRepository :=
  { states with activeByIdentity := Function.update states.activeByIdentity identityId actorId }

def add (states : StateRepository) (actor : ActorState) (active : Bool) :
    Except Fault StateRepository :=
  if actor.stateNamespace ∈ states.namespaces then
    .error (.conflict "STATE_NAMESPACE_COLLISION")
  else
    let stored := { states.setActor actor.actorId (some actor) with
      namespaces := insert actor.stateNamespace states.namespaces }
    .ok (if active then stored.setIdentity actor.identityId (some actor.actorId) else stored)

def get (states : StateRepository) (actorId : String) : Except Fault ActorState :=
  match states.actors actorId with
  | some actor => .ok actor
  | none => .error (.keyError actorId)

/-- An assignment to a field of `mutate(actor_id)`. -/
def mutate (states : StateRepository) (actorId : String)
    (change : ActorState → ActorState) : Except Fault StateRepository :=
  match states.actors actorId with
  | some actor => .ok (states.setActor actorId (some (change actor)))
  | none => .error (.keyError actorId)

/-- `mutate(actor_id).lifecycle = lifecycle`. -/
def setLifecycle (states : StateRepository) (actorId : String) (lifecycle : Lifecycle) :
    Except Fault StateRepository :=
  states.mutate actorId fun actor => { actor with lifecycle := lifecycle }

def setActive (states : StateRepository) (actorId : String) :
    Except Fault StateRepository :=
  match states.actors actorId with
  | some actor => .ok (states.setIdentity actor.identityId (some actorId))
  | none => .error (.keyError actorId)

def validateCurrent (states : StateRepository) (actorId : String)
    (generation fencingEpoch : ℤ) : Except Fault Unit :=
  match states.actors actorId with
  | none => .error (.keyError actorId)
  | some actor =>
    if states.activeByIdentity actor.identityId ≠ some actorId then
      .error (.stale "STALE_PREDECESSOR")
    else if actor.lifecycle = .fenced then .error (.stale "FENCED")
    else if actor.generation ≠ generation then .error (.stale "STALE_GENERATION")
    else if actor.fencingEpoch ≠ fencingEpoch then .error (.stale "STALE_FENCING")
    else .ok ()

/-- The loop of `descendants` over its queue; `none` is a run that is not over. -/
def descend (states : StateRepository) :
    ℕ → List String → List String → Option (Except Fault (List String))
  | _, out, [] => some (.ok out)
  | 0, _, _ :: _ => none
  | fuel + 1, out, actorId :: queue =>
    match states.actors actorId with
    | none => some (.error (.keyError actorId))
    | some actor => states.descend fuel (out ++ [actorId]) (queue ++ actor.children)

def descendants (states : StateRepository) (fuel : ℕ) (actorId : String) :
    Option (Except Fault (List String)) :=
  match states.actors actorId with
  | none => some (.error (.keyError actorId))
  | some actor => states.descend fuel [] actor.children

/-! ## Lookups -/

@[simp]
theorem setActor_actors (states : StateRepository) (actorId : String)
    (actor : Option ActorState) :
    (states.setActor actorId actor).actors = Function.update states.actors actorId actor :=
  rfl

variable {states : StateRepository} {actorId : String} {actor : ActorState}

theorem get_eq_ok_iff : states.get actorId = .ok actor ↔ states.actors actorId = some actor := by
  rw [get]
  cases states.actors actorId with
  | none => simp
  | some found => simp

end StateRepository

end ReisOs.RecursiveRuntime
