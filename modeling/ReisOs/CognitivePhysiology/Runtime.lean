import ReisOs.Core.Dict
import ReisOs.Core.Runs

/-!
# The generations of the cognitive runtime

`CognitivePhysiologyRuntime` keeps a generation of its own beside those of its workspace
and of the institutional world.  A commit of the world and a recovery change all three,
one statement after the other.
-/

namespace ReisOs.CognitivePhysiology

open ReisOs.Core

/-- The exceptions by their classes and messages. -/
inductive RuntimeError where
  | permission (message : String)
  | value (message : String)
  | type
  deriving DecidableEq, Repr

/-- The workspace, over an arbitrary type of candidates. -/
structure WorkspaceState (C : Type) where
  generation : ℤ
  candidates : Dict String C
  broadcastIds : List String

/-- The institutional world, over an arbitrary type of values. -/
structure InstitutionalState (V : Type) where
  generation : ℤ
  values : Dict String V
  committedTransitionIds : List String

structure Runtime (C V : Type) where
  generation : ℤ
  workspace : WorkspaceState C
  world : InstitutionalState V
  cycles : ℕ

/-- The arguments of `institutional_commit`; changes that are no mapping are none. -/
structure Commit (V : Type) where
  transitionId : String
  expectedGeneration : ℤ
  changes : Option (List (String × V))
  authorityValidated : Bool
  r6Validated : Bool

inductive Call (V : Type) where
  | institutionalCommit (commit : Commit V)
  | recoverToGeneration (restoredGeneration : ℤ)

variable {C V : Type}

/-! ## The methods -/

/-- `values.update(changes)`. -/
def update (values : Dict String V) (changes : List (String × V)) : Dict String V :=
  changes.foldl (fun values change => values.insert change.1 change.2) values

/-- `InstitutionalState.commit`. -/
def InstitutionalState.commit (world : InstitutionalState V) (call : Commit V) :
    InstitutionalState V × Except RuntimeError ℤ :=
  if ¬call.authorityValidated then
    (world, .error (.permission "institutional_commit_authority_required"))
  else if ¬call.r6Validated then
    (world, .error (.permission "institutional_commit_r6_validation_required"))
  else if call.transitionId ∈ world.committedTransitionIds then
    (world, .ok world.generation)
  else if call.expectedGeneration ≠ world.generation then
    (world, .error (.permission "institutional_generation_mismatch"))
  else
    match call.changes with
    | none => (world, .error .type)
    | some changes =>
      ({ generation := world.generation + 1
         values := update world.values changes
         committedTransitionIds := call.transitionId :: world.committedTransitionIds },
        .ok (world.generation + 1))

namespace Runtime

/-- The constructor. -/
def init (generation : ℤ) : Runtime C V where
  generation
  workspace := ⟨generation, ∅, []⟩
  world := ⟨generation, ∅, []⟩
  cycles := 0

/-- `_advance_generation`. -/
def advanceGeneration (runtime : Runtime C V) (newGeneration : ℤ) :
    Runtime C V × Except RuntimeError Unit :=
  if newGeneration ≤ runtime.generation then
    (runtime, .error (.value "generation_must_advance"))
  else
    ({ runtime with
        generation := newGeneration
        workspace := { runtime.workspace with generation := newGeneration } }, .ok ())

/-- `institutional_commit`. -/
def institutionalCommit (runtime : Runtime C V) (call : Commit V) :
    Runtime C V × Except RuntimeError ℤ :=
  match runtime.world.commit call with
  | (world, .error error) => ({ runtime with world }, .error error)
  | (world, .ok newGeneration) =>
    if runtime.world.generation < newGeneration then
      match advanceGeneration { runtime with world } newGeneration with
      | (after, .error error) => (after, .error error)
      | (after, .ok ()) => (after, .ok newGeneration)
    else ({ runtime with world }, .ok newGeneration)

/-- `recover_to_generation`. -/
def recoverToGeneration (runtime : Runtime C V) (restoredGeneration : ℤ) :
    Runtime C V × Except RuntimeError Unit :=
  if restoredGeneration < 0 then (runtime, .error (.value "invalid_recovery_generation"))
  else
    let nextGeneration := max runtime.generation restoredGeneration + 1
    ({ generation := nextGeneration
       workspace := ⟨nextGeneration, ∅, []⟩
       world := { runtime.world with generation := nextGeneration }
       cycles := 0 }, .ok ())

/-- The runtime after a call. -/
def step (runtime : Runtime C V) : Call V → Runtime C V
  | .institutionalCommit commit => (runtime.institutionalCommit commit).1
  | .recoverToGeneration restoredGeneration =>
    (runtime.recoverToGeneration restoredGeneration).1

end Runtime

end ReisOs.CognitivePhysiology
