import ReisOs.Instances.Contracts

/-!
# Material workers

A worker owns one process and talks to it over a pipe.  The answers of the process are
inputs.  Every call that fails on the answer kills the process, and `stop` leaves no
process whatever its outcome.
-/

namespace ReisOs.DistributedRuntime

open Instances (InstanceBinding)

inductive Failure where
  | runtimeError (text : String)
  | permissionError (text : String)
  | timeoutError (text : String)
  | keyError (key : String)
  | valueError (text : String)
  deriving DecidableEq, Repr

inductive WorkerLifecycle where
  | declared
  | starting
  | active
  | stopping
  | stopped
  | hold
  deriving DecidableEq, Repr

/-- What the process answers to a command. -/
inductive Response where
  | success
  | childError (payload : String)
  | responseTimeout
  deriving DecidableEq, Repr

/-- What the process answers to the command to stop, and whether it then ends in time. -/
inductive Ending where
  | success
  | childError (payload : String)
  | responseTimeout
  | joinTimeout
  deriving DecidableEq, Repr

/-- The three classes of workers: `MaterialOCSWorker` of the pair, `PipelineWorker` and
`CausalMissionWorker`. -/
inductive WorkerKind where
  | material
  | pipeline
  | causal
  deriving DecidableEq, Repr

/-- What the texts of its errors begin with. -/
def WorkerKind.label : WorkerKind → String
  | material => "worker"
  | pipeline => "pipeline_worker"
  | causal => "dr5a_worker"

/-- `DR5A_ORDER`. -/
def missionOrder : List String :=
  ["NÓESIS", "MÊTIS", "DÉDALA", "ÍRIS", "LYRA", "SOFIA", "ÁGORA", "AURI", "SYNERGEIA",
    "TÊMIS", "SÝNESIS"]

/-- `get_profile`. -/
abbrev Profiles := String → Option Kernel.OCSProfile

/-- The failure of `bind_cognitive_runtime`, if it raises. -/
def bindFailure (profiles : Profiles) (binding : InstanceBinding) : Option Failure :=
  if binding.maturity ≠ .operationallyBoundL1 then
    some (.permissionError "cognitive_runtime_requires_operational_binding")
  else if binding.status ≠ .active then
    some (.permissionError "cognitive_runtime_requires_active_instance")
  else if binding.authorityRef = "" then
    some (.permissionError "binding_authority_reference_required")
  else
    match profiles binding.ocsId with
    | none => some (.keyError binding.ocsId)
    | some profile =>
      if binding.profileVersion ≠ profile.version then
        some (.permissionError "binding_profile_version_mismatch")
      else if binding.stateNamespace ≠ profile.stateNamespace then
        some (.permissionError "binding_state_namespace_mismatch")
      else if binding.memoryNamespace ≠ profile.memoryNamespace then
        some (.permissionError "binding_memory_namespace_mismatch")
      else none

/-- The failure of the constructor of a worker. -/
def constructFailure (profiles : Profiles) (kind : WorkerKind) (binding : InstanceBinding) :
    Option Failure :=
  match bindFailure profiles binding with
  | some failure => some failure
  | none =>
    match kind with
    | .material => none
    | .pipeline =>
      if binding.ocsId ∉ ["NÓESIS", "DÉDALA", "ÁGORA"] then
        some (.permissionError "dr3_pipeline_ocs_not_allowed")
      else none
    | .causal =>
      if binding.ocsId ∉ missionOrder then
        some (.permissionError "dr5a_worker_not_in_canonical_order")
      else none

/-- The binding of a replacement of the next generation. -/
def successorBinding (binding : InstanceBinding) (label : String) (generation : ℕ) :
    InstanceBinding :=
  { binding with
    generation := generation
    predecessorBindingId := some binding.bindingId
    bindingId := s!"{binding.bindingId}:g{generation}{label}"
    version := binding.version + 1 }

theorem constructFailure_successor (profiles : Profiles) (kind : WorkerKind)
    (binding : InstanceBinding) (label : String) (generation : ℕ) :
    constructFailure profiles kind (successorBinding binding label generation) =
      constructFailure profiles kind binding := rfl

/-- `process` is `none` before the start, and then whether the process is alive. -/
structure Worker where
  binding : InstanceBinding
  lifecycleState : WorkerLifecycle
  process : Option Bool
  deriving DecidableEq, Repr

namespace Worker

def declare (binding : InstanceBinding) : Worker := ⟨binding, .declared, none⟩

def isAlive (worker : Worker) : Bool := worker.process = some true

/-- The process is terminated if it is alive. -/
def crash (worker : Worker) : Worker :=
  { worker with
    process := if worker.isAlive then some false else worker.process
    lifecycleState := .hold }

/-- `_receive`, and `_recv` in the other classes. -/
def receive (kind : WorkerKind) (worker : Worker) : Response → Worker × Except Failure Unit
  | .success => (worker, .ok ())
  | .childError payload =>
    (worker.crash, .error (.runtimeError (kind.label ++ "_child_error:" ++ payload)))
  | .responseTimeout =>
    (worker.crash, .error (.timeoutError (kind.label ++ "_response_timeout")))

/-- A `PipelineWorker` does not check that it has not been started before. -/
def start (kind : WorkerKind) (response : Response) (worker : Worker) :
    Worker × Except Failure Unit :=
  if worker.process ≠ none ∧ kind ≠ .pipeline then
    (worker, .error (.runtimeError (kind.label ++ "_already_started")))
  else
    let started := { worker with process := some true, lifecycleState := .starting }
    match receive kind started response with
    | (now, .error error) => (now, .error error)
    | (now, .ok ()) => ({ now with lifecycleState := .active }, .ok ())

/-- `_require_active`. -/
def requireActive (kind : WorkerKind) (worker : Worker) : Worker × Except Failure Unit :=
  if worker.lifecycleState ≠ .active ∨ worker.isAlive = false then
    ({ worker with lifecycleState := .hold },
      .error (.runtimeError (kind.label ++ "_not_active")))
  else
    (worker, .ok ())

/-- A command to an active worker: `health`, and `accept_handoff` or `process`. -/
def command (kind : WorkerKind) (response : Response) (worker : Worker) :
    Worker × Except Failure Unit :=
  match requireActive kind worker with
  | (now, .error error) => (now, .error error)
  | (now, .ok ()) => receive kind now response

/-- After the answer to the command, the process is given time to end. -/
def finish (kind : WorkerKind) (worker : Worker) : Ending → Worker × Except Failure Unit
  | .success => ({ worker with process := some false, lifecycleState := .stopped }, .ok ())
  | .childError payload => receive kind worker (.childError payload)
  | .responseTimeout => receive kind worker .responseTimeout
  | .joinTimeout => (worker.crash, .error (.runtimeError (kind.label ++ "_stop_timeout")))

/-- `MaterialOCSWorker.stop` requires an active worker; the others return if the process
is not alive. -/
def stop (kind : WorkerKind) (ending : Ending) (worker : Worker) :
    Worker × Except Failure Unit :=
  match kind with
  | .material =>
    match requireActive .material worker with
    | (now, .error error) => (now, .error error)
    | (now, .ok ()) => finish .material now ending
  | _ => if worker.isAlive then finish kind worker ending else (worker, .ok ())

/-! ## What the calls do to the process -/

variable {kind : WorkerKind} {worker : Worker}

theorem start_success (binding : InstanceBinding) :
    start kind .success (declare binding) = (⟨binding, .active, some true⟩, .ok ()) := rfl

end Worker

end ReisOs.DistributedRuntime
