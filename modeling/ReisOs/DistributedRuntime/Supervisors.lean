import ReisOs.DistributedRuntime.Workers
import Mathlib.Logic.Function.Basic
import ReisOs.Core.Endings

/-!
# Messages of a causal mission

The payload that a mission hands from worker to worker, the envelope around it, the
receipt of a worker, and what the process of a worker does with an envelope.  The hash of a
payload is a parameter; workers are numbered, and the numbers stand for their instance ids.
-/

namespace ReisOs.DistributedRuntime

open ReisOs.Core
open Instances (InstanceBinding)

structure Contribution where
  transformation : String
  specialty : String
  result : String
  deriving DecidableEq, Repr

/-- A payload; `given` has the entries of the initial one. -/
structure Payload (V : Type) where
  given : Dict String V
  missionId : Option String
  contributions : Dict String Contribution
  lastContributor : Option String

structure CausalMissionEnvelope (V D : Type) where
  messageId : String
  missionId : String
  sourceOcs : String
  sourceInstance : Option ℕ
  sourceGeneration : ℕ
  targetOcs : String
  targetExpectedGeneration : ℕ
  payload : Payload V
  payloadHash : D
  predecessorOutputHash : D
  causationId : String
  correlationId : String
  traceId : String

structure CausalMissionReceipt (V D : Type) where
  messageId : String
  missionId : String
  targetOcs : String
  targetInstance : ℕ
  targetGeneration : ℕ
  declaredSpecialty : String
  transformation : String
  contributionKey : String
  inputPayloadHash : D
  outputPayloadHash : D
  outputPayload : Payload V
  causationId : String
  correlationId : String
  traceId : String
  accepted : Bool

/-- `SPECIALTY_CONTRIBUTION`. -/
def specialtyContribution : String → Option (String × String)
  | "NÓESIS" => some ("orchestration_frame", "mission_orchestration_framed")
  | "MÊTIS" => some ("strategic_hypothesis", "strategic_hypothesis_added")
  | "DÉDALA" => some ("architecture_review", "architecture_risk_reviewed")
  | "ÍRIS" => some ("human_interface_review", "human_interface_reviewed")
  | "LYRA" => some ("language_identity_review", "language_identity_reviewed")
  | "SOFIA" => some ("implementation_shape", "implementation_shape_defined")
  | "ÁGORA" => some ("technical_qualification", "technical_qualification_added")
  | "AURI" => some ("record_continuity", "record_continuity_added")
  | "SYNERGEIA" => some ("integration_coordination", "integration_coordination_added")
  | "TÊMIS" => some ("android_play_stewardship", "android_play_stewardship_added")
  | "SÝNESIS" => some ("independent_assurance", "independent_assurance_added")
  | _ => none

/-- What an OCS contributes. -/
def contributionOf (profiles : Profiles) (ocs : String) : Option Contribution :=
  match specialtyContribution ocs, profiles ocs with
  | some (transformation, contributionKey), some profile =>
    some ⟨transformation, profile.specialty, contributionKey⟩
  | _, _ => none

variable {V D : Type}

/-- The output for a contribution. -/
def Payload.contributed (payload : Payload V) (ocs : String) (contribution : Contribution) :
    Payload V :=
  { payload with
    contributions := payload.contributions.insert ocs contribution
    lastContributor := some ocs }

/-- `_transform`. -/
def transform (profiles : Profiles) (ocs : String) (payload : Payload V) :
    Except Failure (Contribution × Payload V) :=
  match specialtyContribution ocs with
  | none => .error (.permissionError "dr5a_unknown_ocs")
  | some (transformation, contributionKey) =>
    if ocs ∈ payload.contributions then
      .error (.permissionError "dr5a_duplicate_ocs_contribution")
    else
      match profiles ocs with
      | none => .error (.keyError ocs)
      | some profile =>
        let contribution := ⟨transformation, profile.specialty, contributionKey⟩
        .ok (contribution, payload.contributed ocs contribution)

/-- `mission_has_all_specialty_contributions`. -/
def missionHasAllSpecialtyContributions (profiles : Profiles) (payload : Payload V) : Bool :=
  (payload.contributions.keys.all fun ocs => missionOrder.contains ocs) &&
    missionOrder.all fun ocs =>
      match payload.contributions.lookup ocs with
      | none => false
      | some contribution =>
        some contribution.specialty = (profiles ocs).map (·.specialty) ∧
          some contribution.result = (specialtyContribution ocs).map (·.2)

/-- The command `process` in `_worker_main`. -/
def workerProcess [DecidableEq D] (hash : Payload V → D) (profiles : Profiles)
    (binding : InstanceBinding) (instanceId : ℕ) (envelope : CausalMissionEnvelope V D) :
    Except Failure (CausalMissionReceipt V D) :=
  if envelope.targetOcs ≠ binding.ocsId then
    .error (.permissionError "dr5a_target_mismatch")
  else if envelope.targetExpectedGeneration ≠ binding.generation then
    .error (.permissionError "dr5a_stale_generation")
  else if hash envelope.payload ≠ envelope.payloadHash then
    .error (.permissionError "dr5a_payload_hash_mismatch")
  else if envelope.predecessorOutputHash ≠ envelope.payloadHash then
    .error (.permissionError "dr5a_predecessor_hash_break")
  else
    match transform profiles binding.ocsId envelope.payload with
    | .error failure => .error failure
    | .ok (contribution, output) =>
      .ok
        { messageId := envelope.messageId
          missionId := envelope.missionId
          targetOcs := binding.ocsId
          targetInstance := instanceId
          targetGeneration := binding.generation
          declaredSpecialty := contribution.specialty
          transformation := contribution.transformation
          contributionKey := contribution.result
          inputPayloadHash := envelope.payloadHash
          outputPayloadHash := hash output
          outputPayload := output
          causationId := envelope.causationId
          correlationId := envelope.correlationId
          traceId := envelope.traceId
          accepted := true }

/-- What comes back from the process for an envelope: what `_worker_main` sends, or
anything else. -/
inductive ProcessAnswer (V D : Type) where
  | own
  | receipt (sent : CausalMissionReceipt V D)
  | childError (payload : String)
  | responseTimeout

/-- `f"{type(exc).__name__}:{exc}"`. -/
def Failure.described : Failure → String
  | .runtimeError text => "RuntimeError:" ++ text
  | .permissionError text => "PermissionError:" ++ text
  | .timeoutError text => "TimeoutError:" ++ text
  | .keyError key => "KeyError:'" ++ key ++ "'"
  | .valueError text => "ValueError:" ++ text

/-- The answer, if the process would send `own`. -/
def ProcessAnswer.settle (answer : ProcessAnswer V D)
    (own : Except Failure (CausalMissionReceipt V D)) : ProcessAnswer V D :=
  match answer with
  | .own =>
    match own with
    | .ok sent => .receipt sent
    | .error failure => .childError failure.described
  | other => other

/-! ## What a worker contributes -/

theorem transform_ok {profiles : Profiles} {ocs : String} {payload : Payload V}
    {contribution : Contribution} (h : contributionOf profiles ocs = some contribution)
    (hnew : ocs ∉ payload.contributions) :
    transform profiles ocs payload =
      .ok (contribution, payload.contributed ocs contribution) := by
  rw [contributionOf] at h
  rw [transform]
  cases hspecialty : specialtyContribution ocs with
  | none => simp [hspecialty] at h
  | some pair =>
    cases hprofile : profiles ocs with
    | none => simp [hspecialty, hprofile] at h
    | some profile =>
      simp only [hspecialty, hprofile, Option.some.injEq] at h
      rw [← h]
      simp only [if_neg hnew]

/-!
## Supervisors

What a supervisor has is a table of workers under the names of the OCS.  Workers are
numbered by the calls of their constructor.
-/

/-- The profiles, what the calls of `uuid4` return, and how the start and the stop of each
worker end. -/
structure Assignment where
  profiles : Profiles
  uuid : ℕ → String
  start : ℕ → Response
  stop : ℕ → Ending

/-- The workers and the calls of `uuid4` so far are counted. -/
structure Supervisor where
  workers : ℕ → Worker
  constructed : ℕ
  drawn : ℕ
  table : String → Option ℕ
  bindings : String → InstanceBinding
  fence : String → ℕ

abbrev Procedure (A : Type) := Script Supervisor Failure A

namespace Supervisor

def new (bindings : String → InstanceBinding) : Supervisor :=
  { workers := fun _ => Worker.declare (bindings "")
    constructed := 0
    drawn := 0
    table := fun _ => none
    bindings := bindings
    fence := fun ocs => (bindings ocs).generation }

/-- The workers of the table in the order of its keys: only `start` adds keys, in the
order of the class, and a key that is there keeps its place. -/
def entries (world : Supervisor) (order : List String) : List ℕ :=
  order.filterMap world.table

def setWorker (world : Supervisor) (worker : ℕ) (now : Worker) : Supervisor :=
  { world with workers := Function.update world.workers worker now }

/-! ## Calls to one worker -/

def callWorker (worker : ℕ) (call : Worker → Worker × Except Failure Unit) :
    Procedure Unit :=
  .act fun world =>
    (world.setWorker worker (call (world.workers worker)).1, (call (world.workers worker)).2)

def construct (assignment : Assignment) (kind : WorkerKind) (binding : InstanceBinding) :
    Procedure ℕ :=
  .act fun world =>
    match constructFailure assignment.profiles kind binding with
    | some failure => (world, .error failure)
    | none =>
      ({ world.setWorker world.constructed (Worker.declare binding) with
          constructed := world.constructed + 1 }, .ok world.constructed)

def startWorker (assignment : Assignment) (kind : WorkerKind) (worker : ℕ) : Procedure Unit :=
  callWorker worker (Worker.start kind (assignment.start worker))

def stopWorker (assignment : Assignment) (kind : WorkerKind) (worker : ℕ) : Procedure Unit :=
  callWorker worker (Worker.stop kind (assignment.stop worker))

def crashWorker (worker : ℕ) : Procedure Unit :=
  callWorker worker fun now => (now.crash, .ok ())

def commandWorker (kind : WorkerKind) (response : Response) (worker : ℕ) : Procedure Unit :=
  callWorker worker (Worker.command kind response)

/-! ## The table -/

/-- `self._workers[ocs_id]`. -/
def entry (ocs : String) : Procedure ℕ :=
  .act fun world =>
    match world.table ocs with
    | none => (world, .error (.keyError ocs))
    | some worker => (world, .ok worker)

def store (ocs : String) (worker : ℕ) : Procedure Unit :=
  .act fun world =>
    ({ world with table := Function.update world.table ocs (some worker) }, .ok ())

/-- `self._bindings[ocs_id] = …`. -/
def bindTo (ocs : String) (binding : InstanceBinding) : Procedure Unit :=
  .act fun world =>
    ({ world with bindings := Function.update world.bindings ocs binding }, .ok ())

/-- `uuid.uuid4()`. -/
def draw (assignment : Assignment) : Procedure String :=
  .act fun world => ({ world with drawn := world.drawn + 1 }, .ok (assignment.uuid world.drawn))

/-- A check that fails with the given error, if there is one. -/
def check : Option Failure → Procedure Unit
  | none => pure ()
  | some failure => .raise failure

/-! ## Loops -/

/-- The loop of `stop_all`. -/
def stopEach (stopOne : ℕ → Procedure Unit) : List ℕ → Procedure Unit
  | [] => pure ()
  | worker :: workers => do
      stopOne worker
      stopEach stopOne workers

end Supervisor

end ReisOs.DistributedRuntime
