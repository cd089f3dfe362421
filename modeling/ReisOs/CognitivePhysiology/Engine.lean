import Mathlib.Data.List.Sort
import Mathlib.Data.Rat.Floor
import ReisOs.CognitivePhysiology.Runtime

/-!
# The cycle of the cognitive engine

`UniversalCognitiveEngine.run_cycle` lets candidates compete, ingests all of them into the
workspace, broadcasts the winner, and then acts and observes.  The arithmetic of floats is
a parameter; callables are given by what they answer.
-/

namespace ReisOs.CognitivePhysiology

open ReisOs.Core

/-- The exceptions by their classes and messages, and those of callables. -/
inductive CycleError where
  | permission (message : String)
  | value (message : String)
  | runtime (message : String)
  | key
  | overflow
  | raised (message : String)
  deriving DecidableEq, Repr

/-- The arithmetic of floats; a quotient of integers can be too large for a float. -/
structure Floats (F : Type) where
  literal : ℚ → F
  ofInt : ℤ → F
  ratio : ℤ → ℤ → Except CycleError F
  add : F → F → F
  sub : F → F → F
  mul : F → F → F
  div : F → F → F
  min : F → F → F
  max : F → F → F
  le : F → F → Bool
  lt : F → F → Bool

inductive EpistemicGrade where
  | fact | hypothesis | prediction | actionProposal
  deriving DecidableEq, Repr

structure Candidate (F : Type) where
  candidateId : String
  sourceOcs : String
  content : String
  epistemicGrade : EpistemicGrade
  confidence : F
  uncertainty : F
  salience : F
  novelty : F
  risk : F
  evidenceRefs : List String
  ttlCycles : ℤ

/-- A dictionary of objects; `None` is an object like any other. -/
abbrev Objects (P : Type) := Dict String (Option P)

structure ExpectedOutcome (P : Type) where
  expectedObservation : Objects P
  expectedEffect : Objects P
  expectedStateDelta : Objects P
  expectedLatencyMs : Option ℤ
  expectedFailureModes : List String

structure ObservedOutcome (P : Type) where
  observation : Objects P
  effect : Objects P
  stateDelta : Objects P
  latencyMs : Option ℤ
  failureMode : Option String

structure PredictionResidual (F : Type) where
  semantic : F
  goal : F
  causal : F
  temporal : F
  calibration : F
  risk : F
  toolBehavior : F
  environment : F

structure NMState (F : Type) where
  salience : F
  novelty : F
  uncertainty : F
  confidence : F
  risk : F
  predictionError : F
  cognitiveLoad : F
  explorationDrive : F
  exploitationDrive : F
  urgency : F
  resourcePressure : F

structure CompetitionResult (F : Type) where
  winnerId : String
  rankedIds : List String
  scores : Dict String F

structure OperationalCommitContext where
  r6Clear : Bool
  authorityBound : Bool
  capabilityBound : Bool
  executionBudgetAvailable : Bool
  stateGenerationCurrent : Bool
  deriving DecidableEq, Repr

def OperationalCommitContext.allowed (context : OperationalCommitContext) : Bool :=
  context.r6Clear && context.authorityBound && context.capabilityBound &&
    context.executionBudgetAvailable && context.stateGenerationCurrent

inductive MemoryLevel where
  | m0 | m1 | m2 | m3
  deriving DecidableEq, Repr

/-- The payload of an episode, and the payloads that others put. -/
inductive MemoryPayload (F P : Type) where
  | episode (winnerId : String) (rankedIds : List String) (residual : PredictionResidual F)
      (effectExecuted : Bool)
  | other (payload : Objects P)

structure MemoryRecord (F P : Type) where
  recordId : String
  ocsId : String
  level : MemoryLevel
  generation : ℤ
  provenanceRef : String
  missionId : String
  payload : MemoryPayload F P

structure LocalMemoryStore (F P : Type) where
  ocsId : String
  records : MemoryLevel → Dict String (MemoryRecord F P)

/-- The engine with what a cycle reads and writes of its runtime. -/
structure Engine (F P V : Type) where
  runtime : Runtime (Candidate F) V
  ocsId : String
  maxCycles : ℕ
  maxCandidatesPerCycle : ℕ
  executedEffectIds : List String
  memory : LocalMemoryStore F P

/-- The arguments of `run_cycle`; `observe` and `action` are what the callables answer. -/
structure CycleRequest (F P : Type) where
  missionId : String
  candidates : List (Candidate F)
  expected : ExpectedOutcome P
  observe : Except CycleError (ObservedOutcome P)
  generation : ℤ
  actionEffectId : Option String
  action : Option (Except CycleError (Option P))
  commitContext : Option OperationalCommitContext
  provenanceRef : String

structure CognitiveCycleResult (F P : Type) where
  winner : Candidate F
  competition : CompetitionResult F
  effectResult : Option P
  residual : PredictionResidual F
  nmState : NMState F
  episodicRecord : MemoryRecord F P

/-- What comes of a cycle, and whether the action has been invoked. -/
structure CycleOutcome (F P : Type) where
  result : Except CycleError (CognitiveCycleResult F P)
  invoked : Bool

variable {F V P : Type}

/-! ## Competition -/

def Floats.inUnit (floats : Floats F) (value : F) : Bool :=
  floats.le (floats.literal 0) value && floats.le value (floats.literal 1)

/-- `Candidate.validate`. -/
def Candidate.validate (floats : Floats F) (candidate : Candidate F) :
    Except CycleError Unit := do
  if candidate.candidateId = "" ∨ candidate.sourceOcs = "" then
    throw (.value "candidate_identity_required")
  if candidate.ttlCycles ≤ 0 then throw (.value "candidate_ttl_required")
  for field in
      [("confidence", candidate.confidence), ("uncertainty", candidate.uncertainty),
        ("salience", candidate.salience), ("novelty", candidate.novelty),
        ("risk", candidate.risk)] do
    if ¬ floats.inUnit field.2 then
      throw (.value ("candidate_field_out_of_range:" ++ field.1))

/-- The sum that `score` returns. -/
def Candidate.weigh (floats : Floats F) (candidate : Candidate F) : F :=
  let evidenceBonus := floats.mul (floats.ofInt (min candidate.evidenceRefs.length 3))
    (floats.literal (1 / 20))
  floats.sub
    (floats.add
      (floats.add
        (floats.add
          (floats.add (floats.mul (floats.literal (1 / 4)) candidate.salience)
            (floats.mul (floats.literal (1 / 5)) candidate.novelty))
          (floats.mul (floats.literal (1 / 5)) candidate.confidence))
        (floats.mul (floats.literal (3 / 20))
          (floats.sub (floats.literal 1) candidate.uncertainty)))
      evidenceBonus)
    (floats.mul (floats.literal (1 / 4)) candidate.risk)

def score (floats : Floats F) (candidate : Candidate F) : Except CycleError F := do
  candidate.validate floats
  return candidate.weigh floats

/-- The dictionary of scores; of two candidates with one id the last one counts. -/
def scoresOf (floats : Floats F) : Dict String F → List (Candidate F) →
    Except CycleError (Dict String F)
  | scores, [] => .ok scores
  | scores, candidate :: rest => do
      let value ← score floats candidate
      scoresOf floats (scores.insert candidate.candidateId value) rest

/-- The order of `(-score, candidate_id)`. -/
def ranksBefore (floats : Floats F) (left right : String × F) : Prop :=
  floats.lt right.2 left.2 = true ∨ (floats.lt left.2 right.2 = false ∧ left.1 ≤ right.1)

instance (floats : Floats F) : DecidableRel (ranksBefore floats) := fun _ _ => instDecidableOr

def rank (floats : Floats F) (scores : Dict String F) : List String :=
  ((scores.entries.map fun entry => (entry.1, entry.2)).insertionSort
    (ranksBefore floats)).map Prod.fst

/-- The result of a competition; the winner is the first one. -/
def resultOf (scores : Dict String F) : List String → Except CycleError (CompetitionResult F)
  | [] => .error .key
  | winnerId :: others => .ok ⟨winnerId, winnerId :: others, scores⟩

def compete (floats : Floats F) (candidates : List (Candidate F)) :
    Except CycleError (CompetitionResult F) := do
  if candidates = [] then throw (.value "competition_requires_candidates")
  let scores ← scoresOf floats ∅ candidates
  resultOf scores (rank floats scores)

/-! ## Prediction -/

/-- `mismatch`; `get` finds nothing and `None` alike. -/
def mismatch [DecidableEq P] (floats : Floats F) (left right : Objects P) :
    Except CycleError F :=
  let keys := (left.keys ++ right.keys).dedup
  if keys = [] then .ok (floats.literal 0)
  else floats.ratio (keys.countP fun key => (left.lookup key).join ≠ (right.lookup key).join)
    keys.length

def temporal (floats : Floats F) (expected observed : Option ℤ) : Except CycleError F :=
  match expected, observed with
  | some expected, some observed => do
      let ratio ← floats.ratio |observed - expected| (max expected 1)
      return floats.min ratio (floats.literal 1)
  | _, _ => .ok (floats.literal 0)

def compare [DecidableEq P] (floats : Floats F) (expected : ExpectedOutcome P)
    (observed : ObservedOutcome P) : Except CycleError (PredictionResidual F) := do
  let temporal ← temporal floats expected.expectedLatencyMs observed.latencyMs
  let unexpectedFailure := observed.failureMode.any fun mode =>
    decide (mode ∉ expected.expectedFailureModes)
  return {
    semantic := ← mismatch floats expected.expectedObservation observed.observation
    goal := ← mismatch floats expected.expectedEffect observed.effect
    causal := ← mismatch floats expected.expectedStateDelta observed.stateDelta
    temporal
    calibration := floats.literal 0
    risk := if unexpectedFailure then floats.literal 1 else floats.literal 0
    toolBehavior := ← mismatch floats expected.expectedEffect observed.effect
    environment := ← mismatch floats expected.expectedObservation observed.observation }

def PredictionResidual.values (residual : PredictionResidual F) : List F :=
  [residual.semantic, residual.goal, residual.causal, residual.temporal, residual.calibration,
    residual.risk, residual.toolBehavior, residual.environment]

/-- `NMState.validate`. -/
def NMState.validate (floats : Floats F) (state : NMState F) : Except CycleError Unit := do
  for field in
      [("salience", state.salience), ("novelty", state.novelty),
        ("uncertainty", state.uncertainty), ("confidence", state.confidence),
        ("risk", state.risk), ("prediction_error", state.predictionError),
        ("cognitive_load", state.cognitiveLoad),
        ("exploration_drive", state.explorationDrive),
        ("exploitation_drive", state.exploitationDrive), ("urgency", state.urgency),
        ("resource_pressure", state.resourcePressure)] do
    if ¬ floats.inUnit field.2 then throw (.value ("nm_field_out_of_range:" ++ field.1))

def modulate (floats : Floats F) (winner : Candidate F) (residual : PredictionResidual F) :
    Except CycleError (NMState F) := do
  let residualMean := floats.div
    (residual.values.foldl floats.add (floats.ofInt 0)) (floats.ofInt residual.values.length)
  let half := floats.literal (1 / 2)
  let state : NMState F :=
    { salience := winner.salience
      novelty := winner.novelty
      uncertainty := winner.uncertainty
      confidence := winner.confidence
      risk := floats.max winner.risk residual.risk
      predictionError := floats.min (floats.max residualMean (floats.literal 0))
        (floats.literal 1)
      cognitiveLoad := floats.min (floats.add half (floats.mul winner.uncertainty half))
        (floats.literal 1)
      explorationDrive := winner.novelty
      exploitationDrive := winner.confidence
      urgency := floats.max winner.salience winner.risk
      resourcePressure := floats.literal 0 }
  state.validate floats
  return state

/-! ## Memory -/

/-- `MemoryRecord.validate`. -/
def MemoryRecord.validate (record : MemoryRecord F P) : Except CycleError Unit :=
  if record.recordId = "" ∨ record.ocsId = "" ∨ record.provenanceRef = "" ∨
      record.missionId = "" then
    .error (.value "memory_record_identity_and_provenance_required")
  else if record.generation < 0 then
    .error (.value "memory_generation_must_be_non_negative")
  else .ok ()

/-- `put`. -/
def LocalMemoryStore.put (memory : LocalMemoryStore F P) (record : MemoryRecord F P) :
    Except CycleError (LocalMemoryStore F P) := do
  record.validate
  if record.ocsId ≠ memory.ocsId then
    throw (.permission "cross_ocs_memory_write_denied")
  return { memory with
    records := Function.update memory.records record.level
      ((memory.records record.level).insert record.recordId record) }

/-! ## The runtime -/

/-- `add_candidate` of a candidate that is valid. -/
def Engine.addCandidate (engine : Engine F P V) (candidate : Candidate F) : Engine F P V :=
  let workspace := engine.runtime.workspace
  { engine with runtime := { engine.runtime with workspace := { workspace with
      candidates := workspace.candidates.insert candidate.candidateId candidate } } }

/-- `broadcast` of a candidate that is there. -/
def Engine.broadcast (engine : Engine F P V) (candidateId : String) : Engine F P V :=
  let workspace := engine.runtime.workspace
  if candidateId ∈ workspace.broadcastIds then engine
  else
    { engine with runtime := { engine.runtime with workspace := { workspace with
        broadcastIds := workspace.broadcastIds ++ [candidateId] } } }

/-- `assert_generation`. -/
def Engine.assertGeneration (engine : Engine F P V) (generation : ℤ) : Except CycleError Unit :=
  if generation ≠ engine.runtime.generation then
    .error (.permission "stale_generation_writer")
  else .ok ()

/-- `reserve_cycle`. -/
def Engine.reserveCycle (engine : Engine F P V) (generation : ℤ) (candidateCount : ℕ) :
    Except CycleError (Engine F P V) := do
  engine.assertGeneration generation
  if candidateCount ≤ 0 then throw (.value "cognitive_cycle_requires_candidates")
  if candidateCount > engine.maxCandidatesPerCycle then
    throw (.runtime "candidate_budget_exhausted")
  if engine.runtime.cycles ≥ engine.maxCycles then
    throw (.runtime "cognitive_cycle_budget_exhausted")
  return { engine with runtime := { engine.runtime with cycles := engine.runtime.cycles + 1 } }

/-- `ingest_candidate`. -/
def Engine.ingestCandidate (floats : Floats F) (engine : Engine F P V)
    (candidate : Candidate F) (generation : ℤ) : Except CycleError (Engine F P V) := do
  engine.assertGeneration generation
  if candidate.sourceOcs ≠ engine.ocsId then
    throw (.permission "foreign_candidate_requires_explicit_handoff")
  candidate.validate floats
  return engine.addCandidate candidate

/-- The loop over the candidates; those before the one that is refused are in the workspace. -/
def Engine.ingestAll (floats : Floats F) (generation : ℤ) :
    Engine F P V → List (Candidate F) → Engine F P V × Except CycleError Unit
  | engine, [] => (engine, .ok ())
  | engine, candidate :: rest =>
    match engine.ingestCandidate floats candidate generation with
    | .error error => (engine, .error error)
    | .ok next => next.ingestAll floats generation rest

/-- `cognitive_ignition`. -/
def Engine.cognitiveIgnition (engine : Engine F P V) (candidateId : String)
    (generation : ℤ) : Except CycleError (Engine F P V) := do
  engine.assertGeneration generation
  if (engine.runtime.workspace.candidates.lookup candidateId).isNone then throw .key
  return engine.broadcast candidateId

/-- `operational_commit`, and whether it has called the effect. -/
def Engine.operationalCommit (engine : Engine F P V) (effectId : String)
    (context : OperationalCommitContext) (generation : ℤ)
    (effect : Except CycleError (Option P)) :
    Engine F P V × Except CycleError (Option P) × Bool :=
  match engine.assertGeneration generation with
  | .error error => (engine, .error error, false)
  | .ok () =>
    if ¬ context.allowed then
      (engine, .error (.permission "operational_commit_denied"), false)
    else if effectId ∈ engine.executedEffectIds then
      (engine, .error (.permission "duplicate_effect_denied"), false)
    else
      match effect with
      | .error error => (engine, .error error, true)
      | .ok result =>
        ({ engine with executedEffectIds := effectId :: engine.executedEffectIds },
          .ok result, true)

/-! ## A cycle -/

/-- The candidate of an identifier; of several the last one. -/
def lastOf (candidates : List (Candidate F)) (candidateId : String) : Option (Candidate F) :=
  candidates.reverse.find? fun candidate => candidate.candidateId = candidateId

def Engine.episode (engine : Engine F P V) (request : CycleRequest F P) (winner : Candidate F)
    (competition : CompetitionResult F) (residual : PredictionResidual F) :
    MemoryRecord F P where
  recordId := "episode:" ++ request.missionId ++ ":" ++ winner.candidateId ++ ":" ++
    toString request.generation
  ocsId := engine.ocsId
  level := .m2
  generation := request.generation
  provenanceRef := request.provenanceRef
  missionId := request.missionId
  payload := .episode winner.candidateId competition.rankedIds residual request.action.isSome

variable [DecidableEq P]

/-- What follows the action: the observation, the modulation, and the episode. -/
def Engine.conclude (floats : Floats F) (engine : Engine F P V) (request : CycleRequest F P)
    (winner : Candidate F) (competition : CompetitionResult F) (effectResult : Option P) :
    Except CycleError (Engine F P V × CognitiveCycleResult F P) := do
  let observed ← request.observe
  let residual ← compare floats request.expected observed
  let nmState ← modulate floats winner residual
  let episodicRecord := engine.episode request winner competition residual
  let memory ← engine.memory.put episodicRecord
  return ({ engine with memory },
    { winner, competition, effectResult, residual, nmState, episodicRecord })

/-- A cycle from the action on. -/
def Engine.act (floats : Floats F) (engine : Engine F P V) (request : CycleRequest F P)
    (winner : Candidate F) (competition : CompetitionResult F) :
    Engine F P V × CycleOutcome F P :=
  match request.action with
  | none =>
    match engine.conclude floats request winner competition none with
    | .error error => (engine, ⟨.error error, false⟩)
    | .ok (after, result) => (after, ⟨.ok result, false⟩)
  | some action =>
    match request.actionEffectId, request.commitContext with
    | some effectId, some context =>
      match engine.operationalCommit effectId context request.generation action with
      | (after, .error error, invoked) => (after, ⟨.error error, invoked⟩)
      | (after, .ok effectResult, invoked) =>
        match after.conclude floats request winner competition effectResult with
        | .error error => (after, ⟨.error error, invoked⟩)
        | .ok (final, result) => (final, ⟨.ok result, invoked⟩)
    | _, _ =>
      (engine,
        ⟨.error (.permission "material_action_requires_explicit_operational_commit"),
          false⟩)

/-- `run_cycle`. -/
def Engine.runCycle (floats : Floats F) (engine : Engine F P V) (request : CycleRequest F P) :
    Engine F P V × CycleOutcome F P :=
  match compete floats request.candidates with
  | .error error => (engine, ⟨.error error, false⟩)
  | .ok competition =>
    match engine.reserveCycle request.generation request.candidates.length with
    | .error error => (engine, ⟨.error error, false⟩)
    | .ok reserved =>
      match lastOf request.candidates competition.winnerId with
      | none => (reserved, ⟨.error .key, false⟩)
      | some winner =>
        match reserved.ingestAll floats request.generation request.candidates with
        | (ingested, .error error) => (ingested, ⟨.error error, false⟩)
        | (ingested, .ok ()) =>
          match ingested.cognitiveIgnition winner.candidateId request.generation with
          | .error error => (ingested, ⟨.error error, false⟩)
          | .ok ignited => ignited.act floats request winner competition

end ReisOs.CognitivePhysiology
