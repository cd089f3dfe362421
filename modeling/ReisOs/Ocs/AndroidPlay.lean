import Mathlib.Data.Rat.Floor
import Mathlib.Data.List.Sort
import Mathlib.Logic.Function.Basic
import ReisOs.Core.Runs

/-!
# The Android Play runtime

`AndroidPlayOCS`: a recurrent cycle over a cognitive state and a memory, consolidation,
snapshots and restores.  The memory and the evidence are mutable objects: `snapshot` makes
new ones, and `restore` takes those of the snapshot without copying them, so that the live
runtime and a snapshot may hold the same ones.
-/

namespace ReisOs.Ocs

open ReisOs.Core

inductive CognitiveMode where
  | fast | deliberative | recovery | consolidation
  deriving DecidableEq, Repr

inductive EventType where
  | sense | model | predict | compare | modulate | compete | gate | broadcast
  | specialistProcess | update | learnCandidate | consolidate | homeostasis | recover
  deriving DecidableEq, Repr

/-- A `dict[str, Any]` that the caller passes. -/
abbrev Fields (Value : Type) := List (String × Value)

structure EvidenceRecord where
  evidenceId : String
  sourceUrl : String
  sourceKind : String
  retrievedAt : ℤ
  effectiveFrom : Option ℤ
  expiresAt : Option ℤ
  contentHash : String
  claim : String
  deriving DecidableEq, Repr

structure Episode (Value : Type) where
  sequence : ℕ
  input : Fields Value
  prediction : Fields Value
  winner : Option (Fields Value)
  predictionError : ℚ

structure MemoryModel (Value : Type) where
  working : String → Option (Option (Fields Value)) := fun _ => none
  episodic : List (Episode Value) := []
  semantic : String → Option (Fields Value) := fun _ => none
  procedural : String → Option Value := fun _ => none

structure CognitiveState (Value : Type) where
  missionId : String
  mode : CognitiveMode := .fast
  goal : String := ""
  expectedState : Fields Value := []
  observedState : Fields Value := []
  predictionError : ℚ := 0
  salience : ℚ := 0
  novelty : ℚ := 0
  uncertainty : ℚ := 0
  confidence : ℚ := 1
  risk : ℚ := 0
  cognitiveLoad : ℚ := 0
  generation : ℕ := 1
  sequence : ℕ := 0

/-- The memory and the evidence of a runtime or of a snapshot, which are always taken and
restored together. -/
structure Objects (Value : Type) where
  memory : MemoryModel Value := {}
  evidence : String → Option EvidenceRecord := fun _ => none

/-- `RuntimeSnapshot`, with a reference to its objects. -/
structure RuntimeSnapshot (Value : Type) where
  state : CognitiveState Value
  objects : ℕ

structure RuntimeEvent where
  eventType : EventType
  sequence : ℕ
  generation : ℕ
  deriving DecidableEq, Repr

/-- A runtime and the snapshots that were taken of it, over the objects allocated so far. -/
structure AndroidPlayOCS (Value : Type) where
  state : CognitiveState Value
  objects : ℕ
  telemetry : List RuntimeEvent
  snapshots : List (RuntimeSnapshot Value)
  heap : ℕ → Objects Value
  allocated : ℕ

/-- What `float` and `dict` make of a value, where they do not raise, and the digest of
a content. -/
structure Library (Value : Type) where
  float : Value → Option ℚ
  dict : Value → Option (Fields Value)
  sha256 : String → String

structure Registration where
  evidenceId : String
  sourceUrl : String
  sourceKind : String
  claim : String
  rawContent : String
  effectiveFrom : Option ℤ
  expiresAt : Option ℤ
  retrievedAt : ℤ

inductive Call (Value : Type) where
  | registerEvidence (registration : Registration)
  | recurrentCycle (sensoryInput prediction : Fields Value) (candidates : List (Fields Value))
      (authorized : Bool)
  | consolidate
  | snapshot
  | restore (index : ℕ)

variable {Value : Type}

namespace AndroidPlayOCS

/-- A runtime for a mission id that is not blank. -/
def initial (missionId : String) : AndroidPlayOCS Value where
  state := { missionId := missionId }
  objects := 0
  telemetry := []
  snapshots := []
  heap := fun _ => {}
  allocated := 1

variable (ocs : AndroidPlayOCS Value)

def live : Objects Value := ocs.heap ocs.objects

/-- `_emit`. -/
def emit (eventType : EventType) : AndroidPlayOCS Value :=
  { ocs with
    state := { ocs.state with sequence := ocs.state.sequence + 1 }
    telemetry := ocs.telemetry ++
      [⟨eventType, ocs.state.sequence + 1, ocs.state.generation⟩] }

/-- A mutation of the live objects. -/
def mutate (change : Objects Value → Objects Value) : AndroidPlayOCS Value :=
  { ocs with heap := Function.update ocs.heap ocs.objects (change ocs.live) }

def setState (change : CognitiveState Value → CognitiveState Value) : AndroidPlayOCS Value :=
  { ocs with state := change ocs.state }

/-! ## Evidence -/

end AndroidPlayOCS

def Registration.accepted (registration : Registration) : Bool :=
  registration.evidenceId ≠ "" && "https://".toList.isPrefixOf registration.sourceUrl.toList &&
    (registration.sourceKind = "ANDROID_OFFICIAL" ||
      registration.sourceKind = "GOOGLE_PLAY_OFFICIAL")

def Registration.record (library : Library Value) (registration : Registration) :
    EvidenceRecord where
  evidenceId := registration.evidenceId
  sourceUrl := registration.sourceUrl
  sourceKind := registration.sourceKind
  retrievedAt := registration.retrievedAt
  effectiveFrom := registration.effectiveFrom
  expiresAt := registration.expiresAt
  contentHash := library.sha256 registration.rawContent
  claim := registration.claim

def Objects.setEvidence (objects : Objects Value) (evidenceId : String)
    (record : EvidenceRecord) : Objects Value :=
  { objects with evidence := Function.update objects.evidence evidenceId (some record) }

def Objects.setWorking (objects : Objects Value) (key : String)
    (value : Option (Fields Value)) : Objects Value :=
  { objects with
    memory :=
      { objects.memory with
        working := Function.update objects.memory.working key (some value) } }

def Objects.appendEpisode (objects : Objects Value) (episode : Episode Value) : Objects Value :=
  { objects with
    memory := { objects.memory with episodic := objects.memory.episodic ++ [episode] } }

namespace AndroidPlayOCS

variable (library : Library Value) (ocs : AndroidPlayOCS Value)

def registerEvidence (registration : Registration) : AndroidPlayOCS Value :=
  if registration.accepted then
    (ocs.mutate fun objects =>
      objects.setEvidence registration.evidenceId (registration.record library)).emit .update
  else ocs

/-! ## The recurrent cycle -/

/-- `schedule_mode`. -/
def scheduleMode : AndroidPlayOCS Value :=
  (ocs.setState fun state =>
    { state with
      mode :=
        if 7 / 10 ≤ state.risk ∨ 1 / 2 ≤ state.uncertainty then .deliberative
        else if 9 / 10 ≤ state.cognitiveLoad then .recovery
        else .fast }).emit .gate

/-- The share of the keys at which two dictionaries differ. -/
def predictionErrorOf [DecidableEq Value] (expected observed : Fields Value) : ℚ :=
  let keys := (expected.map Prod.fst ++ observed.map Prod.fst).dedup
  if keys.isEmpty then 0
  else (keys.countP fun key => expected.lookup key ≠ observed.lookup key : ℕ) / keys.length

/-- `compare_prediction`. -/
def comparePrediction [DecidableEq Value] (observed : Fields Value) : AndroidPlayOCS Value :=
  (ocs.setState fun state =>
    let error := predictionErrorOf state.expectedState observed
    { state with
      observedState := observed
      predictionError := error
      confidence := max 0 (min 1 (1 - error)) }).emit .compare

/-- `float(fields.get(key, 0.0))`. -/
def gauge (fields : Fields Value) (key : String) : Option ℚ :=
  match fields.lookup key with
  | none => some 0
  | some value => library.float value

/-- The four assignments from the sensory input, up to the one that raises. -/
def setGauges (input : Fields Value) (state : CognitiveState Value) :
    CognitiveState Value × Bool :=
  match gauge library input "novelty" with
  | none => (state, false)
  | some novelty =>
    match gauge library input "uncertainty" with
    | none => ({ state with novelty := novelty }, false)
    | some uncertainty =>
      match gauge library input "risk" with
      | none => ({ state with novelty := novelty, uncertainty := uncertainty }, false)
      | some risk =>
        match gauge library input "cognitive_load" with
        | none =>
          ({ state with novelty := novelty, uncertainty := uncertainty, risk := risk },
            false)
        | some cognitiveLoad =>
          ({ state with
              novelty := novelty
              uncertainty := uncertainty
              risk := risk
              cognitiveLoad := cognitiveLoad
              salience := max (max novelty uncertainty) risk }, true)

def score (candidate : Fields Value) : Option ℚ := do
  let goalRelevance ← gauge library candidate "goal_relevance"
  let evidenceStrength ← gauge library candidate "evidence_strength"
  let salience ← gauge library candidate "salience"
  let expectedValue ← gauge library candidate "expected_value"
  let risk ← gauge library candidate "risk"
  let cost ← gauge library candidate "cost"
  return goalRelevance + evidenceStrength + salience + expectedValue - risk - cost

/-- The candidates by descending score; equal ones stay in their order. -/
def ranked (candidates : List (Fields Value)) : Option (List (Fields Value)) :=
  (candidates.mapM fun candidate =>
    (score library candidate).map fun score => (candidate, score)).map fun scored =>
      (scored.insertionSort fun one other => other.2 ≤ one.2).map Prod.fst

/-- The part of the cycle after the observation. -/
def learn [DecidableEq Value] (input prediction : Fields Value)
    (winner : Option (Fields Value)) (observed : Fields Value) : AndroidPlayOCS Value :=
  let ocs := (ocs.comparePrediction observed).emit .update
  let ocs := ocs.mutate fun objects =>
    objects.appendEpisode
      { sequence := ocs.state.sequence
        input := input
        prediction := prediction
        winner := winner
        predictionError := ocs.state.predictionError }
  (ocs.emit .learnCandidate).emit .homeostasis

/-- The part of the cycle from the competition on. -/
def compete [DecidableEq Value] (input prediction : Fields Value)
    (candidates : List (Fields Value)) : AndroidPlayOCS Value :=
  match ranked library candidates with
  | none => ocs
  | some ranked =>
    let ocs := (ocs.emit .compete).mutate fun objects =>
      objects.setWorking "workspace_winner" ranked.head?
    let ocs := (ocs.emit .broadcast).emit .specialistProcess
    match (match input.lookup "observed_state" with
      | none => some []
      | some value => library.dict value) with
    | none => ocs
    | some observed => ocs.learn input prediction ranked.head? observed

/-- The part of the cycle before the gauges. -/
def anticipate (input prediction : Fields Value) : AndroidPlayOCS Value :=
  let ocs := (ocs.emit .sense).mutate fun objects =>
    objects.setWorking "sensory_input" (some input)
  ((ocs.emit .model).setState fun state =>
    { state with expectedState := prediction }).emit .predict

/-- `recurrent_cycle`; a call that raises leaves what it has done so far. -/
def recurrentCycle [DecidableEq Value] (input prediction : Fields Value)
    (candidates : List (Fields Value)) (authorized : Bool) : AndroidPlayOCS Value :=
  if ¬ authorized then ocs
  else
    let ocs := ocs.anticipate input prediction
    let gauged := setGauges library input ocs.state
    let ocs := ocs.setState fun _ => gauged.1
    if ¬ gauged.2 then ocs
    else (ocs.emit .modulate).scheduleMode.compete library input prediction candidates

/-! ## Consolidation -/

/-- The winners of the episodes without a prediction error. -/
def winners (episodic : List (Episode Value)) : List (Fields Value) :=
  episodic.filterMap fun episode =>
    if episode.predictionError = 0 then episode.winner else none

def patternKey (index : ℕ) : String := "pattern:" ++ toString index

def promote (semantic : String → Option (Fields Value)) (winners : List (Fields Value)) :
    String → Option (Fields Value) :=
  winners.zipIdx.foldl
    (fun semantic entry => Function.update semantic (patternKey entry.2) (some entry.1)) semantic

def consolidate : AndroidPlayOCS Value :=
  ((ocs.setState fun state => { state with mode := .consolidation }).mutate fun objects =>
    { objects with
      memory :=
        { objects.memory with
          semantic := promote objects.memory.semantic (winners objects.memory.episodic) } }).emit
    .consolidate

/-! ## Snapshots -/

/-- `snapshot`, whose copies are new objects. -/
def snapshot : AndroidPlayOCS Value :=
  { ocs with
    snapshots := ocs.snapshots ++ [⟨ocs.state, ocs.allocated⟩]
    heap := Function.update ocs.heap ocs.allocated ocs.live
    allocated := ocs.allocated + 1 }

/-- `restore`, which takes the objects of the snapshot themselves. -/
def restore (snapshot : RuntimeSnapshot Value) : AndroidPlayOCS Value :=
  if snapshot.state.missionId ≠ ocs.state.missionId then ocs
  else
    { ocs with
      state :=
        { snapshot.state with
          generation := max ocs.state.generation snapshot.state.generation + 1 }
      objects := snapshot.objects : AndroidPlayOCS Value }.emit .recover

def exec [DecidableEq Value] (library : Library Value) (ocs : AndroidPlayOCS Value) :
    Call Value → AndroidPlayOCS Value
  | .registerEvidence registration => ocs.registerEvidence library registration
  | .recurrentCycle input prediction candidates authorized =>
    ocs.recurrentCycle library input prediction candidates authorized
  | .consolidate => ocs.consolidate
  | .snapshot => ocs.snapshot
  | .restore index =>
    match ocs.snapshots[index]? with
    | none => ocs
    | some snapshot => ocs.restore snapshot

end AndroidPlayOCS

/-- The runtime of a mission after some calls. -/
def runtime [DecidableEq Value] (library : Library Value) (missionId : String)
    (calls : List (Call Value)) : AndroidPlayOCS Value :=
  run (AndroidPlayOCS.exec library) (AndroidPlayOCS.initial missionId) calls

end ReisOs.Ocs
