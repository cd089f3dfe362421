import Mathlib.Data.Rat.Defs
import ReisOs.RecursiveRuntime.ContinuousExecutor

/-!
# The trial of a candidate

`AutopoiesisEvolutionRuntime.run_trial`: cycles of convergence and assurance, within a budget
of recursions.  The assurance of a layer is that of its last result, and nobody looks at the
candidate that a result is about; the trials whose qualification is sound are stated exactly.
-/

namespace ReisOs.RecursiveRuntime.Evolution

open ReisOs.RecursiveRuntime.Executor (GateDisposition)

inductive ReconciliationStatus where
  | matched | stale | diverged | unknown
  deriving DecidableEq, Repr

inductive Reversibility where
  | reversible | compensatable | irreversible | unknown
  deriving DecidableEq, Repr

structure SelfModelSnapshot where
  observedAt : ℚ
  maxStaleness : ℚ
  reconciliationStatus : ReconciliationStatus
  deriving DecidableEq, Repr

/-- `EvolutionWorkspace`, with the check of its `__post_init__`. -/
structure EvolutionWorkspace where
  canonicalVersion : String
  candidateVersion : String
  differ : canonicalVersion ≠ candidateVersion

structure AssuranceResult where
  layer : String
  status : String
  evidenceRefs : List String
  unresolvedHighCritical : Bool
  targetCandidateId : String
  independentTargetAccess : Bool
  deriving DecidableEq, Repr

structure GateContext where
  authorityKnown : Bool := true
  constitutionalBoundary : Bool := false
  identityChange : Bool := false
  newOrganismClass : Bool := false
  reversibility : Reversibility := .reversible
  costBreach : Bool := false
  requiredEvidenceImpossible : Bool := false
  assuranceDeadlock : Bool := false
  credentialProvisioningRequired : Bool := false
  normalImplementationDefect : Bool := false
  evidenceComplete : Bool := true
  converged : Bool := false

structure ConvergenceInput where
  benefitScore : ℚ
  regressionPenalty : ℚ
  changeSurfacePenalty : ℚ
  uncertaintyPenalty : ℚ
  recursionDepth : ℤ
  maxRecursionDepth : ℤ
  failedIterations : ℤ
  maxFailedIterations : ℤ
  authorityBoundaryPreserved : Bool
  blockingAssurance : Bool
  exceptionInterrupt : Bool
  deriving DecidableEq, Repr

structure ConvergenceEngine where
  minExpectedGain : ℚ
  convergenceThreshold : ℚ

structure EvolutionTrialResult where
  missionId : String
  state : String
  cycles : ℕ
  canonicalVersion : String
  candidateVersion : String
  gate : GateDisposition
  recommendation : String
  deriving DecidableEq, Repr

/-! ## Gates -/

/-- `SelfModelGate.evaluate`. -/
def evaluateSelfModel (snapshot : SelfModelSnapshot) (now : ℚ) (authorityKnown : Bool) :
    GateDisposition :=
  if ¬ authorityKnown ∨ snapshot.reconciliationStatus = .unknown then .failClosed
  else if now - snapshot.observedAt > snapshot.maxStaleness then .hold
  else if snapshot.reconciliationStatus = .stale ∨ snapshot.reconciliationStatus = .diverged then
    .hold
  else .continue

def EvolutionWorkspace.assertMutationTarget (workspace : EvolutionWorkspace)
    (targetVersion : String) : Except String Unit :=
  if targetVersion = workspace.canonicalVersion then .error "CANONICAL_MUTATION_FORBIDDEN"
  else if targetVersion ≠ workspace.candidateVersion then .error "UNKNOWN_CANDIDATE_TARGET"
  else .ok ()

/-- `REQUIRED_LAYERS`. -/
def requiredLayers : List String := ["AGORA", "DEDALA", "SYNESIS"]

/-- The entry of `by_layer`: the last result of the layer. -/
def byLayer (results : List AssuranceResult) (layer : String) : Option AssuranceResult :=
  results.reverse.find? fun result => result.layer = layer

def passes (result : AssuranceResult) : Bool :=
  result.status = "PASS" || result.status = "PASS_WITH_RESERVATIONS"

/-- The part of `evaluate` that looks at the layers. -/
def evaluateLayers (results : List AssuranceResult) (converged : Bool) : GateDisposition :=
  if requiredLayers.any fun layer => (byLayer results layer).isNone then .hold
  else if (byLayer results "SYNESIS").any fun synesis =>
      ¬ synesis.independentTargetAccess || synesis.evidenceRefs.isEmpty then .hold
  else if requiredLayers.any fun layer =>
      (byLayer results layer).any fun result => ¬ passes result then .repair
  else if converged then .converge
  else .continue

/-- `AssuranceGateEngine.evaluate`. -/
def evaluateAssurance (results : List AssuranceResult) (context : GateContext) :
    GateDisposition :=
  if ¬ context.authorityKnown then .failClosed
  else if context.constitutionalBoundary then .escalate
  else if context.identityChange then .escalate
  else if context.newOrganismClass then .escalate
  else if context.reversibility = .irreversible ∨ context.reversibility = .unknown then .hold
  else if context.costBreach then .hold
  else if results.any (·.unresolvedHighCritical) then .hold
  else if context.requiredEvidenceImpossible then .escalate
  else if context.assuranceDeadlock then .escalate
  else if context.credentialProvisioningRequired then .escalate
  else if context.normalImplementationDefect then .repair
  else if ¬ context.evidenceComplete then .hold
  else evaluateLayers results context.converged

def score (input : ConvergenceInput) : ℚ :=
  input.benefitScore - input.regressionPenalty - input.changeSurfacePenalty -
    input.uncertaintyPenalty

/-- `ConvergenceEngine.decide`. -/
def ConvergenceEngine.decide (engine : ConvergenceEngine) (input : ConvergenceInput) :
    GateDisposition :=
  if ¬ input.authorityBoundaryPreserved then .escalate
  else if input.blockingAssurance ∨ input.exceptionInterrupt then .hold
  else if input.recursionDepth ≥ input.maxRecursionDepth ∨
      input.failedIterations ≥ input.maxFailedIterations then .hold
  else if score input ≥ engine.convergenceThreshold then .converge
  else if score input ≥ engine.minExpectedGain then .recurse
  else .hold

/-! ## The trial -/

/-- The arguments of `run_trial`.  The iterator of the inputs may never end, and the factory
may raise. -/
structure Trial where
  convergence : ConvergenceEngine
  missionId : String
  workspace : EvolutionWorkspace
  model : SelfModelSnapshot
  now : ℚ
  maxRecursions : ℤ
  cycleInputs : ℕ → Option ConvergenceInput
  assuranceFactory : ℕ → Except String (List AssuranceResult)

namespace Trial

variable (trial : Trial)

def held (cycles : ℕ) (gate : GateDisposition) : EvolutionTrialResult where
  missionId := trial.missionId
  state := "HOLD"
  cycles := cycles
  canonicalVersion := trial.workspace.canonicalVersion
  candidateVersion := trial.workspace.candidateVersion
  gate := gate
  recommendation := "RETURN_FOR_REWORK"

def qualified (cycles : ℕ) : EvolutionTrialResult where
  missionId := trial.missionId
  state := "QUALIFIED"
  cycles := cycles
  canonicalVersion := trial.workspace.canonicalVersion
  candidateVersion := trial.workspace.candidateVersion
  gate := .converge
  recommendation := "PROMOTION_ELIGIBLE"

/-- The body of the loop after so many cycles; `none` goes on to the next one. -/
def turn (cycles : ℕ) : Option (Except String EvolutionTrialResult) :=
  match trial.cycleInputs cycles with
  | none => some (.ok (trial.held cycles .hold))
  | some input =>
    if trial.maxRecursions ≤ cycles then some (.ok (trial.held cycles .hold))
    else if trial.convergence.decide input = .recurse then none
    else if trial.convergence.decide input ≠ .converge then
      some (.ok (trial.held (cycles + 1) (trial.convergence.decide input)))
    else
      match trial.assuranceFactory (cycles + 1) with
      | .error error => some (.error error)
      | .ok results =>
        let gate := evaluateAssurance results { converged := true }
        if gate = .converge then some (.ok (trial.qualified (cycles + 1)))
        else if gate = .repair then none
        else some (.ok (trial.held (cycles + 1) gate))

/-- The loop; `none` is a run that is not over. -/
def runCycles : ℕ → ℕ → Option (Except String EvolutionTrialResult)
  | 0, _ => none
  | fuel + 1, cycles =>
    match trial.turn cycles with
    | some answer => some answer
    | none => runCycles fuel (cycles + 1)

/-- `run_trial`. -/
def run (fuel : ℕ) : Option (Except String EvolutionTrialResult) :=
  match trial.workspace.assertMutationTarget trial.workspace.candidateVersion with
  | .error error => some (.error error)
  | .ok () =>
    if evaluateSelfModel trial.model trial.now true ≠ .continue then
      some (.ok (trial.held 0 (evaluateSelfModel trial.model trial.now true)))
    else trial.runCycles fuel 0

end Trial

/-! ## Statement -/

/-- The results of required layers pass, none has open findings, and all are about the
candidate. -/
structure Assured (candidateVersion : String) (results : List AssuranceResult) : Prop where
  passes : ∀ result ∈ results, result.layer ∈ requiredLayers → passes result = true
  resolved : ∀ result ∈ results, result.unresolvedHighCritical = false
  concerned : ∀ result ∈ results, result.targetCandidateId = candidateVersion

/-- What a qualification after so many cycles promises. -/
structure Earned (trial : Trial) (cycles : ℕ) : Prop where
  matched : trial.model.reconciliationStatus = .matched
  fresh : trial.now - trial.model.observedAt ≤ trial.model.maxStaleness
  bounded : (cycles : ℤ) ≤ trial.maxRecursions
  converged : ∃ input, trial.cycleInputs (cycles - 1) = some input ∧
    input.authorityBoundaryPreserved = true ∧
      trial.convergence.convergenceThreshold ≤ score input
  assured : ∃ results, trial.assuranceFactory cycles = .ok results ∧
    Assured trial.workspace.candidateVersion results

/-- The trial ends within its recursions whatever the inputs are, and a qualification is
earned. -/
structure Sound (trial : Trial) : Prop where
  ends : ∀ fuel, trial.maxRecursions.toNat < fuel → ∃ answer, trial.run fuel = some answer
  bounded : ∀ fuel result, trial.run fuel = some (.ok result) →
    result.cycles ≤ trial.maxRecursions.toNat
  earned : ∀ fuel result, trial.run fuel = some (.ok result) → result.state = "QUALIFIED" →
    Earned trial result.cycles

/-- The inputs of a cycle that is followed by another one. -/
structure Repeats (trial : Trial) (cycles : ℕ) : Prop where
  within : (cycles : ℤ) < trial.maxRecursions
  undecided : ∃ input, trial.cycleInputs cycles = some input ∧
    (trial.convergence.decide input = .recurse ∨
      trial.convergence.decide input = .converge ∧
        ∃ results, trial.assuranceFactory (cycles + 1) = .ok results ∧
          evaluateAssurance results { converged := true } = .repair)

/-- The inputs that take the trial to a converged candidate after so many cycles. -/
structure Converges (trial : Trial) (cycles : ℕ) (results : List AssuranceResult) : Prop where
  admitted : evaluateSelfModel trial.model trial.now true = .continue
  reached : ∀ earlier < cycles, Repeats trial earlier
  within : (cycles : ℤ) < trial.maxRecursions
  decided : ∃ input, trial.cycleInputs cycles = some input ∧
    trial.convergence.decide input = .converge
  returned : trial.assuranceFactory (cycles + 1) = .ok results
  accepted : evaluateAssurance results { converged := true } = .converge

/-- Results that a later one of the same required layer replaces pass, and all results are
about the candidate. -/
structure Coherent (candidateVersion : String) (results : List AssuranceResult) : Prop where
  replaced : ∀ front result back, results = front ++ result :: back →
    result.layer ∈ requiredLayers → (∃ later ∈ back, later.layer = result.layer) →
      passes result = true
  concerned : ∀ result ∈ results, result.targetCandidateId = candidateVersion

/-! ## The gates of a qualification -/

theorem EvolutionWorkspace.assertMutationTarget_candidate (workspace : EvolutionWorkspace) :
    workspace.assertMutationTarget workspace.candidateVersion = .ok () := by
  have apart : workspace.candidateVersion ≠ workspace.canonicalVersion :=
    fun same => workspace.differ same.symm
  simp [EvolutionWorkspace.assertMutationTarget, apart]

theorem evaluateSelfModel_continue {snapshot : SelfModelSnapshot} {now : ℚ}
    (admitted : evaluateSelfModel snapshot now true = .continue) :
    snapshot.reconciliationStatus = .matched ∧
      now - snapshot.observedAt ≤ snapshot.maxStaleness := by
  simp only [evaluateSelfModel] at admitted
  split_ifs at admitted with unknown old diverged
  have fresh : now - snapshot.observedAt ≤ snapshot.maxStaleness := Rat.not_lt.mp old
  refine ⟨?_, fresh⟩
  cases status : snapshot.reconciliationStatus <;> simp_all

theorem ConvergenceEngine.decide_converge {engine : ConvergenceEngine}
    {input : ConvergenceInput} (decided : engine.decide input = .converge) :
    input.authorityBoundaryPreserved = true ∧ engine.convergenceThreshold ≤ score input := by
  simp only [ConvergenceEngine.decide] at decided
  split_ifs at decided with boundary interrupted exhausted reached
  exact ⟨by simpa using boundary, reached⟩

theorem evaluateAssurance_converge {results : List AssuranceResult}
    (accepted : evaluateAssurance results { converged := true } = .converge) :
    (∀ result ∈ results, result.unresolvedHighCritical = false) ∧
      ∀ layer ∈ requiredLayers, ∀ result, byLayer results layer = some result →
        passes result = true := by
  have gates : evaluateAssurance results { converged := true } =
      if results.any (·.unresolvedHighCritical) then .hold else evaluateLayers results true := by
    simp [evaluateAssurance]
  rw [gates] at accepted
  split_ifs at accepted with unresolved
  simp only [evaluateLayers] at accepted
  split_ifs at accepted with absent blind failed
  constructor
  · intro result member
    simpa using fun found => unresolved (List.any_eq_true.mpr ⟨result, member, found⟩)
  · intro layer required result last
    have none_failed : (byLayer results layer).any (fun result => ¬ passes result) ≠ true :=
      fun found => failed (List.any_eq_true.mpr ⟨layer, required, found⟩)
    simpa [last] using none_failed

theorem byLayer_last {front back : List AssuranceResult} {result : AssuranceResult}
    (last : ∀ later ∈ back, later.layer ≠ result.layer) :
    byLayer (front ++ result :: back) result.layer = some result := by
  have unseen : back.reverse.find? (fun later => later.layer = result.layer) = none := by
    simpa using last
  simp [byLayer, List.find?_append, unseen]

theorem assured_iff {candidateVersion : String} {results : List AssuranceResult}
    (accepted : evaluateAssurance results { converged := true } = .converge) :
    Assured candidateVersion results ↔ Coherent candidateVersion results := by
  have ⟨resolved, counted⟩ := evaluateAssurance_converge accepted
  constructor
  · intro assured
    refine ⟨fun front result back split required _ => ?_, assured.concerned⟩
    exact assured.passes result (by simp [split]) required
  · intro coherent
    refine ⟨fun result member required => ?_, resolved, coherent.concerned⟩
    have ⟨front, back, split⟩ := List.append_of_mem member
    by_cases replaced : ∃ later ∈ back, later.layer = result.layer
    · exact coherent.replaced front result back split required replaced
    · have last : ∀ later ∈ back, later.layer ≠ result.layer := by simpa using replaced
      apply counted result.layer required
      rw [split]
      exact byLayer_last last

/-! ## One turn -/

namespace Trial

variable {trial : Trial}

variable {cycles : ℕ}

theorem turn_none_iff : trial.turn cycles = none ↔ Repeats trial cycles := by
  constructor
  · intro goes
    simp only [turn] at goes
    split at goes
    · contradiction
    · rename_i input found
      split_ifs at goes with spent recurse other
      · exact ⟨Int.not_le.mp spent, input, found, .inl recurse⟩
      · split at goes
        · contradiction
        · rename_i results returned
          split_ifs at goes with accepted repair
          exact ⟨Int.not_le.mp spent, input, found,
            .inr ⟨by simpa using other, results, returned, repair⟩⟩
  · rintro ⟨within, input, found, recurse | ⟨converge, results, returned, repair⟩⟩
    · simp [turn, found, recurse, Int.not_le.mpr within]
    · simp [turn, found, converge, returned, repair, Int.not_le.mpr within]

variable {result : EvolutionTrialResult}

theorem turn_cycles
    (answered : trial.turn cycles = some (.ok result)) :
    result.cycles = cycles ∨
      result.cycles = cycles + 1 ∧ (cycles : ℤ) < trial.maxRecursions := by
  simp only [turn] at answered
  split at answered
  · cases answered
    exact .inl rfl
  · split_ifs at answered with spent recurse other
    · cases answered
      exact .inl rfl
    · cases answered
      exact .inr ⟨rfl, Int.not_le.mp spent⟩
    · split at answered
      · cases answered
      · split_ifs at answered with accepted repair <;> cases answered <;>
          exact .inr ⟨rfl, Int.not_le.mp spent⟩

theorem turn_qualified
    (answered : trial.turn cycles = some (.ok result)) (state : result.state = "QUALIFIED") :
    (cycles : ℤ) < trial.maxRecursions ∧ result.cycles = cycles + 1 ∧
      (∃ input, trial.cycleInputs cycles = some input ∧
        trial.convergence.decide input = .converge) ∧
      ∃ results, trial.assuranceFactory (cycles + 1) = .ok results ∧
        evaluateAssurance results { converged := true } = .converge := by
  simp only [turn] at answered
  split at answered
  · cases answered
    simp [held] at state
  · rename_i input found
    split_ifs at answered with spent recurse other
    · cases answered
      simp [held] at state
    · cases answered
      simp [held] at state
    · split at answered
      · cases answered
      · rename_i results returned
        split_ifs at answered with accepted repair
        · cases answered
          exact ⟨Int.not_le.mp spent, rfl, ⟨input, found, by simpa using other⟩, results,
            returned, accepted⟩
        · cases answered
          simp [held] at state

variable {results : List AssuranceResult}

theorem turn_of_converges
    (converges : Converges trial cycles results) :
    trial.turn cycles = some (.ok (trial.qualified (cycles + 1))) := by
  have ⟨input, found, decided⟩ := converges.decided
  simp [turn, found, decided, converges.returned, converges.accepted,
    Int.not_le.mpr converges.within]

/-! ## The loop -/

variable {fuel : ℕ}

theorem runCycles_some {answer : Except String EvolutionTrialResult}
    (ran : trial.runCycles fuel cycles = some answer) :
    ∃ last, cycles ≤ last ∧ trial.turn last = some answer ∧
      ∀ earlier, cycles ≤ earlier → earlier < last → Repeats trial earlier := by
  induction fuel generalizing cycles with
  | zero => contradiction
  | succ fuel inductionHypothesis =>
    rw [runCycles] at ran
    cases now : trial.turn cycles with
    | some found =>
      rw [now] at ran
      have same : found = answer := by simpa using ran
      exact ⟨cycles, le_refl _, same ▸ now, fun earlier low high => by omega⟩
    | none =>
      rw [now] at ran
      have ⟨last, low, answered, before⟩ := inductionHypothesis ran
      refine ⟨last, by omega, answered, fun earlier begun high => ?_⟩
      by_cases first : earlier = cycles
      · rw [first]
        exact turn_none_iff.mp now
      · exact before earlier (by omega) high

theorem runCycles_of_repeats {rest : ℕ}
    {answer : Except String EvolutionTrialResult}
    (before : ∀ earlier, cycles ≤ earlier → earlier < cycles + rest → Repeats trial earlier)
    (answered : trial.turn (cycles + rest) = some answer) (enough : rest < fuel) :
    trial.runCycles fuel cycles = some answer := by
  induction rest generalizing cycles fuel with
  | zero =>
    have ⟨less, positive⟩ := Nat.exists_eq_add_of_lt enough
    rw [show fuel = less + 1 by omega, runCycles]
    rw [Nat.add_zero] at answered
    simp [answered]
  | succ rest inductionHypothesis =>
    have ⟨less, positive⟩ := Nat.exists_eq_add_of_lt enough
    have goes : trial.turn cycles = none :=
      turn_none_iff.mpr (before cycles (le_refl _) (by omega))
    rw [positive, runCycles]
    simp only [goes]
    apply inductionHypothesis
    · intro earlier low high
      exact before earlier (by omega) (by omega)
    · rw [← answered]
      congr 1
      omega
    · omega

theorem runCycles_ends
    (enough : trial.maxRecursions < (cycles : ℤ) + fuel) (positive : 0 < fuel) :
    ∃ answer, trial.runCycles fuel cycles = some answer := by
  induction fuel generalizing cycles with
  | zero => contradiction
  | succ fuel inductionHypothesis =>
    rw [runCycles]
    cases now : trial.turn cycles with
    | some answer => exact ⟨answer, rfl⟩
    | none =>
      have within := (turn_none_iff.mp now).within
      apply inductionHypothesis
      · push_cast
        push_cast at enough
        omega
      · omega

/-! ## The trials whose qualification is sound -/

theorem run_eq (fuel : ℕ) :
    trial.run fuel =
      if evaluateSelfModel trial.model trial.now true ≠ .continue then
        some (.ok (trial.held 0 (evaluateSelfModel trial.model trial.now true)))
      else trial.runCycles fuel 0 := by
  rw [run, EvolutionWorkspace.assertMutationTarget_candidate]

theorem run_ends (enough : trial.maxRecursions.toNat < fuel) :
    ∃ answer, trial.run fuel = some answer := by
  rw [run_eq]
  split_ifs with refused
  · exact ⟨_, rfl⟩
  · apply runCycles_ends
    · omega
    · omega

theorem run_cycles_le
    (ran : trial.run fuel = some (.ok result)) : result.cycles ≤ trial.maxRecursions.toNat := by
  rw [run_eq] at ran
  split_ifs at ran with refused
  · cases ran
    exact Nat.zero_le _
  · have ⟨last, _, answered, before⟩ := runCycles_some ran
    have within : (last : ℤ) ≤ trial.maxRecursions.toNat := by
      by_cases first : last = 0
      · omega
      · have := (before (last - 1) (Nat.zero_le _) (by omega)).within
        omega
    have := turn_cycles answered
    omega

theorem run_qualified
    (ran : trial.run fuel = some (.ok result)) (state : result.state = "QUALIFIED") :
    ∃ cycles results, result.cycles = cycles + 1 ∧ Converges trial cycles results := by
  rw [run_eq] at ran
  split_ifs at ran with refused
  · cases ran
    simp [held] at state
  · have ⟨last, _, answered, before⟩ := runCycles_some ran
    have ⟨within, counted, decided, results, returned, accepted⟩ :=
      turn_qualified answered state
    refine ⟨last, results, counted, by simpa using refused, fun earlier early => ?_, within,
      decided, returned, accepted⟩
    exact before earlier (Nat.zero_le _) early

theorem run_of_converges
    (converges : Converges trial cycles results) :
    trial.run (cycles + 1) = some (.ok (trial.qualified (cycles + 1))) := by
  rw [run_eq]
  simp only [converges.admitted, ne_eq, not_true, if_false]
  have answered : trial.turn (0 + cycles) = some (.ok (trial.qualified (cycles + 1))) := by
    rw [Nat.zero_add]
    exact turn_of_converges converges
  apply runCycles_of_repeats _ answered (Nat.lt_succ_self cycles)
  intro earlier _ early
  exact converges.reached earlier (by omega)

/-- With fuel for all its recursions, the trial qualifies the candidate after exactly those
cycles whose inputs converge. -/
theorem run_qualified_iff :
    trial.run (trial.maxRecursions.toNat + 1) = some (.ok (trial.qualified (cycles + 1))) ↔
      ∃ results, Converges trial cycles results := by
  constructor
  · intro ran
    have ⟨last, results, counted, converges⟩ := run_qualified ran rfl
    obtain rfl : cycles = last := Nat.succ.inj counted
    exact ⟨results, converges⟩
  · intro ⟨results, converges⟩
    rw [run_eq, if_neg (not_not.mpr converges.admitted)]
    have within := converges.within
    have answered : trial.turn (0 + cycles) = some (.ok (trial.qualified (cycles + 1))) := by
      rw [Nat.zero_add]
      exact turn_of_converges converges
    apply runCycles_of_repeats _ answered (by omega)
    intro earlier _ early
    exact converges.reached earlier (by omega)

theorem earned_iff
    (converges : Converges trial cycles results) :
    Earned trial (cycles + 1) ↔ Coherent trial.workspace.candidateVersion results := by
  rw [← assured_iff converges.accepted]
  constructor
  · intro earned
    have ⟨others, returned, assured⟩ := earned.assured
    have same : others = results := by simpa [converges.returned] using returned.symm
    exact same ▸ assured
  · intro assured
    have ⟨matched, fresh⟩ := evaluateSelfModel_continue converges.admitted
    have ⟨input, found, decided⟩ := converges.decided
    have ⟨boundary, reached⟩ := ConvergenceEngine.decide_converge decided
    have within := converges.within
    exact ⟨matched, fresh, by push_cast; omega, ⟨input, found, boundary, reached⟩, results,
      converges.returned, assured⟩

/-- A trial is sound exactly when the results that take it to a converged candidate are all
about the candidate, and no failed one is replaced by a later one of its layer. -/
theorem sound_iff :
    Sound trial ↔ ∀ cycles results, Converges trial cycles results →
      Coherent trial.workspace.candidateVersion results := by
  constructor
  · intro sound cycles results converges
    apply (earned_iff converges).mp
    exact sound.earned (cycles + 1) _ (run_of_converges converges) rfl
  · intro coherent
    refine ⟨fun fuel enough => run_ends enough, fun fuel result ran => run_cycles_le ran, ?_⟩
    intro fuel result ran state
    have ⟨cycles, results, counted, converges⟩ := run_qualified ran state
    rw [counted]
    exact (earned_iff converges).mpr (coherent cycles results converges)

/-! ## A result about another candidate -/

private def passing (layer : String) (target : String) : AssuranceResult where
  layer := layer
  status := "PASS"
  evidenceRefs := ["evidence:1"]
  unresolvedHighCritical := false
  targetCandidateId := target
  independentTargetAccess := true

/-- A trial whose results are all about another version than the candidate. -/
def misdirected : Trial where
  convergence := { minExpectedGain := 0, convergenceThreshold := 1 }
  missionId := "mission-1"
  workspace := { canonicalVersion := "v1", candidateVersion := "v2", differ := by decide }
  model := { observedAt := 0, maxStaleness := 60, reconciliationStatus := .matched }
  now := 10
  maxRecursions := 3
  cycleInputs := fun _ => some
    { benefitScore := 2, regressionPenalty := 0, changeSurfacePenalty := 0,
      uncertaintyPenalty := 0, recursionDepth := 0, maxRecursionDepth := 3,
      failedIterations := 0, maxFailedIterations := 3, authorityBoundaryPreserved := true,
      blockingAssurance := false, exceptionInterrupt := false }
  assuranceFactory := fun _ => .ok
    [passing "AGORA" "v0", passing "DEDALA" "v0", passing "SYNESIS" "v0"]

theorem misdirected_not_sound : ¬ Sound misdirected := by
  intro sound
  have ran : misdirected.run 1 = some (.ok (misdirected.qualified 1)) := by
    decide +kernel
  have earned : Earned misdirected 1 := sound.earned 1 _ ran rfl
  have ⟨results, returned, assured⟩ := earned.assured
  have listed :
      results = [passing "AGORA" "v0", passing "DEDALA" "v0", passing "SYNESIS" "v0"] := by
    simpa [misdirected] using returned.symm
  have wrong := assured.concerned (passing "AGORA" "v0") (by simp [listed])
  simp [passing, misdirected] at wrong

end Trial

end ReisOs.RecursiveRuntime.Evolution
