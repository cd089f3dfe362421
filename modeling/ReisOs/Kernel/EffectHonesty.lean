import ReisOs.Kernel.StateEffects

/-!
# Honesty about effects

A result with `effected=False` should mean that no mutation completed during the call,
or come with a recovery receipt that reports the residual effect.  The effector turns
a `RuntimeError` of the readback into a material failure; a `ValueError` passes it and
lands in the clause that reports a denial.
-/

namespace ReisOs.Kernel

open ReisOs.Core

variable {P : Type}

/-- The receipt of the result says that an effect remains. -/
def ExecutionResult.AdmitsResidue (result : ExecutionResult P) : Prop :=
  ∃ receipt, result.recoveryReceipt = some receipt ∧ receipt.residualEffect = true

/-- The adapter's readback raises a `ValueError`. -/
def ReadbackRefused (answers : Point → StepEnv P) : Prop :=
  ∃ message, (answers .materialEffect).answers.readback = .error (.valueError message)

/-- The outcome says that an effect was made, if it is a result at all. -/
def SaysEffected : Except PyError (ExecutionResult P) → Prop
  | .ok result => result.effected = true
  | .error _ => True

/-- The outcome denies an effect and has no receipt. -/
def DeniesEffect : Except PyError (ExecutionResult P) → Prop
  | .ok result => result.effected = false ∧ result.recoveryReceipt = none
  | .error _ => False

/-- The effect is behind the call: whatever it returns says so. -/
def Phase.EffectDone (phase : Phase P) : Prop :=
  match phase.progress with
  | .unread _ | .applied _ _ | .committed _ _ | .finalized _ _ => True
  | .returned outcome => SaysEffected outcome
  | _ => False

namespace UniversalKernelRuntime

/-- How many mutations have completed. -/
def mutations (k : UniversalKernelRuntime P) : ℕ :=
  k.history.mutateCalls.countP (·.completed)

/-- A mutation completed between the two states of the runtime. -/
def Mutated (start k : UniversalKernelRuntime P) : Prop := k.mutations ≠ start.mutations

/-- What a call that began in `start` returned agrees with what it did. -/
def EffectHonest (start : UniversalKernelRuntime P)
    (place : UniversalKernelRuntime P × Phase P) : Prop :=
  ∀ result, place.2 = .returned (.ok result) → result.effected = false →
    ¬ Mutated start place.1 ∨ result.AdmitsResidue

variable {config : RuntimeConfig P} {p : ActionProposal P} {env : StepEnv P}
  {answers : Point → StepEnv P} {start k k' : UniversalKernelRuntime P} {phase : Phase P}

/-! ## Steps after the effect -/

theorem raised_effectDone (envelope : AuthorizedActionEnvelope P)
    (readback : Option (MaterialReadback P)) (error : PyError) :
    (Phase.raised envelope true readback error).EffectDone := by
  cases error with
  | valueError | runtimeError => rfl
  | keyError | integrityError => trivial

theorem persistRefused_effectDone (envelope : AuthorizedActionEnvelope P)
    (readback : MaterialReadback P) (error : PyError) :
    (Phase.persistRefused envelope readback error).EffectDone := by
  cases error with
  | valueError | runtimeError => rfl
  | keyError | integrityError => trivial

theorem proceed_effectDone {answer : UniversalKernelRuntime P × Except PyError Unit}
    {failed : PyError → Phase P} {next : Phase P}
    (hfailed : ∀ error, (failed error).EffectDone) (hnext : next.EffectDone) :
    (proceed answer failed next).2.EffectDone := by
  obtain ⟨k, error | _⟩ := answer
  · exact hfailed error
  · exact hnext

variable [DecidableEq P]

theorem recoverEffect_effectDone (k : UniversalKernelRuntime P)
    (envelope : AuthorizedActionEnvelope P) (reason : String) :
    (k.recoverEffect config env envelope reason).2.EffectDone := by
  unfold recoverEffect
  split
  · rfl
  · split
    · trivial
    · rfl

theorem commitState_effectDone (k : UniversalKernelRuntime P)
    (envelope : AuthorizedActionEnvelope P) (readback : MaterialReadback P) :
    (k.commitState config p envelope readback).2.EffectDone := by
  unfold commitState
  split
  · exact raised_effectDone ..
  · dsimp only
    split
    · exact raised_effectDone ..
    · trivial

theorem advance_effectDone (h : phase.EffectDone) :
    (k.advance config p env phase).2.EffectDone := by
  cases phase with
  | recover envelope reason => exact recoverEffect_effectDone ..
  | stageReadback envelope readback =>
    exact proceed_effectDone (raised_effectDone envelope (some readback)) trivial
  | identityPrePersist envelope readback =>
    exact proceed_effectDone (persistRefused_effectDone envelope readback) trivial
  | stateWrite envelope readback => exact commitState_effectDone ..
  | stageState envelope readback record =>
    exact proceed_effectDone (raised_effectDone envelope (some readback)) trivial
  | finalize envelope readback =>
    simp only [advance]
    split
    · exact raised_effectDone ..
    · exact raised_effectDone ..
    · trivial
  | stageFinalize envelope readback leaseState =>
    exact proceed_effectDone (raised_effectDone envelope (some readback)) trivial
  | stageClose envelope readback =>
    exact proceed_effectDone (raised_effectDone envelope (some readback)) trivial
  | complete envelope readback => rfl
  | returned outcome => exact h
  | _ => exact h.elim

/-! ## The effect -/

theorem advance_mutations (hphase : ∀ envelope, phase ≠ .materialEffect envelope) :
    (k.advance config p env phase).1.mutations = k.mutations := by
  have hmove : Move config p env k phase.progress (k.advance config p env phase).1
      (k.advance config p env phase).2.progress := advance_move k phase
  have hcalls : (k.advance config p env phase).1.history.mutateCalls =
      k.history.mutateCalls := by
    cases phase with
    | traceGrant result envelope name =>
      change (proceed _ _ _).1.history.mutateCalls = _
      rw [proceed_fst, (governanceStage_quiet ..).history]
    | stageAuthorized envelope => rw [advance, proceed_fst, (stage_quiet ..).history]
    | stagePreflight envelope => rw [advance, proceed_fst, (preflight_quiet ..).history]
    | identityPreEffect envelope =>
      rw [advance, proceed_fst, (requireIdentity_quiet ..).history]
    | materialEffect envelope => exact absurd rfl (hphase envelope)
    | _ =>
      rcases hmove.mutateCalls_cases with hsame | ⟨envelope, outcome, hprogress, -⟩
      · exact hsame
      · cases hprogress
  rw [mutations, hcalls, mutations]

omit [DecidableEq P] in
theorem called_mutations (k : UniversalKernelRuntime P)
    (envelope : AuthorizedActionEnvelope P) (outcome : Except PyError String) :
    (k.called env p envelope outcome).mutations =
      k.mutations + if outcome.isOk then 1 else 0 := by
  simp [mutations, called, MutateCall.completed, List.countP_append, List.countP_singleton]

/-- What is known of a call that began in `start`: no mutation completed so far, or one
did and what follows depends on its readback. -/
def HonestSoFar (answers : Point → StepEnv P) (start k : UniversalKernelRuntime P)
    (phase : Phase P) : Prop :=
  k.mutations = start.mutations ∨
    (Mutated start k ∧ ¬ ReadbackRefused answers ∧ phase.EffectDone) ∨
    (Mutated start k ∧ ReadbackRefused answers ∧
      ∃ outcome, phase = .returned outcome ∧ DeniesEffect outcome)

omit [DecidableEq P] in
theorem effectorExecute_applied {broker : ToolBroker}
    {completed : Dict String (MaterialReadback P)} {answers : AdapterAnswers P}
    {envelope : AuthorizedActionEnvelope P} {mutationId : String}
    {readback : MaterialReadback P}
    (h : effectorExecute broker completed answers envelope = .applied mutationId readback) :
    answers.readback = .ok readback := by
  unfold effectorExecute at h
  split at h
  · cases h
  · split at h
    · cases h
    · split at h
      · cases h
      · split at h
        · cases h
        · rename_i hreadback
          cases h
          exact hreadback

omit [DecidableEq P] in
theorem materialEffect_honestSoFar (hstart : k.mutations = start.mutations)
    (envelope : AuthorizedActionEnvelope P) :
    HonestSoFar answers start
      (k.materialEffect config (answers .materialEffect) p envelope).1
      (k.materialEffect config (answers .materialEffect) p envelope).2 := by
  have hmutated (mutationId : String) :
      Mutated start (k.called (answers .materialEffect) p envelope (.ok mutationId)) := by
    rw [Mutated, called_mutations, hstart]
    simp [Except.isOk, Except.toBool]
  unfold materialEffect
  split
  · exact .inl hstart
  · split <;> rename_i heffect
    · exact .inl hstart
    · exact .inl hstart
    · exact .inl ((called_mutations ..).trans hstart)
    · have hreadback := effectorExecute_readback heffect
      refine .inr (.inl ⟨hmutated _, ?_, trivial⟩)
      rintro ⟨message, hrefused⟩
      rw [hreadback] at hrefused
      cases hrefused
    · rename_i error hother
      have hreadback := effectorExecute_readback heffect
      cases error with
      | valueError message =>
        exact .inr (.inr ⟨hmutated _, ⟨message, hreadback⟩, _, rfl, rfl, rfl⟩)
      | runtimeError reason => exact absurd rfl (hother reason)
      | keyError | integrityError =>
        refine .inr (.inl ⟨hmutated _, ?_, trivial⟩)
        rintro ⟨message, hrefused⟩
        rw [hreadback] at hrefused
        cases hrefused
    · have hreadback := effectorExecute_applied heffect
      refine .inr (.inl ⟨hmutated _, ?_, trivial⟩)
      rintro ⟨message, hrefused⟩
      rw [hreadback] at hrefused
      cases hrefused

theorem HonestSoFar.advance (h : HonestSoFar answers start k phase) :
    HonestSoFar answers start (k.advance config p (answers phase.point) phase).1
      (k.advance config p (answers phase.point) phase).2 := by
  rcases h with hstart | ⟨hmutated, hread, hdone⟩ | ⟨hmutated, hrefused, outcome, rfl, hdenies⟩
  · by_cases hphase : ∃ envelope, phase = .materialEffect envelope
    · obtain ⟨envelope, rfl⟩ := hphase
      exact materialEffect_honestSoFar hstart envelope
    · rw [not_exists] at hphase
      exact .inl ((advance_mutations hphase).trans hstart)
  · have hphase (envelope : AuthorizedActionEnvelope P) : phase ≠ .materialEffect envelope := by
      rintro rfl
      exact hdone
    refine .inr (.inl ⟨?_, hread, advance_effectDone hdone⟩)
    rwa [Mutated, advance_mutations hphase]
  · exact .inr (.inr ⟨hmutated, hrefused, outcome, rfl, hdenies⟩)

/-- A call is honest about its effect exactly if no mutation that completed in it was
followed by a readback that raises a `ValueError`. -/
theorem effectHonest_iff (config : RuntimeConfig P) (k : UniversalKernelRuntime P)
    (p : ActionProposal P) (answers : Point → StepEnv P) :
    EffectHonest k (k.execute config p answers) ↔
      (Mutated k (k.execute config p answers).1 → ¬ ReadbackRefused answers) := by
  have hend : HonestSoFar answers k (k.execute config p answers).1
      (k.execute config p answers).2 :=
    execute_induction config p (HonestSoFar answers k) answers
      (fun _ _ _ h => h.advance) (.inl rfl)
  rcases hend with hstart | ⟨hmutated, hread, hdone⟩ |
    ⟨hmutated, hrefused, outcome, houtcome, hdenies⟩
  · constructor
    · intro _ hmutated
      exact absurd hstart hmutated
    · intro _ result _ _
      exact .inl (not_not.mpr hstart)
  · constructor
    · intro _ _
      exact hread
    · intro _ result hresult heffected
      rw [hresult] at hdone
      rw [show result.effected = true from hdone] at heffected
      cases heffected
  · constructor
    · intro h
      cases outcome with
      | error error => exact hdenies.elim
      | ok result =>
        rcases h result houtcome hdenies.1 with hunmutated | ⟨receipt, hreceipt, -⟩
        · exact absurd hmutated hunmutated
        · rw [hdenies.2] at hreceipt
          cases hreceipt
    · intro h
      exact absurd hrefused (h hmutated)

/-- The runtime that holds the fixture's lease. -/
def leased : UniversalKernelRuntime ℕ :=
  operate Fixture.config Fixture.runtime (.issue 100 Fixture.lease)

/-- A call whose readback finds the adapter's answer malformed. -/
def malformedReadback : UniversalKernelRuntime ℕ × Phase ℕ :=
  leased.execute Fixture.config Fixture.proposal
    (Fixture.steady (.error (.valueError "malformed_readback")))

/-- A mutation completes, and the call reports a denial without effect. -/
theorem malformedReadback_denied : ¬ EffectHonest leased malformedReadback := by
  intro h
  have hresult : malformedReadback.2 = .returned (.ok
      { authorized := false, effected := false, proven := true
        reason := "malformed_readback", governanceDecision := some .deny
        traceId := some "trace:r1a" }) := by
    rfl
  rcases h _ hresult rfl with hunmutated | ⟨receipt, hreceipt, -⟩
  · exact hunmutated (by unfold Mutated; decide)
  · cases hreceipt

end UniversalKernelRuntime

end ReisOs.Kernel
