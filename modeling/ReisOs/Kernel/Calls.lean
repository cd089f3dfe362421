import ReisOs.Kernel.Progress

/-!
# Whole calls and runs of one runtime

A call always returns, every envelope it carries is built from its proposal, and
an invariant of moves is an invariant of calls.  A run interleaves calls with the
other operations on the objects a runtime holds.
-/

namespace ReisOs.Kernel

open ReisOs.Core Phase

variable {P : Type}

/-! ## Envelopes -/

/-- The envelope carries the proposal's fields. -/
structure EnvelopeOf (p : ActionProposal P) (envelope : AuthorizedActionEnvelope P) :
    Prop where
  actionId : envelope.actionId = p.actionId
  actor : envelope.actor = p.actor
  ocs : envelope.ocs = p.ocs
  capability : envelope.capability = p.capability
  operation : envelope.operation = p.operation
  payload : envelope.payload = p.payload
  scope : envelope.scope = p.scope
  validScope : envelope.validScope = true
  actionType : p.actionType = some envelope.actionType
  issuedAt : p.issuedAt = some envelope.issuedAt
  leaseId : p.leaseId = some envelope.leaseId
  objectRef : p.objectRef = some envelope.objectRef
  tenant : p.tenant = some envelope.tenant
  contextRef : p.contextRef = some envelope.contextRef
  authorityRef : p.authorityRef = some envelope.authorityRef
  policySnapshot : p.policySnapshot = some envelope.policySnapshot
  idempotencyKey : p.idempotencyKey = some envelope.idempotencyKey
  recoveryRef : p.recoveryRef = some envelope.recoveryRef
  expiresAt : p.expiresAt = some envelope.expiresAt
  traceId : p.traceId = some envelope.traceId

theorem EnvelopeOf.of_build {p : ActionProposal P} {maxUses : ℕ}
    {envelope : AuthorizedActionEnvelope P}
    (h : buildEnvelope p maxUses = some envelope) : EnvelopeOf p envelope := by
  unfold buildEnvelope at h
  obtain ⟨actionType, hActionType, h⟩ := Option.bind_eq_some_iff.mp h
  obtain ⟨issuedAt, hIssuedAt, h⟩ := Option.bind_eq_some_iff.mp h
  obtain ⟨leaseId, hLeaseId, h⟩ := Option.bind_eq_some_iff.mp h
  obtain ⟨cspRef, hCspRef, h⟩ := Option.bind_eq_some_iff.mp h
  obtain ⟨objectRef, hObjectRef, h⟩ := Option.bind_eq_some_iff.mp h
  obtain ⟨tenant, hTenant, h⟩ := Option.bind_eq_some_iff.mp h
  obtain ⟨contextRef, hContextRef, h⟩ := Option.bind_eq_some_iff.mp h
  obtain ⟨authorityRef, hAuthorityRef, h⟩ := Option.bind_eq_some_iff.mp h
  obtain ⟨policySnapshot, hPolicySnapshot, h⟩ := Option.bind_eq_some_iff.mp h
  obtain ⟨idempotencyKey, hIdempotencyKey, h⟩ := Option.bind_eq_some_iff.mp h
  obtain ⟨expectedEffect, hExpectedEffect, h⟩ := Option.bind_eq_some_iff.mp h
  obtain ⟨sideEffect, hSideEffect, h⟩ := Option.bind_eq_some_iff.mp h
  obtain ⟨reversibility, hReversibility, h⟩ := Option.bind_eq_some_iff.mp h
  obtain ⟨recoveryRef, hRecoveryRef, h⟩ := Option.bind_eq_some_iff.mp h
  obtain ⟨expiresAt, hExpiresAt, h⟩ := Option.bind_eq_some_iff.mp h
  obtain ⟨assessmentRef, hAssessmentRef, h⟩ := Option.bind_eq_some_iff.mp h
  obtain ⟨traceId, hTraceId, h⟩ := Option.bind_eq_some_iff.mp h
  cases h
  constructor <;> first | rfl | assumption

theorem EnvelopeOf.withIndex {p : ActionProposal P}
    {envelope : AuthorizedActionEnvelope P} (h : EnvelopeOf p envelope)
    (useIndex : Option ℕ) :
    EnvelopeOf p { envelope with leaseUseIndex := useIndex } := by
  cases h
  constructor <;> assumption

/-- The effect has not been tried. -/
def Progress.BeforeEffect : Progress P → Prop
  | .started | .fresh | .checked _ | .authorized _ | .reserved _ => True
  | .unread _ | .applied _ _ | .committed _ _ | .finalized _ _ | .returned _ => False

/-- The envelope a call works with. -/
def Progress.envelope? : Progress P → Option (AuthorizedActionEnvelope P)
  | .started | .fresh | .checked _ | .returned _ => none
  | .authorized envelope | .reserved envelope | .unread envelope
  | .applied envelope _ | .committed envelope _ | .finalized envelope _ => some envelope

theorem envelopeOf_begin (p : ActionProposal P) :
    ∀ envelope ∈ (identityPreAction : Phase P).progress.envelope?,
      EnvelopeOf p envelope := by
  simp [progress, Progress.envelope?]

namespace UniversalKernelRuntime

/-! ## Phases that return -/

section Returned

variable {p : ActionProposal P}

@[simp]
theorem raised_remaining (envelope : AuthorizedActionEnvelope P) (effected : Bool)
    (readback : Option (MaterialReadback P)) (error : PyError) :
    (raised envelope effected readback error).remaining = 0 := by
  cases error <;> rfl

@[simp]
theorem unauthorized_remaining (proven : Bool) (reason : String)
    (decision : AuthorizationDecision) :
    (unauthorized p proven reason decision).remaining = 0 := rfl

@[simp]
theorem untraced_remaining (reason : String) (decision : AuthorizationDecision) :
    (untraced p reason decision).remaining = 0 := rfl

@[simp]
theorem identityRefused_remaining (error : PyError) :
    (identityRefused p error).remaining = 0 := by
  cases error <;> rfl

@[simp]
theorem persistRefused_remaining (envelope : AuthorizedActionEnvelope P)
    (readback : MaterialReadback P) (error : PyError) :
    (persistRefused envelope readback error).remaining = 0 := by
  cases error <;> rfl

theorem traceFailed_remaining {otherwise : Phase P} (hreturned : otherwise.remaining = 0)
    (error : PyError) : (traceFailed otherwise error).remaining = 0 := by
  cases error with
  | runtimeError _ => exact hreturned
  | valueError _ | keyError _ | integrityError => rfl

theorem proceed_remaining {answer : UniversalKernelRuntime P × Except PyError Unit}
    {failed : PyError → Phase P} {next : Phase P} {bound : ℕ}
    (hfailed : ∀ error, (failed error).remaining = 0) (hnext : next.remaining < bound) :
    (proceed answer failed next).2.remaining < bound := by
  obtain ⟨k, error | _⟩ := answer
  · exact (hfailed error).trans_lt (Nat.zero_lt_of_lt hnext)
  · exact hnext

end Returned

variable [DecidableEq P] {config : RuntimeConfig P} {p : ActionProposal P}
  {env : StepEnv P} {k k' : UniversalKernelRuntime P} {progress progress' : Progress P}

theorem Move.envelopeOf (hmove : Move config p env k progress k' progress')
    (h : ∀ envelope ∈ progress.envelope?, EnvelopeOf p envelope) :
    ∀ envelope ∈ progress'.envelope?, EnvelopeOf p envelope := by
  intro envelope henvelope
  cases hmove with
  | quiet => exact h envelope henvelope
  | assemble _ _ hbuild =>
    cases henvelope
    exact .of_build hbuild
  | reserve =>
    cases henvelope
    exact (h _ rfl).withIndex _
  | mutateUnread _ _ hnext =>
    rcases hnext with rfl | ⟨outcome, rfl, -⟩
    · exact h envelope henvelope
    · cases henvelope
  | replayEffect | mutate | commit | finalize => exact h envelope henvelope
  | refuse | replay | miss | check | mutateFailed | recover | commitFailed
  | finalizeFailed | complete => cases henvelope

/-! ## What moves leave alone -/

theorem Move.leaseMove (hmove : Move config p env k progress k' progress') :
    AuthorityLeaseManager.LeaseMove (P := P) k.leases k'.leases := by
  cases hmove with
  | quiet hquiet | refuse hquiet =>
    rw [hquiet.leases]
    exact .same
  | reserve hreserve => exact .of_reserveUse hreserve
  | finalize hfinalize => exact .of_finalize hfinalize
  | _ => exact .same

theorem Move.seq_le (hmove : Move config p env k progress k' progress') :
    k.seq ≤ k'.seq := by
  cases hmove with
  | quiet hquiet | refuse hquiet => exact hquiet.seq
  | commit | commitFailed => exact Nat.le_succ _
  | _ => exact le_rfl

theorem Move.mutateCalls_cases (hmove : Move config p env k progress k' progress') :
    k'.history.mutateCalls = k.history.mutateCalls ∨
      ∃ envelope outcome, progress = .reserved envelope ∧
        k.leases.materialEffectGuard (env.clock 0) (env.clock 1) envelope = .ok () ∧
        k.effectorCompleted.lookup envelope.idempotencyKey = none ∧
        k'.history.mutateCalls = k.history.mutateCalls ++
          [⟨p, envelope, k.leases, env.clock 0, env.clock 1, outcome⟩] := by
  cases hmove with
  | quiet hquiet | refuse hquiet => exact .inl (by rw [hquiet.history])
  | mutateFailed hguard huncached | mutateUnread hguard huncached
  | mutate hguard huncached => exact .inr ⟨_, _, rfl, hguard, huncached, rfl⟩
  | _ => exact .inl rfl

theorem Move.beforeEffect (hmove : Move config p env k progress k' progress')
    (hbefore : progress'.BeforeEffect) :
    progress.BeforeEffect ∧ k'.history.mutateCalls = k.history.mutateCalls ∧
      k'.effectorCompleted = k.effectorCompleted := by
  cases hmove with
  | quiet hquiet => exact ⟨hbefore, by rw [hquiet.history], hquiet.effectorCompleted⟩
  | miss | check | assemble | reserve => exact ⟨trivial, rfl, rfl⟩
  | mutateUnread hguard huncached hnext =>
    rcases hnext with rfl | ⟨outcome, rfl, -⟩ <;> exact hbefore.elim
  | _ => exact hbefore.elim

/-! ## Termination -/

omit [DecidableEq P] in
theorem materialEffect_remaining (k : UniversalKernelRuntime P)
    (envelope : AuthorizedActionEnvelope P) :
    (k.materialEffect config env p envelope).2.remaining < 9 := by
  unfold materialEffect
  split
  · simp
  · split <;> simp <;> simp [remaining]

theorem advance_remaining {phase : Phase P} (hphase : phase.remaining ≠ 0) :
    (k.advance config p env phase).2.remaining < phase.remaining := by
  cases phase with
  | identityPreAction | sanitizeContext =>
    exact proceed_remaining identityRefused_remaining (by simp [remaining])
  | replayLookup =>
    simp only [advance]
    split
    · simp [remaining]
    · split <;> simp <;> simp [remaining]
  | authorize =>
    simp only [advance]
    split
    · simp [remaining]
    · split <;> simp [remaining]
  | assemble checked =>
    simp only [advance]
    split
    · simp [remaining]
    · split <;> simp <;> simp [remaining]
  | traceDenial result name =>
    refine proceed_remaining (traceFailed_remaining rfl) ?_
    cases name <;> simp <;> simp [remaining]
  | preflightGate result envelope =>
    simp only [advance]
    split <;> simp <;> simp [remaining]
  | reserve result envelope =>
    simp only [advance]
    split <;> (simp; simp [remaining])
  | traceGrant result envelope name =>
    refine proceed_remaining (traceFailed_remaining rfl) ?_
    cases name <;> simp [remaining]
  | stageAuthorized envelope | stagePreflight envelope | identityPreEffect envelope =>
    exact proceed_remaining (raised_remaining envelope false none)
      (by simp [remaining])
  | materialEffect envelope => exact materialEffect_remaining k envelope
  | recover envelope reason =>
    simp only [advance, recoverEffect]
    split
    · simp [remaining]
    · split <;> simp [remaining]
  | stageReadback envelope readback | stageClose envelope readback =>
    exact proceed_remaining (raised_remaining envelope true (some readback))
      (by simp [remaining])
  | identityPrePersist envelope readback =>
    exact proceed_remaining (persistRefused_remaining envelope readback)
      (by simp [remaining])
  | stateWrite envelope readback =>
    simp only [advance, commitState]
    split
    · simp
      simp [remaining]
    · split <;> simp <;> simp [remaining]
  | stageState envelope readback record =>
    exact proceed_remaining (raised_remaining envelope true (some readback))
      (by simp [remaining])
  | finalize envelope readback =>
    simp only [advance]
    split <;> simp <;> simp [remaining]
  | stageFinalize envelope readback leaseState =>
    exact proceed_remaining (raised_remaining envelope true (some readback))
      (by simp [remaining])
  | complete envelope readback => simp [advance, remaining]
  | returned outcome => exact absurd rfl hphase

omit [DecidableEq P] in
/-- Only a call that is over has no steps left. -/
theorem eq_returned_of_remaining {phase : Phase P} (hphase : phase.remaining = 0) :
    ∃ outcome, phase = .returned outcome := by
  cases phase with
  | returned outcome => exact ⟨outcome, rfl⟩
  | traceDenial _ name | traceGrant _ _ name =>
    cases name <;> simp [remaining] at hphase
  | _ => simp [remaining] at hphase

theorem callStep_rest (answers : Point → StepEnv P)
    {place : UniversalKernelRuntime P × Phase P} (hplace : place.2.remaining = 0) :
    callStep config p answers place = place := by
  obtain ⟨k, phase⟩ := place
  obtain ⟨outcome, rfl⟩ := eq_returned_of_remaining hplace
  rfl

theorem callStep_remaining (answers : Point → StepEnv P)
    {place : UniversalKernelRuntime P × Phase P} (hplace : place.2.remaining ≠ 0) :
    (callStep config p answers place).2.remaining < place.2.remaining :=
  advance_remaining hplace

theorem execute_returned (answers : Point → StepEnv P) (k : UniversalKernelRuntime P) :
    ∃ outcome, (k.execute config p answers).2 = .returned outcome := by
  have hrest : (k.execute config p answers).2.remaining = 0 :=
    rank_iterate_eq_zero
      (fun place : UniversalKernelRuntime P × Phase P => place.2.remaining)
      (fun _ => callStep_rest answers) (fun _ => callStep_remaining answers) le_rfl
  exact eq_returned_of_remaining hrest

/-! ## Invariants of calls -/

/-- The induction rule for a call: what every step from a good place keeps holds where
the call ends.  The envelope of the place is the proposal's. -/
theorem execute_induction (config : RuntimeConfig P) (p : ActionProposal P)
    (Inv : UniversalKernelRuntime P → Phase P → Prop) (answers : Point → StepEnv P)
    (hadvance : ∀ (k : UniversalKernelRuntime P) (phase : Phase P),
      (∀ envelope ∈ phase.progress.envelope?, EnvelopeOf p envelope) → Inv k phase →
      Inv (k.advance config p (answers phase.point) phase).1
        (k.advance config p (answers phase.point) phase).2)
    (hstart : Inv k .identityPreAction) :
    Inv (k.execute config p answers).1 (k.execute config p answers).2 := by
  let good (place : UniversalKernelRuntime P × Phase P) : Prop :=
    (∀ envelope ∈ place.2.progress.envelope?, EnvelopeOf p envelope) ∧
      Inv place.1 place.2
  have hgood : good (k, .identityPreAction) := ⟨envelopeOf_begin p, hstart⟩
  have hstep (place : UniversalKernelRuntime P × Phase P) (h : good place) :
      good (callStep config p answers place) :=
    ⟨(advance_move place.1 place.2).envelopeOf h.1, hadvance _ _ h.1 h.2⟩
  exact (iterate_invariant good hstep hgood _).2

theorem execute_invariant (config : RuntimeConfig P) (p : ActionProposal P)
    (Inv : UniversalKernelRuntime P → Progress P → Prop) (answers : Point → StepEnv P)
    (hmove : ∀ (k : UniversalKernelRuntime P) (phase : Phase P) k' progress',
      Move config p (answers phase.point) k phase.progress k' progress' →
      (∀ envelope ∈ phase.progress.envelope?, EnvelopeOf p envelope) →
      Inv k phase.progress → Inv k' progress')
    (hstart : Inv k .started) :
    Inv (k.execute config p answers).1 (k.execute config p answers).2.progress :=
  execute_induction config p (fun k phase => Inv k phase.progress) answers
    (fun k phase henvelope h => hmove _ _ _ _ (advance_move k phase) henvelope h) hstart

end UniversalKernelRuntime

/-! ## Runs -/

/-- What a runtime is constructed over, apart from the state core. -/
structure RuntimeParts (P : Type) where
  leases : AuthorityLeaseManager
  effectorCompleted : Dict String (MaterialReadback P)
  trace : TraceCore
  guard : IdentityKernelGuard
  recovery : Option (Checkpoints P)
  contextItems : List ContextItem

/-- The operations on a runtime and on the objects it holds. -/
inductive KernelOp (P : Type) where
  | execute (p : ActionProposal P) (answers : Point → StepEnv P)
  | issue (now : Time) (lease : AuthorityLease)
  | revoke (leaseId : String)
  | release (leaseId : String)
  | finalizeLease (leaseId : String)
  | registerCheckpoint (recoveryRef : String) (checkpoint : VerifiedCheckpoint P)
  | writeState (record : StateRecord P) (check : ReadbackCheck P) (context : WriteContext)
  | restoreState (checkpoint : VerifiedCheckpoint P)
  | replaceContext (items : List ContextItem)
  /-- Any use of the identity guard by others, by the guard it leaves. -/
  | identity (guard : IdentityKernelGuard)
  /-- A new runtime object over the same state core. -/
  | construct (parts : RuntimeParts P)
  /-- A new runtime object over a state core reloaded from the database. -/
  | reload (parts : RuntimeParts P)

namespace UniversalKernelRuntime

/-- A newly constructed runtime over a state core. -/
def constructed (state : StateCore P) (parts : RuntimeParts P) (serial : ℕ)
    (history : History P) : UniversalKernelRuntime P :=
  { leases := parts.leases
    effectorCompleted := parts.effectorCompleted
    state := state
    trace := parts.trace
    guard := parts.guard
    recovery := parts.recovery
    contextItems := parts.contextItems
    completed := ∅
    seq := 0
    serial := serial
    history := history }

/-- The first runtime of a run, over a lease manager without leases and an
effector that has executed nothing. -/
def fresh (state : StateCore P) (trace : TraceCore) (guard : IdentityKernelGuard)
    (recovery : Option (Checkpoints P)) (contextItems : List ContextItem) :
    UniversalKernelRuntime P :=
  constructed state ⟨.empty, ∅, trace, guard, recovery, contextItems⟩ 0 ⟨[], []⟩

/-- The lease manager a manager method leaves. -/
def leasesAfter (k : UniversalKernelRuntime P) :
    Except PyError AuthorityLeaseManager → UniversalKernelRuntime P
  | .error _ => k
  | .ok leases => { k with leases := leases }

variable [DecidableEq P]

/-- One operation of a run. -/
def operate (config : RuntimeConfig P) (k : UniversalKernelRuntime P) :
    KernelOp P → UniversalKernelRuntime P
  | .execute p answers => (k.execute config p answers).1
  | .issue now lease => k.leasesAfter (k.leases.issue now lease)
  | .revoke leaseId => k.leasesAfter (k.leases.revoke leaseId)
  | .release leaseId => k.leasesAfter (k.leases.release leaseId)
  | .finalizeLease leaseId => k.leasesAfter ((k.leases.finalize leaseId).map (·.1))
  | .registerCheckpoint recoveryRef checkpoint =>
    match k.recovery with
    | none => k
    | some checkpoints =>
      match Kernel.registerCheckpoint checkpoints recoveryRef checkpoint with
      | .error _ => k
      | .ok checkpoints => { k with recovery := some checkpoints }
  | .writeState record check context =>
    { k with state := (k.state.write config.codec record check context).1 }
  | .restoreState checkpoint =>
    { k with state := (k.state.restoreVerified config.codec checkpoint).1 }
  | .replaceContext items =>
    if config.identityRun.isSome then { k with contextItems := items } else k
  | .identity guard => { k with guard := guard }
  | .construct parts => constructed k.state parts (k.serial + 1) k.history
  | .reload parts =>
    match k.state.persistence with
    | none => k
    | some database =>
      match StateCore.reload config.codec database with
      | .error _ => k
      | .ok state => constructed state parts (k.serial + 1) k.history

end UniversalKernelRuntime

/-! ## A configuration

The objects the repository's tests build: one OCS, one capability, one lease. -/

namespace Fixture

def config : RuntimeConfig ℕ :=
  { governance :=
      { identities := (∅ : Dict String OCSIdentity).insert "SOFIA" ⟨"SOFIA", ["repo.write"]⟩
        capabilities := (∅ : Dict String (List String)).insert "SOFIA" ["repo.write"]
        assurance := none }
    broker :=
      { adapters := (∅ : Dict String AdapterEntry).insert "repo.write" ⟨1, true⟩
        compensationVerifiers := (∅ : Dict String ℕ).insert "repo.write" 2 }
    codec := .numbers
    identity := ⟨∅, fun base => toString base.sequence, fun binding => binding.runId⟩
    identityRun := none }

def lease : AuthorityLease :=
  { leaseId := "lease-1", ocs := "SOFIA", capability := "repo.write", expiresAt := 160
    actor := "SOFIA", issuedAt := 99, notBefore := 99, scope := ["repo.write", "repo.read"]
    tenant := "tenant-1", contextRef := "context-1", authorityRef := "authority-1"
    policySnapshot := "policy-r1", actionBinding := "repository.write"
    objectRefOrSelector := "object:r1a", traceRef := "trace:r1a", maxUses := 1
    usesConsumed := 0, revocable := true, singleUse := false, state := .active
    revoked := false }

def proposal : ActionProposal ℕ :=
  { actionId := "action-1", actor := "SOFIA", ocs := "SOFIA", capability := "repo.write"
    operation := "write", payload := 7, risk := .low, leaseId := some "lease-1"
    evidence := [⟨"evidence-1", true, none⟩], actionType := some "repository.write"
    issuedAt := some 99, cspRef := some "csp:r1a", objectRef := some "object:r1a"
    tenant := some "tenant-1", contextRef := some "context-1", scope := ["repo.write"]
    authorityRef := some "authority-1", policySnapshot := some "policy-r1"
    idempotencyKey := some "key-1", expectedEffect := some "written"
    sideEffectClass := some .bounded, reversibilityClass := some .compensatable
    recoveryRef := some "recovery-1", expiresAt := some 150
    evidenceAssessmentRef := some "assessment-1", traceId := some "trace:r1a" }

/-- An environment without faults at a fixed time. -/
def steady (readback : Except PyError (MaterialReadback ℕ)) : Point → StepEnv ℕ :=
  fun _ =>
    { clock := fun _ => 100
      faults := ⟨false, false, false⟩
      finalizeFault := none
      answers :=
        { mutate := .ok "m-1"
          readback := readback
          compensate := .ok "c-1"
          verifierReadback := .ok ⟨"c-1", 0⟩
          verify := .ok true } }

/-- The adapter's readback succeeds. -/
def good : Point → StepEnv ℕ := steady (.ok ⟨"m-1", 7⟩)

/-- The adapter's readback raises after its mutation. -/
def unread : Point → StepEnv ℕ := steady (.error (.runtimeError "readback_failed"))

/-- A first runtime without identity guard or recovery manager. -/
def runtime : UniversalKernelRuntime ℕ :=
  .fresh .empty .empty (.restart []) none []

end Fixture

end ReisOs.Kernel
