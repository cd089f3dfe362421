import ReisOs.Core.Runs
import ReisOs.Kernel.Leases
import ReisOs.Kernel.Runtime

/-!
# What one step of `execute` can do

`Progress` forgets where a call stands in the source and keeps what it has
achieved: an authorization, a reserved use, an applied effect, a committed state.
`Move` lists everything a step can do to the runtime at each stage of progress,
and `advance_move` says that the source's steps do nothing else.  Invariants of
runs are proved about moves.
-/

namespace ReisOs.Kernel

open ReisOs.Core

variable {P : Type}

/-- What a call has achieved so far. -/
inductive Progress (P : Type) where
  | started
  /-- No cached result answers the call. -/
  | fresh
  | checked (result : GovernanceResult P)
  | authorized (envelope : AuthorizedActionEnvelope P)
  | reserved (envelope : AuthorizedActionEnvelope P)
  /-- The adapter mutated, but its readback failed. -/
  | unread (envelope : AuthorizedActionEnvelope P)
  | applied (envelope : AuthorizedActionEnvelope P) (readback : MaterialReadback P)
  | committed (envelope : AuthorizedActionEnvelope P) (readback : MaterialReadback P)
  | finalized (envelope : AuthorizedActionEnvelope P) (readback : MaterialReadback P)
  | returned (outcome : Except PyError (ExecutionResult P))

def Phase.progress : Phase P → Progress P
  | .identityPreAction | .sanitizeContext | .replayLookup => .started
  | .authorize | .traceDenial _ _ => .fresh
  | .assemble result => .checked result
  | .preflightGate _ envelope | .reserve _ envelope => .authorized envelope
  | .traceGrant _ envelope _ | .stageAuthorized envelope | .stagePreflight envelope
  | .identityPreEffect envelope | .materialEffect envelope => .reserved envelope
  | .recover envelope _ => .unread envelope
  | .stageReadback envelope readback | .identityPrePersist envelope readback
  | .stateWrite envelope readback => .applied envelope readback
  | .stageState envelope readback _ | .finalize envelope readback =>
    .committed envelope readback
  | .stageFinalize envelope readback _ | .stageClose envelope readback
  | .complete envelope readback => .finalized envelope readback
  | .returned outcome => .returned outcome

/-- The state has been committed, the call has not returned. -/
def Progress.Settling : Progress P → Prop
  | .committed _ _ | .finalized _ _ => True
  | _ => False

/-- The result that claims an applied and recorded effect. -/
def ExecutionResult.ReportsEffect (result : ExecutionResult P) : Prop :=
  result.effected = true ∧ result.proven = true ∧ result.reason = "effect_proven"

def Reports : Except PyError (ExecutionResult P) → Prop
  | .ok result => result.ReportsEffect
  | .error _ => False

namespace UniversalKernelRuntime

/-- Only the trace, the identity guard and the counter may differ, and the counter
does not fall. -/
structure Quiet (k k' : UniversalKernelRuntime P) : Prop where
  leases : k'.leases = k.leases
  effectorCompleted : k'.effectorCompleted = k.effectorCompleted
  state : k'.state = k.state
  recovery : k'.recovery = k.recovery
  contextItems : k'.contextItems = k.contextItems
  completed : k'.completed = k.completed
  seq : k.seq ≤ k'.seq
  serial : k'.serial = k.serial
  history : k'.history = k.history

theorem Quiet.refl (k : UniversalKernelRuntime P) : Quiet k k := by
  constructor <;> rfl

/-! ## Quiet steps -/

variable {config : RuntimeConfig P} {p : ActionProposal P} {env : StepEnv P}

theorem requireIdentity_quiet (k : UniversalKernelRuntime P) (ocs : String)
    (trigger : IdentityRecheckTrigger) :
    Quiet k (k.requireIdentity config ocs trigger).1 := by
  unfold requireIdentity
  split
  · exact .refl k
  · split <;> constructor <;> rfl

theorem sanitizeContext_quiet (k : UniversalKernelRuntime P) (ocs : String) :
    Quiet k (k.sanitizeContext config ocs).1 := by
  unfold sanitizeContext
  split
  · exact .refl k
  · split
    · constructor <;> rfl
    · dsimp only
      split
      · split <;> constructor <;> rfl
      · constructor <;> rfl

theorem stage_quiet (k : UniversalKernelRuntime P) (actionId label name : String)
    (details : Details) : Quiet k (k.stage env actionId label name details).1 := by
  constructor <;> first | rfl | exact Nat.le_succ _

theorem preflight_quiet (k : UniversalKernelRuntime P) (actionId : String)
    (envelope : AuthorizedActionEnvelope P) :
    Quiet k (k.preflight env actionId envelope).1 := by
  constructor <;> first | rfl | exact Nat.le_succ _

theorem preflightGate_quiet (k : UniversalKernelRuntime P) :
    Quiet k (k.preflightGate env).1 := by
  constructor <;> rfl

theorem governanceStage_quiet (k : UniversalKernelRuntime P)
    (result : GovernanceResult P) (name : GovernanceStage) :
    Quiet k (k.governanceStage env p result name).1 := by
  cases name <;> exact stage_quiet k ..

theorem appendStage_ok {trace : TraceCore} (happend : trace.failNextAppend = false)
    (hfinalization : trace.failNextFinalization = false)
    (eventId actionId name : String) (details : Details) :
    (trace.appendStage eventId actionId name details).2 = .ok () := by
  simp [TraceCore.appendStage, TraceCore.append, happend, hfinalization]

theorem stage_ok (hfaultless : env.Faultless) (k : UniversalKernelRuntime P)
    (actionId label name : String) (details : Details) :
    (k.stage env actionId label name details).2 = .ok () := by
  apply appendStage_ok <;> simp [TraceCore.arm, hfaultless.1]

/-! ## Outcomes that report nothing -/

theorem raised_progress (envelope : AuthorizedActionEnvelope P) (effected : Bool)
    (readback : Option (MaterialReadback P)) (error : PyError) :
    ∃ outcome, (Phase.raised envelope effected readback error).progress =
      .returned outcome ∧ ¬ Reports outcome := by
  cases error <;> cases effected <;> refine ⟨_, rfl, ?_⟩ <;>
    simp [Reports, ExecutionResult.ReportsEffect]

theorem unauthorized_progress (p : ActionProposal P) (proven : Bool) (reason : String)
    (decision : AuthorizationDecision) :
    ∃ outcome, (Phase.unauthorized p proven reason decision).progress =
      .returned outcome ∧ ¬ Reports outcome := by
  exact ⟨_, rfl, by simp [Reports, ExecutionResult.ReportsEffect]⟩

theorem untraced_progress (p : ActionProposal P) (reason : String)
    (decision : AuthorizationDecision) :
    ∃ outcome, (Phase.untraced p reason decision).progress =
      .returned outcome ∧ ¬ Reports outcome := by
  exact ⟨_, rfl, by simp [Reports, ExecutionResult.ReportsEffect]⟩

theorem identityRefused_progress (p : ActionProposal P) (error : PyError) :
    ∃ outcome, (Phase.identityRefused p error).progress =
      .returned outcome ∧ ¬ Reports outcome := by
  cases error with
  | valueError reason => exact unauthorized_progress ..
  | runtimeError _ | keyError _ | integrityError => exact ⟨_, rfl, by simp [Reports]⟩

theorem persistRefused_progress (envelope : AuthorizedActionEnvelope P)
    (readback : MaterialReadback P) (error : PyError) :
    ∃ outcome, (Phase.persistRefused envelope readback error).progress =
      .returned outcome ∧ ¬ Reports outcome := by
  cases error <;>
    exact ⟨_, rfl, by simp [Reports, ExecutionResult.ReportsEffect]⟩

theorem traceFailed_progress {otherwise : Phase P}
    (hotherwise : ∃ outcome, otherwise.progress = .returned outcome ∧ ¬ Reports outcome)
    (error : PyError) :
    ∃ outcome, (Phase.traceFailed otherwise error).progress =
      .returned outcome ∧ ¬ Reports outcome := by
  cases error with
  | runtimeError _ => exact hotherwise
  | valueError _ | keyError _ | integrityError => exact ⟨_, rfl, by simp [Reports]⟩

/-! ## Moves -/

variable [DecidableEq P]

/-- Everything a step of `execute(p)` can do. -/
inductive Move (config : RuntimeConfig P) (p : ActionProposal P) (env : StepEnv P) :
    UniversalKernelRuntime P → Progress P →
    UniversalKernelRuntime P → Progress P → Prop where
  | quiet {k k' progress} (hquiet : Quiet k k') : Move config p env k progress k' progress
  | refuse {k k' progress outcome} (hquiet : Quiet k k') (hreport : ¬ Reports outcome)
      (hfault : progress.Settling → ¬ env.Faultless) :
      Move config p env k progress k' (.returned outcome)
  | replay {k key result} (hkey : p.idempotencyKey = some key)
      (hresult : k.completed.lookup key = some (p.actionId, result)) :
      Move config p env k .started k (.returned (.ok result))
  | miss {k} (hfresh : p.idempotencyKey.bind k.completed.lookup = none) :
      Move config p env k .started k .fresh
  | check {k result}
      (hchecks : config.governance.authorizeChecks k.leases env.clock p = .ok result)
      (hallow : result.decision = .allow) :
      Move config p env k .fresh k (.checked result)
  | assemble {k result leaseId lease envelope} (hlease : p.leaseId = some leaseId)
      (hlookup : k.leases.leases.lookup leaseId = some lease)
      (henvelope : buildEnvelope p lease.maxUses = some envelope) :
      Move config p env k (.checked result) k (.authorized envelope)
  | reserve {k envelope leases reason useIndex}
      (hreserve : k.leases.reserveUse (env.clock 0) (env.clock 1) envelope =
        (leases, .ok (reason, useIndex))) :
      Move config p env k (.authorized envelope) { k with leases := leases }
        (.reserved { envelope with leaseUseIndex := some useIndex })
  | replayEffect {k envelope readback}
      (hguard : k.leases.materialEffectGuard (env.clock 0) (env.clock 1) envelope = .ok ())
      (hcached : k.effectorCompleted.lookup envelope.idempotencyKey = some readback) :
      Move config p env k (.reserved envelope) k (.applied envelope readback)
  | mutateFailed {k envelope error outcome}
      (hguard : k.leases.materialEffectGuard (env.clock 0) (env.clock 1) envelope = .ok ())
      (hcached : k.effectorCompleted.lookup envelope.idempotencyKey = none)
      (hreport : ¬ Reports outcome) :
      Move config p env k (.reserved envelope) (k.called env p envelope (.error error))
        (.returned outcome)
  | mutateUnread {k envelope mutationId progress}
      (hguard : k.leases.materialEffectGuard (env.clock 0) (env.clock 1) envelope = .ok ())
      (hcached : k.effectorCompleted.lookup envelope.idempotencyKey = none)
      (hnext : progress = .unread envelope ∨
        ∃ outcome, progress = .returned outcome ∧ ¬ Reports outcome)
      (hresolved : ∃ adapter, config.broker.resolveFor envelope = .ok adapter) :
      Move config p env k (.reserved envelope) (k.called env p envelope (.ok mutationId))
        progress
  | mutate {k envelope mutationId readback}
      (hguard : k.leases.materialEffectGuard (env.clock 0) (env.clock 1) envelope = .ok ())
      (hcached : k.effectorCompleted.lookup envelope.idempotencyKey = none)
      (hresolved : ∃ adapter, config.broker.resolveFor envelope = .ok adapter) :
      Move config p env k (.reserved envelope)
        { k.called env p envelope (.ok mutationId) with
          effectorCompleted := k.effectorCompleted.insert envelope.idempotencyKey readback }
        (.applied envelope readback)
  | recover {k envelope checkpoints answer outcome} (hrecovery : k.recovery = some checkpoints)
      (hanswer : recoverPostEffect config.broker config.codec checkpoints k.state
        env.answers envelope = answer)
      (hreport : ¬ Reports outcome) :
      Move config p env k (.unread envelope) { k with state := answer.1 }
        (.returned outcome)
  | commitFailed {k envelope readback current record error outcome}
      (hcurrent : k.state.current p.ocs = .ok current)
      (hrecord : record = k.nextRecord p.ocs current readback)
      (hwrite : (k.commitAnswer config p envelope record).2 = .error error)
      (hreport : ¬ Reports outcome) :
      Move config p env k (.applied envelope readback)
        (k.wrote p record (k.commitAnswer config p envelope record)) (.returned outcome)
  | commit {k envelope readback current record persisted}
      (hcurrent : k.state.current p.ocs = .ok current)
      (hrecord : record = k.nextRecord p.ocs current readback)
      (hwrite : (k.commitAnswer config p envelope record).2 = .ok persisted) :
      Move config p env k (.applied envelope readback)
        (k.wrote p record (k.commitAnswer config p envelope record))
        (.committed envelope readback)
  | finalizeFailed {k envelope readback error outcome}
      (hfinalize : k.leases.finalize envelope.leaseId = .error error)
      (hreport : ¬ Reports outcome) :
      Move config p env k (.committed envelope readback) k (.returned outcome)
  | finalize {k envelope readback leases leaseState}
      (hfinalize : k.leases.finalize envelope.leaseId = .ok (leases, leaseState)) :
      Move config p env k (.committed envelope readback) { k with leases := leases }
        (.finalized envelope readback)
  | complete {k envelope readback} :
      Move config p env k (.finalized envelope readback)
        { k with
          completed := k.completed.insert envelope.idempotencyKey
            (envelope.actionId, provenResult envelope readback) }
        (.returned (.ok (provenResult envelope readback)))

theorem Move.of_returned {k k' : UniversalKernelRuntime P} {progress next : Progress P}
    (hquiet : Quiet k k')
    (hnext : ∃ outcome, next = .returned outcome ∧ ¬ Reports outcome)
    (hfault : progress.Settling → ¬ env.Faultless) :
    Move config p env k progress k' next := by
  obtain ⟨outcome, rfl, hreport⟩ := hnext
  exact .refuse hquiet hreport hfault

/-! ## The steps of the source -/

theorem materialEffect_move (k : UniversalKernelRuntime P)
    (envelope : AuthorizedActionEnvelope P) :
    Move config p env k (.reserved envelope) (k.materialEffect config env p envelope).1
      (k.materialEffect config env p envelope).2.progress := by
  unfold materialEffect
  split
  · exact .of_returned (.refl k) (raised_progress ..) False.elim
  · rename_i hguard
    split <;> rename_i heffect
    · exact .replayEffect hguard (lookup_of_effectorExecute_cached heffect)
    · exact .of_returned (.refl k) (raised_progress ..) False.elim
    all_goals
      have huncached := lookup_eq_none_of_effectorExecute heffect (by simp)
    · rename_i error
      obtain ⟨outcome, hprogress, hreport⟩ := raised_progress envelope false none error
      dsimp only
      rw [hprogress]
      exact .mutateFailed hguard huncached hreport
    all_goals
      have hresolved := resolveFor_of_effectorExecute heffect (by simp) (by simp)
    · exact .mutateUnread hguard huncached (.inl rfl) hresolved
    · exact .mutateUnread hguard huncached (.inr (raised_progress ..)) hresolved
    · exact .mutate hguard huncached hresolved

theorem recoverEffect_move (k : UniversalKernelRuntime P)
    (envelope : AuthorizedActionEnvelope P) (reason : String) :
    Move config p env k (.unread envelope) (k.recoverEffect config env envelope reason).1
      (k.recoverEffect config env envelope reason).2.progress := by
  unfold recoverEffect
  split
  · exact .refuse (.refl k) (by simp [Reports, ExecutionResult.ReportsEffect])
      False.elim
  · rename_i checkpoints hrecovery
    split
    · rename_i hanswer
      refine .recover hrecovery hanswer ?_
      simp [Reports]
    · rename_i hanswer
      refine .recover hrecovery hanswer ?_
      simp [Reports, ExecutionResult.ReportsEffect]

theorem commitState_move (k : UniversalKernelRuntime P)
    (envelope : AuthorizedActionEnvelope P) (readback : MaterialReadback P) :
    Move config p env k (.applied envelope readback)
      (k.commitState config p envelope readback).1
      (k.commitState config p envelope readback).2.progress := by
  unfold commitState
  split
  · exact .of_returned (.refl k) (raised_progress ..) False.elim
  · rename_i hcurrent
    dsimp only
    split <;> rename_i hwrite
    · rename_i error
      obtain ⟨outcome, hprogress, hreport⟩ :=
        raised_progress envelope true (some readback) error
      dsimp only
      rw [hprogress]
      exact .commitFailed hcurrent rfl hwrite hreport
    · exact .commit hcurrent rfl hwrite

/-- A statement that touches nothing the lease, effect and state invariants speak
about, and whose exceptions end the call without a report. -/
theorem proceed_move {k : UniversalKernelRuntime P}
    {answer : UniversalKernelRuntime P × Except PyError Unit}
    {failed : PyError → Phase P} {next : Phase P} {progress : Progress P}
    (hquiet : Quiet k answer.1)
    (hfailed : ∀ error, ∃ outcome,
      (failed error).progress = .returned outcome ∧ ¬ Reports outcome)
    (hnext : next.progress = progress ∨
      ∃ outcome, next.progress = .returned outcome ∧ ¬ Reports outcome)
    (hfault : progress.Settling →
      next.progress = progress ∧ (env.Faultless → answer.2 = .ok ())) :
    Move config p env k progress (proceed answer failed next).1
      (proceed answer failed next).2.progress := by
  obtain ⟨k', error | _⟩ := answer
  · refine .of_returned hquiet (hfailed error) fun hsettling hfaultless => ?_
    exact absurd ((hfault hsettling).2 hfaultless) (by simp)
  · rcases hnext with hnext | hnext
    · have h : Move config p env k progress k' progress := .quiet hquiet
      rwa [← hnext] at h ⊢
    · refine .of_returned hquiet hnext fun hsettling => ?_
      obtain ⟨outcome, houtcome, -⟩ := hnext
      rw [(hfault hsettling).1] at houtcome
      simp [houtcome, Progress.Settling] at hsettling

theorem reserve_move (k : UniversalKernelRuntime P) (result : GovernanceResult P)
    (envelope : AuthorizedActionEnvelope P) :
    Move config p env k (.authorized envelope)
      (k.advance config p env (.reserve result envelope)).1
      (k.advance config p env (.reserve result envelope)).2.progress := by
  simp only [advance]
  rcases hreserve : k.leases.reserveUse (env.clock 0) (env.clock 1) envelope with
    ⟨leases, reason | ⟨reason, useIndex⟩⟩
  · have hleases := AuthorityLeaseManager.reserveUse_refused hreserve
    subst hleases
    simp only [GovernanceEngine.reserveAuthority, hreserve]
    exact .of_returned (.refl k) (unauthorized_progress ..) False.elim
  · simp only [GovernanceEngine.reserveAuthority, hreserve]
    exact .reserve hreserve

/-- The source's steps do nothing but moves. -/
theorem advance_move (k : UniversalKernelRuntime P) (phase : Phase P) :
    Move config p env k phase.progress (k.advance config p env phase).1
      (k.advance config p env phase).2.progress := by
  have hunsettled {progress : Progress P} {claim : Prop} (h : ¬ progress.Settling) :
      progress.Settling → claim := fun hsettling => absurd hsettling h
  cases phase with
  | identityPreAction =>
    exact proceed_move (requireIdentity_quiet ..) (identityRefused_progress p)
      (.inl rfl) (hunsettled id)
  | sanitizeContext =>
    exact proceed_move (sanitizeContext_quiet ..) (identityRefused_progress p)
      (.inl rfl) (hunsettled id)
  | replayLookup =>
    simp only [advance]
    split
    · rename_i hlookup
      exact .miss hlookup
    · rename_i completedActionId completedResult hlookup
      split
      · exact .of_returned (.refl k) (unauthorized_progress ..)
          False.elim
      · rename_i haction
        obtain ⟨key, hkey, hresult⟩ := Option.bind_eq_some_iff.mp hlookup
        rw [not_not.mp haction] at hresult
        exact .replay hkey hresult
  | authorize =>
    simp only [advance]
    split
    · exact .refuse (.refl k) (by simp [Reports])
        False.elim
    · rename_i checked hchecks
      cases hdecision : checked.decision with
      | allow => exact .check hchecks hdecision
      | deny | hold => exact .quiet (.refl k)
  | assemble checked =>
    simp only [advance]
    split
    · exact .refuse (.refl k) (by simp [Reports])
        False.elim
    · rename_i result hassemble
      split
      · exact .of_returned (.refl k) (unauthorized_progress ..)
          False.elim
      · rename_i envelope henvelope
        simp only [GovernanceEngine.assembleEnvelope] at hassemble
        split at hassemble
        · cases hassemble
        · rename_i lease hlease
          obtain ⟨leaseId, hleaseId, hlookup⟩ := Option.bind_eq_some_iff.mp hlease
          cases hassemble
          exact .assemble hleaseId hlookup henvelope
  | traceDenial result name =>
    refine proceed_move (governanceStage_quiet ..)
      (traceFailed_progress (unauthorized_progress ..)) ?_
      (hunsettled id)
    cases name with
    | proposal | evidence => exact .inl rfl
    | governance => exact .inr (unauthorized_progress ..)
  | preflightGate result envelope =>
    have hquiet : Quiet k (k.preflightGate env).1 := preflightGate_quiet k
    simp only [advance]
    split
    · rename_i hgate
      rw [hgate] at hquiet
      exact .quiet hquiet
    · rename_i hgate
      rw [hgate] at hquiet
      exact .of_returned hquiet (untraced_progress ..)
        False.elim
    · rename_i hgate
      rw [hgate] at hquiet
      exact .refuse hquiet (by simp [Reports])
        False.elim
  | reserve result envelope => exact reserve_move k result envelope
  | traceGrant result envelope name =>
    refine proceed_move (governanceStage_quiet ..)
      (traceFailed_progress (untraced_progress ..)) (.inl ?_)
      (hunsettled id)
    cases name <;> rfl
  | stageAuthorized envelope =>
    exact proceed_move (stage_quiet ..) (raised_progress envelope false none)
      (.inl rfl) (hunsettled id)
  | stagePreflight envelope =>
    exact proceed_move (preflight_quiet ..) (raised_progress envelope false none)
      (.inl rfl) (hunsettled id)
  | identityPreEffect envelope =>
    exact proceed_move (requireIdentity_quiet ..) (raised_progress envelope false none)
      (.inl rfl) (hunsettled id)
  | materialEffect envelope => exact materialEffect_move k envelope
  | recover envelope reason => exact recoverEffect_move k envelope reason
  | stageReadback envelope readback =>
    exact proceed_move (stage_quiet ..) (raised_progress envelope true (some readback))
      (.inl rfl) (hunsettled id)
  | identityPrePersist envelope readback =>
    exact proceed_move (requireIdentity_quiet ..)
      (persistRefused_progress envelope readback)
      (.inl rfl) (hunsettled id)
  | stateWrite envelope readback => exact commitState_move k envelope readback
  | stageState envelope readback record =>
    exact proceed_move (stage_quiet ..) (raised_progress envelope true (some readback))
      (.inl rfl) fun _ => ⟨rfl, fun h => stage_ok h ..⟩
  | finalize envelope readback =>
    simp only [advance]
    split
    · rename_i hfault
      exact .of_returned (.refl k) (raised_progress ..) fun _ hfaultless => by
        simp [hfaultless.2] at hfault
    · rename_i hfinalize
      obtain ⟨outcome, hprogress, hreport⟩ :=
        raised_progress envelope true (some readback) _
      dsimp only
      rw [hprogress]
      exact .finalizeFailed hfinalize hreport
    · rename_i hfinalize
      exact .finalize hfinalize
  | stageFinalize envelope readback leaseState =>
    exact proceed_move (stage_quiet ..) (raised_progress envelope true (some readback))
      (.inl rfl) fun _ => ⟨rfl, fun h => stage_ok h ..⟩
  | stageClose envelope readback =>
    exact proceed_move (stage_quiet ..) (raised_progress envelope true (some readback))
      (.inl rfl) fun _ => ⟨rfl, fun h => stage_ok h ..⟩
  | complete envelope readback => exact .complete
  | returned outcome => exact .quiet (.refl k)

end UniversalKernelRuntime

end ReisOs.Kernel
