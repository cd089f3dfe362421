import ReisOs.Kernel.Identity
import ReisOs.Kernel.EffectRecovery
import ReisOs.Kernel.Governance

/-!
# Context sanitation

`ContextSanitizer.assess`: transient context is sorted into accepted and rejected
references before an action; foreign autobiography is an identity conflict.
-/

namespace ReisOs.Kernel

inductive ContextClass where
  | canonicalState | recoveredInstitutionalState | currentRunContext
  | nonCanonicalConversationalContext | foreignOcsContext | hostMetadata
  deriving DecidableEq, Repr

structure ContextItem where
  contextRef : String
  contextClass : ContextClass
  sourceOcs : Option String
  autobiographical : Bool
  declaredActor : Option String
  deriving DecidableEq, Repr

structure ContextAssessment where
  acceptedRefs : List String
  rejectedRefs : List String
  identityConflict : Bool
  reasons : List String
  deriving DecidableEq, Repr

namespace ContextAssessment

def accept (assessment : ContextAssessment) (ref : String) : ContextAssessment :=
  { assessment with acceptedRefs := assessment.acceptedRefs ++ [ref] }

def reject (assessment : ContextAssessment) (ref reason : String) (conflict : Bool) :
    ContextAssessment :=
  { assessment with
    rejectedRefs := assessment.rejectedRefs ++ [ref]
    reasons := assessment.reasons ++ [reason]
    identityConflict := assessment.identityConflict || conflict }

end ContextAssessment

/-- One iteration of the loop in `assess`. -/
def assessItem (activeOcs : String) (assessment : ContextAssessment)
    (item : ContextItem) : ContextAssessment :=
  if item.contextRef = "" then
    assessment.reject item.contextRef "context_ref_required" false
  else if item.contextClass = .foreignOcsContext then
    assessment.reject item.contextRef "foreign_ocs_context_rejected"
      item.autobiographical
  else if item.sourceOcs.any (· ≠ activeOcs) && item.autobiographical then
    assessment.reject item.contextRef "cross_ocs_autobiographical_context_rejected" true
  else if item.declaredActor.any (· ≠ activeOcs) &&
      item.contextClass ≠ .hostMetadata then
    assessment.reject item.contextRef "institutional_actor_identity_conflict" true
  else assessment.accept item.contextRef

/-- `ContextSanitizer.assess`. -/
def assessContext (activeOcs : String) (items : List ContextItem) : ContextAssessment :=
  items.foldl (assessItem activeOcs) ⟨[], [], false, []⟩

/-!
## The kernel runtime

`UniversalKernelRuntime.execute` as a machine.  A phase is a place in the method
together with its live local variables; one step runs the source from one phase
to the next, and is cut so that every use of the lease manager, the state core
and the adapter is a step of its own.  Between two steps other code may run.
What the outside decides in a step (clock readings, adapter answers, faults
armed in the trace core) is an argument of the step.
-/

open ReisOs.Core

variable {P : Type}

/-! ## State -/

/-- One call of `adapter.mutate`, with the lease manager and the clock readings
under which the material boundary let it through. -/
structure MutateCall (P : Type) where
  proposal : ActionProposal P
  envelope : AuthorizedActionEnvelope P
  leases : AuthorityLeaseManager
  now : Time
  later : Time
  outcome : Except PyError String

def MutateCall.completed (call : MutateCall P) : Bool := call.outcome.isOk

/-- One call of `StateCore.write` by the runtime. -/
structure StateWrite (P : Type) where
  runtime : ℕ
  proposal : ActionProposal P
  record : StateRecord P
  before : StateCore P
  outcome : Except PyError (StateRecord P)

def StateWrite.committed (call : StateWrite P) : Bool := call.outcome.isOk

/-- The calls to the adapter and to the state core so far, oldest first.  No
definition of the program reads them. -/
structure History (P : Type) where
  mutateCalls : List (MutateCall P)
  stateWrites : List (StateWrite P)

/-- The identity arguments of the constructor. -/
structure IdentityRun where
  runId : String
  activeOcs : String
  host : String
  sessionContext : String
  deriving DecidableEq, Repr

/-- What stays fixed over the life of a runtime. -/
structure RuntimeConfig (P : Type) where
  governance : GovernanceEngine
  broker : ToolBroker
  codec : StateCodec P
  identity : IdentityConfig
  identityRun : Option IdentityRun

/-- A runtime with the objects it holds.  `seq` is the number its counter drew
last; `serial` tells runtime objects over one state core apart. -/
structure UniversalKernelRuntime (P : Type) where
  leases : AuthorityLeaseManager
  effectorCompleted : Dict String (MaterialReadback P)
  state : StateCore P
  trace : TraceCore
  guard : IdentityKernelGuard
  recovery : Option (Checkpoints P)
  contextItems : List ContextItem
  completed : Dict String (String × ExecutionResult P)
  seq : ℕ
  serial : ℕ
  history : History P

/-- Values assigned to the fault attributes of the trace core. -/
structure TraceFaults where
  append : Bool
  preflight : Bool
  finalization : Bool
  deriving DecidableEq, Repr

def TraceCore.arm (trace : TraceCore) (faults : TraceFaults) : TraceCore :=
  { trace with
    failNextAppend := faults.append
    failNextPreflight := faults.preflight
    failNextFinalization := faults.finalization }

/-- What the outside decides during one step. -/
structure StepEnv (P : Type) where
  clock : ℕ → Time
  faults : TraceFaults
  finalizeFault : Option PyError
  answers : AdapterAnswers P

/-- No trace append and no lease finalisation fails in the step. -/
def StepEnv.Faultless (env : StepEnv P) : Prop :=
  env.faults = ⟨false, false, false⟩ ∧ env.finalizeFault = none

/-! ## Phases -/

/-- The three appends of `_trace_governance`. -/
inductive GovernanceStage where
  | proposal | evidence | governance
  deriving DecidableEq, Repr

inductive Phase (P : Type) where
  | identityPreAction
  | sanitizeContext
  | replayLookup
  | authorize
  | assemble (checked : GovernanceResult P)
  | traceDenial (result : GovernanceResult P) (stage : GovernanceStage)
  | preflightGate (result : GovernanceResult P) (envelope : AuthorizedActionEnvelope P)
  | reserve (result : GovernanceResult P) (envelope : AuthorizedActionEnvelope P)
  | traceGrant (result : GovernanceResult P) (envelope : AuthorizedActionEnvelope P)
      (stage : GovernanceStage)
  | stageAuthorized (envelope : AuthorizedActionEnvelope P)
  | stagePreflight (envelope : AuthorizedActionEnvelope P)
  | identityPreEffect (envelope : AuthorizedActionEnvelope P)
  | materialEffect (envelope : AuthorizedActionEnvelope P)
  | recover (envelope : AuthorizedActionEnvelope P) (reason : String)
  | stageReadback (envelope : AuthorizedActionEnvelope P) (readback : MaterialReadback P)
  | identityPrePersist (envelope : AuthorizedActionEnvelope P)
      (readback : MaterialReadback P)
  | stateWrite (envelope : AuthorizedActionEnvelope P) (readback : MaterialReadback P)
  | stageState (envelope : AuthorizedActionEnvelope P) (readback : MaterialReadback P)
      (record : StateRecord P)
  | finalize (envelope : AuthorizedActionEnvelope P) (readback : MaterialReadback P)
  | stageFinalize (envelope : AuthorizedActionEnvelope P)
      (readback : MaterialReadback P) (leaseState : LeaseState)
  | stageClose (envelope : AuthorizedActionEnvelope P) (readback : MaterialReadback P)
  | complete (envelope : AuthorizedActionEnvelope P) (readback : MaterialReadback P)
  | returned (outcome : Except PyError (ExecutionResult P))

/-- The names of the phases before the method returns. -/
inductive Point where
  | identityPreAction | sanitizeContext | replayLookup | authorize | assemble
  | traceProposal | traceEvidence | traceGovernance | preflightGate | reserve
  | stageAuthorized | stagePreflight | identityPreEffect | materialEffect | recover
  | stageReadback | identityPrePersist | stateWrite | stageState | finalize
  | stageFinalize | stageClose | complete
  deriving DecidableEq, Repr

def GovernanceStage.point : GovernanceStage → Point
  | .proposal => .traceProposal
  | .evidence => .traceEvidence
  | .governance => .traceGovernance

namespace Phase

def point : Phase P → Point
  | .identityPreAction => .identityPreAction
  | .sanitizeContext => .sanitizeContext
  | .replayLookup => .replayLookup
  | .authorize => .authorize
  | .assemble _ => .assemble
  | .traceDenial _ stage => stage.point
  | .preflightGate _ _ => .preflightGate
  | .reserve _ _ => .reserve
  | .traceGrant _ _ stage => stage.point
  | .stageAuthorized _ => .stageAuthorized
  | .stagePreflight _ => .stagePreflight
  | .identityPreEffect _ => .identityPreEffect
  | .materialEffect _ => .materialEffect
  | .recover _ _ => .recover
  | .stageReadback _ _ => .stageReadback
  | .identityPrePersist _ _ => .identityPrePersist
  | .stateWrite _ _ => .stateWrite
  | .stageState _ _ _ => .stageState
  | .finalize _ _ => .finalize
  | .stageFinalize _ _ _ => .stageFinalize
  | .stageClose _ _ => .stageClose
  | .complete _ _ => .complete
  | .returned _ => .complete

/-- `ExecutionResult(False, False, proven, reason, governance_decision=decision)`. -/
def unauthorized (p : ActionProposal P) (proven : Bool) (reason : String)
    (decision : AuthorizationDecision) : Phase P :=
  .returned (.ok
    { authorized := false
      effected := false
      proven := proven
      reason := reason
      governanceDecision := some decision
      traceId := p.traceId })

/-- `ExecutionResult(True, False, False, reason)`. -/
def untraced (p : ActionProposal P) (reason : String)
    (decision : AuthorizationDecision) : Phase P :=
  .returned (.ok
    { authorized := true
      effected := false
      proven := false
      reason := reason
      governanceDecision := some decision
      traceId := p.traceId })

/-- The `except ValueError` and `except RuntimeError` clauses; nothing else is
caught. -/
def raised (envelope : AuthorizedActionEnvelope P) (effected : Bool)
    (readback : Option (MaterialReadback P)) : PyError → Phase P
  | .valueError message =>
    .returned (.ok
      { authorized := effected
        effected := effected
        proven := !effected
        reason := message
        readback := readback
        governanceDecision := some (if effected then .allow else .deny)
        traceId := some envelope.traceId
        residualEffect := effected })
  | .runtimeError message =>
    .returned (.ok
      { authorized := true
        effected := effected
        proven := false
        reason := message
        readback := readback
        governanceDecision := some .allow
        traceId := some envelope.traceId
        residualEffect := effected })
  | error => .returned (.error error)

/-- The `except ValueError` clause of `_identity_pre_action`. -/
def identityRefused (p : ActionProposal P) : PyError → Phase P
  | .valueError reason => unauthorized p true reason .deny
  | error => .returned (.error error)

/-- The `except ValueError` clause around the `PRE_PERSIST` check. -/
def persistRefused (envelope : AuthorizedActionEnvelope P)
    (readback : MaterialReadback P) : PyError → Phase P
  | .valueError reason =>
    .returned (.ok
      { authorized := true
        effected := true
        proven := false
        reason := reason
        readback := some readback
        governanceDecision := some .allow
        traceId := some envelope.traceId
        residualEffect := true })
  | error => raised envelope true (some readback) error

/-- The `except RuntimeError` clause of `_trace_governance`, with what `execute`
returns on its `False`. -/
def traceFailed (otherwise : Phase P) : PyError → Phase P
  | .runtimeError _ => otherwise
  | error => .returned (.error error)

end Phase

namespace Phase

/-- A bound on the number of steps to the end of the call. -/
def remaining : Phase P → ℕ
  | .identityPreAction => 22
  | .sanitizeContext => 21
  | .replayLookup => 20
  | .authorize => 19
  | .assemble _ => 18
  | .preflightGate _ _ => 17
  | .reserve _ _ => 16
  | .traceDenial _ .proposal | .traceGrant _ _ .proposal => 15
  | .traceDenial _ .evidence | .traceGrant _ _ .evidence => 14
  | .traceDenial _ .governance | .traceGrant _ _ .governance => 13
  | .stageAuthorized _ => 12
  | .stagePreflight _ => 11
  | .identityPreEffect _ => 10
  | .materialEffect _ => 9
  | .stageReadback _ _ => 8
  | .identityPrePersist _ _ => 7
  | .stateWrite _ _ => 6
  | .stageState _ _ _ => 5
  | .finalize _ _ => 4
  | .stageFinalize _ _ _ => 3
  | .stageClose _ _ => 2
  | .recover _ _ | .complete _ _ => 1
  | .returned _ => 0

end Phase

namespace UniversalKernelRuntime

/-! ## Steps -/

/-- `_require_identity`. -/
def requireIdentity (config : RuntimeConfig P) (k : UniversalKernelRuntime P)
    (ocs : String) (trigger : IdentityRecheckTrigger) :
    UniversalKernelRuntime P × Except PyError Unit :=
  match config.identityRun with
  | none => (k, .ok ())
  | some run =>
    match k.guard.requireValid config.identity run.runId ocs trigger
        (some run.host) with
    | (guard, .ok _) => ({ k with guard := guard }, .ok ())
    | (guard, .error error) => ({ k with guard := guard }, .error error)

/-- `_sanitize_context`. -/
def sanitizeContext (config : RuntimeConfig P) (k : UniversalKernelRuntime P)
    (ocs : String) : UniversalKernelRuntime P × Except PyError Unit :=
  match config.identityRun with
  | none => (k, .ok ())
  | some run =>
    match k.guard.requireValid config.identity run.runId ocs .causalAttribution
        (some run.host) with
    | (guard, .error error) => ({ k with guard := guard }, .error error)
    | (guard, .ok binding) =>
      let assessment := assessContext ocs k.contextItems
      let guard := guard.log config.identity "CONTEXT_SANITATION" binding
        [("accepted_refs", .texts assessment.acceptedRefs),
          ("rejected_refs", .texts assessment.rejectedRefs),
          ("identity_conflict", .flag assessment.identityConflict),
          ("reasons", .texts assessment.reasons)]
      if assessment.identityConflict then
        let reason := assessment.reasons.headD "identity_context_conflict"
        match guard.hold config.identity run.runId reason with
        | .error error => ({ k with guard := guard }, .error error)
        | .ok (guard, _) => ({ k with guard := guard }, .error (.valueError reason))
      else ({ k with guard := guard }, .ok ())

/-- Go on to the next phase unless the statement raised. -/
def proceed (answer : UniversalKernelRuntime P × Except PyError Unit)
    (failed : PyError → Phase P) (next : Phase P) :
    UniversalKernelRuntime P × Phase P :=
  match answer with
  | (k, .ok ()) => (k, next)
  | (k, .error error) => (k, failed error)

/-- `_event_id`, with the number just drawn. -/
def eventId (actionId stage : String) (number : ℕ) : String :=
  s!"trace:{actionId}:{stage}:{number}"

/-- The state id `execute` builds, with the number just drawn. -/
def stateId (ocs : String) (number : ℕ) : String := s!"state:{ocs}:{number}"

/-- `append_stage` with a fresh event id. -/
def stage (env : StepEnv P) (k : UniversalKernelRuntime P)
    (actionId label name : String) (details : Details) :
    UniversalKernelRuntime P × Except PyError Unit :=
  match (k.trace.arm env.faults).appendStage (eventId actionId label (k.seq + 1))
      actionId name details with
  | (trace, answer) => ({ k with trace := trace, seq := k.seq + 1 }, answer)

/-- The `TRACE_PREFLIGHT` append behind its gate. -/
def preflight (env : StepEnv P) (k : UniversalKernelRuntime P)
    (actionId : String) (envelope : AuthorizedActionEnvelope P) :
    UniversalKernelRuntime P × Except PyError Unit :=
  match (k.trace.arm env.faults).preflight
      (eventId actionId "preflight" (k.seq + 1)) actionId
      [("trace_id", .text envelope.traceId),
        ("authority_ref", .text envelope.authorityRef),
        ("lease_id", .text envelope.leaseId)] with
  | (trace, answer) => ({ k with trace := trace, seq := k.seq + 1 }, answer)

/-- `preflight_gate`. -/
def preflightGate (env : StepEnv P) (k : UniversalKernelRuntime P) :
    UniversalKernelRuntime P × Except PyError Unit :=
  match (k.trace.arm env.faults).preflightGate with
  | (trace, answer) => ({ k with trace := trace }, answer)

/-- One append of `_trace_governance`. -/
def governanceStage (env : StepEnv P) (k : UniversalKernelRuntime P)
    (p : ActionProposal P) (result : GovernanceResult P) :
    GovernanceStage → UniversalKernelRuntime P × Except PyError Unit
  | .proposal =>
    stage env k p.actionId "proposal" "ACTION_PROPOSAL"
      [("trace_id", .text (p.traceId.getD ""))]
  | .evidence =>
    stage env k p.actionId "evidence" "EVIDENCE_ASSESSMENT"
      [("sufficiency",
          result.evidenceAssessment.elim .none fun a => .flag a.sufficiency),
        ("deficits", .texts (result.evidenceAssessment.elim [] (·.deficits)))]
  | .governance =>
    stage env k p.actionId "governance" "GOVERNANCE_DECISION"
      [("decision", .text result.decision.value), ("reason", .text result.reason),
        ("trace_id", .text (p.traceId.getD ""))]

/-- After a call of `adapter.mutate`. -/
def called (env : StepEnv P) (k : UniversalKernelRuntime P) (p : ActionProposal P)
    (envelope : AuthorizedActionEnvelope P) (outcome : Except PyError String) :
    UniversalKernelRuntime P :=
  { k with
    history.mutateCalls := k.history.mutateCalls ++
      [⟨p, envelope, k.leases, env.clock 0, env.clock 1, outcome⟩] }

/-- After a call of `StateCore.write`. -/
def wrote (k : UniversalKernelRuntime P) (p : ActionProposal P)
    (record : StateRecord P)
    (answer : StateCore P × Except PyError (StateRecord P)) :
    UniversalKernelRuntime P :=
  { k with
    state := answer.1
    seq := k.seq + 1
    history.stateWrites := k.history.stateWrites ++
      [⟨k.serial, p, record, k.state, answer.2⟩] }

/-- The guarded effect: final lease check and adapter calls, under the lease
manager's lock. -/
def materialEffect (config : RuntimeConfig P) (env : StepEnv P)
    (k : UniversalKernelRuntime P) (p : ActionProposal P)
    (envelope : AuthorizedActionEnvelope P) :
    UniversalKernelRuntime P × Phase P :=
  match k.leases.materialEffectGuard (env.clock 0) (env.clock 1) envelope with
  | .error error => (k, .raised envelope false none error)
  | .ok () =>
    match effectorExecute config.broker k.effectorCompleted env.answers envelope with
    | .cached readback => (k, .stageReadback envelope readback)
    | .refused error => (k, .raised envelope false none error)
    | .mutateFailed error =>
      (k.called env p envelope (.error error), .raised envelope false none error)
    | .readbackFailed mutationId (.runtimeError reason) =>
      (k.called env p envelope (.ok mutationId), .recover envelope reason)
    | .readbackFailed mutationId error =>
      (k.called env p envelope (.ok mutationId), .raised envelope false none error)
    | .applied mutationId readback =>
      ({ k.called env p envelope (.ok mutationId) with
          effectorCompleted :=
            k.effectorCompleted.insert envelope.idempotencyKey readback },
        .stageReadback envelope readback)

/-- The record `execute` commits on top of the current one. -/
def nextRecord (k : UniversalKernelRuntime P) (ocs : String)
    (current : Option (StateRecord P)) (readback : MaterialReadback P) :
    StateRecord P :=
  { stateId := stateId ocs (k.seq + 1)
    ocs := ocs
    version := current.elim 1 (·.version + 1)
    predecessor := current.map (·.stateId)
    payload := readback.state
    verified := true }

/-- The keyword arguments of the commit. -/
def writeContext (p : ActionProposal P) (envelope : AuthorizedActionEnvelope P)
    (record : StateRecord P) : WriteContext :=
  { actorOcsId := some p.ocs
    targetNamespace := some (stateNamespace p.ocs "runtime")
    stateRef := some record.stateId
    authorityContext := some envelope.authorityRef }

variable [DecidableEq P]

/-- `recover_post_effect` in the `except MaterialEffectFailure` clause. -/
def recoverEffect (config : RuntimeConfig P) (env : StepEnv P)
    (k : UniversalKernelRuntime P) (envelope : AuthorizedActionEnvelope P)
    (reason : String) : UniversalKernelRuntime P × Phase P :=
  let result (receipt : Option (RecoveryReceipt P)) : ExecutionResult P :=
    { authorized := true
      effected := true
      proven := false
      reason := reason
      governanceDecision := some .allow
      traceId := some envelope.traceId
      recoveryReceipt := receipt
      residualEffect := receipt.elim true (·.residualEffect) }
  match k.recovery with
  | none => (k, .returned (.ok (result none)))
  | some checkpoints =>
    match recoverPostEffect config.broker config.codec checkpoints k.state
        env.answers envelope with
    | (state, .error error) => ({ k with state := state }, .returned (.error error))
    | (state, .ok receipt) =>
      ({ k with state := state }, .returned (.ok (result (some receipt))))

/-- The commit of a record on top of the current one. -/
def commitAnswer (config : RuntimeConfig P) (k : UniversalKernelRuntime P)
    (p : ActionProposal P) (envelope : AuthorizedActionEnvelope P)
    (record : StateRecord P) : StateCore P × Except PyError (StateRecord P) :=
  k.state.write config.codec record (fun stored => .ok (stored = record))
    (writeContext p envelope record)

/-- The state commit. -/
def commitState (config : RuntimeConfig P) (k : UniversalKernelRuntime P)
    (p : ActionProposal P) (envelope : AuthorizedActionEnvelope P)
    (readback : MaterialReadback P) : UniversalKernelRuntime P × Phase P :=
  match k.state.current p.ocs with
  | .error error => (k, .raised envelope true (some readback) error)
  | .ok current =>
    let record := k.nextRecord p.ocs current readback
    let answer := k.commitAnswer config p envelope record
    match answer.2 with
    | .error error =>
      (k.wrote p record answer, .raised envelope true (some readback) error)
    | .ok _ => (k.wrote p record answer, .stageState envelope readback record)

/-- The result `execute` reports and caches at its end. -/
def provenResult (envelope : AuthorizedActionEnvelope P)
    (readback : MaterialReadback P) : ExecutionResult P :=
  { authorized := true
    effected := true
    proven := true
    reason := "effect_proven"
    readback := some readback
    governanceDecision := some .allow
    traceId := some envelope.traceId }

/-- One step of `execute(p)`. -/
def advance (config : RuntimeConfig P) (p : ActionProposal P) (env : StepEnv P)
    (k : UniversalKernelRuntime P) : Phase P → UniversalKernelRuntime P × Phase P
  | .identityPreAction =>
    proceed (k.requireIdentity config p.ocs .preAction) (.identityRefused p)
      .sanitizeContext
  | .sanitizeContext =>
    proceed (k.sanitizeContext config p.ocs) (.identityRefused p) .replayLookup
  | .replayLookup =>
    match p.idempotencyKey.bind k.completed.lookup with
    | none => (k, .authorize)
    | some (completedActionId, completedResult) =>
      if completedActionId ≠ p.actionId then
        (k, .unauthorized p true "idempotency_conflict" .deny)
      else (k, .returned (.ok completedResult))
  | .authorize =>
    match config.governance.authorizeChecks k.leases env.clock p with
    | .error error => (k, .returned (.error error))
    | .ok checked =>
      match checked.decision with
      | .allow => (k, .assemble checked)
      | .deny | .hold => (k, .traceDenial checked .proposal)
  | .assemble checked =>
    match GovernanceEngine.assembleEnvelope k.leases p checked with
    | .error error => (k, .returned (.error error))
    | .ok result =>
      match result.envelope with
      | none =>
        (k, .unauthorized p false "authorized_envelope_missing" result.decision)
      | some envelope => (k, .preflightGate result envelope)
  | .traceDenial result name =>
    proceed (k.governanceStage env p result name)
      (.traceFailed (.unauthorized p false result.reason result.decision))
      (match name with
        | .proposal => .traceDenial result .evidence
        | .evidence => .traceDenial result .governance
        | .governance => .unauthorized p true result.reason result.decision)
  | .preflightGate result envelope =>
    match k.preflightGate env with
    | (k, .ok ()) => (k, .reserve result envelope)
    | (k, .error (.runtimeError reason)) => (k, .untraced p reason result.decision)
    | (k, .error error) => (k, .returned (.error error))
  | .reserve result envelope =>
    match GovernanceEngine.reserveAuthority k.leases (env.clock 0) (env.clock 1)
        envelope with
    | (leases, reservation) =>
      match reservation.decision, reservation.envelope with
      | .deny, _ | _, none =>
        ({ k with leases := leases },
          .unauthorized p true reservation.reason .deny)
      | _, some reserved =>
        ({ k with leases := leases }, .traceGrant result reserved .proposal)
  | .traceGrant result envelope name =>
    proceed (k.governanceStage env p result name)
      (.traceFailed (.untraced p "trace_append_failed" result.decision))
      (match name with
        | .proposal => .traceGrant result envelope .evidence
        | .evidence => .traceGrant result envelope .governance
        | .governance => .stageAuthorized envelope)
  | .stageAuthorized envelope =>
    proceed
      (k.stage env p.actionId "authorized" "AUTHORIZED_ACTION_ENVELOPE"
        [("trace_id", .text envelope.traceId), ("lease_id", .text envelope.leaseId),
          ("lease_use_index", envelope.leaseUseIndex.elim .none .number),
          ("idempotency_key", .text envelope.idempotencyKey)])
      (.raised envelope false none) (.stagePreflight envelope)
  | .stagePreflight envelope =>
    proceed (k.preflight env p.actionId envelope) (.raised envelope false none)
      (.identityPreEffect envelope)
  | .identityPreEffect envelope =>
    proceed (k.requireIdentity config p.ocs .preAction) (.raised envelope false none)
      (.materialEffect envelope)
  | .materialEffect envelope => k.materialEffect config env p envelope
  | .recover envelope reason => k.recoverEffect config env envelope reason
  | .stageReadback envelope readback =>
    proceed
      (k.stage env p.actionId "readback" "MATERIAL_EFFECT_READBACK"
        [("mutation_id", .text readback.mutationId)])
      (.raised envelope true (some readback)) (.identityPrePersist envelope readback)
  | .identityPrePersist envelope readback =>
    proceed (k.requireIdentity config p.ocs .prePersist)
      (.persistRefused envelope readback) (.stateWrite envelope readback)
  | .stateWrite envelope readback => k.commitState config p envelope readback
  | .stageState envelope readback record =>
    proceed
      (k.stage env p.actionId "state" "STATE_MANAGER_COMMIT"
        [("state_id", .text record.stateId), ("version", .number record.version)])
      (.raised envelope true (some readback)) (.finalize envelope readback)
  | .finalize envelope readback =>
    match env.finalizeFault, k.leases.finalize envelope.leaseId with
    | some error, _ | none, .error error =>
      (k, .raised envelope true (some readback) error)
    | none, .ok (leases, leaseState) =>
      ({ k with leases := leases }, .stageFinalize envelope readback leaseState)
  | .stageFinalize envelope readback leaseState =>
    proceed
      (k.stage env p.actionId "lease-finalize" "LEASE_FINALIZE_OR_RELEASE"
        [("lease_id", .text envelope.leaseId),
          ("lease_state", .text leaseState.value)])
      (.raised envelope true (some readback)) (.stageClose envelope readback)
  | .stageClose envelope readback =>
    proceed
      (k.stage env p.actionId "close" "TRACE_CLOSE"
        [("trace_id", .text envelope.traceId)])
      (.raised envelope true (some readback)) (.complete envelope readback)
  | .complete envelope readback =>
    ({ k with
        completed := k.completed.insert envelope.idempotencyKey
          (envelope.actionId, provenResult envelope readback) },
      .returned (.ok (provenResult envelope readback)))
  | .returned outcome => (k, .returned outcome)

/-! ## Whole calls -/

/-- The next configuration of a call whose environment answers at each point. -/
def callStep (config : RuntimeConfig P) (p : ActionProposal P)
    (answers : Point → StepEnv P) (place : UniversalKernelRuntime P × Phase P) :
    UniversalKernelRuntime P × Phase P :=
  place.1.advance config p (answers place.2.point) place.2

/-- `execute`, run without interruption; the phase it ends in holds the outcome. -/
def execute (config : RuntimeConfig P) (p : ActionProposal P)
    (answers : Point → StepEnv P) (k : UniversalKernelRuntime P) :
    UniversalKernelRuntime P × Phase P :=
  (callStep config p answers)^[Phase.identityPreAction.remaining (P := P)]
    (k, .identityPreAction)

end UniversalKernelRuntime

end ReisOs.Kernel
