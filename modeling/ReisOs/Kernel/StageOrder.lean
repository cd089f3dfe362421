import ReisOs.Kernel.Calls

/-!
# The order of the trace stages

Any number of runtimes write to one trace core.  A call of `execute` appends its
stages at nine places, some of them on a path of denial, and each append may fail.
Here the steps of all calls are interleaved, every call keeps a list of what it
has appended and of its calls of the adapter, and the list of appended stages is
shown to grow along one fixed sequence.
-/

namespace ReisOs.Kernel

open ReisOs.Core

variable {P : Type}

/-- The stages of a call that applies its effect and records it. -/
def stageOrder : List String :=
  ["ACTION_PROPOSAL", "EVIDENCE_ASSESSMENT", "GOVERNANCE_DECISION",
    "AUTHORIZED_ACTION_ENVELOPE", "TRACE_PREFLIGHT", "MATERIAL_EFFECT_READBACK",
    "STATE_MANAGER_COMMIT", "LEASE_FINALIZE_OR_RELEASE", "TRACE_CLOSE"]

/-- How many stages a call has appended when it stands in the phase. -/
def Phase.depth : Phase P → ℕ
  | .traceDenial _ .evidence | .traceGrant _ _ .evidence => 1
  | .traceDenial _ .governance | .traceGrant _ _ .governance => 2
  | .stageAuthorized _ => 3
  | .stagePreflight _ => 4
  | .identityPreEffect _ | .materialEffect _ | .recover _ _ | .stageReadback _ _ => 5
  | .identityPrePersist _ _ | .stateWrite _ _ | .stageState _ _ _ => 6
  | .finalize _ _ | .stageFinalize _ _ _ => 7
  | .stageClose _ _ => 8
  | .complete _ _ => 9
  | _ => 0

/-! ## Appending to the chain -/

namespace TraceCore

/-- The predecessor the next event has to name. -/
def tip (trace : TraceCore) : Option String := trace.events.getLast?.map (·.eventId)

theorem chainFrom_append (events : List TraceEvent) (event : TraceEvent)
    (predecessor : Option String) :
    chainFrom predecessor (events ++ [event]) = true ↔
      chainFrom predecessor events = true ∧
        event.predecessor = (events.getLast?.map (·.eventId)).or predecessor := by
  induction events generalizing predecessor with
  | nil => simp [chainFrom]
  | cons first events ih =>
    simp only [List.cons_append, chainFrom]
    by_cases hfirst : first.predecessor = predecessor
    · have hlast : (first :: events).getLast?.map (·.eventId) =
          (events.getLast?.map (·.eventId)).or (some first.eventId) := by
        cases hevents : events.getLast? with
        | none => simp [List.getLast?_eq_none_iff.mp hevents]
        | some last => simp [List.getLast?_cons, hevents]
      rw [if_neg (not_not.mpr hfirst), if_neg (not_not.mpr hfirst), ih, hlast]
      simp
    · simp [hfirst]

/-- An append either leaves the events or adds one that continues the chain. -/
inductive Appending (name : String) (trace : TraceCore) :
    TraceCore × Except PyError Unit → Prop where
  | failed {after error} (hevents : after.events = trace.events) :
      Appending name trace (after, .error error)
  | appended {after event} (hevents : after.events = trace.events ++ [event])
      (hstage : event.stage = name) (hpredecessor : event.predecessor = trace.tip) :
      Appending name trace (after, .ok ())

theorem appendStage_appending (trace : TraceCore) (eventId actionId name : String)
    (details : Details) :
    Appending name trace (trace.appendStage eventId actionId name details) := by
  unfold appendStage
  split
  · exact .failed rfl
  · unfold append
    split
    · exact .failed rfl
    · split
      · exact .failed rfl
      · exact .appended rfl rfl rfl

theorem preflight_appending (trace : TraceCore) (eventId actionId : String)
    (details : Details) :
    Appending "TRACE_PREFLIGHT" trace (trace.preflight eventId actionId details) := by
  unfold preflight preflightGate
  by_cases hgate : trace.failNextPreflight = true
  · simp only [hgate, ↓reduceIte]
    exact .failed rfl
  · simp only [hgate, Bool.false_eq_true, ↓reduceIte]
    exact appendStage_appending trace eventId actionId "TRACE_PREFLIGHT" details

end TraceCore

/-! ## What one step appends -/

/-- A step appends nothing, or the one stage that is due; unless the call returns, its
next phase counts the stage. -/
inductive StageStep (k : UniversalKernelRuntime P) (phase : Phase P)
    (k' : UniversalKernelRuntime P) (phase' : Phase P) : Prop where
  | silent (hevents : k'.trace.events = k.trace.events)
      (hdepth : phase'.remaining ≠ 0 → phase'.depth = phase.depth)
  | append (event : TraceEvent) (hevents : k'.trace.events = k.trace.events ++ [event])
      (hpredecessor : event.predecessor = k.trace.tip)
      (hdue : stageOrder[phase.depth]? = some event.stage)
      (hdepth : phase'.remaining ≠ 0 → phase'.depth = phase.depth + 1)

namespace UniversalKernelRuntime

variable {config : RuntimeConfig P} {p : ActionProposal P} {env : StepEnv P}
  {k : UniversalKernelRuntime P}

theorem requireIdentity_trace (ocs : String) (trigger : IdentityRecheckTrigger) :
    (k.requireIdentity config ocs trigger).1.trace = k.trace := by
  unfold requireIdentity
  split
  · rfl
  · split <;> rfl

theorem sanitizeContext_trace (ocs : String) :
    (k.sanitizeContext config ocs).1.trace = k.trace := by
  unfold sanitizeContext
  split
  · rfl
  · split
    · rfl
    · dsimp only
      split
      · split <;> rfl
      · rfl

variable {failed : PyError → Phase P} {phase : Phase P}

theorem proceed_silent {answer : UniversalKernelRuntime P × Except PyError Unit} {next : Phase P}
    (htrace : answer.1.trace = k.trace) (hfailed : ∀ error, (failed error).remaining = 0)
    (hnext : next.depth = phase.depth) :
    StageStep k phase (proceed answer failed next).1 (proceed answer failed next).2 := by
  obtain ⟨k', error | _⟩ := answer
  · have hevents : k'.trace.events = k.trace.events := congrArg TraceCore.events htrace
    exact .silent hevents fun hlive => absurd (hfailed error) hlive
  · exact .silent (congrArg TraceCore.events htrace) fun _ => hnext

theorem proceed_append {answer : TraceCore × Except PyError Unit} {trace : TraceCore}
    {seq : ℕ} {name : String} {next : Phase P}
    (hanswer : TraceCore.Appending name trace answer)
    (hevents : trace.events = k.trace.events)
    (hdue : stageOrder[phase.depth]? = some name)
    (hfailed : ∀ error, (failed error).remaining = 0)
    (hnext : next.remaining ≠ 0 → next.depth = phase.depth + 1) :
    StageStep k phase
      (proceed ({ k with trace := answer.1, seq := seq }, answer.2) failed next).1
      (proceed ({ k with trace := answer.1, seq := seq }, answer.2) failed next).2 := by
  cases hanswer with
  | failed hafter =>
    exact .silent (hafter.trans hevents) fun hlive => absurd (hfailed _) hlive
  | @appended after event hafter hstage hpredecessor =>
    have htip : trace.tip = k.trace.tip := by
      simp only [TraceCore.tip, hevents]
    refine .append event ?_ (hpredecessor.trans htip) ?_ hnext
    · rw [← hevents]
      exact hafter
    · rw [hstage]
      exact hdue

theorem stage_append {actionId label name : String} {details : Details} {next : Phase P}
    (hdue : stageOrder[phase.depth]? = some name)
    (hfailed : ∀ error, (failed error).remaining = 0)
    (hnext : next.remaining ≠ 0 → next.depth = phase.depth + 1) :
    StageStep k phase (proceed (k.stage env actionId label name details) failed next).1
      (proceed (k.stage env actionId label name details) failed next).2 :=
  proceed_append (TraceCore.appendStage_appending (k.trace.arm env.faults) ..) rfl hdue
    hfailed hnext

theorem materialEffect_silent (envelope : AuthorizedActionEnvelope P) :
    StageStep k (.materialEffect envelope) (k.materialEffect config env p envelope).1
      (k.materialEffect config env p envelope).2 := by
  have hraised (k' : UniversalKernelRuntime P) (hevents : k'.trace.events = k.trace.events)
      (error : PyError) :
      StageStep k (.materialEffect envelope) k' (.raised envelope false none error) :=
    .silent hevents fun hlive => absurd (raised_remaining ..) hlive
  unfold materialEffect
  split
  · exact hraised k rfl _
  · split
    · exact .silent rfl fun _ => rfl
    · exact hraised k rfl _
    · exact hraised (k.called env p envelope _) rfl _
    · exact .silent rfl fun _ => rfl
    · exact hraised (k.called env p envelope _) rfl _
    · exact .silent rfl fun _ => rfl

variable [DecidableEq P]

theorem recoverEffect_silent (envelope : AuthorizedActionEnvelope P) (reason : String) :
    StageStep k (.recover envelope reason) (k.recoverEffect config env envelope reason).1
      (k.recoverEffect config env envelope reason).2 := by
  unfold recoverEffect
  split
  · exact .silent rfl fun hlive => absurd rfl hlive
  · dsimp only
    split <;> exact .silent rfl fun hlive => absurd rfl hlive

theorem commitState_silent (envelope : AuthorizedActionEnvelope P)
    (readback : MaterialReadback P) :
    StageStep k (.stateWrite envelope readback)
      (k.commitState config p envelope readback).1
      (k.commitState config p envelope readback).2 := by
  unfold commitState
  split
  · exact .silent rfl fun hlive => absurd (raised_remaining ..) hlive
  · dsimp only
    split
    · exact .silent rfl fun hlive => absurd (raised_remaining ..) hlive
    · exact .silent rfl fun _ => rfl

/-- Every step of the source appends nothing or the stage that is due. -/
theorem advance_stageStep (k : UniversalKernelRuntime P) (phase : Phase P) :
    StageStep k phase (k.advance config p env phase).1
      (k.advance config p env phase).2 := by
  have hquiet {next : Phase P} (hdepth : next.remaining ≠ 0 → next.depth = phase.depth) :
      StageStep k phase k next := .silent rfl hdepth
  cases phase with
  | identityPreAction =>
    exact proceed_silent (requireIdentity_trace ..) identityRefused_remaining rfl
  | sanitizeContext =>
    exact proceed_silent (sanitizeContext_trace ..) identityRefused_remaining rfl
  | replayLookup =>
    simp only [advance]
    split
    · exact hquiet fun _ => rfl
    · split <;> exact hquiet fun hlive => absurd rfl hlive
  | authorize =>
    simp only [advance]
    split
    · exact hquiet fun hlive => absurd rfl hlive
    · split <;> exact hquiet fun _ => rfl
  | assemble checked =>
    simp only [advance]
    split
    · exact hquiet fun hlive => absurd rfl hlive
    · split
      · exact hquiet fun hlive => absurd rfl hlive
      · exact hquiet fun _ => rfl
  | traceDenial result name =>
    have hfailed (error : PyError) : (Phase.traceFailed
        (.unauthorized p false result.reason result.decision) error).remaining = 0 :=
      traceFailed_remaining rfl error
    cases name <;> simp only [advance, governanceStage]
    case governance => exact stage_append rfl hfailed fun hlive => absurd rfl hlive
    all_goals exact stage_append rfl hfailed fun _ => rfl
  | preflightGate result envelope =>
    have hgate : (k.preflightGate env).1.trace.events = k.trace.events := by
      simp only [preflightGate, TraceCore.preflightGate]
      split <;> rfl
    simp only [advance]
    split <;> rename_i hanswer <;> rw [hanswer] at hgate
    · exact .silent hgate fun _ => rfl
    · exact .silent hgate fun hlive => absurd rfl hlive
    · exact .silent hgate fun hlive => absurd rfl hlive
  | reserve result envelope =>
    simp only [advance]
    split
    · exact .silent rfl fun hlive => absurd rfl hlive
    · exact .silent rfl fun hlive => absurd rfl hlive
    · exact .silent rfl fun _ => rfl
  | traceGrant result envelope name =>
    have hfailed (error : PyError) : (Phase.traceFailed
        (.untraced p "trace_append_failed" result.decision) error).remaining = 0 :=
      traceFailed_remaining rfl error
    cases name <;> simp only [advance, governanceStage]
    all_goals exact stage_append rfl hfailed fun _ => rfl
  | stageAuthorized envelope =>
    exact stage_append rfl (raised_remaining envelope false none) fun _ => rfl
  | stagePreflight envelope =>
    exact proceed_append (TraceCore.preflight_appending (k.trace.arm env.faults) ..) rfl
      rfl (raised_remaining envelope false none) fun _ => rfl
  | identityPreEffect envelope =>
    exact proceed_silent (requireIdentity_trace ..) (raised_remaining envelope false none)
      rfl
  | materialEffect envelope => exact materialEffect_silent envelope
  | recover envelope reason => exact recoverEffect_silent envelope reason
  | stageReadback envelope readback =>
    exact stage_append rfl (raised_remaining envelope true (some readback)) fun _ => rfl
  | identityPrePersist envelope readback =>
    exact proceed_silent (requireIdentity_trace ..)
      (persistRefused_remaining envelope readback) rfl
  | stateWrite envelope readback => exact commitState_silent envelope readback
  | stageState envelope readback record =>
    exact stage_append rfl (raised_remaining envelope true (some readback)) fun _ => rfl
  | finalize envelope readback =>
    simp only [advance]
    split
    · exact hquiet fun hlive => absurd (raised_remaining ..) hlive
    · exact hquiet fun hlive => absurd (raised_remaining ..) hlive
    · exact .silent rfl fun _ => rfl
  | stageFinalize envelope readback leaseState | stageClose envelope readback =>
    exact stage_append rfl (raised_remaining envelope true (some readback)) fun _ => rfl
  | complete envelope readback => exact .silent rfl fun hlive => absurd rfl hlive
  | returned outcome => exact hquiet fun _ => rfl

theorem advance_mutateCalls
    (hphase : ∀ envelope, phase ≠ .materialEffect envelope) :
    (k.advance config p env phase).1.history.mutateCalls = k.history.mutateCalls := by
  have hproceed {answer : UniversalKernelRuntime P × Except PyError Unit}
      {failed : PyError → Phase P} {next : Phase P} (hquiet : Quiet k answer.1) :
      (proceed answer failed next).1.history.mutateCalls = k.history.mutateCalls := by
    obtain ⟨k', error | _⟩ := answer <;>
      exact congrArg History.mutateCalls hquiet.history
  have hmove : Move config p env k phase.progress (k.advance config p env phase).1
      (k.advance config p env phase).2.progress := advance_move k phase
  rcases hmove.mutateCalls_cases with hsame | ⟨envelope, outcome, hprogress, -⟩
  · exact hsame
  · cases phase with
    | traceGrant result envelope name => exact hproceed (governanceStage_quiet ..)
    | stageAuthorized envelope => exact hproceed (stage_quiet ..)
    | stagePreflight envelope => exact hproceed (preflight_quiet ..)
    | identityPreEffect envelope => exact hproceed (requireIdentity_quiet ..)
    | materialEffect envelope => exact absurd rfl (hphase envelope)
    | _ => cases hprogress

theorem Move.completed_eq {progress progress' : Progress P} {k' : UniversalKernelRuntime P}
    (hmove : Move config p env k progress k' progress')
    (hprogress : ∀ envelope readback, progress ≠ .finalized envelope readback) :
    k'.completed = k.completed := by
  cases hmove with
  | quiet hquiet | refuse hquiet => exact hquiet.completed
  | complete => exact absurd rfl (hprogress _ _)
  | _ => rfl

theorem Move.reported {progress : Progress P} {k' : UniversalKernelRuntime P}
    {outcome : Except PyError (ExecutionResult P)}
    (hmove : Move config p env k progress k' (.returned outcome))
    (hreport : Reports outcome) (hlive : progress ≠ .returned outcome) :
    (∃ key entry, p.idempotencyKey = some key ∧ k.completed.lookup key = some entry) ∨
      ∃ envelope readback, progress = .finalized envelope readback := by
  cases hmove with
  | quiet => exact absurd rfl hlive
  | replay hkey hresult => exact .inl ⟨_, _, hkey, hresult⟩
  | complete => exact .inr ⟨_, _, rfl⟩
  | mutateUnread _ _ hnext =>
    rcases hnext with hnext | ⟨_, hnext, hsilent⟩
    · cases hnext
    · cases hnext
      exact absurd hreport hsilent
  | refuse _ hsilent | mutateFailed _ _ hsilent | recover _ _ hsilent
  | commitFailed _ _ _ hsilent | finalizeFailed _ hsilent => exact absurd hreport hsilent

/-- A step ends a call with a report from the runtime's cache, or at its very end. -/
theorem advance_reports {outcome : Except PyError (ExecutionResult P)}
    (hlive : phase.remaining ≠ 0)
    (hreturned : (k.advance config p env phase).2 = .returned outcome)
    (hreport : Reports outcome) :
    (∃ key entry, p.idempotencyKey = some key ∧ k.completed.lookup key = some entry) ∨
      ∃ envelope readback, phase = .complete envelope readback := by
  have hraised {answer : UniversalKernelRuntime P × Except PyError Unit} {next : Phase P}
      {envelope : AuthorizedActionEnvelope P} {readback : MaterialReadback P}
      (hanswer : (proceed answer (.raised envelope true (some readback)) next).2 =
        .returned outcome) : next = .returned outcome := by
    obtain ⟨k', error | _⟩ := answer
    · obtain ⟨silent, hprogress, hsilent⟩ :=
        raised_progress envelope true (some readback) error
      have heq : (Phase.raised envelope true (some readback) error).progress =
          .returned outcome := congrArg Phase.progress hanswer
      rw [hprogress] at heq
      cases heq
      exact absurd hreport hsilent
    · exact hanswer
  have hmove : Move config p env k phase.progress (k.advance config p env phase).1
      (k.advance config p env phase).2.progress := advance_move k phase
  rw [hreturned] at hmove
  have hstarted : phase.progress ≠ .returned outcome := by
    intro heq
    cases phase with
    | returned => exact hlive rfl
    | _ => cases heq
  rcases hmove.reported hreport hstarted with hcached | ⟨envelope, readback, hprogress⟩
  · exact .inl hcached
  · cases phase with
    | stageFinalize | stageClose => cases hraised hreturned
    | complete envelope readback => exact .inr ⟨envelope, readback, rfl⟩
    | _ => cases hprogress

/-- Only the last statement of a call stores a result, under the envelope's key. -/
theorem advance_completed {key : String}
    {entry : String × ExecutionResult P}
    (hlookup : (k.advance config p env phase).1.completed.lookup key = some entry) :
    k.completed.lookup key = some entry ∨
      ∃ envelope readback, phase = .complete envelope readback ∧
        envelope.idempotencyKey = key := by
  have hproceed {answer : UniversalKernelRuntime P × Except PyError Unit}
      {failed : PyError → Phase P} {next : Phase P} (hquiet : Quiet k answer.1) :
      (proceed answer failed next).1.completed = k.completed := by
    obtain ⟨k', error | _⟩ := answer <;> exact hquiet.completed
  have hmove : Move config p env k phase.progress (k.advance config p env phase).1
      (k.advance config p env phase).2.progress := advance_move k phase
  by_cases hfinalized : ∃ envelope readback, phase.progress = .finalized envelope readback
  · obtain ⟨_, _, hprogress⟩ := hfinalized
    cases phase with
    | stageFinalize envelope readback leaseState =>
      rw [advance, hproceed (stage_quiet ..)] at hlookup
      exact .inl hlookup
    | stageClose envelope readback =>
      rw [advance, hproceed (stage_quiet ..)] at hlookup
      exact .inl hlookup
    | complete envelope readback =>
      by_cases hkey : key = envelope.idempotencyKey
      · exact .inr ⟨envelope, readback, rfl, hkey.symm⟩
      · simp only [advance, Dict.lookup_insert_eq, hkey, ↓reduceIte] at hlookup
        exact .inl hlookup
    | _ => cases hprogress
  · have hsame : (k.advance config p env phase).1.completed = k.completed :=
      hmove.completed_eq fun envelope readback h => hfinalized ⟨envelope, readback, h⟩
    rw [hsame] at hlookup
    exact .inl hlookup

end UniversalKernelRuntime

/-! ## Runtimes over one trace core -/

/-- What a call does to the trace core and to the adapter. -/
inductive CallEvent (P : Type) where
  | appended (event : TraceEvent)
  | mutated (call : MutateCall P)

/-- The stages among the events of a call. -/
def stagesOf (events : List (CallEvent P)) : List String :=
  events.filterMap fun
    | .appended event => some event.stage
    | .mutated _ => none

/-- A call of `execute` with what it has done so far, oldest first. -/
structure TracedCall (ι P : Type) where
  runtime : ι
  proposal : ActionProposal P
  phase : Phase P
  events : List (CallEvent P)

namespace TracedCall

variable {ι : Type}

def stages (call : TracedCall ι P) : List String := stagesOf call.events

/-- The call returned `effect_proven`. -/
def ProvesEffect (call : TracedCall ι P) : Prop :=
  ∃ outcome, call.phase = .returned outcome ∧ Reports outcome

def SameKey (call other : TracedCall ι P) : Prop :=
  call.runtime = other.runtime ∧
    call.proposal.idempotencyKey = other.proposal.idempotencyKey

/-- The call had appended its preflight whenever it called the adapter. -/
def EffectsPreflighted (call : TracedCall ι P) : Prop :=
  ∀ n mutation, call.events[n]? = some (.mutated mutation) →
    "TRACE_PREFLIGHT" ∈ stagesOf (call.events.take n)

end TracedCall

/-- Runtimes that share a trace core, their calls in progress, and the calls that have
returned or raised, in this order. -/
structure SharedTrace (ι P : Type) where
  trace : TraceCore
  runtimes : ι → UniversalKernelRuntime P
  active : List (TracedCall ι P)
  ended : List (TracedCall ι P)

inductive SharedAction (ι P : Type) where
  | begin (runtime : ι) (p : ActionProposal P)
  /-- The next step of a call in progress. -/
  | step (index : ℕ) (answers : Point → StepEnv P)
  /-- Others use the objects a runtime holds, apart from the trace core. -/
  | outside (runtime : ι) (state : StateCore P) (parts : RuntimeParts P)

namespace SharedTrace

variable {ι : Type}

/-- The runtime with the trace core as it stands. -/
def seenBy (system : SharedTrace ι P) (runtime : ι) : UniversalKernelRuntime P :=
  { system.runtimes runtime with trace := system.trace }

/-- What a step has appended and called. -/
def done (k k' : UniversalKernelRuntime P) : List (CallEvent P) :=
  (k'.trace.events.drop k.trace.events.length).map .appended ++
    (k'.history.mutateCalls.drop k.history.mutateCalls.length).map .mutated

/-- New runtimes over a new trace core. -/
def fresh (objects : ι → StateCore P × RuntimeParts P) : SharedTrace ι P :=
  { trace := .empty
    runtimes := fun runtime =>
      .constructed (objects runtime).1 (objects runtime).2 0 ⟨[], []⟩
    active := []
    ended := [] }

variable [DecidableEq ι] [DecidableEq P]

/-- The call at an index after a step, and the system it leaves. -/
def after (configs : ι → RuntimeConfig P) (system : SharedTrace ι P) (index : ℕ)
    (call : TracedCall ι P) (answers : Point → StepEnv P) : SharedTrace ι P :=
  let k := system.seenBy call.runtime
  let place := k.advance (configs call.runtime) call.proposal (answers call.phase.point)
    call.phase
  let next := { call with phase := place.2, events := call.events ++ done k place.1 }
  { trace := place.1.trace
    runtimes := Function.update system.runtimes call.runtime place.1
    active :=
      if place.2.remaining = 0 then system.active.eraseIdx index
      else system.active.set index next
    ended := if place.2.remaining = 0 then system.ended ++ [next] else system.ended }

def act (configs : ι → RuntimeConfig P) (system : SharedTrace ι P) :
    SharedAction ι P → SharedTrace ι P
  | .begin runtime p =>
    { system with
      runtimes := Function.update system.runtimes runtime (system.seenBy runtime)
      active := system.active ++ [⟨runtime, p, .identityPreAction, []⟩] }
  | .step index answers =>
    match system.active[index]? with
    | none => system
    | some call => system.after configs index call answers
  | .outside runtime state parts =>
    { system with
      runtimes := Function.update system.runtimes runtime
        { system.runtimes runtime with
          leases := parts.leases
          effectorCompleted := parts.effectorCompleted
          state := state
          guard := parts.guard
          recovery := parts.recovery
          contextItems := parts.contextItems } }

end SharedTrace

/-! ## One call -/

section Calls

variable {ι : Type}

@[simp]
theorem stagesOf_append (first second : List (CallEvent P)) :
    stagesOf (first ++ second) = stagesOf first ++ stagesOf second :=
  List.filterMap_append

theorem stagesOf_appended (events : List TraceEvent) :
    stagesOf (events.map fun event => (.appended event : CallEvent P)) =
      events.map (·.stage) := by
  simp [stagesOf]

theorem stagesOf_mutated (mutations : List (MutateCall P)) :
    stagesOf (mutations.map .mutated) = [] := by
  simp [stagesOf]

/-- What holds of a call at every instant. -/
structure TracedCall.InOrder (call : TracedCall ι P) : Prop where
  ordered : call.stages <+: stageOrder
  counted : call.phase.remaining ≠ 0 → call.stages = stageOrder.take call.phase.depth
  preflighted : call.EffectsPreflighted
  envelopeOf : ∀ envelope ∈ call.phase.progress.envelope?,
    EnvelopeOf call.proposal envelope

theorem begun_inOrder (runtime : ι) (p : ActionProposal P) :
    TracedCall.InOrder ⟨runtime, p, .identityPreAction, []⟩ where
  ordered := by simp [TracedCall.stages, stagesOf]
  counted _ := by simp [TracedCall.stages, stagesOf, Phase.depth]
  preflighted := by simp [TracedCall.EffectsPreflighted]
  envelopeOf := envelopeOf_begin p

open SharedTrace UniversalKernelRuntime

variable {config : RuntimeConfig P} {env : StepEnv P}
  {k k' : UniversalKernelRuntime P} {phase' : Phase P} {call : TracedCall ι P}

theorem stages_step (h : call.InOrder) (hlive : call.phase.remaining ≠ 0)
    (hstep : StageStep k call.phase k' phase') :
    (call.stages ++ stagesOf (done k k')) <+: stageOrder ∧
      (phase'.remaining ≠ 0 →
        call.stages ++ stagesOf (done k k') = stageOrder.take phase'.depth) := by
  have hcounted : call.stages = stageOrder.take call.phase.depth := h.counted hlive
  have hdone : stagesOf (done k k') =
      (k'.trace.events.drop k.trace.events.length).map (·.stage) := by
    rw [done, stagesOf_append, stagesOf_appended, stagesOf_mutated, List.append_nil]
  cases hstep with
  | silent hevents hdepth =>
    have hnone : stagesOf (done k k') = [] := by
      rw [hdone, hevents, List.drop_length, List.map_nil]
    rw [hnone, List.append_nil]
    refine ⟨h.ordered, fun hnext => ?_⟩
    rw [hdepth hnext]
    exact hcounted
  | append event hevents _ hdue hdepth =>
    have hone : stagesOf (done k k') = [event.stage] := by
      rw [hdone, hevents, List.drop_left, List.map_singleton]
    have hsum : call.stages ++ [event.stage] = stageOrder.take (call.phase.depth + 1) := by
      rw [List.take_add_one, hdue, hcounted]
      rfl
    rw [hone, hsum]
    refine ⟨List.take_prefix _ _, fun hnext => ?_⟩
    rw [hdepth hnext]

/-- What a step adds to a call of the adapter comes after the preflight. -/
theorem preflighted_step (h : call.InOrder)
    (hphase : (∀ envelope, call.phase ≠ .materialEffect envelope) →
      k'.history.mutateCalls = k.history.mutateCalls) :
    TracedCall.EffectsPreflighted { call with
      phase := phase', events := call.events ++ done k k' } := by
  intro n mutation hn
  by_cases hold : n < call.events.length
  · rw [List.getElem?_append_left hold] at hn
    have hseen : "TRACE_PREFLIGHT" ∈ stagesOf (call.events.take n) :=
      h.preflighted n mutation hn
    simpa only [List.take_append_of_le_length hold.le] using hseen
  · have hnew : .mutated mutation ∈ done k k' := by
      rw [List.getElem?_append_right (Nat.le_of_not_lt hold)] at hn
      exact List.mem_of_getElem? hn
    have hmaterial : ∃ envelope, call.phase = .materialEffect envelope := by
      by_contra hnone
      have hsame : k'.history.mutateCalls = k.history.mutateCalls :=
        hphase fun envelope hat => hnone ⟨envelope, hat⟩
      have hnomutation : k'.history.mutateCalls.drop k.history.mutateCalls.length = [] := by
        rw [hsame, List.drop_length]
      rw [done, hnomutation, List.map_nil, List.append_nil] at hnew
      obtain ⟨event, -, hevent⟩ := List.mem_map.mp hnew
      cases hevent
    obtain ⟨envelope, hat⟩ := hmaterial
    have hstages : call.stages = stageOrder.take 5 := by
      have hcounted := h.counted (by simp [hat, Phase.remaining])
      rwa [hat] at hcounted
    have hseen : "TRACE_PREFLIGHT" ∈ stagesOf call.events := by
      have hmem : "TRACE_PREFLIGHT" ∈ stageOrder.take 5 := by simp [stageOrder]
      rw [← hstages] at hmem
      exact hmem
    rw [List.take_append, List.take_of_length_le (Nat.le_of_not_lt hold), stagesOf_append]
    exact List.mem_append_left _ hseen

theorem TracedCall.InOrder.advance [DecidableEq P] (h : call.InOrder)
    (hlive : call.phase.remaining ≠ 0) (k : UniversalKernelRuntime P) :
    TracedCall.InOrder { call with
      phase := (k.advance config call.proposal env call.phase).2
      events := call.events ++
        done k (k.advance config call.proposal env call.phase).1 } := by
  have hstep : StageStep k call.phase (k.advance config call.proposal env call.phase).1
      (k.advance config call.proposal env call.phase).2 := advance_stageStep k call.phase
  have hstages := stages_step h hlive hstep
  have hmove : Move config call.proposal env k call.phase.progress _ _ :=
    advance_move k call.phase
  constructor
  case ordered =>
    rw [TracedCall.stages, stagesOf_append]
    exact hstages.1
  case counted =>
    rw [TracedCall.stages, stagesOf_append]
    exact hstages.2
  case preflighted => exact preflighted_step h advance_mutateCalls
  case envelopeOf => exact hmove.envelopeOf h.envelopeOf

end Calls

/-! ## All calls -/

namespace SharedTrace

variable {ι : Type}

/-- The stage law: the chain is valid, every call has appended a prefix of the stages,
calls the adapter behind its preflight only, and the first of a runtime's calls that
proves the effect of its key has appended every stage. -/
structure StagesInOrder (system : SharedTrace ι P) : Prop where
  chain_valid : system.trace.chainIsValid = true
  ordered : ∀ call ∈ system.active ++ system.ended, call.stages <+: stageOrder
  complete : ∀ n call, system.ended[n]? = some call → call.ProvesEffect →
    (∀ earlier ∈ system.ended.take n, earlier.SameKey call → ¬ earlier.ProvesEffect) →
    call.stages = stageOrder
  preflighted : ∀ call ∈ system.active ++ system.ended, call.EffectsPreflighted

/-- What carries the stage law: a runtime's cached results come from calls that have
ended. -/
structure Orderly (system : SharedTrace ι P) : Prop where
  chain_valid : system.trace.chainIsValid = true
  active : ∀ call ∈ system.active, call.InOrder ∧ call.phase.remaining ≠ 0
  ended : ∀ call ∈ system.ended, call.InOrder
  cached : ∀ runtime key entry,
    (system.runtimes runtime).completed.lookup key = some entry →
    ∃ call ∈ system.ended, call.runtime = runtime ∧
      call.proposal.idempotencyKey = some key ∧ call.ProvesEffect
  complete : ∀ n call, system.ended[n]? = some call → call.ProvesEffect →
    call.stages = stageOrder ∨
      ∃ earlier ∈ system.ended.take n, earlier.SameKey call ∧ earlier.ProvesEffect

theorem Orderly.stagesInOrder {system : SharedTrace ι P} (h : system.Orderly) :
    system.StagesInOrder := by
  have hcalls : ∀ call ∈ system.active ++ system.ended, call.InOrder := by
    intro call hcall
    rcases List.mem_append.mp hcall with hactive | hended
    · exact (h.active call hactive).1
    · exact h.ended call hended
  constructor
  case chain_valid => exact h.chain_valid
  case ordered => exact fun call hcall => (hcalls call hcall).ordered
  case preflighted => exact fun call hcall => (hcalls call hcall).preflighted
  case complete =>
    intro n call hn hproves hfirst
    rcases h.complete n call hn hproves with hstages | ⟨earlier, hearlier, hkey, hbefore⟩
    · exact hstages
    · exact absurd hbefore (hfirst earlier hearlier hkey)

theorem fresh_orderly (objects : ι → StateCore P × RuntimeParts P) :
    (fresh objects).Orderly where
  chain_valid := rfl
  active := by simp [fresh]
  ended := by simp [fresh]
  cached := by simp [fresh, UniversalKernelRuntime.constructed]
  complete := by simp [fresh]

theorem chain_step {system : SharedTrace ι P} {runtime : ι} {phase phase' : Phase P}
    {k' : UniversalKernelRuntime P} (hvalid : system.trace.chainIsValid = true)
    (hstep : StageStep (system.seenBy runtime) phase k' phase') :
    k'.trace.chainIsValid = true := by
  cases hstep with
  | silent hevents =>
    rw [TraceCore.chainIsValid, hevents]
    exact hvalid
  | append event hevents hpredecessor =>
    rw [TraceCore.chainIsValid, hevents, TraceCore.chainFrom_append]
    refine ⟨hvalid, ?_⟩
    rw [hpredecessor, Option.or_none]
    rfl

variable [DecidableEq P] {configs : ι → RuntimeConfig P} {system : SharedTrace ι P}

/-- A call that ends with a report has appended every stage, or its runtime had cached
an earlier report under the same key. -/
theorem ended_complete (h : system.Orderly) {call : TracedCall ι P} {env : StepEnv P}
    (hcall : call ∈ system.active) {outcome : Except PyError (ExecutionResult P)}
    (hreturned : ((system.seenBy call.runtime).advance (configs call.runtime)
      call.proposal env call.phase).2 = .returned outcome)
    (hreport : Reports outcome) :
    call.stages = stageOrder ∨
      ∃ earlier ∈ system.ended, earlier.SameKey call ∧ earlier.ProvesEffect := by
  obtain ⟨horder, hlive⟩ := h.active call hcall
  rcases UniversalKernelRuntime.advance_reports hlive hreturned hreport with
    ⟨key, entry, hkey, hlookup⟩ | ⟨envelope, readback, hphase⟩
  · obtain ⟨earlier, hearlier, hruntime, hsame, hproves⟩ :=
      h.cached call.runtime key entry hlookup
    exact .inr ⟨earlier, hearlier, ⟨hruntime, hsame.trans hkey.symm⟩, hproves⟩
  · have hcounted : call.stages = stageOrder.take call.phase.depth := horder.counted hlive
    rw [hphase] at hcounted
    exact .inl hcounted

/-- What the step of a call makes of it. -/
def next (configs : ι → RuntimeConfig P) (system : SharedTrace ι P)
    (call : TracedCall ι P) (answers : Point → StepEnv P) : TracedCall ι P :=
  let place := (system.seenBy call.runtime).advance (configs call.runtime) call.proposal
    (answers call.phase.point) call.phase
  { call with
    phase := place.2
    events := call.events ++ done (system.seenBy call.runtime) place.1 }

theorem mem_ended_after [DecidableEq ι] {index : ℕ} {call earlier : TracedCall ι P}
    {answers : Point → StepEnv P} (hearlier : earlier ∈ system.ended) :
    earlier ∈ (system.after configs index call answers).ended := by
  simp only [after]
  split
  · exact List.mem_append_left _ hearlier
  · exact hearlier

/-- A report that ends a call is its runtime's first under the key only with all
stages appended. -/
theorem next_complete (h : system.Orderly) {call : TracedCall ι P}
    {answers : Point → StepEnv P} (hcall : call ∈ system.active)
    (hproves : (next configs system call answers).ProvesEffect) :
    (next configs system call answers).stages = stageOrder ∨
      ∃ earlier ∈ system.ended, earlier.SameKey (next configs system call answers) ∧
        earlier.ProvesEffect := by
  obtain ⟨horder, hlive⟩ := h.active call hcall
  obtain ⟨outcome, hreturned, hreport⟩ := hproves
  have hnext : (next configs system call answers).InOrder := horder.advance hlive _
  rcases ended_complete h hcall hreturned hreport with hstages | hearlier
  · have hgrown : stageOrder <+: (next configs system call answers).stages := by
      rw [← hstages]
      exact ⟨_, (stagesOf_append ..).symm⟩
    exact .inl (hnext.ordered.eq_of_length_le hgrown.length_le)
  · exact .inr hearlier

theorem Orderly.after [DecidableEq ι] (h : system.Orderly) {index : ℕ}
    {call : TracedCall ι P} (hcall : call ∈ system.active) (answers : Point → StepEnv P) :
    (system.after configs index call answers).Orderly := by
  obtain ⟨horder, hlive⟩ := h.active call hcall
  have hnext : (next configs system call answers).InOrder := horder.advance hlive _
  constructor
  case chain_valid =>
    exact chain_step h.chain_valid (UniversalKernelRuntime.advance_stageStep _ call.phase)
  case active =>
    intro other hother
    simp only [SharedTrace.after] at hother
    split at hother
    · exact h.active other (List.mem_of_mem_eraseIdx hother)
    · rename_i hphase
      rcases List.mem_or_eq_of_mem_set hother with hold | rfl
      · exact h.active other hold
      · exact ⟨hnext, hphase⟩
  case ended =>
    intro other hother
    simp only [SharedTrace.after] at hother
    split at hother
    · rcases List.mem_append.mp hother with hold | hnew
      · exact h.ended other hold
      · rw [List.mem_singleton] at hnew
        rw [hnew]
        exact hnext
    · exact h.ended other hother
  case cached =>
    intro runtime key entry hlookup
    by_cases hruntime : runtime = call.runtime
    · subst hruntime
      simp only [SharedTrace.after, Function.update_self] at hlookup
      rcases UniversalKernelRuntime.advance_completed hlookup with
        hold | ⟨envelope, readback, hphase, hkey⟩
      · obtain ⟨earlier, hearlier, hrest⟩ := h.cached call.runtime key entry hold
        exact ⟨earlier, mem_ended_after hearlier, hrest⟩
      · have hreturned : (next configs system call answers).phase = .returned
            (.ok (UniversalKernelRuntime.provenResult envelope readback)) := by
          simp only [next, hphase, UniversalKernelRuntime.advance]
        have henvelope : EnvelopeOf call.proposal envelope :=
          horder.envelopeOf envelope (by rw [hphase]; rfl)
        refine ⟨next configs system call answers, ?_, rfl, ?_, ?_⟩
        · have hover : (next configs system call answers).phase.remaining = 0 := by
            rw [hreturned]
            rfl
          have hended : (system.after configs index call answers).ended =
              system.ended ++ [next configs system call answers] := if_pos hover
          rw [hended]
          exact List.mem_append_right _ List.mem_cons_self
        · rw [← hkey]
          exact henvelope.idempotencyKey
        · exact ⟨_, hreturned, rfl, rfl, rfl⟩
    · simp only [SharedTrace.after, Function.update_of_ne hruntime] at hlookup
      obtain ⟨earlier, hearlier, hrest⟩ := h.cached runtime key entry hlookup
      exact ⟨earlier, mem_ended_after hearlier, hrest⟩
  case complete =>
    intro n other hn hproves
    by_cases hover : (next configs system call answers).phase.remaining = 0
    · have hended : (system.after configs index call answers).ended =
          system.ended ++ [next configs system call answers] := if_pos hover
      rw [hended] at hn ⊢
      rw [List.getElem?_append] at hn
      split at hn
      · rename_i hold
        rw [List.take_append_of_le_length hold.le]
        exact h.complete n other hn hproves
      · rename_i hold
        rw [List.getElem?_singleton] at hn
        split at hn
        · cases hn
          have hlast : n = system.ended.length := by omega
          rw [hlast, List.take_left]
          exact next_complete h hcall hproves
        · cases hn
    · have hended : (system.after configs index call answers).ended = system.ended :=
        if_neg hover
      rw [hended] at hn ⊢
      exact h.complete n other hn hproves

variable [DecidableEq ι]

omit [DecidableEq P] in
/-- No action on a runtime other than a step changes the results it has cached. -/
theorem completed_update {runtime other : ι} {k' : UniversalKernelRuntime P}
    (hsame : k'.completed = (system.runtimes runtime).completed) :
    (Function.update system.runtimes runtime k' other).completed =
      (system.runtimes other).completed := by
  by_cases hother : other = runtime
  · rw [hother, Function.update_self]
    exact hsame
  · rw [Function.update_of_ne hother]

theorem Orderly.act (h : system.Orderly) (action : SharedAction ι P) :
    (SharedTrace.act configs system action).Orderly := by
  cases action with
  | begin runtime p =>
    refine ⟨h.chain_valid, ?_, h.ended, ?_, h.complete⟩
    · intro call hcall
      rcases List.mem_append.mp hcall with hold | hnew
      · exact h.active call hold
      · rw [List.mem_singleton] at hnew
        subst hnew
        exact ⟨begun_inOrder runtime p, by simp [Phase.remaining]⟩
    · intro other key entry hlookup
      simp only [SharedTrace.act] at hlookup
      rw [completed_update] at hlookup
      · exact h.cached other key entry hlookup
      · rfl
  | step index answers =>
    simp only [SharedTrace.act]
    split
    · exact h
    · rename_i call hcall
      exact h.after (List.mem_of_getElem? hcall) answers
  | outside runtime state parts =>
    refine ⟨h.chain_valid, h.active, h.ended, ?_, h.complete⟩
    intro other key entry hlookup
    simp only [SharedTrace.act] at hlookup
    rw [completed_update] at hlookup
    · exact h.cached other key entry hlookup
    · rfl

/-! ### A call without interruption -/

/-- Over every run of calls by runtimes that share a trace core, with any failures and
any interleaving, the stage law holds. -/
theorem run_stagesInOrder (configs : ι → RuntimeConfig P)
    (objects : ι → StateCore P × RuntimeParts P) (actions : List (SharedAction ι P)) :
    (run (SharedTrace.act configs) (fresh objects) actions).StagesInOrder := by
  have horderly : (run (SharedTrace.act configs) (fresh objects) actions).Orderly :=
    run_invariant Orderly (fun _ action h => h.act action) (fresh_orderly objects) actions
  exact horderly.stagesInOrder

end SharedTrace

end ReisOs.Kernel
