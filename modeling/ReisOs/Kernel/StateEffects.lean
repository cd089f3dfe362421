import ReisOs.Core.Identifiers
import ReisOs.Kernel.Calls
import ReisOs.Kernel.StateLaws

/-!
# What a call does to the state core

A call touches the state core in two places only, the commit and the recovery
after a lost readback, and its counter stands at a known distance from the call's
start when the commit draws its number.
-/

namespace ReisOs.Kernel

open ReisOs.Core StateCore

variable {P : Type}

/-! ## Identifiers -/

namespace UniversalKernelRuntime

theorem stateId_eq (ocs : String) (number : ℕ) :
    stateId ocs number = withNumber ("state:" ++ ocs) number := rfl

theorem stateId_inj {ocs ocs' : String} {number number' : ℕ}
    (h : stateId ocs number = stateId ocs' number') : ocs = ocs' ∧ number = number' := by
  rw [stateId_eq, stateId_eq] at h
  have hparts := withNumber_inj h
  have hlists := congrArg String.toList hparts.1
  rw [String.toList_append, String.toList_append, List.append_cancel_left_eq] at hlists
  exact ⟨String.toList_injective hlists, hparts.2⟩

theorem recoveryId_eq (checkpointId : String) (version : ℕ) :
    recoveryId checkpointId version =
      withNumber ("recovery:" ++ checkpointId) version := rfl

theorem recoveryId_ne_stateId (checkpointId : String) (version : ℕ) (ocs : String)
    (number : ℕ) : recoveryId checkpointId version ≠ stateId ocs number := by
  intro h
  rw [recoveryId_eq, stateId_eq] at h
  have hstems := congrArg (fun stem => stem.toList.head?) (withNumber_inj h).1
  simp only [String.toList_append] at hstems
  have hheads : some 'r' = some 's' := hstems
  exact absurd hheads (by decide)

end UniversalKernelRuntime

/-! ## Recovery -/

/-- The record that recovery under a reference would write: nothing without a
checkpoint, and nothing if the checkpoint is the current state already. -/
def recoveryTarget (codec : StateCodec P) (checkpoints : Checkpoints P)
    (core : StateCore P) (recoveryRef : String) : Option (StateRecord P) :=
  match checkpoints.lookup recoveryRef with
  | none => none
  | some checkpoint =>
    match core.current checkpoint.state.ocs with
    | .error _ => none
    | .ok current =>
      if current.any (·.stateId = checkpoint.state.stateId) then none
      else (core.restoreTarget codec checkpoint).toOption

theorem restoreTarget_stateId {codec : StateCodec P} {core : StateCore P}
    {checkpoint : VerifiedCheckpoint P} {restored : StateRecord P}
    (h : core.restoreTarget codec checkpoint = .ok restored) :
    ∃ version, restored.stateId =
      recoveryId checkpoint.checkpointId version := by
  unfold restoreTarget at h
  split at h
  · cases h
  · split at h
    · cases h
    · cases h
      exact ⟨_, rfl⟩

theorem recoveryTarget_stateId {codec : StateCodec P} {checkpoints : Checkpoints P}
    {core : StateCore P} {recoveryRef : String} {restored : StateRecord P}
    (h : recoveryTarget codec checkpoints core recoveryRef = some restored) :
    ∃ checkpointId version,
      restored.stateId = recoveryId checkpointId version := by
  unfold recoveryTarget at h
  split at h
  · cases h
  · split at h
    · cases h
    · split at h
      · cases h
      · rename_i checkpoint _ _ _ _ _
        cases htarget : core.restoreTarget codec checkpoint with
        | error error => simp [htarget, Except.toOption] at h
        | ok target =>
          obtain rfl : target = restored := by simpa [htarget, Except.toOption] using h
          exact ⟨_, restoreTarget_stateId htarget⟩

variable [DecidableEq P]

/-- Recovery leaves the state core alone or writes its target. -/
theorem recoverPostEffect_state (broker : ToolBroker) (codec : StateCodec P)
    (checkpoints : Checkpoints P) (core : StateCore P) (answers : AdapterAnswers P)
    (envelope : AuthorizedActionEnvelope P) :
    (recoverPostEffect broker codec checkpoints core answers envelope).1 = core ∨
      ∃ restored,
        recoveryTarget codec checkpoints core envelope.recoveryRef = some restored ∧
          (recoverPostEffect broker codec checkpoints core answers envelope).1 =
            (core.write codec restored (fun stored => .ok (stored = restored))
              (restoreContext restored)).1 := by
  have hstate : (recoverState codec checkpoints core envelope.recoveryRef).1 = core ∨
      ∃ restored,
        recoveryTarget codec checkpoints core envelope.recoveryRef = some restored ∧
          (recoverState codec checkpoints core envelope.recoveryRef).1 =
            (core.write codec restored (fun stored => .ok (stored = restored))
              (restoreContext restored)).1 := by
    cases hlookup : checkpoints.lookup envelope.recoveryRef with
    | none => exact .inl (by simp only [recoverState, hlookup])
    | some checkpoint =>
      cases hcurrent : core.current checkpoint.state.ocs with
      | error error => exact .inl (by simp only [recoverState, hlookup, hcurrent])
      | ok current =>
        by_cases hsame : current.any (·.stateId = checkpoint.state.stateId)
        · exact .inl (by simp only [recoverState, hlookup, hcurrent, hsame, if_true])
        · cases htarget : core.restoreTarget codec checkpoint with
          | error error =>
            refine .inl ?_
            simp only [recoverState, hlookup, hcurrent, hsame,
              restoreVerified, htarget]
            rfl
          | ok restored =>
            refine .inr ⟨restored, ?_, ?_⟩
            · simp only [recoveryTarget, hlookup, hcurrent, hsame, htarget]
              rfl
            · simp only [recoverState, hlookup, hcurrent, hsame,
                restoreVerified, htarget]
              rcases core.write codec restored _ _ with ⟨written, _ | _⟩ <;> rfl
  unfold recoverPostEffect
  split
  · exact .inl rfl
  · split
    · exact .inl rfl
    · exact .inl rfl
    · exact .inl rfl
    · split <;> rename_i hanswer <;> simpa only [hanswer] using hstate

/-! ## Steps -/

/-- The numbers a call has drawn before a phase. -/
def Phase.drawn : Phase P → ℕ
  | .traceDenial _ .evidence | .traceGrant _ _ .evidence => 1
  | .traceDenial _ .governance | .traceGrant _ _ .governance => 2
  | .stageAuthorized _ => 3
  | .stagePreflight _ => 4
  | .identityPreEffect _ | .materialEffect _ | .recover _ _ | .stageReadback _ _ => 5
  | .identityPrePersist _ _ | .stateWrite _ _ => 6
  | .stageState _ _ _ => 7
  | .finalize _ _ | .stageFinalize _ _ _ => 8
  | .stageClose _ _ => 9
  | .complete _ _ => 10
  | _ => 0

/-- The commit or the recovery lies behind the call. -/
def Progress.Settled : Progress P → Prop
  | .committed _ _ | .finalized _ _ | .returned _ => True
  | .started | .fresh | .checked _ | .authorized _ | .reserved _ | .unread _
  | .applied _ _ => False

namespace UniversalKernelRuntime

variable {config : RuntimeConfig P} {p : ActionProposal P} {env : StepEnv P}
  {k : UniversalKernelRuntime P}

omit [DecidableEq P] in
theorem proceed_fst (answer : UniversalKernelRuntime P × Except PyError Unit)
    (failed : PyError → Phase P) (next : Phase P) :
    (proceed answer failed next).1 = answer.1 := by
  obtain ⟨k, error | _⟩ := answer <;> rfl

omit [DecidableEq P] in
theorem requireIdentity_seq (k : UniversalKernelRuntime P) (ocs : String)
    (trigger : IdentityRecheckTrigger) :
    (k.requireIdentity config ocs trigger).1.seq = k.seq := by
  unfold requireIdentity
  split
  · rfl
  · split <;> rfl

omit [DecidableEq P] in
theorem sanitizeContext_seq (k : UniversalKernelRuntime P) (ocs : String) :
    (k.sanitizeContext config ocs).1.seq = k.seq := by
  unfold sanitizeContext
  split
  · rfl
  · split
    · rfl
    · dsimp only
      split
      · split <;> rfl
      · rfl

omit [DecidableEq P] in
theorem governanceStage_seq (k : UniversalKernelRuntime P)
    (result : GovernanceResult P) (name : GovernanceStage) :
    (k.governanceStage env p result name).1.seq = k.seq + 1 := by
  cases name <;> rfl

omit [DecidableEq P] in
theorem proceed_drawn {answer : UniversalKernelRuntime P × Except PyError Unit}
    {failed : PyError → Phase P} {next : Phase P} {start : ℕ}
    (hfailed : ∀ error, (failed error).remaining = 0)
    (hnext : next.remaining = 0 ∨ answer.1.seq = start + next.drawn) :
    (proceed answer failed next).2.remaining = 0 ∨
      (proceed answer failed next).1.seq =
        start + (proceed answer failed next).2.drawn := by
  obtain ⟨k, error | _⟩ := answer
  · exact .inl (hfailed error)
  · exact hnext

omit [DecidableEq P] in
theorem materialEffect_drawn (envelope : AuthorizedActionEnvelope P) :
    (k.materialEffect config env p envelope).2.remaining = 0 ∨
      (k.materialEffect config env p envelope).1.seq = k.seq ∧
        (k.materialEffect config env p envelope).2.drawn = 5 := by
  unfold materialEffect
  split
  · exact .inl (raised_remaining ..)
  · split
    · exact .inr ⟨rfl, rfl⟩
    · exact .inl (raised_remaining ..)
    · exact .inl (raised_remaining ..)
    · exact .inr ⟨rfl, rfl⟩
    · exact .inl (raised_remaining ..)
    · exact .inr ⟨rfl, rfl⟩

theorem recoverEffect_remaining (envelope : AuthorizedActionEnvelope P) (reason : String) :
    (k.recoverEffect config env envelope reason).2.remaining = 0 := by
  unfold recoverEffect
  split
  · rfl
  · split <;> rfl

theorem commitState_drawn (envelope : AuthorizedActionEnvelope P)
    (readback : MaterialReadback P) :
    (k.commitState config p envelope readback).2.remaining = 0 ∨
      (k.commitState config p envelope readback).1.seq = k.seq + 1 ∧
        (k.commitState config p envelope readback).2.drawn = 7 := by
  unfold commitState
  split
  · exact .inl (raised_remaining ..)
  · dsimp only
    split
    · exact .inl (raised_remaining ..)
    · exact .inr ⟨rfl, rfl⟩

variable {phase : Phase P}

/-- The counter of a call in progress tells its phase. -/
theorem advance_drawn {start : ℕ} (hseq : k.seq = start + phase.drawn) :
    (k.advance config p env phase).2.remaining = 0 ∨
      (k.advance config p env phase).1.seq =
        start + (k.advance config p env phase).2.drawn := by
  cases phase with
  | identityPreAction =>
    exact proceed_drawn identityRefused_remaining
      (.inr ((requireIdentity_seq ..).trans hseq))
  | sanitizeContext =>
    exact proceed_drawn identityRefused_remaining
      (.inr ((sanitizeContext_seq ..).trans hseq))
  | replayLookup =>
    simp only [advance]
    split
    · exact .inr hseq
    · split <;> exact .inl rfl
  | authorize =>
    simp only [advance]
    split
    · exact .inl rfl
    · split <;> exact .inr hseq
  | assemble checked =>
    simp only [advance]
    split
    · exact .inl rfl
    · split
      · exact .inl rfl
      · exact .inr hseq
  | traceDenial result name =>
    refine proceed_drawn (traceFailed_remaining rfl) ?_
    rw [governanceStage_seq, hseq]
    cases name with
    | proposal | evidence => exact .inr rfl
    | governance => exact .inl rfl
  | preflightGate result envelope =>
    have hgate : (k.preflightGate env).1.seq = k.seq := rfl
    simp only [advance]
    split <;> rename_i heq
    · rw [heq] at hgate
      exact .inr (hgate.trans hseq)
    · exact .inl rfl
    · exact .inl rfl
  | reserve result envelope =>
    simp only [advance]
    split
    · exact .inl rfl
    · exact .inl rfl
    · exact .inr hseq
  | traceGrant result envelope name =>
    refine proceed_drawn (traceFailed_remaining rfl) (.inr ?_)
    rw [governanceStage_seq, hseq]
    cases name <;> rfl
  | stageAuthorized envelope =>
    exact proceed_drawn (raised_remaining envelope false none)
      (.inr (congrArg (· + 1) hseq))
  | stagePreflight envelope =>
    exact proceed_drawn (raised_remaining envelope false none)
      (.inr (congrArg (· + 1) hseq))
  | identityPreEffect envelope =>
    exact proceed_drawn (raised_remaining envelope false none)
      (.inr ((requireIdentity_seq ..).trans hseq))
  | materialEffect envelope =>
    have hseq : k.seq = start + 5 := hseq
    refine (materialEffect_drawn envelope).imp_right fun h => ?_
    rw [advance, h.1, h.2, hseq]
  | recover envelope reason => exact .inl (recoverEffect_remaining ..)
  | stageReadback envelope readback =>
    exact proceed_drawn (raised_remaining envelope true (some readback))
      (.inr (congrArg (· + 1) hseq))
  | identityPrePersist envelope readback =>
    exact proceed_drawn (persistRefused_remaining envelope readback)
      (.inr ((requireIdentity_seq ..).trans hseq))
  | stateWrite envelope readback =>
    have hseq : k.seq = start + 6 := hseq
    refine (commitState_drawn envelope readback).imp_right fun h => ?_
    rw [advance, h.1, h.2, hseq]
  | stageState envelope readback record =>
    exact proceed_drawn (raised_remaining envelope true (some readback))
      (.inr (congrArg (· + 1) hseq))
  | finalize envelope readback =>
    simp only [advance]
    split
    · exact .inl (raised_remaining ..)
    · exact .inl (raised_remaining ..)
    · exact .inr hseq
  | stageFinalize envelope readback leaseState =>
    exact proceed_drawn (raised_remaining envelope true (some readback))
      (.inr (congrArg (· + 1) hseq))
  | stageClose envelope readback =>
    exact proceed_drawn (raised_remaining envelope true (some readback))
      (.inr (congrArg (· + 1) hseq))
  | complete envelope readback => exact .inl rfl
  | returned outcome => exact .inl rfl

/-! ## Where the state core changes -/

/-- The state core, the checkpoints and the record of the runtime's commits agree. -/
structure StateKept (k k' : UniversalKernelRuntime P) : Prop where
  state : k'.state = k.state
  recovery : k'.recovery = k.recovery
  serial : k'.serial = k.serial
  stateWrites : k'.history.stateWrites = k.history.stateWrites

omit [DecidableEq P] in
theorem StateKept.refl (k : UniversalKernelRuntime P) : StateKept k k := by
  constructor <;> rfl

variable {k' : UniversalKernelRuntime P}

omit [DecidableEq P] in
theorem StateKept.trans {k k'' : UniversalKernelRuntime P} (h : StateKept k k')
    (h' : StateKept k' k'') : StateKept k k'' where
  state := h'.state.trans h.state
  recovery := h'.recovery.trans h.recovery
  serial := h'.serial.trans h.serial
  stateWrites := h'.stateWrites.trans h.stateWrites

omit [DecidableEq P] in
theorem Quiet.stateKept {k : UniversalKernelRuntime P} (h : Quiet k k') :
    StateKept k k' where
  state := h.state
  recovery := h.recovery
  serial := h.serial
  stateWrites := by rw [h.history]

theorem Move.stateKept {progress progress' : Progress P}
    (hmove : Move config p env k progress k' progress')
    (happlied : ∀ envelope readback, progress ≠ .applied envelope readback)
    (hunread : ∀ envelope, progress ≠ .unread envelope) : StateKept k k' := by
  cases hmove with
  | quiet hquiet | refuse hquiet => exact hquiet.stateKept
  | recover => exact absurd rfl (hunread _)
  | commit | commitFailed => exact absurd rfl (happlied _ _)
  | _ => constructor <;> rfl

theorem advance_stateKept (hcommit : phase.point ≠ .stateWrite)
    (hrecover : phase.point ≠ .recover) :
    StateKept k (k.advance config p env phase).1 := by
  have hmove : Move config p env k phase.progress _ _ := advance_move k phase
  cases phase with
  | recover => exact absurd rfl hrecover
  | stateWrite => exact absurd rfl hcommit
  | stageReadback => exact (proceed_fst ..).symm ▸ (stage_quiet k ..).stateKept
  | identityPrePersist =>
    exact (proceed_fst ..).symm ▸ (requireIdentity_quiet k ..).stateKept
  | _ => exact hmove.stateKept (by simp [Phase.progress]) (by simp [Phase.progress])

/-! ## The way to a recovery -/

omit [DecidableEq P] in
theorem point_ne_recover (hreturned : phase.remaining = 0) :
    phase.point ≠ .recover := by
  cases phase with
  | recover => cases hreturned
  | traceDenial _ name | traceGrant _ _ name => cases name <;> nofun
  | _ => nofun

omit [DecidableEq P] in
theorem proceed_ne_recover {answer : UniversalKernelRuntime P × Except PyError Unit}
    {failed : PyError → Phase P} {next : Phase P}
    (hfailed : ∀ error, (failed error).remaining = 0) (hnext : next.point ≠ .recover) :
    (proceed answer failed next).2.point ≠ .recover := by
  obtain ⟨k, error | _⟩ := answer
  · exact point_ne_recover (hfailed error)
  · exact hnext

omit [DecidableEq P] in
theorem effectorExecute_readback {broker : ToolBroker}
    {completed : Dict String (MaterialReadback P)} {answers : AdapterAnswers P}
    {envelope : AuthorizedActionEnvelope P} {mutationId : String} {error : PyError}
    (h : effectorExecute broker completed answers envelope =
      .readbackFailed mutationId error) : answers.readback = .error error := by
  unfold effectorExecute at h
  split at h
  · cases h
  · split at h
    · cases h
    · split at h
      · cases h
      · split at h
        · rename_i hreadback
          cases h
          exact hreadback
        · cases h

omit [DecidableEq P] in
theorem materialEffect_recover (envelope : AuthorizedActionEnvelope P)
    (hrecover : (k.materialEffect config env p envelope).2.point = .recover) :
    ∃ reason, env.answers.readback = .error (.runtimeError reason) := by
  unfold materialEffect at hrecover
  split at hrecover
  · exact absurd hrecover (point_ne_recover (raised_remaining ..))
  · split at hrecover <;> rename_i heffect
    · cases hrecover
    · exact absurd hrecover (point_ne_recover (raised_remaining ..))
    · exact absurd hrecover (point_ne_recover (raised_remaining ..))
    · exact ⟨_, effectorExecute_readback heffect⟩
    · exact absurd hrecover (point_ne_recover (raised_remaining ..))
    · cases hrecover

/-- A recovery starts where the adapter's readback raised `RuntimeError`. -/
theorem advance_recover
    (hrecover : (k.advance config p env phase).2.point = .recover) :
    phase.point = .materialEffect ∧
      ∃ reason, env.answers.readback = .error (.runtimeError reason) := by
  cases phase with
  | materialEffect envelope => exact ⟨rfl, materialEffect_recover envelope hrecover⟩
  | identityPreAction | sanitizeContext =>
    exact absurd hrecover (proceed_ne_recover identityRefused_remaining
      (by simp [Phase.point]))
  | replayLookup =>
    simp only [advance] at hrecover
    split at hrecover
    · cases hrecover
    · split at hrecover <;> cases hrecover
  | authorize =>
    simp only [advance] at hrecover
    split at hrecover
    · cases hrecover
    · split at hrecover <;> cases hrecover
  | assemble checked =>
    simp only [advance] at hrecover
    split at hrecover
    · cases hrecover
    · split at hrecover <;> cases hrecover
  | traceDenial result name =>
    refine absurd hrecover (proceed_ne_recover (traceFailed_remaining rfl) ?_)
    cases name with
    | proposal | evidence => simp [Phase.point, GovernanceStage.point]
    | governance => exact point_ne_recover rfl
  | preflightGate result envelope | reserve result envelope =>
    simp only [advance] at hrecover
    split at hrecover <;> cases hrecover
  | traceGrant result envelope name =>
    refine absurd hrecover (proceed_ne_recover (traceFailed_remaining rfl) ?_)
    cases name <;> simp [Phase.point, GovernanceStage.point]
  | stageAuthorized envelope | stagePreflight envelope | identityPreEffect envelope =>
    exact absurd hrecover (proceed_ne_recover
      (raised_remaining envelope false none) (by simp [Phase.point]))
  | recover envelope reason =>
    exact absurd hrecover (point_ne_recover (recoverEffect_remaining envelope reason))
  | identityPrePersist envelope readback =>
    exact absurd hrecover
      (proceed_ne_recover (persistRefused_remaining envelope readback)
        (by simp [Phase.point]))
  | stageReadback envelope readback | stageState envelope readback record
  | stageFinalize envelope readback leaseState | stageClose envelope readback =>
    exact absurd hrecover
      (proceed_ne_recover (raised_remaining envelope true (some readback))
        (by simp [Phase.point]))
  | stateWrite envelope readback =>
    simp only [advance, commitState] at hrecover
    split at hrecover
    · exact absurd hrecover (point_ne_recover (raised_remaining ..))
    · split at hrecover
      · exact absurd hrecover (point_ne_recover (raised_remaining ..))
      · cases hrecover
  | finalize envelope readback =>
    simp only [advance] at hrecover
    split at hrecover
    · exact absurd hrecover (point_ne_recover (raised_remaining ..))
    · exact absurd hrecover (point_ne_recover (raised_remaining ..))
    · cases hrecover
  | complete envelope readback => cases hrecover
  | returned outcome => cases hrecover

/-! ## Whole calls -/

/-- The environment answers the adapter's readback with `RuntimeError`. -/
def LosesReadback (answers : Point → StepEnv P) : Prop :=
  ∃ reason, (answers .materialEffect).answers.readback = .error (.runtimeError reason)

/-- Everything a call that began in `start` can have done to the state core. -/
inductive StateEffect (config : RuntimeConfig P) (p : ActionProposal P)
    (answers : Point → StepEnv P) (start k : UniversalKernelRuntime P) : Prop where
  | kept (hkept : StateKept start k) (hseq : start.seq ≤ k.seq)
  | committed (envelope : AuthorizedActionEnvelope P) (record : StateRecord P)
      (hid : record.stateId = stateId p.ocs (start.seq + 7)) (hocs : record.ocs = p.ocs)
      (hstate : k.state = (start.commitAnswer config p envelope record).1)
      (hseq : start.seq + 7 ≤ k.seq) (hserial : k.serial = start.serial)
      (hwrites : k.history.stateWrites = start.history.stateWrites ++
        [⟨start.serial, p, record, start.state,
          (start.commitAnswer config p envelope record).2⟩])
  | recovered (checkpoints : Checkpoints P) (recoveryRef : String)
      (restored : StateRecord P) (hlost : LosesReadback answers)
      (hrecovery : start.recovery = some checkpoints)
      (href : p.recoveryRef = some recoveryRef)
      (htarget : recoveryTarget config.codec checkpoints start.state recoveryRef =
        some restored)
      (hstate : k.state = (start.state.write config.codec restored
        (fun stored => .ok (stored = restored)) (restoreContext restored)).1)
      (hseq : start.seq ≤ k.seq) (hserial : k.serial = start.serial)
      (hwrites : k.history.stateWrites = start.history.stateWrites)

variable {answers : Point → StepEnv P} {start : UniversalKernelRuntime P}

theorem StateEffect.trans
    {k : UniversalKernelRuntime P} (h : StateEffect config p answers start k)
    (hkept : StateKept k k') (hseq : k.seq ≤ k'.seq) :
    StateEffect config p answers start k' := by
  cases h with
  | kept hbefore hfirst => exact .kept (hbefore.trans hkept) (hfirst.trans hseq)
  | committed envelope record hid hocs hstate hdrawn hserial hwrites =>
    exact .committed envelope record hid hocs (hkept.state.trans hstate)
      (hdrawn.trans hseq) (hkept.serial.trans hserial)
      (hkept.stateWrites.trans hwrites)
  | recovered checkpoints recoveryRef restored hlost hrecovery href htarget hstate
      hfirst hserial hwrites =>
      exact .recovered checkpoints recoveryRef restored hlost hrecovery href htarget
        (hkept.state.trans hstate) (hfirst.trans hseq) (hkept.serial.trans hserial)
        (hkept.stateWrites.trans hwrites)

theorem Move.settled {progress progress' : Progress P}
    (hmove : Move config p env k progress k' progress') (h : progress.Settled) :
    progress'.Settled ∧ StateKept k k' := by
  refine ⟨?_, hmove.stateKept ?_ ?_⟩
  · cases hmove <;> first | exact h | exact h.elim | trivial
  · rintro envelope readback rfl
    exact h
  · rintro envelope rfl
    exact h

/-- A place that a call from `start` can be in. -/
structure CallPlace (config : RuntimeConfig P) (p : ActionProposal P)
    (answers : Point → StepEnv P) (start k : UniversalKernelRuntime P)
    (phase : Phase P) : Prop where
  effect : StateEffect config p answers start k
  settled : phase.progress.Settled ∨
    StateKept start k ∧ k.seq = start.seq + phase.drawn ∧
      (phase.point = .recover → LosesReadback answers)

theorem recoverEffect_effect
    {k : UniversalKernelRuntime P} {envelope : AuthorizedActionEnvelope P}
    (hkept : StateKept start k) (hseq : start.seq ≤ k.seq) (hof : EnvelopeOf p envelope)
    (hlost : LosesReadback answers) (env : StepEnv P) (reason : String) :
    StateEffect config p answers start (k.recoverEffect config env envelope reason).1 := by
  unfold recoverEffect
  split
  · exact .kept hkept hseq
  · rename_i checkpoints hrecovery
    have hstate := recoverPostEffect_state config.broker config.codec checkpoints k.state
      env.answers envelope
    split
    all_goals
      rename_i hanswer
      rw [hanswer] at hstate
      rcases hstate with hsame | ⟨restored, htarget, hwrite⟩
      · exact .kept (hkept.trans ⟨hsame, rfl, rfl, rfl⟩) hseq
      · rw [hkept.state] at htarget hwrite
        exact .recovered checkpoints envelope.recoveryRef restored hlost
          (hkept.recovery.symm.trans hrecovery) hof.recoveryRef htarget hwrite
          hseq hkept.serial hkept.stateWrites

theorem commitState_effect
    {k : UniversalKernelRuntime P} (hkept : StateKept start k)
    (hseq : k.seq = start.seq + 6) (envelope : AuthorizedActionEnvelope P)
    (readback : MaterialReadback P) :
    (k.commitState config p envelope readback).2.progress.Settled ∧
      StateEffect config p answers start (k.commitState config p envelope readback).1 := by
  have hfirst : start.seq ≤ k.seq := by omega
  have hanswer (record : StateRecord P) : k.commitAnswer config p envelope record =
      start.commitAnswer config p envelope record := by
    rw [commitAnswer, commitAnswer, hkept.state]
  have hcommitted (record : StateRecord P)
      (hid : record.stateId = stateId p.ocs (k.seq + 1)) (hocs : record.ocs = p.ocs) :
      StateEffect config p answers start
        (k.wrote p record (k.commitAnswer config p envelope record)) := by
    rw [hanswer]
    refine .committed envelope record ?_ hocs rfl ?_ hkept.serial ?_
    · rw [hid, hseq]
    · rw [wrote, hseq]
    · rw [wrote, hkept.stateWrites, hkept.serial, hkept.state]
  have hraised (error : PyError) :
      (Phase.raised envelope true (some readback) error).progress.Settled := by
    obtain ⟨outcome, hprogress, -⟩ := raised_progress envelope true (some readback) error
    rw [hprogress]
    trivial
  unfold commitState
  split
  · exact ⟨hraised _, .kept hkept hfirst⟩
  · dsimp only
    split
    · exact ⟨hraised _, hcommitted _ rfl rfl⟩
    · exact ⟨trivial, hcommitted _ rfl rfl⟩

omit [DecidableEq P] in
theorem settled_of_returned (hreturned : phase.remaining = 0) :
    phase.progress.Settled := by
  cases phase with
  | returned => trivial
  | traceDenial _ name | traceGrant _ _ name => cases name <;> cases hreturned
  | _ => cases hreturned

theorem CallPlace.advance
    {k : UniversalKernelRuntime P}
    (henvelope : ∀ envelope ∈ phase.progress.envelope?, EnvelopeOf p envelope)
    (h : CallPlace config p answers start k phase) :
    CallPlace config p answers start (k.advance config p (answers phase.point) phase).1
      (k.advance config p (answers phase.point) phase).2 := by
  have hmove : Move config p (answers phase.point) k phase.progress _ _ :=
    advance_move k phase
  rcases h.settled with hsettled | ⟨hkept, hseq, hlost⟩
  · have hnext := hmove.settled hsettled
    exact ⟨h.effect.trans hnext.2 hmove.seq_le, .inl hnext.1⟩
  by_cases hother : phase.point ≠ .stateWrite ∧ phase.point ≠ .recover
  · have hstep : StateKept start (k.advance config p (answers phase.point) phase).1 :=
      hkept.trans (advance_stateKept hother.1 hother.2)
    have hnext : (k.advance config p (answers phase.point) phase).2.remaining = 0 ∨
        (k.advance config p (answers phase.point) phase).1.seq = _ := advance_drawn hseq
    refine ⟨.kept hstep (by have := hmove.seq_le; omega), ?_⟩
    rcases hnext with hreturned | hdrawn
    · exact .inl (settled_of_returned hreturned)
    · refine .inr ⟨hstep, hdrawn, fun hrecover => ?_⟩
      obtain ⟨hpoint, hraised⟩ := advance_recover hrecover
      rwa [hpoint] at hraised
  · cases phase with
    | stateWrite envelope readback =>
      obtain ⟨hsettled, heffect⟩ := commitState_effect hkept hseq envelope readback
      exact ⟨heffect, .inl hsettled⟩
    | recover envelope reason =>
      exact ⟨recoverEffect_effect hkept (by omega) (henvelope envelope rfl) (hlost rfl) _
          reason,
        .inl (settled_of_returned (recoverEffect_remaining envelope reason))⟩
    | traceDenial _ name | traceGrant _ _ name => cases name <;> exact absurd ⟨nofun, nofun⟩ hother
    | _ => exact absurd ⟨nofun, nofun⟩ hother

theorem execute_state (config : RuntimeConfig P) (p : ActionProposal P)
    (answers : Point → StepEnv P) (k : UniversalKernelRuntime P) :
    StateEffect config p answers k (k.execute config p answers).1 := by
  have hend := execute_induction config p (CallPlace config p answers k) answers
    (fun _ _ henvelope h => h.advance henvelope)
    ⟨.kept (.refl k) le_rfl, .inr ⟨.refl k, rfl, nofun⟩⟩
  exact hend.effect

end UniversalKernelRuntime

end ReisOs.Kernel
