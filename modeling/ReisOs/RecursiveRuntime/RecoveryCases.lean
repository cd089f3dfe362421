import ReisOs.RecursiveRuntime.Recovery

/-!
# What a recovery can do

The ways a recovery and a turn of its replay end, each with the state that it leaves.
-/

namespace ReisOs.RecursiveRuntime

open ReisOs.Core Script DurableJournal

/-- No row of the journal has the id. -/
def Unused (journalId : String) (journal : List JournalRecord) : Prop :=
  ∀ other ∈ journal, other.journalId ≠ journalId

instance (journalId : String) (journal : List JournalRecord) :
    Decidable (Unused journalId journal) :=
  inferInstanceAs (Decidable (∀ other ∈ journal, other.journalId ≠ journalId))

/-- The runtime with one more row, if there is a journal. -/
def withRow (bound : Bool) (record : JournalRecord) (runtime : RuntimeState) : RuntimeState :=
  if bound then { runtime with journal := runtime.journal ++ [record] } else runtime

section WithRow

variable (bound : Bool) (record : JournalRecord) (runtime : RuntimeState)

@[simp]
theorem withRow_states : (withRow bound record runtime).states = runtime.states := by
  cases bound <;> rfl

@[simp]
theorem withRow_ledger : (withRow bound record runtime).ledger = runtime.ledger := by
  cases bound <;> rfl

@[simp]
theorem withRow_results : (withRow bound record runtime).results = runtime.results := by
  cases bound <;> rfl

@[simp]
theorem withRow_checkpoints :
    (withRow bound record runtime).checkpoints = runtime.checkpoints := by
  cases bound <;> rfl

end WithRow

/-- The actors with one of them fenced. -/
def fencedStates (actorId : String) (actor : ActorState) (states : StateRepository) :
    StateRepository :=
  states.setActor actorId (some { actor with lifecycle := .fenced })

/-! ## Scripts whose ends are known -/

section Execs

variable {runtime : RuntimeState}

theorem exec_look {A : Type} {f : RuntimeState → Except Fault A} {value : A}
    (hf : f runtime = .ok value) : (look f).exec runtime = (runtime, .ok value) := by
  rw [look, exec_act, hf]

theorem exec_look_error {A : Type} {f : RuntimeState → Except Fault A} {fault : Fault}
    (hf : f runtime = .error fault) : (look f).exec runtime = (runtime, .error fault) := by
  rw [look, exec_act, hf]

theorem exec_changeStates {f : RuntimeState → Except Fault StateRepository}
    {states : StateRepository} (hf : f runtime = .ok states) :
    (changeStates f).exec runtime = ({ runtime with states := states }, .ok ()) := by
  rw [changeStates, exec_act, hf]

theorem exec_changeStates_error {f : RuntimeState → Except Fault StateRepository}
    {fault : Fault} (hf : f runtime = .error fault) :
    (changeStates f).exec runtime = (runtime, .error fault) := by
  rw [changeStates, exec_act, hf]

variable {record : JournalRecord}

theorem exec_journalPut (h : Unused record.journalId runtime.journal) :
    (journalPut record).exec runtime = (withRow true record runtime, .ok ()) := by
  have hput : putRecord runtime.journal record = (runtime.journal ++ [record], .ok ()) := by
    obtain ⟨-, hput⟩ | ⟨other, hother, hsame, -⟩ := putRecord_cases runtime.journal record
    · exact hput
    · exact absurd hsame (h other hother)
  rw [journalPut, exec_act, hput]
  rfl

theorem exec_journalPut_used (hpayload : record.payload ≠ [])
    (h : ¬ Unused record.journalId runtime.journal) :
    (journalPut record).exec runtime =
      (runtime, .error (.conflict "JOURNAL_ID_CONFLICT")) := by
  have hput : (putRecord runtime.journal record).2 =
      .error (.conflict "JOURNAL_ID_CONFLICT") := by
    obtain ⟨hnew, -⟩ | ⟨other, -, -, hput⟩ := putRecord_cases runtime.journal record
    · exact absurd hnew h
    · rw [hput]
      exact if_neg fun hboth => hpayload hboth.2
  rw [journalPut, exec_act]
  simp only [hput]
  rfl

variable {bound : Bool}

theorem exec_journalPutIf (h : bound = true → Unused record.journalId runtime.journal) :
    (journalPutIf bound record).exec runtime = (withRow bound record runtime, .ok ()) := by
  cases bound with
  | false => rfl
  | true => exact exec_journalPut (h rfl)

theorem exec_journalPutIf_used (hbound : bound = true) (hpayload : record.payload ≠ [])
    (h : ¬ Unused record.journalId runtime.journal) :
    (journalPutIf bound record).exec runtime =
      (runtime, .error (.conflict "JOURNAL_ID_CONFLICT")) := by
  rw [hbound]
  exact exec_journalPut_used hpayload h

theorem exec_crashAt_of_ne {crash : Option CrashPoint} {point : CrashPoint} {message : String}
    (h : crash ≠ some point) : (crashAt crash point message).exec runtime = (runtime, .ok ()) := by
  rw [crashAt, if_neg h]
  rfl

theorem exec_crashAt (point : CrashPoint) (message : String) :
    (crashAt (some point) point message).exec runtime =
      (runtime, .error (.runtimeError message)) := by
  rw [crashAt, if_pos rfl]
  rfl

theorem setLifecycle_fenced {states : StateRepository} {actorId : String} {actor : ActorState}
    (h : states.actors actorId = some actor) :
    states.setLifecycle actorId .fenced = .ok (fencedStates actorId actor states) := by
  rw [StateRepository.setLifecycle, StateRepository.mutate, h]
  rfl

end Execs

/-! ## Recovery -/

section Recover

variable (config : RuntimeConfig) (predecessorId successorId : String)
  (crash : Option CrashPoint) (runtime : RuntimeState) (found : Checkpoint)
  (predecessor : ActorState)

/-- The intent has been written. -/
def intended : RuntimeState :=
  withRow config.recoveryJournal (transitionRecord predecessorId successorId predecessor) runtime

/-- The predecessor has been fenced. -/
def fenced : RuntimeState :=
  { intended config predecessorId successorId runtime predecessor with
    states := fencedStates predecessorId predecessor runtime.states }

/-- The fence has been written. -/
def fenceNoted : RuntimeState :=
  withRow config.recoveryJournal (fencedRecord predecessorId successorId predecessor)
    (fenced config predecessorId successorId runtime predecessor)

/-- The successor is in its place. -/
def installed (states : StateRepository) : RuntimeState :=
  { fenceNoted config predecessorId successorId runtime predecessor with states := states }

/-- The commit has been written. -/
def recovered (states : StateRepository) : RuntimeState :=
  withRow config.recoveryJournal
    (committedRecord (transitionId predecessorId successorId predecessor ++ ":commit")
      predecessorId (successorActor found.actor predecessor successorId))
    (installed config predecessorId successorId runtime predecessor states)

/-- The ways a recovery ends that finds a checkpoint and its predecessor. -/
inductive RecoverEnds : RuntimeState × Except Fault ActorState → Prop where
  | refused (hbound : config.recoveryJournal = true)
      (hused : ¬ Unused (transitionId predecessorId successorId predecessor) runtime.journal) :
      RecoverEnds (runtime, .error (.conflict "JOURNAL_ID_CONFLICT"))
  | crashed (hcrash : crash = some .afterJournalBeforeCommit)
      (hnew : config.recoveryJournal = true →
        Unused (transitionId predecessorId successorId predecessor) runtime.journal) :
      RecoverEnds (intended config predecessorId successorId runtime predecessor,
        .error (.runtimeError "CRASH_INJECTED_AFTER_JOURNAL"))
  | unnoted (hbound : config.recoveryJournal = true)
      (hcrash : crash ≠ some .afterJournalBeforeCommit)
      (hnew : Unused (transitionId predecessorId successorId predecessor) runtime.journal)
      (hused : ¬ Unused (transitionId predecessorId successorId predecessor ++ ":fenced")
        (intended config predecessorId successorId runtime predecessor).journal) :
      RecoverEnds (fenced config predecessorId successorId runtime predecessor,
        .error (.conflict "JOURNAL_ID_CONFLICT"))
  | collided (fault : Fault) (hcrash : crash ≠ some .afterJournalBeforeCommit)
      (hnew : config.recoveryJournal = true →
        Unused (transitionId predecessorId successorId predecessor) runtime.journal)
      (hnoted : config.recoveryJournal = true →
        Unused (transitionId predecessorId successorId predecessor ++ ":fenced")
          (intended config predecessorId successorId runtime predecessor).journal)
      (hinstall : installSuccessor (successorActor found.actor predecessor successorId)
        (fencedStates predecessorId predecessor runtime.states) = .error fault) :
      RecoverEnds (fenceNoted config predecessorId successorId runtime predecessor,
        .error fault)
  | uncommitted (states : StateRepository) (hbound : config.recoveryJournal = true)
      (hcrash : crash ≠ some .afterJournalBeforeCommit)
      (hnew : Unused (transitionId predecessorId successorId predecessor) runtime.journal)
      (hnoted : Unused (transitionId predecessorId successorId predecessor ++ ":fenced")
        (intended config predecessorId successorId runtime predecessor).journal)
      (hinstall : installSuccessor (successorActor found.actor predecessor successorId)
        (fencedStates predecessorId predecessor runtime.states) = .ok states)
      (hused : ¬ Unused (transitionId predecessorId successorId predecessor ++ ":commit")
        (fenceNoted config predecessorId successorId runtime predecessor).journal) :
      RecoverEnds (installed config predecessorId successorId runtime predecessor states,
        .error (.conflict "JOURNAL_ID_CONFLICT"))
  | committed (states : StateRepository) (answer : Except Fault ActorState)
      (hcrash : crash ≠ some .afterJournalBeforeCommit)
      (hnew : config.recoveryJournal = true →
        Unused (transitionId predecessorId successorId predecessor) runtime.journal)
      (hnoted : config.recoveryJournal = true →
        Unused (transitionId predecessorId successorId predecessor ++ ":fenced")
          (intended config predecessorId successorId runtime predecessor).journal)
      (hinstall : installSuccessor (successorActor found.actor predecessor successorId)
        (fencedStates predecessorId predecessor runtime.states) = .ok states)
      (hcommit : config.recoveryJournal = true →
        Unused (transitionId predecessorId successorId predecessor ++ ":commit")
          (fenceNoted config predecessorId successorId runtime predecessor).journal)
      (hanswer : answer =
        if crash = some .afterCommitBeforeAck then
          .error (.runtimeError "CRASH_INJECTED_AFTER_COMMIT")
        else .ok (successorActor found.actor predecessor successorId)) :
      RecoverEnds (recovered config predecessorId successorId runtime found predecessor states,
        answer)

variable {config predecessorId successorId crash runtime found predecessor}

theorem exec_recover_of_no_checkpoint {fault : Fault}
    (h : latestCheckpoint predecessorId runtime = .error fault) :
    (recover config predecessorId successorId crash).exec runtime = (runtime, .error fault) := by
  rw [recover, exec_bind_error (exec_look_error h)]

theorem exec_recover_of_unknown (hfound : latestCheckpoint predecessorId runtime = .ok found)
    (h : runtime.states.actors predecessorId = none) :
    (recover config predecessorId successorId crash).exec runtime =
      (runtime, .error (.keyError predecessorId)) := by
  have hget : runtime.states.get predecessorId = .error (.keyError predecessorId) := by
    rw [StateRepository.get, h]
  rw [recover, exec_bind_ok (exec_look hfound), exec_bind_error (exec_look_error hget)]

/-- A recovery that finds a checkpoint and its predecessor ends in one of the ways. -/
theorem recoverEnds (hfound : latestCheckpoint predecessorId runtime = .ok found)
    (hknown : runtime.states.actors predecessorId = some predecessor) :
    RecoverEnds config predecessorId successorId crash runtime found predecessor
      ((recover config predecessorId successorId crash).exec runtime) := by
  rw [recover, exec_bind_ok (exec_look hfound),
    exec_bind_ok (exec_look (StateRepository.get_eq_ok_iff.mpr hknown))]
  by_cases hnew : config.recoveryJournal = true →
      Unused (transitionId predecessorId successorId predecessor) runtime.journal
  swap
  · obtain ⟨hbound, hused⟩ := Classical.not_imp.mp hnew
    rw [exec_bind_error (exec_journalPutIf_used hbound (List.cons_ne_nil _ _) hused)]
    exact .refused hbound hused
  rw [exec_bind_ok (exec_journalPutIf hnew)]
  change RecoverEnds config predecessorId successorId crash runtime found predecessor
    (Script.exec _ (intended config predecessorId successorId runtime predecessor))
  by_cases hcrash : crash = some .afterJournalBeforeCommit
  · rw [hcrash, exec_bind_error (exec_crashAt _ _), ← hcrash]
    exact .crashed hcrash hnew
  rw [exec_bind_ok (exec_crashAt_of_ne hcrash)]
  have hfence : (changeStates (·.states.setLifecycle predecessorId .fenced)).exec
      (intended config predecessorId successorId runtime predecessor) =
        (fenced config predecessorId successorId runtime predecessor, .ok ()) := by
    apply exec_changeStates
    rw [intended, withRow_states]
    exact setLifecycle_fenced hknown
  rw [exec_bind_ok hfence]
  by_cases hnoted : config.recoveryJournal = true →
      Unused (transitionId predecessorId successorId predecessor ++ ":fenced")
        (intended config predecessorId successorId runtime predecessor).journal
  swap
  · obtain ⟨hbound, hused⟩ := Classical.not_imp.mp hnoted
    rw [exec_bind_error (exec_journalPutIf_used hbound (List.cons_ne_nil _ _) hused)]
    exact .unnoted hbound hcrash (hnew hbound) hused
  rw [exec_bind_ok (exec_journalPutIf hnoted)]
  change RecoverEnds config predecessorId successorId crash runtime found predecessor
    (Script.exec _ (fenceNoted config predecessorId successorId runtime predecessor))
  have hstates : (fenceNoted config predecessorId successorId runtime predecessor).states =
      fencedStates predecessorId predecessor runtime.states := by
    rw [fenceNoted, withRow_states]
    rfl
  cases hinstall : installSuccessor (successorActor found.actor predecessor successorId)
      (fencedStates predecessorId predecessor runtime.states) with
  | error fault =>
    rw [exec_bind_error (exec_changeStates_error (by rw [hstates, hinstall]))]
    exact .collided fault hcrash hnew hnoted hinstall
  | ok states =>
    rw [exec_bind_ok (exec_changeStates (by rw [hstates, hinstall]))]
    change RecoverEnds config predecessorId successorId crash runtime found predecessor
      (Script.exec _ (installed config predecessorId successorId runtime predecessor states))
    by_cases hcommit : config.recoveryJournal = true →
        Unused (transitionId predecessorId successorId predecessor ++ ":commit")
          (fenceNoted config predecessorId successorId runtime predecessor).journal
    swap
    · obtain ⟨hbound, hused⟩ := Classical.not_imp.mp hcommit
      rw [exec_bind_error (exec_journalPutIf_used hbound (List.cons_ne_nil _ _) hused)]
      exact .uncommitted states hbound hcrash (hnew hbound) (hnoted hbound) hinstall hused
    rw [exec_bind_ok (exec_journalPutIf hcommit)]
    change RecoverEnds config predecessorId successorId crash runtime found predecessor
      (Script.exec _
        (recovered config predecessorId successorId runtime found predecessor states))
    by_cases hlate : crash = some .afterCommitBeforeAck
    · rw [hlate, exec_bind_error (exec_crashAt _ _), ← hlate]
      apply RecoverEnds.committed states _ hcrash hnew hnoted hinstall hcommit
      rw [if_pos hlate]
    · rw [exec_bind_ok (exec_crashAt_of_ne hlate)]
      apply RecoverEnds.committed states _ hcrash hnew hnoted hinstall hcommit
      rw [if_neg hlate]

end Recover

/-! ## Replay -/

section Replay

variable (rows : List JournalRecord) (row : JournalRecord) (runtime : RuntimeState)

/-- The transition is finished at this turn: it has no commit, and its predecessor and a
checkpoint of it are there. -/
structure Resumes (successorId : String) (found : Checkpoint) (predecessor : ActorState) :
    Prop where
  successor : row.field "successor_id" = some successorId
  uncommitted : ∀ other ∈ rows, other.journalId ≠ row.journalId ++ ":commit"
  known : runtime.states.actors row.actorId = some predecessor
  checkpointed : latestCheckpoint row.actorId runtime = .ok found

/-- The predecessor of the transition has been fenced. -/
def refenced (predecessor : ActorState) : RuntimeState :=
  { runtime with states := fencedStates row.actorId predecessor runtime.states }

/-- The commit of the transition has been written. -/
def finished (successorId : String) (found : Checkpoint) (predecessor : ActorState)
    (states : StateRepository) : RuntimeState :=
  withRow true (committedRecord (row.journalId ++ ":commit") row.actorId
    (successorActor found.actor predecessor successorId)) { runtime with states := states }

/-- The ways a turn of the loop of `replay` ends. -/
inductive TurnEnds : RuntimeState × Except Fault (List String) → Prop where
  | skipped : TurnEnds (runtime, .ok [])
  | repeated (successorId : String) (successor : ActorState)
      (hsuccessor : row.field "successor_id" = some successorId)
      (hcommitted : ∃ other ∈ rows, other.journalId = row.journalId ++ ":commit")
      (hknown : runtime.states.actors successorId = some successor) :
      TurnEnds ({ runtime with
        states := runtime.states.setIdentity successor.identityId (some successorId) },
        .ok [successorId])
  | collided (successorId : String) (found : Checkpoint) (predecessor : ActorState)
      (fault : Fault) (hresumes : Resumes rows row runtime successorId found predecessor)
      (hinstall : installSuccessor (successorActor found.actor predecessor successorId)
        (fencedStates row.actorId predecessor runtime.states) = .error fault) :
      TurnEnds (refenced row runtime predecessor, .error fault)
  | uncommitted (successorId : String) (found : Checkpoint) (predecessor : ActorState)
      (states : StateRepository)
      (hresumes : Resumes rows row runtime successorId found predecessor)
      (hinstall : installSuccessor (successorActor found.actor predecessor successorId)
        (fencedStates row.actorId predecessor runtime.states) = .ok states)
      (hused : ¬ Unused (row.journalId ++ ":commit") runtime.journal) :
      TurnEnds ({ runtime with states := states }, .error (.conflict "JOURNAL_ID_CONFLICT"))
  | finished (successorId : String) (found : Checkpoint) (predecessor : ActorState)
      (states : StateRepository)
      (hresumes : Resumes rows row runtime successorId found predecessor)
      (hinstall : installSuccessor (successorActor found.actor predecessor successorId)
        (fencedStates row.actorId predecessor runtime.states) = .ok states)
      (hnew : Unused (row.journalId ++ ":commit") runtime.journal) :
      TurnEnds (finished row runtime successorId found predecessor states, .ok [successorId])

variable {rows row runtime}

theorem exec_finishTransition {successorId : String} {found : Checkpoint}
    {predecessor : ActorState} (h : Resumes rows row runtime successorId found predecessor) :
    TurnEnds rows row runtime
      ((finishTransition row successorId found predecessor).exec runtime) := by
  have hfence : (changeStates (·.states.setLifecycle row.actorId .fenced)).exec runtime =
      (refenced row runtime predecessor, .ok ()) :=
    exec_changeStates (setLifecycle_fenced h.known)
  rw [finishTransition, exec_bind_ok hfence]
  cases hinstall : installSuccessor (successorActor found.actor predecessor successorId)
      (fencedStates row.actorId predecessor runtime.states) with
  | error fault =>
    rw [exec_bind_error (exec_changeStates_error hinstall)]
    exact .collided successorId found predecessor fault h hinstall
  | ok states =>
    rw [exec_bind_ok (exec_changeStates hinstall)]
    by_cases hnew : Unused (row.journalId ++ ":commit") runtime.journal
    · rw [exec_bind_ok (exec_journalPut hnew)]
      exact .finished successorId found predecessor states h hinstall hnew
    · rw [exec_bind_error (exec_journalPut_used (List.cons_ne_nil _ _) hnew)]
      exact .uncommitted successorId found predecessor states h hinstall hnew

theorem turnEnds (rows : List JournalRecord) (row : JournalRecord) (runtime : RuntimeState) :
    TurnEnds rows row runtime ((replayTransition rows row).exec runtime) := by
  rw [replayTransition]
  cases hsuccessor : row.field "successor_id" with
  | none => exact .skipped
  | some successorId =>
    by_cases hcommitted : ∃ other ∈ rows, other.journalId = row.journalId ++ ":commit"
    · have hany : rows.any (·.journalId = row.journalId ++ ":commit") = true := by
        simpa using hcommitted
      simp only [hany, if_true]
      rw [repeatTransition, exec_act]
      cases hknown : runtime.states.actors successorId with
      | none => exact .skipped
      | some successor =>
        simp only [StateRepository.setActive, hknown]
        exact .repeated successorId successor hsuccessor hcommitted hknown
    · have hany : rows.any (·.journalId = row.journalId ++ ":commit") = false := by
        simpa using hcommitted
      simp only [hany, Bool.false_eq_true, if_false]
      rw [exec_read_bind]
      have huncommitted : ∀ other ∈ rows, other.journalId ≠ row.journalId ++ ":commit" :=
        fun other hother hsame => hcommitted ⟨other, hother, hsame⟩
      cases hknown : runtime.states.actors row.actorId with
      | none => exact .skipped
      | some predecessor =>
        cases hfound : latestCheckpoint row.actorId runtime with
        | error fault => exact .skipped
        | ok found =>
          exact exec_finishTransition ⟨hsuccessor, huncommitted, hknown, hfound⟩

end Replay

end ReisOs.RecursiveRuntime
