import ReisOs.Core.Interleaving
import ReisOs.RecursiveRuntime.ContinuousExecutor

/-!
# Unfinished events after a crash

The journal tells an event from a finished one by its id alone, so an id that has a result
is not unfinished again when it is enqueued once more.
-/

namespace ReisOs.RecursiveRuntime.Executor

open ReisOs.Core ContinuousExecutor

variable {executor : ContinuousExecutor}

/-! ## The journal grows -/

/-- Steps keep the rows of the journal. -/
def growing : Discipline ContinuousExecutor :=
  .alone (fun _ => True) (fun before after => before.journal <+: after.journal)
    (fun _ => List.prefix_rfl) List.IsPrefix.trans

section Growth

theorem obeys_change {f : ContinuousExecutor → ContinuousExecutor}
    (hf : ∀ executor, executor.journal <+: (f executor).journal) :
    (change f).Obeys growing :=
  Script.obeys_act fun executor _ => ⟨trivial, hf executor⟩

theorem obeys_append (row : ExecutorRow) : (append row).Obeys growing :=
  obeys_change fun _ => List.prefix_append _ _

theorem obeys_enqueue (event : ExecutorEvent) : (enqueue event).Obeys growing := by
  apply (Script.obeys_read id).bind
  intro executor
  apply (Script.obeys_raiseIf _ _).bind
  intro _
  apply Script.Obeys.bind
  · exact obeys_change fun _ => List.prefix_rfl
  · intro _
    exact obeys_append _

theorem obeys_dispose (event : ExecutorEvent) (epoch : ℤ)
    (handler : ExecutorEvent → Except String GateDisposition) :
    (dispose event epoch handler).Obeys growing := by
  apply (obeys_append _).bind
  intro _
  apply Script.Obeys.bind
  · exact obeys_change fun _ => List.prefix_rfl
  · intro _
    cases handler event with
    | error error => exact Script.obeys_raise error
    | ok result => exact (obeys_append _).bind fun _ => Script.obeys_pure _

theorem obeys_runOnce (now : ℚ) (handler : ExecutorEvent → Except String GateDisposition) :
    (runOnce now handler).Obeys growing := by
  apply (Script.obeys_read id).bind
  intro executor
  split
  · exact Script.obeys_pure _
  · split
    · apply Script.Obeys.bind
      · exact obeys_change fun _ => List.prefix_rfl
      · intro _
        exact obeys_dispose _ _ handler
    · exact Script.obeys_pure _

theorem obeys_replaceActiveWriter (instanceId : String) (epoch : ℤ) :
    (replaceActiveWriter instanceId epoch).Obeys growing := by
  apply (Script.obeys_read id).bind
  intro executor
  apply (Script.obeys_raiseIf _ _).bind
  intro _
  exact obeys_change fun _ => List.prefix_rfl

theorem executorStep_journal (executor : ContinuousExecutor) (input : ExecutorInput) :
    executor.journal <+: (executorStep executor input).journal := by
  cases input with
  | call call =>
    cases call with
    | enqueue event => exact ((obeys_enqueue event).exec trivial).2
    | runOnce now handler => exact ((obeys_runOnce now handler).exec trivial).2
    | replaceActiveWriter instanceId epoch =>
      exact ((obeys_replaceActiveWriter instanceId epoch).exec trivial).2
  | crash call steps lease =>
    cases call with
    | enqueue event => exact ((obeys_enqueue event).crashed trivial steps).2
    | runOnce now handler => exact ((obeys_runOnce now handler).crashed trivial steps).2
    | replaceActiveWriter instanceId epoch =>
      exact ((obeys_replaceActiveWriter instanceId epoch).crashed trivial steps).2

theorem run_journal (executor : ContinuousExecutor) (inputs : List ExecutorInput) :
    executor.journal <+: (run executorStep executor inputs).journal := by
  induction inputs generalizing executor with
  | nil => exact List.prefix_rfl
  | cons input inputs ih => exact (executorStep_journal executor input).trans (ih _)

end Growth

/-! ## Enqueued events -/

theorem enqueue_exec (executor : ContinuousExecutor) (event : ExecutorEvent) :
    (enqueue event).exec executor =
      if event.missionNamespace ≠ executor.lease.missionNamespace then
        (executor, .error "MISSION_NAMESPACE_MISMATCH")
      else
        ({ executor with
          queue := executor.queue ++ [event]
          journal := executor.journal ++
            [.enqueued event.eventId event.missionNamespace event.payloadRef] }, .ok ()) := by
  rw [enqueue, Script.exec_read_bind, Script.exec_raiseIf_bind]
  by_cases hmismatch : event.missionNamespace ≠ executor.lease.missionNamespace
  · rw [if_pos hmismatch]
    exact if_pos hmismatch
  · rw [if_neg hmismatch]
    exact if_neg hmismatch

/-- The call returns. -/
def Returns (executor : ContinuousExecutor) (event : ExecutorEvent) : Prop :=
  ((enqueue event).exec executor).2 = .ok ()

theorem returns_iff (event : ExecutorEvent) :
    Returns executor event ↔ event.missionNamespace = executor.lease.missionNamespace := by
  rw [Returns, enqueue_exec]
  split
  · next h => simp [h]
  · next h => simpa using h

theorem executorStep_of_returns {event : ExecutorEvent} (h : Returns executor event) :
    (executorStep executor (.call (.enqueue event))).journal =
      executor.journal ++
        [.enqueued event.eventId event.missionNamespace event.payloadRef] := by
  change ((enqueue event).exec executor).1.journal = _
  rw [enqueue_exec, if_neg (not_not.mpr ((returns_iff event).mp h))]

/-! ## What a new executor lists -/

/-- Every event whose enqueue has returned in the run, and that has no result since, is
listed. -/
def NoneLost (start : ContinuousExecutor) (inputs : List ExecutorInput) : Prop :=
  ∀ before event after, inputs = before ++ .call (.enqueue event) :: after →
    Returns (run executorStep start before) event →
    (∀ row ∈ (run executorStep start inputs).journal.drop
        (run executorStep start (before ++ [.call (.enqueue event)])).journal.length,
      row.completedId ≠ some event.eventId) →
    event.eventId ∈ replayUnfinished (run executorStep start inputs).journal

/-- No event is listed that has a result since its latest enqueue. -/
def NoneRepeated (journal : List ExecutorRow) : Prop :=
  ∀ before eventId missionNamespace payloadRef after,
    journal = before ++ .enqueued eventId missionNamespace payloadRef :: after →
    (∀ row ∈ after, row.enqueuedId ≠ some eventId) →
    (∃ row ∈ after, row.completedId = some eventId) →
    eventId ∉ replayUnfinished journal

/-- An enqueue that returns is of an id without a result. -/
def Unanswered (executor : ContinuousExecutor) : ExecutorInput → Prop
  | .call (.enqueue event) => Returns executor event →
      ∀ row ∈ executor.journal, row.completedId ≠ some event.eventId
  | _ => True

theorem noneRepeated (journal : List ExecutorRow) : NoneRepeated journal := by
  intro before eventId missionNamespace payloadRef after hjournal hlatest hresult hlisted
  rcases hresult with ⟨row, hrow, hid⟩
  have hmem : row ∈ journal := by
    rw [hjournal]
    exact List.mem_append_right _ (List.mem_cons_of_mem _ hrow)
  exact (mem_replayUnfinished_iff.mp hlisted).2 row hmem hid

theorem noneLost_of_admissible {start : ContinuousExecutor} {inputs : List ExecutorInput}
    (h : Admissible executorStep Unanswered start inputs) : NoneLost start inputs := by
  rintro before event after rfl hreturns hsince
  have hbefore := (Admissible.append.mp h).2.1 hreturns
  have hjournal : (run executorStep start
      (before ++ [.call (.enqueue event)])).journal =
        (run executorStep start before).journal ++
          [.enqueued event.eventId event.missionNamespace event.payloadRef] := by
    rw [run_append, run_cons, run_nil]
    exact executorStep_of_returns hreturns
  have hend : before ++ .call (.enqueue event) :: after =
      (before ++ [.call (.enqueue event)]) ++ after := by simp
  have hgrown : (run executorStep start (before ++ [.call (.enqueue event)])).journal <+:
      (run executorStep start (before ++ .call (.enqueue event) :: after)).journal := by
    rw [hend, run_append _ _ after]
    exact run_journal _ after
  rcases hgrown with ⟨rest, hrest⟩
  rw [← hrest, List.drop_left] at hsince
  rw [← hrest, mem_replayUnfinished_iff, hjournal]
  constructor
  · refine ⟨.enqueued event.eventId event.missionNamespace event.payloadRef, ?_, rfl⟩
    simp
  · intro row hrow
    rw [List.mem_append, List.mem_append, List.mem_singleton] at hrow
    rcases hrow with (hrow | rfl) | hrow
    · exact hbefore row hrow
    · exact fun hid => by cases hid
    · exact hsince row hrow

/-- At every crash point of a run the unfinished events are listed and no finished one,
just if no id is enqueued again that has a result. -/
theorem unfinished_events_listed_iff (start : ContinuousExecutor)
    (inputs : List ExecutorInput) :
    (∀ before, before <+: inputs →
      NoneLost start before ∧ NoneRepeated (run executorStep start before).journal) ↔
      Admissible executorStep Unanswered start inputs := by
  constructor
  · intro h
    rw [admissible_iff_forall]
    intro before input hinitial
    cases input with
    | crash call steps lease => trivial
    | call call =>
      cases call with
      | runOnce now handler => trivial
      | replaceActiveWriter instanceId epoch => trivial
      | enqueue event =>
        intro hreturns row hrow hid
        have hlisted := (h _ hinitial).1 before event [] rfl hreturns (by simp)
        have hkept : row ∈ (run executorStep start
            (before ++ [.call (.enqueue event)])).journal := by
          rw [run_append]
          exact (run_journal _ _).subset hrow
        exact (mem_replayUnfinished_iff.mp hlisted).2 row hkept hid
  · intro h before hbefore
    exact ⟨noneLost_of_admissible (h.of_prefix hbefore), noneRepeated _⟩

/-! ## An id that is used again -/

def sampleLease : ExecutorLease := ⟨"exec-1", "lease-1", "mission:a", 1, 999⟩

def sampleEvent : ExecutorEvent := ⟨"ev1", "mission:a", "payload:1"⟩

/-- The event is enqueued and handled, and enqueued again. -/
def repeatedInputs : List ExecutorInput :=
  [.call (.enqueue sampleEvent), .call (.runOnce 100 fun _ => .ok .continue),
    .call (.enqueue sampleEvent)]

theorem enqueued_again_not_listed :
    ¬ ∀ before, before <+: repeatedInputs →
      NoneLost (opened sampleLease []) before ∧
        NoneRepeated (run executorStep (opened sampleLease []) before).journal := by
  intro h
  have hlisted := (h repeatedInputs List.prefix_rfl).1 (repeatedInputs.take 2) sampleEvent []
    rfl ((returns_iff sampleEvent).mpr (by decide +kernel)) (by decide +kernel)
  have hnone : replayUnfinished
      (run executorStep (opened sampleLease []) repeatedInputs).journal = [] := by
    decide +kernel
  rw [hnone] at hlisted
  cases hlisted

end ReisOs.RecursiveRuntime.Executor
