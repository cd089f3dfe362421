import Mathlib.Data.List.Induction
import ReisOs.RecursiveRuntime.ExecutorRecovery

/-!
# Fencing of the executor

A run is refused once another writer is active.  The epoch of a replacement is compared
with that of the lease, and not with that of the writer that it replaces: the runs in which
epochs only grow are stated exactly.
-/

namespace ReisOs.RecursiveRuntime.Executor

open ReisOs.Core ContinuousExecutor

variable {executor : ContinuousExecutor}

def callStep (executor : ContinuousExecutor) (call : ExecutorCall) : ContinuousExecutor :=
  call.finish executor

/-! ## Statement -/

/-- The epoch of a replacement that returns. -/
def acceptedEpoch (executor : ContinuousExecutor) : ExecutorCall → Option ℤ
  | .replaceActiveWriter instanceId epoch =>
    match ((replaceActiveWriter instanceId epoch).exec executor).2 with
    | .ok () => some epoch
    | .error _ => none
  | _ => none

/-- The epochs of the replacements that return, in the order of the calls. -/
def acceptedEpochs (executor : ContinuousExecutor) : List ExecutorCall → List ℤ
  | [] => []
  | call :: calls =>
    (acceptedEpoch executor call).toList ++ acceptedEpochs (callStep executor call) calls

/-- The handler is called: `model_inference_count` grows right before it is. -/
def Handles (executor : ContinuousExecutor) (call : ExecutorCall) : Prop :=
  executor.modelInferenceCount < (callStep executor call).modelInferenceCount

/-- A handler runs under the lease and before any replacement, epochs grow, and a run
without its handler changes neither the queue nor the journal. -/
structure Fenced (start : ContinuousExecutor) (calls : List ExecutorCall) : Prop where
  handled : ∀ before now handler, before ++ [.runOnce now handler] <+: calls →
    Handles (run callStep start before) (.runOnce now handler) →
      now < start.lease.expiresAt ∧ acceptedEpochs start before = []
  increasing : (acceptedEpochs start calls).Pairwise (· < ·)
  refused : ∀ before now handler, before ++ [.runOnce now handler] <+: calls →
    ¬ Handles (run callStep start before) (.runOnce now handler) →
      (run callStep start (before ++ [.runOnce now handler])).queue =
          (run callStep start before).queue ∧
        (run callStep start (before ++ [.runOnce now handler])).journal =
          (run callStep start before).journal

/-- A replacement that the lease admits has a later epoch than the active writer. -/
def Advances (executor : ContinuousExecutor) (call : ExecutorCall) : Prop :=
  ∀ instanceId epoch, call = .replaceActiveWriter instanceId epoch →
    executor.lease.executorEpoch < epoch → executor.activeWriter.2 < epoch

/-! ## Calls -/

theorem replace_exec (executor : ContinuousExecutor) (instanceId : String) (epoch : ℤ) :
    (replaceActiveWriter instanceId epoch).exec executor =
      if epoch ≤ executor.lease.executorEpoch then
        (executor, .error "EXECUTOR_EPOCH_MUST_ADVANCE")
      else ({ executor with activeWriter := (instanceId, epoch) }, .ok ()) := by
  rw [replaceActiveWriter, Script.exec_read_bind, Script.exec_raiseIf_bind]
  rfl

theorem runOnce_cases (executor : ContinuousExecutor) (now : ℚ)
    (handler : ExecutorEvent → Except String GateDisposition) :
    callStep executor (.runOnce now handler) = executor ∨
      (executor.validateLease now = .continue ∧
        (callStep executor (.runOnce now handler)).lease = executor.lease ∧
        (callStep executor (.runOnce now handler)).activeWriter = executor.activeWriter ∧
        (callStep executor (.runOnce now handler)).modelInferenceCount =
          executor.modelInferenceCount + 1) := by
  rw [callStep, ExecutorCall.finish, runOnce, Script.exec_read_bind]
  simp only [id]
  cases hqueue : executor.queue with
  | nil => exact Or.inl rfl
  | cons event rest =>
    simp only
    by_cases hvalid : executor.validateLease now = .continue
    · rw [if_pos hvalid]
      right
      refine ⟨hvalid, ?_⟩
      rw [dispose]
      cases hanswer : handler event with
      | error error => exact ⟨rfl, rfl, rfl⟩
      | ok result => exact ⟨rfl, rfl, rfl⟩
    · rw [if_neg hvalid]
      exact Or.inl rfl

/-- A call keeps the lease, and changes the active writer only with an epoch that is later
than that of the lease. -/
theorem callStep_writer (executor : ContinuousExecutor) (call : ExecutorCall) :
    (callStep executor call).lease = executor.lease ∧
      ((acceptedEpoch executor call = none ∧
        (callStep executor call).activeWriter = executor.activeWriter) ∨
      ∃ epoch, acceptedEpoch executor call = some epoch ∧
        executor.lease.executorEpoch < epoch ∧
        (callStep executor call).activeWriter.2 = epoch) := by
  cases call with
  | enqueue event =>
    have hexec := enqueue_exec executor event
    rw [callStep, ExecutorCall.finish, hexec]
    split <;> exact ⟨rfl, Or.inl ⟨rfl, rfl⟩⟩
  | runOnce now handler =>
    rcases runOnce_cases executor now handler with hsame | ⟨-, hlease, hwriter, -⟩
    · rw [hsame]
      exact ⟨rfl, Or.inl ⟨rfl, rfl⟩⟩
    · exact ⟨hlease, Or.inl ⟨rfl, hwriter⟩⟩
  | replaceActiveWriter instanceId epoch =>
    have hexec := replace_exec executor instanceId epoch
    rw [callStep, ExecutorCall.finish, acceptedEpoch, hexec]
    by_cases hstale : epoch ≤ executor.lease.executorEpoch
    · rw [if_pos hstale]
      exact ⟨rfl, Or.inl ⟨rfl, rfl⟩⟩
    · rw [if_neg hstale]
      exact ⟨rfl, Or.inr ⟨epoch, rfl, not_le.mp hstale, rfl⟩⟩

theorem advances_iff {call : ExecutorCall} :
    Advances executor call ↔
      ∀ epoch, acceptedEpoch executor call = some epoch → executor.activeWriter.2 < epoch := by
  cases call with
  | enqueue event => exact iff_of_true (fun _ _ h => by cases h) fun _ h => by cases h
  | runOnce now handler => exact iff_of_true (fun _ _ h => by cases h) fun _ h => by cases h
  | replaceActiveWriter instanceId epoch =>
    have hexec := replace_exec executor instanceId epoch
    rw [acceptedEpoch, hexec]
    constructor
    · intro h other hother
      split at hother
      · next hvalue =>
          cases hother
          apply h instanceId epoch rfl
          by_contra hstale
          rw [if_pos (not_lt.mp hstale)] at hvalue
          cases hvalue
      · cases hother
    · rintro h _ _ ⟨⟩ hless
      apply h
      rw [if_neg (not_le.mpr hless)]

/-! ## Runs -/

theorem acceptedEpochs_append (start : ContinuousExecutor) (calls more : List ExecutorCall) :
    acceptedEpochs start (calls ++ more) =
      acceptedEpochs start calls ++ acceptedEpochs (run callStep start calls) more := by
  induction calls generalizing start with
  | nil => rfl
  | cons call calls ih =>
    rw [List.cons_append, acceptedEpochs, acceptedEpochs, ih, List.append_assoc]
    rfl

/-- After a run the lease is the same, and the active writer is that of the lease only if
nothing has been replaced. -/
theorem run_writer (lease : ExecutorLease) (journal : List ExecutorRow)
    (calls : List ExecutorCall) :
    (run callStep (opened lease journal) calls).lease = lease ∧
      ((run callStep (opened lease journal) calls).activeWriter.2 = lease.executorEpoch →
        acceptedEpochs (opened lease journal) calls = []) ∧
      lease.executorEpoch ≤ (run callStep (opened lease journal) calls).activeWriter.2 := by
  induction calls using List.reverseRecOn with
  | nil => exact ⟨rfl, fun _ => rfl, le_rfl⟩
  | append_singleton calls call ih =>
    obtain ⟨hlease, hempty, hleast⟩ := ih
    have hrun : run callStep (opened lease journal) (calls ++ [call]) =
        callStep (run callStep (opened lease journal) calls) call := by
      rw [run_append]
      rfl
    rw [hrun, acceptedEpochs_append]
    obtain ⟨hsame, hwriter⟩ :=
      callStep_writer (run callStep (opened lease journal) calls) call
    rw [hlease] at hsame hwriter
    refine ⟨hsame, ?_⟩
    rcases hwriter with ⟨hnone, hkept⟩ | ⟨epoch, hsome, hless, hnew⟩
    · rw [hkept, acceptedEpochs, hnone]
      refine ⟨fun heq => ?_, hleast⟩
      rw [hempty heq]
      rfl
    · rw [hnew]
      exact ⟨fun heq => absurd heq hless.ne', hless.le⟩

theorem handled_spec (lease : ExecutorLease) (journal : List ExecutorRow)
    {before : List ExecutorCall} {now : ℚ}
    {handler : ExecutorEvent → Except String GateDisposition}
    (h : Handles (run callStep (opened lease journal) before) (.runOnce now handler)) :
    now < lease.expiresAt ∧ acceptedEpochs (opened lease journal) before = [] := by
  obtain ⟨hlease, hempty, -⟩ := run_writer lease journal before
  have hcases := runOnce_cases (run callStep (opened lease journal) before) now handler
  generalize run callStep (opened lease journal) before = executor at h hlease hempty hcases
  rcases hcases with hsame | ⟨hvalid, -⟩
  · rw [Handles, hsame] at h
    exact absurd h (lt_irrefl _)
  · rw [validateLease, hlease] at hvalid
    split at hvalid
    · cases hvalid
    · next hexpired =>
        split at hvalid
        · cases hvalid
        · next hwriter =>
            refine ⟨Rat.not_le.mp hexpired, hempty ?_⟩
            rw [not_not.mp hwriter]

theorem refused_spec {handler : ExecutorEvent → Except String GateDisposition} {now : ℚ}
    (h : ¬ Handles executor (.runOnce now handler)) :
    callStep executor (.runOnce now handler) = executor := by
  rcases runOnce_cases executor now handler with hsame | ⟨-, -, -, hcount⟩
  · exact hsame
  · rw [Handles, hcount] at h
    exact absurd (Nat.lt_succ_self _) h

/-- Epochs grow along a run, and from the active writer on, just if each replacement is
later than the one before it. -/
theorem increasing_iff (calls : List ExecutorCall) (executor : ContinuousExecutor) :
    ((acceptedEpochs executor calls).Pairwise (· < ·) ∧
      ∀ epoch ∈ acceptedEpochs executor calls, executor.activeWriter.2 < epoch) ↔
      Admissible callStep Advances executor calls := by
  induction calls generalizing executor with
  | nil => exact iff_of_true ⟨.nil, fun _ h => by cases h⟩ trivial
  | cons call calls ih =>
    rw [acceptedEpochs, Admissible, advances_iff, ← ih]
    obtain ⟨-, hwriter⟩ := callStep_writer executor call
    rcases hwriter with ⟨hnone, hkept⟩ | ⟨epoch, hsome, -, hnew⟩
    · rw [hnone, hkept, Option.toList_none, List.nil_append]
      exact (and_iff_right fun _ h => by cases h).symm
    · rw [hsome, hnew, Option.toList_some, List.singleton_append, List.pairwise_cons]
      constructor
      · intro h
        obtain ⟨⟨hlater, hpairwise⟩, hall⟩ := h
        refine ⟨?_, hpairwise, hlater⟩
        rintro other ⟨⟩
        exact hall epoch List.mem_cons_self
      · intro h
        obtain ⟨hfirst, hpairwise, hlater⟩ := h
        have hless := hfirst epoch rfl
        exact ⟨⟨hlater, hpairwise⟩, List.forall_mem_cons.mpr
          ⟨hless, fun other hother => hless.trans (hlater other hother)⟩⟩

theorem lease_lt_acceptedEpochs (calls : List ExecutorCall) (executor : ContinuousExecutor) :
    ∀ epoch ∈ acceptedEpochs executor calls, executor.lease.executorEpoch < epoch := by
  induction calls generalizing executor with
  | nil => exact fun _ h => by cases h
  | cons call calls ih =>
    intro epoch hepoch
    obtain ⟨hlease, hwriter⟩ := callStep_writer executor call
    rw [acceptedEpochs] at hepoch
    cases List.mem_append.mp hepoch with
    | inl hfirst =>
      rcases hwriter with ⟨hnone, -⟩ | ⟨found, hsome, hless, -⟩
      · rw [hnone] at hfirst
        cases hfirst
      · rw [hsome, Option.toList_some, List.mem_singleton] at hfirst
        rw [hfirst]
        exact hless
    | inr hlater =>
      rw [← hlease]
      exact ih (callStep executor call) epoch hlater

/-- An executor is fenced along a run just if every replacement that its lease admits has a
later epoch than the writer that it replaces. -/
theorem fenced_iff (lease : ExecutorLease) (journal : List ExecutorRow)
    (calls : List ExecutorCall) :
    Fenced (opened lease journal) calls ↔
      Admissible callStep Advances (opened lease journal) calls := by
  rw [← increasing_iff]
  constructor
  · intro h
    exact ⟨h.increasing, lease_lt_acceptedEpochs calls (opened lease journal)⟩
  · intro h
    refine ⟨fun before now handler _ hhandles => handled_spec lease journal hhandles, h.1, ?_⟩
    intro before now handler _ hrefused
    have hrun : run callStep (opened lease journal) (before ++ [.runOnce now handler]) =
        run callStep (opened lease journal) before := by
      rw [run_append]
      exact refused_spec hrefused
    rw [hrun]
    exact ⟨rfl, rfl⟩

/-- The second replacement goes back to an earlier epoch. -/
theorem replaced_twice_not_fenced :
    ¬ Fenced (opened ⟨"i1", "l1", "ns", 1, 100⟩ [])
      [.replaceActiveWriter "i2" 3, .replaceActiveWriter "i3" 2] := by
  intro h
  have hepochs : acceptedEpochs (opened ⟨"i1", "l1", "ns", 1, 100⟩ [])
      [.replaceActiveWriter "i2" 3, .replaceActiveWriter "i3" 2] = [3, 2] := rfl
  have hincreasing := h.increasing
  rw [hepochs] at hincreasing
  exact absurd hincreasing (by decide)

end ReisOs.RecursiveRuntime.Executor
