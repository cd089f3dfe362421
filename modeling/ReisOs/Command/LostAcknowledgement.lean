import ReisOs.Command.HazelAdapter

/-!
# What a call of the Hazel adapter can do

A call asks Hazel for at most one write.  What it reports and how it leaves Hazel and the
adapter is one of five cases; the writes of others come before and after its own.
-/

namespace ReisOs.Command

open ReisOs.Core

variable {N : Type} {library : HazelLibrary N}

/-! ## Hazel's versions -/

namespace Hazel

theorem submitAll_append (hazel : Hazel N) (first second : List (HazelWrite N)) :
    (hazel.submitAll library first).submitAll library second =
      hazel.submitAll library (first ++ second) := by
  simp [submitAll]

theorem version_push (hazel : Hazel N) (write : HazelWrite N) (runId ocs : String) :
    version (hazel ++ [write]) runId ocs =
      if write.runId = runId ∧ write.ocs = ocs then write.stateVersion
      else hazel.version runId ocs := by
  rw [version, current, List.filter_append]
  by_cases hsame : write.runId = runId ∧ write.ocs = ocs
  · simp [hsame]
  · simp [hsame, version, current]

theorem version_le_push {hazel : Hazel N} {write : HazelWrite N}
    (h : hazel.Accepts library write) (runId ocs : String) :
    hazel.version runId ocs ≤ version (hazel ++ [write]) runId ocs := by
  rw [version_push]
  by_cases hsame : write.runId = runId ∧ write.ocs = ocs
  · rw [if_pos hsame, ← hsame.1, ← hsame.2, h.1]
    omega
  · rw [if_neg hsame]

theorem version_le_submitAll (hazel : Hazel N) (writes : List (HazelWrite N))
    (runId ocs : String) :
    hazel.version runId ocs ≤ (hazel.submitAll library writes).version runId ocs := by
  induction writes generalizing hazel with
  | nil => exact le_refl _
  | cons write writes ih =>
    have hfirst : hazel.version runId ocs ≤ (hazel.submit library write).version runId ocs := by
      rw [submit]
      by_cases haccepts : hazel.Accepts library write
      · rw [if_pos haccepts]
        exact version_le_push haccepts runId ocs
      · rw [if_neg haccepts]
    exact hfirst.trans (ih (hazel.submit library write))

theorem exists_submitAll (hazel : Hazel N) (writes : List (HazelWrite N)) :
    ∃ more, hazel.submitAll library writes = hazel ++ more := by
  induction writes generalizing hazel with
  | nil => exact ⟨[], (List.append_nil hazel).symm⟩
  | cons write writes ih =>
    obtain ⟨more, hmore⟩ := ih (hazel.submit library write)
    have hcons : hazel.submitAll library (write :: writes) =
        hazel.submit library write ++ more := hmore
    rw [hcons, submit]
    by_cases haccepts : hazel.Accepts library write
    · rw [if_pos haccepts, List.append_assoc]
      exact ⟨[write] ++ more, rfl⟩
    · rw [if_neg haccepts]
      exact ⟨more, rfl⟩

end Hazel

namespace Continuity

/-- A call that goes to Hazel: it is authorized and bound to its decision, and its key
is new to the adapter. -/
structure Fresh (world : Continuity N) (call : PersistCall N) : Prop where
  authorized : call.decision.authorized = true
  bound : validateBinding call.decision call.request = .ok ()
  unrecorded : world.recorded.lookup call.request.idempotencyKey = none

/-- The world with the writes of others. -/
def others (library : HazelLibrary N) (world : Continuity N) (writes : List (HazelWrite N)) :
    Continuity N :=
  { world with hazel := world.hazel.submitAll library writes }

/-- The world in which Hazel has accepted the write of a call, others writing before it
and after it. -/
def taken (library : HazelLibrary N) (world : Continuity N) (call : PersistCall N)
    (before after : List (HazelWrite N)) : Continuity N :=
  let write := call.request.write library call.decision
  { world with
    hazel := Hazel.submitAll library (world.hazel.submitAll library before ++ [write]) after
    own := world.own ++ [write] }

/-- What a call can come to. -/
inductive Outcome (library : HazelLibrary N) (world : Continuity N) (call : PersistCall N) :
    Continuity N × Except HazelError HazelPersistReadback → Prop where
  | unauthorized (writes : List (HazelWrite N)) (hauthorized : ¬call.decision.authorized) :
      Outcome library world call
        (world.others library writes, .ok (unauthorized call.decision call.request))
  | stopped (writes : List (HazelWrite N)) (error : HazelError) :
      Outcome library world call (world.others library writes, .error error)
  | replayed (writes : List (HazelWrite N)) (previous : HazelPersistReadback)
      (hauthorized : call.decision.authorized = true)
      (hbound : validateBinding call.decision call.request = .ok ())
      (hrecorded : world.recorded.lookup call.request.idempotencyKey = some previous) :
      Outcome library world call (world.others library writes,
        .ok { previous with mutationCount := 0, idempotentReplay := true })
  | unproven (before after : List (HazelWrite N)) (error : HazelError)
      (hfresh : world.Fresh call)
      (haccepts : Hazel.Accepts library (world.hazel.submitAll library before)
        (call.request.write library call.decision)) :
      Outcome library world call (world.taken library call before after, .error error)
  | proven (before after : List (HazelWrite N)) (receipt : HazelDocument N)
      (hfresh : world.Fresh call)
      (haccepts : Hazel.Accepts library (world.hazel.submitAll library before)
        (call.request.write library call.decision)) :
      Outcome library world call
        ({ world.taken library call before after with
            recorded := world.recorded.insert call.request.idempotencyKey
              (readback call.decision call.request receipt) },
          .ok (readback call.decision call.request receipt))

theorem outcome_persistState {world : Continuity N} {call : PersistCall N}
    (hfresh : world.Fresh call) (before : List (HazelWrite N)) :
    Outcome library world call
      (persistState library (world.others library before) call) := by
  rw [persistState]
  by_cases htakes : (world.others library before).hazel.Takes library
      call.surroundings.persist (call.request.write library call.decision)
  · simp only [if_pos htakes]
    cases Hazel.receipt library call.surroundings.persist
        (call.request.write library call.decision) with
    | error error => exact .unproven before [] error hfresh htakes.2
    | ok receipt =>
      simp only
      split
      · exact .unproven before call.surroundings.beforeReadback _ hfresh htakes.2
      · split
        · exact .unproven before call.surroundings.beforeReadback _ hfresh htakes.2
        · exact .proven before call.surroundings.beforeReadback receipt hfresh htakes.2
  · simp only [if_neg htakes]
    exact .stopped before .port

theorem outcome_persist (library : HazelLibrary N) (world : Continuity N)
    (call : PersistCall N) : Outcome library world call (persist library world call) := by
  rw [persist]
  by_cases hauthorized : call.decision.authorized = true
  · simp only [if_neg (not_not_intro hauthorized)]
    cases hbound : validateBinding call.decision call.request with
    | error error => exact .stopped call.surroundings.beforeProbe error
    | ok _ =>
      cases hrecorded : world.recorded.lookup call.request.idempotencyKey with
      | some previous =>
        exact .replayed call.surroundings.beforeProbe previous hauthorized hbound hrecorded
      | none =>
        cases validatePredecessor call.request (Hazel.recoverState library
            (world.hazel.submitAll library call.surroundings.beforeProbe)
            call.surroundings.probe call.request.runId call.request.ocs) with
        | error error => exact .stopped call.surroundings.beforeProbe error
        | ok _ =>
          have houtcome := @outcome_persistState N library world call
            ⟨hauthorized, hbound, hrecorded⟩
            (call.surroundings.beforeProbe ++ call.surroundings.beforePersist)
          rw [others, ← Hazel.submitAll_append] at houtcome
          exact houtcome
  · simp only [if_pos hauthorized]
    exact .unauthorized call.surroundings.beforeProbe hauthorized

end Continuity

end ReisOs.Command

/-!
## Lost acknowledgements

The adapter remembers a key only when it has read the write back.  A call that failed
after Hazel had taken its write leaves the request behind Hazel's version for good.
-/

namespace ReisOs.Command

open ReisOs.Core

variable {N : Type} {library : HazelLibrary N}

/-- The same request once more, in other surroundings. -/
def PersistCall.again (call : PersistCall N) (surroundings : Surroundings N) :
    PersistCall N :=
  { call with surroundings }

namespace Continuity

/-- Hazel has accepted the write of the call, the call has raised. -/
structure Unacknowledged (library : HazelLibrary N) (world : Continuity N)
    (call : PersistCall N) : Prop where
  raises : ∃ error, (persist library world call).2 = .error error
  taken : (persist library world call).1.own =
    world.own ++ [call.request.write library call.decision]

/-- The world after repeating a call. -/
def retried (library : HazelLibrary N) (call : PersistCall N) (world : Continuity N)
    (retries : List (Surroundings N)) : Continuity N :=
  run (fun world surroundings => (persist library world (call.again surroundings)).1) world
    retries

/-- The request of the call has no version left that Hazel could accept. -/
structure Behind (world : Continuity N) (call : PersistCall N) : Prop extends
    world.Fresh call where
  passed : call.request.stateVersion ≤
    world.hazel.version call.request.runId call.request.ocs

theorem Unacknowledged.behind {world : Continuity N} {call : PersistCall N}
    (h : Unacknowledged library world call) : Behind (persist library world call).1 call := by
  obtain ⟨⟨error, hraises⟩, htaken⟩ := h
  have houtcome := outcome_persist library world call
  generalize persist library world call = result at hraises htaken houtcome ⊢
  cases houtcome with
  | unauthorized writes hauthorized => cases hraises
  | stopped writes error =>
    have hsame : world.own = world.own ++ [call.request.write library call.decision] := htaken
    simp at hsame
  | replayed writes previous hauthorized hbound hrecorded => cases hraises
  | proven before after receipt hfresh haccepts => cases hraises
  | unproven before after error hfresh haccepts =>
    refine ⟨⟨hfresh.authorized, hfresh.bound, hfresh.unrecorded⟩, ?_⟩
    have hversion : Hazel.version
        (world.hazel.submitAll library before ++
          [call.request.write library call.decision])
        call.request.runId call.request.ocs = call.request.stateVersion := by
      rw [Hazel.version_push, if_pos ⟨rfl, rfl⟩]
      rfl
    exact hversion.ge.trans (Hazel.version_le_submitAll _ after _ _)

/-- A request behind Hazel raises whatever happens, and stays behind. -/
theorem Behind.persist {world : Continuity N} {call : PersistCall N} (h : Behind world call)
    (surroundings : Surroundings N) :
    (∃ error, (persist library world (call.again surroundings)).2 = .error error) ∧
      (persist library world (call.again surroundings)).1.own = world.own ∧
      Behind (persist library world (call.again surroundings)).1 call := by
  have hstale (before : List (HazelWrite N)) :
      ¬Hazel.Accepts library (world.hazel.submitAll library before)
        (call.request.write library call.decision) := by
    intro haccepts
    have hnext : call.request.stateVersion = Hazel.version
        (world.hazel.submitAll library before) call.request.runId call.request.ocs + 1 :=
      haccepts.1
    have hgrown := @Hazel.version_le_submitAll N library world.hazel before
      call.request.runId call.request.ocs
    have hpassed := h.passed
    omega
  have houtcome := outcome_persist library world (call.again surroundings)
  generalize Continuity.persist library world (call.again surroundings) = result
    at houtcome ⊢
  cases houtcome with
  | unauthorized writes hauthorized => exact absurd h.authorized hauthorized
  | stopped writes error =>
    refine ⟨⟨error, rfl⟩, rfl, ⟨h.authorized, h.bound, h.unrecorded⟩, ?_⟩
    exact h.passed.trans (Hazel.version_le_submitAll _ writes _ _)
  | replayed writes previous hauthorized hbound hrecorded =>
    exact absurd (hrecorded.symm.trans h.unrecorded) (Option.some_ne_none previous)
  | unproven before after error hfresh haccepts => exact absurd haccepts (hstale before)
  | proven before after receipt hfresh haccepts => exact absurd haccepts (hstale before)

theorem Behind.retried {world : Continuity N} {call : PersistCall N} (h : Behind world call)
    (retries : List (Surroundings N)) :
    (retried library call world retries).own = world.own ∧
      Behind (retried library call world retries) call := by
  induction retries generalizing world with
  | nil => exact ⟨rfl, h⟩
  | cons surroundings retries ih =>
    have hfirst := @Behind.persist N library world call h surroundings
    have hrest := ih hfirst.2.2
    exact ⟨hrest.1.trans hfirst.2.1, hrest.2⟩

/-- Hazel as far as the examples go, with hashes that tell the version. -/
def versionedHazel : HazelLibrary ℤ where
  ofInt := id
  eventHash write := "event:" ++ write.stateVersion.repr
  payloadHash _ := "payload"

/-- Nobody else writes, and all answers come back. -/
def quiet : Surroundings ℤ := ⟨[], .answered, [], .answered, [], .answered⟩

/-- A first write of a run with the state and the idempotency key. -/
def initialCall (state : Mapping ℤ) (surroundings : Surroundings ℤ) : PersistCall ℤ where
  decision := ⟨.allow, true, "s", 0, "k", "c", none, "t", "a"⟩
  request := ⟨"r", "o", "h", 1, none, state, "k", "c", none⟩
  surroundings

/-- Its readback is lost. -/
def lostCall : PersistCall ℤ := initialCall ∅ { quiet with readback := .lost }

theorem unacknowledged_lostCall : Unacknowledged versionedHazel empty lostCall where
  raises := ⟨.port, by decide +kernel⟩
  taken := by rfl

end Continuity

end ReisOs.Command
