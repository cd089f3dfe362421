import ReisOs.Kernel.HazelContinuity
import ReisOs.Kernel.StickyHold

/-!
# Holds while Hazel answers

Any number of continuity calls over one guard and one log, with every other identity
operation running between their request and return parts.  A return logs the valid
binding that its request captured, so a hold made in between is lost exactly when
such a return is accepted.
-/

namespace ReisOs.Kernel

open ReisOs.Core IdentityKernelGuard HazelBoundContinuity

variable {P : Type}

/-! ## Calls in flight -/

inductive ContinuityCall (P : Type) where
  | persist (arguments : PersistArguments P)
  | recover (arguments : RecoverArguments)

/-- A call that waits for Hazel, with the binding it captured. -/
structure Flight (P : Type) where
  binding : ActiveIdentityBinding
  call : ContinuityCall P

structure ContinuityState (P : Type) where
  guard : IdentityKernelGuard
  flights : Dict ℕ (Flight P)

inductive ContinuityStep (P : Type) where
  | identity (op : IdentityOp)
  | persistRequest (id : ℕ) (arguments : PersistArguments P)
  | persistReturn (id : ℕ) (answer : Except HazelError HazelReceipt)
  | recoverRequest (id : ℕ) (arguments : RecoverArguments)
  | recoverReturn (id : ℕ) (answer : Except HazelError (HazelRecord P))

/-- A call whose request part raises does not wait. -/
def takeOff (state : ContinuityState P) (id : ℕ) (call : ContinuityCall P)
    (answer : IdentityKernelGuard × Except HazelError ActiveIdentityBinding) :
    ContinuityState P :=
  match answer with
  | (guard, .error _) => { state with guard := guard }
  | (guard, .ok binding) =>
    { guard := guard, flights := state.flights.insert id ⟨binding, call⟩ }

/-- Restarting the process ends the calls in flight. -/
def IdentityOp.surviving (flights : Dict ℕ (Flight P)) : IdentityOp → Dict ℕ (Flight P)
  | .restart => ∅
  | _ => flights

def continuityStep (config : HazelConfig P) (state : ContinuityState P) :
    ContinuityStep P → ContinuityState P
  | .identity op =>
    { guard := identityStep config.identity state.guard op
      flights := op.surviving state.flights }
  | .persistRequest id arguments =>
    takeOff state id (.persist arguments)
      (HazelBoundContinuity.persistRequest config state.guard arguments)
  | .recoverRequest id arguments =>
    takeOff state id (.recover arguments) (recoverCall config state.guard arguments)
  | .persistReturn id answer =>
    match state.flights.lookup id with
    | some ⟨binding, .persist arguments⟩ =>
      { guard :=
          (HazelBoundContinuity.persistReturn config state.guard binding arguments answer).1
        flights := state.flights.erase id }
    | _ => state
  | .recoverReturn id answer =>
    match state.flights.lookup id with
    | some ⟨binding, .recover _⟩ =>
      { guard :=
          (HazelBoundContinuity.recoverReturn config state.guard binding answer).1
        flights := state.flights.erase id }
    | _ => state

/-- The step binds the run, anew or by a rebind. -/
def ContinuityStep.Binds (runId : String) : ContinuityStep P → Prop
  | .identity op => op.target = some runId
  | _ => False

/-- The answer passes the checks of the waiting call. -/
def Flight.AcceptsReceipt (flight : Flight P) (answer : Except HazelError HazelReceipt) :
    Prop :=
  match flight.call, answer with
  | .persist _, .ok receipt => receiptFailure flight.binding receipt = none
  | _, _ => False

def Flight.AcceptsRecord (config : HazelConfig P) (flight : Flight P)
    (answer : Except HazelError (HazelRecord P)) : Prop :=
  match flight.call, answer with
  | .recover _, .ok recovered => recoveryFailure config flight.binding recovered = none
  | _, _ => False

/-- No accepted answer returns to a call whose run is held. -/
def ReturnsUnheld (config : HazelConfig P) (state : ContinuityState P) :
    ContinuityStep P → Prop
  | .persistReturn id answer =>
    ∀ flight, state.flights.lookup id = some flight → flight.AcceptsReceipt answer →
      ¬ state.guard.auditLog.Held flight.binding.runId
  | .recoverReturn id answer =>
    ∀ flight, state.flights.lookup id = some flight → flight.AcceptsRecord config answer →
      ¬ state.guard.auditLog.Held flight.binding.runId
  | _ => True

/-! ## The invariant -/

variable {config : HazelConfig P} {guard guard' : IdentityKernelGuard}
  {state : ContinuityState P} {binding : ActiveIdentityBinding}

/-- The guard is coherent, and the calls in flight captured valid bindings. -/
structure Boarded (config : HazelConfig P) (state : ContinuityState P) : Prop where
  coherent : Coherent config.identity state.guard
  valid : ∀ id flight, state.flights.lookup id = some flight →
    flight.binding.status = .valid

theorem requireAuthority_keeps {bound : Option String} (guard : IdentityKernelGuard)
    (runId expectedOcs : String) (trigger : IdentityRecheckTrigger)
    (host authorityRef : String) :
    Keeps config.identity bound guard
      (requireAuthority config guard runId expectedOcs trigger host authorityRef).1 := by
  rw [requireAuthority_fst]
  exact requireValid_keeps ..

theorem requireAuthority_valid {runId expectedOcs host authorityRef : String}
    {trigger : IdentityRecheckTrigger}
    (h : requireAuthority config guard runId expectedOcs trigger host authorityRef =
      (guard', .ok binding)) : binding.status = .valid := by
  obtain ⟨-, -, hvalid, -⟩ := requireValid_ok (requireAuthority_ok h).1
  exact hvalid

theorem recoverCall_keeps {bound : Option String} (guard : IdentityKernelGuard)
    (arguments : RecoverArguments) :
    Keeps config.identity bound guard (recoverCall config guard arguments).1 := by
  simp only [recoverCall]
  split
  · exact requireAuthority_keeps ..
  · split
    · exact .refl guard
    · rename_i hrecover
      exact (recoverState_keeps hrecover).trans (requireAuthority_keeps ..)

theorem recoverCall_valid {arguments : RecoverArguments}
    (h : recoverCall config guard arguments = (guard', .ok binding)) :
    binding.status = .valid := by
  simp only [recoverCall] at h
  split at h
  · exact requireAuthority_valid h
  · split at h
    · cases h
    · exact requireAuthority_valid h

theorem takeOff_boarded (h : Boarded config state) {id : ℕ} {call : ContinuityCall P}
    {answer : IdentityKernelGuard × Except HazelError ActiveIdentityBinding}
    (hkeeps : Keeps config.identity none state.guard answer.1)
    (hvalid : ∀ binding, answer.2 = .ok binding → binding.status = .valid) :
    Boarded config (takeOff state id call answer) := by
  obtain ⟨guard, outcome⟩ := answer
  cases outcome with
  | error error => exact ⟨hkeeps.coherent h.coherent, h.valid⟩
  | ok binding =>
    refine ⟨hkeeps.coherent h.coherent, ?_⟩
    intro other flight hflight
    simp only [takeOff, Dict.lookup_insert_eq] at hflight
    split at hflight
    · cases hflight
      exact hvalid binding rfl
    · exact h.valid other flight hflight

theorem takeOff_guard (state : ContinuityState P) (id : ℕ) (call : ContinuityCall P)
    (answer : IdentityKernelGuard × Except HazelError ActiveIdentityBinding) :
    (takeOff state id call answer).guard = answer.1 := by
  obtain ⟨guard, outcome⟩ := answer
  cases outcome <;> rfl

theorem persistReturn_fst (config : HazelConfig P) (guard : IdentityKernelGuard)
    (binding : ActiveIdentityBinding)
    (arguments : PersistArguments P) (answer : Except HazelError HazelReceipt) :
    (HazelBoundContinuity.persistReturn config guard binding arguments answer).1 = guard ∧
        ¬ Flight.AcceptsReceipt ⟨binding, .persist arguments⟩ answer ∨
      ∃ details, (HazelBoundContinuity.persistReturn config guard binding arguments answer).1 =
        guard.log config.identity "HAZEL_PERSIST_RECEIPT" binding details ∧
        Flight.AcceptsReceipt ⟨binding, .persist arguments⟩ answer := by
  cases answer with
  | error error => exact .inl ⟨rfl, id⟩
  | ok receipt =>
    simp only [HazelBoundContinuity.persistReturn, Flight.AcceptsReceipt]
    cases hfailure : receiptFailure binding receipt with
    | some reason => exact .inl ⟨rfl, by simp⟩
    | none => exact .inr ⟨_, rfl, rfl⟩

theorem recoverReturn_fst (config : HazelConfig P) (guard : IdentityKernelGuard)
    (binding : ActiveIdentityBinding)
    (arguments : RecoverArguments) (answer : Except HazelError (HazelRecord P)) :
    (HazelBoundContinuity.recoverReturn config guard binding answer).1 = guard ∧
        ¬ Flight.AcceptsRecord config ⟨binding, .recover arguments⟩ answer ∨
      ∃ details, (HazelBoundContinuity.recoverReturn config guard binding answer).1 =
        guard.log config.identity "HAZEL_RECOVERY_ACCEPTED" binding details ∧
        Flight.AcceptsRecord config ⟨binding, .recover arguments⟩ answer := by
  cases answer with
  | error error => exact .inl ⟨rfl, id⟩
  | ok recovered =>
    simp only [HazelBoundContinuity.recoverReturn, Flight.AcceptsRecord]
    cases hfailure : recoveryFailure config binding recovered with
    | some reason => exact .inl ⟨rfl, by simp⟩
    | none => exact .inr ⟨_, rfl, rfl⟩

theorem unheld_log_keeps (hvalid : binding.status = .valid)
    (hunheld : ¬ guard.auditLog.Held binding.runId) (eventType : String)
    (details : Details) :
    Keeps config.identity none guard
      (guard.log config.identity eventType binding details) where
  coherent h := by
    apply h.log
    intro stored hstored
    have hcurrent := h.current binding.runId stored hstored
    cases hstatus : stored.status with
    | valid => exact hvalid
    | hold =>
      rw [hstatus] at hcurrent
      exact absurd hcurrent hunheld
  held _ runId _ hheld := by
    rw [log_auditLog, IdentityAuditLog.held_append]
    split
    · rename_i heq
      subst heq
      exact absurd hheld hunheld
    · exact hheld

theorem recoverCurrentBinding_log (h : Coherent config.identity guard)
    (hvalid : binding.status = .valid) (eventType : String) (details : Details) :
    (guard.log config.identity eventType binding details).auditLog.recoverCurrentBinding
      config.identity binding.runId = .ok (some binding) := by
  have hsound := h.sound.append eventType binding details
  apply hsound.recoverCurrentBinding_valid _ hvalid
  rw [IdentityAuditLog.terminalBinding_append, if_pos rfl]

theorem erase_valid (h : Boarded config state) (id : ℕ) :
    ∀ other flight, (state.flights.erase id).lookup other = some flight →
      flight.binding.status = .valid := by
  intro other flight hflight
  rw [Dict.lookup_erase_eq] at hflight
  split at hflight
  · cases hflight
  · exact h.valid other flight hflight

/-- The run that a step may bind. -/
def ContinuityStep.bound : ContinuityStep P → Option String
  | .identity op => op.target
  | _ => none

theorem continuityStep_keeps (h : Boarded config state) {step : ContinuityStep P}
    (hallowed : ReturnsUnheld config state step) :
    Keeps config.identity step.bound state.guard (continuityStep config state step).guard := by
  cases step with
  | identity op => exact identityStep_keeps state.guard op
  | persistRequest id arguments =>
    rw [continuityStep, takeOff_guard]
    exact requireAuthority_keeps ..
  | recoverRequest id arguments =>
    rw [continuityStep, takeOff_guard]
    exact recoverCall_keeps ..
  | persistReturn id answer =>
    rw [continuityStep]
    split
    · rename_i binding arguments hflight
      rcases persistReturn_fst config state.guard binding arguments answer with
        ⟨hsame, -⟩ | ⟨details, hlog, haccepts⟩
      · rw [hsame]
        exact .refl state.guard
      · rw [hlog]
        exact unheld_log_keeps (h.valid id _ hflight) (hallowed _ hflight haccepts) ..
    · exact .refl state.guard
  | recoverReturn id answer =>
    rw [continuityStep]
    split
    · rename_i binding arguments hflight
      rcases recoverReturn_fst config state.guard binding arguments answer with
        ⟨hsame, -⟩ | ⟨details, hlog, haccepts⟩
      · rw [hsame]
        exact .refl state.guard
      · rw [hlog]
        exact unheld_log_keeps (h.valid id _ hflight) (hallowed _ hflight haccepts) ..
    · exact .refl state.guard

theorem surviving_valid (h : Boarded config state) (op : IdentityOp) :
    ∀ id flight, (op.surviving state.flights).lookup id = some flight →
      flight.binding.status = .valid := by
  intro id flight hflight
  cases op with
  | restart => simp [IdentityOp.surviving] at hflight
  | _ => exact h.valid id flight hflight

theorem Boarded.step (h : Boarded config state) {step : ContinuityStep P}
    (hallowed : ReturnsUnheld config state step) :
    Boarded config (continuityStep config state step) := by
  have hcoherent := (continuityStep_keeps h hallowed).coherent h.coherent
  cases step with
  | identity op => exact ⟨hcoherent, surviving_valid h op⟩
  | persistRequest id arguments =>
    apply takeOff_boarded h (requireAuthority_keeps ..)
    intro binding hanswer
    exact requireAuthority_valid (Prod.ext rfl hanswer)
  | recoverRequest id arguments =>
    apply takeOff_boarded h (recoverCall_keeps ..)
    intro binding hanswer
    exact recoverCall_valid (Prod.ext rfl hanswer)
  | persistReturn id answer =>
    refine ⟨hcoherent, ?_⟩
    rw [continuityStep]
    split
    · exact erase_valid h id
    · exact h.valid
  | recoverReturn id answer =>
    refine ⟨hcoherent, ?_⟩
    rw [continuityStep]
    split
    · exact erase_valid h id
    · exact h.valid

/-! ## No hold is lost -/

/-- A recovery of the run from the log asks for a rebind. -/
def AsksRebind (config : HazelConfig P) (runId : String) (state : ContinuityState P) : Prop :=
  state.guard.auditLog.recoverCurrentBinding config.identity runId =
    .error (.valueError "identity_hold_rebind_required")

theorem returnsUnheld_of_asksRebind (h : Boarded config state) {step : ContinuityStep P}
    (hasks : ∀ runId, state.guard.auditLog.Held runId → ¬ step.Binds runId →
      AsksRebind config runId (continuityStep config state step)) :
    ReturnsUnheld config state step := by
  cases step with
  | persistReturn id answer =>
    rintro ⟨binding, call⟩ hflight haccepts hheld
    have hend := hasks binding.runId hheld not_false
    cases call with
    | recover arguments => exact haccepts
    | persist arguments =>
      rw [AsksRebind, continuityStep, hflight] at hend
      rcases persistReturn_fst config state.guard binding arguments answer
        with ⟨-, hrejects⟩ | ⟨details, hlog, -⟩
      · exact hrejects haccepts
      · simp only [hlog, recoverCurrentBinding_log h.coherent (h.valid id _ hflight)]
          at hend
        cases hend
  | recoverReturn id answer =>
    rintro ⟨binding, call⟩ hflight haccepts hheld
    have hend := hasks binding.runId hheld not_false
    cases call with
    | persist arguments => exact haccepts
    | recover arguments =>
      rw [AsksRebind, continuityStep, hflight] at hend
      rcases recoverReturn_fst config state.guard binding arguments answer
        with ⟨-, hrejects⟩ | ⟨details, hlog, -⟩
      · exact hrejects haccepts
      · simp only [hlog, recoverCurrentBinding_log h.coherent (h.valid id _ hflight)]
          at hend
        cases hend
  | identity | persistRequest | recoverRequest => trivial

/-- Along an interleaving over a new log: from any point at which a run's last logged
binding is held, a recovery of the run asks for a rebind until the run is bound. -/
def NoHoldLost (config : HazelConfig P) (steps : List (ContinuityStep P)) : Prop :=
  StaysClosed (continuityStep config) (fun runId state => state.guard.auditLog.Held runId)
    (AsksRebind config) ContinuityStep.Binds ⟨.restart [], ∅⟩ steps

/-- Holds survive exactly the interleavings in which no accepted answer of Hazel returns
to a call of a held run. -/
theorem noHoldLost_iff_returnsUnheld (config : HazelConfig P)
    (steps : List (ContinuityStep P)) :
    NoHoldLost config steps ↔
      Admissible (continuityStep config) (ReturnsUnheld config) ⟨.restart [], ∅⟩ steps := by
  apply staysClosed_iff_admissible (Boarded config)
  · intro state step h hallowed
    exact h.step hallowed
  · intro state step runId h hallowed hheld hbinds
    refine (continuityStep_keeps h hallowed).held h.coherent runId ?_ hheld
    cases step with
    | identity op => exact hbinds
    | _ => exact Option.some_ne_none runId |>.symm
  · intro state runId h hheld
    exact h.coherent.sound.recoverCurrentBinding_held hheld
  · intro state step h hasks
    exact returnsUnheld_of_asksRebind h hasks
  · exact ⟨restart_coherent IdentityAuditLog.nil_sound, by simp⟩

/-- A run is bound, and held while Hazel takes its state. -/
def overtakenHold : List (ContinuityStep String) :=
  [.identity (.bind 1 "run:held" "NÓESIS" "ChatGPT" "session:held"),
    .persistRequest 0 ⟨"run:held", "NÓESIS", "ChatGPT", "authority:noesis", 1, none,
      "payload", "trace:held"⟩,
    .identity (.hold "run:held" "identity_conflict"),
    .persistReturn 0 (.ok ⟨true, some "NÓESIS", some "state:noesis", some "event:1",
      some "payload"⟩)]

/-- The receipt that arrives after the hold is logged with the valid binding. -/
theorem not_noHoldLost_overtakenHold :
    ¬ NoHoldLost ⟨HeldRun.identityConfig, id⟩ overtakenHold := by
  intro h
  have hasks := h "run:held" (overtakenHold.take 3) (overtakenHold.drop 3) List.prefix_rfl
    (by decide) (by simp [overtakenHold, ContinuityStep.Binds])
  have hlog : (run (continuityStep ⟨HeldRun.identityConfig, id⟩) ⟨.restart [], ∅⟩
      overtakenHold).guard.auditLog.recoverCurrentBinding HeldRun.identityConfig "run:held" =
      .ok (some (newBinding HeldRun.profile "run:held" "ChatGPT" "session:held" 1)) := by
    rfl
  rw [List.take_append_drop, AsksRebind, hlog] at hasks
  cases hasks

end ReisOs.Kernel
