import ReisOs.Core.Checks
import ReisOs.Kernel.StateTrace

/-!
# Material effects and recovery

`ToolBroker`, `ThinEffector` and `RecoveryManager`.  Adapters and compensation
verifiers are outside the kernel: each call's answers are given by the
environment.
-/

namespace ReisOs.Kernel

open ReisOs.Core

variable {P : Type}

/-! ## Broker -/

/-- A registered adapter: its object identity and whether it can compensate. -/
structure AdapterEntry where
  objectId : ℕ
  hasCompensate : Bool
  deriving DecidableEq, Repr

structure ToolBroker where
  adapters : Dict String AdapterEntry
  compensationVerifiers : Dict String ℕ
  deriving DecidableEq

/-- What the adapter and the verifier answer if they are called now. -/
structure AdapterAnswers (P : Type) where
  mutate : Except PyError String
  readback : Except PyError (MaterialReadback P)
  compensate : Except PyError String
  verifierReadback : Except PyError (MaterialReadback P)
  verify : Except PyError Bool

namespace ToolBroker

/-- `_validate_envelope`: the reason it raises, if it does. -/
def validateEnvelope (envelope : AuthorizedActionEnvelope P) : Option String :=
  firstFailure
    [(envelope.capability ∉ envelope.scope || !envelope.validScope,
        "material_boundary_scope_invalid"),
      (envelope.authorityRef == "" || envelope.leaseUseIndex.isNone,
        "material_boundary_authority_required")]

/-- `adapter_for` behind the envelope check. -/
def resolveFor (broker : ToolBroker) (envelope : AuthorizedActionEnvelope P) :
    Except PyError AdapterEntry :=
  match validateEnvelope envelope with
  | some reason => .error (.valueError reason)
  | none =>
    match broker.adapters.lookup envelope.capability with
    | none => .error (.valueError "adapter_not_registered")
    | some adapter => .ok adapter

theorem resolveFor_congr {broker : ToolBroker}
    {envelope envelope' : AuthorizedActionEnvelope P} {adapter : AdapterEntry}
    (hcapability : envelope'.capability = envelope.capability)
    (hscope : envelope'.scope = envelope.scope)
    (hvalid : envelope'.validScope = envelope.validScope)
    (hauthority : envelope'.authorityRef = envelope.authorityRef)
    (hindex : envelope'.leaseUseIndex.isSome)
    (h : broker.resolveFor envelope = .ok adapter) :
    broker.resolveFor envelope' = .ok adapter := by
  have hchecks : validateEnvelope envelope = none := by
    cases hvalidate : validateEnvelope envelope with
    | none => rfl
    | some reason => simp [resolveFor, hvalidate] at h
  have hchecks' : validateEnvelope envelope' = none := by
    have hall := firstFailure_eq_none_iff.mp hchecks
    refine firstFailure_eq_none_iff.mpr ?_
    simp only [List.forall_mem_cons, Bool.or_eq_false_iff] at hall ⊢
    rw [hcapability, hscope, hvalid, hauthority]
    exact ⟨hall.1, ⟨hall.2.1.1, by simpa using hindex⟩, by simp⟩
  unfold resolveFor at h ⊢
  rw [hchecks] at h
  rw [hchecks', hcapability]
  exact h

/-- `compensate_for`. -/
def compensateFor (broker : ToolBroker) (answers : AdapterAnswers P)
    (envelope : AuthorizedActionEnvelope P) : Except PyError (MaterialReadback P) :=
  match validateEnvelope envelope with
  | some reason => .error (.valueError reason)
  | none =>
    match broker.compensationVerifiers.lookup envelope.capability,
        broker.adapters.lookup envelope.capability with
    | some verifier, some adapter =>
      if verifier = adapter.objectId then
        .error (.runtimeError "independent_compensation_verifier_required")
      else if !adapter.hasCompensate then
        .error (.runtimeError "material_compensation_unavailable")
      else
        match answers.compensate with
        | .error error => .error error
        | .ok _ =>
          match answers.verifierReadback with
          | .error error => .error error
          | .ok readback =>
            match answers.verify with
            | .error error => .error error
            | .ok false =>
              .error (.runtimeError
                "material_compensation_verification_failed")
            | .ok true => .ok readback
    | _, _ => .error (.runtimeError "independent_compensation_verifier_required")

end ToolBroker

/-! ## Effector -/

/-- The ways `ThinEffector.execute` ends. -/
inductive EffectOutcome (P : Type) where
  /-- The idempotency cache answered. -/
  | cached (readback : MaterialReadback P)
  /-- The broker refused before the adapter was called. -/
  | refused (error : PyError)
  /-- `adapter.mutate` was called and raised. -/
  | mutateFailed (error : PyError)
  /-- `adapter.mutate` returned; the readback raised. -/
  | readbackFailed (mutationId : String) (error : PyError)
  /-- `adapter.mutate` returned and the readback was cached. -/
  | applied (mutationId : String) (readback : MaterialReadback P)

/-- `ThinEffector.execute`, over the effector's table of completed readbacks. -/
def effectorExecute (broker : ToolBroker) (completed : Dict String (MaterialReadback P))
    (answers : AdapterAnswers P) (envelope : AuthorizedActionEnvelope P) :
    EffectOutcome P :=
  match completed.lookup envelope.idempotencyKey with
  | some readback => .cached readback
  | none =>
    match broker.resolveFor envelope with
    | .error error => .refused error
    | .ok _ =>
      match answers.mutate with
      | .error error => .mutateFailed error
      | .ok mutationId =>
        match answers.readback with
        | .error error => .readbackFailed mutationId error
        | .ok readback => .applied mutationId readback

variable {broker : ToolBroker} {completed : Dict String (MaterialReadback P)}
  {answers : AdapterAnswers P} {envelope : AuthorizedActionEnvelope P}

theorem lookup_of_effectorExecute_cached {readback : MaterialReadback P}
    (h : effectorExecute broker completed answers envelope = .cached readback) :
    completed.lookup envelope.idempotencyKey = some readback := by
  unfold effectorExecute at h
  split at h
  · simp_all
  · repeat (split at h <;> try cases h)

theorem lookup_eq_none_of_effectorExecute {outcome : EffectOutcome P}
    (h : effectorExecute broker completed answers envelope = outcome)
    (huncached : ∀ readback, outcome ≠ .cached readback) :
    completed.lookup envelope.idempotencyKey = none := by
  cases hlookup : completed.lookup envelope.idempotencyKey with
  | none => rfl
  | some readback =>
    exact absurd (by rw [← h, effectorExecute, hlookup]) (huncached readback)

theorem resolveFor_of_effectorExecute {outcome : EffectOutcome P}
    (h : effectorExecute broker completed answers envelope = outcome)
    (huncached : ∀ readback, outcome ≠ .cached readback)
    (hresolved : ∀ error, outcome ≠ .refused error) :
    ∃ adapter, broker.resolveFor envelope = .ok adapter := by
  have hlookup := lookup_eq_none_of_effectorExecute h huncached
  cases hadapter : broker.resolveFor envelope with
  | ok adapter => exact ⟨adapter, rfl⟩
  | error error =>
    exact absurd (by rw [← h, effectorExecute, hlookup, hadapter]) (hresolved error)

/-! ## Recovery -/

/-- The checkpoint table of a `RecoveryManager`. -/
abbrev Checkpoints (P : Type) := Dict String (VerifiedCheckpoint P)

def registerCheckpoint (checkpoints : Checkpoints P) (recoveryRef : String)
    (checkpoint : VerifiedCheckpoint P) : Except PyError (Checkpoints P) :=
  if !checkpoint.state.verified then
    .error (.valueError "verified_checkpoint_required")
  else .ok (checkpoints.insert recoveryRef checkpoint)

variable [DecidableEq P]

/-- The state part of `recover_post_effect`, after a verified compensation. -/
def recoverState (codec : StateCodec P) (checkpoints : Checkpoints P)
    (core : StateCore P) (recoveryRef : String) :
    StateCore P × Except PyError Bool :=
  match checkpoints.lookup recoveryRef with
  | none => (core, .ok false)
  | some checkpoint =>
    match core.current checkpoint.state.ocs with
    | .error error => (core, .error error)
    | .ok current =>
      if current.any (·.stateId = checkpoint.state.stateId) then (core, .ok true)
      else
        match core.restoreVerified codec checkpoint with
        | (core, .error error) => (core, .error error)
        | (core, .ok _) => (core, .ok true)

/-- `RecoveryManager.recover_post_effect`. -/
def recoverPostEffect (broker : ToolBroker) (codec : StateCodec P)
    (checkpoints : Checkpoints P) (core : StateCore P) (answers : AdapterAnswers P)
    (envelope : AuthorizedActionEnvelope P) :
    StateCore P × Except PyError (RecoveryReceipt P) :=
  if envelope.reversibilityClass = .irreversible then
    (core, .ok ⟨"incident", false, false, true, none⟩)
  else
    match broker.compensateFor answers envelope with
    | .error (.valueError _) | .error (.runtimeError _) =>
      (core, .ok ⟨"compensation_unverified", false, false, true, none⟩)
    | .error error => (core, .error error)
    | .ok externalReadback =>
      match recoverState codec checkpoints core envelope.recoveryRef with
      | (core, .error error) => (core, .error error)
      | (core, .ok stateRecovered) =>
        (core, .ok
          ⟨"recovered", stateRecovered, true, false, some externalReadback⟩)

end ReisOs.Kernel
