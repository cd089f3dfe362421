import ReisOs.Kernel.IdentityLog

/-!
# Continuity through Hazel

`HazelBoundContinuity`.  A call validates the run's identity, asks Hazel, checks the
answer and logs it with the binding it validated before it asked.  Other code may run
while Hazel answers, so each call is a request part and a return part.  Payloads are
an arbitrary type; a field that is missing or of the wrong type reads as `none`.
-/

namespace ReisOs.Kernel

open ReisOs.Core

variable {P : Type}

/-- What a continuity call raises: a `HazelIntegrationError`, or an error of the kernel. -/
inductive HazelError where
  | integration (message : String)
  | kernel (error : PyError)
  deriving DecidableEq, Repr

structure HazelConfig (P : Type) where
  identity : IdentityConfig
  payloadHash : P → String

structure HazelEnvelope (P : Type) where
  runId : String
  ocsId : String
  stateNamespace : String
  memoryNamespace : String
  profileVersion : String
  bindingHash : String
  predecessorHash : Option String
  authorityRef : String
  stateVersion : ℕ
  payload : P
  traceId : String
  deriving DecidableEq, Repr

structure HazelRequest where
  runId : String
  ocsId : String
  stateNamespace : String
  memoryNamespace : String
  authorityRef : String
  bindingHash : String
  deriving DecidableEq, Repr

structure HazelReceipt where
  accepted : Bool
  ocsId : Option String
  stateNamespace : Option String
  eventHash : Option String
  payloadHash : Option String
  deriving DecidableEq, Repr

/-- What `transport.recover` answers. -/
structure HazelRecord (P : Type) where
  ocsId : Option String
  stateNamespace : Option String
  memoryNamespace : Option String
  authorityRef : Option String
  bindingHash : Option String
  payload : Option P
  payloadHash : Option String
  predecessorHash : Option String
  traceId : Option String
  eventHash : Option String
  stateVersion : Option ℕ
  deriving DecidableEq, Repr

structure PersistArguments (P : Type) where
  runId : String
  expectedOcs : String
  host : String
  authorityRef : String
  stateVersion : ℕ
  predecessorHash : Option String
  state : P
  traceId : String
  deriving DecidableEq, Repr

structure RecoverArguments where
  runId : String
  expectedOcs : String
  host : String
  authorityRef : String
  deriving DecidableEq, Repr

def textOrNone : Option String → Detail
  | none => .none
  | some value => .text value

namespace HazelBoundContinuity

/-- The check of the authority reference that both calls make after `require_valid`. -/
def requireAuthority (config : HazelConfig P) (guard : IdentityKernelGuard)
    (runId expectedOcs : String) (trigger : IdentityRecheckTrigger)
    (host authorityRef : String) :
    IdentityKernelGuard × Except HazelError ActiveIdentityBinding :=
  match guard.requireValid config.identity runId expectedOcs trigger (some host) with
  | (guard, .error error) => (guard, .error (.kernel error))
  | (guard, .ok binding) =>
    if authorityRef ≠ binding.authorityEnvelopeRef then
      (guard, .error (.integration "authority_ref_mismatch"))
    else
      (guard, .ok binding)

/-! ## Persisting -/

def envelope (config : HazelConfig P) (binding : ActiveIdentityBinding)
    (arguments : PersistArguments P) : HazelEnvelope P :=
  { runId := binding.runId
    ocsId := binding.ocsId
    stateNamespace := binding.stateNamespace
    memoryNamespace := binding.memoryNamespace
    profileVersion := binding.profileVersion
    bindingHash := config.identity.bindingHash binding
    predecessorHash := arguments.predecessorHash
    authorityRef := arguments.authorityRef
    stateVersion := arguments.stateVersion
    payload := arguments.state
    traceId := arguments.traceId }

/-- `persist_state` up to its transport call. -/
def persistRequest (config : HazelConfig P) (guard : IdentityKernelGuard)
    (arguments : PersistArguments P) :
    IdentityKernelGuard × Except HazelError ActiveIdentityBinding :=
  requireAuthority config guard arguments.runId arguments.expectedOcs .prePersist
    arguments.host arguments.authorityRef

/-- The checks of `persist_state` on the receipt. -/
def receiptFailure (binding : ActiveIdentityBinding) (receipt : HazelReceipt) :
    Option String :=
  firstFailure
    [(!receipt.accepted, "hazel_persist_not_accepted"),
      (receipt.ocsId != some binding.ocsId ||
        receipt.stateNamespace != some binding.stateNamespace,
        "hazel_receipt_namespace_mismatch")]

/-- `persist_state` after its transport call. -/
def persistReturn (config : HazelConfig P) (guard : IdentityKernelGuard)
    (binding : ActiveIdentityBinding) (arguments : PersistArguments P)
    (answer : Except HazelError HazelReceipt) :
    IdentityKernelGuard × Except HazelError HazelReceipt :=
  match answer with
  | .error error => (guard, .error error)
  | .ok receipt =>
    match receiptFailure binding receipt with
    | some reason => (guard, .error (.integration reason))
    | none =>
      (guard.log config.identity "HAZEL_PERSIST_RECEIPT" binding
        [("trace_id", .text arguments.traceId),
          ("event_hash", textOrNone receipt.eventHash),
          ("payload_hash", textOrNone receipt.payloadHash),
          ("state_version", .number arguments.stateVersion)], .ok receipt)

/-! ## Recovering -/

def recoverRequest (config : HazelConfig P) (binding : ActiveIdentityBinding)
    (arguments : RecoverArguments) : HazelRequest :=
  { runId := binding.runId
    ocsId := binding.ocsId
    stateNamespace := binding.stateNamespace
    memoryNamespace := binding.memoryNamespace
    authorityRef := arguments.authorityRef
    bindingHash := config.identity.bindingHash binding }

/-- `recover_state` up to its transport call. -/
def recoverCall (config : HazelConfig P) (guard : IdentityKernelGuard)
    (arguments : RecoverArguments) :
    IdentityKernelGuard × Except HazelError ActiveIdentityBinding :=
  let validated (guard : IdentityKernelGuard) :=
    requireAuthority config guard arguments.runId arguments.expectedOcs .coldStart
      arguments.host arguments.authorityRef
  match guard.bindingFor arguments.runId with
  | some _ => validated guard
  | none =>
    match guard.recoverState config.identity arguments.runId with
    | .error error => (guard, .error (.kernel error))
    | .ok (guard, _) => validated guard

/-- The checks of `recover_state` on the record. -/
def recoveryFailure (config : HazelConfig P) (binding : ActiveIdentityBinding)
    (recovered : HazelRecord P) : Option String :=
  firstFailure
    [(recovered.ocsId != some binding.ocsId, "recovery_ocs_mismatch"),
      (recovered.stateNamespace != some binding.stateNamespace,
        "recovery_namespace_mismatch"),
      (recovered.memoryNamespace != some binding.memoryNamespace,
        "recovery_memory_namespace_mismatch"),
      (recovered.authorityRef != some binding.authorityEnvelopeRef,
        "recovery_authority_mismatch"),
      (recovered.bindingHash != some (config.identity.bindingHash binding),
        "recovery_binding_mismatch"),
      (recovered.payload.isNone, "recovery_payload_invalid"),
      (recovered.payload.map config.payloadHash != recovered.payloadHash,
        "recovery_payload_integrity_failure")]

/-- `recover_state` after its transport call. -/
def recoverReturn (config : HazelConfig P) (guard : IdentityKernelGuard)
    (binding : ActiveIdentityBinding) (answer : Except HazelError (HazelRecord P)) :
    IdentityKernelGuard × Except HazelError (HazelRecord P) :=
  match answer with
  | .error error => (guard, .error error)
  | .ok recovered =>
    match recoveryFailure config binding recovered with
    | some reason => (guard, .error (.integration reason))
    | none =>
      (guard.log config.identity "HAZEL_RECOVERY_ACCEPTED" binding
        [("trace_id", textOrNone recovered.traceId),
          ("event_hash", textOrNone recovered.eventHash),
          ("state_version", recovered.stateVersion.elim .none .number)],
        .ok recovered)

/-! ## Specifications -/

variable {config : HazelConfig P} {guard guard' : IdentityKernelGuard} {runId : String}
  {binding : ActiveIdentityBinding}

theorem requireAuthority_ok {expectedOcs host authorityRef : String}
    {trigger : IdentityRecheckTrigger}
    (h : requireAuthority config guard runId expectedOcs trigger host authorityRef =
      (guard', .ok binding)) :
    guard.requireValid config.identity runId expectedOcs trigger (some host) =
        (guard', .ok binding) ∧ authorityRef = binding.authorityEnvelopeRef := by
  unfold requireAuthority at h
  split at h
  · cases h
  · rename_i hvalid
    split at h
    · cases h
    · rename_i hauthority
      cases h
      exact ⟨hvalid, not_not.mp hauthority⟩

theorem requireAuthority_fst (config : HazelConfig P) (guard : IdentityKernelGuard)
    (runId expectedOcs : String) (trigger : IdentityRecheckTrigger)
    (host authorityRef : String) :
    (requireAuthority config guard runId expectedOcs trigger host authorityRef).1 =
      (guard.requireValid config.identity runId expectedOcs trigger (some host)).1 := by
  unfold requireAuthority
  split
  · rename_i hvalid
    rw [hvalid]
  · rename_i hvalid
    rw [hvalid]
    split <;> rfl

end HazelBoundContinuity

end ReisOs.Kernel
