import ReisOs.Core.Checks
import ReisOs.Kernel.Contracts

/-!
# Active identity bindings and their audit log

`IdentityAuditLog` and `IdentityKernelGuard`.  The two SHA-256 digests of the
source (of a log event and of a binding) are functions of the configuration.
Reopening a log keeps its event list here; the text of its file, and when that can be
read back, is the subject of `AuditFile` and `Reopening`.
-/

namespace ReisOs.Kernel

open ReisOs.Core

/-- `INSTITUTION`. -/
def institution : String := "REIS OS"

structure OCSProfile where
  ocsId : String
  identity : String
  ancestry : String
  constitutionRef : String
  cspRef : String
  specialty : String
  supportCapabilities : List String
  authorityEnvelopeRef : String
  allowedActionClasses : List String
  deniedActionClasses : List String
  evidenceProfile : String
  piActivationPolicy : String
  capabilityAdapters : List String
  toolPermissions : List String
  stateNamespace : String
  memoryNamespace : String
  riskModel : String
  stopPolicy : String
  handoffPolicy : String
  recoveryPolicy : String
  version : String
  predecessor : String
  rollbackPointer : String
  kernelInterfaceRef : String
  deriving DecidableEq, Repr

inductive IdentityBindingStatus where
  | valid | hold
  deriving DecidableEq, Repr

inductive IdentityRecheckTrigger where
  | newOcsMention | ambiguousPronoun | handoff | hostReference | causalAttribution
  | longContextDrift | identityConflict | preAction | prePersist | preHandoff
  | coldStart
  deriving DecidableEq, Repr

def IdentityRecheckTrigger.value : IdentityRecheckTrigger → String
  | .newOcsMention => "new_ocs_mention"
  | .ambiguousPronoun => "ambiguous_pronoun"
  | .handoff => "handoff"
  | .hostReference => "host_reference"
  | .causalAttribution => "causal_attribution"
  | .longContextDrift => "long_context_drift"
  | .identityConflict => "identity_conflict"
  | .preAction => "pre_action"
  | .prePersist => "pre_persist"
  | .preHandoff => "pre_handoff"
  | .coldStart => "cold_start"

structure ActiveIdentityBinding where
  runId : String
  ocsCanonicalName : String
  ocsId : String
  institution : String
  lineageRef : String
  identityRef : String
  constitutionRef : String
  cspRef : String
  host : String
  sessionContext : String
  stateNamespace : String
  memoryNamespace : String
  authorityEnvelopeRef : String
  profileVersion : String
  boundAt : Time
  status : IdentityBindingStatus
  holdReason : Option String
  deriving DecidableEq, Repr

/-- The part of a log event its hash covers. -/
structure IdentityLogBase where
  sequence : ℕ
  eventType : String
  runId : String
  ocsId : String
  binding : ActiveIdentityBinding
  details : Details
  predecessorHash : Option String
  deriving DecidableEq, Repr

structure IdentityLogEvent extends IdentityLogBase where
  eventHash : String
  deriving DecidableEq, Repr

/-- What a guard is configured with. -/
structure IdentityConfig where
  profiles : Dict String OCSProfile
  hashPayload : IdentityLogBase → String
  bindingHash : ActiveIdentityBinding → String

abbrev IdentityAuditLog := List IdentityLogEvent

namespace IdentityAuditLog

def append (config : IdentityConfig) (log : IdentityAuditLog) (eventType : String)
    (binding : ActiveIdentityBinding) (details : Details) : IdentityAuditLog :=
  let base : IdentityLogBase :=
    { sequence := log.length + 1
      eventType := eventType
      runId := binding.runId
      ocsId := binding.ocsId
      binding := binding
      details := details
      predecessorHash := log.getLast?.map (·.eventHash) }
  log ++ [{ base with eventHash := config.hashPayload base }]

/-- The check of `chain_is_valid` from a position on. -/
def chainIsValidFrom (config : IdentityConfig) :
    ℕ → Option String → IdentityAuditLog → Bool
  | _, _, [] => true
  | sequence, predecessor, event :: events =>
    event.sequence = sequence && event.predecessorHash = predecessor &&
      config.hashPayload event.toIdentityLogBase = event.eventHash &&
      chainIsValidFrom config (sequence + 1) (some event.eventHash) events

def chainIsValid (config : IdentityConfig) (log : IdentityAuditLog) : Bool :=
  chainIsValidFrom config 1 none log

/-- The binding of the last event of a run. -/
def terminalBinding (log : IdentityAuditLog) (runId : String) :
    Option ActiveIdentityBinding :=
  (log.reverse.find? (·.runId = runId)).map (·.binding)

def recoverCurrentBinding (config : IdentityConfig) (log : IdentityAuditLog)
    (runId : String) : Except PyError (Option ActiveIdentityBinding) :=
  if !chainIsValid config log then
    .error (.runtimeError "identity_log_integrity_failed")
  else
    match terminalBinding log runId with
    | none => .ok none
    | some binding =>
      match binding.status with
      | .hold => .error (.valueError "identity_hold_rebind_required")
      | .valid => .ok (some binding)

end IdentityAuditLog

/-- A guard: its in-memory bindings and the log it writes. -/
structure IdentityKernelGuard where
  bindings : Dict String ActiveIdentityBinding
  auditLog : IdentityAuditLog
  deriving DecidableEq

structure IdentityRevalidationResult where
  valid : Bool
  reason : String
  binding : Option ActiveIdentityBinding
  deriving DecidableEq, Repr

/-- `_validate_profile_binding`: the reason it raises, if it does. -/
def validateProfileBinding (config : IdentityConfig) (binding : ActiveIdentityBinding) :
    Option String :=
  match config.profiles.lookup binding.ocsId with
  | none => some "unknown_ocs_identity"
  | some profile =>
    firstFailure
      [(binding.institution != institution, "institution_identity_mismatch"),
        (binding.identityRef != profile.identity, "identity_profile_mismatch"),
        (binding.lineageRef != profile.ancestry, "identity_lineage_mismatch"),
        (binding.constitutionRef != profile.constitutionRef,
          "identity_constitution_mismatch"),
        (binding.cspRef != profile.cspRef, "identity_csp_mismatch"),
        (binding.stateNamespace != profile.stateNamespace,
          "identity_state_namespace_mismatch"),
        (binding.memoryNamespace != profile.memoryNamespace,
          "identity_memory_namespace_mismatch"),
        (binding.profileVersion != profile.version,
          "identity_profile_version_mismatch")]

namespace IdentityKernelGuard

/-- A guard without bindings over an existing log. -/
def restart (log : IdentityAuditLog) : IdentityKernelGuard := ⟨∅, log⟩

def bindingFor (guard : IdentityKernelGuard) (runId : String) :
    Option ActiveIdentityBinding :=
  guard.bindings.lookup runId

/-- `audit_log.append` on the guard's log. -/
def log (config : IdentityConfig) (guard : IdentityKernelGuard) (eventType : String)
    (binding : ActiveIdentityBinding) (details : Details) : IdentityKernelGuard :=
  { guard with auditLog := guard.auditLog.append config eventType binding details }

/-- Store a binding for its run and log the event that says so. -/
def record (config : IdentityConfig) (guard : IdentityKernelGuard) (runId : String)
    (eventType : String) (binding : ActiveIdentityBinding) (details : Details) :
    IdentityKernelGuard :=
  log config { guard with bindings := guard.bindings.insert runId binding }
    eventType binding details

/-- The binding `bind_active_identity` builds from a profile. -/
def newBinding (profile : OCSProfile) (runId host sessionContext : String)
    (now : Time) : ActiveIdentityBinding :=
  { runId := runId
    ocsCanonicalName := profile.ocsId
    ocsId := profile.ocsId
    institution := institution
    lineageRef := profile.ancestry
    identityRef := profile.identity
    constitutionRef := profile.constitutionRef
    cspRef := profile.cspRef
    host := host
    sessionContext := sessionContext
    stateNamespace := profile.stateNamespace
    memoryNamespace := profile.memoryNamespace
    authorityEnvelopeRef := profile.authorityEnvelopeRef
    profileVersion := profile.version
    boundAt := now
    status := .valid
    holdReason := none }

def bindActiveIdentity (config : IdentityConfig) (guard : IdentityKernelGuard)
    (now : Time) (runId ocsId host sessionContext : String) :
    Except PyError (IdentityKernelGuard × ActiveIdentityBinding) :=
  if runId = "" ∨ host = "" ∨ sessionContext = "" then
    .error (.valueError "identity_binding_fields_required")
  else
    match config.profiles.lookup ocsId with
    | none => .error (.valueError "unknown_ocs_identity")
    | some profile =>
      let binding := newBinding profile runId host sessionContext now
      .ok (guard.record config runId "BIND_ACTIVE_IDENTITY" binding [], binding)

def recoverState (config : IdentityConfig) (guard : IdentityKernelGuard)
    (runId : String) : Except PyError (IdentityKernelGuard × ActiveIdentityBinding) :=
  match guard.auditLog.recoverCurrentBinding config runId with
  | .error error => .error error
  | .ok none => .error (.valueError "identity_recovery_source_missing")
  | .ok (some recovered) =>
    match validateProfileBinding config recovered with
    | some reason => .error (.valueError reason)
    | none =>
      .ok (guard.record config runId "RECOVER_IDENTITY" recovered
        [("source", .text "hazel_identity_log")], recovered)

/-- `_hold`. -/
def hold (config : IdentityConfig) (guard : IdentityKernelGuard) (runId reason : String) :
    Except PyError (IdentityKernelGuard × ActiveIdentityBinding) :=
  match guard.bindingFor runId with
  | none => .error (.valueError "identity_binding_required")
  | some binding =>
    let held := { binding with status := .hold, holdReason := some reason }
    .ok (guard.record config runId "IDENTITY_HOLD" held [("reason", .text reason)], held)

/-- `binding.hold_reason or "identity_hold"`. -/
def holdReasonOr (binding : ActiveIdentityBinding) : String :=
  match binding.holdReason with
  | none => "identity_hold"
  | some reason => if reason = "" then "identity_hold" else reason

/-- `revalidate`: a failed comparison holds the run and reports the reason. -/
def revalidate (config : IdentityConfig) (guard : IdentityKernelGuard)
    (runId expectedOcs : String) (trigger : IdentityRecheckTrigger)
    (host : Option String) : IdentityKernelGuard × IdentityRevalidationResult :=
  let holdWith (reason : String) : IdentityKernelGuard × IdentityRevalidationResult :=
    match guard.hold config runId reason with
    | .ok (guard, held) => (guard, ⟨false, reason, some held⟩)
    | .error _ => (guard, ⟨false, reason, none⟩)
  match guard.bindingFor runId with
  | none => (guard, ⟨false, "identity_binding_required", none⟩)
  | some binding =>
    match validateProfileBinding config binding with
    | some reason => holdWith reason
    | none =>
      if binding.status ≠ .valid then
        (guard, ⟨false, holdReasonOr binding, some binding⟩)
      else if expectedOcs ≠ binding.ocsId then
        holdWith "active_ocs_identity_mismatch"
      else if host.any (· ≠ binding.host) then
        holdWith "host_identity_context_mismatch"
      else
        (guard.log config "IDENTITY_REVALIDATION" binding
          [("trigger", .text trigger.value), ("result", .text "valid")],
          ⟨true, "identity_valid", some binding⟩)

def requireValid (config : IdentityConfig) (guard : IdentityKernelGuard)
    (runId expectedOcs : String) (trigger : IdentityRecheckTrigger)
    (host : Option String) :
    IdentityKernelGuard × Except PyError ActiveIdentityBinding :=
  let (guard, result) := guard.revalidate config runId expectedOcs trigger host
  match result.valid, result.binding with
  | true, some binding => (guard, .ok binding)
  | _, _ => (guard, .error (.valueError result.reason))

def rebind (config : IdentityConfig) (guard : IdentityKernelGuard) (now : Time)
    (runId ocsId host sessionContext reason : String) :
    Except PyError (IdentityKernelGuard × ActiveIdentityBinding) :=
  let previous := guard.bindingFor runId
  match guard.bindActiveIdentity config now runId ocsId host sessionContext with
  | .error error => .error error
  | .ok (guard, binding) =>
    .ok (guard.log config "IDENTITY_REBIND" binding
      [("reason", .text reason),
        ("previous_ocs", previous.elim .none fun binding => .text binding.ocsId)],
      binding)

end IdentityKernelGuard

end ReisOs.Kernel
