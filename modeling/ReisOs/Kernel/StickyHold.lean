import ReisOs.Kernel.IdentityLog
import ReisOs.Core.Runs
import ReisOs.Kernel.GuardCoherence
import ReisOs.Kernel.Runtime

/-!
# Identity receipts between runs

`HandoffIdentityGate`.  A sender issues a receipt from its valid binding; a
receiver accepts it under a binding of its own, after checking the receipt against
what the sender's log recovers.
-/

namespace ReisOs.Kernel

open ReisOs.Core

structure HandoffIdentityReceipt where
  handoffId : String
  senderRunId : String
  senderOcsCanonicalName : String
  senderOcsId : String
  senderHost : String
  receiverOcsCanonicalName : String
  receiverOcsId : String
  receiverHostIfKnown : Option String
  objectRef : String
  authorizedNextScope : List String
  authorityRef : String
  senderIdentityBindingHash : String
  identityTransfer : Bool := false
  authorityTransfer : Bool := false
  crossOcsMemoryImport : Bool := false
  deriving DecidableEq, Repr

structure HandoffIdentityAcceptance where
  handoffId : String
  receiverBinding : ActiveIdentityBinding
  authorizedNextScope : List String
  sourceAuthorityRef : String
  executableAuthorityRef : Option String := none
  deriving DecidableEq, Repr

namespace HandoffIdentityGate

def issue (config : IdentityConfig) (guard : IdentityKernelGuard)
    (runId handoffId senderOcs senderHost receiverOcs : String)
    (receiverHostIfKnown : Option String) (objectRef : String)
    (authorizedNextScope : List String) (authorityRef : String) :
    IdentityKernelGuard × Except PyError HandoffIdentityReceipt :=
  if handoffId = "" ∨ objectRef = "" ∨ authorizedNextScope = [] then
    (guard, .error (.valueError "handoff_identity_fields_required"))
  else
    match guard.requireValid config runId senderOcs .preHandoff (some senderHost) with
    | (guard, .error error) => (guard, .error error)
    | (guard, .ok binding) =>
      let receipt : HandoffIdentityReceipt :=
        { handoffId := handoffId
          senderRunId := runId
          senderOcsCanonicalName := binding.ocsCanonicalName
          senderOcsId := binding.ocsId
          senderHost := binding.host
          receiverOcsCanonicalName := receiverOcs
          receiverOcsId := receiverOcs
          receiverHostIfKnown := receiverHostIfKnown
          objectRef := objectRef
          authorizedNextScope := authorizedNextScope
          authorityRef := authorityRef
          senderIdentityBindingHash := config.bindingHash binding }
      (guard.log config "HANDOFF_IDENTITY_RECEIPT" binding
        [("handoff_id", .text handoffId), ("receiver_ocs", .text receiverOcs),
          ("object_ref", .text objectRef),
          ("authorized_next_scope", .texts authorizedNextScope),
          ("identity_transfer", .flag false), ("authority_transfer", .flag false),
          ("cross_ocs_memory_import", .flag false)],
        .ok receipt)

/-- The checks of `accept` on the receipt alone. -/
def receiptFailure (receipt : HandoffIdentityReceipt) (receiverOcs receiverHost : String) :
    Option String :=
  firstFailure
    [(receipt.identityTransfer, "handoff_identity_transfer_prohibited"),
      (receipt.authorityTransfer, "handoff_authority_transfer_prohibited"),
      (receipt.crossOcsMemoryImport, "cross_ocs_memory_import_prohibited"),
      (receiverOcs != receipt.receiverOcsId, "handoff_receiver_mismatch"),
      (receipt.receiverHostIfKnown.any (receiverHost != ·),
        "handoff_receiver_host_mismatch")]

/-- The checks of `accept` on the binding the sender's log recovers. -/
def senderFailure (config : IdentityConfig) (receipt : HandoffIdentityReceipt)
    (sender : ActiveIdentityBinding) : Option String :=
  firstFailure
    [(sender.ocsId != receipt.senderOcsId, "handoff_sender_identity_mismatch"),
      (sender.ocsCanonicalName != receipt.senderOcsCanonicalName,
        "handoff_sender_canonical_name_mismatch"),
      (sender.host != receipt.senderHost, "handoff_sender_host_mismatch"),
      (config.bindingHash sender != receipt.senderIdentityBindingHash,
        "handoff_sender_identity_provenance_mismatch")]

/-- What `accept` raises before it binds the receiver, if it does. -/
def acceptRefusal (config : IdentityConfig) (receipt : HandoffIdentityReceipt)
    (senderAuditLog : IdentityAuditLog) (receiverOcs receiverHost : String) :
    Option PyError :=
  match receiptFailure receipt receiverOcs receiverHost with
  | some reason => some (.valueError reason)
  | none =>
    match senderAuditLog.recoverCurrentBinding config receipt.senderRunId with
    | .error error => some error
    | .ok none => some (.valueError "handoff_sender_identity_binding_required")
    | .ok (some sender) => (senderFailure config receipt sender).map .valueError

def accept (config : IdentityConfig) (receipt : HandoffIdentityReceipt)
    (senderAuditLog : IdentityAuditLog) (receiverGuard : IdentityKernelGuard) (now : Time)
    (receiverRunId receiverOcs receiverHost sessionContext : String) :
    Except PyError (IdentityKernelGuard × HandoffIdentityAcceptance) :=
  match acceptRefusal config receipt senderAuditLog receiverOcs receiverHost with
  | some error => .error error
  | none =>
    match receiverGuard.bindActiveIdentity config now receiverRunId receiverOcs
        receiverHost sessionContext with
    | .error error => .error error
    | .ok (guard, binding) =>
      .ok (guard.log config "HANDOFF_ACCEPTED_WITH_NEW_IDENTITY_BINDING" binding
        [("handoff_id", .text receipt.handoffId),
          ("sender_ocs", .text receipt.senderOcsId),
          ("object_ref", .text receipt.objectRef),
          ("source_authority_ref", .text receipt.authorityRef),
          ("executable_authority_ref", .none)],
        { handoffId := receipt.handoffId
          receiverBinding := binding
          authorizedNextScope := receipt.authorizedNextScope
          sourceAuthorityRef := receipt.authorityRef })

end HandoffIdentityGate

/-!
## How long a hold lasts

Every operation on a guard and its log file, in any order and with process restarts
anywhere.  A held run stays closed until its rebind exactly as long as nothing binds
it anew: `bind_active_identity` does not look at the log, and a restarted guard has
forgotten the hold that the log still carries.
-/

variable {config : IdentityConfig}

/-! ## Cold start -/

/-- The identity arguments of the runtime's constructor, each of which may be missing. -/
structure IdentityArguments where
  runId : Option String
  activeOcs : Option String
  host : Option String
  sessionContext : Option String
  deriving DecidableEq, Repr

def IdentityArguments.complete (arguments : IdentityArguments) : Option IdentityRun :=
  match arguments with
  | ⟨some runId, some activeOcs, some host, some sessionContext⟩ =>
    some ⟨runId, activeOcs, host, sessionContext⟩
  | _ => none

/-- The part of `UniversalKernelRuntime.__init__` that works on its guard. -/
def initIdentity (config : IdentityConfig) (guard : IdentityKernelGuard) (now : Time)
    (arguments : IdentityArguments) : IdentityKernelGuard × Except PyError Unit :=
  let coldStart (guard : IdentityKernelGuard) (run : IdentityRun) :=
    match guard.requireValid config run.runId run.activeOcs .coldStart (some run.host) with
    | (guard, .error error) => (guard, .error error)
    | (guard, .ok _) => (guard, .ok ())
  match arguments.complete with
  | none => (guard, .error (.valueError "complete_identity_runtime_configuration_required"))
  | some run =>
    match guard.bindingFor run.runId with
    | some _ => coldStart guard run
    | none =>
      match guard.bindActiveIdentity config now run.runId run.activeOcs run.host
          run.sessionContext with
      | .error error => (guard, .error error)
      | .ok (guard, _) => coldStart guard run

/-- A new guard over the log file: loading the file checks its chain. -/
def IdentityKernelGuard.reopen (config : IdentityConfig) (log : IdentityAuditLog) :
    Except PyError IdentityKernelGuard :=
  if log.chainIsValid config then
    .ok (.restart log)
  else
    .error (.runtimeError "identity_log_integrity_failed")

/-! ## Operations on a guard and its log file -/

inductive IdentityOp where
  | bind (now : Time) (runId ocsId host sessionContext : String)
  | hold (runId reason : String)
  | revalidate (runId expectedOcs : String) (trigger : IdentityRecheckTrigger)
      (host : Option String)
  | requireValid (runId expectedOcs : String) (trigger : IdentityRecheckTrigger)
      (host : Option String)
  | recoverState (runId : String)
  | rebind (now : Time) (runId ocsId host sessionContext reason : String)
  | issue (runId handoffId senderOcs senderHost receiverOcs : String)
      (receiverHostIfKnown : Option String) (objectRef : String)
      (authorizedNextScope : List String) (authorityRef : String)
  | accept (receipt : HandoffIdentityReceipt) (senderAuditLog : IdentityAuditLog)
      (now : Time) (receiverRunId receiverOcs receiverHost sessionContext : String)
  | construct (now : Time) (arguments : IdentityArguments)
  | restart

/-- The guard after an operation that raises before it changes anything. -/
def guardAfter {A : Type} (guard : IdentityKernelGuard)
    (answer : Except PyError (IdentityKernelGuard × A)) : IdentityKernelGuard :=
  match answer with
  | .error _ => guard
  | .ok (guard, _) => guard

def identityStep (config : IdentityConfig) (guard : IdentityKernelGuard) :
    IdentityOp → IdentityKernelGuard
  | .bind now runId ocsId host sessionContext =>
    guardAfter guard (guard.bindActiveIdentity config now runId ocsId host sessionContext)
  | .hold runId reason => guardAfter guard (guard.hold config runId reason)
  | .revalidate runId expectedOcs trigger host =>
    (guard.revalidate config runId expectedOcs trigger host).1
  | .requireValid runId expectedOcs trigger host =>
    (guard.requireValid config runId expectedOcs trigger host).1
  | .recoverState runId => guardAfter guard (guard.recoverState config runId)
  | .rebind now runId ocsId host sessionContext reason =>
    guardAfter guard (guard.rebind config now runId ocsId host sessionContext reason)
  | .issue runId handoffId senderOcs senderHost receiverOcs receiverHostIfKnown objectRef
      authorizedNextScope authorityRef =>
      (HandoffIdentityGate.issue config guard runId handoffId senderOcs senderHost
        receiverOcs receiverHostIfKnown objectRef authorizedNextScope authorityRef).1
  | .accept receipt senderAuditLog now receiverRunId receiverOcs receiverHost
      sessionContext =>
      guardAfter guard (HandoffIdentityGate.accept config receipt senderAuditLog guard now
        receiverRunId receiverOcs receiverHost sessionContext)
  | .construct now arguments => (initIdentity config guard now arguments).1
  | .restart => (IdentityKernelGuard.reopen config guard.auditLog).toOption.getD guard

/-- The operation is a rebind of the run. -/
def IdentityOp.Rebinds (runId : String) : IdentityOp → Prop
  | .rebind _ target .. => target = runId
  | _ => False

/-! ## Steps -/

open IdentityKernelGuard

variable {guard : IdentityKernelGuard} {runId : String}

/-- The run that an operation may bind anew. -/
def IdentityOp.target : IdentityOp → Option String
  | .bind _ runId .. => some runId
  | .rebind _ runId .. => some runId
  | .accept _ _ _ receiverRunId .. => some receiverRunId
  | .construct _ arguments => arguments.complete.map (·.runId)
  | _ => none

theorem issue_keeps (handoffId senderOcs senderHost receiverOcs : String)
    (receiverHostIfKnown : Option String) (objectRef : String)
    (authorizedNextScope : List String) (authorityRef : String) :
    Keeps config none guard
      (HandoffIdentityGate.issue config guard runId handoffId senderOcs senderHost receiverOcs
        receiverHostIfKnown objectRef authorizedNextScope authorityRef).1 := by
  unfold HandoffIdentityGate.issue
  split
  · exact .refl guard
  · have hkeeps : Keeps config none guard
        (guard.requireValid config runId senderOcs .preHandoff (some senderHost)).1 :=
      requireValid_keeps ..
    split
    · rename_i hanswer
      rwa [hanswer] at hkeeps
    · rename_i guard' binding hanswer
      obtain ⟨hlookup, -, -, -, -, hlog⟩ := requireValid_ok hanswer
      rw [hanswer] at hkeeps
      have hlogged : guard'.bindings.lookup runId = some binding := by
        rw [hlog]
        exact hlookup
      exact hkeeps.trans (.log hlogged ..)

theorem rebind_keeps (now : Time) (ocsId host sessionContext reason : String) :
    Keeps config (some runId) guard
      (guardAfter guard
        (guard.rebind config now runId ocsId host sessionContext reason)) := by
  unfold rebind
  cases hbind : guard.bindActiveIdentity config now runId ocsId host sessionContext with
  | error error => exact .refl guard
  | ok answer =>
    obtain ⟨hkeeps, hlookup, -⟩ := bindActiveIdentity_keeps hbind
    exact hkeeps.trans (.log hlookup ..)

theorem accept_keeps (receipt : HandoffIdentityReceipt) (senderAuditLog : IdentityAuditLog)
    (now : Time) (receiverOcs receiverHost sessionContext : String) :
    Keeps config (some runId) guard
      (guardAfter guard (HandoffIdentityGate.accept config receipt senderAuditLog guard now
        runId receiverOcs receiverHost sessionContext)) := by
  unfold HandoffIdentityGate.accept
  split
  · exact .refl guard
  · cases hbind : guard.bindActiveIdentity config now runId receiverOcs receiverHost
      sessionContext with
    | error error => exact .refl guard
    | ok answer =>
      obtain ⟨hkeeps, hlookup, -⟩ := bindActiveIdentity_keeps hbind
      exact hkeeps.trans (.log hlookup ..)

theorem coldStart_fst (guard : IdentityKernelGuard) (run : IdentityRun) :
    (match guard.requireValid config run.runId run.activeOcs .coldStart (some run.host) with
      | (guard, .error error) => (guard, (.error error : Except PyError Unit))
      | (guard, .ok _) => (guard, .ok ())).1 =
      (guard.requireValid config run.runId run.activeOcs .coldStart (some run.host)).1 := by
  split <;> rename_i hanswer <;> rw [hanswer]

variable {arguments : IdentityArguments}

theorem initIdentity_unbound {now : Time} {run : IdentityRun}
    (hcomplete : arguments.complete = some run)
    (hunbound : guard.bindingFor run.runId = none) :
    (initIdentity config guard now arguments).1 =
      match guard.bindActiveIdentity config now run.runId run.activeOcs run.host
          run.sessionContext with
      | .error _ => guard
      | .ok (guard, _) =>
        (guard.requireValid config run.runId run.activeOcs .coldStart
          (some run.host)).1 := by
  simp only [initIdentity, hcomplete, hunbound]
  split
  · rfl
  · exact coldStart_fst ..

variable {binding : ActiveIdentityBinding}

theorem initIdentity_bound {now : Time} {run : IdentityRun} (hcomplete : arguments.complete = some run)
    (hbound : guard.bindingFor run.runId = some binding) :
    (initIdentity config guard now arguments).1 =
      (guard.requireValid config run.runId run.activeOcs .coldStart (some run.host)).1 := by
  simp only [initIdentity, hcomplete, hbound]
  exact coldStart_fst ..

theorem initIdentity_keeps (now : Time) (arguments : IdentityArguments) :
    Keeps config (arguments.complete.map (·.runId)) guard
      (initIdentity config guard now arguments).1 := by
  cases hcomplete : arguments.complete with
  | none =>
    simp only [initIdentity, hcomplete]
    exact .refl guard
  | some run =>
    cases hbound : guard.bindingFor run.runId with
    | some binding =>
      rw [initIdentity_bound hcomplete hbound]
      exact requireValid_keeps ..
    | none =>
      rw [initIdentity_unbound hcomplete hbound]
      split
      · exact .refl guard
      · rename_i hbind
        exact (bindActiveIdentity_keeps hbind).1.trans (requireValid_keeps ..)

/-- One operation: the guard stays coherent, and only its target can lose a hold. -/
theorem identityStep_keeps (guard : IdentityKernelGuard) (op : IdentityOp) :
    Keeps config op.target guard (identityStep config guard op) := by
  cases op with
  | bind now runId ocsId host sessionContext =>
    simp only [identityStep, IdentityOp.target]
    cases hbind : guard.bindActiveIdentity config now runId ocsId host sessionContext with
    | error error => exact .refl guard
    | ok answer => exact (bindActiveIdentity_keeps hbind).1
  | hold runId reason =>
    simp only [identityStep]
    cases hhold : guard.hold config runId reason with
    | error error => exact .refl guard
    | ok answer => exact hold_keeps hhold
  | revalidate => exact revalidate_keeps ..
  | requireValid => exact requireValid_keeps ..
  | recoverState runId =>
    simp only [identityStep]
    cases hrecover : guard.recoverState config runId with
    | error error => exact .refl guard
    | ok answer => exact recoverState_keeps hrecover
  | rebind => exact rebind_keeps ..
  | issue => exact issue_keeps ..
  | accept => exact accept_keeps ..
  | construct now arguments => exact initIdentity_keeps now arguments
  | restart =>
    constructor
    · intro h
      simp only [identityStep, reopen, h.sound.chain, if_true]
      exact restart_coherent h.sound
    · intro h runId _ hheld
      simp only [identityStep, reopen, h.sound.chain, if_true]
      exact hheld

/-! ## Binding a held run -/

/-- The check at the end of the constructor fails on the binding just made, and holds
the run again. -/
def ColdStartHolds (config : IdentityConfig) (run : IdentityRun) (now : Time) : Prop :=
  match config.profiles.lookup run.activeOcs with
  | none => False
  | some profile =>
    validateProfileBinding config
        (newBinding profile run.runId run.host run.sessionContext now) ≠ none ∨
      run.activeOcs ≠ profile.ocsId

/-- The operation does not bind a run whose last logged binding is held. -/
def KeepsHolds (config : IdentityConfig) (guard : IdentityKernelGuard) : IdentityOp → Prop
  | .bind _ runId ocsId host sessionContext =>
    guard.auditLog.Held runId →
      (bindRefusal config runId ocsId host sessionContext).isSome
  | .accept receipt senderAuditLog _ receiverRunId receiverOcs receiverHost sessionContext =>
    guard.auditLog.Held receiverRunId →
      (HandoffIdentityGate.acceptRefusal config receipt senderAuditLog receiverOcs
          receiverHost).isSome ∨
        (bindRefusal config receiverRunId receiverOcs receiverHost sessionContext).isSome
  | .construct now arguments =>
    ∀ run, arguments.complete = some run → guard.bindingFor run.runId = none →
      guard.auditLog.Held run.runId →
        (bindRefusal config run.runId run.activeOcs run.host run.sessionContext).isSome ∨
          ColdStartHolds config run now
  | _ => True

theorem requireValid_held {expectedOcs host : String}
    (h : Coherent config guard) (hlookup : guard.bindings.lookup runId = some binding)
    (hvalid : binding.status = .valid)
    (hfails : validateProfileBinding config binding ≠ none ∨ expectedOcs ≠ binding.ocsId)
    (trigger : IdentityRecheckTrigger) :
    (guard.requireValid config runId expectedOcs trigger (some host)).1.auditLog.Held
      runId := by
  rw [requireValid_fst]
  rcases guard.revalidate_cases config runId expectedOcs trigger (some host) with
    ⟨hstatus, -⟩ | ⟨reason, guard', held, hhold, hguard, -⟩ |
      ⟨found, hfound, hprofile, -, hocs, -⟩
  · exact absurd hvalid (hstatus binding hlookup)
  · obtain ⟨found, hfound, rfl, rfl⟩ := hold_ok hhold
    have hrun : found.runId = runId := h.owned runId found hfound
    rw [hguard, record_auditLog, IdentityAuditLog.held_append, if_pos hrun]
  · rw [hlookup, Option.some_inj] at hfound
    subst hfound
    rcases hfails with hfails | hfails
    · exact absurd hprofile hfails
    · exact absurd hocs hfails

theorem initIdentity_held (h : Coherent config guard) {now : Time} {run : IdentityRun}
    (hcomplete : arguments.complete = some run)
    (hallowed : KeepsHolds config guard (.construct now arguments))
    (hheld : guard.auditLog.Held run.runId) :
    (initIdentity config guard now arguments).1.auditLog.Held run.runId := by
  cases hbound : guard.bindingFor run.runId with
  | some binding =>
    rw [initIdentity_bound hcomplete hbound]
    exact (requireValid_keeps ..).held h run.runId (Option.some_ne_none _).symm hheld
  | none =>
    rw [initIdentity_unbound hcomplete hbound]
    cases hrefusal : bindRefusal config run.runId run.activeOcs run.host
        run.sessionContext with
    | some error =>
      rw [bindActiveIdentity_refused hrefusal]
      exact hheld
    | none =>
      have hfails : ColdStartHolds config run now := by
        simpa [hrefusal] using hallowed run hcomplete hbound hheld
      obtain ⟨profile, hprofile, hbind⟩ :=
        bindActiveIdentity_accepted hrefusal guard now
      obtain ⟨hkeeps, hlookup, hvalid⟩ := bindActiveIdentity_keeps hbind
      rw [ColdStartHolds, hprofile] at hfails
      rw [hbind]
      exact requireValid_held (hkeeps.coherent h) hlookup hvalid hfails _

/-- An operation that binds no held run lets no hold go, except by a rebind. -/
theorem KeepsHolds.held {op : IdentityOp} (h : Coherent config guard)
    (hallowed : KeepsHolds config guard op) (hheld : guard.auditLog.Held runId)
    (hop : ¬ op.Rebinds runId) : (identityStep config guard op).auditLog.Held runId := by
  by_cases htarget : op.target = some runId
  · cases op with
    | bind now target ocsId host sessionContext =>
      obtain rfl : target = runId := Option.some.inj htarget
      obtain ⟨error, hrefusal⟩ := Option.isSome_iff_exists.mp (hallowed hheld)
      rw [identityStep, bindActiveIdentity_refused hrefusal]
      exact hheld
    | rebind now target => exact absurd (Option.some.inj htarget) hop
    | accept receipt senderAuditLog now target receiverOcs receiverHost sessionContext =>
      obtain rfl : target = runId := Option.some.inj htarget
      rw [identityStep, HandoffIdentityGate.accept]
      split
      · exact hheld
      · rename_i haccept
        have hrefusal := hallowed hheld
        rw [haccept, Option.isSome_none, Bool.false_eq_true, false_or] at hrefusal
        obtain ⟨error, hrefusal⟩ := Option.isSome_iff_exists.mp hrefusal
        rw [bindActiveIdentity_refused hrefusal]
        exact hheld
    | construct now arguments =>
      obtain ⟨run, hcomplete, rfl⟩ := Option.map_eq_some_iff.mp htarget
      exact initIdentity_held h hcomplete hallowed hheld
    | hold | revalidate | requireValid | recoverState | issue | restart => cases htarget
  · exact (identityStep_keeps guard op).held h runId htarget hheld

theorem not_closed_of_bound (h : Coherent config guard)
    (hlookup : guard.bindings.lookup runId = some binding)
    (hvalid : binding.status = .valid) : ¬ Closed config runId guard := by
  intro hclosed
  have hcurrent := h.current runId binding hlookup
  rw [hvalid] at hcurrent
  obtain ⟨last, hterminal, hstatus⟩ := Option.map_eq_some_iff.mp hcurrent
  exact hclosed.2 last (h.sound.recoverCurrentBinding_valid hterminal hstatus)

theorem keepsHolds_of_closed {op : IdentityOp} (h : Coherent config guard)
    (hclosed : ∀ runId, guard.auditLog.Held runId → ¬ op.Rebinds runId →
      Closed config runId (identityStep config guard op)) :
    KeepsHolds config guard op := by
  have hcoherent : Coherent config (identityStep config guard op) :=
    (identityStep_keeps guard op).coherent h
  cases op with
  | bind now runId ocsId host sessionContext =>
    intro hheld
    by_contra hnone
    rw [Option.isSome_iff_ne_none, not_not] at hnone
    obtain ⟨profile, -, hbind⟩ := bindActiveIdentity_accepted hnone guard now
    obtain ⟨-, hlookup, hvalid⟩ := bindActiveIdentity_keeps hbind
    have hend := hclosed runId hheld id
    rw [identityStep, hbind] at hend hcoherent
    exact not_closed_of_bound hcoherent hlookup hvalid hend
  | accept receipt senderAuditLog now runId receiverOcs receiverHost sessionContext =>
    intro hheld
    by_contra hnone
    rw [not_or, Option.isSome_iff_ne_none, not_not, Option.isSome_iff_ne_none, not_not]
      at hnone
    obtain ⟨profile, -, hbind⟩ := bindActiveIdentity_accepted hnone.2 guard now
    obtain ⟨-, hlookup, hvalid⟩ := bindActiveIdentity_keeps hbind
    have hend := hclosed runId hheld id
    rw [identityStep, HandoffIdentityGate.accept, hnone.1] at hend hcoherent
    simp only [hbind] at hend hcoherent
    exact not_closed_of_bound hcoherent hlookup hvalid hend
  | construct now arguments =>
    intro run hcomplete hbound hheld
    by_contra hnone
    rw [not_or, Option.isSome_iff_ne_none, not_not] at hnone
    obtain ⟨profile, hprofile, hbind⟩ := bindActiveIdentity_accepted hnone.1 guard now
    obtain ⟨-, hlookup, hvalid⟩ := bindActiveIdentity_keeps hbind
    have hpasses := hnone.2
    rw [ColdStartHolds, hprofile, not_or, not_not, not_not] at hpasses
    have hready := requireValid_ready hlookup hpasses.1 hvalid hpasses.2
      (rfl : run.host = _) .coldStart
    have hend := hclosed run.runId hheld id
    rw [identityStep, initIdentity_unbound hcomplete hbound, hbind] at hend hcoherent
    simp only [hready] at hend hcoherent
    exact not_closed_of_bound hcoherent hlookup hvalid hend
  | hold | revalidate | requireValid | recoverState | rebind | issue | restart => trivial

/-! ## Sticky holds -/

/-- Along a run of operations on a new log file: from any point at which a run's last
logged binding is held, the run is closed until it is rebound. -/
def HoldSticky (config : IdentityConfig) (ops : List IdentityOp) : Prop :=
  StaysClosed (identityStep config) (fun runId guard => guard.auditLog.Held runId)
    (Closed config) IdentityOp.Rebinds (.restart []) ops

/-- Holds are sticky in exactly the runs in which nothing binds a held run. -/
theorem holdSticky_iff_keepsHolds (config : IdentityConfig) (ops : List IdentityOp) :
    HoldSticky config ops ↔
      Admissible (identityStep config) (KeepsHolds config) (.restart []) ops := by
  apply staysClosed_iff_admissible (Coherent config)
  · intro guard op h _
    exact (identityStep_keeps guard op).coherent h
  · intro guard op runId h hallowed hheld hop
    exact hallowed.held h hheld hop
  · intro guard runId h hheld
    exact h.closed hheld
  · intro guard op h hclosed
    exact keepsHolds_of_closed h hclosed
  · exact restart_coherent IdentityAuditLog.nil_sound

/-! ## A hold that a restart forgets -/

namespace HeldRun

def profile : OCSProfile :=
  { ocsId := "NÓESIS", identity := "identity:noesis", ancestry := "ancestry:noesis"
    constitutionRef := "constitution:noesis", cspRef := "csp:noesis"
    specialty := "research", supportCapabilities := []
    authorityEnvelopeRef := "authority:noesis", allowedActionClasses := []
    deniedActionClasses := [], evidenceProfile := "evidence", piActivationPolicy := "policy"
    capabilityAdapters := [], toolPermissions := [], stateNamespace := "state:noesis"
    memoryNamespace := "memory:noesis", riskModel := "risk", stopPolicy := "stop"
    handoffPolicy := "handoff", recoveryPolicy := "recovery", version := "1"
    predecessor := "none", rollbackPointer := "none", kernelInterfaceRef := "kernel" }

def identityConfig : IdentityConfig :=
  { profiles := (∅ : Dict String OCSProfile).insert "NÓESIS" profile
    hashPayload := fun base => base.eventType ++ toString base.sequence
    bindingHash := fun binding => binding.runId ++ binding.host }

/-- A run is bound and held. -/
def ops : List IdentityOp :=
  [.bind 1 "run:held" "NÓESIS" "ChatGPT" "session:held",
    .hold "run:held" "identity_conflict"]

/-- A restarted process constructs its runtime for the run. -/
def coldStart : List IdentityOp :=
  [.restart,
    .construct 2 ⟨some "run:held", some "NÓESIS", some "ChatGPT", some "session:held"⟩]

end HeldRun

/-- The constructor of a runtime after a restart binds the held run as valid. -/
theorem not_holdSticky_coldStart :
    ¬ HoldSticky HeldRun.identityConfig (HeldRun.ops ++ HeldRun.coldStart) := by
  intro h
  have hclosed := h "run:held" HeldRun.ops HeldRun.coldStart List.prefix_rfl (by decide)
    (by simp [HeldRun.coldStart, IdentityOp.Rebinds])
  exact hclosed.2
    (newBinding HeldRun.profile "run:held" "ChatGPT" "session:held" 2) (by rfl)

end ReisOs.Kernel
