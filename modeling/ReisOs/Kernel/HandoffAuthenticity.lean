import ReisOs.Kernel.StickyHold

/-!
# What acceptance of a handoff authenticates

`accept` compares a receipt with the binding that the sender's log recovers, and with
the receiver it is presented for.  The handoff's id, its object, its scope and its
authority are carried along: no receipt that was issued is ever looked up.
-/

namespace ReisOs.Kernel

open ReisOs.Core HandoffIdentityGate HeldRun
open IdentityKernelGuard

variable {config : IdentityConfig} {log : IdentityAuditLog}
  {receipt altered : HandoffIdentityReceipt} {receiverOcs receiverHost : String}

/-! ## Receipts that are accepted -/

/-- The last event of the sender's run carries a valid binding, and the receipt
describes that binding. -/
def HandoffIdentityReceipt.Vouched (config : IdentityConfig) (log : IdentityAuditLog)
    (receipt : HandoffIdentityReceipt) : Prop :=
  ∃ sender, log.terminalBinding receipt.senderRunId = some sender ∧
    sender.status = .valid ∧
    receipt.senderOcsId = sender.ocsId ∧
    receipt.senderOcsCanonicalName = sender.ocsCanonicalName ∧
    receipt.senderHost = sender.host ∧
    receipt.senderIdentityBindingHash = config.bindingHash sender

/-- The receipt transfers nothing, and names the receiver it is presented for. -/
structure HandoffIdentityReceipt.Addressed (receipt : HandoffIdentityReceipt)
    (receiverOcs receiverHost : String) : Prop where
  identity : receipt.identityTransfer = false
  authority : receipt.authorityTransfer = false
  memory : receipt.crossOcsMemoryImport = false
  ocs : receipt.receiverOcsId = receiverOcs
  host : ∀ host, receipt.receiverHostIfKnown = some host → host = receiverHost

theorem receiptFailure_none_iff :
    receiptFailure receipt receiverOcs receiverHost = none ↔
      receipt.Addressed receiverOcs receiverHost := by
  rw [receiptFailure, firstFailure_eq_none_iff]
  simp only [List.forall_mem_cons, List.not_mem_nil, false_implies, implies_true, and_true,
    bne_eq_false_iff_eq, Option.any_eq_false_iff_get]
  constructor
  · rintro ⟨hidentity, hauthority, hmemory, hocs, hhost⟩
    refine ⟨hidentity, hauthority, hmemory, hocs.symm, ?_⟩
    intro host hknown
    simpa [hknown, eq_comm] using hhost
  · intro h
    refine ⟨h.identity, h.authority, h.memory, h.ocs.symm, ?_⟩
    intro hsome
    obtain ⟨host, hknown⟩ := Option.isSome_iff_exists.mp hsome
    simpa [hknown] using (h.host host hknown).symm

theorem senderFailure_none_iff {sender : ActiveIdentityBinding} :
    senderFailure config receipt sender = none ↔
      receipt.senderOcsId = sender.ocsId ∧
        receipt.senderOcsCanonicalName = sender.ocsCanonicalName ∧
        receipt.senderHost = sender.host ∧
        receipt.senderIdentityBindingHash = config.bindingHash sender := by
  rw [senderFailure, firstFailure_eq_none_iff]
  simp only [List.forall_mem_cons, List.not_mem_nil, false_implies, implies_true, and_true,
    bne_eq_false_iff_eq]
  exact and_congr eq_comm (and_congr eq_comm (and_congr eq_comm eq_comm))

/-- On a sound log, the checks of `accept` pass exactly for a vouched receipt that is
presented for the receiver it names. -/
theorem acceptRefusal_none_iff (hsound : log.Sound config) :
    acceptRefusal config receipt log receiverOcs receiverHost = none ↔
      receipt.Vouched config log ∧ receipt.Addressed receiverOcs receiverHost := by
  rw [← receiptFailure_none_iff, acceptRefusal]
  cases hreceipt : receiptFailure receipt receiverOcs receiverHost with
  | some reason => simp
  | none =>
    simp only [and_true]
    constructor
    · intro h
      cases hrecover : log.recoverCurrentBinding config receipt.senderRunId with
      | error error => simp [hrecover] at h
      | ok found =>
        cases found with
        | none => simp [hrecover] at h
        | some sender =>
          simp only [hrecover, Option.map_eq_none_iff] at h
          have hterminal := IdentityAuditLog.recoverCurrentBinding_ok hrecover
          exact ⟨sender, hterminal.1, hterminal.2, senderFailure_none_iff.mp h⟩
    · rintro ⟨sender, hterminal, hvalid, hfields⟩
      rw [hsound.recoverCurrentBinding_valid hterminal hvalid]
      simpa using senderFailure_none_iff.mpr hfields

theorem accept_ok_iff (guard : IdentityKernelGuard) (now : Time)
    (receiverRunId sessionContext : String) :
    (∃ answer, accept config receipt log guard now receiverRunId
        receiverOcs receiverHost sessionContext = .ok answer) ↔
      acceptRefusal config receipt log receiverOcs receiverHost =
          none ∧
        bindRefusal config receiverRunId receiverOcs receiverHost sessionContext =
          none := by
  rw [accept]
  cases acceptRefusal config receipt log receiverOcs receiverHost with
  | some error => simp
  | none =>
    cases hbind : bindRefusal config receiverRunId receiverOcs receiverHost
        sessionContext with
    | some error => simp [bindActiveIdentity_refused hbind]
    | none =>
      obtain ⟨profile, -, haccepted⟩ := bindActiveIdentity_accepted hbind guard now
      simp [haccepted]

/-! ## Altered receipts -/

/-- The fields of a receipt that its acceptance checks. -/
structure HandoffIdentityReceipt.Agrees (receipt altered : HandoffIdentityReceipt) :
    Prop where
  ocs : altered.senderOcsId = receipt.senderOcsId
  name : altered.senderOcsCanonicalName = receipt.senderOcsCanonicalName
  host : altered.senderHost = receipt.senderHost
  binding : altered.senderIdentityBindingHash = receipt.senderIdentityBindingHash

theorem HandoffIdentityReceipt.Vouched.agrees (h : receipt.Vouched config log)
    (haltered : altered.Vouched config log)
    (hrun : altered.senderRunId = receipt.senderRunId) : receipt.Agrees altered := by
  obtain ⟨sender, hterminal, -, hocs, hname, hhost, hhash⟩ := h
  obtain ⟨other, hother, -, hocs', hname', hhost', hhash'⟩ := haltered
  rw [hrun, hterminal, Option.some_inj] at hother
  subst hother
  constructor
  · rw [hocs, hocs']
  · rw [hname, hname']
  · rw [hhost, hhost']
  · rw [hhash, hhash']

theorem HandoffIdentityReceipt.Vouched.collides (hsound : log.Sound config)
    (h : receipt.Vouched config log) (haltered : altered.Vouched config log)
    (hhash : altered.senderIdentityBindingHash = receipt.senderIdentityBindingHash)
    (hrun : altered.senderRunId ≠ receipt.senderRunId) :
    ∃ sender other : ActiveIdentityBinding, sender ≠ other ∧
      config.bindingHash sender = config.bindingHash other := by
  obtain ⟨sender, hterminal, -, -, -, -, hbound⟩ := h
  obtain ⟨other, hother, -, -, -, -, hbound'⟩ := haltered
  refine ⟨sender, other, ?_, by rw [← hbound, ← hbound', hhash]⟩
  intro hsame
  apply hrun
  rw [← hsound.terminal_runId hother, ← hsame, hsound.terminal_runId hterminal]

/-- The sender's log after a sequence of identity operations on a new log file. -/
def senderLog (config : IdentityConfig) (ops : List IdentityOp) : IdentityAuditLog :=
  (run (identityStep config) (.restart []) ops).auditLog

theorem senderLog_sound (config : IdentityConfig) (ops : List IdentityOp) :
    (senderLog config ops).Sound config := by
  have hcoherent : Coherent config (run (identityStep config) (.restart []) ops) :=
    run_invariant (Coherent config)
      (fun guard op h => (identityStep_keeps guard op).coherent h)
      (restart_coherent IdentityAuditLog.nil_sound) ops
  exact hcoherent.sound

/-- Whatever the sender did: a receipt is accepted exactly when the sender's log vouches
for it and it names the receiver, which can be bound.  An accepted receipt that is
altered in the description of the sender's binding, in its receiver or in a transfer
flag is refused; one that is altered in its run is refused unless two bindings share a
hash. -/
theorem accept_vouched (config : IdentityConfig) (ops : List IdentityOp)
    (receipt altered : HandoffIdentityReceipt) (guard : IdentityKernelGuard) (now : Time)
    (receiverRunId receiverOcs receiverHost sessionContext : String) :
    let accepted (receipt : HandoffIdentityReceipt) : Prop :=
      ∃ answer, accept config receipt (senderLog config ops) guard now
        receiverRunId receiverOcs receiverHost sessionContext = .ok answer
    (accepted receipt ↔
      receipt.Vouched config (senderLog config ops) ∧
        receipt.Addressed receiverOcs receiverHost ∧
        bindRefusal config receiverRunId receiverOcs receiverHost sessionContext =
          none) ∧
      (accepted receipt ∧ accepted altered →
        (altered.senderRunId = receipt.senderRunId → receipt.Agrees altered) ∧
        altered.receiverOcsId = receipt.receiverOcsId ∧
        (altered.identityTransfer, altered.authorityTransfer,
            altered.crossOcsMemoryImport) =
          (receipt.identityTransfer, receipt.authorityTransfer,
            receipt.crossOcsMemoryImport) ∧
        (altered.senderIdentityBindingHash = receipt.senderIdentityBindingHash →
          altered.senderRunId ≠ receipt.senderRunId →
          ∃ sender other : ActiveIdentityBinding, sender ≠ other ∧
            config.bindingHash sender = config.bindingHash other)) := by
  have hsound := senderLog_sound config ops
  have haccept (receipt : HandoffIdentityReceipt) :
      (∃ answer, accept config receipt (senderLog config ops) guard
        now receiverRunId receiverOcs receiverHost sessionContext = .ok answer) ↔
      receipt.Vouched config (senderLog config ops) ∧
        receipt.Addressed receiverOcs receiverHost ∧
        bindRefusal config receiverRunId receiverOcs receiverHost sessionContext =
          none := by
    rw [accept_ok_iff, acceptRefusal_none_iff hsound, and_assoc]
  refine ⟨haccept receipt, ?_⟩
  rintro ⟨hreceipt, haltered⟩
  obtain ⟨hvouched, haddressed, -⟩ := (haccept receipt).mp hreceipt
  obtain ⟨hvouched', haddressed', -⟩ := (haccept altered).mp haltered
  refine ⟨hvouched.agrees hvouched', ?_, ?_, hvouched.collides hsound hvouched'⟩
  · rw [haddressed.ocs, haddressed'.ocs]
  · rw [haddressed.identity, haddressed.authority, haddressed.memory,
      haddressed'.identity, haddressed'.authority, haddressed'.memory]

/-! ## A receipt that was never issued -/

/-- The sender's gate issued the receipt at some point of the run. -/
def Issued (config : IdentityConfig) (ops : List IdentityOp)
    (receipt : HandoffIdentityReceipt) : Prop :=
  ∃ before runId handoffId senderOcs senderHost receiverOcs receiverHostIfKnown objectRef
    authorizedNextScope authorityRef,
    before ++ [.issue runId handoffId senderOcs senderHost receiverOcs receiverHostIfKnown
      objectRef authorizedNextScope authorityRef] <+: ops ∧
    (issue config (run (identityStep config) (.restart []) before)
      runId handoffId senderOcs senderHost receiverOcs receiverHostIfKnown objectRef
      authorizedNextScope authorityRef).2 = .ok receipt

namespace HeldRun

/-- A bound run issues one handoff. -/
def issuing : List IdentityOp :=
  [.bind 1 "run:sender" "NÓESIS" "ChatGPT" "session:sender",
    .issue "run:sender" "handoff:1" "NÓESIS" "ChatGPT" "NÓESIS" none "object:draft"
      ["read"] "authority:draft"]

def issuedReceipt : HandoffIdentityReceipt :=
  { handoffId := "handoff:1"
    senderRunId := "run:sender"
    senderOcsCanonicalName := "NÓESIS"
    senderOcsId := "NÓESIS"
    senderHost := "ChatGPT"
    receiverOcsCanonicalName := "NÓESIS"
    receiverOcsId := "NÓESIS"
    receiverHostIfKnown := none
    objectRef := "object:draft"
    authorizedNextScope := ["read"]
    authorityRef := "authority:draft"
    senderIdentityBindingHash := "run:senderChatGPT" }

/-- The receipt that was issued, for another object and with a wider scope. -/
def forgedReceipt : HandoffIdentityReceipt :=
  { issuedReceipt with
    handoffId := "handoff:2"
    objectRef := "object:final"
    authorizedNextScope := ["read", "publish"]
    authorityRef := "authority:root" }

end HeldRun

/-- The altered receipt is accepted, and only the other one was issued. -/
theorem forgedReceipt_accepted :
    Issued identityConfig issuing issuedReceipt ∧
      ¬ Issued identityConfig issuing forgedReceipt ∧
      ∃ answer, accept identityConfig forgedReceipt
        (senderLog identityConfig issuing) (.restart []) 2 "run:receiver"
        "NÓESIS" "ChatGPT" "session:receiver" = .ok answer := by
  refine ⟨?_, ?_, ?_⟩
  · exact ⟨issuing.take 1, _, _, _, _, _, _, _, _, _, List.prefix_rfl, by rfl⟩
  · rintro ⟨before, runId, handoffId, senderOcs, senderHost, receiverOcs,
      receiverHostIfKnown, objectRef, authorizedNextScope, authorityRef, hprefix, hissue⟩
    have hmem := hprefix.subset (List.mem_append_right before (List.mem_singleton_self _))
    simp only [issuing, List.mem_cons, reduceCtorEq, IdentityOp.issue.injEq,
      List.not_mem_nil, or_false, false_or] at hmem
    obtain ⟨rfl, rfl, rfl, rfl, rfl, rfl, rfl, rfl, rfl⟩ := hmem
    rw [issue] at hissue
    split at hissue
    · cases hissue
    · split at hissue
      · cases hissue
      · simp [forgedReceipt] at hissue
  · exact ⟨_, by rfl⟩

end ReisOs.Kernel
