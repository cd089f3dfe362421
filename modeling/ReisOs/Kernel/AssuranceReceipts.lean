import ReisOs.Kernel.Authorization

/-!
# Registrations of assurance receipts

`AssuranceReceiptRegistry.issue` and `register`.  The registry keeps one receipt for each
evidence reference, the one registered last; the time at which a receipt was issued plays
no part.
-/

namespace ReisOs.Kernel

open ReisOs.Core GovernanceEngine

variable {P : Type}

/-- `issued_at` is the given time, or the reading of the clock. -/
inductive Registration where
  | issue (payload : AssurancePayload)
  | register (receipt : AssuranceReceipt)
  deriving DecidableEq, Repr

namespace AssuranceReceiptRegistry

def keep (registry : AssuranceReceiptRegistry) (receipt : AssuranceReceipt) :
    AssuranceReceiptRegistry :=
  { registry with receipts := registry.receipts.insert receipt.evidenceRef receipt }

def issue (registry : AssuranceReceiptRegistry) (payload : AssurancePayload) :
    AssuranceReceiptRegistry × AssuranceReceipt :=
  let receipt : AssuranceReceipt := { payload with mac := registry.mac payload }
  (registry.keep receipt, receipt)

def register (registry : AssuranceReceiptRegistry) (receipt : AssuranceReceipt) :
    Except PyError AssuranceReceiptRegistry :=
  if registry.mac receipt.toAssurancePayload ≠ receipt.mac then
    .error (.valueError "assurance_receipt_authentication_failed")
  else
    .ok (registry.keep receipt)

/-- The registry after a call, accepted or rejected. -/
def after (registry : AssuranceReceiptRegistry) : Registration → AssuranceReceiptRegistry
  | .issue payload => (registry.issue payload).1
  | .register receipt =>
    match registry.register receipt with
    | .ok registry => registry
    | .error _ => registry

end AssuranceReceiptRegistry

namespace Registration

def payload : Registration → AssurancePayload
  | issue payload => payload
  | register receipt => receipt.toAssurancePayload

end Registration

namespace AssuranceReceiptRegistry

variable {registry : AssuranceReceiptRegistry} {evidenceRef : String}

/-- The receipt kept for the reference has failed. -/
def Failed (registry : AssuranceReceiptRegistry) (evidenceRef : String) : Prop :=
  ∃ receipt, registry.receipts.lookup evidenceRef = some receipt ∧
    receipt.verdictPassed = false

theorem after_cases (registry : AssuranceReceiptRegistry) (registration : Registration) :
    registry.after registration = registry ∨
      ∃ receipt : AssuranceReceipt, receipt.toAssurancePayload = registration.payload ∧
        registry.after registration = registry.keep receipt := by
  cases registration with
  | issue payload => exact .inr ⟨_, rfl, rfl⟩
  | register receipt =>
    cases hanswer : registry.register receipt with
    | error error =>
      left
      rw [after, hanswer]
    | ok registered =>
      right
      refine ⟨receipt, rfl, ?_⟩
      rw [after, hanswer]
      unfold register at hanswer
      split at hanswer
      · cases hanswer
      · cases hanswer
        rfl

theorem lookup_keep (registry : AssuranceReceiptRegistry) (receipt : AssuranceReceipt)
    (evidenceRef : String) :
    (registry.keep receipt).receipts.lookup evidenceRef =
      if evidenceRef = receipt.evidenceRef then some receipt
      else registry.receipts.lookup evidenceRef := Dict.lookup_insert_eq ..

theorem Failed.after (h : registry.Failed evidenceRef) {registration : Registration}
    (hlater : registration.payload.evidenceRef = evidenceRef →
      registration.payload.verdictPassed = false) :
    (registry.after registration).Failed evidenceRef := by
  rcases registry.after_cases registration with hsame | ⟨receipt, hpayload, hkept⟩
  · rw [hsame]
    exact h
  · rw [hkept, Failed, lookup_keep]
    by_cases hown : evidenceRef = receipt.evidenceRef
    · rw [if_pos hown]
      rw [← hpayload] at hlater
      exact ⟨receipt, rfl, hlater hown.symm⟩
    · rw [if_neg hown]
      exact h

theorem Failed.run (h : registry.Failed evidenceRef) {later : List Registration}
    (hlater : ∀ registration ∈ later, registration.payload.evidenceRef = evidenceRef →
      registration.payload.verdictPassed = false) :
    (run AssuranceReceiptRegistry.after registry later).Failed evidenceRef := by
  induction later generalizing registry with
  | nil => exact h
  | cons registration later ih =>
    rw [List.forall_mem_cons] at hlater
    exact ih (h.after hlater.1) hlater.2

theorem failed_of_register {registered : AssuranceReceiptRegistry} {receipt : AssuranceReceipt}
    (h : registry.register receipt = .ok registered) (hfailed : receipt.verdictPassed = false) :
    registered.Failed receipt.evidenceRef := by
  unfold register at h
  split at h
  · cases h
  · cases h
    exact ⟨receipt, (lookup_keep ..).trans (if_pos rfl), hfailed⟩

theorem Failed.not_assures (h : registry.Failed evidenceRef) {p : ActionProposal P}
    (hrelies : ∀ item ∈ p.evidence, item.ref = evidenceRef) : ¬ registry.Assures p := by
  rintro ⟨item, hitem, receipt, hreceipt, -, hpassed, -⟩
  obtain ⟨found, hfound, hfailed⟩ := h
  rw [hrelies item hitem, hfound] at hreceipt
  cases hreceipt
  rw [hfailed] at hpassed
  cases hpassed

def plainMac (payload : AssurancePayload) : String :=
  payload.receiptId ++ (if payload.verdictPassed then ":passed" else ":failed")

/-- A receipt of AGORA for the object and the policy of the fixture's proposal. -/
def receiptOf (receiptId : String) (verdictPassed : Bool) (issuedAt : Time) :
    AssuranceReceipt :=
  let payload : AssurancePayload :=
    { receiptId := receiptId
      evidenceRef := "evidence-1"
      objectRef := "object:r1a"
      policySnapshot := "policy-r1"
      assurer := "AGORA"
      verdictPassed := verdictPassed
      issuedAt := issuedAt }
  { payload with mac := plainMac payload }

def noReceipts : AssuranceReceiptRegistry := ⟨plainMac, ∅⟩

/-- The fixture's proposal at high risk. -/
def highRisk : ActionProposal ℕ := { Fixture.proposal with risk := .high }

def assuredBy (registry : AssuranceReceiptRegistry) : GovernanceEngine :=
  { Fixture.config.governance with assurance := some registry }

end AssuranceReceiptRegistry

end ReisOs.Kernel
