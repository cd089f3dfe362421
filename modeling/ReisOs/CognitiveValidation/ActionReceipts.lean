import Mathlib.Data.List.Nodup
import Mathlib.Data.Rat.Floor
import ReisOs.Core.Checks
import ReisOs.Core.Runs
import ReisOs.Kernel.AuditFile

/-!
# Action receipts

An action receipt is signed for one action in one context.  The anti-bypass gate compares
the contexts, verifies the receipt, and consumes it in one atomic step of the ledger before
the executor is invoked; the steps of other calls come between.
-/

namespace ReisOs.CognitiveValidation.ActionReceipts

open ReisOs.Core

/-- What `issue` reads of a mission receipt. -/
structure MissionCognitiveReceipt where
  (receiptId missionId cognitionCycleId ocsId ocsInstanceId : String)
  generation : ℤ
  brainVersion : String
  brainStateRevision : Option String
  (intentHash stateHash : String)

/-- The `unsigned_payload` of an action receipt. -/
structure ActionPayload where
  (receiptId missionReceiptRef missionId cognitionCycleId ocsId ocsInstanceId : String)
  generation : ℤ
  brainVersion : String
  brainStateRevision : Option String
  (intentHash planHash actionDigest capabilityId capabilityVersion adapterVersion : String)
  authorityRequirements : List String
  (stateHash policyVersion : String)
  (issuedAt expiresAt : ℚ)
  nonce : String
  previousReceiptHash : Option String
  status : String
  (authorityGranted effectsPermitted : Bool)
deriving DecidableEq

structure ActionCognitiveReceipt extends ActionPayload where
  integrityHash : String
  signature : String
deriving DecidableEq

@[ext]
structure RuntimeExecutionContext where
  (missionId ocsId ocsInstanceId : String)
  generation : ℤ
  (capabilityId capabilityVersion adapterVersion actionDigest stateHash : String)
  policyVersion : String
deriving DecidableEq

/-- The arguments of `issue` beside the mission receipt. -/
structure ActionRequest where
  (planHash actionDigest capabilityId capabilityVersion adapterVersion : String)
  authorityRequirements : List String
  (stateHash policyVersion : String)
  previousReceiptHash : Option String

/-- `ActionCognitiveReceiptIssuer`: the hashes, the HMAC under its secret, and the `verify` of
its mission issuer. -/
structure ActionIssuer where
  missionVerifies : MissionCognitiveReceipt → Bool
  shortHash : String → String
  integrityHash : ActionPayload → String
  hmac : String → String
  ttl : ℚ

def isBlankText (text : String) : Bool := text.toList.all Kernel.AuditFile.isSpace

namespace ActionIssuer

variable (issuer : ActionIssuer)

def sign (payload : ActionPayload) : ActionCognitiveReceipt :=
  { payload with
    integrityHash := issuer.integrityHash payload
    signature := issuer.hmac (issuer.integrityHash payload) }

def issueFailure (mission : MissionCognitiveReceipt) (request : ActionRequest) :
    Option String :=
  firstFailure <|
    (!issuer.missionVerifies mission, "action_receipt_invalid_mission_receipt") ::
    ([("plan_hash", request.planHash), ("action_digest", request.actionDigest),
      ("capability_id", request.capabilityId),
      ("capability_version", request.capabilityVersion),
      ("adapter_version", request.adapterVersion), ("state_hash", request.stateHash),
      ("policy_version", request.policyVersion)].map fun field =>
        (isBlankText field.2, "action_receipt_" ++ field.1 ++ "_required")) ++
    [(decide (request.stateHash ≠ mission.stateHash),
        "action_receipt_stale_or_mismatched_state"),
      (decide (request.authorityRequirements = []) ||
          request.authorityRequirements.any isBlankText,
        "action_receipt_authority_requirements_required")]

def issue (mission : MissionCognitiveReceipt) (request : ActionRequest) (now : ℚ)
    (nonce : String) : Except String ActionCognitiveReceipt :=
  match issuer.issueFailure mission request with
  | some text => .error text
  | none =>
    .ok <| issuer.sign
      { receiptId := "acr:" ++ issuer.shortHash
          (mission.receiptId ++ "|" ++ request.actionDigest ++ "|" ++ nonce)
        missionReceiptRef := mission.receiptId
        missionId := mission.missionId
        cognitionCycleId := mission.cognitionCycleId
        ocsId := mission.ocsId
        ocsInstanceId := mission.ocsInstanceId
        generation := mission.generation
        brainVersion := mission.brainVersion
        brainStateRevision := mission.brainStateRevision
        intentHash := mission.intentHash
        planHash := request.planHash
        actionDigest := request.actionDigest
        capabilityId := request.capabilityId
        capabilityVersion := request.capabilityVersion
        adapterVersion := request.adapterVersion
        authorityRequirements := request.authorityRequirements
        stateHash := request.stateHash
        policyVersion := request.policyVersion
        issuedAt := now
        expiresAt := now + issuer.ttl
        nonce := nonce
        previousReceiptHash := request.previousReceiptHash
        status := "ISSUED"
        authorityGranted := false
        effectsPermitted := false }

def verifyIntegrity (receipt : ActionCognitiveReceipt) (now : ℚ) : Bool :=
  let expected := issuer.integrityHash receipt.toActionPayload
  receipt.status = "ISSUED" && !(receipt.authorityGranted || receipt.effectsPermitted) &&
    !(receipt.expiresAt ≤ now || receipt.expiresAt ≤ receipt.issuedAt) &&
      receipt.integrityHash = expected && receipt.signature = issuer.hmac expected

/-- `verify`, with the identifiers in the ledger. -/
def verify (consumed : List String) (receipt : ActionCognitiveReceipt) (now : ℚ) : Bool :=
  issuer.verifyIntegrity receipt now && receipt.receiptId ∉ consumed

end ActionIssuer

/-- The context that a receipt is for. -/
def ActionPayload.context (receipt : ActionPayload) : RuntimeExecutionContext where
  missionId := receipt.missionId
  ocsId := receipt.ocsId
  ocsInstanceId := receipt.ocsInstanceId
  generation := receipt.generation
  capabilityId := receipt.capabilityId
  capabilityVersion := receipt.capabilityVersion
  adapterVersion := receipt.adapterVersion
  actionDigest := receipt.actionDigest
  stateHash := receipt.stateHash
  policyVersion := receipt.policyVersion

/-- The fields of `required` in `_validate_context`. -/
def RuntimeExecutionContext.fields (context : RuntimeExecutionContext) :
    List (String × String) :=
  [("mission_id", context.missionId), ("ocs_id", context.ocsId),
    ("ocs_instance_id", context.ocsInstanceId), ("capability_id", context.capabilityId),
    ("capability_version", context.capabilityVersion),
    ("adapter_version", context.adapterVersion), ("action_digest", context.actionDigest),
    ("state_hash", context.stateHash), ("policy_version", context.policyVersion)]

/-- `_validate_context`. -/
def contextFailure (receipt : ActionPayload) (context : RuntimeExecutionContext) :
    Option String :=
  firstFailure <|
    (decide (context.generation < 0), "runtime_generation_invalid") ::
    ((receipt.context.fields.zip context.fields).flatMap fun (presented, expected) =>
      [(isBlankText expected.2, "runtime_" ++ expected.1 ++ "_required"),
        (decide (presented.2 ≠ expected.2), "runtime_" ++ expected.1 ++ "_mismatch")]) ++
    [(decide (receipt.generation ≠ context.generation), "runtime_generation_mismatch")]

/-! ## Calls of the gate side by side -/

/-- The receipt and the context of a call, and the clock at its verification. -/
structure Presented where
  receipt : ActionCognitiveReceipt
  context : RuntimeExecutionContext
  verifiedAt : ℚ
deriving DecidableEq

/-- The receipts that have been issued, the ledger, the calls between `verify` and
`consume_once`, and those whose executor has been invoked. -/
structure Gate (K : Type) where
  issued : List ActionCognitiveReceipt
  consumed : List String
  verified : K → Option Presented
  invoked : List Presented

inductive GateStep (K : Type) where
  | issue (mission : MissionCognitiveReceipt) (request : ActionRequest) (now : ℚ)
      (nonce : String)
  | verify (call : K) (presented : Presented)
  | consumeOnce (call : K)

namespace Gate

variable {K : Type} [DecidableEq K] (issuer : ActionIssuer)

def empty : Gate K := ⟨[], [], fun _ => none, []⟩

/-- What the gate asks before `consume_once`. -/
def accepts (gate : Gate K) (presented : Presented) : Bool :=
  contextFailure presented.receipt.toActionPayload presented.context = none &&
    issuer.verify gate.consumed presented.receipt presented.verifiedAt

def step (gate : Gate K) : GateStep K → Gate K
  | .issue mission request now nonce =>
    match issuer.issue mission request now nonce with
    | .error _ => gate
    | .ok receipt => { gate with issued := gate.issued ++ [receipt] }
  | .verify call presented =>
    if gate.accepts issuer presented then
      { gate with verified := Function.update gate.verified call (some presented) }
    else gate
  | .consumeOnce call =>
    match gate.verified call with
    | none => gate
    | some presented =>
      let gate := { gate with verified := Function.update gate.verified call none }
      if presented.receipt.receiptId ∈ gate.consumed then gate
      else
        { gate with
          consumed := presented.receipt.receiptId :: gate.consumed
          invoked := gate.invoked ++ [presented] }

/-- A payload whose HMAC is presented has been signed. -/
def Unforged (gate : Gate K) : GateStep K → Prop
  | .verify _ presented =>
    presented.receipt.signature =
        issuer.hmac (issuer.integrityHash presented.receipt.toActionPayload) →
      ∃ receipt ∈ gate.issued, receipt.toActionPayload = presented.receipt.toActionPayload
  | _ => True

variable {issuer} {gate : Gate K}

theorem context_of_contextFailure {receipt : ActionPayload} {context : RuntimeExecutionContext}
    (h : contextFailure receipt context = none) : receipt.context = context := by
  simp [contextFailure, firstFailure_eq_none_iff, RuntimeExecutionContext.fields,
    ActionPayload.context, or_imp, forall_and] at h
  ext <;> simp [ActionPayload.context, h]

/-- `good` holds of whatever has passed `verify`, and the ledger has the identifiers of the
receipts whose executor has been invoked. -/
structure Sound (good : Presented → Prop) (gate : Gate K) : Prop where
  consumed : gate.consumed = (gate.invoked.map (·.receipt.receiptId)).reverse
  nodup : gate.consumed.Nodup
  verified : ∀ call presented, gate.verified call = some presented → good presented
  invoked : ∀ presented ∈ gate.invoked, good presented

variable {good : Presented → Prop}

omit [DecidableEq K] in
theorem sound_empty : Sound good (empty : Gate K) where
  consumed := rfl
  nodup := List.nodup_nil
  verified call presented h := by simp [empty] at h
  invoked presented h := by simp [empty] at h

theorem Sound.update (h : Sound good gate) (call : K) (value : Option Presented)
    (hvalue : ∀ presented, value = some presented → good presented) (other : K)
    (found : Presented) (hfound : Function.update gate.verified call value other = some found) :
    good found := by
  rw [Function.update_apply] at hfound
  split at hfound
  · exact hvalue found hfound
  · exact h.verified other found hfound

theorem Sound.step (h : Sound good gate) (input : GateStep K)
    (hgood : ∀ call presented, input = .verify call presented →
      gate.accepts issuer presented = true → good presented) :
    Sound good (gate.step issuer input) := by
  cases input with
  | issue mission request now nonce =>
    rw [Gate.step]
    cases issuer.issue mission request now nonce with
    | error text => exact h
    | ok receipt => exact { h with }
  | verify call presented =>
    rw [Gate.step]
    split
    case isFalse => exact h
    case isTrue haccepts =>
      refine { h with verified := h.update call _ ?_ }
      intro found hfound
      rw [← Option.some.inj hfound]
      exact hgood call presented rfl haccepts
  | consumeOnce call =>
    rw [Gate.step]
    cases hcall : gate.verified call with
    | none => exact h
    | some presented =>
      have hverified := h.update call none (by simp)
      dsimp only
      split
      case isTrue => exact { h with verified := hverified }
      case isFalse hfresh =>
        constructor
        · simp [h.consumed]
        · exact List.nodup_cons.mpr ⟨hfresh, h.nodup⟩
        · exact hverified
        · intro found hfound
          rw [List.mem_append, List.mem_singleton] at hfound
          cases hfound with
          | inl hfound => exact h.invoked found hfound
          | inr hfound =>
            rw [hfound]
            exact h.verified call presented hcall

theorem mem_consumed_step {id : String} (h : id ∈ gate.consumed) (input : GateStep K) :
    id ∈ (gate.step issuer input).consumed := by
  cases input with
  | issue mission request now nonce =>
    rw [Gate.step]
    split <;> exact h
  | verify call presented =>
    rw [Gate.step]
    split <;> exact h
  | consumeOnce call =>
    rw [Gate.step]
    split
    · exact h
    · dsimp only
      split
      · exact h
      · exact List.mem_cons_of_mem _ h

/-- The receipt is what the issuer answered to some request on a mission receipt. -/
def Issued (issuer : ActionIssuer) (receipt : ActionCognitiveReceipt) : Prop :=
  ∃ mission request now nonce, issuer.issue mission request now nonce = .ok receipt

theorem eq_sign_of_issue {mission : MissionCognitiveReceipt} {request : ActionRequest}
    {now : ℚ} {nonce : String} {receipt : ActionCognitiveReceipt}
    (h : issuer.issue mission request now nonce = .ok receipt) :
    receipt = issuer.sign receipt.toActionPayload := by
  rw [ActionIssuer.issue] at h
  split at h
  · cases h
  · rw [← Except.ok.inj h]
    rfl

theorem issued_step (h : ∀ receipt ∈ gate.issued, Issued issuer receipt)
    (input : GateStep K) : ∀ receipt ∈ (gate.step issuer input).issued,
      Issued issuer receipt := by
  cases input with
  | issue mission request now nonce =>
    rw [Gate.step]
    split
    case h_1 => exact h
    case h_2 receipt hissue =>
      intro found hfound
      rw [List.mem_append, List.mem_singleton] at hfound
      cases hfound with
      | inl hfound => exact h found hfound
      | inr hfound => exact ⟨mission, request, now, nonce, hfound ▸ hissue⟩
  | verify call presented =>
    rw [Gate.step]
    split <;> exact h
  | consumeOnce call =>
    rw [Gate.step]
    split
    · exact h
    · dsimp only
      split <;> exact h

theorem eq_sign_of_verifyIntegrity {receipt : ActionCognitiveReceipt} {now : ℚ}
    (h : issuer.verifyIntegrity receipt now = true) :
    receipt = issuer.sign receipt.toActionPayload ∧ now < receipt.expiresAt := by
  simp only [ActionIssuer.verifyIntegrity, Bool.and_eq_true, Bool.not_eq_true',
    Bool.or_eq_false_iff, decide_eq_true_eq, decide_eq_false_iff_not, not_le] at h
  constructor
  · rw [ActionIssuer.sign, ← h.2, ← h.1.2]
  · exact h.1.1.2.1

omit [DecidableEq K] in
theorem issued_of_accepts {presented : Presented}
    (hissued : ∀ receipt ∈ gate.issued, Issued issuer receipt) {call : K}
    (hunforged : gate.Unforged issuer (.verify call presented))
    (haccepts : gate.accepts issuer presented = true) : Issued issuer presented.receipt := by
  simp only [accepts, ActionIssuer.verify, Bool.and_eq_true] at haccepts
  have hsign := (eq_sign_of_verifyIntegrity haccepts.2.1).1
  obtain ⟨receipt, hreceipt, hpayload⟩ :=
    hunforged (congrArg ActionCognitiveReceipt.signature hsign)
  obtain ⟨mission, request, now, nonce, hissue⟩ := hissued receipt hreceipt
  have hequal : receipt = presented.receipt := by
    rw [eq_sign_of_issue hissue, hpayload, ← hsign]
  exact ⟨mission, request, now, nonce, hequal ▸ hissue⟩

theorem of_issue {mission : MissionCognitiveReceipt} {request : ActionRequest} {now : ℚ}
    {nonce : String} {receipt : ActionCognitiveReceipt}
    (h : issuer.issue mission request now nonce = .ok receipt) :
    issuer.missionVerifies mission = true ∧ receipt.missionId = mission.missionId ∧
      receipt.stateHash = mission.stateHash ∧ receipt.generation = mission.generation ∧
      receipt.actionDigest = request.actionDigest ∧ receipt.expiresAt = now + issuer.ttl := by
  rw [ActionIssuer.issue] at h
  split at h
  case h_1 => cases h
  case h_2 hfailure =>
    rw [ActionIssuer.issueFailure, firstFailure_eq_none_iff] at hfailure
    simp only [List.cons_append, List.mem_cons, List.mem_append, List.not_mem_nil, or_false,
      Bool.not_eq_false', or_imp, forall_and, forall_eq,
      decide_eq_false_iff_not, not_not] at hfailure
    rw [← Except.ok.inj h]
    simp [ActionIssuer.sign, hfailure]

/-- While no signature is forged, an executor is only ever invoked for a receipt that was
issued, before its time is up, and in the mission, generation and state of a mission receipt
that verified. -/
theorem invoked_issued (steps : List (GateStep K))
    (hsteps : Admissible (Gate.step issuer) (Unforged issuer) empty steps)
    (presented : Presented)
    (hpresented : presented ∈ (run (Gate.step issuer) empty steps).invoked) :
    ∃ mission request now nonce,
      issuer.issue mission request now nonce = .ok presented.receipt ∧
      issuer.missionVerifies mission = true ∧
      presented.context.missionId = mission.missionId ∧
      presented.context.stateHash = mission.stateHash ∧
      presented.context.generation = mission.generation ∧
      presented.context.actionDigest = request.actionDigest ∧
      presented.verifiedAt < now + issuer.ttl := by
  have hrun := run_invariant_of_admissible
    (fun gate : Gate K => (∀ receipt ∈ gate.issued, Issued issuer receipt) ∧
      Sound (fun presented => (presented.receipt.context = presented.context ∧
        presented.verifiedAt < presented.receipt.expiresAt) ∧
          Issued issuer presented.receipt) gate)
    (by
      intro state input hstate hunforged
      refine ⟨issued_step hstate.1 input, hstate.2.step input ?_⟩
      intro call presented hinput haccepts
      rw [hinput] at hunforged
      have hreceipt := issued_of_accepts hstate.1 hunforged haccepts
      simp only [accepts, ActionIssuer.verify, Bool.and_eq_true, decide_eq_true_eq] at haccepts
      have hcontext := context_of_contextFailure haccepts.1
      exact ⟨⟨hcontext, (eq_sign_of_verifyIntegrity haccepts.2.1).2⟩, hreceipt⟩)
    (And.intro (by simp [empty]) sound_empty) hsteps
  obtain ⟨⟨hcontext, htime⟩, mission, request, now, nonce, hissue⟩ :=
    hrun.2.invoked presented hpresented
  have hfields := of_issue hissue
  refine ⟨mission, request, now, nonce, hissue, hfields.1, ?_⟩
  rw [← hcontext, ← hfields.2.2.2.2.2]
  exact ⟨hfields.2.1, hfields.2.2.1, hfields.2.2.2.1, hfields.2.2.2.2.1, htime⟩

def sampleIssuer : ActionIssuer where
  missionVerifies _ := true
  shortHash text := text
  integrityHash payload := payload.receiptId
  hmac text := text
  ttl := 300

def sampleMission : MissionCognitiveReceipt :=
  ⟨"receipt", "mission", "cycle", "ocs", "instance", 1, "brain", none, "intent", "state"⟩

def sampleRequest : ActionRequest :=
  ⟨"plan", "action", "capability", "1", "1", ["scope"], "state", "policy", none⟩

def sample : Presented :=
  let receipt := (sampleIssuer.issue sampleMission sampleRequest 0 "nonce").toOption.get
    (by decide +kernel)
  ⟨receipt, receipt.context, 1⟩

def sampleSteps : List (GateStep Unit) :=
  [.issue sampleMission sampleRequest 0 "nonce", .verify () sample, .consumeOnce ()]

theorem sample_issued :
    sample ∈ (run (Gate.step sampleIssuer) empty sampleSteps).invoked ∧
      ∃ mission request now nonce,
        sampleIssuer.issue mission request now nonce = .ok sample.receipt ∧
        sample.verifiedAt < now + sampleIssuer.ttl := by
  have hinvoked : sample ∈ (run (Gate.step sampleIssuer) empty sampleSteps).invoked := by
    decide +kernel
  have hissued : sample.receipt ∈ (Gate.step sampleIssuer (empty : Gate Unit)
      (.issue sampleMission sampleRequest 0 "nonce")).issued := by
    decide +kernel
  obtain ⟨mission, request, now, nonce, hissue, _, _, _, _, _, htime⟩ :=
    invoked_issued sampleSteps
      ⟨trivial, fun _ => ⟨sample.receipt, hissued, rfl⟩, trivial, trivial⟩ sample hinvoked
  exact ⟨hinvoked, mission, request, now, nonce, hissue, htime⟩

end Gate

end ReisOs.CognitiveValidation.ActionReceipts
