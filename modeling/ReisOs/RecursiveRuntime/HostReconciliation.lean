import ReisOs.Core.Checks
import ReisOs.Core.Runs
import Mathlib.Data.Rat.Defs
import Mathlib.Logic.Function.Basic

/-!
# The bridge to an approved host

`ApprovedHostExecutorBridge`: a command is prepared from the fields of an effect, the host
executes it, and its result is reconciled with the command.  Results are kept under the id
of their command and looked up by the id of the request.
-/

namespace ReisOs.RecursiveRuntime.HostBridge

open ReisOs.Core

structure HostExecutionCommand where
  commandId : String
  requestId : String
  provider : String
  target : String
  capability : String
  payloadRef : String
  founderApprovalRef : String
  leaseId : String
  expiresAtUnix : ℚ
  maxEffects : ℤ
  zeroSpendAttestationRef : String
  fingerprint : String
  deriving DecidableEq, Repr

structure HostExecutionResult where
  commandId : String
  requestId : String
  provider : String
  resultRef : String
  status : String
  executedAtUnix : ℚ
  externalReceiptRef : String
  deriving DecidableEq, Repr

/-- What `ApprovedHostExecutorBridge` is built with; `digest` is the hash of the JSON
object with the given fields. -/
structure Configuration where
  digest : List (String × String) → String
  founderApprovalRef : String
  allowedProviders : List String
  allowedTargetPrefixes : List String
  allowedCapabilities : List String

structure Bridge where
  commands : String → Option HostExecutionCommand
  /-- The values of `_results`, in the order of the dictionary. -/
  results : List HostExecutionResult

def Bridge.empty : Bridge := ⟨fun _ => none, []⟩

/-- The arguments of `prepare`. -/
structure Preparation where
  requestId : String
  provider : String
  target : String
  capability : String
  payloadRef : String
  leaseId : String
  expiresAtUnix : ℚ
  maxEffects : ℤ
  deriving DecidableEq, Repr

namespace Configuration

variable (config : Configuration)

def fingerprint (requestId provider target capability payloadRef founderApprovalRef
    leaseId : String) : String :=
  config.digest
    [("request_id", requestId), ("provider", provider), ("target", target),
      ("capability", capability), ("payload_ref", payloadRef),
      ("founder_approval_ref", founderApprovalRef), ("lease_id", leaseId)]

/-- The command of a preparation whose cost has been attested. -/
def commandOf (preparation : Preparation) (costRef : String) : HostExecutionCommand :=
  let fp := config.fingerprint preparation.requestId preparation.provider preparation.target
    preparation.capability preparation.payloadRef config.founderApprovalRef
    preparation.leaseId
  { commandId := "hostcmd:" ++ String.ofList (fp.toList.take 24)
    requestId := preparation.requestId
    provider := preparation.provider
    target := preparation.target
    capability := preparation.capability
    payloadRef := preparation.payloadRef
    founderApprovalRef := config.founderApprovalRef
    leaseId := preparation.leaseId
    expiresAtUnix := preparation.expiresAtUnix
    maxEffects := preparation.maxEffects
    zeroSpendAttestationRef := costRef
    fingerprint := fp }

/-- The checks of `prepare` before the cost is verified. -/
def preparationFailure (preparation : Preparation) (now : ℚ) : Option String :=
  firstFailure
    [(config.founderApprovalRef = "", "FOUNDER_APPROVAL_REQUIRED"),
      (preparation.provider ∉ config.allowedProviders, "HOST_PROVIDER_NOT_ALLOWED"),
      (preparation.capability ∉ config.allowedCapabilities, "HOST_CAPABILITY_NOT_ALLOWED"),
      (!config.allowedTargetPrefixes.any (fun allowed =>
          allowed.toList.isPrefixOf preparation.target.toList), "HOST_TARGET_NOT_ALLOWED"),
      (preparation.expiresAtUnix ≤ now, "HOST_LEASE_EXPIRED"),
      (preparation.maxEffects ≠ 1, "HOST_CANARY_REQUIRES_SINGLE_EFFECT_LEASE")]

/-- `prepare`, with the clock value and the answer of the zero-spend verifier. -/
def prepare (bridge : Bridge) (preparation : Preparation) (now : ℚ)
    (zeroSpend : Except String String) : Bridge × Except String HostExecutionCommand :=
  match config.preparationFailure preparation now, zeroSpend with
  | some failure, _ => (bridge, .error failure)
  | none, .error fault => (bridge, .error fault)
  | none, .ok costRef =>
    if costRef = "" then (bridge, .error "HOST_ZERO_SPEND_NOT_VERIFIED")
    else
      let command := config.commandOf preparation costRef
      match bridge.commands command.commandId with
      | some existing =>
        if existing ≠ command then (bridge, .error "HOST_COMMAND_CONFLICT")
        else (bridge, .ok command)
      | none =>
        ({ bridge with
          commands := Function.update bridge.commands command.commandId (some command) },
          .ok command)

/-- The checks of `reconcile`. -/
def reconciliationFailure (bridge : Bridge) (command : HostExecutionCommand)
    (resultRef externalReceiptRef status : String) : Option String :=
  firstFailure
    [(bridge.commands command.commandId ≠ some command, "HOST_COMMAND_NOT_PREPARED"),
      (command.fingerprint ≠ config.fingerprint command.requestId command.provider
          command.target command.capability command.payloadRef command.founderApprovalRef
          command.leaseId, "HOST_COMMAND_FINGERPRINT_MISMATCH"),
      (status ≠ "COMMITTED", "HOST_EFFECT_NOT_COMMITTED"),
      (resultRef = "" || externalReceiptRef = "", "HOST_RESULT_EVIDENCE_REQUIRED")]

end Configuration

def Bridge.resultOf (bridge : Bridge) (commandId : String) : Option HostExecutionResult :=
  bridge.results.find? (·.commandId = commandId)

def Bridge.resultForRequest (bridge : Bridge) (requestId : String) :
    Option HostExecutionResult :=
  bridge.results.find? (·.requestId = requestId)

def HostExecutionCommand.result (command : HostExecutionCommand)
    (resultRef externalReceiptRef status : String) (now : ℚ) : HostExecutionResult :=
  { commandId := command.commandId
    requestId := command.requestId
    provider := command.provider
    resultRef := resultRef
    status := status
    executedAtUnix := now
    externalReceiptRef := externalReceiptRef }

/-- `reconcile`, with the clock value. -/
def Configuration.reconcile (config : Configuration) (bridge : Bridge)
    (command : HostExecutionCommand) (resultRef externalReceiptRef status : String)
    (now : ℚ) : Bridge × Except String HostExecutionResult :=
  match config.reconciliationFailure bridge command resultRef externalReceiptRef status with
  | some failure => (bridge, .error failure)
  | none =>
    let result := command.result resultRef externalReceiptRef status now
    match bridge.resultOf command.commandId with
    | some existing =>
      if existing ≠ result then (bridge, .error "HOST_RESULT_CONFLICT")
      else (bridge, .ok existing)
    | none => ({ bridge with results := bridge.results ++ [result] }, .ok result)

inductive BridgeCall where
  | prepare (preparation : Preparation) (now : ℚ) (zeroSpend : Except String String)
  | reconcile (command : HostExecutionCommand)
      (resultRef externalReceiptRef status : String) (now : ℚ)

def bridgeStep (config : Configuration) (bridge : Bridge) : BridgeCall → Bridge
  | .prepare preparation now zeroSpend => (config.prepare bridge preparation now zeroSpend).1
  | .reconcile command resultRef externalReceiptRef status now =>
    (config.reconcile bridge command resultRef externalReceiptRef status now).1

/-!
## Results of the host bridge

A result is compared with the one that is kept as a whole, the clock value included, and
two commands may be prepared for one request.  The runs are singled out in which neither
matters.
-/

variable {config : Configuration} {bridge : Bridge}

/-! ## The properties -/

/-- Results belong to prepared commands, one to each request. -/
structure Coherent (bridge : Bridge) : Prop where
  single : ∀ result ∈ bridge.results, ∀ other ∈ bridge.results,
    result.commandId = other.commandId → result = other
  prepared : ∀ result ∈ bridge.results, ∃ command,
    bridge.commands result.commandId = some command ∧
      command.commandId = result.commandId ∧ command.requestId = result.requestId ∧
      command.provider = result.provider
  requested : ∀ result ∈ bridge.results, ∀ other ∈ bridge.results,
    result.requestId = other.requestId → result = other
  answered : ∀ result ∈ bridge.results,
    bridge.resultForRequest result.requestId = some result

/-- What a call has to do with the results that are kept before it. -/
structure Reconciled (config : Configuration) (bridge : Bridge) (call : BridgeCall) : Prop where
  repeated : ∀ (command : HostExecutionCommand) (original : HostExecutionResult) (now : ℚ),
    call = .reconcile command original.resultRef original.externalReceiptRef
      original.status now →
    bridge.commands command.commandId = some command → original ∈ bridge.results →
    original.commandId = command.commandId →
    (config.reconcile bridge command original.resultRef original.externalReceiptRef
      original.status now).2 = .ok original
  refused : ∀ (command : HostExecutionCommand)
    (resultRef externalReceiptRef status : String) (now : ℚ) (original : HostExecutionResult),
    call = .reconcile command resultRef externalReceiptRef status now →
    original ∈ bridge.results → original.commandId = command.commandId →
    ¬ (resultRef = original.resultRef ∧ externalReceiptRef = original.externalReceiptRef ∧
      status = original.status) →
    ∃ error, (config.reconcile bridge command resultRef externalReceiptRef status now).2 =
      .error error
  kept : ∀ original ∈ bridge.results, original ∈ (bridgeStep config bridge call).results

/-- The clock has not moved when a result is reconciled again, and a request gets results
for one of its commands only. -/
def Settling (config : Configuration) (bridge : Bridge) : BridgeCall → Prop
  | .prepare _ _ _ => True
  | .reconcile command resultRef externalReceiptRef status now =>
    config.reconciliationFailure bridge command resultRef externalReceiptRef status = none →
      match bridge.resultOf command.commandId with
      | some existing => existing.resultRef = resultRef →
          existing.externalReceiptRef = externalReceiptRef → existing.executedAtUnix = now
      | none => ∀ result ∈ bridge.results, result.requestId ≠ command.requestId

/-! ## Reachable bridges -/

/-- What holds of every bridge but for the results of one request. -/
structure WellKept (config : Configuration) (bridge : Bridge) : Prop where
  keyed : ∀ commandId command, bridge.commands commandId = some command →
    command.commandId = commandId
  marked : ∀ commandId command, bridge.commands commandId = some command →
    command.fingerprint = config.fingerprint command.requestId command.provider
      command.target command.capability command.payloadRef command.founderApprovalRef
      command.leaseId
  evident : ∀ result ∈ bridge.results,
    result.status = "COMMITTED" ∧ result.resultRef ≠ "" ∧ result.externalReceiptRef ≠ ""
  coherent : Coherent bridge

theorem empty_wellKept (config : Configuration) : WellKept config Bridge.empty where
  keyed := fun _ _ h => by cases h
  marked := fun _ _ h => by cases h
  evident := fun _ h => by cases h
  coherent :=
    { single := fun _ h => by cases h
      prepared := fun _ h => by cases h
      requested := fun _ h => by cases h
      answered := fun _ h => by cases h }

theorem prepare_cases (config : Configuration) (bridge : Bridge) (preparation : Preparation)
    (now : ℚ) (zeroSpend : Except String String) :
    (config.prepare bridge preparation now zeroSpend).1 = bridge ∨
      ∃ costRef, bridge.commands (config.commandOf preparation costRef).commandId = none ∧
        (config.prepare bridge preparation now zeroSpend).1 =
          { bridge with
            commands := Function.update bridge.commands
              (config.commandOf preparation costRef).commandId
              (some (config.commandOf preparation costRef)) } := by
  unfold Configuration.prepare
  cases config.preparationFailure preparation now with
  | some failure => exact Or.inl rfl
  | none =>
    cases zeroSpend with
    | error fault => exact Or.inl rfl
    | ok costRef =>
      dsimp only
      split
      · exact Or.inl rfl
      · cases hknown : bridge.commands (config.commandOf preparation costRef).commandId with
        | some existing =>
          dsimp only
          split
          · exact Or.inl rfl
          · exact Or.inl rfl
        | none => exact Or.inr ⟨costRef, hknown, rfl⟩

theorem Coherent.withCommand (h : Coherent bridge) {command : HostExecutionCommand}
    (hnew : bridge.commands command.commandId = none) :
    Coherent { bridge with
      commands := Function.update bridge.commands command.commandId (some command) } where
  single := h.single
  requested := h.requested
  answered := h.answered
  prepared := by
    intro result hmem
    have hprepared := h.prepared result hmem
    rcases hprepared with ⟨known, hknown, hfields⟩
    have hother : result.commandId ≠ command.commandId := by
      intro hsame
      rw [hsame, hnew] at hknown
      cases hknown
    refine ⟨known, ?_, hfields⟩
    exact (Function.update_of_ne hother _ _).trans hknown

theorem WellKept.prepare (h : WellKept config bridge) (preparation : Preparation) (now : ℚ)
    (zeroSpend : Except String String) :
    WellKept config (config.prepare bridge preparation now zeroSpend).1 := by
  rcases prepare_cases config bridge preparation now zeroSpend with heq | ⟨costRef, hnew, heq⟩
  · rw [heq]
    exact h
  · rw [heq]
    exact
      { keyed := by
          intro commandId command hcommand
          dsimp only at hcommand
          by_cases hsame : commandId = (config.commandOf preparation costRef).commandId
          · rw [hsame, Function.update_self] at hcommand
            cases hcommand
            exact hsame.symm
          · rw [Function.update_of_ne hsame] at hcommand
            exact h.keyed commandId command hcommand
        marked := by
          intro commandId command hcommand
          dsimp only at hcommand
          by_cases hsame : commandId = (config.commandOf preparation costRef).commandId
          · rw [hsame, Function.update_self] at hcommand
            cases hcommand
            rfl
          · rw [Function.update_of_ne hsame] at hcommand
            exact h.marked commandId command hcommand
        evident := h.evident
        coherent := h.coherent.withCommand hnew }

/-! ## One reconciliation -/

section Reconcile

variable {command : HostExecutionCommand} {resultRef externalReceiptRef status : String}
  {now : ℚ}

theorem resultOf_eq_some_iff (h : Coherent bridge) {result : HostExecutionResult}
    {commandId : String} :
    bridge.resultOf commandId = some result ↔
      result ∈ bridge.results ∧ result.commandId = commandId := by
  constructor
  · intro hfound
    rw [Bridge.resultOf] at hfound
    have hid := List.find?_some hfound
    rw [decide_eq_true_eq] at hid
    exact ⟨List.mem_of_find?_eq_some hfound, hid⟩
  · intro hresult
    cases hfound : bridge.resultOf commandId with
    | none =>
      rw [Bridge.resultOf, List.find?_eq_none] at hfound
      exact absurd (decide_eq_true hresult.2) (hfound result hresult.1)
    | some found =>
      have hid : found.commandId = commandId := by
        have hvalue := List.find?_some hfound
        rwa [decide_eq_true_eq] at hvalue
      have hsame := h.single found (List.mem_of_find?_eq_some hfound) result hresult.1
        (hid.trans hresult.2.symm)
      rw [hsame]

theorem resultOf_eq_none_iff {commandId : String} :
    bridge.resultOf commandId = none ↔
      ∀ result ∈ bridge.results, result.commandId ≠ commandId := by
  simp [Bridge.resultOf, List.find?_eq_none]

theorem reconcile_of_failure {failure : String}
    (h : config.reconciliationFailure bridge command resultRef externalReceiptRef status =
      some failure) :
    config.reconcile bridge command resultRef externalReceiptRef status now =
      (bridge, .error failure) := by
  rw [Configuration.reconcile, h]

theorem reconcile_of_existing {existing : HostExecutionResult}
    (h : config.reconciliationFailure bridge command resultRef externalReceiptRef status = none)
    (hexisting : bridge.resultOf command.commandId = some existing) :
    config.reconcile bridge command resultRef externalReceiptRef status now =
      (bridge, if existing ≠ command.result resultRef externalReceiptRef status now then
          .error "HOST_RESULT_CONFLICT" else .ok existing) := by
  rw [Configuration.reconcile, h]
  dsimp only
  rw [hexisting]
  dsimp only
  split <;> rfl

theorem reconcile_of_new
    (h : config.reconciliationFailure bridge command resultRef externalReceiptRef status = none)
    (hnew : bridge.resultOf command.commandId = none) :
    config.reconcile bridge command resultRef externalReceiptRef status now =
      ({ bridge with
        results := bridge.results ++ [command.result resultRef externalReceiptRef status now] },
        .ok (command.result resultRef externalReceiptRef status now)) := by
  rw [Configuration.reconcile, h]
  dsimp only
  rw [hnew]

theorem checked_of_passes
    (h : config.reconciliationFailure bridge command resultRef externalReceiptRef status = none) :
    bridge.commands command.commandId = some command ∧ status = "COMMITTED" ∧
      resultRef ≠ "" ∧ externalReceiptRef ≠ "" := by
  rw [Configuration.reconciliationFailure, firstFailure_eq_none_iff] at h
  simp only [List.forall_mem_cons, decide_eq_false_iff_not, not_not, Bool.or_eq_false_iff] at h
  exact ⟨h.1, h.2.2.1, h.2.2.2.1⟩

theorem passes_of_prepared (h : WellKept config bridge)
    (hprepared : bridge.commands command.commandId = some command)
    (hevident : status = "COMMITTED" ∧ resultRef ≠ "" ∧ externalReceiptRef ≠ "") :
    config.reconciliationFailure bridge command resultRef externalReceiptRef status = none := by
  have hmarked := h.marked command.commandId command hprepared
  rw [Configuration.reconciliationFailure, firstFailure_eq_none_iff]
  simp [hprepared, hevident, ← hmarked]

theorem existing_eq_result_iff (h : WellKept config bridge) {existing : HostExecutionResult}
    (hpasses : config.reconciliationFailure bridge command resultRef externalReceiptRef status =
      none)
    (hexisting : bridge.resultOf command.commandId = some existing) :
    existing = command.result resultRef externalReceiptRef status now ↔
      existing.resultRef = resultRef ∧ existing.externalReceiptRef = externalReceiptRef ∧
        existing.executedAtUnix = now := by
  have hfound := (resultOf_eq_some_iff h.coherent).mp hexisting
  have hchecked := checked_of_passes hpasses
  rcases h.coherent.prepared existing hfound.1 with ⟨known, hknown, hfields⟩
  rw [hfound.2, hchecked.1] at hknown
  cases hknown
  have hstatus := (h.evident existing hfound.1).1.trans hchecked.2.1.symm
  constructor
  · intro hsame
    rw [hsame]
    exact ⟨rfl, rfl, rfl⟩
  · intro hsame
    rw [HostExecutionCommand.result, hfields.1, hfields.2.1, hfields.2.2, ← hstatus,
      ← hsame.1, ← hsame.2.1, ← hsame.2.2]

end Reconcile

/-! ## Calls -/

theorem results_kept (config : Configuration) (bridge : Bridge) (call : BridgeCall) :
    ∀ original ∈ bridge.results, original ∈ (bridgeStep config bridge call).results := by
  intro original hmem
  cases call with
  | prepare preparation now zeroSpend =>
    rw [bridgeStep]
    rcases prepare_cases config bridge preparation now zeroSpend with heq | ⟨_, _, heq⟩
    · rw [heq]
      exact hmem
    · rw [heq]
      exact hmem
  | reconcile command resultRef externalReceiptRef status now =>
    rw [bridgeStep]
    cases hchecks :
        config.reconciliationFailure bridge command resultRef externalReceiptRef status with
    | some failure =>
      rw [reconcile_of_failure hchecks]
      exact hmem
    | none =>
      cases hexisting : bridge.resultOf command.commandId with
      | some existing =>
        rw [reconcile_of_existing hchecks hexisting]
        exact hmem
      | none =>
        rw [reconcile_of_new hchecks hexisting]
        exact List.mem_append_left _ hmem

section NewResult

variable {command : HostExecutionCommand} {resultRef externalReceiptRef status : String}
  {now : ℚ}

/-- A result for a command without one, whose request has none either. -/
theorem Coherent.withResult (h : Coherent bridge) {result : HostExecutionResult}
    (hcommand : ∃ command, bridge.commands result.commandId = some command ∧
      command.commandId = result.commandId ∧ command.requestId = result.requestId ∧
      command.provider = result.provider)
    (hid : ∀ other ∈ bridge.results, other.commandId ≠ result.commandId)
    (hrequest : ∀ other ∈ bridge.results, other.requestId ≠ result.requestId) :
    Coherent { bridge with results := bridge.results ++ [result] } where
  single := by
    intro one hone other hother hsame
    rw [List.mem_append, List.mem_singleton] at hone hother
    rcases hone with hone | rfl
    · rcases hother with hother | rfl
      · exact h.single one hone other hother hsame
      · exact absurd hsame (hid one hone)
    · rcases hother with hother | rfl
      · exact absurd hsame.symm (hid other hother)
      · rfl
  requested := by
    intro one hone other hother hsame
    rw [List.mem_append, List.mem_singleton] at hone hother
    rcases hone with hone | rfl
    · rcases hother with hother | rfl
      · exact h.requested one hone other hother hsame
      · exact absurd hsame (hrequest one hone)
    · rcases hother with hother | rfl
      · exact absurd hsame.symm (hrequest other hother)
      · rfl
  prepared := by
    intro one hone
    rw [List.mem_append, List.mem_singleton] at hone
    rcases hone with hone | rfl
    · exact h.prepared one hone
    · exact hcommand
  answered := by
    intro one hone
    rw [List.mem_append, List.mem_singleton] at hone
    rw [Bridge.resultForRequest, List.find?_append]
    rcases hone with hone | rfl
    · have hfound := h.answered one hone
      rw [Bridge.resultForRequest] at hfound
      rw [hfound]
      rfl
    · have hnone : bridge.results.find? (·.requestId = one.requestId) = none := by
        rw [List.find?_eq_none]
        intro other hother
        simpa using hrequest other hother
      rw [hnone]
      simp

theorem WellKept.newResult (h : WellKept config bridge)
    (hpasses : config.reconciliationFailure bridge command resultRef externalReceiptRef status =
      none)
    (hnew : bridge.resultOf command.commandId = none)
    (hrequest : ∀ result ∈ bridge.results, result.requestId ≠ command.requestId) :
    WellKept config { bridge with
      results :=
        bridge.results ++ [command.result resultRef externalReceiptRef status now] } where
  keyed := h.keyed
  marked := h.marked
  evident := by
    intro one hone
    rw [List.mem_append, List.mem_singleton] at hone
    rcases hone with hone | rfl
    · exact h.evident one hone
    · exact (checked_of_passes hpasses).2
  coherent :=
    h.coherent.withResult ⟨command, (checked_of_passes hpasses).1, rfl, rfl, rfl⟩
      (resultOf_eq_none_iff.mp hnew) hrequest

end NewResult

theorem WellKept.step (h : WellKept config bridge) {call : BridgeCall}
    (hcall : Settling config bridge call) : WellKept config (bridgeStep config bridge call) := by
  cases call with
  | prepare preparation now zeroSpend => exact h.prepare preparation now zeroSpend
  | reconcile command resultRef externalReceiptRef status now =>
    rw [bridgeStep]
    cases hchecks :
        config.reconciliationFailure bridge command resultRef externalReceiptRef status with
    | some failure =>
      rw [reconcile_of_failure hchecks]
      exact h
    | none =>
      cases hexisting : bridge.resultOf command.commandId with
      | some existing =>
        rw [reconcile_of_existing hchecks hexisting]
        exact h
      | none =>
        have hrequest := hcall hchecks
        rw [hexisting] at hrequest
        rw [reconcile_of_new hchecks hexisting]
        exact h.newResult hchecks hexisting hrequest

theorem WellKept.reconciled (h : WellKept config bridge) {call : BridgeCall}
    (hcall : Settling config bridge call) : Reconciled config bridge call where
  kept := results_kept config bridge call
  repeated := by
    rintro command original now rfl hprepared hmem hid
    have hexisting := (resultOf_eq_some_iff h.coherent).mpr ⟨hmem, hid⟩
    have hpasses := passes_of_prepared h hprepared (h.evident original hmem)
    have hclock := hcall hpasses
    rw [hexisting] at hclock
    rw [reconcile_of_existing hpasses hexisting]
    have hsame := (existing_eq_result_iff h hpasses hexisting).mpr
      ⟨rfl, rfl, hclock rfl rfl⟩
    exact if_neg (not_not.mpr hsame)
  refused := by
    rintro command resultRef externalReceiptRef status now original rfl hmem hid hdiffers
    have hexisting := (resultOf_eq_some_iff h.coherent).mpr ⟨hmem, hid⟩
    cases hchecks :
        config.reconciliationFailure bridge command resultRef externalReceiptRef status with
    | some failure => exact ⟨failure, by rw [reconcile_of_failure hchecks]⟩
    | none =>
      refine ⟨"HOST_RESULT_CONFLICT", ?_⟩
      rw [reconcile_of_existing hchecks hexisting]
      apply if_pos
      intro hsame
      have hparts := (existing_eq_result_iff h hchecks hexisting).mp hsame
      have hstatus := (h.evident original hmem).1.trans
        (checked_of_passes hchecks).2.1.symm
      exact hdiffers ⟨hparts.1.symm, hparts.2.1.symm, hstatus.symm⟩

/-- A call that does what it should, and leaves coherent results, has met the condition. -/
theorem WellKept.settling (h : WellKept config bridge) {call : BridgeCall}
    (hcall : Reconciled config bridge call)
    (hafter : Coherent (bridgeStep config bridge call)) : Settling config bridge call := by
  cases call with
  | prepare preparation now zeroSpend => trivial
  | reconcile command resultRef externalReceiptRef status now =>
    intro hpasses
    cases hexisting : bridge.resultOf command.commandId with
    | some existing =>
      intro hresult hreceipt
      have hfound := (resultOf_eq_some_iff h.coherent).mp hexisting
      have hchecked := checked_of_passes hpasses
      have hstatus := hchecked.2.1.trans (h.evident existing hfound.1).1.symm
      rw [← hresult, ← hreceipt, hstatus] at hcall hpasses
      have hanswer := hcall.repeated command existing now rfl hchecked.1 hfound.1 hfound.2
      rw [reconcile_of_existing hpasses hexisting] at hanswer
      by_cases hsame : existing = command.result existing.resultRef
          existing.externalReceiptRef existing.status now
      · exact ((existing_eq_result_iff h hpasses hexisting).mp hsame).2.2
      · rw [if_pos hsame] at hanswer
        cases hanswer
    | none =>
      intro result hmem hsame
      rw [bridgeStep, reconcile_of_new hpasses hexisting] at hafter
      have heq := hafter.requested result (List.mem_append_left _ hmem)
        (command.result resultRef externalReceiptRef status now)
        (List.mem_append_right _ (List.mem_singleton.mpr rfl)) hsame
      exact (resultOf_eq_none_iff.mp hexisting) result hmem (by rw [heq]; rfl)

/-! ## Runs -/

/-- The results reconcile along a run just if no result is reconciled again at another
clock value and no request gets results for two commands. -/
theorem results_reconcile_iff (config : Configuration) (calls : List BridgeCall) :
    (∀ before call, before ++ [call] <+: calls →
      Reconciled config (run (bridgeStep config) Bridge.empty before) call ∧
        Coherent (run (bridgeStep config) Bridge.empty (before ++ [call]))) ↔
      Admissible (bridgeStep config) (Settling config) Bridge.empty calls := by
  have hgood (state : Bridge) (call : BridgeCall) (hstate : WellKept config state) :
      (Reconciled config state call ∧ Coherent (bridgeStep config state call)) ↔
        Settling config state call :=
    ⟨fun h => hstate.settling h.1 h.2,
      fun h => ⟨hstate.reconciled h, (hstate.step h).coherent⟩⟩
  rw [← admissible_congr (WellKept config) (fun _ _ hstate hcall => hstate.step hcall) hgood
    (empty_wellKept config), admissible_iff_forall]
  simp only [run_append, run_cons, run_nil]

/-! ## A retry at a later time, and two commands for one request -/

def sampleConfiguration : Configuration where
  digest := fun fields => String.join (fields.reverse.map (·.2))
  founderApprovalRef := "APPROVAL"
  allowedProviders := ["GITHUB"]
  allowedTargetPrefixes := ["github:"]
  allowedCapabilities := ["WRITE"]

def samplePreparation (leaseId : String) : Preparation :=
  ⟨"r1", "GITHUB", "github:repository", "WRITE", "file", leaseId, 10, 1⟩

def sampleCommand (leaseId : String) : HostExecutionCommand :=
  sampleConfiguration.commandOf (samplePreparation leaseId) "ZERO"

/-- The host's result for the command of a lease, reconciled at a clock value. -/
def reconcileAt (leaseId resultRef : String) (now : ℚ) : BridgeCall :=
  .reconcile (sampleCommand leaseId) resultRef "receipt" "COMMITTED" now

def reconciledCalls : List BridgeCall :=
  [.prepare (samplePreparation "L1") 0 (.ok "ZERO"),
    .prepare (samplePreparation "L2") 0 (.ok "ZERO"), reconcileAt "L1" "commit" 1]

def committedResult (leaseId resultRef : String) (now : ℚ) : HostExecutionResult :=
  (sampleCommand leaseId).result resultRef "receipt" "COMMITTED" now

theorem reconcileAt_eq (leaseId resultRef : String) (first now : ℚ) :
    reconcileAt leaseId resultRef now =
      .reconcile (sampleCommand leaseId) (committedResult leaseId resultRef first).resultRef
        (committedResult leaseId resultRef first).externalReceiptRef
        (committedResult leaseId resultRef first).status now := rfl

theorem committedResult_commandId (leaseId resultRef : String) (now : ℚ) :
    (committedResult leaseId resultRef now).commandId = (sampleCommand leaseId).commandId :=
  rfl

theorem committedResult_requestId (leaseId resultRef : String) (now : ℚ) :
    (committedResult leaseId resultRef now).requestId = "r1" := rfl

theorem results_not_reconciled :
    (¬ ∀ before call, before ++ [call] <+: reconciledCalls ++ [reconcileAt "L1" "commit" 2] →
      Reconciled sampleConfiguration
          (run (bridgeStep sampleConfiguration) Bridge.empty before) call ∧
        Coherent (run (bridgeStep sampleConfiguration) Bridge.empty (before ++ [call]))) ∧
      ¬ ∀ before call, before ++ [call] <+: reconciledCalls ++ [reconcileAt "L2" "other" 2] →
        Reconciled sampleConfiguration
            (run (bridgeStep sampleConfiguration) Bridge.empty before) call ∧
          Coherent (run (bridgeStep sampleConfiguration) Bridge.empty (before ++ [call])) := by
  constructor
  · intro h
    have hlast := (h reconciledCalls (reconcileAt "L1" "commit" 2) (List.prefix_refl _)).1
    have hprepared : (run (bridgeStep sampleConfiguration) Bridge.empty
        reconciledCalls).commands (sampleCommand "L1").commandId =
          some (sampleCommand "L1") := by decide +kernel
    have hkept : committedResult "L1" "commit" 1 ∈
        (run (bridgeStep sampleConfiguration) Bridge.empty reconciledCalls).results := by
      decide +kernel
    have hanswer := hlast.repeated (sampleCommand "L1") (committedResult "L1" "commit" 1) 2
      (reconcileAt_eq "L1" "commit" 1 2) hprepared hkept (committedResult_commandId "L1" _ _)
    exact absurd hanswer (by decide +kernel)
  · intro h
    have hlast := (h reconciledCalls (reconcileAt "L2" "other" 2) (List.prefix_refl _)).2
    have hfirst : committedResult "L1" "commit" 1 ∈
        (run (bridgeStep sampleConfiguration) Bridge.empty
          (reconciledCalls ++ [reconcileAt "L2" "other" 2])).results := by decide +kernel
    have hsecond : committedResult "L2" "other" 2 ∈
        (run (bridgeStep sampleConfiguration) Bridge.empty
          (reconciledCalls ++ [reconcileAt "L2" "other" 2])).results := by decide +kernel
    have hsame := hlast.requested _ hfirst _ hsecond
      ((committedResult_requestId _ _ _).trans (committedResult_requestId _ _ _).symm)
    have hdiffers : committedResult "L1" "commit" 1 ≠ committedResult "L2" "other" 2 := by
      decide +kernel
    exact hdiffers hsame

end ReisOs.RecursiveRuntime.HostBridge
