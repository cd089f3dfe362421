import ReisOs.RecursiveRuntime.LeaseLimits

/-!
# The authority gateway

`AuthorityGateway.authorize` turns an authorization of the orchestrator into a request,
a lease for one effect and a policy, and `ProductionEffectGateway` validates all three again.
What it asks for is what has been prepared, except that the lease must be unused.
-/

namespace ReisOs.RecursiveRuntime

open ReisOs.Core DurableJournal

structure OrchestratorEffectAuthorization where
  authorizationId : String
  missionId : String
  orchestratorRunId : String
  missionStage : String
  actorId : String
  canonicalIdentity : String
  authorityRef : String
  missionBinding : String
  delegationRef : String
  target : String
  capability : String
  payloadRef : String
  founderApprovalRef : String
  generation : ℤ
  fencingEpoch : ℤ
  requestId : String
  evidenceParent : String
  issuedAtUnix : ℤ
  expiresAtUnix : ℤ
  estimatedIncrementalCostUsd : ℤ
  requiresPaidUpgrade : Bool
  deriving DecidableEq, Repr

structure PreparedEffect where
  request : EffectRequest
  lease : ActivationLease
  policy : ProductionAuthorizationPolicy
  deriving DecidableEq

/-! ## The bridge -/

structure OrchestratorEffectBridge where
  expectedMissionId : String
  expectedRunId : String
  expectedStage : String
  allowedIdentity : String
  allowedTarget : String
  allowedCapability : String
  founderApprovalRef : String

namespace OrchestratorEffectBridge

variable (bridge : OrchestratorEffectBridge) (auth : OrchestratorEffectAuthorization)

/-- `_validate` at a time of the clock. -/
def validate (now : ℤ) : Except Fault Unit :=
  refuse
    [(auth.authorizationId = "" ∨ auth.requestId = "" ∨ auth.evidenceParent = "",
      "AUTHORITY_PROOF_INCOMPLETE"),
     (auth.missionId ≠ bridge.expectedMissionId, "MISSION_MISMATCH"),
     (auth.orchestratorRunId ≠ bridge.expectedRunId, "ORCHESTRATOR_RUN_MISMATCH"),
     (auth.missionStage ≠ bridge.expectedStage, "MISSION_STAGE_MISMATCH"),
     (auth.canonicalIdentity ≠ bridge.allowedIdentity, "IDENTITY_MISMATCH"),
     (auth.target ≠ bridge.allowedTarget, "TARGET_MISMATCH"),
     (auth.capability ≠ bridge.allowedCapability, "CAPABILITY_MISMATCH"),
     (auth.founderApprovalRef ≠ bridge.founderApprovalRef ∨ auth.founderApprovalRef = "",
      "FOUNDER_APPROVAL_MISMATCH"),
     (auth.authorityRef = "" ∨ auth.missionBinding = "" ∨ auth.delegationRef = "",
      "AUTHORITY_BINDING_INCOMPLETE"),
     (auth.generation ≤ 0 ∨ auth.fencingEpoch ≤ 0, "GENERATION_OR_FENCING_INVALID"),
     (now < auth.issuedAtUnix, "AUTHORITY_NOT_YET_VALID"),
     (auth.expiresAtUnix ≤ now, "AUTHORITY_EXPIRED"),
     (auth.estimatedIncrementalCostUsd ≠ 0, "ZERO_SPEND_POLICY_VIOLATION"),
     (auth.requiresPaidUpgrade, "PAID_UPGRADE_FORBIDDEN")]

def request : EffectRequest where
  requestId := auth.requestId
  actorId := auth.actorId
  target := auth.target
  capability := auth.capability
  payloadRef := auth.payloadRef
  authorityRef := auth.authorityRef
  missionBinding := auth.missionBinding
  generation := auth.generation
  fencingEpoch := auth.fencingEpoch
  estimatedIncrementalCostUsd := auth.estimatedIncrementalCostUsd
  requiresPaidUpgrade := auth.requiresPaidUpgrade

def lease : ActivationLease where
  leaseId := "LEASE:" ++ auth.authorizationId
  environment := "PRODUCTION"
  allowedTargets := {auth.target}
  allowedCapabilities := {auth.capability}
  founderApprovalRef := auth.founderApprovalRef
  active := true
  maxEffects := 1
  expiresAtUnix := auth.expiresAtUnix

def policy : ProductionAuthorizationPolicy where
  policyId := "POLICY:" ++ auth.authorizationId
  allowedOcsIds := {auth.canonicalIdentity}
  allowedTargetPrefixes := [auth.target]
  allowedCapabilities := {auth.capability}
  founderApprovalRef := auth.founderApprovalRef
  zeroUnauthorizedSpend := true
  allowGithubMerge := false
  active := true

def prepare (now : ℤ) : Except Fault PreparedEffect := do
  bridge.validate auth now
  return ⟨request auth, lease auth, policy auth⟩

end OrchestratorEffectBridge

/-! ## The gateway -/

structure AuthorityGatewayPolicy where
  policyId : String
  missionId : String
  orchestratorRunId : String
  missionStage : String
  canonicalIdentity : String
  target : String
  allowedCapabilities : Finset String
  allowedPayloadPaths : Finset String
  founderApprovalRef : String

/-- `AuthorityGateway`, with the checks of its `__init__`. -/
structure AuthorityGateway where
  policy : AuthorityGatewayPolicy
  surface : policy.allowedCapabilities ≠ ∅
  mergeless : "GITHUB_MERGE_PR" ∉ policy.allowedCapabilities

namespace AuthorityGateway

variable (gateway : AuthorityGateway) (auth : OrchestratorEffectAuthorization)

def bridge : OrchestratorEffectBridge where
  expectedMissionId := gateway.policy.missionId
  expectedRunId := gateway.policy.orchestratorRunId
  expectedStage := gateway.policy.missionStage
  allowedIdentity := gateway.policy.canonicalIdentity
  allowedTarget := gateway.policy.target
  allowedCapability := auth.capability
  founderApprovalRef := gateway.policy.founderApprovalRef

def authorize (now : ℤ) : Except Fault PreparedEffect := do
  refuse
    [(auth.capability ∉ gateway.policy.allowedCapabilities, "CAPABILITY_MISMATCH"),
     (auth.payloadRef ∉ gateway.policy.allowedPayloadPaths, "PAYLOAD_SURFACE_MISMATCH")]
  let prepared ← (gateway.bridge auth).prepare auth now
  refuse
    [(prepared.policy.allowGithubMerge, "MERGE_CAPABILITY_FORBIDDEN"),
     (prepared.lease.maxEffects ≠ 1, "UNBOUNDED_EFFECT_FORBIDDEN")]
  return prepared

end AuthorityGateway

/-! ## Statement -/

/-- The decision of the preflight is one for the request, and it costs nothing. -/
structure VerifiedCostDecision.Approves (decision : VerifiedCostDecision)
    (request : EffectRequest) (now : ℤ) : Prop where
  sourced : decision.sourceRef ≠ ""
  requestId : decision.requestId = request.requestId
  target : decision.target = request.target
  capability : decision.capability = request.capability
  current : now < decision.validUntilUnix
  free : decision.incrementalCostUsd = 0
  unpaid : decision.paidUpgradeRequired = false

/-- The journal has no row for the request. -/
structure Unjournaled (requestId : String) (journal : List JournalRecord) : Prop where
  payload : ∀ row ∈ journal, row.field "request_id" ≠ some requestId
  intent : ∀ row ∈ journal, row.journalId ≠ "effect-intent:" ++ requestId

/-- A production gateway with the prepared lease and policy, whose actor, verifier, preflight
and journal are as the authorization supposes. -/
structure Provided (gateway : AuthorityGateway) (prepared : PreparedEffect) (now : ℤ)
    (actor : ActorState) (world : EffectWorld) : Prop where
  adapter : world.2.environment.adapterEnvironment = some "PRODUCTION"
  journalBound : world.2.environment.journalBound = true
  lease : world.2.environment.activationLease = some prepared.lease
  policy : world.2.environment.productionPolicy = some prepared.policy
  clock : world.2.environment.clock = now
  found : world.2.environment.states.get prepared.request.actorId = .ok actor
  current : world.2.environment.states.validateCurrent actor.actorId
    prepared.request.generation prepared.request.fencingEpoch = .ok ()
  authority : actor.authority.authorityRef = prepared.request.authorityRef
  mission : actor.missionBinding = prepared.request.missionBinding
  identity : actor.identityId = gateway.policy.canonicalIdentity
  bound : ∃ binding, world.2.environment.ocsEnforcer.bindingForActor actor = .ok binding
  capability : prepared.request.capability ∈ actor.capability.capabilities
  verified : ∃ verifier, world.2.environment.approvalVerifier = some verifier ∧
    verifier prepared.policy prepared.lease actor prepared.request = .ok true
  free : ∃ preflight decision, world.2.environment.costPreflight = some preflight ∧
    preflight prepared.request = .ok (some decision) ∧ decision.Approves prepared.request now
  unremembered : world.2.memory.receipts prepared.request.requestId = none
  unjournaled : Unjournaled prepared.request.requestId world.1.journal

/-- The authorization is within the policy of the gateway. -/
structure InScope (policy : AuthorityGatewayPolicy) (auth : OrchestratorEffectAuthorization) :
    Prop where
  mission : auth.missionId = policy.missionId
  run : auth.orchestratorRunId = policy.orchestratorRunId
  stage : auth.missionStage = policy.missionStage
  identity : auth.canonicalIdentity = policy.canonicalIdentity
  target : auth.target = policy.target
  capability : auth.capability ∈ policy.allowedCapabilities
  payload : auth.payloadRef ∈ policy.allowedPayloadPaths
  founder : auth.founderApprovalRef = policy.founderApprovalRef

/-- The gateway calls the adapter for what has been authorized, once, under the lease. -/
structure Performed (digest : EffectFingerprint → String)
    (auth : OrchestratorEffectAuthorization) (prepared : PreparedEffect) (world : EffectWorld) :
    Prop where
  called : ((execute digest prepared.request).exec world).1.2.calls =
    world.2.calls ++ [⟨some prepared.lease.leaseId, prepared.request⟩]
  target : prepared.request.target = auth.target
  capability : prepared.request.capability = auth.capability
  payload : prepared.request.payloadRef = auth.payloadRef

/-! ## What is prepared -/

section Authorized

variable {gateway : AuthorityGateway} {auth : OrchestratorEffectAuthorization} {now : ℤ}
  {prepared : PreparedEffect}

theorem OrchestratorEffectBridge.prepare_ok {bridge : OrchestratorEffectBridge}
    (ready : bridge.prepare auth now = .ok prepared) :
    bridge.validate auth now = .ok () ∧ prepared = ⟨request auth, lease auth, policy auth⟩ := by
  rw [prepare] at ready
  cases validated : bridge.validate auth now with
  | error fault =>
    rw [validated] at ready
    contradiction
  | ok value =>
    rw [validated] at ready
    exact ⟨rfl, (Except.ok.inj ready).symm⟩

theorem AuthorityGateway.authorize_ok (accepted : gateway.authorize auth now = .ok prepared) :
    auth.capability ∈ gateway.policy.allowedCapabilities ∧
      auth.payloadRef ∈ gateway.policy.allowedPayloadPaths ∧
        (gateway.bridge auth).prepare auth now = .ok prepared := by
  rw [authorize] at accepted
  cases checked : refuse
      [(auth.capability ∉ gateway.policy.allowedCapabilities, "CAPABILITY_MISMATCH"),
       (auth.payloadRef ∉ gateway.policy.allowedPayloadPaths, "PAYLOAD_SURFACE_MISMATCH")] with
  | error fault =>
    rw [checked] at accepted
    contradiction
  | ok value =>
    rw [checked] at accepted
    have allowed := refuse_ok_iff.mp checked
    simp only [List.forall_mem_cons, decide_eq_false_iff_not, not_not] at allowed
    refine ⟨allowed.1, allowed.2.1, ?_⟩
    cases ready : (gateway.bridge auth).prepare auth now with
    | error fault =>
      rw [ready] at accepted
      contradiction
    | ok made =>
      have same := (OrchestratorEffectBridge.prepare_ok ready).2
      subst same
      rw [ready] at accepted
      exact accepted

theorem AuthorityGateway.authorize_inScope
    (accepted : gateway.authorize auth now = .ok prepared) :
    InScope gateway.policy auth ∧ auth.founderApprovalRef ≠ "" := by
  have ⟨capability, payload, ready⟩ := authorize_ok accepted
  have validated := refuse_ok_iff.mp (OrchestratorEffectBridge.prepare_ok ready).1
  simp only [List.forall_mem_cons, decide_eq_false_iff_not, not_or, not_not] at validated
  have ⟨_, mission, run, stage, identity, target, _, founder, _⟩ := validated
  exact ⟨⟨mission, run, stage, identity, target, capability, payload, founder.1⟩, founder.2⟩

theorem AuthorityGateway.authorize_current
    (accepted : gateway.authorize auth now = .ok prepared) :
    now < auth.expiresAtUnix ∧ auth.estimatedIncrementalCostUsd = 0 ∧
      auth.requiresPaidUpgrade = false := by
  have ⟨_, _, ready⟩ := authorize_ok accepted
  have validated := refuse_ok_iff.mp (OrchestratorEffectBridge.prepare_ok ready).1
  simp only [List.forall_mem_cons, decide_eq_false_iff_not, not_or, not_not, not_le]
    at validated
  have ⟨_, _, _, _, _, _, _, _, _, _, _, current, free, unpaid, _⟩ := validated
  exact ⟨current, free, unpaid⟩

theorem AuthorityGateway.authorize_eq (accepted : gateway.authorize auth now = .ok prepared) :
    prepared = ⟨OrchestratorEffectBridge.request auth, OrchestratorEffectBridge.lease auth,
      OrchestratorEffectBridge.policy auth⟩ :=
  (OrchestratorEffectBridge.prepare_ok (authorize_ok accepted).2.2).2

theorem AuthorityGateway.authorize_mergeless
    (accepted : gateway.authorize auth now = .ok prepared) :
    auth.capability ≠ "GITHUB_MERGE_PR" := by
  intro merge
  exact gateway.mergeless (merge ▸ (authorize_ok accepted).1)

end Authorized

/-! ## Steps that do not call the adapter -/

section Quiet

variable {digest : EffectFingerprint → String} {A B : Type}

def Quiet (script : EffectScript A) : Prop :=
  ∀ world, (script.exec world).1.2.calls = world.2.calls

theorem quiet_bind {script : EffectScript A} {rest : A → EffectScript B} (first : Quiet script)
    (then_ : ∀ value, Quiet (rest value)) : Quiet (script >>= rest) := by
  intro world
  rw [Script.exec_bind]
  have here := first world
  cases ended : script.exec world with
  | mk after answer =>
    rw [ended] at here
    cases answer with
    | ok value => exact (then_ value after).trans here
    | error fault => exact here

theorem quiet_pure (value : A) : Quiet (pure value : EffectScript A) := fun _ => rfl

theorem quiet_inspect (f : EffectWorld → Except Fault A) : Quiet (inspect f) := fun _ => rfl

theorem quiet_putStep (record : EffectWorld → Except Fault JournalRecord)
    (noted : EffectStore → Gateway → EffectStore) : Quiet (putStep record noted) := by
  intro world
  rw [putStep, Script.exec_act]
  cases putAnswer_cases record noted world with
  | inl refused =>
    have ⟨fault, answer⟩ := refused
    rw [answer]
  | inr accepted =>
    have ⟨row, _, _, answer⟩ := accepted
    rw [answer]

theorem quiet_remember (request : EffectRequest) (receipt : EffectReceipt) :
    Quiet (remember request receipt) := fun _ => rfl

theorem quiet_countEffects : Quiet countEffects := by
  intro world
  rw [countEffects, Script.exec_act]
  cases boundLeaseId world.2.environment with
  | error fault => rfl
  | ok leaseId => rfl

/-- A call in production calls the adapter once, whatever it answers. -/
theorem exec_perform_calls (actor : ActorState) (request : EffectRequest) (world : EffectWorld) :
    ((perform digest actor request true).exec world).1.2.calls =
      world.2.calls ++
        [⟨world.2.environment.activationLease.map (·.leaseId), request⟩] := by
  have rest (resultRef : String) : Quiet (do
      persistCommit digest actor request resultRef
      remember request (committedReceipt request "PRODUCTION" "COMMITTED" resultRef)
      countEffects
      traceEffect (committedReceipt request "PRODUCTION" "COMMITTED" resultRef)
      return committedReceipt request "PRODUCTION" "COMMITTED" resultRef) := by
    apply quiet_bind (quiet_putStep _ _)
    intro _
    apply quiet_bind (quiet_remember request _)
    intro _
    apply quiet_bind quiet_countEffects
    intro _
    apply quiet_bind (quiet_inspect _)
    intro _
    exact quiet_pure _
  have called : ((adapterExecute request true).exec world).1.2.calls =
      world.2.calls ++
        [⟨world.2.environment.activationLease.map (·.leaseId), request⟩] := rfl
  rw [perform, Script.exec_bind]
  cases ended : (adapterExecute request true).exec world with
  | mk after answer =>
    rw [ended] at called
    cases answer with
    | error fault => exact called
    | ok resultRef => exact (rest resultRef after).trans called

end Quiet

/-! ## What the production gateway validates -/

section Accepted

variable {gateway : AuthorityGateway} {auth : OrchestratorEffectAuthorization} {now : ℤ}
  {prepared : PreparedEffect} {actor : ActorState} {world : EffectWorld}

theorem Provided.validateCommon (provided : Provided gateway prepared now actor world) :
    world.2.environment.validateCommon prepared.request = .ok actor := by
  have ⟨binding, bound⟩ := provided.bound
  have checked : refuse
      [(actor.authority.authorityRef ≠ prepared.request.authorityRef,
        "EFFECT_AUTHORITY_MISMATCH"),
       (actor.missionBinding ≠ prepared.request.missionBinding, "EFFECT_MISSION_MISMATCH"),
       (prepared.request.capability ∉ actor.capability.capabilities,
        "EFFECT_CAPABILITY_NOT_BOUND")] = .ok () := by
    apply refuse_ok_iff.mpr
    simp [provided.authority, provided.mission, provided.capability]
  rw [GatewayEnvironment.validateCommon, provided.found]
  change (world.2.environment.states.validateCurrent _ _ _ >>= _) = _
  rw [provided.current]
  change (world.2.environment.ocsEnforcer.bindingForActor actor >>= _) = _
  rw [bound]
  change (refuse _ >>= _) = _
  rw [checked]
  rfl

theorem Provided.validateLease (provided : Provided gateway prepared now actor world)
    (accepted : gateway.authorize auth now = .ok prepared)
    (unused : usedEffects world prepared.lease.leaseId = 0) :
    validateLease prepared.request world = .ok () := by
  have made := AuthorityGateway.authorize_eq accepted
  have ⟨current, _⟩ := AuthorityGateway.authorize_current accepted
  have ⟨_, founder⟩ := AuthorityGateway.authorize_inScope accepted
  have late : ¬ auth.expiresAtUnix ≤ now := not_le_of_gt current
  subst made
  simp only [ReisOs.RecursiveRuntime.validateLease, provided.lease]
  apply refuse_ok_iff.mpr
  simp only [OrchestratorEffectBridge.lease] at unused
  simp [OrchestratorEffectBridge.lease, OrchestratorEffectBridge.request, provided.clock,
    founder, unused, late]

theorem Provided.validateSpend (provided : Provided gateway prepared now actor world)
    (accepted : gateway.authorize auth now = .ok prepared) :
    world.2.environment.validateSpend prepared.request = .ok () := by
  have made := AuthorityGateway.authorize_eq accepted
  have ⟨_, free, unpaid⟩ := AuthorityGateway.authorize_current accepted
  have ⟨preflight, decision, bound, answered, approves⟩ := provided.free
  have asked : refuse
      [(prepared.request.estimatedIncrementalCostUsd ≠ 0, "ZERO_SPEND_POLICY_VIOLATION"),
       (prepared.request.requiresPaidUpgrade, "PAID_UPGRADE_FORBIDDEN")] = .ok () := by
    apply refuse_ok_iff.mpr
    simp [made, OrchestratorEffectBridge.request, free, unpaid]
  have late : ¬ decision.validUntilUnix ≤ now := not_le_of_gt approves.current
  rw [GatewayEnvironment.validateSpend, asked]
  simp only [bound]
  change (preflight prepared.request >>= _) = _
  rw [answered]
  apply refuse_ok_iff.mpr
  simp [approves.sourced, approves.requestId, approves.target, approves.capability, late,
    provided.clock, approves.free, approves.unpaid]

theorem Provided.validateProductionPolicy (provided : Provided gateway prepared now actor world)
    (accepted : gateway.authorize auth now = .ok prepared) :
    world.2.environment.validateProductionPolicy prepared.request actor = .ok () := by
  have made := AuthorityGateway.authorize_eq accepted
  have ⟨scope, founder⟩ := AuthorityGateway.authorize_inScope accepted
  have mergeless := AuthorityGateway.authorize_mergeless accepted
  have ⟨verifier, bound, verified⟩ := provided.verified
  have spend := provided.validateSpend accepted
  have identity : actor.identityId = auth.canonicalIdentity :=
    provided.identity.trans scope.identity.symm
  have active : refuse
      [(!prepared.policy.active, "PRODUCTION_POLICY_NOT_ACTIVE"),
       (prepared.policy.founderApprovalRef = "",
        "PRODUCTION_POLICY_FOUNDER_APPROVAL_REQUIRED")] = .ok () := by
    apply refuse_ok_iff.mpr
    simp [made, OrchestratorEffectBridge.policy, founder]
  have matched : refuse
      [(prepared.lease.founderApprovalRef ≠ prepared.policy.founderApprovalRef,
        "FOUNDER_APPROVAL_REF_MISMATCH")] = .ok () := by
    apply refuse_ok_iff.mpr
    simp [made, OrchestratorEffectBridge.policy, OrchestratorEffectBridge.lease]
  have approved : world.2.environment.validateApproval prepared.request prepared.policy
      prepared.lease actor = .ok () := by
    have inPolicy : refuse
        [(!true, "FOUNDER_APPROVAL_NOT_VERIFIED"),
         (actor.identityId ∉ prepared.policy.allowedOcsIds, "PRODUCTION_OCS_NOT_ALLOWED"),
         (prepared.request.capability ∉ prepared.policy.allowedCapabilities,
          "PRODUCTION_POLICY_CAPABILITY_NOT_ALLOWED"),
         (prepared.policy.allowedTargetPrefixes.all
            (!·.toList.isPrefixOf prepared.request.target.toList),
          "PRODUCTION_POLICY_TARGET_NOT_ALLOWED"),
         (prepared.request.capability = "GITHUB_MERGE_PR" ∧
            prepared.policy.allowGithubMerge = false,
          "GITHUB_MERGE_REQUIRES_EXPLICIT_POLICY")] = .ok () := by
      apply refuse_ok_iff.mpr
      simp [made, OrchestratorEffectBridge.policy, OrchestratorEffectBridge.request, identity,
        mergeless]
    have zero : prepared.policy.zeroUnauthorizedSpend = true := by
      rw [made]
      rfl
    rw [GatewayEnvironment.validateApproval, bound]
    change (verifier _ _ _ _ >>= _) = _
    rw [verified]
    change (refuse _ >>= _) = _
    rw [inPolicy]
    change (if prepared.policy.zeroUnauthorizedSpend = true then _ else _) = _
    rw [if_pos zero, spend]
  rw [GatewayEnvironment.validateProductionPolicy, provided.policy]
  change (refuse _ >>= _) = _
  rw [active, provided.lease]
  change (refuse _ >>= _) = _
  rw [matched]
  exact approved

theorem Unjournaled.findDurable {requestId : String} {journal : List JournalRecord}
    (unjournaled : Unjournaled requestId journal) :
    findDurable requestId journal = (none, none) := by
  have absent (kind : String) : lastRow kind requestId journal = none := by
    rw [lastRow, List.find?_eq_none]
    intro row member found
    have both : row.kind = kind ∧ row.field "request_id" = some requestId := by
      simpa using found
    exact unjournaled.payload row (List.mem_reverse.mp member) both.2
  rw [ReisOs.RecursiveRuntime.findDurable, absent, absent]

theorem Provided.persistIntent (digest : EffectFingerprint → String)
    (provided : Provided gateway prepared now actor world) :
    ∃ store, (persistIntent digest actor prepared.request).exec world =
      ((store, world.2), .ok ()) := by
  have absent : world.1.journal.find? (fun row => row.journalId =
      (intentRecord digest actor prepared.request prepared.lease.leaseId).journalId) = none := by
    rw [List.find?_eq_none]
    intro row member found
    exact provided.unjournaled.intent row member (of_decide_eq_true found)
  have answer : putRecord world.1.journal
      (intentRecord digest actor prepared.request prepared.lease.leaseId) =
        (world.1.journal ++
          [intentRecord digest actor prepared.request prepared.lease.leaseId], .ok ()) := by
    rw [putRecord, absent]
  refine ⟨{ world.1 with
    journal := world.1.journal ++
      [intentRecord digest actor prepared.request prepared.lease.leaseId]
    owner := Function.update world.1.owner prepared.request.requestId
      (some world.2.process) }, ?_⟩
  rw [ReisOs.RecursiveRuntime.persistIntent, putStep, Script.exec_act, putAnswer]
  simp only [provided.journalBound, if_true, boundLeaseId, provided.lease, Except.map, answer]

/-- What an authorized effect comes to when its lease is unused. -/
theorem performed_of_authorize (accepted : gateway.authorize auth now = .ok prepared)
    (provided : Provided gateway prepared now actor world)
    (unused : usedEffects world prepared.lease.leaseId = 0)
    (digest : EffectFingerprint → String) : Performed digest auth prepared world := by
  have made := AuthorityGateway.authorize_eq accepted
  have scope : prepared.request.target = auth.target ∧
      prepared.request.capability = auth.capability ∧
        prepared.request.payloadRef = auth.payloadRef := by
    rw [made]
    exact ⟨rfl, rfl, rfl⟩
  refine ⟨?_, scope.1, scope.2.1, scope.2.2⟩
  have rows : journalRows world = world.1.journal := by
    rw [journalRows, if_pos provided.journalBound]
  have forgotten : (remembered prepared.request).exec world = (world, .ok none) := by
    simp only [remembered, inspect, Script.exec_act, provided.unremembered]
  have common : (inspect fun world => world.2.environment.validateCommon prepared.request).exec
      world = (world, .ok actor) := by
    simp only [inspect, Script.exec_act, provided.validateCommon]
  have leased : (inspect (validateLease prepared.request)).exec world = (world, .ok ()) := by
    simp only [inspect, Script.exec_act, provided.validateLease accepted unused]
  have approved : (inspect fun world =>
      world.2.environment.validateProductionPolicy prepared.request actor).exec world =
        (world, .ok ()) := by
    simp only [inspect, Script.exec_act, provided.validateProductionPolicy accepted]
  obtain ⟨store, intended⟩ := provided.persistIntent digest
  have production : ((executeProduction digest actor prepared.request).exec world).1.2.calls =
      world.2.calls ++ [⟨some prepared.lease.leaseId, prepared.request⟩] := by
    rw [executeProduction, Script.exec_read_bind]
    simp only [provided.journalBound, if_true]
    rw [Script.exec_read_bind]
    simp only [rows, provided.unjournaled.findDurable]
    rw [Script.exec_bind_ok leased, Script.exec_bind_ok approved, Script.exec_bind_ok intended,
      exec_perform_calls]
    simp only [provided.lease, Option.map_some]
  rw [execute, Script.exec_bind_ok forgotten]
  simp only
  rw [Script.exec_bind_ok common, Script.exec_read_bind]
  simp only [provided.adapter, if_true]
  exact production

/-- An authorization that the authority gateway accepts is within its policy, and the
production gateway carries it out if its lease is unused. -/
theorem authorize_agrees (accepted : gateway.authorize auth now = .ok prepared) :
    InScope gateway.policy auth ∧
      ∀ (digest : EffectFingerprint → String) (actor : ActorState) (world : EffectWorld),
        Provided gateway prepared now actor world →
          usedEffects world prepared.lease.leaseId = 0 → Performed digest auth prepared world :=
  ⟨(AuthorityGateway.authorize_inScope accepted).1, fun digest _ _ provided unused =>
    performed_of_authorize accepted provided unused digest⟩

end Accepted

/-! ## A lease that has been used -/

section Deployment

/-- The authority gateway of a mission that may publish one payload. -/
def publishGateway : AuthorityGateway where
  policy :=
    { policyId := "P1", missionId := "M1", orchestratorRunId := "R1", missionStage := "S1"
      canonicalIdentity := "NOESIS", target := "github:repo", allowedCapabilities := {"publish"}
      allowedPayloadPaths := {"payload:1"}, founderApprovalRef := "FOUNDER" }
  surface := by decide
  mergeless := by decide

private def publishAuthorization : OrchestratorEffectAuthorization where
  authorizationId := "A1"
  missionId := "M1"
  orchestratorRunId := "R1"
  missionStage := "S1"
  actorId := "a"
  canonicalIdentity := "NOESIS"
  authorityRef := "AUTH:1"
  missionBinding := "M1"
  delegationRef := "D1"
  target := "github:repo"
  capability := "publish"
  payloadRef := "payload:1"
  founderApprovalRef := "FOUNDER"
  generation := 1
  fencingEpoch := 1
  requestId := "fx:1"
  evidenceParent := "E1"
  issuedAtUnix := 0
  expiresAtUnix := 100
  estimatedIncrementalCostUsd := 0
  requiresPaidUpgrade := false

private def publishEffect : PreparedEffect where
  request := OrchestratorEffectBridge.request publishAuthorization
  lease := OrchestratorEffectBridge.lease publishAuthorization
  policy := OrchestratorEffectBridge.policy publishAuthorization

private theorem publish_accepted :
    publishGateway.authorize publishAuthorization 10 = .ok publishEffect := by
  rfl

private def freeDecision (request : EffectRequest) : VerifiedCostDecision where
  requestId := request.requestId
  target := request.target
  capability := request.capability
  incrementalCostUsd := 0
  paidUpgradeRequired := false
  sourceRef := "cost:1"
  validUntilUnix := 50

/-- The deployed gateway with the prepared lease and policy, over a journal. -/
private def publishWorld (journal : List JournalRecord) : EffectWorld :=
  (⟨journal, fun _ => none, []⟩,
    { environment :=
        { deployedGateway (fun _ => .ok "done") fun _ => .ok none with
          activationLease := some publishEffect.lease
          productionPolicy := some publishEffect.policy
          costPreflight := some fun request => .ok (some (freeDecision request))
          clock := 10 }
      memory := .empty
      calls := []
      process := 0 })

private theorem publish_provided {journal : List JournalRecord}
    (unjournaled : Unjournaled "fx:1" journal) :
    Provided publishGateway publishEffect 10 rootActor (publishWorld journal) where
  adapter := rfl
  journalBound := rfl
  lease := rfl
  policy := rfl
  clock := rfl
  found := rfl
  current := rfl
  authority := rfl
  mission := rfl
  identity := rfl
  bound := ⟨_, rfl⟩
  capability := by decide
  verified := ⟨_, rfl, rfl⟩
  free := ⟨_, _, rfl, rfl, by decide, rfl, rfl, rfl, by decide, rfl, rfl⟩
  unremembered := rfl
  unjournaled := unjournaled

theorem authorize_agrees_publish :
    InScope publishGateway.policy publishAuthorization ∧
      Performed (·.payloadRef) publishAuthorization publishEffect (publishWorld []) := by
  have agrees := authorize_agrees publish_accepted
  refine ⟨agrees.1, agrees.2 _ rootActor _ (publish_provided ⟨?_, ?_⟩) rfl⟩
  · exact fun _ member => absurd member List.not_mem_nil
  · exact fun _ member => absurd member List.not_mem_nil

/-- Another request has been committed under the lease of the authorization. -/
private def usedJournal : List JournalRecord :=
  [commitRecord (·.payloadRef) rootActor (publishRequest "fx:0" "payload:1") "LEASE:A1" "done"]

/-- The row of another request is enough for the production gateway to refuse the request. -/
theorem authorized_not_performed :
    publishGateway.authorize publishAuthorization 10 = .ok publishEffect ∧
      Provided publishGateway publishEffect 10 rootActor (publishWorld usedJournal) ∧
        ¬ Performed (·.payloadRef) publishAuthorization publishEffect
          (publishWorld usedJournal) := by
  have unjournaled : Unjournaled "fx:1" usedJournal := ⟨by decide +kernel, by decide +kernel⟩
  refine ⟨publish_accepted, publish_provided unjournaled, fun performed => ?_⟩
  have quiet : ((execute (·.payloadRef) publishEffect.request).exec
      (publishWorld usedJournal)).1.2.calls = [] := by decide +kernel
  rw [performed.called] at quiet
  cases quiet

end Deployment

end ReisOs.RecursiveRuntime
