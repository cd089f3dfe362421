import ReisOs.Core.Counting
import ReisOs.RecursiveRuntime.SingleEffects

/-!
# The limit of a lease

Calls of one gateway after another over one journal.  The use of a lease is counted by
commits, so a call of the adapter whose commit is missing does not count: the limit holds
as long as no new request is executed while such a call has used the lease up.
-/

namespace ReisOs.RecursiveRuntime

open ReisOs.Core DurableJournal Script

variable (digest : EffectFingerprint → String)

/-- A call with its surroundings: perhaps by a new gateway, perhaps cut short. -/
structure GatewayCall where
  environment : GatewayEnvironment
  restart : Bool
  request : EffectRequest
  /-- The number of steps after which the call is cut short. -/
  stop : Option ℕ

/-- The gateway that the call finds. -/
def GatewayCall.enter (call : GatewayCall) (world : EffectWorld) : EffectWorld :=
  (world.1, { world.2 with
    environment := call.environment
    memory := if call.restart then .empty else world.2.memory })

def gatewayStep (world : EffectWorld) (call : GatewayCall) : EffectWorld :=
  let script := effectCall digest call.request
  match call.stop with
  | none => (script.exec (call.enter world)).1
  | some count => script.crashed count (call.enter world)

/-- An empty journal, and a gateway that has not been called. -/
def newGateway (environment : GatewayEnvironment) : EffectWorld :=
  (⟨[], fun _ => none, []⟩, ⟨environment, .empty, [], 0⟩)

/-- The calls of `adapter.execute` under a lease. -/
def invocationsUnder (leaseId : String) (world : EffectWorld) : ℕ :=
  world.2.calls.countP fun call => call.leaseId = some leaseId

/-- Every call under the lease has its commit there. -/
def AllCommitted (leaseId : String) (world : EffectWorld) : Prop :=
  ∀ call ∈ world.2.calls, call.leaseId = some leaseId → ∃ commit ∈ world.1.journal,
    commit.kind = "PRODUCTION_EFFECT_COMMIT" ∧
      commit.field "request_id" = some call.request.requestId ∧
      commit.field "lease_id" = some leaseId

/-- A request without durable rows is only executed under a lease that has calls left, or
whose calls are all committed. -/
def Accounted (world : EffectWorld) (call : GatewayCall) : Prop :=
  ∀ lease, call.environment.activationLease = some lease →
    findDurable call.request.requestId world.1.journal = (none, none) →
      (invocationsUnder lease.leaseId world : ℤ) < lease.maxEffects ∨
        AllCommitted lease.leaseId world

/-! ## What a call does -/

/-- The adapter is called for a new request under a lease that is not used up. -/
structure Called (start : EffectWorld) (request : EffectRequest) (world : EffectWorld)
    (lease : ActivationLease) : Prop where
  calls : world.2.calls = start.2.calls ++ [⟨some lease.leaseId, request⟩]
  bound : start.2.environment.activationLease = some lease
  fresh : findDurable request.requestId start.1.journal = (none, none)
  limit : (durableEffectCount start.1.journal lease.leaseId : ℤ) < lease.maxEffects

/-- So far the gateway is as it was but for its memory, and has called at most once. -/
structure Tracked (start : EffectWorld) (request : EffectRequest) (world : EffectWorld) :
    Prop where
  environment : world.2.environment = start.2.environment
  calls : world.2.calls = start.2.calls ∨ ∃ lease, Called start request world lease

/-- The discipline of a call that is alone. -/
def trackRule (start : EffectWorld) (request : EffectRequest) : Discipline EffectWorld :=
  .alone (Tracked start request) (fun _ _ => True) (fun _ => trivial) fun _ _ => trivial

variable {digest} {start world : EffectWorld} {request : EffectRequest} {A B : Type}

theorem obeys_quiet {f : EffectWorld → EffectWorld × Except Fault A}
    (hquiet : ∀ world, (f world).1.2.environment = world.2.environment ∧
      (f world).1.2.calls = world.2.calls) :
    Obeys (trackRule start request) (.act f) := by
  apply obeys_act
  intro now hnow
  refine ⟨⟨(hquiet now).1.trans hnow.environment, ?_⟩, trivial⟩
  rcases hnow.calls with hsame | ⟨lease, hcalled⟩
  · exact Or.inl ((hquiet now).2.trans hsame)
  · exact Or.inr ⟨lease, (hquiet now).2.trans hcalled.calls, hcalled.bound, hcalled.fresh,
      hcalled.limit⟩

theorem obeys_inspect (f : EffectWorld → Except Fault A) :
    Obeys (trackRule start request) (inspect f) := obeys_quiet fun _ => ⟨rfl, rfl⟩

theorem obeys_putStep (record : EffectWorld → Except Fault JournalRecord)
    (noted : EffectStore → Gateway → EffectStore) :
    Obeys (trackRule start request) (putStep record noted) := by
  apply obeys_quiet
  intro world
  obtain ⟨fault, hanswer⟩ | ⟨accepted, -, -, hanswer⟩ := putAnswer_cases record noted world
  · rw [hanswer]
    exact ⟨rfl, rfl⟩
  · rw [hanswer]
    exact ⟨rfl, rfl⟩

theorem obeys_remember (request' : EffectRequest) (receipt : EffectReceipt) :
    Obeys (trackRule start request) (remember request' receipt) :=
  obeys_quiet fun _ => ⟨rfl, rfl⟩

theorem obeys_countEffects : Obeys (trackRule start request) countEffects := by
  apply obeys_quiet
  intro world
  cases boundLeaseId world.2.environment with
  | error fault => exact ⟨rfl, rfl⟩
  | ok leaseId => exact ⟨rfl, rfl⟩

theorem obeys_replayCommit (request' : EffectRequest) (commit : JournalRecord) :
    Obeys (trackRule start request) (replayCommit digest request' commit) := by
  apply (obeys_inspect _).bind
  intro receipt
  apply (obeys_remember request' receipt).bind
  intro _
  exact obeys_pure receipt

theorem obeys_reconcile (actor : ActorState) (request' : EffectRequest)
    (intent : JournalRecord) :
    Obeys (trackRule start request) (reconcile digest actor request' intent) := by
  apply (obeys_inspect _).bind
  intro _
  apply (obeys_inspect _).bind
  intro resultRef
  apply (obeys_putStep _ _).bind
  intro _
  apply (obeys_inspect _).bind
  intro receipt
  apply (obeys_remember request' receipt).bind
  intro _
  apply obeys_countEffects.bind
  intro _
  exact obeys_pure receipt

variable {actor : ActorState}

/-- What follows the call of the adapter. -/
theorem safe_perform_rest {production : Bool}
    (hadapter : Safe (trackRule start request) (fun _ _ => True)
      (adapterExecute request production) world) (hworld : Tracked start request world) :
    Safe (trackRule start request) (fun _ _ => True)
      (perform digest actor request production) world := by
  apply hadapter.bind hworld
  intro resultRef now hnow _ _
  have hend (receipt : EffectReceipt) : Obeys (trackRule start request)
      (traceEffect receipt >>= fun _ => (return receipt)) :=
    (obeys_inspect _).bind fun _ => obeys_pure receipt
  cases production with
  | false =>
    have hrest : Obeys (trackRule start request) (do
        remember request (committedReceipt request "SANDBOX" "SIMULATED" resultRef)
        traceEffect (committedReceipt request "SANDBOX" "SIMULATED" resultRef)
        return committedReceipt request "SANDBOX" "SIMULATED" resultRef) :=
      (obeys_remember request _).bind fun _ => hend _
    exact hrest.safe now hnow
  | true =>
    have hrest : Obeys (trackRule start request) (do
        persistCommit digest actor request resultRef
        remember request (committedReceipt request "PRODUCTION" "COMMITTED" resultRef)
        countEffects
        traceEffect (committedReceipt request "PRODUCTION" "COMMITTED" resultRef)
        return committedReceipt request "PRODUCTION" "COMMITTED" resultRef) :=
      (obeys_putStep _ _).bind fun _ => (obeys_remember request _).bind fun _ =>
        obeys_countEffects.bind fun _ => hend _
    exact hrest.safe now hnow

theorem refuse_ok_iff {checks : List (Bool × String)} :
    refuse checks = .ok () ↔ ∀ check ∈ checks, check.1 = false := by
  rw [← firstFailure_eq_none_iff, refuse]
  cases firstFailure checks with
  | none => simp
  | some reason => simp

theorem limit_of_validateLease (hbound : world.2.environment.journalBound = true)
    (hvalid : validateLease request world = .ok ()) :
    ∃ lease, world.2.environment.activationLease = some lease ∧
      (durableEffectCount world.1.journal lease.leaseId : ℤ) < lease.maxEffects := by
  rw [validateLease] at hvalid
  cases hlease : world.2.environment.activationLease with
  | none =>
    rw [hlease] at hvalid
    cases hvalid
  | some lease =>
    rw [hlease] at hvalid
    refine ⟨lease, rfl, ?_⟩
    have hchecks := refuse_ok_iff.mp hvalid
    simp only [List.forall_mem_cons, decide_eq_false_iff_not, not_le] at hchecks
    have hused : (usedEffects world lease.leaseId : ℤ) < lease.maxEffects :=
      hchecks.2.2.2.2.2.2.2.1
    have hrows : journalRows world = world.1.journal := by rw [journalRows, if_pos hbound]
    rw [usedEffects, hrows] at hused
    split at hused
    · exact hused
    · omega

theorem safe_persistIntent_tracked {Post : B → EffectWorld → Prop}
    {rest : Unit → EffectScript B}
    (hrest : ∀ now, now.2.environment = start.2.environment →
      now.2.calls = start.2.calls →
        Safe (trackRule start request) Post (rest ()) now) :
    Safe (trackRule start request) Post (persistIntent digest actor request >>= rest)
      start := by
  apply safe_act_bind
  rintro now hnow rfl
  obtain ⟨fault, hanswer⟩ | ⟨accepted, -, -, hanswer⟩ := putAnswer_cases _ _ start
  · rw [hanswer]
    exact ⟨hnow, trivial, fun _ h => nomatch h⟩
  · rw [hanswer]
    exact ⟨⟨rfl, Or.inl rfl⟩, trivial, fun _ _ => hrest _ rfl rfl⟩

theorem safe_executeProduction_tracked :
    Safe (trackRule start request) (fun _ _ => True)
      (executeProduction digest actor request) start := by
  have hstart : Tracked start request start := ⟨rfl, Or.inl rfl⟩
  apply safe_read_bind
  rintro now - rfl
  cases hbound : start.2.environment.journalBound with
  | false =>
    apply safe_look_bind
    intro later hlater _ _ _
    exact safe_raise
  | true =>
    apply safe_read_bind
    rintro found - rfl
    have hrows : journalRows start = start.1.journal := by rw [journalRows, if_pos hbound]
    rw [hrows]
    cases hfound : findDurable request.requestId start.1.journal with
    | mk intent commit =>
      cases commit with
      | some commit => exact (obeys_replayCommit request commit).safe start hstart
      | none =>
        cases intent with
        | some intent => exact (obeys_reconcile actor request intent).safe start hstart
        | none =>
          apply safe_look_bind
          rintro leased - rfl _ hvalid
          apply safe_look_bind
          rintro approved - rfl _ -
          obtain ⟨lease, hlease, hlimit⟩ := limit_of_validateLease hbound hvalid
          apply safe_persistIntent_tracked
          intro now hkept hcalls
          have hnow : Tracked start request now := ⟨hkept, Or.inl hcalls⟩
          apply safe_perform_rest _ hnow
          apply safe_act
          rintro later - rfl
          have hcalled : Called start request
              (callAdapter request true now).1 lease := by
            refine ⟨?_, hlease, hfound, hlimit⟩
            simp only [callAdapter, if_true]
            rw [hkept, hcalls, hlease, Option.map_some]
          exact ⟨⟨hkept, Or.inr ⟨lease, hcalled⟩⟩, trivial, fun _ _ => trivial⟩

theorem safe_effectCall_tracked :
    Safe (trackRule start request) (fun _ _ => True) (effectCall digest request) start := by
  have hstart : Tracked start request start := ⟨rfl, Or.inl rfl⟩
  have hreturn (receipt : EffectReceipt) : Obeys (trackRule start request)
      (.act fun world => (({ world.1 with
        returned := world.1.returned ++ [(request, receipt)] }, world.2), .ok ())) :=
    obeys_quiet fun _ => ⟨rfl, rfl⟩
  have hexecute : Safe (trackRule start request) (fun _ _ => True)
      (execute digest request) start := by
    apply safe_look_bind
    rintro now - rfl found -
    cases found with
    | some receipt => trivial
    | none =>
      apply safe_look_bind
      rintro valid - rfl actor -
      apply safe_read_bind
      rintro later - rfl
      split
      · exact safe_executeProduction_tracked
      · split
        · apply safe_perform_rest _ hstart
          exact (obeys_quiet fun _ => ⟨rfl, rfl⟩).safe start hstart
        · exact safe_raise
  apply hexecute.bind hstart
  intro receipt now hnow _ _
  exact (hreturn receipt).safe now hnow

/-- A call leaves the calls of the adapter as they are, or adds one for a new request
under a lease that its commits have not used up. -/
theorem gatewayStep_cases (world : EffectWorld) (call : GatewayCall) :
    (gatewayStep digest world call).2.calls = world.2.calls ∨
      ∃ lease, Called (call.enter world) call.request (gatewayStep digest world call) lease := by
  have hstart : Tracked (call.enter world) call.request (call.enter world) := ⟨rfl, Or.inl rfl⟩
  have hsafe := @safe_effectCall_tracked digest (call.enter world) call.request
  have hend : Tracked (call.enter world) call.request (gatewayStep digest world call) := by
    rw [gatewayStep]
    cases call.stop with
    | none => exact (hsafe.exec hstart).1
    | some count => exact (hsafe.crashed hstart count).1
  exact hend.calls

/-! ## Runs -/

theorem GatewayCall.altered (call : GatewayCall) (world : EffectWorld) :
    world.2.Altered (call.enter world).2 := by
  refine ⟨rfl, rfl, ?_⟩
  cases hrestart : call.restart with
  | false => exact Or.inl (by simp [enter, hrestart])
  | true => exact Or.inr (by simp [enter, hrestart])

theorem gatewayStep_sound {world : EffectWorld}
    (h : (gatewayRule digest (fun _ => True) 0).Inv world) (call : GatewayCall) :
    (gatewayRule digest (fun _ => True) 0).Inv (gatewayStep digest world call) := by
  have henter : (gatewayRule digest (fun _ => True) 0).Inv (call.enter world) := by
    have hgateway : world.2.Sound digest (fun _ => True) 0 world.1 := h.2
    exact ⟨h.1, hgateway.altered (call.altered world)⟩
  have hsafe := @safe_effectCall digest (fun _ => True) _ 0 call.request trivial henter
  rw [gatewayStep]
  cases call.stop with
  | none => exact (hsafe.exec henter).1
  | some count => exact (hsafe.crashed henter count).1

theorem invocations_le_commits {leaseId : String}
    (h : (gatewayRule digest (fun _ => True) 0).Inv world)
    (hcommitted : AllCommitted leaseId world) :
    invocationsUnder leaseId world ≤ durableEffectCount world.1.journal leaseId := by
  have hgateway : world.2.Sound digest (fun _ => True) 0 world.1 := h.2
  apply countP_le_of_charge (·.request.requestId) (·.field "request_id") hgateway.once
  intro call hcall hlease
  obtain ⟨commit, hcommit, hkind, hrequest, hcharged⟩ :=
    hcommitted call hcall (of_decide_eq_true hlease)
  exact ⟨commit, hcommit, decide_eq_true ⟨hkind, hcharged⟩, hrequest⟩

/-- The calls under each lease are within its limit. -/
def WithinLimit (limit : String → ℤ) (world : EffectWorld) : Prop :=
  ∀ leaseId, invocationsUnder leaseId world = 0 ∨
    (invocationsUnder leaseId world : ℤ) ≤ limit leaseId

theorem WithinLimit.step {limit : String → ℤ} {call : GatewayCall}
    (h : WithinLimit limit world)
    (hsound : (gatewayRule digest (fun _ => True) 0).Inv world)
    (hlimit : ∀ lease, call.environment.activationLease = some lease →
      lease.maxEffects = limit lease.leaseId)
    (haccounted : Accounted world call) :
    WithinLimit limit (gatewayStep digest world call) := by
  intro leaseId
  rcases @gatewayStep_cases digest world call with hsame | ⟨lease, hcalled⟩
  · rw [invocationsUnder, hsame]
    exact h leaseId
  · have hcount : invocationsUnder leaseId (gatewayStep digest world call) =
        invocationsUnder leaseId world + if lease.leaseId = leaseId then 1 else 0 := by
      rw [invocationsUnder, hcalled.calls, List.countP_append, List.countP_singleton]
      simp only [Option.some.injEq, decide_eq_true_eq]
      rfl
    rw [hcount]
    by_cases hother : lease.leaseId = leaseId
    · subst hother
      rw [if_pos rfl, ← hlimit lease hcalled.bound]
      right
      have hleft : (invocationsUnder lease.leaseId world : ℤ) < lease.maxEffects := by
        rcases haccounted lease hcalled.bound hcalled.fresh with hleft | hcommitted
        · exact hleft
        · have hcommits := invocations_le_commits hsound hcommitted
          have hlimited := hcalled.limit
          change (durableEffectCount world.1.journal lease.leaseId : ℤ) < _ at hlimited
          omega
      push_cast
      omega
    · rw [if_neg hother, Nat.add_zero]
      exact h leaseId

theorem newGateway_sound (environment : GatewayEnvironment) :
    (gatewayRule digest (fun _ => True) 0).Inv (newGateway environment) := by
  refine ⟨⟨List.nodup_nil, ?_, ?_, ?_, ?_⟩, ⟨rfl, List.nodup_nil, ?_, ?_⟩⟩
  · exact fun _ hrow => nomatch hrow
  · exact fun _ hrow => nomatch hrow
  · exact fun _ _ howner => nomatch howner
  · exact fun _ hpair => nomatch hpair
  · exact fun _ hcall => nomatch hcall
  · exact fun _ _ hreceipt => nomatch hreceipt

/-- As long as no new request is executed while calls without a commit have used its
lease up, the calls under each lease are within its limit. -/
theorem within_limit (digest : EffectFingerprint → String) (environment : GatewayEnvironment)
    (limit : String → ℤ) (calls : List GatewayCall)
    (hlimit : ∀ call ∈ calls, ∀ lease, call.environment.activationLease = some lease →
      lease.maxEffects = limit lease.leaseId)
    (haccounted : Admissible (gatewayStep digest) Accounted (newGateway environment) calls) :
    ∀ before, before <+: calls →
      WithinLimit limit (run (gatewayStep digest) (newGateway environment) before) := by
  intro before hbefore
  have hadmissible := haccounted.and (Admissible.of_forall hlimit)
  have hrun := run_invariant_of_admissible
    (fun world => WithinLimit limit world ∧ (gatewayRule digest (fun _ => True) 0).Inv world)
    (fun world call hworld hcall =>
      ⟨hworld.1.step hworld.2 hcall.2 hcall.1, gatewayStep_sound hworld.2 call⟩)
    ⟨fun _ => Or.inl rfl, newGateway_sound environment⟩ (hadmissible.of_prefix hbefore)
  exact hrun.1

instance (leaseId : String) (world : EffectWorld) : Decidable (AllCommitted leaseId world) :=
  inferInstanceAs (Decidable (∀ _ ∈ _, _))

/-- The deployed gateway, whose adapter answers all requests but the first one. -/
def raisingGateway : GatewayEnvironment :=
  deployedGateway
    (fun request => if request.requestId = "fx:1" then .error (.runtimeError "TIMEOUT")
      else .ok "done")
    fun _ => .ok none

/-- After a call that commits, the lease is used up. -/
theorem within_limit_committed :
    let environment := deployedGateway (fun _ => .ok "done") fun _ => .ok none
    let calls := [⟨environment, false, publishRequest "fx:1" "payload:1", none⟩,
      ⟨environment, true, publishRequest "fx:2" "payload:2", none⟩]
    WithinLimit (fun _ => 1)
      (run (gatewayStep (·.payloadRef)) (newGateway environment) calls) := by
  intro environment calls
  apply within_limit (·.payloadRef) environment (fun _ => 1) calls _ _ calls List.prefix_rfl
  · intro call hcall lease hlease
    simp only [calls, List.mem_cons, List.not_mem_nil, or_false] at hcall
    rcases hcall with rfl | rfl
    · cases hlease
      rfl
    · cases hlease
      rfl
  · refine ⟨?_, ?_, trivial⟩
    · intro lease hlease _
      cases hlease
      left
      decide +kernel
    · intro lease hlease _
      cases hlease
      right
      decide +kernel

/-- A lease for one effect, and two calls of the adapter under it. -/
theorem limit_exceeded :
    let calls := [⟨raisingGateway, false, publishRequest "fx:1" "payload:1", none⟩,
      ⟨raisingGateway, false, publishRequest "fx:2" "payload:2", none⟩]
    raisingGateway.activationLease.map (·.maxEffects) = some 1 ∧
      invocationsUnder "L1"
        (run (gatewayStep (·.payloadRef)) (newGateway raisingGateway) calls) = 2 := by
  decide +kernel

end ReisOs.RecursiveRuntime
