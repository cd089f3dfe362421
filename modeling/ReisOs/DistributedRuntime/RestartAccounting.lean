import ReisOs.DistributedRuntime.Longitudinal

/-!
# Restarts and generations

In a running fleet every OCS has a live worker, and the worker, the binding and the fence
agree on the generation.  A mission keeps the fleet running and raises the generation of
the worker it loses by one, so the generations count the restarts of the schedule.
-/

namespace ReisOs.DistributedRuntime

open ReisOs.Core ReisOs.Core.Script Supervisor RecoverableElevenOCSFleet Function
open Instances (InstanceBinding)

/-! ## A running fleet -/

/-- The number of the live worker of an OCS, which has the binding of the table. -/
structure Manned (world : Supervisor) (ocs : String) (worker : ℕ) : Prop where
  entry : world.table ocs = some worker
  old : worker < world.constructed
  live : world.workers worker = ⟨world.bindings ocs, .active, some true⟩

structure Running (profiles : Profiles) (world : Supervisor) : Prop where
  manned : ∀ ocs ∈ missionOrder, ∃ worker, Manned world ocs worker
  fence : ∀ ocs ∈ missionOrder, world.fence ocs = (world.bindings ocs).generation
  own : ∀ ocs ∈ missionOrder, (world.bindings ocs).ocsId = ocs
  admitted : ∀ ocs ∈ missionOrder,
    constructFailure profiles .causal (world.bindings ocs) = none

/-- The generation of the binding of an OCS. -/
def Supervisor.generation (world : Supervisor) (ocs : String) : ℕ :=
  (world.bindings ocs).generation

/-- Numbers of workers and drawn numbers do not come back. -/
def Supervisor.drawnOne (world : Supervisor) : Supervisor :=
  { world with drawn := world.drawn + 1 }

section Workers

variable {assignment : Assignment} {world : Supervisor} {ocs : String} {worker : ℕ}

theorem Manned.drawnOne (h : Manned world ocs worker) :
    Manned world.drawnOne ocs worker :=
  ⟨h.entry, h.old, h.live⟩

theorem Running.drawnOne {profiles : Profiles} (h : Running profiles world) :
    Running profiles world.drawnOne where
  manned := by
    intro ocs hocs
    obtain ⟨worker, hworker⟩ := h.manned ocs hocs
    exact ⟨worker, hworker.drawnOne⟩
  fence := h.fence
  own := h.own
  admitted := h.admitted

theorem Running.injective {profiles : Profiles} (h : Running profiles world)
    {left right : String} (hleft : left ∈ missionOrder) (hright : right ∈ missionOrder)
    (hmanned : Manned world left worker) (hmanned' : Manned world right worker) :
    left = right := by
  have hbinding : world.bindings left = world.bindings right := by
    have hsame := hmanned.live.symm.trans hmanned'.live
    simpa using hsame
  rw [← h.own left hleft, ← h.own right hright, hbinding]

theorem entry_exec (h : Manned world ocs worker) :
    (entry ocs).exec world = (world, .ok worker) := by
  simp [entry, h.entry]

theorem callWorker_exec (call : Worker → Worker × Except Failure Unit) (worker : ℕ)
    (world : Supervisor) :
    (callWorker worker call).exec world =
      (world.setWorker worker (call (world.workers worker)).1,
        (call (world.workers worker)).2) := rfl

theorem setWorker_self (world : Supervisor) (worker : ℕ) :
    world.setWorker worker (world.workers worker) = world := by
  rw [Supervisor.setWorker, update_eq_self]

theorem commandWorker_exec (h : Manned world ocs worker) :
    (commandWorker .causal .success worker).exec world = (world, .ok ()) := by
  have hcommand : Worker.command .causal .success (world.workers worker) =
      (world.workers worker, .ok ()) := by
    rw [h.live]
    rfl
  rw [commandWorker, callWorker_exec, hcommand, setWorker_self]

theorem requireActive_exec (h : Manned world ocs worker) :
    (callWorker worker (Worker.requireActive .causal)).exec world = (world, .ok ()) := by
  have hrequire : Worker.requireActive .causal (world.workers worker) =
      (world.workers worker, .ok ()) := by
    rw [h.live]
    rfl
  rw [callWorker_exec, hrequire, setWorker_self]

theorem assertCurrent_exec {generation : ℕ} (h : world.fence ocs = generation) :
    (assertCurrent ocs generation).exec world = (world, .ok ()) := by
  simp [assertCurrent, h]

theorem currentTarget_exec (h : Manned world ocs worker)
    (hfence : world.fence ocs = world.generation ocs) :
    (currentTarget .success ocs).exec world =
      (world, .ok (worker, world.generation ocs)) := by
  have hgeneration : (world.workers worker).binding.generation = world.generation ocs := by
    rw [h.live]
    rfl
  rw [currentTarget, exec_bind_ok (entry_exec h), exec_bind_ok (commandWorker_exec h),
    exec_read_bind, hgeneration, exec_bind_ok (assertCurrent_exec hfence)]
  rfl

theorem draw_exec (assignment : Assignment) (world : Supervisor) :
    (draw assignment).exec world = (world.drawnOne, .ok (assignment.uuid world.drawn)) := rfl

end Workers

/-! ## A restart -/

section Restart

variable {assignment : Assignment} {world : Supervisor} {ocs : String} {old : ℕ}

/-- The binding of the replacement. -/
def replacementBinding (world : Supervisor) (ocs : String) : InstanceBinding :=
  successorBinding (world.bindings ocs) "" (world.generation ocs + 1)

/-- The fleet after the replacement of a worker. -/
def replaced (world : Supervisor) (ocs : String) (old : ℕ) : Supervisor :=
  { workers :=
      update (update world.workers old (world.workers old).crash)
        world.constructed ⟨replacementBinding world ocs, .active, some true⟩
    constructed := world.constructed + 1
    drawn := world.drawn
    table := update world.table ocs (some world.constructed)
    bindings := update world.bindings ocs (replacementBinding world ocs)
    fence := update world.fence ocs (world.generation ocs + 1) }

/-- What the replacement reports: nothing but the generation has changed. -/
def replacement (world : Supervisor) (ocs messageId : String) (old : ℕ) : RecoveryEvent :=
  { ocsId := ocs
    oldInstance := old
    newInstance := world.constructed
    oldGeneration := world.generation ocs
    newGeneration := world.generation ocs + 1
    replayedMessageId := messageId
    identityPreserved := true
    authorityPreserved := true
    profilePreserved := true
    stateNamespacePreserved := true
    memoryNamespacePreserved := true }

theorem construct_exec {kind : WorkerKind} {binding : InstanceBinding}
    (h : constructFailure assignment.profiles kind binding = none) :
    (construct assignment kind binding).exec world =
      ({ world.setWorker world.constructed (Worker.declare binding) with
          constructed := world.constructed + 1 }, .ok world.constructed) := by
  simp [construct, h]

theorem startWorker_exec {worker : ℕ} {binding : InstanceBinding}
    (hstart : assignment.start worker = .success)
    (hworker : world.workers worker = Worker.declare binding) :
    (startWorker assignment .causal worker).exec world =
      (world.setWorker worker ⟨binding, .active, some true⟩, .ok ()) := by
  rw [startWorker, callWorker_exec, hstart, hworker, Worker.start_success]

theorem restartActor_exec (hstart : assignment.start world.constructed = .success)
    (hmanned : Manned world ocs old) (hfence : world.fence ocs = world.generation ocs)
    (hadmitted : constructFailure assignment.profiles .causal (world.bindings ocs) = none)
    (messageId : String) :
    (restartActor assignment ocs messageId).exec world =
      (replaced world ocs old, .ok (replacement world ocs messageId old)) := by
  let crashed := world.setWorker old (world.workers old).crash
  let fenced : Supervisor :=
    { crashed with fence := update world.fence ocs (world.generation ocs + 1) }
  let constructed : Supervisor :=
    { fenced.setWorker world.constructed (Worker.declare (replacementBinding world ocs)) with
      constructed := world.constructed + 1 }
  have hadvance : (advance ocs (world.bindings ocs).generation).exec crashed =
      (fenced, .ok (world.generation ocs + 1)) := by
    have hcurrent : crashed.fence ocs = (world.bindings ocs).generation := hfence
    simp only [advance, exec_act, hcurrent, ne_eq, not_true_eq_false, if_false]
    rfl
  have hconstruct : (construct assignment .causal (replacementBinding world ocs)).exec fenced =
      (constructed, .ok world.constructed) := by
    apply construct_exec
    rw [replacementBinding, constructFailure_successor, hadmitted]
  have hlaunch : (startWorker assignment .causal world.constructed).exec constructed =
      (constructed.setWorker world.constructed
        ⟨replacementBinding world ocs, .active, some true⟩, .ok ()) := by
    apply startWorker_exec hstart
    exact update_self ..
  have hworkers : (constructed.setWorker world.constructed
      ⟨replacementBinding world ocs, .active, some true⟩).workers =
        (replaced world ocs old).workers := update_idem ..
  rw [restartActor, exec_bind_ok (entry_exec hmanned), exec_read_bind,
    exec_bind_ok (show (crashWorker old).exec world = (crashed, .ok ()) from rfl),
    exec_bind_ok hadvance]
  refine (exec_bind_ok hconstruct).trans ?_
  refine (exec_bind_ok hlaunch).trans ?_
  apply Prod.ext
  · exact congrArg (fun workers => { replaced world ocs old with workers := workers }) hworkers
  · change Except.ok _ = Except.ok _
    simp [replacement, successorBinding, Supervisor.generation]

theorem bindings_replaced_self (world : Supervisor) (ocs : String) (old : ℕ) :
    (replaced world ocs old).bindings ocs = replacementBinding world ocs :=
  update_self ..

theorem bindings_replaced_of_ne {other : String} (h : other ≠ ocs) :
    (replaced world ocs old).bindings other = world.bindings other :=
  update_of_ne h ..

theorem fence_replaced_of_ne {other : String} (h : other ≠ ocs) :
    (replaced world ocs old).fence other = world.fence other :=
  update_of_ne h ..

theorem manned_replaced_of_ne {profiles : Profiles} (h : Running profiles world)
    (hocs : ocs ∈ missionOrder) (hold : Manned world ocs old) {other : String} {worker : ℕ}
    (hother : other ∈ missionOrder) (hne : other ≠ ocs) (hmanned : Manned world other worker) :
    Manned (replaced world ocs old) other worker where
  entry := by
    rw [← hmanned.entry]
    exact update_of_ne hne ..
  old := Nat.lt_succ_of_lt hmanned.old
  live := by
    have hdifferent : worker ≠ old := by
      intro heq
      rw [heq] at hmanned
      exact hne (h.injective hother hocs hmanned hold)
    rw [bindings_replaced_of_ne hne, ← hmanned.live]
    calc (replaced world ocs old).workers worker
        = update world.workers old (world.workers old).crash worker :=
          update_of_ne (Nat.ne_of_lt hmanned.old) ..
      _ = world.workers worker := update_of_ne hdifferent ..

theorem manned_replaced_self (world : Supervisor) (ocs : String) (old : ℕ) :
    Manned (replaced world ocs old) ocs world.constructed where
  entry := update_self ..
  old := Nat.lt_succ_self _
  live := by
    rw [bindings_replaced_self]
    exact update_self ..

theorem generation_replaced (world : Supervisor) (ocs : String) (old : ℕ) (other : String) :
    (replaced world ocs old).generation other =
      world.generation other + if other = ocs then 1 else 0 := by
  by_cases hother : other = ocs
  · rw [hother, if_pos rfl, Supervisor.generation, bindings_replaced_self]
    rfl
  · rw [if_neg hother, Nat.add_zero, Supervisor.generation, bindings_replaced_of_ne hother]
    rfl

theorem Running.replaced {profiles : Profiles} (h : Running profiles world)
    (hocs : ocs ∈ missionOrder) (hold : Manned world ocs old) :
    Running profiles (replaced world ocs old) where
  manned := by
    intro other hother
    by_cases hne : other = ocs
    · rw [hne]
      exact ⟨_, manned_replaced_self world ocs old⟩
    · obtain ⟨worker, hmanned⟩ := h.manned other hother
      exact ⟨worker, manned_replaced_of_ne h hocs hold hother hne hmanned⟩
  fence := by
    intro other hother
    by_cases hne : other = ocs
    · rw [hne, bindings_replaced_self]
      exact update_self ..
    · rw [fence_replaced_of_ne hne, bindings_replaced_of_ne hne]
      exact h.fence other hother
  own := by
    intro other hother
    by_cases hne : other = ocs
    · rw [hne, bindings_replaced_self]
      exact h.own ocs hocs
    · rw [bindings_replaced_of_ne hne]
      exact h.own other hother
  admitted := by
    intro other hother
    by_cases hne : other = ocs
    · rw [hne, bindings_replaced_self, replacementBinding, constructFailure_successor]
      exact h.admitted ocs hocs
    · rw [bindings_replaced_of_ne hne]
      exact h.admitted other hother

end Restart

/-! ## A hop -/

section Hops

variable {V D : Type} [DecidableEq D] {hash : Payload V → D} {assignment : Assignment}
  {world : Supervisor} {ocs : String} {worker : ℕ} {contribution : Contribution}

/-- The answers of a healthy worker. -/
def healthy : FleetHop V D := ⟨.success, .success, .own⟩

/-- The receipt of the process. -/
def ownReceipt (hash : Payload V → D) (binding : InstanceBinding) (worker : ℕ)
    (contribution : Contribution) (envelope : CausalMissionEnvelope V D) :
    CausalMissionReceipt V D :=
  { messageId := envelope.messageId
    missionId := envelope.missionId
    targetOcs := binding.ocsId
    targetInstance := worker
    targetGeneration := binding.generation
    declaredSpecialty := contribution.specialty
    transformation := contribution.transformation
    contributionKey := contribution.result
    inputPayloadHash := envelope.payloadHash
    outputPayloadHash := hash (envelope.payload.contributed binding.ocsId contribution)
    outputPayload := envelope.payload.contributed binding.ocsId contribution
    causationId := envelope.causationId
    correlationId := envelope.correlationId
    traceId := envelope.traceId
    accepted := true }

/-- An envelope that the process accepts. -/
structure Deliverable (hash : Payload V → D) (binding : InstanceBinding)
    (envelope : CausalMissionEnvelope V D) : Prop where
  target : envelope.targetOcs = binding.ocsId
  generation : envelope.targetExpectedGeneration = binding.generation
  payload : hash envelope.payload = envelope.payloadHash
  predecessor : envelope.predecessorOutputHash = envelope.payloadHash
  fresh : binding.ocsId ∉ envelope.payload.contributions

variable {binding : InstanceBinding} {envelope : CausalMissionEnvelope V D}

theorem workerProcess_deliverable {profiles : Profiles} (h : Deliverable hash binding envelope)
    (hcontribution : contributionOf profiles binding.ocsId = some contribution) :
    workerProcess hash profiles binding worker envelope =
      .ok (ownReceipt hash binding worker contribution envelope) := by
  have htransform := transform_ok hcontribution h.fresh
  simp only [workerProcess, h.target, h.generation, h.payload, h.predecessor, ne_eq,
    not_true_eq_false, if_false, htransform]
  rfl

theorem processWorker_exec
    (hmanned : Manned world ocs worker)
    (h : Deliverable hash (world.bindings ocs) envelope)
    (hcontribution :
      contributionOf assignment.profiles (world.bindings ocs).ocsId = some contribution) :
    (processWorker hash assignment .own worker envelope).exec world =
      (world, .ok (ownReceipt hash (world.bindings ocs) worker contribution envelope)) := by
  have hbinding : (world.workers worker).binding = world.bindings ocs := by
    rw [hmanned.live]
  rw [processWorker, exec_bind_ok (requireActive_exec hmanned), exec_read_bind, hbinding,
    workerProcess_deliverable h hcontribution]
  rfl

theorem receiptFailure_own {ids : MissionIds} (hmission : envelope.missionId = ids.missionId)
    (htrace : envelope.traceId = ids.traceId)
    (hcorrelation : envelope.correlationId = ids.correlationId)
    (hpayload : envelope.payload.missionId = some ids.missionId) :
    receiptFailure hash ids envelope (ownReceipt hash binding worker contribution envelope) =
      none := by
  simp [receiptFailure, ownReceipt, hmission, htrace, hcorrelation, Payload.contributed,
    hpayload]

theorem contributionOf_of_admitted {profiles : Profiles}
    (h : constructFailure profiles .causal binding = none)
    (hocs : binding.ocsId ∈ missionOrder) :
    ∃ contribution, contributionOf profiles binding.ocsId = some contribution ∧
      some contribution.specialty = (profiles binding.ocsId).map (·.specialty) ∧
      some contribution.result = (specialtyContribution binding.ocsId).map (·.2) := by
  have hspecialty : ∀ ocs ∈ missionOrder, (specialtyContribution ocs).isSome := by decide
  obtain ⟨pair, hpair⟩ := Option.isSome_iff_exists.mp (hspecialty _ hocs)
  cases hprofile : profiles binding.ocsId with
  | none =>
    have hfailure : bindFailure profiles binding ≠ none := by
      simp only [bindFailure, hprofile]
      split_ifs <;> simp
    rw [constructFailure] at h
    cases hbind : bindFailure profiles binding with
    | none => exact absurd hbind hfailure
    | some failure =>
      rw [hbind] at h
      cases h
  | some profile =>
    refine ⟨⟨pair.1, profile.specialty, pair.2⟩, ?_, rfl, ?_⟩
    · simp only [contributionOf, hpair, hprofile]
    · rw [hpair]
      rfl

/-- Only the mission's victim gets a new generation. -/
def raised (failed ocs other : String) : ℕ := if other = failed ∧ ocs = failed then 1 else 0

omit [DecidableEq D] in
theorem restartIf_answers (hstart : ∀ number, assignment.start number = .success)
    (hrunning : Running assignment.profiles world) (hocs : ocs ∈ missionOrder)
    (failed : String) (ids : MissionIds) (leg : Leg V D) (messageId : String)
    (payloadHash : D) :
    (restartIf assignment failed ocs
      (envelopeTo ids leg ocs messageId (world.generation ocs) payloadHash)
      leg.recovery).Answers world fun delivery now =>
        Running assignment.profiles now ∧ now.drawn = world.drawn ∧
        delivery.1 = envelopeTo ids leg ocs messageId (now.generation ocs) payloadHash ∧
        (∃ old, delivery.2 =
          if ocs = failed then some (replacement world ocs messageId old)
          else leg.recovery) ∧
        ∀ other, now.generation other = world.generation other + raised failed ocs other := by
  obtain ⟨old, hold⟩ := hrunning.manned ocs hocs
  by_cases hfailed : ocs = failed
  · rw [restartIf, if_pos hfailed]
    apply answers_bind_of_exec (restartActor_exec (hstart _) hold (hrunning.fence ocs hocs)
      (hrunning.admitted ocs hocs) messageId)
    apply answers_bind_of_exec (assertCurrent_exec (update_self ..))
    apply answers_pure
    refine ⟨hrunning.replaced hocs hold, rfl, ?_, ⟨old, by rw [if_pos hfailed]⟩, ?_⟩
    · rw [generation_replaced, if_pos rfl]
      rfl
    · intro other
      rw [generation_replaced, raised]
      simp [hfailed]
  · rw [restartIf, if_neg hfailed]
    apply answers_pure
    refine ⟨hrunning, rfl, rfl, ⟨old, by rw [if_neg hfailed]⟩, ?_⟩
    intro other
    simp [raised, hfailed]

end Hops

/-! ## A mission -/

section Missions

variable {D : Type} [DecidableEq D]

open LongitudinalDistributedOperation

theorem linked_append {receipts : List (CausalMissionReceipt String D)}
    {receipt : CausalMissionReceipt String D} (h : linked receipts = true)
    (hlast : ∀ last, receipts.getLast? = some last →
      last.outputPayloadHash = receipt.inputPayloadHash) :
    linked (receipts ++ [receipt]) = true := by
  induction receipts with
  | nil => rfl
  | cons first rest ih =>
    cases rest with
    | nil =>
      have hfirst := hlast first rfl
      simpa [linked] using hfirst
    | cons second rest =>
      have hlinked : (first.outputPayloadHash = second.inputPayloadHash) ∧
          linked (second :: rest) = true := by
        simpa [linked] using h
      have hrest := ih hlinked.2 hlast
      simpa [linked] using And.intro hlinked.1 (by simpa [linked] using hrest)

/-- What a replacement reports of an OCS that had the given generation. -/
structure RecoveryEvent.Faithful (event : RecoveryEvent) (ocs : String) (generation : ℕ) :
    Prop where
  ocs : event.ocsId = ocs
  generation : event.newGeneration = generation + 1
  identity : event.identityPreserved = true
  authority : event.authorityPreserved = true
  profile : event.profilePreserved = true
  stateNamespace : event.stateNamespacePreserved = true
  memoryNamespace : event.memoryNamespacePreserved = true

/-- Between two hops of a mission: the OCS that have contributed, in their order. -/
structure Underway (hash : Payload String → D) (profiles : Profiles)
    (given : Dict String String) (failed : String) (ids : MissionIds) (start : Supervisor)
    (contributed : List String) (leg : Leg String D) (world : Supervisor) : Prop where
  running : Running profiles world
  drawn : start.drawn ≤ world.drawn
  generation : ∀ ocs, world.generation ocs =
    start.generation ocs + if ocs = failed ∧ failed ∈ contributed then 1 else 0
  given : leg.payload.given = given
  mission : leg.payload.missionId = some ids.missionId
  keys : leg.payload.contributions.keys = contributed.reverse
  contributions : ∀ ocs ∈ contributed,
    leg.payload.contributions.lookup ocs = contributionOf profiles ocs
  targets : leg.receipts.map (·.targetOcs) = contributed
  own : ∀ receipt ∈ leg.receipts, receipt.missionId = ids.missionId ∧
    receipt.traceId = ids.traceId ∧ receipt.correlationId = ids.correlationId
  linked : linked leg.receipts = true
  hash : hash leg.payload = leg.predecessorOutputHash
  last : ∀ receipt, leg.receipts.getLast? = some receipt →
    receipt.outputPayloadHash = leg.predecessorOutputHash
  recovery : failed ∈ contributed →
    ∃ event, leg.recovery = some event ∧ event.Faithful failed (start.generation failed)

variable {hash : Payload String → D} {assignment : Assignment} {given : Dict String String}
  {failed : String} {ids : MissionIds} {start world : Supervisor} {contributed : List String}
  {leg : Leg String D} {ocs : String}

/-- The leg after a hop whose receipt is the given one. -/
def Leg.extended (leg : Leg String D) (receipt : CausalMissionReceipt String D)
    (messageId : String) (recovery : Option RecoveryEvent) : Leg String D :=
  { payload := receipt.outputPayload
    receipts := leg.receipts ++ [receipt]
    previousMessageId := messageId
    predecessorOutputHash := receipt.outputPayloadHash
    recovery := recovery }

theorem Underway.extend {now : Supervisor} {binding : InstanceBinding} {worker : ℕ}
    {contribution : Contribution} {messageId : String} {generation old : ℕ}
    (h : Underway hash assignment.profiles given failed ids start contributed leg world)
    (hnew : ocs ∉ contributed) (hrunning : Running assignment.profiles now)
    (hdrawn : world.drawn ≤ now.drawn)
    (hgeneration : ∀ other,
      now.generation other = world.generation other + raised failed ocs other)
    (hocs : binding.ocsId = ocs)
    (hcontribution : contributionOf assignment.profiles ocs = some contribution) :
    Underway hash assignment.profiles given failed ids start (contributed ++ [ocs])
      (Leg.extended leg
        (ownReceipt hash binding worker contribution
          (envelopeTo ids leg ocs messageId generation (hash leg.payload)))
        messageId
        (if ocs = failed then some (replacement world ocs messageId old) else leg.recovery))
      now := by
  subst hocs
  refine
    { running := hrunning
      drawn := Nat.le_trans h.drawn hdrawn
      generation := ?_
      given := h.given
      mission := h.mission
      keys := ?_
      contributions := ?_
      targets := ?_
      own := ?_
      linked := ?_
      hash := rfl
      last := ?_
      recovery := ?_ }
  · intro other
    rw [hgeneration, h.generation, raised]
    by_cases hother : other = failed
    · by_cases hfailed : binding.ocsId = failed
      · rw [← hfailed] at hother ⊢
        simp [hother, hnew]
      · simp [hother, hfailed, Ne.symm hfailed]
    · simp [hother]
  · have hfresh : binding.ocsId ∉ leg.payload.contributions.keys := by
      rw [h.keys, List.mem_reverse]
      exact hnew
    calc (leg.payload.contributions.insert binding.ocsId contribution).keys
        = binding.ocsId :: leg.payload.contributions.keys.erase binding.ocsId :=
          AList.keys_insert _
      _ = binding.ocsId :: contributed.reverse := by
          rw [List.erase_of_not_mem hfresh, h.keys]
      _ = (contributed ++ [binding.ocsId]).reverse := by simp
  · intro other hother
    have hlookup := Dict.lookup_insert_eq leg.payload.contributions binding.ocsId other
      contribution
    refine hlookup.trans ?_
    by_cases hsame : other = binding.ocsId
    · rw [if_pos hsame, hsame, hcontribution]
    · rw [if_neg hsame]
      apply h.contributions
      simpa [hsame] using hother
  · rw [Leg.extended, List.map_append, h.targets]
    rfl
  · intro receipt hreceipt
    have hcases := List.mem_append.mp hreceipt
    apply hcases.elim (h.own receipt)
    intro hlast
    rw [List.mem_singleton.mp hlast]
    exact ⟨rfl, rfl, rfl⟩
  · apply linked_append h.linked
    intro last hlast
    rw [h.last last hlast, ← h.hash]
    rfl
  · intro receipt hreceipt
    rw [Leg.extended, List.getLast?_concat, Option.some.injEq] at hreceipt
    rw [← hreceipt]
    rfl
  · intro hfailed
    by_cases hsame : binding.ocsId = failed
    · refine ⟨_, if_pos hsame, ?_⟩
      have hunchanged : world.generation failed = start.generation failed := by
        rw [h.generation, ← hsame]
        simp [hnew]
      exact ⟨hsame, by rw [← hunchanged, ← hsame]; rfl, rfl, rfl, rfl, rfl, rfl⟩
    · have hbefore : failed ∈ contributed := by simpa [Ne.symm hsame] using hfailed
      obtain ⟨event, hevent, hfaithful⟩ := h.recovery hbefore
      exact ⟨event, (if_neg hsame).trans hevent, hfaithful⟩

theorem Underway.fleetHop (hstart : ∀ number, assignment.start number = .success)
    (h : Underway hash assignment.profiles given failed ids start contributed leg world)
    (hocs : ocs ∈ missionOrder) (hnew : ocs ∉ contributed) :
    (fleetHop hash assignment failed ids healthy ocs leg).Answers world
      (Underway hash assignment.profiles given failed ids start (contributed ++ [ocs])) := by
  obtain ⟨worker, hmanned⟩ := h.running.manned ocs hocs
  apply answers_bind_of_exec (currentTarget_exec hmanned (h.running.fence ocs hocs))
  apply answers_raiseIf_bind (not_not_intro h.hash)
  apply answers_bind_of_exec (draw_exec assignment world)
  apply Answers.bind (restartIf_answers hstart h.running.drawnOne hocs failed ids leg _ _)
  intro delivery now hnow
  obtain ⟨envelope, recovery⟩ := delivery
  obtain ⟨hrunning, hdrawn, henvelope, ⟨old, hrecovery⟩, hgeneration⟩ := hnow
  simp only at henvelope hrecovery
  obtain ⟨current, hcurrent⟩ := hrunning.manned ocs hocs
  have hown := hrunning.own ocs hocs
  have hadmitted := contributionOf_of_admitted (hrunning.admitted ocs hocs)
    (by rw [hown]; exact hocs)
  obtain ⟨contribution, hcontribution, -, -⟩ := hadmitted
  have hdeliverable : Deliverable hash (now.bindings ocs) envelope := by
    rw [henvelope]
    refine ⟨hown.symm, rfl, rfl, h.hash.symm, ?_⟩
    rw [hown, AList.mem_keys]
    simpa [envelopeTo, h.keys] using hnew
  apply answers_bind_of_exec (currentTarget_exec hcurrent (hrunning.fence ocs hocs))
  apply answers_bind_of_exec (processWorker_exec hcurrent hdeliverable hcontribution)
  have hreceipt : receiptFailure hash ids envelope
      (ownReceipt hash (now.bindings ocs) current contribution envelope) = none := by
    rw [henvelope]
    exact receiptFailure_own rfl rfl rfl h.mission
  rw [hreceipt]
  apply answers_bind_of_exec (exec_pure () now)
  apply answers_pure
  rw [hrecovery, henvelope]
  rw [hown] at hcontribution
  have hlater : world.drawn ≤ now.drawn := by
    rw [hdrawn]
    exact Nat.le_succ _
  exact h.extend hnew hrunning hlater hgeneration hown hcontribution

theorem Underway.fleetHops (hstart : ∀ number, assignment.start number = .success)
    {order : List String}
    (h : Underway hash assignment.profiles given failed ids start contributed leg world)
    (hsplit : contributed ++ order = missionOrder) :
    (fleetHops hash assignment failed ids (fun _ => healthy) order leg).Answers world
      (Underway hash assignment.profiles given failed ids start missionOrder) := by
  induction order generalizing contributed leg world with
  | nil =>
    rw [List.append_nil] at hsplit
    rw [← hsplit]
    exact answers_pure h
  | cons ocs order ih =>
    have hnodup : (contributed ++ ocs :: order).Nodup := by
      rw [hsplit]
      decide
    have hocs : ocs ∈ missionOrder := by
      rw [← hsplit]
      simp
    have hnew : ocs ∉ contributed := by
      intro hold
      exact (List.nodup_append.mp hnodup).2.2 ocs hold ocs (by simp) rfl
    apply Answers.bind (h.fleetHop hstart hocs hnew)
    intro next now hnext
    apply ih hnext
    rw [List.append_assoc]
    exact hsplit

/-- A mission that has returned: its result, and the fleet it found and left. -/
structure Recovered (assignment : Assignment) (given : Dict String String)
    (failed missionId : String) (start : Supervisor) (result : RecoveredMissionResult String D)
    (world : Supervisor) : Prop where
  running : Running assignment.profiles world
  drawn : start.drawn + 2 ≤ world.drawn
  generation : ∀ ocs,
    world.generation ocs = start.generation ocs + if ocs = failed then 1 else 0
  missionId : result.missionId = missionId
  traceId : result.traceId = "dr6-trace:" ++ assignment.uuid start.drawn
  correlationId :
    result.correlationId = "dr6-correlation:" ++ assignment.uuid (start.drawn + 1)
  given : result.finalPayload.given = given
  count : result.finalPayload.contributions.keys.length = 11
  complete : missionHasAllSpecialtyContributions assignment.profiles result.finalPayload = true
  targets : result.receipts.map (·.targetOcs) = missionOrder
  causal : causalReconstructionValid result = true
  recovery : result.recovery.Faithful failed (start.generation failed)

theorem Underway.complete
    (h : Underway hash assignment.profiles given failed ids start missionOrder leg world) :
    missionHasAllSpecialtyContributions assignment.profiles leg.payload = true := by
  rw [missionHasAllSpecialtyContributions, Bool.and_eq_true]
  constructor
  · rw [h.keys]
    decide
  · rw [List.all_eq_true]
    intro ocs hocs
    have hown := h.running.own ocs hocs
    obtain ⟨contribution, hcontribution, hspecialty, hresult⟩ :=
      contributionOf_of_admitted (h.running.admitted ocs hocs) (by rw [hown]; exact hocs)
    rw [hown] at hcontribution hspecialty hresult
    rw [h.contributions ocs hocs, hcontribution]
    simp [hspecialty, hresult]

theorem Underway.causal {event : RecoveryEvent}
    (h : Underway hash assignment.profiles given failed ids start missionOrder leg world) :
    causalReconstructionValid
      ⟨ids.missionId, ids.traceId, ids.correlationId, leg.receipts, leg.payload, event⟩ =
        true := by
  have hlength : leg.receipts.length = 11 := by
    rw [← List.length_map, h.targets]
    rfl
  have htraces : leg.receipts.all fun receipt => receipt.traceId = ids.traceId := by
    rw [List.all_eq_true]
    intro receipt hreceipt
    simp [(h.own receipt hreceipt).2.1]
  have hcorrelations :
      leg.receipts.all fun receipt => receipt.correlationId = ids.correlationId := by
    rw [List.all_eq_true]
    intro receipt hreceipt
    simp [(h.own receipt hreceipt).2.2]
  have hmissions : leg.receipts.all fun receipt => receipt.missionId = ids.missionId := by
    rw [List.all_eq_true]
    intro receipt hreceipt
    simp [(h.own receipt hreceipt).1]
  rw [causalReconstructionValid, hlength, htraces, hcorrelations, hmissions, h.linked]
  rfl

theorem entries_length {profiles : Profiles} (h : Running profiles world) :
    (world.entries missionOrder).length = 11 := by
  have hsome : ∀ ocs ∈ missionOrder, (world.table ocs).isSome := by
    intro ocs hocs
    obtain ⟨worker, hworker⟩ := h.manned ocs hocs
    rw [hworker.entry]
    rfl
  have hlength : ∀ order : List String, (∀ ocs ∈ order, (world.table ocs).isSome) →
      (order.filterMap world.table).length = order.length := by
    intro order horder
    induction order with
    | nil => rfl
    | cons ocs order ih =>
      obtain ⟨worker, hworker⟩ := Option.isSome_iff_exists.mp (horder ocs (by simp))
      rw [List.filterMap_cons_some hworker, List.length_cons, List.length_cons,
        ih fun other hother => horder other (by simp [hother])]
  exact hlength missionOrder hsome

theorem underway_first (h : Running assignment.profiles world) :
    Underway hash assignment.profiles given failed ids world []
      (firstLeg hash given ids.missionId) world where
  running := h
  drawn := Nat.le_refl _
  generation := by simp
  given := rfl
  mission := rfl
  keys := rfl
  contributions := by simp
  targets := rfl
  own := by simp [firstLeg]
  linked := rfl
  hash := rfl
  last := by simp [firstLeg]
  recovery := by simp

/-- A mission with healthy workers loses one worker and returns. -/
theorem executeWithMidflightRecovery_answers
    (hstart : ∀ number, assignment.start number = .success)
    (h : Running assignment.profiles world) (hfailed : failed ∈ missionOrder)
    {missionId : String} (hmission : missionId ≠ "") :
    (executeWithMidflightRecovery hash assignment given failed (some missionId)
      fun _ => healthy).Answers world
      (Recovered assignment given failed missionId world) := by
  have hstarted : (requireStarted failed).exec world = (world, .ok ()) := by
    rw [requireStarted, exec_read_bind, exec_raiseIf_bind, entries_length h]
    simp [raiseIf, hfailed]
  apply answers_bind_of_exec hstarted
  have hgiven : (missionIdOr assignment (some missionId)).exec world =
      (world, .ok missionId) := by
    rw [missionIdOr, if_neg hmission]
    rfl
  apply answers_bind_of_exec hgiven
  apply answers_bind_of_exec (draw_exec assignment world)
  apply answers_bind_of_exec (draw_exec assignment world.drawnOne)
  apply Answers.bind ((underway_first h.drawnOne.drawnOne).fleetHops hstart rfl)
  intro leg now hleg
  obtain ⟨event, hevent, hfaithful⟩ := hleg.recovery hfailed
  rw [hevent]
  apply answers_raiseIf_bind
  · rw [hleg.complete]
    decide
  apply answers_raiseIf_bind
  · rw [hleg.targets]
    decide
  apply answers_pure
  exact
    { running := hleg.running
      drawn := hleg.drawn
      generation := by
        intro ocs
        rw [hleg.generation]
        simp only [hfailed, and_true]
        rfl
      missionId := rfl
      traceId := rfl
      correlationId := rfl
      given := hleg.given
      count := by
        rw [hleg.keys]
        rfl
      complete := hleg.complete
      targets := hleg.targets
      causal := hleg.causal
      recovery := hfaithful }

end Missions

/-! ## The schedule -/

section Schedules

open LongitudinalDistributedOperation

variable {D : Type} [DecidableEq D] {hash : Payload String → D} {assignment : Assignment}
  {initial : String → InstanceBinding} {stem : String} {start world : Supervisor}
  {handled : List String} {cycles : Cycles} {failed : String}

/-- Every record counts the restarts of its OCS up to its cycle. -/
structure Accounted (start : Supervisor) (handled : List String)
    (records : List LongitudinalCycleRecord) : Prop where
  length : records.length = handled.length
  counts : ∀ index failed, handled[index]? = some failed →
    ∃ record, records[index]? = some record ∧ record.cycleIndex = index + 1 ∧
      record.failedOcs = failed ∧
      record.recoveredGeneration =
        start.generation failed + (handled.take (index + 1)).count failed

theorem Accounted.append {records : List LongitudinalCycleRecord}
    {record : LongitudinalCycleRecord} (h : Accounted start handled records)
    (hindex : record.cycleIndex = handled.length + 1) (hfailed : record.failedOcs = failed)
    (hgeneration : record.recoveredGeneration =
      start.generation failed + handled.count failed + 1) :
    Accounted start (handled ++ [failed]) (records ++ [record]) where
  length := by simp [h.length]
  counts := by
    intro index other hother
    by_cases hbefore : index < handled.length
    · rw [List.getElem?_append_left hbefore] at hother
      obtain ⟨earlier, hearlier, hrest⟩ := h.counts index other hother
      refine ⟨earlier, ?_, ?_⟩
      · rw [List.getElem?_append_left (by rw [h.length]; exact hbefore)]
        exact hearlier
      · rw [List.take_append_of_le_length hbefore]
        exact hrest
    · have hlast : index = handled.length := by
        have hbound := (List.getElem?_eq_some_iff.mp hother).1
        rw [List.length_append, List.length_singleton] at hbound
        omega
      subst hlast
      rw [List.getElem?_concat_length, Option.some.injEq] at hother
      subst hother
      refine ⟨record, ?_, hindex, hfailed, ?_⟩
      · rw [← h.length, List.getElem?_concat_length]
      · have htake : (handled ++ [failed]).take (handled.length + 1) = handled ++ [failed] :=
          List.take_of_length_le (by rw [List.length_append, List.length_singleton])
        rw [hgeneration, htake, List.count_append, List.count_singleton_self, Nat.add_assoc]

/-- Between two cycles: the entries of the schedule that have been handled. -/
structure Progress (assignment : Assignment) (stem : String) (start : Supervisor)
    (handled : List String) (cycles : Cycles) (world : Supervisor) : Prop where
  running : Running assignment.profiles world
  generation : ∀ ocs, world.generation ocs = start.generation ocs + handled.count ocs
  accounted : Accounted start handled cycles.records
  sound : cycles.records.all LongitudinalCycleRecord.isSound = true
  missions : ∀ mission ∈ cycles.seenMissions,
    ∃ index < handled.length + 1, mission = cycleMission stem index
  traces : ∀ trace ∈ cycles.seenTraces,
    ∃ number < world.drawn, trace = "dr6-trace:" ++ assignment.uuid number
  correlations : ∀ correlation ∈ cycles.seenCorrelations,
    ∃ number < world.drawn, correlation = "dr6-correlation:" ++ assignment.uuid number
  missionCount : cycles.seenMissions.length = handled.length
  traceCount : cycles.seenTraces.length = handled.length
  correlationCount : cycles.seenCorrelations.length = handled.length

theorem append_right_injective (stem : String) :
    Function.Injective fun suffix : String => stem ++ suffix := by
  intro left right h
  have hlists := congrArg String.toList h
  simp only [String.toList_append, List.append_cancel_left_eq] at hlists
  exact String.toList_injective hlists

theorem cycleMission_injective (stem : String) : Function.Injective (cycleMission stem) := by
  intro left right h
  exact zeroPadded_injective 4 (append_right_injective _ h)

theorem cycleMission_ne_empty (stem : String) (index : ℕ) : cycleMission stem index ≠ "" := by
  intro h
  have hlists := congrArg String.toList h
  simp [cycleMission] at hlists

theorem not_seen {texts : List String} {f : ℕ → String} (hf : Function.Injective f)
    {bound number : ℕ} (hseen : ∀ text ∈ texts, ∃ earlier < bound, text = f earlier)
    (hnumber : bound ≤ number) : f number ∉ texts := by
  intro hmem
  obtain ⟨earlier, hearlier, heq⟩ := hseen _ hmem
  have hsame := hf heq
  omega

theorem seen_insert {texts : List String} {f : ℕ → String} {bound number later : ℕ}
    (hseen : ∀ text ∈ texts, ∃ earlier < bound, text = f earlier) (hnumber : number < later)
    (hbound : bound ≤ later) :
    ∀ text ∈ texts.insert (f number), ∃ earlier < later, text = f earlier := by
  intro text htext
  rw [List.mem_insert_iff] at htext
  apply htext.elim
  · intro heq
    exact ⟨number, hnumber, heq⟩
  · intro hold
    obtain ⟨earlier, hearlier, heq⟩ := hseen text hold
    exact ⟨earlier, Nat.lt_of_lt_of_le hearlier hbound, heq⟩

theorem cycleFailure_recovered {index : ℕ} {missionId : String}
    {result : RecoveredMissionResult String D}
    (h : Recovered assignment (cyclePayload index) failed missionId start result world)
    (hmission : result.missionId ∉ cycles.seenMissions)
    (htrace : result.traceId ∉ cycles.seenTraces)
    (hcorrelation : result.correlationId ∉ cycles.seenCorrelations) :
    cycleFailure assignment.profiles result (cycleMarker index) cycles = none := by
  have hmarker : result.finalPayload.given.lookup "cycle_marker" = some (cycleMarker index) := by
    rw [h.given]
    exact AList.lookup_insert ..
  have hcount : result.receipts.length = 11 := by
    rw [← List.length_map, h.targets]
    rfl
  have hactors : (result.receipts.map (·.targetOcs)).dedup.length = 11 := by
    rw [h.targets]
    rfl
  simp only [cycleFailure, hmission, htrace, hcorrelation, hmarker, hcount, hactors,
    h.complete, ne_eq, not_true_eq_false, Bool.true_eq_false, if_false]

theorem cycleRecord_isSound {index : ℕ} {missionId : String}
    {result : RecoveredMissionResult String D}
    (h : Recovered assignment (cyclePayload index) failed missionId start result world)
    (hinitial : (initial failed).ocsId = failed) :
    (cycleRecord index failed (cycleMarker index) (initial failed) result).isSound = true := by
  have hmarker : result.finalPayload.given.lookup "cycle_marker" = some (cycleMarker index) := by
    rw [h.given]
    exact AList.lookup_insert ..
  have hcount : result.receipts.length = 11 := by
    rw [← List.length_map, h.targets]
    rfl
  simp [LongitudinalCycleRecord.isSound, cycleRecord, h.recovery.ocs, h.recovery.identity,
    h.recovery.authority, h.recovery.profile, h.recovery.stateNamespace,
    h.recovery.memoryNamespace, h.causal, hmarker, hcount, h.count, hinitial]

theorem Progress.cycle (hstart : ∀ number, assignment.start number = .success)
    (huuid : Function.Injective assignment.uuid)
    (h : Progress assignment stem start handled cycles world)
    (hfailed : failed ∈ missionOrder) (hinitial : (initial failed).ocsId = failed) :
    (cycle hash assignment initial stem (fun _ => healthy) (handled.length + 1) failed
      cycles).Answers world (Progress assignment stem start (handled ++ [failed])) := by
  apply Answers.bind (executeWithMidflightRecovery_answers hstart h.running hfailed
    (cycleMission_ne_empty stem (handled.length + 1)))
  intro result now hresult
  have hmission : result.missionId ∉ cycles.seenMissions := by
    rw [hresult.missionId]
    exact not_seen (cycleMission_injective stem) h.missions (Nat.le_refl _)
  have htrace : result.traceId ∉ cycles.seenTraces := by
    rw [hresult.traceId]
    exact not_seen ((append_right_injective _).comp huuid) h.traces (Nat.le_refl _)
  have hcorrelation : result.correlationId ∉ cycles.seenCorrelations := by
    rw [hresult.correlationId]
    exact not_seen ((append_right_injective _).comp huuid) h.correlations (Nat.le_succ _)
  rw [cycleFailure_recovered hresult hmission htrace hcorrelation]
  apply answers_bind_of_exec (exec_pure () now)
  apply answers_pure
  have hdrawn := hresult.drawn
  exact
    { running := hresult.running
      generation := by
        intro ocs
        rw [hresult.generation, h.generation, List.count_append, Nat.add_assoc]
        by_cases hocs : ocs = failed
        · rw [hocs, if_pos rfl, List.count_singleton_self]
        · have hnone : [failed].count ocs = 0 :=
            List.count_eq_zero_of_not_mem (by simpa using hocs)
          rw [if_neg hocs, hnone]
      accounted := by
        have hgeneration := hresult.recovery.generation
        rw [h.generation] at hgeneration
        exact h.accounted.append rfl rfl hgeneration
      sound := by
        rw [List.all_append, h.sound, List.all_cons, cycleRecord_isSound hresult hinitial]
        rfl
      missions := by
        rw [hresult.missionId, List.length_append]
        exact seen_insert h.missions (Nat.lt_succ_self _) (Nat.le_succ _)
      traces := by
        rw [hresult.traceId]
        exact seen_insert h.traces (by omega) (by omega)
      correlations := by
        rw [hresult.correlationId]
        exact seen_insert h.correlations (by omega) (by omega)
      missionCount := by
        rw [List.insert_of_not_mem hmission, List.length_cons, h.missionCount,
          List.length_append]
        rfl
      traceCount := by
        rw [List.insert_of_not_mem htrace, List.length_cons, h.traceCount, List.length_append]
        rfl
      correlationCount := by
        rw [List.insert_of_not_mem hcorrelation, List.length_cons, h.correlationCount,
          List.length_append]
        rfl }

theorem Progress.cyclesFrom (hstart : ∀ number, assignment.start number = .success)
    (huuid : Function.Injective assignment.uuid)
    (hinitial : ∀ ocs ∈ missionOrder, (initial ocs).ocsId = ocs) {schedule : List String}
    (hschedule : ∀ ocs ∈ schedule, ocs ∈ missionOrder)
    (h : Progress assignment stem start handled cycles world) :
    (cyclesFrom hash assignment initial stem (fun _ _ => healthy) (handled.length + 1) schedule
      cycles).Answers world (Progress assignment stem start (handled ++ schedule)) := by
  induction schedule generalizing handled cycles world with
  | nil =>
    rw [List.append_nil]
    exact answers_pure h
  | cons failed schedule ih =>
    have hfailed : failed ∈ missionOrder := hschedule failed (by simp)
    apply Answers.bind (h.cycle hstart huuid hfailed (hinitial failed hfailed))
    intro next now hnext
    have hrest := ih (fun ocs hocs => hschedule ocs (List.mem_cons_of_mem _ hocs)) hnext
    rw [List.length_append, List.append_assoc] at hrest
    exact hrest

theorem progress_first (h : Running assignment.profiles world) :
    Progress assignment stem world [] ⟨[], [], [], []⟩ world where
  running := h
  generation := by simp
  accounted := ⟨rfl, by simp⟩
  sound := rfl
  missions := by simp
  traces := by simp
  correlations := by simp
  missionCount := rfl
  traceCount := rfl
  correlationCount := rfl

/-- A schedule that is long enough and names OCS of the order is worked off. -/
theorem executeCycles_answers (hash : Payload String → D) (stem : String)
    (hstart : ∀ number, assignment.start number = .success) (huuid : Function.Injective assignment.uuid)
    (hinitial : ∀ ocs ∈ missionOrder, (initial ocs).ocsId = ocs) {schedule : List String}
    (hschedule : ∀ ocs ∈ schedule, ocs ∈ missionOrder) (hlength : 11 ≤ schedule.length)
    (h : Running assignment.profiles world) :
    (executeCycles hash assignment initial true stem (fun _ _ => healthy) schedule).Answers world
      fun result now =>
        Running assignment.profiles now ∧
          (∀ ocs, now.generation ocs = world.generation ocs + schedule.count ocs) ∧
          result.completed = true ∧
          result.finalGenerations = missionOrder.map (fun ocs => (ocs, now.fence ocs)) ∧
          Accounted world schedule result.cycles := by
  have hlong : ¬ schedule.length < 11 := Nat.not_lt.mpr hlength
  have hknown : ¬ ∃ ocs ∈ schedule, ocs ∉ missionOrder := by
    intro hunknown
    obtain ⟨ocs, hocs, hnot⟩ := hunknown
    exact hnot (hschedule ocs hocs)
  apply answers_raiseIf_bind (by decide)
  apply answers_raiseIf_bind hlong
  apply answers_raiseIf_bind hknown
  apply Answers.bind ((progress_first h).cyclesFrom hstart huuid hinitial hschedule)
  intro cycles now hcycles
  rw [List.nil_append] at hcycles
  apply answers_raiseIf_bind (not_not_intro hcycles.missionCount)
  apply answers_raiseIf_bind (not_not_intro hcycles.traceCount)
  apply answers_raiseIf_bind (not_not_intro hcycles.correlationCount)
  apply answers_raiseIf_bind
  · rw [hcycles.sound]
    decide
  apply answers_bind_of_exec (exec_read _ _)
  apply answers_pure
  exact ⟨hcycles.running, hcycles.generation, rfl, rfl, hcycles.accounted⟩

end Schedules

/-! ## From the start on -/

section Operations

open LongitudinalDistributedOperation

variable {D : Type} [DecidableEq D] {hash : Payload String → D} {assignment : Assignment}
  {bindings : String → InstanceBinding} {world : Supervisor}

/-- During the start: the OCS whose worker has been launched. -/
structure Launched (bindings : String → InstanceBinding) (launched : List String)
    (world : Supervisor) : Prop where
  bound : world.bindings = bindings
  fence : ∀ ocs, world.fence ocs = (bindings ocs).generation
  manned : ∀ ocs ∈ launched, ∃ worker, Manned world ocs worker

/-- The fleet after the launch of one more worker. -/
def launchedOne (world : Supervisor) (ocs : String) : Supervisor :=
  { world with
    workers := update world.workers world.constructed
      ⟨world.bindings ocs, .active, some true⟩
    constructed := world.constructed + 1
    table := update world.table ocs (some world.constructed) }

theorem Launched.next {launched : List String} (h : Launched bindings launched world)
    (ocs : String) : Launched bindings (launched ++ [ocs]) (launchedOne world ocs) where
  bound := h.bound
  fence := h.fence
  manned := by
    intro other hother
    by_cases hsame : other = ocs
    · rw [hsame]
      exact ⟨world.constructed, update_self .., Nat.lt_succ_self _,
        update_self ..⟩
    · obtain ⟨worker, hmanned⟩ := h.manned other (by simpa [hsame] using hother)
      refine ⟨worker, ?_, Nat.lt_succ_of_lt hmanned.old, ?_⟩
      · rw [← hmanned.entry]
        exact update_of_ne hsame ..
      · exact (update_of_ne (Nat.ne_of_lt hmanned.old) ..).trans hmanned.live

theorem Launched.launchEach (hstart : ∀ number, assignment.start number = .success)
    (hadmitted : ∀ ocs ∈ missionOrder,
      constructFailure assignment.profiles .causal (bindings ocs) = none)
    {launched order : List String} (horder : ∀ ocs ∈ order, ocs ∈ missionOrder)
    (h : Launched bindings launched world) :
    (launchEach assignment order).Answers world
      fun _ now => Launched bindings (launched ++ order) now := by
  induction order generalizing launched world with
  | nil =>
    rw [List.append_nil]
    exact answers_pure h
  | cons ocs order ih =>
    have hconstruct : constructFailure assignment.profiles .causal (world.bindings ocs) =
        none := by
      rw [h.bound]
      exact hadmitted ocs (horder ocs (by simp))
    apply answers_bind_of_exec (exec_read _ _)
    apply answers_bind_of_exec (construct_exec hconstruct)
    apply answers_bind_of_exec (startWorker_exec (hstart _) (update_self ..))
    have hstore : (store ocs world.constructed).exec
        ({ world.setWorker world.constructed (Worker.declare (world.bindings ocs)) with
            constructed := world.constructed + 1 }.setWorker world.constructed
          ⟨world.bindings ocs, .active, some true⟩) = (launchedOne world ocs, .ok ()) := by
      apply Prod.ext
      · exact congrArg (fun workers => { launchedOne world ocs with workers := workers })
          (update_idem ..)
      · rfl
    apply answers_bind_of_exec hstore
    have hrest := ih (fun other hother => horder other (List.mem_cons_of_mem _ hother))
      (h.next ocs)
    rw [List.append_assoc] at hrest
    exact hrest

/-- Bindings of which workers can be constructed and that name the OCS they are of. -/
structure Canonical (profiles : Profiles) (bindings : String → InstanceBinding) : Prop where
  own : ∀ ocs ∈ missionOrder, (bindings ocs).ocsId = ocs
  admitted : ∀ ocs ∈ missionOrder, constructFailure profiles .causal (bindings ocs) = none

theorem start_answers (hstart : ∀ number, assignment.start number = .success)
    (hbindings : Canonical assignment.profiles bindings) :
    (start assignment true).Answers (new bindings) fun _ now =>
      Running assignment.profiles now ∧ now.bindings = bindings := by
  have hfirst : Launched bindings [] (new bindings) := ⟨rfl, fun _ => rfl, by simp⟩
  have horder : ∀ ocs ∈ missionOrder, ocs ∈ missionOrder := fun _ hocs => hocs
  obtain ⟨answer, now, hexec, hnow⟩ := hfirst.launchEach hstart hbindings.admitted horder
  have hbody : (do
      launchEach assignment missionOrder
      .raiseIf (true = false) (.runtimeError "dr6_requires_eleven_material_workers") :
        Procedure Unit).exec (new bindings) = (now, .ok ()) := by
    rw [exec_bind_ok hexec]
    rfl
  refine ⟨(), now, ?_, ⟨?_, ?_, ?_, ?_⟩, hnow.bound⟩
  · rw [start, exec_handle, hbody]
  · exact hnow.manned
  · intro ocs hocs
    rw [hnow.bound]
    exact hnow.fence ocs
  · rw [hnow.bound]
    exact hbindings.own
  · rw [hnow.bound]
    exact hbindings.admitted

theorem executeCycles_running (hstart : ∀ number, assignment.start number = .success)
    (huuid : Function.Injective assignment.uuid)
    (hbindings : Canonical assignment.profiles bindings) (stem : String)
    (schedule : List String) (h : Running assignment.profiles world) :
    Running assignment.profiles
      ((executeCycles hash assignment bindings true stem (fun _ _ => healthy) schedule).exec
        world).1 := by
  by_cases hlength : 11 ≤ schedule.length
  · by_cases hschedule : ∀ ocs ∈ schedule, ocs ∈ missionOrder
    · obtain ⟨result, now, hexec, hnow, -⟩ := executeCycles_answers hash stem hstart huuid
        hbindings.own hschedule hlength h
      rw [hexec]
      exact hnow
    · have hunknown : ∃ ocs ∈ schedule, ocs ∉ missionOrder := by
        by_contra hnone
        exact hschedule fun ocs hocs => by_contra fun hnot => hnone ⟨ocs, hocs, hnot⟩
      simp only [executeCycles, exec_raiseIf_bind, hunknown, if_true]
      split_ifs <;> exact h
  · have hshort : schedule.length < 11 := Nat.lt_of_not_le hlength
    simp only [executeCycles, exec_raiseIf_bind, hshort, if_true]
    split_ifs <;> exact h

/-- The fleets of an operation: after its start, and after any schedules since. -/
inductive Operating (hash : Payload String → D) (assignment : Assignment)
    (bindings : String → InstanceBinding) : Supervisor → Prop
  | started {world : Supervisor} :
      (start assignment true).exec (new bindings) = (world, .ok ()) →
      Operating hash assignment bindings world
  | operated {world : Supervisor} (stem : String) (schedule : List String) :
      Operating hash assignment bindings world →
      Operating hash assignment bindings
        ((executeCycles hash assignment bindings true stem (fun _ _ => healthy) schedule).exec
          world).1

theorem Operating.running (hstart : ∀ number, assignment.start number = .success)
    (huuid : Function.Injective assignment.uuid)
    (hbindings : Canonical assignment.profiles bindings)
    (h : Operating hash assignment bindings world) : Running assignment.profiles world := by
  induction h with
  | started hexec =>
    obtain ⟨answer, now, hanswer, hnow, -⟩ := start_answers hstart hbindings
    rw [hexec, Prod.mk.injEq] at hanswer
    rw [hanswer.1]
    exact hnow
  | operated stem schedule _ ih =>
    exact executeCycles_running hstart huuid hbindings stem schedule ih

/-- With healthy workers, a schedule of at least eleven OCS of the order is completed.  The
generation of every OCS is raised by the number of its entries in the schedule, and the
record of a cycle has the generation raised by the entries up to that cycle. -/
theorem executeCycles_accounts (hstart : ∀ number, assignment.start number = .success)
    (huuid : Function.Injective assignment.uuid)
    (hbindings : Canonical assignment.profiles bindings)
    (h : Operating hash assignment bindings world) (stem : String) {schedule : List String}
    (hschedule : ∀ ocs ∈ schedule, ocs ∈ missionOrder) (hlength : 11 ≤ schedule.length) :
    ∃ result after,
      (executeCycles hash assignment bindings true stem (fun _ _ => healthy) schedule).exec
          world = (after, .ok result) ∧
        result.completed = true ∧
        result.finalGenerations =
          missionOrder.map (fun ocs => (ocs, world.generation ocs + schedule.count ocs)) ∧
        result.cycles.length = schedule.length ∧
        ∀ index failed, schedule[index]? = some failed →
          ∃ record, result.cycles[index]? = some record ∧ record.cycleIndex = index + 1 ∧
            record.failedOcs = failed ∧
            record.recoveredGeneration =
              world.generation failed + (schedule.take (index + 1)).count failed := by
  have hrunning := h.running hstart huuid hbindings
  obtain ⟨result, after, hexec, hafter, hgeneration, hcompleted, hfinal, haccounted⟩ :=
    executeCycles_answers hash stem hstart huuid hbindings.own hschedule hlength hrunning
  refine ⟨result, after, hexec, hcompleted, ?_, haccounted.length, haccounted.counts⟩
  rw [hfinal]
  apply List.map_congr_left
  intro ocs hocs
  rw [hafter.fence ocs hocs, ← hgeneration]
  rfl

end Operations

namespace OneVictim

def profiles : Profiles := fun ocs =>
  some
    { ocsId := ocs, identity := "identity", ancestry := "ancestry"
      constitutionRef := "constitution", cspRef := "csp"
      specialty := "specialty", supportCapabilities := []
      authorityEnvelopeRef := "authority", allowedActionClasses := []
      deniedActionClasses := [], evidenceProfile := "evidence", piActivationPolicy := "policy"
      capabilityAdapters := [], toolPermissions := [], stateNamespace := "state"
      memoryNamespace := "memory", riskModel := "risk", stopPolicy := "stop"
      handoffPolicy := "handoff", recoveryPolicy := "recovery", version := "1"
      predecessor := "none", rollbackPointer := "none", kernelInterfaceRef := "kernel" }

def bindings (ocs : String) : InstanceBinding :=
  { bindingId := "binding", missionId := "mission", runId := "run"
    organizationId := "organization", ocsId := ocs, profileVersion := "1"
    profileHash := "profile", identityBindingHash := "identity", requestHash := "request"
    maturity := .operationallyBoundL1, host := "host", capability := "cap", leaseId := "lease"
    authorityRef := "authority", scope := [], stateNamespace := "state"
    memoryNamespace := "memory", generation := 1, platformInstanceId := none
    challengeHash := "challenge", bootstrapHash := "bootstrap", status := .active, version := 1
    predecessorBindingId := none, checkpointVersion := 0, checkpointHash := none
    hazelEventHash := none, idempotencyKey := "key", correlationId := "correlation"
    causationId := none, createdAt := 0 }

def assignment : Assignment :=
  { profiles := profiles
    uuid := zeroPadded 8
    start := fun _ => .success
    stop := fun _ => .success }

def hash (payload : Payload String) : List String := payload.contributions.keys

theorem canonical : Canonical assignment.profiles bindings where
  own := fun _ _ => rfl
  admitted := by decide

end OneVictim

/-- Eleven cycles that all lose the same worker. -/
theorem executeCycles_accounts_oneVictim :
    ∃ started result after,
      (start OneVictim.assignment true).exec (new OneVictim.bindings) = (started, .ok ()) ∧
        (LongitudinalDistributedOperation.executeCycles OneVictim.hash OneVictim.assignment
            OneVictim.bindings true "mission:dr7" (fun _ _ => healthy)
            (List.replicate 11 "DÉDALA")).exec started = (after, .ok result) ∧
        result.completed = true ∧
        result.finalGenerations =
          missionOrder.map fun ocs => (ocs, if ocs = "DÉDALA" then 12 else 1) := by
  have hstart : ∀ number, OneVictim.assignment.start number = .success := fun _ => rfl
  obtain ⟨answer, started, hexec, -, hbound⟩ := start_answers hstart OneVictim.canonical
  have hschedule : ∀ ocs ∈ List.replicate 11 "DÉDALA", ocs ∈ missionOrder := by decide
  have hoperating : Operating OneVictim.hash OneVictim.assignment OneVictim.bindings started :=
    .started hexec
  obtain ⟨result, after, hcycles, hcompleted, hfinal, -⟩ :=
    executeCycles_accounts hstart (zeroPadded_injective 8) OneVictim.canonical hoperating
      "mission:dr7" hschedule (by decide)
  refine ⟨started, result, after, hexec, hcycles, hcompleted, hfinal.trans ?_⟩
  apply List.map_congr_left
  intro ocs hocs
  rw [Supervisor.generation, hbound, List.count_replicate]
  by_cases hvictim : ocs = "DÉDALA"
  · rw [if_pos hvictim, if_pos (by simpa using hvictim.symm)]
    rfl
  · rw [if_neg hvictim, if_neg fun heq => hvictim (beq_iff_eq.mp heq).symm]
    rfl

end ReisOs.DistributedRuntime
