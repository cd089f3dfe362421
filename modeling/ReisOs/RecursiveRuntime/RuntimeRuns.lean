import ReisOs.Core.Interleaving
import ReisOs.Core.Runs
import ReisOs.RecursiveRuntime.Recovery
import ReisOs.RecursiveRuntime.SpawnExactness

/-!
# Runs of the runtime

The calls of the services, one after another, from an empty runtime.  Actors stay under
their own ids, and a spawn is exact just when its request keeps to ids of its own.
-/

namespace ReisOs.RecursiveRuntime

open ReisOs.Core Script DurableJournal

inductive RuntimeCall where
  /-- `StateRepository.add`. -/
  | add (actor : ActorState) (active : Bool)
  /-- `BudgetLedger.bind`. -/
  | bind (ref providerId : String) (maxSpawns : ℕ)
  /-- An assignment of a lifecycle, as `run_once` and the gateways make it. -/
  | mark (actorId : String) (lifecycle : Lifecycle)
  | spawn (hook : SpawnHook) (request : SpawnRequest)
  | cancel (fuel : ℕ) (actorId reason : String)
  | replayCancellations
  | checkpoint (actorId checkpointId : String)
  | recover (predecessorId successorId : String) (crash : Option CrashPoint)
  | replayRecoveries

variable (config : RuntimeConfig)

/-- The state that a call leaves, whatever it returns or raises. -/
def RuntimeCall.step (runtime : RuntimeState) : RuntimeCall → RuntimeState
  | add actor active => ((changeStates (·.states.add actor active)).exec runtime).1
  | bind ref providerId maxSpawns =>
    { runtime with ledger := runtime.ledger.bind ref providerId maxSpawns }
  | mark actorId lifecycle =>
    ((changeStates (·.states.setLifecycle actorId lifecycle)).exec runtime).1
  | spawn hook request => ((RecursiveRuntime.spawn hook request).exec runtime).1
  | cancel fuel actorId reason =>
    ((RecursiveRuntime.cancel config fuel actorId reason).exec runtime).1
  | replayCancellations => ((RecursiveRuntime.replayCancellations config).exec runtime).1
  | checkpoint actorId checkpointId =>
    ((RecursiveRuntime.checkpoint actorId checkpointId).exec runtime).1
  | recover predecessorId successorId crash =>
    ((RecursiveRuntime.recover config predecessorId successorId crash).exec runtime).1
  | replayRecoveries => ((RecursiveRuntime.replayRecoveries config).exec runtime).1

def RuntimeState.empty : RuntimeState :=
  ⟨.empty, fun _ => none, fun _ => none, fun _ => [], []⟩

def runtimeRun (calls : List RuntimeCall) : RuntimeState :=
  run (RuntimeCall.step config) .empty calls

/-! ## What every step keeps -/

/-- The discipline of a script that runs alone and keeps a property of the runtime. -/
def keeping (Inv : RuntimeState → Prop) : Discipline RuntimeState :=
  .alone Inv (fun _ _ => True) (fun _ => trivial) fun _ _ => trivial

section Keeping

variable {Inv : RuntimeState → Prop} {A : Type}

theorem keeps_look (f : RuntimeState → Except Fault A) : Obeys (keeping Inv) (look f) :=
  obeys_act fun _ hnow => ⟨hnow, trivial⟩

theorem keeps_act {f : RuntimeState → RuntimeState × Except Fault A}
    (h : ∀ runtime, Inv runtime → Inv (f runtime).1) : Obeys (keeping Inv) (.act f) :=
  obeys_act fun now hnow => ⟨h now hnow, trivial⟩

theorem keeps_changeStates {f : RuntimeState → Except Fault StateRepository}
    (h : ∀ runtime states, Inv runtime → f runtime = .ok states →
      Inv { runtime with states := states }) :
    Obeys (keeping Inv) (changeStates f) := by
  apply keeps_act
  intro runtime hruntime
  cases hf : f runtime with
  | error fault => exact hruntime
  | ok states => exact h runtime states hruntime hf

theorem keeps_changeLedger {f : RuntimeState → Except Fault BudgetLedger}
    (h : ∀ runtime ledger, Inv runtime → Inv { runtime with ledger := ledger }) :
    Obeys (keeping Inv) (changeLedger f) := by
  apply keeps_act
  intro runtime hruntime
  cases hf : f runtime with
  | error fault => exact hruntime
  | ok ledger => exact h runtime ledger hruntime

theorem keeps_journalPut (record : JournalRecord)
    (h : ∀ runtime journal, Inv runtime → Inv { runtime with journal := journal }) :
    Obeys (keeping Inv) (journalPut record) := by
  apply keeps_act
  intro runtime hruntime
  simp only
  split
  · exact hruntime
  · exact h runtime _ hruntime

theorem keeps_journalPutIf (bound : Bool) (record : JournalRecord)
    (h : ∀ runtime journal, Inv runtime → Inv { runtime with journal := journal }) :
    Obeys (keeping Inv) (journalPutIf bound record) := by
  cases bound with
  | false => exact obeys_pure ()
  | true => exact keeps_journalPut record h

theorem keeps_crashAt (crash : Option CrashPoint) (point : CrashPoint) (message : String) :
    Obeys (keeping Inv) (crashAt crash point message) := by
  rw [crashAt]
  split
  · exact obeys_raise _
  · exact obeys_pure ()

theorem keeps_exec {script : RuntimeScript A} (h : Obeys (keeping Inv) script)
    {runtime : RuntimeState} (hruntime : Inv runtime) : Inv (script.exec runtime).1 :=
  (h.exec hruntime).1

end Keeping

/-! ## Actors under their own ids -/

namespace StateRepository

variable {states now : StateRepository}

theorem Keyed.setActor (h : states.Keyed) {actorId : String} {changed : Option ActorState}
    (hchanged : ∀ actor, changed = some actor → actor.actorId = actorId) :
    (states.setActor actorId changed).Keyed := by
  intro other actor hactor
  rw [setActor_actors] at hactor
  by_cases hsame : other = actorId
  · rw [hsame, Function.update_self] at hactor
    rw [hsame]
    exact hchanged actor hactor
  · rw [Function.update_of_ne hsame] at hactor
    exact h other actor hactor

theorem Keyed.mutate (h : states.Keyed) {actorId : String}
    {change : ActorState → ActorState} (hmutate : states.mutate actorId change = .ok now)
    (hchange : ∀ actor, (change actor).actorId = actor.actorId) : now.Keyed := by
  rw [StateRepository.mutate] at hmutate
  cases hactor : states.actors actorId with
  | none =>
    rw [hactor] at hmutate
    cases hmutate
  | some actor =>
    rw [hactor] at hmutate
    cases hmutate
    apply h.setActor
    rintro changed ⟨⟩
    exact (hchange actor).trans (h actorId actor hactor)

theorem Keyed.add (h : states.Keyed) {actor : ActorState} {active : Bool}
    (hadd : states.add actor active = .ok now) : now.Keyed := by
  have hstored : (states.setActor actor.actorId (some actor)).Keyed := by
    apply h.setActor
    rintro stored ⟨⟩
    rfl
  rw [StateRepository.add] at hadd
  split at hadd
  · cases hadd
  · cases active <;> cases hadd <;> exact hstored

theorem Keyed.setActive (h : states.Keyed) {actorId : String}
    (hset : states.setActive actorId = .ok now) : now.Keyed := by
  rw [StateRepository.setActive] at hset
  split at hset
  · cases hset
    exact h
  · cases hset

theorem Keyed.marks (h : states.Keyed) {touched : String → Prop}
    (hmarks : states.Marks touched now) : now.Keyed := by
  intro actorId actor hactor
  have hmarked := hmarks.actors actorId
  rw [hactor] at hmarked
  obtain ⟨before, hbefore, hsame⟩ := Option.map_eq_some_iff.mp hmarked.symm
  have hid : before.actorId = actor.actorId := by
    change before.unmarked.actorId = actor.unmarked.actorId
    rw [hsame]
  rw [← hid]
  exact h actorId before hbefore

theorem Keyed.popChild (h : states.Keyed) (request : SpawnRequest) :
    (popChild request states).Keyed := by
  have hremoved : (states.setActor request.childActorId none).Keyed := by
    apply h.setActor
    intro actor hactor
    cases hactor
  rw [RecursiveRuntime.popChild]
  split
  · exact h
  · split <;> exact hremoved

theorem Keyed.listChild (h : states.Keyed) {parent : ActorState} {request : SpawnRequest}
    (hlist : listChild parent request states = .ok now) : now.Keyed := by
  rw [RecursiveRuntime.listChild] at hlist
  exact h.mutate hlist fun _ => rfl

theorem Keyed.unlistChild (h : states.Keyed) {parent : ActorState} {request : SpawnRequest}
    (hunlist : unlistChild parent request states = .ok now) : now.Keyed := by
  rw [RecursiveRuntime.unlistChild] at hunlist
  exact h.mutate hunlist fun _ => rfl

theorem Keyed.installSuccessor (h : states.Keyed) {successor : ActorState}
    (hinstall : installSuccessor successor states = .ok now) : now.Keyed := by
  rw [RecursiveRuntime.installSuccessor] at hinstall
  split at hinstall
  · exact h.add hinstall
  · exact h.setActive hinstall

theorem Keyed.replayIntents (rows : List JournalRecord) (h : states.Keyed) :
    (replayIntents rows states).1.Keyed := by
  induction rows generalizing states with
  | nil => exact h
  | cons row rows ih =>
    rw [RecursiveRuntime.replayIntents]
    split
    · exact ih h
    · cases hmark : states.setLifecycle row.actorId .cancelling with
      | error fault => exact ih h
      | ok marked => exact ih (h.mutate hmark fun _ => rfl)

end StateRepository

/-! ## Every call keeps actors under their own ids -/

/-- The actors of the runtime are under their own ids. -/
def RuntimeState.Keyed (runtime : RuntimeState) : Prop := runtime.states.Keyed

theorem keyed_setLifecycle (actorId : String) (lifecycle : Lifecycle) :
    Obeys (keeping RuntimeState.Keyed)
      (changeStates (·.states.setLifecycle actorId lifecycle)) :=
  keeps_changeStates fun _ _ hkeyed hset =>
    StateRepository.Keyed.mutate hkeyed hset fun _ => rfl

theorem keyed_call (hook : SpawnHook) (point : HookPoint) (parent : ActorState)
    (request : SpawnRequest) :
    Obeys (keeping RuntimeState.Keyed) (hook.call point parent request) :=
  keeps_act fun runtime hkeyed =>
    StateRepository.Keyed.marks hkeyed (hook.marks point parent request runtime)

theorem keyed_publish (request : SpawnRequest) (result : SpawnResult) :
    Obeys (keeping RuntimeState.Keyed) (publish request result) :=
  keeps_act fun _ hkeyed => hkeyed

theorem keyed_attemptChild (hook : SpawnHook) (parent : ActorState) (request : SpawnRequest)
    (providerId : String) :
    Obeys (keeping RuntimeState.Keyed) (attemptChild hook parent request providerId) := by
  apply (keyed_call hook .afterReservation parent request).bind
  intro _
  apply (keeps_look _).bind
  intro _
  apply (keeps_changeStates fun _ _ hkeyed hadd =>
    StateRepository.Keyed.add hkeyed hadd).bind
  intro _
  apply (keyed_call hook .afterChildState parent request).bind
  intro _
  apply (keeps_look _).bind
  intro _
  apply (keeps_changeStates fun _ _ hkeyed hlist =>
    StateRepository.Keyed.listChild hkeyed hlist).bind
  intro _
  apply (keyed_call hook .beforeCommit parent request).bind
  intro _
  apply (keeps_look _).bind
  intro _
  apply (keeps_changeLedger fun _ _ hkeyed => hkeyed).bind
  intro _
  exact keyed_publish request _

theorem keyed_undoChild (parent : ActorState) (request : SpawnRequest) (fault : Fault) :
    Obeys (keeping RuntimeState.Keyed) (undoChild parent request fault) := by
  have hpop : Obeys (keeping RuntimeState.Keyed)
      (changeStates fun runtime => .ok (popChild request runtime.states)) := by
    apply keeps_changeStates
    rintro runtime states hkeyed ⟨⟩
    exact StateRepository.Keyed.popChild hkeyed request
  apply hpop.bind
  intro _
  apply (keeps_changeStates fun _ _ hkeyed hunlist =>
    StateRepository.Keyed.unlistChild hkeyed hunlist).bind
  intro _
  apply (keeps_changeLedger fun _ _ hkeyed => hkeyed).bind
  intro _
  exact keyed_publish request _

theorem keyed_reserveChild (parent : ActorState) :
    Obeys (keeping RuntimeState.Keyed) (reserveChild parent) := by
  apply keeps_act
  intro runtime hkeyed
  split <;> exact hkeyed

theorem keyed_spawn (hook : SpawnHook) (request : SpawnRequest) :
    Obeys (keeping RuntimeState.Keyed) (spawn hook request) := by
  apply (obeys_read _).bind
  intro stored
  cases stored with
  | some pair =>
    simp only
    split <;> exact obeys_pure _
  | none =>
    apply (keeps_look _).bind
    intro parent
    apply (keeps_look _).bind
    intro _
    cases refusal parent request with
    | some detail => exact keyed_publish request _
    | none =>
      apply (keeps_look _).bind
      intro providerId
      split
      · exact keyed_publish request _
      · apply (keyed_reserveChild parent).bind
        intro reserved
        cases reserved with
        | some detail => exact keyed_publish request _
        | none =>
          apply (keyed_attemptChild hook parent request providerId).handle
          rintro fault other ⟨⟩
          exact keyed_undoChild parent request fault

theorem keyed_walkChildren (fuel : ℕ) (out queue : List String) :
    Obeys (keeping RuntimeState.Keyed) (walkChildren fuel out queue) := by
  induction fuel generalizing out queue with
  | zero => cases queue <;> exact obeys_pure _
  | succ fuel ih =>
    cases queue with
    | nil => exact obeys_pure _
    | cons actorId queue =>
      apply (keeps_look _).bind
      intro actor
      exact ih _ _

theorem keyed_persistIntents (reason : String) (targets : List String) :
    Obeys (keeping RuntimeState.Keyed) (persistIntents reason targets) := by
  induction targets with
  | nil => exact obeys_pure _
  | cons actorId targets ih =>
    apply (keeps_look _).bind
    intro actor
    exact (keeps_journalPut _ fun _ _ hkeyed => hkeyed).bind fun _ => ih

theorem keyed_markCancelled (targets : List String) :
    Obeys (keeping RuntimeState.Keyed) (markCancelled targets) := by
  induction targets with
  | nil => exact obeys_pure _
  | cons actorId targets ih =>
    apply (keyed_setLifecycle actorId .cancelling).bind
    intro _
    exact (keeps_look _).bind fun _ => ih

theorem keyed_cancel (fuel : ℕ) (actorId reason : String) :
    Obeys (keeping RuntimeState.Keyed) (cancel config fuel actorId reason) := by
  apply (keeps_look _).bind
  intro actor
  split
  · have hbelow : Obeys (keeping RuntimeState.Keyed) (descendantsOf fuel actorId) :=
      (keeps_look _).bind fun found => keyed_walkChildren fuel [] found.children
    apply hbelow.bind
    intro below
    cases below with
    | none => exact obeys_pure _
    | some below =>
      have hintents : Obeys (keeping RuntimeState.Keyed)
          (persistIntentsIf config.cancellationJournal reason (actorId :: below)) := by
        rw [persistIntentsIf]
        split
        · exact keyed_persistIntents reason _
        · exact obeys_pure _
      apply hintents.bind
      intro _
      exact (keyed_markCancelled _).bind fun _ => obeys_pure _
  · apply (keyed_setLifecycle actorId .failedClosed).bind
    intro _
    exact obeys_raise _

theorem keyed_install (successor : ActorState) :
    Obeys (keeping RuntimeState.Keyed)
      (changeStates fun runtime => installSuccessor successor runtime.states) :=
  keeps_changeStates fun _ _ hkeyed hinstall =>
    StateRepository.Keyed.installSuccessor hkeyed hinstall

theorem keyed_recover (predecessorId successorId : String) (crash : Option CrashPoint) :
    Obeys (keeping RuntimeState.Keyed) (recover config predecessorId successorId crash) := by
  have hput (record : JournalRecord) : Obeys (keeping RuntimeState.Keyed)
      (journalPutIf config.recoveryJournal record) :=
    keeps_journalPutIf _ record fun _ _ hkeyed => hkeyed
  apply (keeps_look _).bind
  intro found
  apply (keeps_look _).bind
  intro predecessor
  apply (hput _).bind
  intro _
  apply (keeps_crashAt crash _ _).bind
  intro _
  apply (keyed_setLifecycle predecessorId .fenced).bind
  intro _
  apply (hput _).bind
  intro _
  apply (keyed_install _).bind
  intro _
  apply (hput _).bind
  intro _
  exact (keeps_crashAt crash _ _).bind fun _ => obeys_pure _

theorem keyed_replayTransition (rows : List JournalRecord) (row : JournalRecord) :
    Obeys (keeping RuntimeState.Keyed) (replayTransition rows row) := by
  rw [replayTransition]
  cases row.field "successor_id" with
  | none => exact obeys_pure _
  | some successorId =>
    simp only
    split
    · apply keeps_act
      intro runtime hkeyed
      split
      · exact hkeyed
      · cases hset : runtime.states.setActive successorId with
        | error fault => exact hkeyed
        | ok states => exact StateRepository.Keyed.setActive hkeyed hset
    · apply (obeys_read _).bind
      intro start
      split
      · apply (keyed_setLifecycle row.actorId .fenced).bind
        intro _
        apply (keyed_install _).bind
        intro _
        exact (keeps_journalPut _ fun _ _ hkeyed => hkeyed).bind fun _ => obeys_pure _
      · exact obeys_pure _

theorem keyed_replayTransitions (rows pending : List JournalRecord) :
    Obeys (keeping RuntimeState.Keyed) (replayTransitions rows pending) := by
  induction pending with
  | nil => exact obeys_pure _
  | cons row rest ih =>
    apply (keyed_replayTransition rows row).bind
    intro repaired
    exact ih.bind fun _ => obeys_pure _

theorem keyed_replayRecoveries : Obeys (keeping RuntimeState.Keyed)
    (replayRecoveries config) := by
  rw [replayRecoveries]
  split
  · apply (obeys_read _).bind
    intro rows
    exact (keyed_replayTransitions rows _).bind fun _ => obeys_pure _
  · exact obeys_pure _

/-- A call keeps actors under their own ids. -/
theorem RuntimeCall.keyed_step {runtime : RuntimeState} (hkeyed : runtime.Keyed)
    (call : RuntimeCall) : (call.step config runtime).Keyed := by
  cases call with
  | add actor active =>
    exact keeps_exec (keeps_changeStates fun _ _ hkeyed hadd =>
      StateRepository.Keyed.add hkeyed hadd) hkeyed
  | bind ref providerId maxSpawns => exact hkeyed
  | mark actorId lifecycle => exact keeps_exec (keyed_setLifecycle actorId lifecycle) hkeyed
  | spawn hook request => exact keeps_exec (keyed_spawn hook request) hkeyed
  | cancel fuel actorId reason =>
    exact keeps_exec (keyed_cancel config fuel actorId reason) hkeyed
  | replayCancellations =>
    have hreplay : Obeys (keeping RuntimeState.Keyed)
        (RecursiveRuntime.replayCancellations config) := by
      apply keeps_act
      intro runtime hkeyed
      split
      · exact StateRepository.Keyed.replayIntents runtime.journal hkeyed
      · exact hkeyed
    exact keeps_exec hreplay hkeyed
  | checkpoint actorId checkpointId =>
    have hcopy : Obeys (keeping RuntimeState.Keyed)
        (RecursiveRuntime.checkpoint actorId checkpointId) := by
      apply (keeps_look _).bind
      intro actor
      exact keeps_act fun _ hkeyed => hkeyed
    exact keeps_exec hcopy hkeyed
  | recover predecessorId successorId crash =>
    exact keeps_exec (keyed_recover config predecessorId successorId crash) hkeyed
  | replayRecoveries => exact keeps_exec (keyed_replayRecoveries config) hkeyed

theorem keyed_runtimeRun (calls : List RuntimeCall) : (runtimeRun config calls).Keyed := by
  apply run_invariant RuntimeState.Keyed
  · intro runtime call hkeyed
    exact call.keyed_step config hkeyed
  · intro actorId actor hactor
    cases hactor

/-- In every run a spawn is exact just if its request is answered and, should it get a
reservation, neither overwrites an actor nor takes the entry of an identity over. -/
theorem spawn_exact_iff (calls : List RuntimeCall) (hook : SpawnHook)
    (request : SpawnRequest) :
    ExactSpawn hook request (runtimeRun config calls) ↔
      Answerable request (runtimeRun config calls) ∧
        ∀ parent account, Reserves request (runtimeRun config calls) parent account →
          Separate parent request (runtimeRun config calls).states ∧
            ((runtimeRun config calls).states.activeByIdentity request.childIdentityId = none ∨
              StopsEarly hook parent request
                (reservedFor (runtimeRun config calls) parent account)) :=
  exactSpawn_iff (keyed_runtimeRun config calls)

/-! ## A request for an id in use -/

/-- A root with the given id. -/
def sampleRoot (actorId : String) : ActorState :=
  { actorId := actorId, identityId := "ID:" ++ actorId, sessionBinding := "S1"
    missionBinding := "M1", stateNamespace := "ns:" ++ actorId
    authority := ⟨"AUTH:ROOT", {"read", "delegate"}⟩
    capability := ⟨"CAP:ROOT", {"analyze"}, {"tool:a"}⟩, budgetRef := "B1"
    providerId := "provider-canonical", traceId := "T1", spanId := "span:" ++ actorId
    generation := 1, fencingEpoch := 1, depth := 0, lifecycle := .active
    cancellationPolicyRef := some "C1", parentActorId := none, children := [] }

/-- A request of a parent for a child with the given id. -/
def sampleRequest (requestId parentId childId : String) : SpawnRequest :=
  { requestId := requestId, parentActorId := parentId, childActorId := childId
    childIdentityId := "ID:" ++ childId, requestedScopes := {"read"}
    requestedCapabilities := {"analyze"}, requestedTools := {"tool:a"}
    childNamespace := "ns:" ++ childId, stopConditionRef := "STOP:1"
    providerId := "provider-canonical" }

/-- A budget and two roots. -/
def twoRoots : List RuntimeCall :=
  [.bind "B1" "provider-canonical" 20, .add (sampleRoot "a") true, .add (sampleRoot "b") true]

/-- A request of the one root with the ids of the other is aborted for its namespace, and
the rollback removes the other root. -/
theorem other_root_removed :
    let runtime := runtimeRun ⟨{"C1"}, true, true⟩ twoRoots
    let request := sampleRequest "r1" "a" "b"
    let answer := (spawn .none request).exec runtime
    ¬ ExactSpawn .none request runtime ∧
      answer.2 = .ok (aborted "STATE_NAMESPACE_COLLISION") ∧
      runtime.states.actors "b" = some (sampleRoot "b") ∧
      answer.1.states.actors "b" = none := by
  intro runtime request answer
  refine ⟨?_, by decide +kernel, by decide +kernel, by decide +kernel⟩
  intro hexact
  have hseparate := ((exactSpawn_iff (keyed_runtimeRun _ twoRoots)).mp hexact).2
    (sampleRoot "a") ⟨"provider-canonical", 20, 0, 0⟩
    ⟨by decide +kernel, by decide +kernel, by decide +kernel, by decide +kernel,
      by decide +kernel, by decide +kernel, by decide +kernel⟩
  have hused : runtime.states.actors "b" = some (sampleRoot "b") := by decide +kernel
  rw [show runtime.states.actors "b" = none from hseparate.1.unused] at hused
  cases hused

end ReisOs.RecursiveRuntime
