import ReisOs.Core.Endings
import ReisOs.RecursiveRuntime.RecoveryCases
import ReisOs.RecursiveRuntime.Spawning

/-!
# What a spawn leaves behind

A spawn that gets a reservation goes through three shapes of the actors: without the
child, with it, and with it listed.  The rollback leads back from each of them, if the ids
of the request were not in use; it works on whoever has the ids of the request.
-/

namespace ReisOs.RecursiveRuntime

open ReisOs.Core Script Function

namespace StateRepository

/-- Actors are kept under their own ids. -/
def Keyed (states : StateRepository) : Prop :=
  ∀ actorId actor, states.actors actorId = some actor → actor.actorId = actorId

/-- `add` of a child, which becomes the current actor of its identity. -/
def withChild (states : StateRepository) (child : ActorState) : StateRepository :=
  { actors := update states.actors child.actorId (some child)
    activeByIdentity :=
      update states.activeByIdentity child.identityId (some child.actorId)
    namespaces := insert child.stateNamespace states.namespaces }

/-- An actor with other children. -/
def withChildren (states : StateRepository) (parentId : String)
    (change : List String → List String) : StateRepository :=
  states.setActor parentId ((states.actors parentId).map fun parent =>
    { parent with children := change parent.children })

/-- The parent lists one more child. -/
def withListed (states : StateRepository) (parentId childId : String) : StateRepository :=
  states.withChildren parentId (· ++ [childId])

variable {states now : StateRepository} {child : ActorState} {touched : String → Prop}

theorem add_active : states.add child true =
    if child.stateNamespace ∈ states.namespaces then
      .error (.conflict "STATE_NAMESPACE_COLLISION")
    else .ok (states.withChild child) := rfl

theorem Marks.lookup (h : states.Marks touched now) {actorId : String} {actor : ActorState}
    (hactor : states.actors actorId = some actor) :
    ∃ found, now.actors actorId = some found ∧ found.unmarked = actor.unmarked := by
  have hmarked := h.actors actorId
  rw [hactor] at hmarked
  exact Option.map_eq_some_iff.mp hmarked

theorem Marks.none_iff (h : states.Marks touched now) (actorId : String) :
    now.actors actorId = none ↔ states.actors actorId = none := by
  rw [← Option.map_eq_none_iff, h.actors, Option.map_eq_none_iff]

theorem Marks.withChild (h : states.Marks touched now) (child : ActorState) :
    (states.withChild child).Marks touched (now.withChild child) := by
  refine ⟨?_, ?_, ?_, ?_⟩
  · intro actorId
    simp only [StateRepository.withChild]
    by_cases hsame : actorId = child.actorId
    · rw [hsame, update_self, update_self]
    · rw [update_of_ne hsame, update_of_ne hsame, h.actors]
  · intro actorId huntouched
    simp only [StateRepository.withChild]
    by_cases hsame : actorId = child.actorId
    · rw [hsame, update_self, update_self]
    · rw [update_of_ne hsame, update_of_ne hsame, h.kept _ huntouched]
  · simp only [StateRepository.withChild, h.identities]
  · simp only [StateRepository.withChild, h.namespaces]

theorem Marks.withChildren (h : states.Marks touched now) (parentId : String)
    (change : List String → List String) :
    (states.withChildren parentId change).Marks touched (now.withChildren parentId change) := by
  have hchange (found : Option ActorState) :
      (found.map fun parent => { parent with children := change parent.children }).map
          ActorState.unmarked =
        (found.map ActorState.unmarked).map fun parent =>
          { parent with children := change parent.children } := by
    cases found <;> rfl
  refine ⟨?_, ?_, h.identities, h.namespaces⟩
  · intro actorId
    simp only [StateRepository.withChildren, setActor_actors]
    by_cases hsame : actorId = parentId
    · rw [hsame, update_self, update_self, hchange, hchange, h.actors]
    · rw [update_of_ne hsame, update_of_ne hsame, h.actors]
  · intro actorId huntouched
    simp only [StateRepository.withChildren, setActor_actors]
    by_cases hsame : actorId = parentId
    · rw [hsame, update_self, update_self, h.kept _ (hsame ▸ huntouched)]
    · rw [update_of_ne hsame, update_of_ne hsame, h.kept _ huntouched]

theorem Marks.withListed (h : states.Marks touched now) (parentId childId : String) :
    (states.withListed parentId childId).Marks touched (now.withListed parentId childId) :=
  h.withChildren parentId _

variable {parentId : String}

theorem mutate_children {parent : ActorState}
    (hparent : states.actors parentId = some parent) (change : List String → List String) :
    states.mutate parentId (fun found => { found with children := change found.children }) =
      .ok (states.withChildren parentId change) := by
  rw [mutate, withChildren, hparent]
  rfl

theorem withChildren_eq_self {parent : ActorState}
    (hparent : states.actors parentId = some parent) {change : List String → List String}
    (hchange : change parent.children = parent.children) :
    states.withChildren parentId change = states := by
  have hupdate : update states.actors parentId (some parent) = states.actors := by
    rw [← hparent, update_eq_self]
  rw [withChildren, hparent, Option.map_some, hchange, setActor, hupdate]

theorem withChildren_withChildren (states : StateRepository) (parentId : String)
    (change again : List String → List String) :
    (states.withChildren parentId change).withChildren parentId again =
      states.withChildren parentId (again ∘ change) := by
  simp only [withChildren, setActor, update_self, update_idem,
    Option.map_map]
  rfl

theorem withChild_withListed (hother : parentId ≠ child.actorId)
    (childId : String) :
    (states.withChild child).withListed parentId childId =
      (states.withListed parentId childId).withChild child := by
  simp only [withListed, withChildren, setActor, withChild, update_of_ne hother]
  rw [update_comm hother]

/-- What `validate_current` looks at in an actor. -/
def standing (actor : ActorState) : String × Lifecycle × ℤ × ℤ :=
  (actor.identityId, actor.lifecycle, actor.generation, actor.fencingEpoch)

/-- Whether an actor is current depends on its standing, and on whether its identity
points to it. -/
theorem validateCurrent_congr {actorId : String} {generation fencingEpoch : ℤ}
    (hactor : (now.actors actorId).map standing = (states.actors actorId).map standing)
    (hidentity : ∀ actor, states.actors actorId = some actor →
      (now.activeByIdentity actor.identityId = some actorId ↔
        states.activeByIdentity actor.identityId = some actorId)) :
    now.validateCurrent actorId generation fencingEpoch =
      states.validateCurrent actorId generation fencingEpoch := by
  cases hfound : states.actors actorId with
  | none =>
    rw [hfound] at hactor
    have hnone : now.actors actorId = none := Option.map_eq_none_iff.mp hactor
    rw [validateCurrent, validateCurrent, hfound, hnone]
  | some actor =>
    rw [hfound] at hactor
    obtain ⟨found, hnow, hsame⟩ := Option.map_eq_some_iff.mp hactor
    simp only [standing, Prod.mk.injEq] at hsame
    obtain ⟨hid, hlifecycle, hgeneration, hepoch⟩ := hsame
    rw [validateCurrent, validateCurrent, hfound, hnow]
    simp only [ne_eq, hid, hlifecycle, hgeneration, hepoch, hidentity actor hfound]

end StateRepository

/-! ## Steps -/

section Steps

variable {runtime : RuntimeState} {Good : Unit → RuntimeState → Prop}
  {Bad : Fault → RuntimeState → Prop} {fault : Fault}

theorem ends_changeStates {f : RuntimeState → Except Fault StateRepository}
    {states : StateRepository} (hf : f runtime = .ok states)
    (h : Good () { runtime with states := states }) :
    (changeStates f).Ends runtime Good Bad := by
  have hexec : (changeStates f).exec runtime = ({ runtime with states := states }, .ok ()) := by
    rw [changeStates, exec_act, hf]
  exact (ends_of_ok hexec).mpr h

theorem ends_changeStates_error {f : RuntimeState → Except Fault StateRepository}
    (hf : f runtime = .error fault) (h : Bad fault runtime) :
    (changeStates f).Ends runtime Good Bad := by
  have hexec : (changeStates f).exec runtime = (runtime, .error fault) := by
    rw [changeStates, exec_act, hf]
  exact (ends_of_error hexec).mpr h

theorem ends_changeLedger {f : RuntimeState → Except Fault BudgetLedger}
    {ledger : BudgetLedger} (hf : f runtime = .ok ledger)
    (h : Good () { runtime with ledger := ledger }) :
    (changeLedger f).Ends runtime Good Bad := by
  have hexec : (changeLedger f).exec runtime = ({ runtime with ledger := ledger }, .ok ()) := by
    rw [changeLedger, exec_act, hf]
  exact (ends_of_ok hexec).mpr h

theorem ends_look {P : RuntimeState → Prop} {A : Type} (f : RuntimeState → Except Fault A)
    (h : P runtime) : (look f).Ends runtime (fun _ => P) fun _ => P :=
  ends_act (fun _ _ => h) fun _ _ => h

end Steps

/-! ## The way to a commit -/

/-- The actors have the shape, up to lifecycles that the hook has changed; the budgets,
results and checkpoints are those of the start. -/
structure Reached (touched : String → Prop) (shape : StateRepository)
    (start now : RuntimeState) : Prop where
  states : shape.Marks touched now.states
  ledger : now.ledger = start.ledger
  results : now.results = start.results
  checkpoints : now.checkpoints = start.checkpoints

variable {hook : SpawnHook} {parent : ActorState} {request : SpawnRequest}
  {providerId : String} {shape : StateRepository} {start now : RuntimeState}
  {account : BudgetAccount}

theorem Reached.called (h : Reached hook.touched shape start now) (point : HookPoint) :
    Reached hook.touched shape start (hook.run point parent request now).1 :=
  ⟨h.states.trans (hook.marks point parent request now),
    (hook.ledger point parent request now).trans h.ledger,
    (hook.results point parent request now).trans h.results,
    (hook.checkpoints point parent request now).trans h.checkpoints⟩

theorem ends_call (h : Reached hook.touched shape start now) (point : HookPoint) :
    (hook.call point parent request).Ends now
      (fun _ => Reached hook.touched shape start) fun _ => Reached hook.touched shape start :=
  ends_act (fun _ _ => h.called point) fun _ _ => h.called point

/-- The spawn ends before the child is added. -/
def StopsEarly (hook : SpawnHook) (parent : ActorState) (request : SpawnRequest)
    (start : RuntimeState) : Prop :=
  (hook.run .afterReservation parent request start).2 ≠ .ok () ∨
    notCancelled parent (hook.run .afterReservation parent request start).1 ≠ .ok () ∨
    request.childNamespace ∈ start.states.namespaces

/-- The actors with the child. -/
def grown (parent : ActorState) (request : SpawnRequest) (providerId : String)
    (states : StateRepository) : StateRepository :=
  states.withChild (childActor parent request providerId)

/-- The actors with the child, which its parent lists. -/
def born (parent : ActorState) (request : SpawnRequest) (providerId : String)
    (states : StateRepository) : StateRepository :=
  (grown parent request providerId states).withListed parent.actorId request.childActorId

/-- Where a failure finds the actors. -/
structure Failed (hook : SpawnHook) (parent : ActorState) (request : SpawnRequest)
    (providerId : String) (start now : RuntimeState) : Prop where
  early : StopsEarly hook parent request start →
    Reached hook.touched start.states start now
  late : ¬ StopsEarly hook parent request start →
    Reached hook.touched (grown parent request providerId start.states) start now ∨
      Reached hook.touched (born parent request providerId start.states) start now

theorem Failed.of_late (hlate : ¬ StopsEarly hook parent request start)
    (h : Reached hook.touched (grown parent request providerId start.states) start now ∨
      Reached hook.touched (born parent request providerId start.states) start now) :
    Failed hook parent request providerId start now :=
  ⟨fun hearly => absurd hearly hlate, fun _ => h⟩

theorem Failed.of_early (hearly : StopsEarly hook parent request start)
    (h : Reached hook.touched start.states start now) :
    Failed hook parent request providerId start now :=
  ⟨fun _ => h, fun hlate => absurd hearly hlate⟩

/-- The child is added unless the spawn ends before. -/
theorem ends_addChild
    (hanswer : (hook.run .afterReservation parent request start).2 = .ok ())
    (hactive : notCancelled parent (hook.run .afterReservation parent request start).1 =
      .ok ()) :
    (changeStates fun runtime =>
        runtime.states.add (childActor parent request providerId) true).Ends
      (hook.run .afterReservation parent request start).1
      (fun _ now => ¬ StopsEarly hook parent request start ∧
        Reached hook.touched (grown parent request providerId start.states) start now)
      fun _ now => Failed hook parent request providerId start now := by
  have hreached : Reached hook.touched start.states start
      (hook.run .afterReservation parent request start).1 :=
    Reached.called ⟨.refl _, rfl, rfl, rfl⟩ _
  by_cases hnamespace : request.childNamespace ∈ start.states.namespaces
  · have hearly : StopsEarly hook parent request start := Or.inr (Or.inr hnamespace)
    rw [← hreached.states.namespaces] at hnamespace
    have hadd : (hook.run .afterReservation parent request start).1.states.add
        (childActor parent request providerId) true =
          .error (.conflict "STATE_NAMESPACE_COLLISION") := by
      rw [StateRepository.add_active]
      exact if_pos hnamespace
    exact ends_changeStates_error hadd (Failed.of_early hearly hreached)
  · have hlate : ¬ StopsEarly hook parent request start := by
      rintro (hraised | hcancelled | hused)
      · exact hraised hanswer
      · exact hcancelled hactive
      · exact hnamespace hused
    rw [← hreached.states.namespaces] at hnamespace
    have hadd : (hook.run .afterReservation parent request start).1.states.add
        (childActor parent request providerId) true =
          .ok (grown parent request providerId
            (hook.run .afterReservation parent request start).1.states) := by
      rw [StateRepository.add_active]
      exact if_neg hnamespace
    exact ends_changeStates hadd ⟨hlate, hreached.states.withChild _, hreached.ledger,
      hreached.results, hreached.checkpoints⟩

theorem ends_listChild (hparent : start.states.actors parent.actorId = some parent)
    (hunused : start.states.actors request.childActorId = none)
    (h : Reached hook.touched (grown parent request providerId start.states) start now) :
    (changeStates fun runtime => listChild parent request runtime.states).Ends now
      (fun _ => Reached hook.touched (born parent request providerId start.states) start)
      fun _ _ => False := by
  have hother : parent.actorId ≠ request.childActorId := by
    intro hsame
    rw [hsame, hunused] at hparent
    cases hparent
  have hgrown : (grown parent request providerId start.states).actors parent.actorId =
      some parent := by
    exact (update_of_ne hother _ _).trans hparent
  obtain ⟨found, hfound, -⟩ := h.states.lookup hgrown
  have hlist : listChild parent request now.states =
      .ok (now.states.withListed parent.actorId request.childActorId) :=
    StateRepository.mutate_children hfound (· ++ [request.childActorId])
  exact ends_changeStates hlist ⟨h.states.withListed _ _, h.ledger, h.results, h.checkpoints⟩

/-- What a commit leaves. -/
structure Committed (hook : SpawnHook) (parent : ActorState) (request : SpawnRequest)
    (providerId : String) (account : BudgetAccount) (start : RuntimeState)
    (result : SpawnResult) (now : RuntimeState) : Prop where
  answer : result = ⟨.committed, some request.childActorId, "OK"⟩
  late : ¬ StopsEarly hook parent request start
  states : (born parent request providerId start.states).Marks hook.touched now.states
  ledger : now.ledger = update start.ledger parent.budgetRef
    (some { account with reserved := account.reserved - 1, actual := account.actual + 1 })
  results : now.results = update start.results request.requestId
    (some (request.fingerprint, result))
  checkpoints : now.checkpoints = start.checkpoints

/-- With an id for the child that is not in use, the attempt ends in a commit or fails in
one of the shapes. -/
theorem ends_attemptChild (hparent : start.states.actors parent.actorId = some parent)
    (hunused : start.states.actors request.childActorId = none)
    (haccount : start.ledger parent.budgetRef = some account)
    (hreserved : account.reserved ≠ 0) :
    (attemptChild hook parent request providerId).Ends start
      (Committed hook parent request providerId account start)
      fun _ => Failed hook parent request providerId start := by
  have hstart : Reached hook.touched start.states start start := ⟨.refl _, rfl, rfl, rfl⟩
  have hcalled : Reached hook.touched start.states start
      (hook.run .afterReservation parent request start).1 := hstart.called _
  have hcall : (hook.call .afterReservation parent request).Ends start
      (fun _ now => now = (hook.run .afterReservation parent request start).1 ∧
        (hook.run .afterReservation parent request start).2 = .ok ())
      fun _ => Failed hook parent request providerId start := by
    apply ends_act
    · intro _ hanswer
      exact ⟨rfl, hanswer⟩
    · intro fault hfault
      exact Failed.of_early (Or.inl fun hok => nomatch hfault.symm.trans hok) hcalled
  apply hcall.bind
  rintro _ _ ⟨rfl, hanswer⟩
  have hcheck : (look (notCancelled parent)).Ends
      (hook.run .afterReservation parent request start).1
      (fun _ now => now = (hook.run .afterReservation parent request start).1 ∧
        notCancelled parent (hook.run .afterReservation parent request start).1 = .ok ())
      fun _ => Failed hook parent request providerId start := by
    apply ends_act
    · intro _ hactive
      exact ⟨rfl, hactive⟩
    · intro fault hfault
      exact Failed.of_early (Or.inr (Or.inl fun hok => nomatch hfault.symm.trans hok)) hcalled
  apply hcheck.bind
  rintro _ _ ⟨rfl, hactive⟩
  apply (ends_addChild hanswer hactive).bind
  rintro _ added ⟨hlate, hadded⟩
  have hgrown {now : RuntimeState}
      (h : Reached hook.touched (grown parent request providerId start.states) start now) :
      Failed hook parent request providerId start now := Failed.of_late hlate (Or.inl h)
  have hborn {now : RuntimeState}
      (h : Reached hook.touched (born parent request providerId start.states) start now) :
      Failed hook parent request providerId start now := Failed.of_late hlate (Or.inr h)
  apply ((ends_call hadded .afterChildState).imp (fun _ _ h => h) fun _ _ => hgrown).bind
  intro _ called hcalled
  apply ((ends_look (notCancelled parent) hcalled).imp (fun _ _ h => h) fun _ _ => hgrown).bind
  intro _ checked hchecked
  apply ((ends_listChild hparent hunused hchecked).imp (fun _ _ h => h)
    fun _ _ => False.elim).bind
  intro _ listed hlisted
  apply ((ends_call hlisted .beforeCommit).imp (fun _ _ h => h) fun _ _ => hborn).bind
  intro _ announced hannounced
  apply ((ends_look (notCancelled parent) hannounced).imp (fun _ _ h => h)
    fun _ _ => hborn).bind
  intro _ final hfinal
  have hreconcile : final.ledger.reconcileSpawn parent.budgetRef =
      .ok (update final.ledger parent.budgetRef
        (some { account with
          reserved := account.reserved - 1, actual := account.actual + 1 })) := by
    rw [BudgetLedger.reconcileSpawn, hfinal.ledger, haccount]
    exact if_neg hreserved
  have hcounted : (changeLedger fun runtime =>
      runtime.ledger.reconcileSpawn parent.budgetRef).Ends final
      (fun _ now => (born parent request providerId start.states).Marks hook.touched now.states ∧
        now.ledger = update start.ledger parent.budgetRef (some { account with
          reserved := account.reserved - 1, actual := account.actual + 1 }) ∧
        now.results = start.results ∧ now.checkpoints = start.checkpoints)
      fun _ => Failed hook parent request providerId start :=
    ends_changeLedger hreconcile ⟨hfinal.states, by rw [hfinal.ledger], hfinal.results,
      hfinal.checkpoints⟩
  apply hcounted.bind
  rintro _ counted ⟨hstates, hledger, hresults, hcheckpoints⟩
  apply ends_act
  · rintro result ⟨⟩
    exact ⟨rfl, hlate, hstates, hledger, by rw [hresults], hcheckpoints⟩
  · intro fault hfault
    cases hfault

/-! ## The way back -/

variable {found : StateRepository}

/-- Removing the child undoes its addition. -/
theorem marks_popChild {states : StateRepository} {touched : String → Prop}
    (h : (grown parent request providerId states).Marks touched found)
    (hunused : states.actors request.childActorId = none)
    (hunmapped : states.activeByIdentity request.childIdentityId = none)
    (hnamespace : request.childNamespace ∉ states.namespaces) :
    states.Marks touched (popChild request found) := by
  obtain ⟨child, hchild, hsame⟩ := h.lookup (update_self _ _ _)
  change found.actors request.childActorId = some child at hchild
  have hid : child.identityId = request.childIdentityId :=
    congrArg ActorState.identityId hsame
  have hspace : child.stateNamespace = request.childNamespace :=
    congrArg ActorState.stateNamespace hsame
  have hcurrent : found.activeByIdentity child.identityId = some request.childActorId := by
    rw [h.identities, hid]
    exact update_self _ _ _
  have hpop : popChild request found =
      { actors := update found.actors request.childActorId none
        activeByIdentity := update found.activeByIdentity child.identityId none
        namespaces := found.namespaces.erase child.stateNamespace } := by
    rw [popChild, hchild]
    exact if_pos hcurrent
  rw [hpop]
  refine ⟨?_, ?_, ?_, ?_⟩
  · intro actorId
    simp only
    by_cases hother : actorId = request.childActorId
    · rw [hother, hunused, update_self]
    · rw [update_of_ne hother, h.actors]
      exact congrArg (Option.map _) (update_of_ne hother _ _)
  · intro actorId huntouched
    simp only
    by_cases hother : actorId = request.childActorId
    · rw [hother, hunused, update_self]
    · rw [update_of_ne hother, h.kept _ huntouched]
      exact update_of_ne hother _ _
  · simp only [h.identities, hid]
    funext identityId
    by_cases hother : identityId = request.childIdentityId
    · rw [hother, update_self, hunmapped]
    · rw [update_of_ne hother]
      exact update_of_ne hother _ _
  · simp only [h.namespaces, hspace]
    exact Finset.erase_insert hnamespace

theorem popChild_of_unused {states : StateRepository}
    (hunused : states.actors request.childActorId = none) :
    popChild request states = states := by
  rw [popChild, hunused]

/-- The ids of the request are its own. -/
structure Separate (parent : ActorState) (request : SpawnRequest)
    (states : StateRepository) : Prop where
  unused : states.actors request.childActorId = none
  unlisted : request.childActorId ∉ parent.children

/-- Every failure is brought back to the shape without the child. -/
theorem Failed.popped (h : Failed hook parent request providerId start now)
    (hparent : start.states.actors parent.actorId = some parent)
    (hseparate : Separate parent request start.states)
    (hmapped : start.states.activeByIdentity request.childIdentityId = none ∨
      StopsEarly hook parent request start) :
    (start.states.Marks hook.touched (popChild request now.states) ∨
      (start.states.withListed parent.actorId request.childActorId).Marks hook.touched
        (popChild request now.states)) ∧
      now.ledger = start.ledger ∧ now.results = start.results ∧
      now.checkpoints = start.checkpoints := by
  by_cases hearly : StopsEarly hook parent request start
  · have hreached := h.early hearly
    have hunused : now.states.actors request.childActorId = none :=
      (hreached.states.none_iff _).mpr hseparate.unused
    rw [popChild_of_unused hunused]
    exact ⟨Or.inl hreached.states, hreached.ledger, hreached.results, hreached.checkpoints⟩
  · have hunmapped := hmapped.resolve_right hearly
    have hnamespace : request.childNamespace ∉ start.states.namespaces :=
      fun hused => hearly (Or.inr (Or.inr hused))
    rcases h.late hearly with hreached | hreached
    · exact ⟨Or.inl (marks_popChild hreached.states hseparate.unused hunmapped hnamespace),
        hreached.ledger, hreached.results, hreached.checkpoints⟩
    · have hother : parent.actorId ≠ request.childActorId := by
        intro hsame
        rw [hsame, hseparate.unused] at hparent
        cases hparent
      have hstates := hreached.states
      rw [born, grown, StateRepository.withChild_withListed
        (show parent.actorId ≠ (childActor parent request providerId).actorId from hother)]
        at hstates
      have hunused : (start.states.withListed parent.actorId request.childActorId).actors
          request.childActorId = none :=
        (update_of_ne hother.symm _ _).trans hseparate.unused
      exact ⟨Or.inr (marks_popChild hstates hunused hunmapped hnamespace), hreached.ledger,
        hreached.results, hreached.checkpoints⟩

/-- The child is no longer listed. -/
theorem unlistChild_of_marks {states : StateRepository} {touched : String → Prop}
    (hparent : states.actors parent.actorId = some parent)
    (hunlisted : request.childActorId ∉ parent.children)
    (h : states.Marks touched found ∨
      (states.withListed parent.actorId request.childActorId).Marks touched found) :
    ∃ after, unlistChild parent request found = .ok after ∧ states.Marks touched after := by
  have hkeep : parent.children.filter (· ≠ request.childActorId) = parent.children := by
    apply List.filter_eq_self.mpr
    intro childId hchild
    exact decide_eq_true fun hsame => hunlisted (hsame ▸ hchild)
  have hunlist {actor : ActorState} (hactor : found.actors parent.actorId = some actor) :
      unlistChild parent request found = .ok (found.withChildren parent.actorId
        (·.filter (· ≠ request.childActorId))) :=
    StateRepository.mutate_children hactor (·.filter (· ≠ request.childActorId))
  refine ⟨found.withChildren parent.actorId (·.filter (· ≠ request.childActorId)), ?_⟩
  rcases h with hplain | hlisted
  · obtain ⟨actor, hactor, -⟩ := hplain.lookup hparent
    refine ⟨hunlist hactor, ?_⟩
    have hmarks := hplain.withChildren parent.actorId (·.filter (· ≠ request.childActorId))
    rw [StateRepository.withChildren_eq_self hparent hkeep] at hmarks
    exact hmarks
  · have hlisting : (states.withListed parent.actorId request.childActorId).actors
        parent.actorId = some { parent with
          children := parent.children ++ [request.childActorId] } := by
      rw [StateRepository.withListed, StateRepository.withChildren, hparent]
      exact update_self _ _ _
    obtain ⟨actor, hactor, -⟩ := hlisted.lookup hlisting
    refine ⟨hunlist hactor, ?_⟩
    have hmarks := hlisted.withChildren parent.actorId (·.filter (· ≠ request.childActorId))
    rw [StateRepository.withListed, StateRepository.withChildren_withChildren,
      StateRepository.withChildren_eq_self hparent] at hmarks
    · exact hmarks
    · simp only [comp_apply, List.filter_append, hkeep]
      simp

/-- What an undone attempt leaves. -/
structure Undone (Kept : StateRepository → Prop) (request : SpawnRequest) (ref : String)
    (start : RuntimeState) (result : SpawnResult) (now : RuntimeState) : Prop where
  status : result.status = .aborted
  states : Kept now.states
  ledger : ∀ account, start.ledger ref = some account → now.ledger =
    update start.ledger ref (some { account with reserved := account.reserved - 1 })
  results : now.results = update start.results request.requestId
    (some (request.fingerprint, result))
  checkpoints : now.checkpoints = start.checkpoints

/-- A rollback that finds the parent and the budget ends well. -/
theorem ends_undoChild_of_unlist {Kept : StateRepository → Prop}
    (hunlist : ∃ after, unlistChild parent request (popChild request now.states) = .ok after ∧
      Kept after)
    (hledger : now.ledger = start.ledger) (hresults : now.results = start.results)
    (hcheckpoints : now.checkpoints = start.checkpoints)
    (haccount : start.ledger parent.budgetRef = some account) (fault : Fault) :
    (undoChild parent request fault).Ends now
      (Undone Kept request parent.budgetRef start) fun _ _ => False := by
  obtain ⟨after, hunlist, hstates⟩ := hunlist
  have hpop : (changeStates fun runtime => .ok (popChild request runtime.states)).Ends now
      (fun _ after => after = { now with states := popChild request now.states })
      fun _ _ => False := ends_changeStates rfl rfl
  apply hpop.bind
  rintro _ _ rfl
  have hlisting : (changeStates fun runtime => unlistChild parent request runtime.states).Ends
      { now with states := popChild request now.states }
      (fun _ last => last = { now with states := after }) fun _ _ => False :=
    ends_changeStates hunlist rfl
  apply hlisting.bind
  rintro _ _ rfl
  have hrelease : now.ledger.releaseSpawn parent.budgetRef =
      .ok (update now.ledger parent.budgetRef
        (some { account with reserved := account.reserved - 1 })) := by
    rw [BudgetLedger.releaseSpawn, hledger, haccount]
  have hreleased : (changeLedger fun runtime =>
      runtime.ledger.releaseSpawn parent.budgetRef).Ends { now with states := after }
      (fun _ last => last = { now with
        states := after
        ledger := update now.ledger parent.budgetRef
          (some { account with reserved := account.reserved - 1 }) }) fun _ _ => False :=
    ends_changeLedger hrelease rfl
  apply hreleased.bind
  rintro _ _ rfl
  apply ends_act
  · rintro result ⟨⟩
    refine ⟨rfl, hstates, ?_, by rw [← hresults], hcheckpoints⟩
    intro other hother
    rw [haccount] at hother
    cases hother
    rw [← hledger]
  · intro error herror
    cases herror

theorem ends_undoChild (h : Failed hook parent request providerId start now)
    (hparent : start.states.actors parent.actorId = some parent)
    (haccount : start.ledger parent.budgetRef = some account)
    (hseparate : Separate parent request start.states)
    (hmapped : start.states.activeByIdentity request.childIdentityId = none ∨
      StopsEarly hook parent request start) (fault : Fault) :
    (undoChild parent request fault).Ends now
      (Undone (start.states.Marks hook.touched) request parent.budgetRef start)
      fun _ _ => False := by
  obtain ⟨hpopped, hledger, hresults, hcheckpoints⟩ := h.popped hparent hseparate hmapped
  exact ends_undoChild_of_unlist (unlistChild_of_marks hparent hseparate.unlisted hpopped)
    hledger hresults hcheckpoints haccount fault

/-! ## What every rollback does -/

/-- The traces of a rollback, whoever has the ids of the request. -/
structure RolledBack (parent : ActorState) (request : SpawnRequest)
    (failed final : RuntimeState) : Prop where
  removed : final.states.actors request.childActorId = none
  unlisted : ∀ found, final.states.actors parent.actorId = some found →
    request.childActorId ∉ found.children
  identities : final.states.activeByIdentity =
    (popChild request failed.states).activeByIdentity

theorem popChild_removed (states : StateRepository) :
    (popChild request states).actors request.childActorId = none := by
  rw [popChild]
  cases hchild : states.actors request.childActorId with
  | none => exact hchild
  | some child =>
    simp only
    split
    · exact update_self _ _ _
    · exact update_self _ _ _

theorem rolledBack_undoChild (failed : RuntimeState) (fault : Fault) :
    (undoChild parent request fault).Ends failed
      (fun result final => result.status = .aborted ∧
        RolledBack parent request failed final) fun _ _ => True := by
  have hpop : (changeStates fun runtime => .ok (popChild request runtime.states)).Ends failed
      (fun _ after => after = { failed with states := popChild request failed.states })
      fun _ _ => True := ends_changeStates rfl rfl
  apply hpop.bind
  rintro _ _ rfl
  have hunlist : (changeStates fun runtime => unlistChild parent request runtime.states).Ends
      { failed with states := popChild request failed.states }
      (fun _ after => RolledBack parent request failed after) fun _ _ => True := by
    cases hparent : (popChild request failed.states).actors parent.actorId with
    | none =>
      have hmutate : unlistChild parent request (popChild request failed.states) =
          .error (.keyError parent.actorId) := by
        rw [unlistChild, StateRepository.mutate, hparent]
      exact ends_changeStates_error hmutate trivial
    | some found =>
      have hother : parent.actorId ≠ request.childActorId := by
        intro hsame
        rw [hsame, popChild_removed] at hparent
        cases hparent
      have hmutate : unlistChild parent request (popChild request failed.states) =
          .ok ((popChild request failed.states).withChildren parent.actorId
            (·.filter (· ≠ request.childActorId))) :=
        StateRepository.mutate_children hparent (·.filter (· ≠ request.childActorId))
      apply ends_changeStates hmutate
      refine ⟨?_, ?_, rfl⟩
      · exact (update_of_ne hother.symm _ _).trans (popChild_removed _)
      · intro actor hactor
        simp only [StateRepository.withChildren, StateRepository.setActor_actors,
          update_self, hparent, Option.map_some, Option.some.injEq] at hactor
        rw [← hactor]
        simp
  apply hunlist.bind
  intro _ after hafter
  have hrelease : (changeLedger fun runtime =>
      runtime.ledger.releaseSpawn parent.budgetRef).Ends after
      (fun _ final => RolledBack parent request failed final) fun _ _ => True := by
    apply ends_act
    · intro _ _
      split
      · exact hafter
      · exact ⟨hafter.removed, hafter.unlisted, hafter.identities⟩
    · intro _ _
      trivial
  apply hrelease.bind
  intro _ final hfinal
  apply ends_act
  · rintro result ⟨⟩
    exact ⟨rfl, hfinal.removed, hfinal.unlisted, hfinal.identities⟩
  · intro error herror
    cases herror

/-! ## Requests that get a reservation -/

/-- The request passes everything before the attempt. -/
structure Reserves (request : SpawnRequest) (runtime : RuntimeState) (parent : ActorState)
    (account : BudgetAccount) : Prop where
  fresh : runtime.results request.requestId = none
  known : runtime.states.actors request.parentActorId = some parent
  current : runtime.states.validateCurrent parent.actorId parent.generation
    parent.fencingEpoch = .ok ()
  accepted : refusal parent request = none
  funded : runtime.ledger parent.budgetRef = some account
  provider : request.providerId = account.providerId
  limit : account.actual + account.reserved < account.maxSpawns

/-- The runtime with the reservation. -/
def reservedFor (runtime : RuntimeState) (parent : ActorState) (account : BudgetAccount) :
    RuntimeState :=
  { runtime with
    ledger := update runtime.ledger parent.budgetRef
      (some { account with reserved := account.reserved + 1 }) }

variable {runtime : RuntimeState}

theorem exec_spawn_of_reserves (h : Reserves request runtime parent account) :
    (spawn hook request).exec runtime =
      ((attemptChild hook parent request account.providerId).handle fun fault =>
        some (undoChild parent request fault)).exec (reservedFor runtime parent account) := by
  have hprovider : runtime.ledger.provider parent.budgetRef = .ok account.providerId := by
    rw [BudgetLedger.provider, h.funded]
  have hreserve : (reserveChild parent).exec runtime =
      (reservedFor runtime parent account, .ok none) := by
    rw [reserveChild, exec_act, BudgetLedger.reserveSpawn, h.funded]
    simp only [if_neg (not_le.mpr h.limit)]
    rfl
  rw [spawn, exec_read_bind, h.fresh]
  simp only
  rw [exec_bind_ok (exec_look (StateRepository.get_eq_ok_iff.mpr h.known)),
    exec_bind_ok (exec_look h.current), h.accepted]
  simp only
  rw [spawnUnder, exec_bind_ok (exec_look hprovider)]
  simp only [h.provider, ne_eq, not_true_eq_false, if_false]
  rw [exec_bind_ok hreserve]

/-- A request that is answered rather than met with an error: it has a result, or its
parent is current and the request is refused or the parent has a budget. -/
def Answerable (request : SpawnRequest) (runtime : RuntimeState) : Prop :=
  runtime.results request.requestId ≠ none ∨
    ∃ parent, runtime.states.actors request.parentActorId = some parent ∧
      runtime.states.validateCurrent parent.actorId parent.generation parent.fencingEpoch =
        .ok () ∧
      (refusal parent request ≠ none ∨ runtime.ledger parent.budgetRef ≠ none)

theorem Reserves.answerable (h : Reserves request runtime parent account) :
    Answerable request runtime := by
  refine Or.inr ⟨parent, h.known, h.current, Or.inr ?_⟩
  rw [h.funded]
  exact Option.some_ne_none account

theorem answerable_iff (hfresh : runtime.results request.requestId = none)
    (hparent : runtime.states.actors request.parentActorId = some parent) :
    Answerable request runtime ↔
      runtime.states.validateCurrent parent.actorId parent.generation parent.fencingEpoch =
        .ok () ∧
      (refusal parent request ≠ none ∨ runtime.ledger parent.budgetRef ≠ none) := by
  constructor
  · rintro (hstored | ⟨other, hother, hcurrent, hanswer⟩)
    · exact absurd hfresh hstored
    · obtain rfl : other = parent := Option.some.inj (hother.symm.trans hparent)
      exact ⟨hcurrent, hanswer⟩
  · rintro ⟨hcurrent, hanswer⟩
    exact Or.inr ⟨parent, hparent, hcurrent, hanswer⟩

/-- Without a reservation a fresh request raises, or is refused and only the result is
noted. -/
theorem ends_spawn_of_not_reserves (hfresh : runtime.results request.requestId = none)
    (h : ∀ parent account, ¬ Reserves request runtime parent account) :
    (spawn hook request).Ends runtime
      (fun result now => Answerable request runtime ∧ result.status = .aborted ∧
        now = { runtime with
          results := update runtime.results request.requestId
            (some (request.fingerprint, result)) })
      fun _ now => ¬ Answerable request runtime ∧ now = runtime := by
  have hpublish (detail : String) (hanswerable : Answerable request runtime) :
      (publish request (aborted detail)).Ends runtime
      (fun result now => Answerable request runtime ∧ result.status = .aborted ∧
        now = { runtime with
          results := update runtime.results request.requestId
            (some (request.fingerprint, result)) })
      fun _ now => ¬ Answerable request runtime ∧ now = runtime := by
    apply ends_act
    · rintro result ⟨⟩
      exact ⟨hanswerable, rfl, rfl⟩
    · intro error herror
      cases herror
  rw [Ends, spawn, exec_read_bind, hfresh]
  simp only
  cases hparent : runtime.states.get request.parentActorId with
  | error fault =>
    rw [exec_bind_error (exec_look_error hparent)]
    refine ⟨?_, rfl⟩
    rintro (hstored | ⟨parent, hknown, -⟩)
    · exact hstored hfresh
    · rw [StateRepository.get_eq_ok_iff.mpr hknown] at hparent
      cases hparent
  | ok parent =>
    have hknown := StateRepository.get_eq_ok_iff.mp hparent
    rw [exec_bind_ok (exec_look hparent)]
    cases hcurrent : runtime.states.validateCurrent parent.actorId parent.generation
        parent.fencingEpoch with
    | error fault =>
      rw [exec_bind_error (exec_look_error hcurrent)]
      refine ⟨?_, rfl⟩
      rw [answerable_iff hfresh hknown, hcurrent]
      rintro ⟨hpasses, -⟩
      cases hpasses
    | ok _ =>
      rw [exec_bind_ok (exec_look hcurrent)]
      cases haccepted : refusal parent request with
      | some detail =>
        apply hpublish detail
        rw [answerable_iff hfresh hknown, haccepted]
        exact ⟨hcurrent, Or.inl (Option.some_ne_none detail)⟩
      | none =>
        simp only
        rw [spawnUnder]
        cases haccount : runtime.ledger parent.budgetRef with
        | none =>
          have hprovider : runtime.ledger.provider parent.budgetRef =
              .error (.keyError parent.budgetRef) := by
            rw [BudgetLedger.provider, haccount]
          rw [exec_bind_error (exec_look_error hprovider)]
          refine ⟨?_, rfl⟩
          rw [answerable_iff hfresh hknown, haccepted, haccount]
          exact fun hanswerable => hanswerable.2.elim (· rfl) (· rfl)
        | some account =>
          have hprovider : runtime.ledger.provider parent.budgetRef =
              .ok account.providerId := by
            rw [BudgetLedger.provider, haccount]
          have hanswerable : Answerable request runtime := by
            rw [answerable_iff hfresh hknown, haccount]
            exact ⟨hcurrent, Or.inr (Option.some_ne_none account)⟩
          rw [exec_bind_ok (exec_look hprovider)]
          by_cases hsame : request.providerId = account.providerId
          · have hlimit : account.maxSpawns ≤ account.actual + account.reserved := by
              by_contra hfree
              exact h parent account ⟨hfresh, hknown, hcurrent, haccepted,
                haccount, hsame, not_le.mp hfree⟩
            have hreserve : (reserveChild parent).exec runtime =
                (runtime, .ok (some "BUDGET_EXHAUSTED")) := by
              rw [reserveChild, exec_act, BudgetLedger.reserveSpawn, haccount]
              simp only [if_pos hlimit]
            simp only [hsame, ne_eq, not_true_eq_false, if_false]
            rw [exec_bind_ok hreserve]
            exact hpublish "BUDGET_EXHAUSTED" hanswerable
          · simp only [ne_eq, hsame, not_false_eq_true, if_true]
            exact hpublish "PROVIDER_BINDING_MISMATCH" hanswerable

theorem ends_spawn_of_not_answerable (h : ¬ Answerable request runtime) :
    (spawn hook request).Ends runtime (fun _ _ => False) fun _ now => now = runtime := by
  have hfresh : runtime.results request.requestId = none := by
    by_contra hstored
    exact h (Or.inl hstored)
  apply (ends_spawn_of_not_reserves hfresh fun parent account hreserves =>
    h hreserves.answerable).imp
  · intro result now hgood
    exact h hgood.1
  · intro fault now hbad
    exact hbad.2

/-! ## Exactness -/

/-- An aborted spawn: everything is as before, up to the lifecycles that the hook has
changed. -/
structure SpawnAborted (touched : String → Prop) (before now : RuntimeState) : Prop where
  states : before.states.Marks touched now.states
  ledger : now.ledger = before.ledger

/-- A committed spawn: a new child with a new entry for its identity and a new namespace,
one more child of the parent and one more actual spawn of the budget. -/
structure SpawnCommitted (touched : String → Prop) (request : SpawnRequest)
    (parent : ActorState) (account : BudgetAccount) (before now : RuntimeState) : Prop where
  known : before.states.actors request.parentActorId = some parent
  funded : before.ledger parent.budgetRef = some account
  separate : Separate parent request before.states
  unmapped : before.states.activeByIdentity request.childIdentityId = none
  unused : request.childNamespace ∉ before.states.namespaces
  states : (born parent request account.providerId before.states).Marks touched now.states
  ledger : now.ledger = update before.ledger parent.budgetRef
    (some { account with actual := account.actual + 1 })
  /-- Nobody else becomes current or ceases to be. -/
  current : ∀ actorId, actorId ≠ request.childActorId → ¬ touched actorId →
    ∀ generation fencingEpoch,
      now.states.validateCurrent actorId generation fencingEpoch =
        before.states.validateCurrent actorId generation fencingEpoch

/-- The call is exact: it returns, a request that has a result gets it again and changes
nothing, and another one is committed or aborted exactly; the same request is then answered
with the same result, and changes nothing. -/
def ExactSpawn (hook : SpawnHook) (request : SpawnRequest) (before : RuntimeState) : Prop :=
  (spawn hook request).Ends before
    (fun result now =>
      (match before.results request.requestId with
        | some _ => now = before
        | none =>
          match result.status with
          | .aborted => SpawnAborted hook.touched before now
          | .committed => ∃ parent account,
              SpawnCommitted hook.touched request parent account before now) ∧
      ∀ again : SpawnHook, (spawn again request).exec now = (now, .ok result))
    fun _ _ => False

theorem exec_spawn_of_result {fingerprint : SpawnFingerprint} {result : SpawnResult}
    (h : runtime.results request.requestId = some (fingerprint, result)) :
    (spawn hook request).exec runtime = (runtime, .ok
      (if fingerprint ≠ request.fingerprint then aborted "REQUEST_ID_CONFLICT"
        else result)) := by
  rw [spawn, exec_read_bind, h]
  simp only
  split <;> rfl

theorem exec_spawn_again {result : SpawnResult}
    (h : runtime.results request.requestId = some (request.fingerprint, result)) :
    (spawn hook request).exec runtime = (runtime, .ok result) := by
  rw [exec_spawn_of_result h]
  simp

/-- A new child changes nothing for the others. -/
theorem validateCurrent_of_born {before now : StateRepository} {touched : String → Prop}
    (hunmapped : before.activeByIdentity request.childIdentityId = none)
    (hstates : (born parent request providerId before).Marks touched now)
    {actorId : String} (hother : actorId ≠ request.childActorId) (huntouched : ¬ touched actorId)
    (generation fencingEpoch : ℤ) :
    now.validateCurrent actorId generation fencingEpoch =
      before.validateCurrent actorId generation fencingEpoch := by
  apply StateRepository.validateCurrent_congr
  · rw [hstates.kept actorId huntouched]
    have hgrown : (grown parent request providerId before).actors actorId =
        before.actors actorId := update_of_ne hother _ _
    by_cases hparent : actorId = parent.actorId
    · rw [hparent] at hgrown ⊢
      have hborn : (born parent request providerId before).actors parent.actorId =
          ((grown parent request providerId before).actors parent.actorId).map fun found =>
            { found with children := found.children ++ [request.childActorId] } :=
        update_self _ _ _
      rw [hborn, hgrown, Option.map_map]
      rfl
    · have hborn : (born parent request providerId before).actors actorId =
          (grown parent request providerId before).actors actorId :=
        update_of_ne hparent _ _
      rw [hborn, hgrown]
  · intro actor _
    have hborn : now.activeByIdentity = update before.activeByIdentity
        request.childIdentityId (some request.childActorId) := hstates.identities
    rw [hborn]
    by_cases hsame : actor.identityId = request.childIdentityId
    · rw [hsame, update_self, hunmapped]
      constructor
      · intro h
        exact absurd (Option.some.inj h).symm hother
      · intro h
        cases h
    · rw [update_of_ne hsame]

/-- With ids of its own a request with a reservation is carried out exactly. -/
theorem exactSpawn_of_separate (h : Reserves request runtime parent account)
    (hkeyed : runtime.states.Keyed) (hseparate : Separate parent request runtime.states)
    (hmapped : runtime.states.activeByIdentity request.childIdentityId = none ∨
      StopsEarly hook parent request (reservedFor runtime parent account)) :
    ExactSpawn hook request runtime := by
  have hparent : runtime.states.actors parent.actorId = some parent := by
    rw [hkeyed _ _ h.known]
    exact h.known
  have haccount : (reservedFor runtime parent account).ledger parent.budgetRef =
      some { account with reserved := account.reserved + 1 } := update_self _ _ _
  have hattempt : (attemptChild hook parent request account.providerId).Ends
      (reservedFor runtime parent account)
      (Committed hook parent request account.providerId
        { account with reserved := account.reserved + 1 } (reservedFor runtime parent account))
      fun _ => Failed hook parent request account.providerId
        (reservedFor runtime parent account) :=
    ends_attemptChild hparent hseparate.unused haccount (Nat.succ_ne_zero account.reserved)
  rw [ExactSpawn, ends_congr (exec_spawn_of_reserves h)]
  simp only [h.fresh]
  apply Ends.handle
  · apply hattempt.imp
    · intro result now hcommitted
      have hstatus : result.status = .committed := by rw [hcommitted.answer]
      rw [hstatus]
      have hunmapped := hmapped.resolve_right hcommitted.late
      have hunused : request.childNamespace ∉ runtime.states.namespaces :=
        fun hused => hcommitted.late (Or.inr (Or.inr hused))
      refine ⟨⟨parent, account, h.known, h.funded, hseparate, hunmapped, hunused,
        hcommitted.states, ?_, ?_⟩, ?_⟩
      · rw [hcommitted.ledger]
        simp only [reservedFor, update_idem, Nat.add_sub_cancel]
      · intro actorId hother huntouched generation fencingEpoch
        exact validateCurrent_of_born hunmapped hcommitted.states hother huntouched _ _
      · intro again
        apply exec_spawn_again
        rw [hcommitted.results, update_self]
    · intro fault now hfailed
      exact hfailed
  · intro fault now hfailed
    apply (ends_undoChild hfailed hparent haccount hseparate hmapped fault).imp
    · intro result final hundone
      rw [hundone.status]
      refine ⟨⟨hundone.states, ?_⟩, ?_⟩
      · rw [hundone.ledger _ haccount]
        simp only [reservedFor, update_idem, Nat.add_sub_cancel]
        rw [← h.funded, update_eq_self]
      · intro again
        apply exec_spawn_again
        rw [hundone.results, update_self]
    · intro error final hfalse
      exact hfalse.elim

theorem exactSpawn_of_not_reserves (hanswerable : Answerable request runtime)
    (h : ∀ parent account, ¬ Reserves request runtime parent account) :
    ExactSpawn hook request runtime := by
  cases hfresh : runtime.results request.requestId with
  | some stored =>
    obtain ⟨fingerprint, result⟩ := stored
    rw [ExactSpawn, ends_of_ok (exec_spawn_of_result hfresh)]
    simp only [hfresh]
    exact ⟨trivial, fun again => exec_spawn_of_result hfresh⟩
  | none =>
    rw [ExactSpawn]
    apply (ends_spawn_of_not_reserves hfresh h).imp
    · rintro result now ⟨-, hstatus, rfl⟩
      simp only [hfresh, hstatus]
      refine ⟨⟨.refl _, rfl⟩, ?_⟩
      intro again
      apply exec_spawn_again
      simp only [update_self]
    · intro fault now hbad
      exact hbad.1 hanswerable

theorem attemptChild_committed (start : RuntimeState) :
    (attemptChild hook parent request providerId).Ends start
      (fun result _ => result.status = .committed) fun _ _ => True := by
  have hany {A : Type} (script : RuntimeScript A) (now : RuntimeState) :
      script.Ends now (fun _ _ => True) fun _ _ => True := ends_trivial script now
  apply (hany _ _).bind
  intro _ _ _
  apply (hany _ _).bind
  intro _ _ _
  apply (hany _ _).bind
  intro _ _ _
  apply (hany _ _).bind
  intro _ _ _
  apply (hany _ _).bind
  intro _ _ _
  apply (hany _ _).bind
  intro _ _ _
  apply (hany _ _).bind
  intro _ _ _
  apply (hany _ _).bind
  intro _ _ _
  apply (hany _ _).bind
  intro _ now _
  apply ends_act
  · rintro result ⟨⟩
    rfl
  · intro _ _
    trivial

/-- A rollback from the late shapes takes the entry of the identity away. -/
theorem popChild_unmapped {states : StateRepository} {touched : String → Prop}
    (hunused : states.actors request.childActorId = none)
    (hparent : states.actors parent.actorId = some parent)
    (h : (grown parent request providerId states).Marks touched found ∨
      (born parent request providerId states).Marks touched found) :
    (popChild request found).activeByIdentity request.childIdentityId = none := by
  have hother : request.childActorId ≠ parent.actorId := by
    intro hsame
    rw [← hsame, hunused] at hparent
    cases hparent
  have hborn : (born parent request providerId states).actors request.childActorId =
      some (childActor parent request providerId) :=
    (update_of_ne hother _ _).trans (update_self _ _ _)
  have hfound : ∃ child, found.actors request.childActorId = some child ∧
      child.unmarked = (childActor parent request providerId).unmarked := by
    rcases h with hgrown | hlisted
    · exact hgrown.lookup (update_self _ _ _)
    · exact hlisted.lookup hborn
  have hmap : found.activeByIdentity = update states.activeByIdentity
      request.childIdentityId (some request.childActorId) := by
    rcases h with hgrown | hlisted
    · exact hgrown.identities
    · exact hlisted.identities
  obtain ⟨child, hchild, hsame⟩ := hfound
  have hid : child.identityId = request.childIdentityId :=
    congrArg ActorState.identityId hsame
  have hcurrent : found.activeByIdentity child.identityId = some request.childActorId := by
    rw [hmap, hid, update_self]
  have hpop : (popChild request found).activeByIdentity =
      update found.activeByIdentity child.identityId none := by
    rw [popChild, hchild]
    simp only
    rw [if_pos hcurrent]
    rfl
  rw [hpop, ← hid, update_self]

/-- A request with a reservation is carried out exactly only if its ids are its own. -/
theorem separate_of_exactSpawn (h : Reserves request runtime parent account)
    (hkeyed : runtime.states.Keyed) (hexact : ExactSpawn hook request runtime) :
    Separate parent request runtime.states ∧
      (runtime.states.activeByIdentity request.childIdentityId = none ∨
        StopsEarly hook parent request (reservedFor runtime parent account)) := by
  have hparent : runtime.states.actors parent.actorId = some parent := by
    rw [hkeyed _ _ h.known]
    exact h.known
  rw [ExactSpawn, ends_congr (exec_spawn_of_reserves h)] at hexact
  simp only [h.fresh] at hexact
  cases hattempt : (attemptChild hook parent request account.providerId).exec
      (reservedFor runtime parent account) with
  | mk failed answer =>
    cases answer with
    | ok result =>
      have hexec : ((attemptChild hook parent request account.providerId).handle
          fun fault => some (undoChild parent request fault)).exec
            (reservedFor runtime parent account) = (failed, .ok result) := by
        rw [exec_handle, hattempt]
      have hstatus : result.status = .committed :=
        (ends_of_ok hattempt).mp (attemptChild_committed _)
      rw [ends_of_ok hexec, hstatus] at hexact
      obtain ⟨⟨parent', account', hcommitted⟩, -⟩ := hexact
      obtain rfl : parent' = parent :=
        Option.some.inj (hcommitted.known.symm.trans h.known)
      exact ⟨hcommitted.separate, Or.inl hcommitted.unmapped⟩
    | error fault =>
      have hexec : ((attemptChild hook parent request account.providerId).handle
          fun fault => some (undoChild parent request fault)).exec
            (reservedFor runtime parent account) =
              (undoChild parent request fault).exec failed := by
        rw [exec_handle, hattempt]
      rw [ends_congr hexec] at hexact
      have hrolled := @rolledBack_undoChild parent request failed fault
      cases hundo : (undoChild parent request fault).exec failed with
      | mk final answer =>
        cases answer with
        | error error =>
          rw [ends_of_error hundo] at hexact
          exact hexact.elim
        | ok result =>
          rw [ends_of_ok hundo] at hexact hrolled
          obtain ⟨hstatus, hrolled⟩ := hrolled
          rw [hstatus] at hexact
          have hmarks := hexact.1.states
          have hunused := (hmarks.none_iff _).mp hrolled.removed
          have hunlisted : request.childActorId ∉ parent.children := by
            obtain ⟨found, hfound, hsame⟩ := hmarks.lookup hparent
            have hchildren : found.children = parent.children := by
              change found.unmarked.children = parent.unmarked.children
              rw [hsame]
            rw [← hchildren]
            exact hrolled.unlisted found hfound
          refine ⟨⟨hunused, hunlisted⟩, ?_⟩
          by_cases hearly : StopsEarly hook parent request
              (reservedFor runtime parent account)
          · exact Or.inr hearly
          · left
            have hfailed := (ends_of_error hattempt).mp (@ends_attemptChild hook parent
              request account.providerId _ _ hparent hunused
              (update_self _ _ _) (Nat.succ_ne_zero account.reserved))
            have hreached : (grown parent request account.providerId
                  runtime.states).Marks hook.touched failed.states ∨
                (born parent request account.providerId
                  runtime.states).Marks hook.touched failed.states :=
              (hfailed.late hearly).imp (·.states) (·.states)
            rw [← hmarks.identities, hrolled.identities]
            exact popChild_unmapped hunused hparent hreached

theorem answerable_of_exactSpawn (h : ExactSpawn hook request runtime) :
    Answerable request runtime := by
  by_contra hanswerable
  have hraises := @ends_spawn_of_not_answerable hook request runtime hanswerable
  rw [ExactSpawn] at h
  cases hexec : (spawn hook request).exec runtime with
  | mk now answer =>
    cases answer with
    | ok result => exact (ends_of_ok hexec).mp hraises
    | error fault => exact (ends_of_error hexec).mp h

theorem exactSpawn_iff (hkeyed : runtime.states.Keyed) :
    ExactSpawn hook request runtime ↔
      Answerable request runtime ∧
        ∀ parent account, Reserves request runtime parent account →
          Separate parent request runtime.states ∧
            (runtime.states.activeByIdentity request.childIdentityId = none ∨
              StopsEarly hook parent request (reservedFor runtime parent account)) := by
  constructor
  · intro hexact
    refine ⟨answerable_of_exactSpawn hexact, ?_⟩
    intro parent account h
    exact separate_of_exactSpawn h hkeyed hexact
  · rintro ⟨hanswerable, hseparate⟩
    by_cases h : ∃ parent account, Reserves request runtime parent account
    · obtain ⟨parent, account, h⟩ := h
      obtain ⟨hids, hmapped⟩ := hseparate parent account h
      exact exactSpawn_of_separate h hkeyed hids hmapped
    · apply exactSpawn_of_not_reserves hanswerable
      intro parent account hreserves
      exact h ⟨parent, account, hreserves⟩

end ReisOs.RecursiveRuntime
