import ReisOs.RecursiveRuntime.RuntimeRuns

/-!
# What the calls change

Each call either leaves the actors as they are, up to lifecycles, or adds one child under
its parent or one successor under a new id.
-/

namespace ReisOs.RecursiveRuntime

open ReisOs.Core Script DurableJournal StateRepository Function

namespace StateRepository

/-- The same actors, up to lifecycles. -/
def SameActors (states now : StateRepository) : Prop :=
  ∀ actorId, (now.actors actorId).map ActorState.unmarked =
    (states.actors actorId).map ActorState.unmarked

variable {states middle now : StateRepository} {touched : String → Prop}

theorem SameActors.refl (states : StateRepository) : states.SameActors states := fun _ => rfl

theorem Marks.same (h : states.Marks touched now) : states.SameActors now := h.actors

theorem SameActors.lookup (h : states.SameActors now) {actorId : String} {actor : ActorState}
    (hactor : now.actors actorId = some actor) :
    ∃ before, states.actors actorId = some before ∧ before.unmarked = actor.unmarked := by
  have hsame := h actorId
  rw [hactor] at hsame
  exact Option.map_eq_some_iff.mp hsame.symm

theorem SameActors.none_iff (h : states.SameActors now) (actorId : String) :
    now.actors actorId = none ↔ states.actors actorId = none := by
  rw [← Option.map_eq_none_iff, h actorId, Option.map_eq_none_iff]

theorem SameActors.setActor (h : states.SameActors now) (actorId : String)
    {actor changed : Option ActorState}
    (hchanged : changed.map ActorState.unmarked = actor.map ActorState.unmarked) :
    (states.setActor actorId actor).SameActors (now.setActor actorId changed) := by
  intro other
  simp only [setActor_actors]
  by_cases hsame : other = actorId
  · rw [hsame, update_self, update_self, hchanged]
  · rw [update_of_ne hsame, update_of_ne hsame, h other]

theorem SameActors.withChildren (h : states.SameActors now) (parentId : String)
    (change : List String → List String) :
    (states.withChildren parentId change).SameActors (now.withChildren parentId change) := by
  apply h.setActor
  have hchange (found : Option ActorState) :
      (found.map fun parent => { parent with children := change parent.children }).map
          ActorState.unmarked =
        (found.map ActorState.unmarked).map fun parent =>
          { parent with children := change parent.children } := by
    cases found <;> rfl
  rw [hchange, hchange, h parentId]

theorem marks_setLifecycle {actorId : String} {lifecycle : Lifecycle}
    (hset : states.setLifecycle actorId lifecycle = .ok now) :
    states.Marks (· = actorId) now := by
  rw [setLifecycle, mutate] at hset
  cases hactor : states.actors actorId with
  | none =>
    rw [hactor] at hset
    cases hset
  | some actor =>
    rw [hactor] at hset
    cases hset
    refine ⟨?_, ?_, rfl, rfl⟩
    · intro other
      rw [setActor_actors]
      by_cases hsame : other = actorId
      · rw [hsame, update_self, hactor]
        rfl
      · rw [update_of_ne hsame]
    · intro other hother
      exact update_of_ne hother _ _

theorem Marks.mono {wider : String → Prop} (h : states.Marks touched now)
    (hwider : ∀ actorId, touched actorId → wider actorId) : states.Marks wider now :=
  ⟨h.actors, fun actorId huntouched => h.kept actorId fun ht => huntouched (hwider actorId ht),
    h.identities, h.namespaces⟩

theorem marks_replayIntents (rows : List JournalRecord) (states : StateRepository) :
    states.Marks (fun _ => True) (replayIntents rows states).1 := by
  induction rows generalizing states with
  | nil => exact .refl states
  | cons row rows ih =>
    rw [replayIntents]
    split
    · exact ih states
    · cases hmark : states.setLifecycle row.actorId .cancelling with
      | error fault => exact ih states
      | ok marked =>
        exact ((marks_setLifecycle hmark).mono fun _ _ => trivial).trans (ih marked)

end StateRepository

/-! ## Calls that only mark actors -/

/-- At most lifecycles have changed, and intents have been written. -/
structure Relabelled (before now : RuntimeState) : Prop where
  states : before.states.Marks (fun _ => True) now.states
  ledger : now.ledger = before.ledger
  results : now.results = before.results
  checkpoints : now.checkpoints = before.checkpoints
  journal : ∃ intents, now.journal = before.journal ++ intents ∧
    ∀ record ∈ intents, ∃ actorId reason actor, record = cancelIntent actorId reason actor

theorem Relabelled.refl (runtime : RuntimeState) : Relabelled runtime runtime :=
  ⟨.refl _, rfl, rfl, rfl, [], (List.append_nil _).symm, fun _ h => absurd h List.not_mem_nil⟩

variable {start runtime : RuntimeState}

theorem relabelled_setLifecycle (start : RuntimeState) (actorId : String)
    (lifecycle : Lifecycle) :
    Obeys (keeping (Relabelled start))
      (changeStates (·.states.setLifecycle actorId lifecycle)) := by
  apply keeps_changeStates
  intro runtime states h hset
  have hmarks := marks_setLifecycle hset
  exact ⟨h.states.trans (hmarks.mono fun _ _ => trivial), h.ledger, h.results,
    h.checkpoints, h.journal⟩

theorem relabelled_intent (start : RuntimeState) (actorId reason : String)
    (actor : ActorState) :
    Obeys (keeping (Relabelled start)) (journalPut (cancelIntent actorId reason actor)) := by
  apply keeps_act
  intro runtime h
  obtain ⟨intents, hjournal, hintents⟩ := h.journal
  obtain ⟨-, hput⟩ | ⟨other, -, -, hput⟩ :=
    putRecord_cases runtime.journal (cancelIntent actorId reason actor)
  · rw [hput]
    refine ⟨h.states, h.ledger, h.results, h.checkpoints,
      intents ++ [cancelIntent actorId reason actor], ?_, ?_⟩
    · simp only [hjournal, List.append_assoc]
    · intro record hrecord
      rcases List.mem_append.mp hrecord with hold | hnew
      · exact hintents record hold
      · exact ⟨actorId, reason, actor, List.mem_singleton.mp hnew⟩
  · simp only [hput]
    split
    · exact h
    · exact ⟨h.states, h.ledger, h.results, h.checkpoints, intents, hjournal, hintents⟩

theorem relabelled_walkChildren (start : RuntimeState) (fuel : ℕ) (out queue : List String) :
    Obeys (keeping (Relabelled start)) (walkChildren fuel out queue) := by
  induction fuel generalizing out queue with
  | zero => cases queue <;> exact obeys_pure _
  | succ fuel ih =>
    cases queue with
    | nil => exact obeys_pure _
    | cons actorId queue => exact (keeps_look _).bind fun actor => ih _ _

theorem relabelled_persistIntents (start : RuntimeState) (reason : String)
    (targets : List String) :
    Obeys (keeping (Relabelled start)) (persistIntents reason targets) := by
  induction targets with
  | nil => exact obeys_pure _
  | cons actorId targets ih =>
    apply (keeps_look _).bind
    intro actor
    exact (relabelled_intent start actorId reason actor).bind fun _ => ih

theorem relabelled_markCancelled (start : RuntimeState) (targets : List String) :
    Obeys (keeping (Relabelled start)) (markCancelled targets) := by
  induction targets with
  | nil => exact obeys_pure _
  | cons actorId targets ih =>
    apply (relabelled_setLifecycle start actorId .cancelling).bind
    intro _
    exact (keeps_look _).bind fun _ => ih

theorem relabelled_cancel (start : RuntimeState) (config : RuntimeConfig) (fuel : ℕ)
    (actorId reason : String) :
    Obeys (keeping (Relabelled start)) (cancel config fuel actorId reason) := by
  apply (keeps_look _).bind
  intro actor
  split
  · have hbelow : Obeys (keeping (Relabelled start)) (descendantsOf fuel actorId) :=
      (keeps_look _).bind fun found => relabelled_walkChildren start fuel [] found.children
    apply hbelow.bind
    intro below
    cases below with
    | none => exact obeys_pure _
    | some below =>
      have hintents : Obeys (keeping (Relabelled start))
          (persistIntentsIf config.cancellationJournal reason (actorId :: below)) := by
        rw [persistIntentsIf]
        split
        · exact relabelled_persistIntents start reason _
        · exact obeys_pure _
      apply hintents.bind
      intro _
      exact (relabelled_markCancelled start _).bind fun _ => obeys_pure _
  · apply (relabelled_setLifecycle start actorId .failedClosed).bind
    intro _
    exact obeys_raise _

theorem relabelled_replayCancellations (start : RuntimeState) (config : RuntimeConfig) :
    Obeys (keeping (Relabelled start)) (replayCancellations config) := by
  apply keeps_act
  intro runtime h
  split
  · exact ⟨h.states.trans (marks_replayIntents runtime.journal runtime.states),
      h.ledger, h.results, h.checkpoints, h.journal⟩
  · exact h

/-! ## Spawns -/

section Spawn

variable {hook : SpawnHook} {parent : ActorState} {request : SpawnRequest}
  {providerId : String} {account : BudgetAccount} {now : RuntimeState}

theorem popChild_actors (request : SpawnRequest) (states : StateRepository) :
    (popChild request states).actors =
      update states.actors request.childActorId none := by
  rw [popChild]
  cases hchild : states.actors request.childActorId with
  | none => exact (update_eq_self_iff.mpr hchild.symm).symm
  | some child =>
    simp only
    split <;> rfl

/-- Taking the child away leads back to the actors without it, whatever the identities and
namespaces are. -/
theorem same_popChild {states found : StateRepository}
    (hunused : states.actors request.childActorId = none) {child : ActorState}
    (hid : child.actorId = request.childActorId)
    (h : (states.withChild child).SameActors found) :
    states.SameActors (popChild request found) := by
  intro actorId
  rw [popChild_actors]
  by_cases hsame : actorId = request.childActorId
  · rw [hsame, update_self, hunused]
  · rw [update_of_ne hsame, h actorId]
    exact congrArg _ (update_of_ne (hid ▸ hsame) _ _)

theorem Failed.kept (h : Failed hook parent request providerId start now) :
    ∃ shape, Reached hook.touched shape start now := by
  by_cases hearly : StopsEarly hook parent request start
  · exact ⟨_, h.early hearly⟩
  · rcases h.late hearly with hreached | hreached
    · exact ⟨_, hreached⟩
    · exact ⟨_, hreached⟩

theorem Failed.same_popped (h : Failed hook parent request providerId start now)
    (hparent : start.states.actors parent.actorId = some parent)
    (hunused : start.states.actors request.childActorId = none) :
    start.states.SameActors (popChild request now.states) ∨
      (start.states.withListed parent.actorId request.childActorId).SameActors
        (popChild request now.states) := by
  by_cases hearly : StopsEarly hook parent request start
  · have hreached := h.early hearly
    have hnow : now.states.actors request.childActorId = none :=
      (hreached.states.none_iff _).mpr hunused
    rw [popChild_of_unused hnow]
    exact Or.inl hreached.states.same
  · rcases h.late hearly with hreached | hreached
    · exact Or.inl (same_popChild hunused rfl hreached.states.same)
    · have hother : parent.actorId ≠ request.childActorId := by
        intro hsame
        rw [hsame, hunused] at hparent
        cases hparent
      have hstates := hreached.states.same
      rw [born, grown, withChild_withListed
        (show parent.actorId ≠ (childActor parent request providerId).actorId from hother)]
        at hstates
      have hlisted : (start.states.withListed parent.actorId request.childActorId).actors
          request.childActorId = none :=
        (update_of_ne hother.symm _ _).trans hunused
      exact Or.inr (same_popChild hlisted rfl hstates)

/-- The child is no longer listed, and the actors are as before. -/
theorem unlistChild_of_same {states found : StateRepository}
    (hparent : states.actors parent.actorId = some parent)
    (hunlisted : request.childActorId ∉ parent.children)
    (h : states.SameActors found ∨
      (states.withListed parent.actorId request.childActorId).SameActors found) :
    ∃ after, unlistChild parent request found = .ok after ∧ states.SameActors after := by
  have hkeep : parent.children.filter (· ≠ request.childActorId) = parent.children := by
    apply List.filter_eq_self.mpr
    intro childId hchild
    exact decide_eq_true fun hsame => hunlisted (hsame ▸ hchild)
  have hlisting : (states.withListed parent.actorId request.childActorId).actors
      parent.actorId = some { parent with
        children := parent.children ++ [request.childActorId] } := by
    rw [withListed, withChildren, hparent]
    exact update_self _ _ _
  have hfound : found.actors parent.actorId ≠ none := by
    rcases h with hplain | hlisted
    · rw [ne_eq, hplain.none_iff, hparent]
      exact Option.some_ne_none parent
    · rw [ne_eq, hlisted.none_iff, hlisting]
      exact Option.some_ne_none _
  obtain ⟨actor, hactor⟩ := Option.ne_none_iff_exists'.mp hfound
  refine ⟨found.withChildren parent.actorId (·.filter (· ≠ request.childActorId)),
    mutate_children hactor (·.filter (· ≠ request.childActorId)), ?_⟩
  rcases h with hplain | hlisted
  · have hsame := hplain.withChildren parent.actorId (·.filter (· ≠ request.childActorId))
    rw [withChildren_eq_self hparent hkeep] at hsame
    exact hsame
  · have hsame := hlisted.withChildren parent.actorId (·.filter (· ≠ request.childActorId))
    rw [withListed, withChildren_withChildren,
      withChildren_eq_self hparent] at hsame
    · exact hsame
    · simp only [comp_apply, List.filter_append, hkeep]
      simp

/-- A spawn without a new child. -/
structure SpawnQuiet (before now : RuntimeState) : Prop where
  states : before.states.SameActors now.states
  ledger : now.ledger = before.ledger
  checkpoints : now.checkpoints = before.checkpoints

/-- A spawn with one. -/
structure SpawnGrew (request : SpawnRequest) (parent : ActorState) (account : BudgetAccount)
    (before now : RuntimeState) : Prop where
  reserves : Reserves request before parent account
  separate : Separate parent request before.states
  states : (born parent request account.providerId before.states).SameActors now.states
  ledger : now.ledger = update before.ledger parent.budgetRef
    (some { account with actual := account.actual + 1 })
  checkpoints : now.checkpoints = before.checkpoints

/-- What a spawn does whose child id, should it get a reservation, is not in use. -/
theorem ends_spawn_of_separate (hkeyed : runtime.states.Keyed)
    (hseparate : ∀ parent account, Reserves request runtime parent account →
      Separate parent request runtime.states) :
    (spawn hook request).Ends runtime
      (fun result now => (SpawnQuiet runtime now ∧
          (runtime.results request.requestId = none → result.status = .aborted)) ∨
        (result.status = .committed ∧
          ∃ parent account, SpawnGrew request parent account runtime now))
      fun _ now => now = runtime := by
  by_cases hfresh : runtime.results request.requestId = none
  swap
  · obtain ⟨⟨fingerprint, result⟩, hstored⟩ := Option.ne_none_iff_exists'.mp hfresh
    rw [ends_of_ok (exec_spawn_of_result hstored)]
    exact Or.inl ⟨⟨.refl _, rfl, rfl⟩, fun hnone => absurd hnone hfresh⟩
  by_cases hreserves : ∃ parent account, Reserves request runtime parent account
  swap
  · apply (ends_spawn_of_not_reserves hfresh fun parent account h =>
      hreserves ⟨parent, account, h⟩).imp
    · rintro result now ⟨-, hstatus, rfl⟩
      exact Or.inl ⟨⟨.refl _, rfl, rfl⟩, fun _ => hstatus⟩
    · intro fault now hbad
      exact hbad.2
  obtain ⟨parent, account, h⟩ := hreserves
  have hids := hseparate parent account h
  have hparent : runtime.states.actors parent.actorId = some parent := by
    rw [hkeyed _ _ h.known]
    exact h.known
  have haccount : (reservedFor runtime parent account).ledger parent.budgetRef =
      some { account with reserved := account.reserved + 1 } := update_self _ _ _
  have hattempt : (attemptChild hook parent request account.providerId).Ends
      (reservedFor runtime parent account)
      (Committed hook parent request account.providerId
        { account with reserved := account.reserved + 1 } (reservedFor runtime parent account))
      fun _ => Failed hook parent request account.providerId
        (reservedFor runtime parent account) :=
    ends_attemptChild hparent hids.unused haccount (Nat.succ_ne_zero account.reserved)
  rw [ends_congr (exec_spawn_of_reserves h)]
  apply Ends.handle
  · apply hattempt.imp
    · intro result now hcommitted
      refine Or.inr ⟨by rw [hcommitted.answer], parent, account, h, hids,
        hcommitted.states.same, ?_, hcommitted.checkpoints⟩
      rw [hcommitted.ledger]
      simp only [reservedFor, update_idem, Nat.add_sub_cancel]
    · intro fault now hfailed
      exact hfailed
  · intro fault now hfailed
    have hunlist := unlistChild_of_same hparent hids.unlisted
      (hfailed.same_popped hparent hids.unused)
    obtain ⟨shape, hkept⟩ := hfailed.kept
    have hundo := ends_undoChild_of_unlist hunlist hkept.ledger hkept.results
      hkept.checkpoints haccount fault
    apply hundo.imp
    · intro result final hundone
      refine Or.inl ⟨⟨hundone.states, ?_, hundone.checkpoints⟩, fun _ => hundone.status⟩
      rw [hundone.ledger _ haccount]
      simp only [reservedFor, update_idem, Nat.add_sub_cancel]
      rw [← h.funded, update_eq_self]
    · intro error final hfalse
      exact hfalse.elim

end Spawn

/-! ## Recoveries -/

section Recover

variable {now : RuntimeState} {predecessorId successorId : String}
  {predecessor successor : ActorState}

theorem same_fencedStates {states : StateRepository}
    (hknown : states.actors predecessorId = some predecessor) :
    states.SameActors (fencedStates predecessorId predecessor states) :=
  (marks_setLifecycle (setLifecycle_fenced hknown)).same

theorem same_of_install {states after : StateRepository}
    (hknown : states.actors predecessorId = some predecessor)
    (hinstall : installSuccessor successor (fencedStates predecessorId predecessor states) =
      .ok after) :
    states.SameActors after ∨
      (states.actors successor.actorId = none ∧
        successor.stateNamespace ∉ states.namespaces ∧
        (states.setActor successor.actorId (some successor)).SameActors after) := by
  have hfenced := same_fencedStates hknown
  rw [installSuccessor] at hinstall
  split at hinstall
  · next hnone =>
      rw [add_active] at hinstall
      split at hinstall
      · cases hinstall
      · next hspace =>
          cases hinstall
          exact Or.inr ⟨(hfenced.none_iff _).mp hnone, hspace, hfenced.setActor _ rfl⟩
  · next stored hstored =>
      rw [setActive, hstored] at hinstall
      cases hinstall
      exact Or.inl hfenced

/-- At most a successor has been added, as `Adds` says. -/
structure TakesOver (Adds : String → Checkpoint → ActorState → Prop)
    (before now : RuntimeState) : Prop where
  ledger : now.ledger = before.ledger
  results : now.results = before.results
  checkpoints : now.checkpoints = before.checkpoints
  states : before.states.SameActors now.states ∨
    ∃ successorId found predecessor, Adds successorId found predecessor ∧
      (before.states.setActor successorId
        (some (successorActor found.actor predecessor successorId))).SameActors now.states

theorem TakesOver.refl (Adds : String → Checkpoint → ActorState → Prop)
    (runtime : RuntimeState) : TakesOver Adds runtime runtime :=
  ⟨rfl, rfl, rfl, Or.inl (.refl _)⟩

/-- The recovery adds a successor, to a runtime as it stands before the call. -/
structure RecoverAdds (config : RuntimeConfig) (predecessorId : String)
    (crash : Option CrashPoint) (runtime : RuntimeState) (successorId : String)
    (found : Checkpoint) (predecessor : ActorState) : Prop where
  checkpointed : latestCheckpoint predecessorId runtime = .ok found
  known : runtime.states.actors predecessorId = some predecessor
  unused : runtime.states.actors successorId = none
  space : (successorActor found.actor predecessor successorId).stateNamespace ∉
    runtime.states.namespaces
  running : crash ≠ some .afterJournalBeforeCommit
  intent : config.recoveryJournal = true →
    Unused (transitionId predecessorId successorId predecessor) runtime.journal
  fence : config.recoveryJournal = true →
    Unused (transitionId predecessorId successorId predecessor ++ ":fenced")
      (intended config predecessorId successorId runtime predecessor).journal

theorem takesOver_recover (config : RuntimeConfig) (predecessorId successorId : String)
    (crash : Option CrashPoint) (runtime : RuntimeState) :
    TakesOver (fun otherId found predecessor => otherId = successorId ∧
        RecoverAdds config predecessorId crash runtime successorId found predecessor) runtime
      ((recover config predecessorId successorId crash).exec runtime).1 := by
  cases hfound : latestCheckpoint predecessorId runtime with
  | error fault =>
    rw [exec_recover_of_no_checkpoint hfound]
    exact .refl _ runtime
  | ok found =>
    cases hknown : runtime.states.actors predecessorId with
    | none =>
      rw [exec_recover_of_unknown hfound hknown]
      exact .refl _ runtime
    | some predecessor =>
      have hfenced : runtime.states.SameActors
          (fencedStates predecessorId predecessor runtime.states) :=
        same_fencedStates hknown
      have hinstalled {states : StateRepository}
          (hcrash : crash ≠ some .afterJournalBeforeCommit)
          (hnew : config.recoveryJournal = true →
            Unused (transitionId predecessorId successorId predecessor) runtime.journal)
          (hnoted : config.recoveryJournal = true →
            Unused (transitionId predecessorId successorId predecessor ++ ":fenced")
              (intended config predecessorId successorId runtime predecessor).journal)
          (hinstall : installSuccessor (successorActor found.actor predecessor successorId)
            (fencedStates predecessorId predecessor runtime.states) = .ok states) :
          runtime.states.SameActors states ∨
            ∃ otherId found predecessor, (otherId = successorId ∧
                RecoverAdds config predecessorId crash runtime successorId found
                  predecessor) ∧
              (runtime.states.setActor otherId
                (some (successorActor found.actor predecessor otherId))).SameActors
                  states := by
        rcases same_of_install hknown hinstall with hsame | ⟨hunused, hspace, hadded⟩
        · exact Or.inl hsame
        · exact Or.inr ⟨successorId, found, predecessor,
            ⟨rfl, hfound, hknown, hunused, hspace, hcrash, hnew, hnoted⟩, hadded⟩
      have hends := @recoverEnds config predecessorId successorId crash runtime found
        predecessor hfound hknown
      generalize (recover config predecessorId successorId crash).exec runtime = ending
        at hends
      cases hends with
      | refused hbound hused => exact .refl _ runtime
      | crashed hcrash hnew =>
        exact ⟨withRow_ledger _ _ _, withRow_results _ _ _, withRow_checkpoints _ _ _,
          Or.inl (by rw [intended, withRow_states]; exact .refl _)⟩
      | unnoted hbound hcrash hnew hused =>
        exact ⟨withRow_ledger _ _ _, withRow_results _ _ _, withRow_checkpoints _ _ _,
          Or.inl hfenced⟩
      | collided fault hcrash hnew hnoted hinstall =>
        refine ⟨?_, ?_, ?_, Or.inl ?_⟩ <;>
          simp only [fenceNoted, fenced, intended, withRow_ledger, withRow_results,
            withRow_checkpoints, withRow_states]
        exact hfenced
      | uncommitted states hbound hcrash hnew hnoted hinstall hused =>
        refine ⟨?_, ?_, ?_, hinstalled hcrash (fun _ => hnew) (fun _ => hnoted) hinstall⟩ <;>
          simp only [installed, fenceNoted, fenced, intended, withRow_ledger,
            withRow_results, withRow_checkpoints]
      | committed states answer hcrash hnew hnoted hinstall hcommit hanswer =>
        refine ⟨?_, ?_, ?_, ?_⟩ <;>
          simp only [recovered, installed, fenceNoted, fenced, intended, withRow_ledger,
            withRow_results, withRow_checkpoints, withRow_states]
        exact hinstalled hcrash hnew hnoted hinstall

/-- The turn adds a successor. -/
structure TurnAdds (rows : List JournalRecord) (row : JournalRecord) (runtime : RuntimeState)
    (successorId : String) (found : Checkpoint) (predecessor : ActorState) : Prop where
  resumes : Resumes rows row runtime successorId found predecessor
  unused : runtime.states.actors successorId = none
  space : (successorActor found.actor predecessor successorId).stateNamespace ∉
    runtime.states.namespaces

theorem takesOver_turn (rows : List JournalRecord) (row : JournalRecord)
    (runtime : RuntimeState) :
    TakesOver (TurnAdds rows row runtime) runtime
      ((replayTransition rows row).exec runtime).1 := by
  have hinstalled {successorId : String} {found : Checkpoint} {predecessor : ActorState}
      {states : StateRepository}
      (hresumes : Resumes rows row runtime successorId found predecessor)
      (hinstall : installSuccessor (successorActor found.actor predecessor successorId)
        (fencedStates row.actorId predecessor runtime.states) = .ok states) :
      runtime.states.SameActors states ∨
        ∃ successorId found predecessor,
          TurnAdds rows row runtime successorId found predecessor ∧
          (runtime.states.setActor successorId
            (some (successorActor found.actor predecessor successorId))).SameActors states := by
    rcases same_of_install hresumes.known hinstall with hsame | ⟨hunused, hspace, hadded⟩
    · exact Or.inl hsame
    · exact Or.inr ⟨successorId, found, predecessor, ⟨hresumes, hunused, hspace⟩, hadded⟩
  have hends := turnEnds rows row runtime
  generalize (replayTransition rows row).exec runtime = ending at hends
  cases hends with
  | skipped => exact .refl _ runtime
  | repeated successorId successor hsuccessor hcommitted hknown =>
    exact ⟨rfl, rfl, rfl, Or.inl (.refl _)⟩
  | collided successorId found predecessor fault hresumes hinstall =>
    exact ⟨rfl, rfl, rfl, Or.inl (same_fencedStates hresumes.known)⟩
  | uncommitted successorId found predecessor states hresumes hinstall hused =>
    exact ⟨rfl, rfl, rfl, hinstalled hresumes hinstall⟩
  | finished successorId found predecessor states hresumes hinstall hnew =>
    exact ⟨rfl, rfl, rfl, hinstalled hresumes hinstall⟩

/-- Every turn of the loop of `replay` meets `allowed` in the state it is given to. -/
def AlongReplay (allowed : JournalRecord → RuntimeState → Prop) (rows : List JournalRecord) :
    List JournalRecord → RuntimeState → Prop
  | [], _ => True
  | row :: pending, runtime =>
    allowed row runtime ∧
      ∀ after repaired, (replayTransition rows row).exec runtime = (after, .ok repaired) →
        AlongReplay allowed rows pending after

theorem AlongReplay.trivial (rows pending : List JournalRecord) (runtime : RuntimeState) :
    AlongReplay (fun _ _ => True) rows pending runtime := by
  induction pending generalizing runtime with
  | nil => exact True.intro
  | cons row pending ih => exact ⟨True.intro, fun after _ _ => ih after⟩

/-- What every turn keeps, the loop keeps. -/
theorem replayTransitions_keeps {allowed : JournalRecord → RuntimeState → Prop}
    {Inv : RuntimeState → Prop} {rows : List JournalRecord}
    (hturn : ∀ row runtime, Inv runtime → allowed row runtime →
      Inv ((replayTransition rows row).exec runtime).1)
    {pending : List JournalRecord} (hinv : Inv runtime)
    (halong : AlongReplay allowed rows pending runtime) :
    Inv ((replayTransitions rows pending).exec runtime).1 := by
  induction pending generalizing runtime with
  | nil => exact hinv
  | cons row pending ih =>
    have hnow := hturn row runtime hinv halong.1
    rw [replayTransitions]
    cases hexec : (replayTransition rows row).exec runtime with
    | mk after answer =>
      rw [hexec] at hnow
      cases answer with
      | error fault =>
        rw [exec_bind_error hexec]
        exact hnow
      | ok repaired =>
        rw [exec_bind_ok hexec]
        have hrest := ih hnow (halong.2 after repaired hexec)
        cases hothers : (replayTransitions rows pending).exec after with
        | mk final answer =>
          rw [hothers] at hrest
          cases answer with
          | error fault =>
            rw [exec_bind_error hothers]
            exact hrest
          | ok others =>
            rw [exec_bind_ok hothers]
            exact hrest

/-- What every turn keeps, `replay` keeps. -/
theorem replayRecoveries_keeps {allowed : List JournalRecord → JournalRecord → RuntimeState → Prop}
    {Inv : RuntimeState → Prop} {config : RuntimeConfig}
    (hturn : ∀ rows row runtime, Inv runtime → allowed rows row runtime →
      Inv ((replayTransition rows row).exec runtime).1)
    (hinv : Inv runtime)
    (halong : config.recoveryJournal = true →
      AlongReplay (allowed runtime.journal) runtime.journal
        (runtime.journal.filter (·.kind = "RECOVERY_TRANSITION")) runtime) :
    Inv ((replayRecoveries config).exec runtime).1 := by
  rw [replayRecoveries]
  cases hbound : config.recoveryJournal with
  | false => exact hinv
  | true =>
    have hrows := replayTransitions_keeps (hturn runtime.journal) hinv (halong hbound)
    simp only [if_true]
    rw [exec_read_bind, replayRows]
    cases hexec : (replayTransitions runtime.journal
        (runtime.journal.filter (·.kind = "RECOVERY_TRANSITION"))).exec runtime with
    | mk final answer =>
      rw [hexec] at hrows
      cases answer with
      | error fault =>
        rw [exec_bind_error hexec]
        exact hrows
      | ok repaired =>
        rw [exec_bind_ok hexec]
        exact hrows

end Recover

end ReisOs.RecursiveRuntime
