import ReisOs.Core.Identifiers
import ReisOs.RecursiveRuntime.ActorForest

/-!
# Cancellations of subtrees

The intents of a whole subtree are put to the journal before any actor of it is marked.
Their ids have no number of the cancellation in them, so a second one of the same actor
conflicts with the first: when a cancellation takes effect is stated exactly.
-/

namespace ReisOs.RecursiveRuntime

open ReisOs.Core Script DurableJournal

/-! ## The condition -/

/-- `descendants` returns `out`. -/
def Descends (states : StateRepository) (actorId : String) (out : List String) : Prop :=
  ∃ fuel, states.descendants fuel actorId = some (.ok out)

/-- The journal has no intent of the actor under its generation and fencing epoch. -/
def Unintended (runtime : RuntimeState) (actorId : String) : Prop :=
  ∀ actor, runtime.states.actors actorId = some actor →
    Unused (cancelIntent actorId "" actor).journalId runtime.journal

/-- The actor and its descendants are listed once, and none of them has an intent. -/
def Cancellable (runtime : RuntimeState) (actorId : String) : Prop :=
  ∃ out, Descends runtime.states actorId out ∧ (actorId :: out).Nodup ∧
    ∀ target ∈ actorId :: out, Unintended runtime target

/-- An actor, or one below it. -/
def InSubtree (states : StateRepository) (actorId other : String) : Prop :=
  other = actorId ∨ Relation.TransGen (Below states.childrenOf) actorId other

/-- Some row of the journal is an intent of the actor. -/
def Intended (journal : List JournalRecord) (actorId : String) : Prop :=
  ∃ row ∈ journal, row.kind = "CANCELLATION_INTENT" ∧ row.actorId = actorId

def ActorState.cancelled (actor : ActorState) : ActorState :=
  { actor with lifecycle := .cancelling }

/-- A replay of the journal marks the actors with an intent, and leaves the others. -/
def Replays (config : RuntimeConfig) (journal : List JournalRecord) : Prop :=
  ∀ restarted : RuntimeState, restarted.journal = journal →
    ∃ now replayed, (replayCancellations config).exec restarted = (now, .ok replayed) ∧
      ∀ actorId,
        (actorId ∈ replayed ↔
          Intended journal actorId ∧ restarted.states.actors actorId ≠ none) ∧
        (Intended journal actorId → now.states.actors actorId =
          (restarted.states.actors actorId).map ActorState.cancelled) ∧
        (¬ Intended journal actorId →
          now.states.actors actorId = restarted.states.actors actorId)

/-- The cancellation returns, the actor and its descendants are marked and have intents, and
a replay of the journal marks those that have intents. -/
def TakesEffect (config : RuntimeConfig) (runtime : RuntimeState) (actorId reason : String) :
    Prop :=
  ∃ bound after targets,
    (∀ fuel, bound ≤ fuel →
      (cancel config fuel actorId reason).exec runtime = (after, .ok (some targets))) ∧
    (∀ other, InSubtree runtime.states actorId other →
      (after.states.actors other).map (·.lifecycle) = some .cancelling ∧
        Intended after.journal other) ∧
    Replays config after.journal

/-! ## Descendants -/

section Descend

variable {states : StateRepository}

variable {out : List String}

theorem descend_add {fuel : ℕ} {queue : List String}
    {answer : Except Fault (List String)} (h : states.descend fuel out queue = some answer)
    (more : ℕ) : states.descend (fuel + more) out queue = some answer := by
  induction fuel generalizing out queue with
  | zero =>
    cases queue with
    | nil =>
      rw [StateRepository.descend] at h ⊢
      exact h
    | cons actorId queue => cases h
  | succ fuel ih =>
    cases queue with
    | nil =>
      rw [StateRepository.descend] at h ⊢
      exact h
    | cons actorId queue =>
      rw [Nat.add_right_comm]
      rw [StateRepository.descend] at h ⊢
      cases hactor : states.actors actorId with
      | none =>
        rw [hactor] at h
        exact h
      | some actor =>
        rw [hactor] at h
        exact ih h

/-- What the loop adds is there, has the queue in it, and is closed under children. -/
theorem descend_closed {fuel : ℕ} {queue final : List String}
    (h : states.descend fuel out queue = some (.ok final)) :
    ∃ new, final = out ++ new ∧ (∀ actorId ∈ new, states.actors actorId ≠ none) ∧
      (∀ actorId ∈ queue, actorId ∈ new) ∧
      ∀ actorId ∈ new, ∀ childId ∈ states.childrenOf actorId, childId ∈ new := by
  induction fuel generalizing out queue with
  | zero =>
    cases queue with
    | nil =>
      cases h
      exact ⟨[], by simp⟩
    | cons actorId queue => cases h
  | succ fuel ih =>
    cases queue with
    | nil =>
      cases h
      exact ⟨[], by simp⟩
    | cons actorId queue =>
      rw [StateRepository.descend] at h
      cases hactor : states.actors actorId with
      | none =>
        rw [hactor] at h
        cases h
      | some actor =>
        rw [hactor] at h
        obtain ⟨new, hfinal, hthere, hqueue, hclosed⟩ := ih h
        refine ⟨actorId :: new, by rw [hfinal, List.append_assoc]; rfl, ?_, ?_, ?_⟩
        · rw [List.forall_mem_cons]
          exact ⟨by rw [hactor]; exact Option.some_ne_none actor, hthere⟩
        · rw [List.forall_mem_cons]
          refine ⟨List.mem_cons_self, ?_⟩
          intro other hother
          exact List.mem_cons_of_mem _ (hqueue other (List.mem_append_left _ hother))
        · rw [List.forall_mem_cons]
          constructor
          · intro childId hchild
            rw [StateRepository.childrenOf_of_actor hactor] at hchild
            exact List.mem_cons_of_mem _ (hqueue childId (List.mem_append_right _ hchild))
          · intro other hother childId hchild
            exact List.mem_cons_of_mem _ (hclosed other hother childId hchild)

theorem descendants_add {fuel : ℕ} {actorId : String}
    (h : states.descendants fuel actorId = some (.ok out)) (more : ℕ) :
    states.descendants (fuel + more) actorId = some (.ok out) := by
  rw [StateRepository.descendants] at h ⊢
  cases hactor : states.actors actorId with
  | none =>
    rw [hactor] at h
    cases h
  | some actor =>
    rw [hactor] at h
    exact descend_add h more

theorem Descends.unique {actorId : String} {other : List String}
    (h : Descends states actorId out) (hother : Descends states actorId other) :
    out = other := by
  obtain ⟨fuel, hfuel⟩ := h
  obtain ⟨more, hmore⟩ := hother
  have hleft := descendants_add hfuel more
  rw [Nat.add_comm, descendants_add hmore fuel] at hleft
  cases hleft
  rfl

/-- The actor and what `descendants` returns are there, and are the subtree. -/
theorem Descends.subtree {actorId : String}
    (h : Descends states actorId out) :
    (∀ target ∈ actorId :: out, states.actors target ≠ none) ∧
      ∀ other, InSubtree states actorId other → other ∈ actorId :: out := by
  obtain ⟨fuel, hfuel⟩ := h
  rw [StateRepository.descendants] at hfuel
  cases hactor : states.actors actorId with
  | none =>
    rw [hactor] at hfuel
    cases hfuel
  | some actor =>
    rw [hactor] at hfuel
    obtain ⟨new, rfl, hthere, hqueue, hclosed⟩ := descend_closed hfuel
    constructor
    · rw [List.forall_mem_cons]
      exact ⟨by rw [hactor]; exact Option.some_ne_none actor, hthere⟩
    · intro other hother
      cases hother with
      | inl hsame =>
        rw [hsame]
        exact List.mem_cons_self
      | inr hpath =>
        apply List.mem_cons_of_mem
        induction hpath with
        | single hnext =>
          apply hqueue
          rw [← StateRepository.childrenOf_of_actor hactor]
          exact hnext
        | tail _ hnext ih => exact hclosed _ ih _ hnext

end Descend

/-! ## Intents -/

section Intents

variable {runtime : RuntimeState}

theorem cancelIntent_id_inj {actorId other reason reason' : String} {actor found : ActorState}
    (h : (cancelIntent actorId reason actor).journalId =
      (cancelIntent other reason' found).journalId) : actorId = other := by
  have hstems := stem_inj (stem_inj h)
  exact String.append_right_inj _ |>.mp hstems

theorem unintended_withRow {actorId reason : String} {actor : ActorState}
    (hactor : runtime.states.actors actorId = some actor) {target : String}
    (htarget : runtime.states.actors target ≠ none) :
    Unintended (withRow true (cancelIntent actorId reason actor) runtime) target ↔
      target ≠ actorId ∧ Unintended runtime target := by
  obtain ⟨found, hfound⟩ := Option.ne_none_iff_exists'.mp htarget
  constructor
  · intro h
    constructor
    · rintro rfl
      rw [hactor] at hfound
      cases hfound
      apply h actor hactor (cancelIntent target reason actor)
      · exact List.mem_append_right _ List.mem_cons_self
      · rfl
    · intro other hother row hrow
      exact h other hother row (List.mem_append_left _ hrow)
  · intro h other hother row hrow
    cases List.mem_append.mp hrow with
    | inl hold => exact h.2 other hother row hold
    | inr hnew =>
      rw [List.mem_singleton.mp hnew]
      intro hsame
      exact h.1 (cancelIntent_id_inj hsame).symm

theorem exec_persistIntents_cons {reason actorId : String} {targets : List String}
    {actor : ActorState} (hactor : runtime.states.actors actorId = some actor) :
    (Unintended runtime actorId ∧
      (persistIntents reason (actorId :: targets)).exec runtime =
        (persistIntents reason targets).exec
          (withRow true (cancelIntent actorId reason actor) runtime)) ∨
    (¬ Unintended runtime actorId ∧
      (persistIntents reason (actorId :: targets)).exec runtime =
        (runtime, .error (.conflict "JOURNAL_ID_CONFLICT"))) := by
  have hunused : Unintended runtime actorId ↔
      Unused (cancelIntent actorId reason actor).journalId runtime.journal := by
    constructor
    · intro h
      exact h actor hactor
    · intro h found hfound
      rw [hactor] at hfound
      cases hfound
      exact h
  rw [persistIntents, exec_bind_ok (exec_look (StateRepository.get_eq_ok_iff.mpr hactor)),
    hunused]
  by_cases hfree : Unused (cancelIntent actorId reason actor).journalId runtime.journal
  · left
    exact ⟨hfree, exec_bind_ok (exec_journalPut hfree)⟩
  · right
    exact ⟨hfree, exec_bind_error (exec_journalPut_used (List.cons_ne_nil _ _) hfree)⟩

/-- All intents are put exactly if the actors are different and have none. -/
theorem persistIntents_ok_iff (reason : String) {targets : List String}
    (hthere : ∀ target ∈ targets, runtime.states.actors target ≠ none) :
    (∃ after, (persistIntents reason targets).exec runtime = (after, .ok ())) ↔
      targets.Nodup ∧ ∀ target ∈ targets, Unintended runtime target := by
  induction targets generalizing runtime with
  | nil => simp [persistIntents]
  | cons actorId targets ih =>
    obtain ⟨hfirst, hothers⟩ := List.forall_mem_cons.mp hthere
    obtain ⟨actor, hactor⟩ := Option.ne_none_iff_exists'.mp hfirst
    rw [List.nodup_cons, List.forall_mem_cons]
    cases @exec_persistIntents_cons runtime reason actorId targets actor hactor with
    | inl hput =>
      have hrest := @ih (withRow true (cancelIntent actorId reason actor) runtime) hothers
      rw [hput.2, hrest]
      constructor
      · intro h
        have hsplit (target : String) (hmem : target ∈ targets) :=
          (unintended_withRow hactor (hothers target hmem)).mp (h.2 target hmem)
        exact ⟨⟨fun hmem => (hsplit actorId hmem).1 rfl, h.1⟩, hput.1,
          fun target hmem => (hsplit target hmem).2⟩
      · intro h
        obtain ⟨⟨hnew, hnodup⟩, -, hfree⟩ := h
        refine ⟨hnodup, fun target hmem => ?_⟩
        apply (unintended_withRow hactor (hothers target hmem)).mpr
        refine ⟨?_, hfree target hmem⟩
        rintro rfl
        exact hnew hmem
    | inr hconflict =>
      rw [hconflict.2]
      apply iff_of_false
      · intro h
        obtain ⟨after, hafter⟩ := h
        cases hafter
      · intro h
        exact hconflict.1 h.2.1

/-- Intents leave the actors, and are in the journal afterwards. -/
theorem of_persistIntents_ok {reason : String} {targets : List String}
    {after : RuntimeState}
    (h : (persistIntents reason targets).exec runtime = (after, .ok ())) :
    after.states = runtime.states ∧
      (∀ actorId, Intended runtime.journal actorId → Intended after.journal actorId) ∧
      ∀ target ∈ targets, Intended after.journal target := by
  induction targets generalizing runtime with
  | nil =>
    cases h
    exact ⟨rfl, fun _ hintended => hintended, fun target hmem => by cases hmem⟩
  | cons actorId targets ih =>
    cases hactor : runtime.states.actors actorId with
    | none =>
      have hget : runtime.states.get actorId = .error (.keyError actorId) := by
        rw [StateRepository.get, hactor]
      rw [persistIntents, exec_bind_error (exec_look_error hget)] at h
      cases h
    | some actor =>
      cases @exec_persistIntents_cons runtime reason actorId targets actor hactor with
      | inl hput =>
        rw [hput.2] at h
        obtain ⟨hstates, hkept, hput⟩ := ih h
        have hgrows (other : String) (hother : Intended runtime.journal other) :
            Intended after.journal other := by
          apply hkept
          obtain ⟨row, hrow, hintent⟩ := hother
          exact ⟨row, List.mem_append_left _ hrow, hintent⟩
        refine ⟨hstates, hgrows, List.forall_mem_cons.mpr ⟨?_, hput⟩⟩
        apply hkept
        exact ⟨_, List.mem_append_right _ List.mem_cons_self, rfl, rfl⟩
      | inr hconflict =>
        rw [hconflict.2] at h
        cases h

end Intents

/-! ## Marks -/

section Marks

variable {runtime : RuntimeState}

theorem setLifecycle_cancelling {states : StateRepository} {actorId : String}
    {actor : ActorState} (h : states.actors actorId = some actor) :
    states.setLifecycle actorId .cancelling =
      .ok (states.setActor actorId (some actor.cancelled)) := by
  rw [StateRepository.setLifecycle, StateRepository.mutate, h]
  rfl

/-- The given actors are cancelled, and the others are as before. -/
structure CancelledStates (touched : String → Prop) (states now : StateRepository) : Prop where
  marked : ∀ actorId, touched actorId →
    now.actors actorId = (states.actors actorId).map ActorState.cancelled
  kept : ∀ actorId, ¬ touched actorId → now.actors actorId = states.actors actorId

variable {touched : String → Prop} {now : StateRepository}

theorem CancelledStates.congr {other : String → Prop} {states : StateRepository}
    (h : CancelledStates touched states now)
    (hsame : ∀ actorId, other actorId ↔ touched actorId) : CancelledStates other states now := by
  refine ⟨fun actorId hother => ?_, fun actorId hother => ?_⟩
  · exact h.marked actorId ((hsame actorId).mp hother)
  · exact h.kept actorId (mt (hsame actorId).mpr hother)

theorem CancelledStates.after_mark {states : StateRepository}
    {first : String} {actor : ActorState} (hactor : states.actors first = some actor)
    (h : CancelledStates touched (states.setActor first (some actor.cancelled)) now) :
    CancelledStates (fun actorId => actorId = first ∨ touched actorId) states now := by
  have hmiddle (actorId : String) (hother : actorId ≠ first) :
      (states.setActor first (some actor.cancelled)).actors actorId =
        states.actors actorId := by
    rw [StateRepository.setActor_actors, Function.update_of_ne hother]
  have hfirst : (states.setActor first (some actor.cancelled)).actors first =
      some actor.cancelled := by
    rw [StateRepository.setActor_actors, Function.update_self]
  constructor
  · intro actorId htouched
    by_cases hsame : actorId = first
    · rw [hsame, hactor]
      by_cases hagain : touched first
      · rw [h.marked first hagain, hfirst]
        rfl
      · rw [h.kept first hagain, hfirst]
        rfl
    · rw [h.marked actorId (htouched.resolve_left hsame), hmiddle actorId hsame]
  · intro actorId huntouched
    rw [not_or] at huntouched
    rw [h.kept actorId huntouched.2, hmiddle actorId huntouched.1]

theorem CancelledStates.skip {states : StateRepository}
    {first : String} (hnone : states.actors first = none)
    (h : CancelledStates touched states now) :
    CancelledStates (fun actorId => actorId = first ∨ touched actorId) states now := by
  constructor
  · intro actorId htouched
    by_cases hagain : touched actorId
    · exact h.marked actorId hagain
    · rw [h.kept actorId hagain, htouched.resolve_right hagain, hnone]
      rfl
  · intro actorId huntouched
    exact h.kept actorId (not_or.mp huntouched).2

theorem exec_markCancelled {targets : List String}
    (hthere : ∀ target ∈ targets, runtime.states.actors target ≠ none) :
    ∃ states, (markCancelled targets).exec runtime =
      ({ runtime with states := states }, .ok ()) ∧
        CancelledStates (· ∈ targets) runtime.states states := by
  induction targets generalizing runtime with
  | nil =>
    exact ⟨runtime.states, rfl,
      ⟨fun actorId hmem => absurd hmem List.not_mem_nil, fun _ _ => rfl⟩⟩
  | cons actorId targets ih =>
    obtain ⟨hfirst, hothers⟩ := List.forall_mem_cons.mp hthere
    obtain ⟨actor, hactor⟩ := Option.ne_none_iff_exists'.mp hfirst
    have hset : (changeStates (·.states.setLifecycle actorId .cancelling)).exec runtime =
        ({ runtime with
            states := runtime.states.setActor actorId (some actor.cancelled) }, .ok ()) :=
      exec_changeStates (setLifecycle_cancelling hactor)
    have hself : (runtime.states.setActor actorId (some actor.cancelled)).actors actorId =
        some actor.cancelled := by
      rw [StateRepository.setActor_actors, Function.update_self]
    have hstill : ∀ target ∈ targets,
        (runtime.states.setActor actorId (some actor.cancelled)).actors target ≠ none := by
      intro target hmem
      rw [StateRepository.setActor_actors]
      by_cases hsame : target = actorId
      · rw [hsame, Function.update_self]
        exact Option.some_ne_none _
      · rw [Function.update_of_ne hsame]
        exact hothers target hmem
    obtain ⟨states, hrest, hcancelled⟩ := @ih { runtime with
      states := runtime.states.setActor actorId (some actor.cancelled) } hstill
    refine ⟨states, ?_, ?_⟩
    · rw [markCancelled, exec_bind_ok hset,
        exec_bind_ok (exec_look (StateRepository.get_eq_ok_iff.mpr hself))]
      exact hrest
    · exact (hcancelled.after_mark hactor).congr fun _ => List.mem_cons

/-! ## Replays -/

theorem intended_cons {row : JournalRecord} {rows : List JournalRecord} {actorId : String}
    (hkind : row.kind = "CANCELLATION_INTENT") :
    Intended (row :: rows) actorId ↔ actorId = row.actorId ∨ Intended rows actorId := by
  rw [Intended, List.exists_mem_cons_iff, Intended, eq_comm (a := actorId)]
  exact or_congr_left (and_iff_right hkind)

theorem intended_cons_of_ne {row : JournalRecord} {rows : List JournalRecord}
    {actorId : String} (hkind : row.kind ≠ "CANCELLATION_INTENT") :
    Intended (row :: rows) actorId ↔ Intended rows actorId := by
  rw [Intended, List.exists_mem_cons_iff, Intended]
  exact or_iff_right fun h => hkind h.1

theorem replayIntents_spec (rows : List JournalRecord) (states : StateRepository) :
    CancelledStates (Intended rows) states (replayIntents rows states).1 ∧
      ∀ actorId, actorId ∈ (replayIntents rows states).2 ↔
        Intended rows actorId ∧ states.actors actorId ≠ none := by
  induction rows generalizing states with
  | nil =>
    have hnone (actorId : String) : ¬ Intended [] actorId := by
      intro h
      obtain ⟨row, hrow, -⟩ := h
      exact List.not_mem_nil hrow
    refine ⟨⟨fun actorId h => absurd h (hnone actorId), fun _ _ => rfl⟩, fun actorId => ?_⟩
    exact iff_of_false List.not_mem_nil fun h => hnone actorId h.1
  | cons row rows ih =>
    by_cases hkind : row.kind = "CANCELLATION_INTENT"
    · have hone (actorId : String) := @intended_cons row rows actorId hkind
      rw [replayIntents, if_neg (not_not.mpr hkind)]
      cases hactor : states.actors row.actorId with
      | none =>
        have hset : states.setLifecycle row.actorId .cancelling =
            .error (.keyError row.actorId) := by
          rw [StateRepository.setLifecycle, StateRepository.mutate, hactor]
        obtain ⟨hcancelled, hreplayed⟩ := ih states
        simp only [hset]
        refine ⟨(hcancelled.skip hactor).congr hone, fun actorId => ?_⟩
        rw [hreplayed, hone]
        constructor
        · intro h
          exact ⟨.inr h.1, h.2⟩
        · intro h
          refine ⟨h.1.resolve_left ?_, h.2⟩
          rintro rfl
          exact h.2 hactor
      | some actor =>
        obtain ⟨hcancelled, hreplayed⟩ :=
          ih (states.setActor row.actorId (some actor.cancelled))
        simp only [setLifecycle_cancelling hactor]
        refine ⟨(hcancelled.after_mark hactor).congr hone, fun actorId => ?_⟩
        rw [List.mem_cons, hreplayed, hone, StateRepository.setActor_actors]
        by_cases hsame : actorId = row.actorId
        · rw [hsame, hactor]
          simp
        · rw [Function.update_of_ne hsame, or_iff_right hsame, or_iff_right hsame]
    · have hone (actorId : String) := @intended_cons_of_ne row rows actorId hkind
      obtain ⟨hcancelled, hreplayed⟩ := ih states
      rw [replayIntents, if_pos hkind]
      refine ⟨hcancelled.congr hone, fun actorId => ?_⟩
      rw [hreplayed, hone]

theorem replays {config : RuntimeConfig} (hjournal : config.cancellationJournal = true)
    (journal : List JournalRecord) : Replays config journal := by
  intro restarted hsame
  obtain ⟨hcancelled, hreplayed⟩ := replayIntents_spec journal restarted.states
  refine ⟨{ restarted with states := (replayIntents journal restarted.states).1 },
    (replayIntents journal restarted.states).2.eraseDups, ?_, fun actorId => ?_⟩
  · rw [replayCancellations, exec_act, hjournal, hsame]
    rfl
  · rw [List.mem_eraseDups]
    exact ⟨hreplayed actorId, hcancelled.marked actorId, hcancelled.kept actorId⟩

end Marks

/-! ## When a cancellation takes effect -/

section Cancel

variable {config : RuntimeConfig} {runtime : RuntimeState} {actorId reason : String}
  {actor : ActorState}

theorem takesEffect_of_cancellable (hjournal : config.cancellationJournal = true)
    (hactor : runtime.states.actors actorId = some actor)
    (hpolicy : resolvable config actor = true) (h : Cancellable runtime actorId) :
    TakesEffect config runtime actorId reason := by
  obtain ⟨out, hdescends, hnodup, hfree⟩ := h
  obtain ⟨hthere, hsubtree⟩ := hdescends.subtree
  obtain ⟨middle, hpersist⟩ := (persistIntents_ok_iff reason hthere).mpr
    ⟨hnodup, hfree⟩
  obtain ⟨hstates, -, hintended⟩ := of_persistIntents_ok hpersist
  rw [← hstates] at hthere
  obtain ⟨states, hmark, hcancelled⟩ := exec_markCancelled hthere
  obtain ⟨bound, hbound⟩ := hdescends
  refine ⟨bound, { middle with states := states }, actorId :: out, ?_, ?_,
    replays hjournal middle.journal⟩
  · intro fuel hfuel
    have hdescendants : runtime.states.descendants fuel actorId = some (.ok out) := by
      rw [← Nat.add_sub_of_le hfuel]
      exact descendants_add hbound _
    rw [cancel, exec_bind_ok (exec_look (StateRepository.get_eq_ok_iff.mpr hactor)),
      if_pos hpolicy, exec_bind_ok (exec_descendantsOf fuel actorId runtime |>.trans (by
        rw [hdescendants]; rfl)), cancelTargets, hjournal]
    rw [exec_bind_ok (show (persistIntentsIf true reason (actorId :: out)).exec runtime =
      (middle, .ok ()) from hpersist), exec_bind_ok hmark]
    rfl
  · intro other hother
    have hmem := hsubtree other hother
    refine ⟨?_, hintended other hmem⟩
    rw [hcancelled.marked other hmem]
    obtain ⟨found, hfound⟩ := Option.ne_none_iff_exists'.mp (hthere other hmem)
    rw [hfound]
    rfl

theorem cancellable_of_takesEffect (hjournal : config.cancellationJournal = true)
    (hactor : runtime.states.actors actorId = some actor)
    (hpolicy : resolvable config actor = true) (h : TakesEffect config runtime actorId reason) :
    Cancellable runtime actorId := by
  obtain ⟨bound, after, targets, hreturns, -⟩ := h
  have hcancel := hreturns bound le_rfl
  rw [cancel, exec_bind_ok (exec_look (StateRepository.get_eq_ok_iff.mpr hactor)),
    if_pos hpolicy] at hcancel
  obtain ⟨middle, found, hloop, hrest⟩ := exec_bind_eq_ok hcancel
  rw [exec_descendantsOf] at hloop
  cases found with
  | none => cases hrest
  | some out =>
    have hdescends : Descends runtime.states actorId out := by
      refine ⟨bound, ?_⟩
      have hanswer := congrArg Prod.snd hloop
      simp only at hanswer
      cases hdescendants : runtime.states.descendants bound actorId with
      | none =>
        rw [hdescendants] at hanswer
        cases hanswer
      | some answer =>
        rw [hdescendants] at hanswer
        cases answer with
        | error fault => cases hanswer
        | ok listed =>
          cases hanswer
          rfl
    obtain rfl : runtime = middle := congrArg Prod.fst hloop
    rw [cancelTargets, hjournal] at hrest
    obtain ⟨persisted, ⟨⟩, hpersist, -⟩ := exec_bind_eq_ok hrest
    have hiff := persistIntents_ok_iff reason hdescends.subtree.1
    obtain ⟨hnodup, hfree⟩ := hiff.mp ⟨persisted, hpersist⟩
    exact ⟨out, hdescends, hnodup, hfree⟩

/-- In every state that a run reaches, a cancellation of an actor with a policy takes effect
exactly if nobody of its subtree has an intent under its generation and fencing epoch, and
the subtree is listed once. -/
theorem cancel_takesEffect_iff (config : RuntimeConfig)
    (hjournal : config.cancellationJournal = true) (calls : List RuntimeCall)
    {actorId : String} {actor : ActorState}
    (hactor : (runtimeRun config calls).states.actors actorId = some actor)
    (hpolicy : resolvable config actor = true) (reason : String) :
    TakesEffect config (runtimeRun config calls) actorId reason ↔
      Cancellable (runtimeRun config calls) actorId :=
  ⟨cancellable_of_takesEffect hjournal hactor hpolicy,
    takesEffect_of_cancellable hjournal hactor hpolicy⟩

/-- A cancellation of a root and its child. -/
theorem cancel_takesEffect_iff_root :
    TakesEffect ⟨{"C1"}, true, true⟩ (runtimeRun ⟨{"C1"}, true, true⟩ rootAndChild) "a"
      "USER_CANCEL" := by
  obtain ⟨actor, hactor⟩ := Option.isSome_iff_exists.mp (show
    ((runtimeRun ⟨{"C1"}, true, true⟩ rootAndChild).states.actors "a").isSome by
      decide +kernel)
  have hpolicy : resolvable ⟨{"C1"}, true, true⟩ actor = true := by
    have hknown : ((runtimeRun ⟨{"C1"}, true, true⟩ rootAndChild).states.actors "a").map
        (resolvable ⟨{"C1"}, true, true⟩) = some true := by decide +kernel
    rw [hactor] at hknown
    exact Option.some.inj hknown
  have hjournal : (runtimeRun ⟨{"C1"}, true, true⟩ rootAndChild).journal = [] := by
    decide +kernel
  apply (cancel_takesEffect_iff ⟨{"C1"}, true, true⟩ rfl rootAndChild hactor hpolicy
    "USER_CANCEL").mpr
  refine ⟨["c"], ⟨5, rfl⟩, by decide, fun target _ found _ row hrow => ?_⟩
  rw [hjournal] at hrow
  cases hrow

/-- A child that is cancelled before its root. -/
def childCancelled : List RuntimeCall := rootAndChild ++ [.cancel 5 "c" "USER_CANCEL"]

/-- The root has a policy, and its cancellation does not take effect. -/
theorem root_not_cancelled :
    ((runtimeRun ⟨{"C1"}, true, true⟩ childCancelled).states.actors "a").map
      (resolvable ⟨{"C1"}, true, true⟩) = some true ∧
    ¬ TakesEffect ⟨{"C1"}, true, true⟩ (runtimeRun ⟨{"C1"}, true, true⟩ childCancelled) "a"
      "USER_CANCEL" := by
  have hknown : ((runtimeRun ⟨{"C1"}, true, true⟩ childCancelled).states.actors "a").map
      (resolvable ⟨{"C1"}, true, true⟩) = some true := by decide +kernel
  refine ⟨hknown, fun h => ?_⟩
  obtain ⟨actor, hactor, hpolicy⟩ := Option.map_eq_some_iff.mp hknown
  obtain ⟨out, hdescends, -, hfree⟩ := cancellable_of_takesEffect rfl hactor hpolicy h
  have hout : out = ["c"] := hdescends.unique ⟨5, rfl⟩
  have hused : ((runtimeRun ⟨{"C1"}, true, true⟩ childCancelled).states.actors "c").map
      (fun found => decide (Unused (cancelIntent "c" "" found).journalId
        (runtimeRun ⟨{"C1"}, true, true⟩ childCancelled).journal)) = some false := by
    decide +kernel
  obtain ⟨found, hfound, hfalse⟩ := Option.map_eq_some_iff.mp hused
  apply of_decide_eq_false hfalse
  apply hfree "c" _ found hfound
  rw [hout]
  exact List.mem_cons_of_mem _ List.mem_cons_self

end Cancel

end ReisOs.RecursiveRuntime
