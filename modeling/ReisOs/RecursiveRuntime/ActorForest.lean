import ReisOs.Core.Worklists
import ReisOs.RecursiveRuntime.Attenuation

/-!
# The forest of actors

Listed children are there and name the actor that lists them, one level deeper, as long as
no child takes the id of an actor and no successor inherits children.  Then the loop of
`descendants` is over, and so is a cancellation.
-/

namespace ReisOs.RecursiveRuntime

open ReisOs.Core Script DurableJournal

namespace StateRepository

def childrenOf (states : StateRepository) (actorId : String) : List String :=
  (states.actors actorId).elim [] (·.children)

def parentIdOf (states : StateRepository) (actorId : String) : Option String :=
  (states.actors actorId).bind (·.parentActorId)

variable {states : StateRepository}

theorem childrenOf_of_actor {actorId : String} {actor : ActorState}
    (h : states.actors actorId = some actor) : states.childrenOf actorId = actor.children := by
  rw [childrenOf, h]
  rfl

theorem mem_childrenOf {actorId childId : String} :
    childId ∈ states.childrenOf actorId ↔
      ∃ actor, states.actors actorId = some actor ∧ childId ∈ actor.children := by
  rw [childrenOf]
  cases states.actors actorId with
  | none => simp
  | some actor => simp

end StateRepository

/-! ## The invariant -/

/-- Who is listed is there, names its lister and is one level deeper. -/
structure Treelike (runtime : RuntimeState) : Prop where
  keyed : runtime.states.Keyed
  listed : ∀ actorId actor childId, runtime.states.actors actorId = some actor →
    childId ∈ actor.children →
    ∃ child, runtime.states.actors childId = some child ∧
      child.parentActorId = some actorId ∧ child.depth = actor.depth + 1
  nodup : ∀ actorId actor, runtime.states.actors actorId = some actor → actor.children.Nodup
  finite : ∃ ids : Finset String, ∀ actorId, runtime.states.actors actorId ≠ none →
    actorId ∈ ids

section Walk

variable {runtime : RuntimeState}

theorem Treelike.branching (h : Treelike runtime) :
    Branching runtime.states.childrenOf runtime.states.parentIdOf := by
  constructor
  · intro upper lower hlower
    obtain ⟨actor, hactor, hlisted⟩ := StateRepository.mem_childrenOf.mp hlower
    obtain ⟨child, hchild, hparent, -⟩ := h.listed upper actor lower hactor hlisted
    rw [StateRepository.parentIdOf, hchild]
    exact hparent
  · intro upper
    rw [StateRepository.childrenOf]
    cases hactor : runtime.states.actors upper with
    | none => exact List.nodup_nil
    | some actor => exact h.nodup upper actor hactor

theorem Treelike.deeper (h : Treelike runtime) {upper lower : String}
    (hpath : Relation.TransGen (Below runtime.states.childrenOf) upper lower) :
    ∃ above below, runtime.states.actors upper = some above ∧
      runtime.states.actors lower = some below ∧ above.depth < below.depth := by
  induction hpath with
  | single hnext =>
    obtain ⟨actor, hactor, hlisted⟩ := StateRepository.mem_childrenOf.mp hnext
    obtain ⟨child, hchild, -, hdepth⟩ := h.listed upper actor _ hactor hlisted
    exact ⟨actor, child, hactor, hchild, by omega⟩
  | tail _ hnext ih =>
    obtain ⟨above, middle, habove, hmiddle, hdeeper⟩ := ih
    obtain ⟨actor, hactor, hlisted⟩ := StateRepository.mem_childrenOf.mp hnext
    rw [hmiddle] at hactor
    cases hactor
    obtain ⟨child, hchild, -, hdepth⟩ := h.listed _ middle _ hmiddle hlisted
    exact ⟨above, child, habove, hchild, by omega⟩

theorem Treelike.acyclic (h : Treelike runtime) (actorId : String) :
    ¬ Relation.TransGen (Below runtime.states.childrenOf) actorId actorId := by
  intro hpath
  obtain ⟨above, below, habove, hbelow, hdeeper⟩ := h.deeper hpath
  rw [habove] at hbelow
  cases hbelow
  exact lt_irrefl _ hdeeper

theorem descend_eq_walk {states : StateRepository} (fuel : ℕ) (out queue : List String)
    (hqueue : ∀ actorId ∈ queue, states.actors actorId ≠ none)
    (hclosed : ∀ actorId childId, childId ∈ states.childrenOf actorId →
      states.actors childId ≠ none) :
    states.descend fuel out queue = (walk states.childrenOf fuel out queue).map .ok := by
  induction fuel generalizing out queue with
  | zero => cases queue <;> rfl
  | succ fuel ih =>
    cases queue with
    | nil => rfl
    | cons actorId queue =>
      obtain ⟨actor, hactor⟩ :=
        Option.ne_none_iff_exists'.mp (hqueue actorId List.mem_cons_self)
      rw [StateRepository.descend, hactor, walk,
        StateRepository.childrenOf_of_actor hactor]
      apply ih
      intro other hother
      rcases List.mem_append.mp hother with hold | hchild
      · exact hqueue other (List.mem_cons_of_mem _ hold)
      · rw [← StateRepository.childrenOf_of_actor hactor] at hchild
        exact hclosed actorId other hchild

/-- `descendants` is over, and lists each descendant once. -/
theorem Treelike.descendants (h : Treelike runtime) {actorId : String} {actor : ActorState}
    (hactor : runtime.states.actors actorId = some actor) :
    ∃ bound, ∀ fuel, bound ≤ fuel →
      ∃ out, runtime.states.descendants fuel actorId = some (.ok out) ∧ out.Nodup ∧
        ∀ other, other ∈ out ↔
          Relation.TransGen (Below runtime.states.childrenOf) actorId other := by
  obtain ⟨ids, hids⟩ := h.finite
  have hstored (upper lower : String) (hlower : lower ∈ runtime.states.childrenOf upper) :
      runtime.states.actors lower ≠ none := by
    obtain ⟨found, hfound, hlisted⟩ := StateRepository.mem_childrenOf.mp hlower
    obtain ⟨child, hchild, -⟩ := h.listed upper found lower hfound hlisted
    rw [hchild]
    exact Option.some_ne_none child
  have hnodes (other : String)
      (hpath : Relation.TransGen (Below runtime.states.childrenOf) actorId other) :
      other ∈ ids := by
    obtain ⟨-, below, -, hbelow, -⟩ := h.deeper hpath
    apply hids
    rw [hbelow]
    exact Option.some_ne_none below
  refine ⟨ids.card, ?_⟩
  intro fuel hfuel
  obtain ⟨out, hwalk, hnodup, hmem⟩ :=
    walk_descendants h.branching (h.acyclic actorId) hnodes hfuel
  refine ⟨out, ?_, hnodup, hmem⟩
  rw [StateRepository.descendants, hactor]
  simp only
  rw [StateRepository.childrenOf_of_actor hactor] at hwalk
  rw [descend_eq_walk fuel [] actor.children _ hstored, hwalk]
  · rfl
  · intro childId hchild
    exact hstored actorId childId (StateRepository.mem_childrenOf.mpr ⟨actor, hactor, hchild⟩)

end Walk

/-! ## Cancellations come to an end -/

section Cancel

variable {runtime : RuntimeState}

/-- The answer of the loop to its caller: an error is raised. -/
def loopAnswer : Option (Except Fault (List String)) → Except Fault (Option (List String))
  | none => .ok none
  | some (.ok out) => .ok (some out)
  | some (.error fault) => .error fault

theorem exec_walkChildren (fuel : ℕ) (out queue : List String) (runtime : RuntimeState) :
    (walkChildren fuel out queue).exec runtime =
      (runtime, loopAnswer (runtime.states.descend fuel out queue)) := by
  induction fuel generalizing out queue with
  | zero => cases queue <;> rfl
  | succ fuel ih =>
    cases queue with
    | nil => rfl
    | cons actorId queue =>
      rw [walkChildren, StateRepository.descend]
      cases hactor : runtime.states.actors actorId with
      | none =>
        have hget : runtime.states.get actorId = .error (.keyError actorId) := by
          rw [StateRepository.get, hactor]
        rw [exec_bind_error (exec_look_error hget)]
        rfl
      | some actor =>
        rw [exec_bind_ok (exec_look (StateRepository.get_eq_ok_iff.mpr hactor)), ih]

theorem exec_descendantsOf (fuel : ℕ) (actorId : String) (runtime : RuntimeState) :
    (descendantsOf fuel actorId).exec runtime =
      (runtime, loopAnswer (runtime.states.descendants fuel actorId)) := by
  rw [descendantsOf, StateRepository.descendants]
  cases hactor : runtime.states.actors actorId with
  | none =>
    have hget : runtime.states.get actorId = .error (.keyError actorId) := by
      rw [StateRepository.get, hactor]
    rw [exec_bind_error (exec_look_error hget)]
    rfl
  | some actor =>
    rw [exec_bind_ok (exec_look (StateRepository.get_eq_ok_iff.mpr hactor)),
      exec_walkChildren]

/-- A cancellation that knows the descendants is not left in their loop. -/
theorem cancel_ends {config : RuntimeConfig} {fuel : ℕ} {actorId reason : String}
    (hover : runtime.states.actors actorId ≠ none →
      ∃ out, runtime.states.descendants fuel actorId = some (.ok out)) :
    ((cancel config fuel actorId reason).exec runtime).2 ≠ .ok none := by
  rw [cancel]
  cases hactor : runtime.states.actors actorId with
  | none =>
    have hget : runtime.states.get actorId = .error (.keyError actorId) := by
      rw [StateRepository.get, hactor]
    rw [exec_bind_error (exec_look_error hget)]
    intro hnone
    cases hnone
  | some actor =>
    obtain ⟨out, hout⟩ := hover (by rw [hactor]; exact Option.some_ne_none actor)
    rw [exec_bind_ok (exec_look (StateRepository.get_eq_ok_iff.mpr hactor))]
    have hany {A : Type} (script : RuntimeScript A) (now : RuntimeState) :
        script.Ends now (fun _ _ => True) fun _ _ => True := ends_trivial script now
    split
    · rw [exec_bind_ok (exec_descendantsOf fuel actorId runtime |>.trans (by rw [hout]; rfl))]
      have hends : (cancelTargets config actorId reason (some out)).Ends runtime
          (fun value _ => value ≠ none) fun _ _ => True := by
        apply (hany _ _).bind
        intro _ _ _
        apply (hany _ _).bind
        intro _ _ _
        exact ends_pure (Option.some_ne_none _)
      intro hnone
      rw [Ends] at hends
      generalize (cancelTargets config actorId reason (some out)).exec runtime = ending
        at hends hnone
      obtain ⟨now, answer⟩ := ending
      simp only at hnone
      subst hnone
      exact hends rfl
    · have hends : (failUnresolved actorId).Ends runtime (fun _ _ => False)
          fun _ _ => True := by
        apply (hany _ _).bind
        intro _ _ _
        trivial
      intro hnone
      rw [Ends] at hends
      generalize (failUnresolved actorId).exec runtime = ending at hends hnone
      obtain ⟨now, answer⟩ := ending
      simp only at hnone
      subst hnone
      exact hends

end Cancel

/-! ## Steps -/

section Steps

variable {runtime now : RuntimeState}

theorem same_branch {before actor : ActorState} (h : before.unmarked = actor.unmarked) :
    before.children = actor.children ∧ before.parentActorId = actor.parentActorId ∧
      before.depth = actor.depth := by
  refine ⟨?_, ?_, ?_⟩
  · change before.unmarked.children = actor.unmarked.children
    rw [h]
  · change before.unmarked.parentActorId = actor.unmarked.parentActorId
    rw [h]
  · change before.unmarked.depth = actor.unmarked.depth
    rw [h]

theorem Treelike.same (h : Treelike runtime) (hkeyed : now.states.Keyed)
    (hstates : runtime.states.SameActors now.states) : Treelike now := by
  refine ⟨hkeyed, ?_, ?_, ?_⟩
  · intro actorId actor childId hactor hlisted
    obtain ⟨before, hbefore, hsame⟩ := hstates.lookup hactor
    obtain ⟨hchildren, -, hdepth⟩ := same_branch hsame
    obtain ⟨child, hchild, hparent, hdeeper⟩ :=
      h.listed actorId before childId hbefore (hchildren ▸ hlisted)
    have hstored : now.states.actors childId ≠ none := by
      rw [ne_eq, hstates.none_iff, hchild]
      exact Option.some_ne_none child
    obtain ⟨found, hfound⟩ := Option.ne_none_iff_exists'.mp hstored
    obtain ⟨old, hold, hmarked⟩ := hstates.lookup hfound
    rw [hchild] at hold
    cases hold
    obtain ⟨-, hparents, hdepths⟩ := same_branch hmarked
    refine ⟨found, hfound, hparents ▸ hparent, ?_⟩
    rw [← hdepths, ← hdepth, hdeeper]
  · intro actorId actor hactor
    obtain ⟨before, hbefore, hsame⟩ := hstates.lookup hactor
    rw [← (same_branch hsame).1]
    exact h.nodup actorId before hbefore
  · obtain ⟨ids, hids⟩ := h.finite
    refine ⟨ids, ?_⟩
    intro actorId hactor
    rw [ne_eq, hstates.none_iff] at hactor
    exact hids actorId hactor

/-- A new actor without children. -/
theorem Treelike.insert (h : Treelike runtime) (hkeyed : now.states.Keyed) {newId : String}
    {actor : ActorState} (hnew : runtime.states.actors newId = none)
    (hchildless : actor.children = [])
    (hactors : now.states.actors = Function.update runtime.states.actors newId (some actor)) :
    Treelike now := by
  have hcases {actorId : String} {found : ActorState}
      (hfound : now.states.actors actorId = some found) :
      found.children = [] ∨ runtime.states.actors actorId = some found := by
    rw [hactors] at hfound
    by_cases hsame : actorId = newId
    · rw [hsame, Function.update_self] at hfound
      cases hfound
      exact Or.inl hchildless
    · rw [Function.update_of_ne hsame] at hfound
      exact Or.inr hfound
  refine ⟨hkeyed, ?_, ?_, ?_⟩
  · intro actorId found childId hfound hlisted
    rcases hcases hfound with hnone | hold
    · rw [hnone] at hlisted
      cases hlisted
    · obtain ⟨child, hchild, hbranch⟩ := h.listed actorId found childId hold hlisted
      refine ⟨child, ?_, hbranch⟩
      rw [hactors]
      exact Family.lookup_update hnew hchild
  · intro actorId found hfound
    rcases hcases hfound with hnone | hold
    · rw [hnone]
      exact List.nodup_nil
    · exact h.nodup actorId found hold
  · obtain ⟨ids, hids⟩ := h.finite
    refine ⟨Insert.insert newId ids, ?_⟩
    intro actorId hactor
    rw [hactors] at hactor
    by_cases hsame : actorId = newId
    · rw [hsame]
      exact Finset.mem_insert_self newId ids
    · rw [Function.update_of_ne hsame] at hactor
      exact Finset.mem_insert_of_mem (hids actorId hactor)

/-- A new child of an actor, which lists it. -/
theorem Treelike.list (h : Treelike runtime) (hkeyed : now.states.Keyed)
    {parent child : ActorState} (hparent : runtime.states.actors parent.actorId = some parent)
    (hchild : runtime.states.actors child.actorId = some child)
    (hnamed : child.parentActorId = some parent.actorId)
    (hdepth : child.depth = parent.depth + 1) (hunlisted : child.actorId ∉ parent.children)
    (hactors : now.states.actors = Function.update runtime.states.actors parent.actorId
      (some { parent with children := parent.children ++ [child.actorId] })) :
    Treelike now := by
  have hkeep {actorId : String} {found : ActorState}
      (hfound : runtime.states.actors actorId = some found) :
      ∃ listing, now.states.actors actorId = some listing ∧
        listing.parentActorId = found.parentActorId ∧ listing.depth = found.depth := by
    rw [hactors]
    by_cases hsame : actorId = parent.actorId
    · rw [hsame] at hfound
      rw [hparent] at hfound
      cases hfound
      rw [hsame, Function.update_self]
      exact ⟨_, rfl, rfl, rfl⟩
    · rw [Function.update_of_ne hsame]
      exact ⟨found, hfound, rfl, rfl⟩
  have hold {actorId childId : String} {found : ActorState}
      (hfound : runtime.states.actors actorId = some found) (hlisted : childId ∈ found.children) :
      ∃ listing, now.states.actors childId = some listing ∧
        listing.parentActorId = some actorId ∧ listing.depth = found.depth + 1 := by
    obtain ⟨lower, hlower, hlists, hdeeper⟩ := h.listed actorId found childId hfound hlisted
    obtain ⟨listing, hlisting, hparents, hdepths⟩ := hkeep hlower
    exact ⟨listing, hlisting, hparents.trans hlists, hdepths.trans hdeeper⟩
  refine ⟨hkeyed, ?_, ?_, ?_⟩
  · intro actorId found childId hfound hlisted
    rw [hactors] at hfound
    by_cases hsame : actorId = parent.actorId
    · rw [hsame, Function.update_self] at hfound
      cases hfound
      rw [hsame]
      rcases List.mem_append.mp hlisted with hbefore | hnew
      · exact @hold parent.actorId childId parent hparent hbefore
      · rw [List.mem_singleton.mp hnew]
        obtain ⟨listing, hlisting, hparents, hdepths⟩ := hkeep hchild
        exact ⟨listing, hlisting, hparents.trans hnamed, hdepths.trans hdepth⟩
    · rw [Function.update_of_ne hsame] at hfound
      exact hold hfound hlisted
  · intro actorId found hfound
    rw [hactors] at hfound
    by_cases hsame : actorId = parent.actorId
    · rw [hsame, Function.update_self] at hfound
      cases hfound
      rw [List.nodup_append]
      refine ⟨h.nodup parent.actorId parent hparent, List.nodup_singleton _, ?_⟩
      rintro first hfirst last hlast rfl
      rw [List.mem_singleton.mp hlast] at hfirst
      exact hunlisted hfirst
    · rw [Function.update_of_ne hsame] at hfound
      exact h.nodup actorId found hfound
  · obtain ⟨ids, hids⟩ := h.finite
    refine ⟨ids, ?_⟩
    intro actorId hactor
    rw [hactors] at hactor
    by_cases hsame : actorId = parent.actorId
    · rw [hsame]
      apply hids
      rw [hparent]
      exact Option.some_ne_none parent
    · rw [Function.update_of_ne hsame] at hactor
      exact hids actorId hactor

/-- A birth keeps the forest. -/
theorem Treelike.grew (h : Treelike runtime) (hkeyed : now.states.Keyed)
    {request : SpawnRequest} {parent : ActorState} {account : BudgetAccount}
    (hnow : SpawnGrew request parent account runtime now) : Treelike now := by
  have hparent : runtime.states.actors parent.actorId = some parent := by
    rw [h.keyed _ _ hnow.reserves.known]
    exact hnow.reserves.known
  have hother : parent.actorId ≠ request.childActorId := by
    intro hsame
    rw [hsame, hnow.separate.unused] at hparent
    cases hparent
  have hgrown : Treelike { runtime with
      states := grown parent request account.providerId runtime.states } := by
    apply h.insert _ hnow.separate.unused _ rfl
    · intro actorId actor hactor
      by_cases hsame : actorId = request.childActorId
      · have hupdate : Function.update runtime.states.actors request.childActorId
            (some (childActor parent request account.providerId)) actorId = some actor := hactor
        rw [hsame, Function.update_self] at hupdate
        cases hupdate
        exact hsame.symm
      · exact h.keyed actorId actor ((Function.update_of_ne hsame _ _).symm.trans hactor)
    · rfl
  have hstored : (grown parent request account.providerId runtime.states).actors
      parent.actorId = some parent :=
    (Function.update_of_ne hother _ _).trans hparent
  have hborn : Treelike { runtime with
      states := born parent request account.providerId runtime.states } := by
    apply @Treelike.list _ _ hgrown _ parent (childActor parent request account.providerId)
      hstored
    · exact Function.update_self _ _ _
    · rfl
    · rfl
    · exact hnow.separate.unlisted
    · simp only [born, StateRepository.withListed, StateRepository.withChildren,
        StateRepository.setActor_actors, hstored, Option.map_some]
      rfl
    · apply hgrown.keyed.setActor
      intro actor hactor
      rw [hstored] at hactor
      cases hactor
      rfl
  exact hborn.same hkeyed hnow.states

theorem Treelike.takesOver (h : Treelike runtime) (hkeyed : now.states.Keyed)
    {Adds : String → Checkpoint → ActorState → Prop}
    (hadds : ∀ successorId found predecessor, Adds successorId found predecessor →
      runtime.states.actors successorId = none ∧ found.actor.children = [])
    (hnow : TakesOver Adds runtime now) : Treelike now := by
  rcases hnow.states with hsame | ⟨successorId, found, predecessor, hadd, hstates⟩
  · exact h.same hkeyed hsame
  · obtain ⟨hunused, hchildless⟩ := hadds successorId found predecessor hadd
    have hadded : Treelike { runtime with
        states := runtime.states.setActor successorId
          (some (successorActor found.actor predecessor successorId)) } := by
      apply h.insert _ hunused _ rfl
      · apply h.keyed.setActor
        rintro actor ⟨⟩
        rfl
      · exact hchildless
    exact hadded.same hkeyed hstates

end Steps

/-! ## Runs -/

/-- A successor that is added has no children in its checkpoint. -/
def ChildlessSuccessors (config : RuntimeConfig) (runtime : RuntimeState) :
    RuntimeCall → Prop
  | .recover predecessorId successorId crash => ∀ found predecessor,
      RecoverAdds config predecessorId crash runtime successorId found predecessor →
        found.actor.children = []
  | .replayRecoveries => config.recoveryJournal = true →
      AlongReplay
        (fun row now => ∀ successorId found predecessor,
          TurnAdds runtime.journal row now successorId found predecessor →
            found.actor.children = [])
        runtime.journal (runtime.journal.filter (·.kind = "RECOVERY_TRANSITION")) runtime
  | _ => True

section Calls

variable (config : RuntimeConfig) {runtime : RuntimeState}

theorem Treelike.relabelled {now : RuntimeState} (h : Treelike runtime)
    (hnow : Relabelled runtime now) : Treelike now :=
  h.same (h.keyed.marks hnow.states) hnow.states.same

theorem Treelike.add (h : Treelike runtime) {actor : ActorState} {active : Bool}
    (hroot : FromRoots runtime (.add actor active)) :
    Treelike (RuntimeCall.step config runtime (.add actor active)) := by
  obtain ⟨-, hchildless, hnew⟩ := hroot
  cases hadd : runtime.states.add actor active with
  | error fault =>
    rw [RuntimeCall.step, exec_changeStates_error hadd]
    exact h
  | ok states =>
    rw [RuntimeCall.step, exec_changeStates hadd]
    exact h.insert (h.keyed.add hadd) hnew hchildless (add_cases hadd).1

theorem Treelike.separate (h : Treelike runtime) {request : SpawnRequest}
    {parent : ActorState} {account : BudgetAccount}
    (hreserves : Reserves request runtime parent account)
    (hunused : runtime.states.actors request.childActorId = none) :
    Separate parent request runtime.states := by
  refine ⟨hunused, ?_⟩
  intro hlisted
  obtain ⟨child, hchild, -⟩ :=
    h.listed request.parentActorId parent request.childActorId hreserves.known hlisted
  rw [hunused] at hchild
  cases hchild

theorem Treelike.spawn (h : Treelike runtime) {hook : SpawnHook} {request : SpawnRequest}
    (hfresh : FreshChild runtime (.spawn hook request)) :
    Treelike (RuntimeCall.step config runtime (.spawn hook request)) := by
  have hkeyed := RuntimeCall.keyed_step config h.keyed (.spawn hook request)
  have hends := @ends_spawn_of_separate runtime hook request h.keyed
    fun parent account hreserves => h.separate hreserves (hfresh parent account hreserves)
  rw [RuntimeCall.step] at hkeyed ⊢
  cases hexec : (RecursiveRuntime.spawn hook request).exec runtime with
  | mk now answer =>
    rw [hexec] at hkeyed
    cases answer with
    | error fault =>
      rw [show now = runtime from (ends_of_error hexec).mp hends]
      exact h
    | ok result =>
      rcases (ends_of_ok hexec).mp hends with
        ⟨hquiet, -⟩ | ⟨-, parent, account, hgrew⟩
      · exact h.same hkeyed hquiet.states
      · exact h.grew hkeyed hgrew

theorem Treelike.replay (h : Treelike runtime)
    (hchildless : ChildlessSuccessors config runtime .replayRecoveries) :
    Treelike (RuntimeCall.step config runtime .replayRecoveries) := by
  apply @replayRecoveries_keeps runtime
    (fun rows row now => ∀ successorId found predecessor,
      TurnAdds rows row now successorId found predecessor → found.actor.children = [])
    Treelike config _ h hchildless
  intro rows row now h hallowed
  apply h.takesOver (keeps_exec (keyed_replayTransition rows row) h.keyed) _
    (takesOver_turn rows row now)
  intro successorId found predecessor hadds
  exact ⟨hadds.unused, hallowed successorId found predecessor hadds⟩

/-- Every call keeps the forest. -/
theorem Treelike.step (h : Treelike runtime) {call : RuntimeCall}
    (hroots : FromRoots runtime call) (hfresh : FreshChild runtime call)
    (hchildless : ChildlessSuccessors config runtime call) :
    Treelike (call.step config runtime) := by
  cases call with
  | add actor active => exact h.add config hroots
  | bind ref providerId maxSpawns => exact ⟨h.keyed, h.listed, h.nodup, h.finite⟩
  | mark actorId lifecycle =>
    exact h.relabelled (keeps_exec (relabelled_setLifecycle runtime actorId lifecycle)
      (.refl runtime))
  | spawn hook request => exact h.spawn config hfresh
  | cancel fuel actorId reason =>
    exact h.relabelled (keeps_exec (relabelled_cancel runtime config fuel actorId reason)
      (.refl runtime))
  | replayCancellations =>
    exact h.relabelled (keeps_exec (relabelled_replayCancellations runtime config)
      (.refl runtime))
  | checkpoint actorId checkpointId =>
    apply h.same (RuntimeCall.keyed_step config h.keyed (.checkpoint actorId checkpointId))
    rw [RuntimeCall.step, RecursiveRuntime.checkpoint]
    cases hget : runtime.states.get actorId with
    | error fault =>
      rw [exec_bind_error (exec_look_error hget)]
      exact .refl _
    | ok actor =>
      rw [exec_bind_ok (exec_look hget), exec_act]
      exact .refl _
  | recover predecessorId successorId crash =>
    apply h.takesOver (RuntimeCall.keyed_step config h.keyed
      (.recover predecessorId successorId crash)) _
      (takesOver_recover config predecessorId successorId crash runtime)
    rintro otherId found predecessor ⟨rfl, hadds⟩
    exact ⟨hadds.unused, hchildless found predecessor hadds⟩
  | replayRecoveries => exact h.replay config hchildless

theorem treelike_empty : Treelike .empty := by
  refine ⟨?_, ?_, ?_, ∅, ?_⟩
  · intro actorId actor hactor
    cases hactor
  · intro actorId actor childId hactor
    cases hactor
  · intro actorId actor hactor
    cases hactor
  · intro actorId hactor
    exact absurd rfl hactor

/-- The listed children make a forest: who is listed is there and names its lister, nobody
is below itself, the loop of `descendants` is over and lists everybody below once, and no
cancellation is left in it. -/
structure ActorForest (runtime : RuntimeState) : Prop where
  listed : ∀ actorId actor childId, runtime.states.actors actorId = some actor →
    childId ∈ actor.children →
    ∃ child, runtime.states.actors childId = some child ∧ child.parentActorId = some actorId
  acyclic : ∀ actorId, ¬ Relation.TransGen (Below runtime.states.childrenOf) actorId actorId
  descendants : ∀ actorId, runtime.states.actors actorId ≠ none →
    ∃ bound, ∀ fuel, bound ≤ fuel →
      ∃ out, runtime.states.descendants fuel actorId = some (.ok out) ∧ out.Nodup ∧
        ∀ other, other ∈ out ↔
          Relation.TransGen (Below runtime.states.childrenOf) actorId other
  cancels : ∀ actorId reason, ∃ bound, ∀ fuel, bound ≤ fuel →
    ((cancel config fuel actorId reason).exec runtime).2 ≠ .ok none

variable {config}

theorem Treelike.forest (h : Treelike runtime) : ActorForest config runtime := by
  refine ⟨?_, h.acyclic, ?_, ?_⟩
  · intro actorId actor childId hactor hlisted
    obtain ⟨child, hchild, hparent, -⟩ := h.listed actorId actor childId hactor hlisted
    exact ⟨child, hchild, hparent⟩
  · intro actorId hactor
    obtain ⟨actor, hstored⟩ := Option.ne_none_iff_exists'.mp hactor
    exact h.descendants hstored
  · intro actorId reason
    cases hactor : runtime.states.actors actorId with
    | none =>
      refine ⟨0, fun fuel _ => cancel_ends ?_⟩
      intro hstored
      exact absurd hactor hstored
    | some actor =>
      obtain ⟨bound, hbound⟩ := h.descendants hactor
      refine ⟨bound, fun fuel hfuel => cancel_ends ?_⟩
      intro _
      obtain ⟨out, hout, -⟩ := hbound fuel hfuel
      exact ⟨out, hout⟩

/-- In every run from roots the actors are a forest, as long as no spawn takes the id of an
actor for its child and no successor is added with children. -/
theorem actors_forest (config : RuntimeConfig) (calls : List RuntimeCall)
    (hroots : Admissible (RuntimeCall.step config) FromRoots .empty calls)
    (hfresh : Admissible (RuntimeCall.step config) FreshChild .empty calls)
    (hchildless : Admissible (RuntimeCall.step config) (ChildlessSuccessors config) .empty
      calls) :
    ActorForest config (runtimeRun config calls) := by
  have htree : Treelike (runtimeRun config calls) := by
    apply run_invariant_of_admissible Treelike _ treelike_empty
      (hroots.and (hfresh.and hchildless))
    intro runtime call h hallowed
    exact h.step config hallowed.1 hallowed.2.1 hallowed.2.2
  exact htree.forest

/-- A root, a child of it and a successor of the child. -/
def childRecovered : List RuntimeCall :=
  rootAndChild ++ [.checkpoint "c" "CP1", .recover "c" "c:g2" none]

theorem actors_forest_recovered :
    ((runtimeRun ⟨{"C1"}, true, true⟩ childRecovered).states.actors "c:g2").isSome ∧
      ActorForest ⟨{"C1"}, true, true⟩ (runtimeRun ⟨{"C1"}, true, true⟩ childRecovered) := by
  refine ⟨by decide +kernel, actors_forest ⟨{"C1"}, true, true⟩ childRecovered ?_ ?_ ?_⟩
  · exact ⟨rfl, ⟨rfl, rfl, rfl⟩, trivial, trivial, trivial, trivial⟩
  · refine ⟨trivial, trivial, ?_, trivial, trivial, trivial⟩
    intro _ _ _
    decide +kernel
  · refine ⟨trivial, trivial, trivial, trivial, ?_, trivial⟩
    intro found predecessor hadds
    have hchildless : (latestCheckpoint "c" (runtimeRun ⟨{"C1"}, true, true⟩
        (rootAndChild ++ [.checkpoint "c" "CP1"]))).toOption.map (·.actor.children) =
          some [] := by decide +kernel
    have hfound : latestCheckpoint "c" (runtimeRun ⟨{"C1"}, true, true⟩
        (rootAndChild ++ [.checkpoint "c" "CP1"])) = .ok found := hadds.checkpointed
    rw [hfound] at hchildless
    exact Option.some.inj hchildless

/-- A root that takes its own id for a child lists itself. -/
theorem root_lists_itself :
    ¬ ActorForest ⟨{"C1"}, true, true⟩ (runtimeRun ⟨{"C1"}, true, true⟩
      [.bind "B1" "provider-canonical" 20, .add (sampleRoot "a") true,
        .spawn .none { sampleRequest "r1" "a" "a" with
          childIdentityId := "ID:a2", childNamespace := "ns:a2" }]) := by
  intro hforest
  apply hforest.acyclic "a"
  apply Relation.TransGen.single
  change "a" ∈ StateRepository.childrenOf _ "a"
  decide +kernel

end Calls

end ReisOs.RecursiveRuntime
