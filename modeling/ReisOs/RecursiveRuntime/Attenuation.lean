import ReisOs.Core.Families
import ReisOs.RecursiveRuntime.CallEffects

/-!
# Authority along lineages

What an actor hands down to its children: a child has no more of it than its parent, a
successor as much as its predecessor.  Both stay so as long as no child takes the id of
another actor.
-/

namespace ReisOs.RecursiveRuntime

open ReisOs.Core Script DurableJournal Function

/-- What an actor hands down. -/
structure Lineage where
  authority : AuthorityGrant
  capability : CapabilityBinding
  missionBinding : String
  traceId : String
  providerId : String
  budgetRef : String
  depth : ℤ
  parentActorId : Option String

def ActorState.lineage (actor : ActorState) : Lineage :=
  { authority := actor.authority
    capability := actor.capability
    missionBinding := actor.missionBinding
    traceId := actor.traceId
    providerId := actor.providerId
    budgetRef := actor.budgetRef
    depth := actor.depth
    parentActorId := actor.parentActorId }

namespace Lineage

/-- No more than the other one, under the same references. -/
structure Within (lower upper : Lineage) : Prop where
  scopes : lower.authority.scopes ⊆ upper.authority.scopes
  capabilities : lower.capability.capabilities ⊆ upper.capability.capabilities
  tools : lower.capability.tools ⊆ upper.capability.tools
  authorityRef : lower.authority.authorityRef = upper.authority.authorityRef
  mission : lower.missionBinding = upper.missionBinding
  trace : lower.traceId = upper.traceId
  provider : lower.providerId = upper.providerId
  budget : lower.budgetRef = upper.budgetRef

structure ChildOf (child parent : Lineage) : Prop extends Within child parent where
  depth : child.depth = parent.depth + 1

theorem Within.refl (lineage : Lineage) : lineage.Within lineage :=
  ⟨subset_rfl, subset_rfl, subset_rfl, rfl, rfl, rfl, rfl, rfl⟩

theorem Within.trans {first second third : Lineage} (h : first.Within second)
    (hnext : second.Within third) : first.Within third :=
  ⟨h.scopes.trans hnext.scopes, h.capabilities.trans hnext.capabilities,
    h.tools.trans hnext.tools, h.authorityRef.trans hnext.authorityRef,
    h.mission.trans hnext.mission, h.trace.trans hnext.trace,
    h.provider.trans hnext.provider, h.budget.trans hnext.budget⟩

end Lineage

namespace StateRepository

def lineages (states : StateRepository) : Family String Lineage :=
  fun actorId => (states.actors actorId).map ActorState.lineage

variable {states now : StateRepository}

theorem lineages_eq_none_iff (states : StateRepository) (actorId : String) :
    states.lineages actorId = none ↔ states.actors actorId = none :=
  Option.map_eq_none_iff

theorem lineages_of_actor {actorId : String} {actor : ActorState}
    (h : states.actors actorId = some actor) : states.lineages actorId = some actor.lineage := by
  rw [lineages, h, Option.map_some]

theorem SameActors.lineages (h : states.SameActors now) : now.lineages = states.lineages := by
  have hunmarked (found : Option ActorState) :
      found.map ActorState.lineage = (found.map ActorState.unmarked).map ActorState.lineage := by
    cases found <;> rfl
  funext actorId
  rw [StateRepository.lineages, StateRepository.lineages, hunmarked, h actorId, ← hunmarked]

theorem lineages_setActor (states : StateRepository) (actorId : String) (actor : ActorState) :
    (states.setActor actorId (some actor)).lineages =
      update states.lineages actorId (some actor.lineage) := by
  funext other
  rw [lineages, setActor_actors]
  by_cases hsame : other = actorId
  · rw [hsame, update_self, update_self, Option.map_some]
  · rw [update_of_ne hsame, update_of_ne hsame]
    rfl

theorem lineages_withListed (states : StateRepository) (parentId childId : String) :
    (states.withListed parentId childId).lineages = states.lineages := by
  funext other
  rw [lineages, withListed, withChildren, setActor_actors]
  by_cases hsame : other = parentId
  · rw [hsame, update_self, Option.map_map]
    rfl
  · rw [update_of_ne hsame]
    rfl

end StateRepository

/-! ## The invariant -/

/-- The actors are a sound family, with copies in the checkpoints and budgets within their
limits. -/
structure Attenuated (runtime : RuntimeState) : Prop where
  keyed : runtime.states.Keyed
  sound : runtime.states.lineages.Sound Lineage.parentActorId Lineage.ChildOf
  rooted : runtime.states.lineages.Rooted Lineage.parentActorId
  providers : ∀ actorId lineage account, runtime.states.lineages actorId = some lineage →
    runtime.ledger lineage.budgetRef = some account → lineage.providerId = account.providerId
  limits : ∀ ref account, runtime.ledger ref = some account →
    account.reserved + account.actual ≤ account.maxSpawns
  listed : ∀ actorId actor childId, runtime.states.actors actorId = some actor →
    childId ∈ actor.children → runtime.states.actors childId ≠ none
  copies : ∀ actorId, ∀ copy ∈ runtime.checkpoints actorId,
    runtime.states.lineages actorId = some copy.actor.lineage ∧
      ∀ childId ∈ copy.actor.children, runtime.states.actors childId ≠ none

section Steps

variable {runtime now : RuntimeState}

/-- Nothing that is handed down changes with lifecycles. -/
theorem Attenuated.same (h : Attenuated runtime) (hkeyed : now.states.Keyed)
    (hstates : runtime.states.SameActors now.states) (hledger : now.ledger = runtime.ledger)
    (hcheckpoints : now.checkpoints = runtime.checkpoints) : Attenuated now := by
  have hlineages := hstates.lineages
  refine ⟨hkeyed, ?_, ?_, ?_, ?_, ?_, ?_⟩
  · rw [hlineages]
    exact h.sound
  · rw [hlineages]
    exact h.rooted
  · rw [hlineages, hledger]
    exact h.providers
  · rw [hledger]
    exact h.limits
  · intro actorId actor childId hactor hchild
    obtain ⟨before, hbefore, hsame⟩ := hstates.lookup hactor
    have hchildren : before.children = actor.children := by
      change before.unmarked.children = actor.unmarked.children
      rw [hsame]
    rw [ne_eq, hstates.none_iff]
    exact h.listed actorId before childId hbefore (hchildren ▸ hchild)
  · intro actorId copy hcopy
    rw [hcheckpoints] at hcopy
    obtain ⟨hlineage, hchildren⟩ := h.copies actorId copy hcopy
    rw [hlineages]
    refine ⟨hlineage, ?_⟩
    intro childId hchild
    rw [ne_eq, hstates.none_iff]
    exact hchildren childId hchild

/-- A new actor whose own parent is there. -/
theorem Attenuated.insert (h : Attenuated runtime) (hkeyed : now.states.Keyed)
    {newId : String} {lineage : Lineage} (hnew : runtime.states.actors newId = none)
    (hlineages : now.states.lineages =
      update runtime.states.lineages newId (some lineage))
    (hparent : ∀ above, lineage.parentActorId = some above →
      ∃ other, runtime.states.lineages above = some other ∧ lineage.ChildOf other)
    (hprovider : ∀ account, runtime.ledger lineage.budgetRef = some account →
      lineage.providerId = account.providerId)
    (hledger : ∀ ref account, now.ledger ref = some account →
      account.reserved + account.actual ≤ account.maxSpawns ∧
        ∃ before, runtime.ledger ref = some before ∧ before.providerId = account.providerId)
    (hlisted : ∀ actorId actor childId, now.states.actors actorId = some actor →
      childId ∈ actor.children → childId = newId ∨ runtime.states.actors childId ≠ none)
    (hcheckpoints : now.checkpoints = runtime.checkpoints) : Attenuated now := by
  have hunborn : runtime.states.lineages newId = none :=
    (runtime.states.lineages_eq_none_iff newId).mpr hnew
  have hstored {actorId : String}
      (hactor : actorId = newId ∨ runtime.states.actors actorId ≠ none) :
      now.states.actors actorId ≠ none := by
    rw [ne_eq, ← now.states.lineages_eq_none_iff, hlineages]
    by_cases hsame : actorId = newId
    · rw [hsame, update_self]
      exact Option.some_ne_none lineage
    · rw [update_of_ne hsame, runtime.states.lineages_eq_none_iff]
      exact hactor.resolve_left hsame
  refine ⟨hkeyed, ?_, ?_, ?_, fun ref account haccount => (hledger ref account haccount).1,
    ?_, ?_⟩
  · rw [hlineages]
    exact h.sound.insert hunborn hparent
  · rw [hlineages]
    apply h.rooted.insert hunborn
    intro above habove
    obtain ⟨other, hother, -⟩ := hparent above habove
    exact ⟨other, hother⟩
  · intro actorId found account hfound haccount
    obtain ⟨before, hbefore, hsame⟩ := (hledger _ account haccount).2
    rw [hlineages] at hfound
    rw [← hsame]
    by_cases hid : actorId = newId
    · rw [hid, update_self] at hfound
      cases hfound
      exact hprovider before hbefore
    · rw [update_of_ne hid] at hfound
      exact h.providers actorId found before hfound hbefore
  · intro actorId actor childId hactor hchild
    exact hstored (hlisted actorId actor childId hactor hchild)
  · intro actorId copy hcopy
    rw [hcheckpoints] at hcopy
    obtain ⟨hlineage, hchildren⟩ := h.copies actorId copy hcopy
    rw [hlineages]
    exact ⟨Family.lookup_update hunborn hlineage, fun childId hchild =>
      hstored (Or.inr (hchildren childId hchild))⟩

theorem Attenuated.relabelled (h : Attenuated runtime) (hnow : Relabelled runtime now) :
    Attenuated now :=
  h.same (h.keyed.marks hnow.states) hnow.states.same hnow.ledger hnow.checkpoints

theorem latestCheckpoint_mem {actorId : String} {found : Checkpoint}
    (h : latestCheckpoint actorId runtime = .ok found) : found ∈ runtime.checkpoints actorId := by
  rw [latestCheckpoint] at h
  split at h
  · cases h
  · next checkpoint hlast =>
      cases h
      exact List.mem_of_getLast? hlast

/-- A successor descends as its predecessor does. -/
theorem Attenuated.takesOver (h : Attenuated runtime) (hkeyed : now.states.Keyed)
    {Adds : String → Checkpoint → ActorState → Prop}
    (hadds : ∀ successorId found predecessor, Adds successorId found predecessor →
      runtime.states.actors successorId = none ∧
        ∃ predecessorId, latestCheckpoint predecessorId runtime = .ok found)
    (hnow : TakesOver Adds runtime now) : Attenuated now := by
  rcases hnow.states with hsame | ⟨successorId, found, predecessor, hadd, hstates⟩
  · exact h.same hkeyed hsame hnow.ledger hnow.checkpoints
  · obtain ⟨hunused, predecessorId, hfound⟩ := hadds successorId found predecessor hadd
    obtain ⟨hcopy, hchildren⟩ := h.copies predecessorId found (latestCheckpoint_mem hfound)
    have hlineages : now.states.lineages = update runtime.states.lineages successorId
        (some found.actor.lineage) := by
      rw [hstates.lineages, StateRepository.lineages_setActor]
      rfl
    apply h.insert hkeyed hunused hlineages
    · intro above habove
      exact h.sound predecessorId found.actor.lineage above hcopy habove
    · intro account haccount
      exact h.providers predecessorId found.actor.lineage account hcopy haccount
    · intro ref account haccount
      rw [hnow.ledger] at haccount
      exact ⟨h.limits ref account haccount, account, haccount, rfl⟩
    · intro actorId actor childId hactor hchild
      right
      obtain ⟨before, hbefore, hsame⟩ := hstates.lookup hactor
      have hkept : before.children = actor.children := by
        change before.unmarked.children = actor.unmarked.children
        rw [hsame]
      rw [← hkept] at hchild
      rw [StateRepository.setActor_actors] at hbefore
      by_cases hid : actorId = successorId
      · rw [hid, update_self] at hbefore
        cases hbefore
        exact hchildren childId hchild
      · rw [update_of_ne hid] at hbefore
        exact h.listed actorId before childId hbefore hchild
    · exact hnow.checkpoints

variable {parent : ActorState} {request : SpawnRequest}

theorem childOf_childActor
    {providerId : String} (haccepted : refusal parent request = none)
    (hprovider : parent.providerId = providerId) :
    (childActor parent request providerId).lineage.ChildOf parent.lineage := by
  rw [refusal] at haccepted
  split_ifs at haccepted with hmarked hstop hscopes hcapabilities htools
  exact ⟨⟨hscopes, hcapabilities, htools, rfl, rfl, rfl, hprovider.symm, rfl⟩, rfl⟩

theorem lineages_born (parent : ActorState) (request : SpawnRequest) (providerId : String)
    (states : StateRepository) :
    (born parent request providerId states).lineages =
      update states.lineages request.childActorId
        (some (childActor parent request providerId).lineage) := by
  rw [born, StateRepository.lineages_withListed]
  exact StateRepository.lineages_setActor states request.childActorId _

/-- Who is listed after a birth. -/
theorem listed_born {providerId : String}
    {states : StateRepository} {actorId childId : String} {actor : ActorState}
    (hactor : (born parent request providerId states).actors actorId = some actor)
    (hchild : childId ∈ actor.children) :
    childId = request.childActorId ∨
      ∃ before, states.actors actorId = some before ∧ childId ∈ before.children := by
  have hgrown {before : ActorState}
      (hbefore : (grown parent request providerId states).actors actorId = some before)
      (hlisted : childId ∈ before.children) :
      ∃ before, states.actors actorId = some before ∧ childId ∈ before.children := by
    have hupdate : update states.actors request.childActorId
        (some (childActor parent request providerId)) actorId = some before := hbefore
    by_cases hsame : actorId = request.childActorId
    · rw [hsame, update_self] at hupdate
      cases hupdate
      cases hlisted
    · rw [update_of_ne hsame] at hupdate
      exact ⟨before, hupdate, hlisted⟩
  rw [born, StateRepository.withListed, StateRepository.withChildren,
    StateRepository.setActor_actors] at hactor
  by_cases hparent : actorId = parent.actorId
  · subst hparent
    rw [update_self] at hactor
    obtain ⟨before, hbefore, hsame⟩ := Option.map_eq_some_iff.mp hactor
    rw [← hsame] at hchild
    rcases List.mem_append.mp hchild with hold | hnew
    · exact Or.inr (hgrown hbefore hold)
    · exact Or.inl (List.mem_singleton.mp hnew)
  · rw [update_of_ne hparent] at hactor
    exact Or.inr (hgrown hactor hchild)

theorem Attenuated.grew (h : Attenuated runtime) (hkeyed : now.states.Keyed) {account : BudgetAccount}
    (hnow : SpawnGrew request parent account runtime now) : Attenuated now := by
  have hparent : runtime.states.lineages parent.actorId = some parent.lineage := by
    apply StateRepository.lineages_of_actor
    rw [h.keyed _ _ hnow.reserves.known]
    exact hnow.reserves.known
  have hprovider : parent.providerId = account.providerId :=
    h.providers parent.actorId parent.lineage account hparent hnow.reserves.funded
  have hlineages : now.states.lineages = update runtime.states.lineages
      request.childActorId (some (childActor parent request account.providerId).lineage) := by
    rw [hnow.states.lineages, lineages_born]
  apply h.insert hkeyed hnow.separate.unused hlineages
  · rintro above ⟨⟩
    exact ⟨parent.lineage, hparent, childOf_childActor hnow.reserves.accepted hprovider⟩
  · intro other hother
    have hfunded : runtime.ledger parent.budgetRef = some other := hother
    rw [hnow.reserves.funded] at hfunded
    cases hfunded
    rfl
  · intro ref other hother
    rw [hnow.ledger] at hother
    by_cases hsame : ref = parent.budgetRef
    · subst hsame
      rw [update_self] at hother
      cases hother
      refine ⟨?_, account, hnow.reserves.funded, rfl⟩
      have hlimit := hnow.reserves.limit
      simp only
      omega
    · rw [update_of_ne hsame] at hother
      exact ⟨h.limits ref other hother, other, hother, rfl⟩
  · intro actorId actor childId hactor hchild
    obtain ⟨before, hbefore, hsame⟩ := hnow.states.lookup hactor
    have hkept : before.children = actor.children := by
      change before.unmarked.children = actor.unmarked.children
      rw [hsame]
    rw [← hkept] at hchild
    rcases listed_born hbefore hchild with hnew | ⟨old, hold, hlisted⟩
    · exact Or.inl hnew
    · exact Or.inr (h.listed actorId old childId hold hlisted)
  · exact hnow.checkpoints

end Steps

/-! ## Runs -/

/-- Actors are only added as roots, under new ids, and budgets are bound once. -/
def FromRoots (runtime : RuntimeState) : RuntimeCall → Prop
  | .add actor _ => actor.parentActorId = none ∧ actor.children = [] ∧
      runtime.states.actors actor.actorId = none
  | .bind ref _ _ => runtime.ledger ref = none
  | _ => True

/-- The provider of a root is the one that its budget is bound to. -/
def ProvidersAgree (runtime : RuntimeState) : RuntimeCall → Prop
  | .add actor _ => ∀ account, runtime.ledger actor.budgetRef = some account →
      actor.providerId = account.providerId
  | .bind ref providerId _ => ∀ actorId actor, runtime.states.actors actorId = some actor →
      actor.budgetRef = ref → actor.providerId = providerId
  | _ => True

/-- A spawn that gets a reservation names a child that is not in use. -/
def FreshChild (runtime : RuntimeState) : RuntimeCall → Prop
  | .spawn _ request => ∀ parent account, Reserves request runtime parent account →
      runtime.states.actors request.childActorId = none
  | _ => True

section Calls

variable (config : RuntimeConfig) {runtime : RuntimeState}

theorem add_cases {states now : StateRepository} {actor : ActorState} {active : Bool}
    (hadd : states.add actor active = .ok now) :
    now.actors = update states.actors actor.actorId (some actor) ∧
      actor.stateNamespace ∉ states.namespaces := by
  rw [StateRepository.add] at hadd
  split at hadd
  · cases hadd
  · next hspace =>
      refine ⟨?_, hspace⟩
      cases active <;> cases hadd <;> rfl

theorem Attenuated.add (h : Attenuated runtime) {actor : ActorState} {active : Bool}
    (hroot : FromRoots runtime (.add actor active))
    (hagree : ProvidersAgree runtime (.add actor active)) :
    Attenuated (RuntimeCall.step config runtime (.add actor active)) := by
  obtain ⟨hparentless, hchildless, hnew⟩ := hroot
  cases hadd : runtime.states.add actor active with
  | error fault =>
    rw [RuntimeCall.step, exec_changeStates_error hadd]
    exact h
  | ok states =>
    rw [RuntimeCall.step, exec_changeStates hadd]
    have hactors := (add_cases hadd).1
    have hlineages : states.lineages =
        update runtime.states.lineages actor.actorId (some actor.lineage) := by
      rw [← StateRepository.lineages_setActor]
      funext actorId
      rw [StateRepository.lineages, hactors]
      rfl
    apply h.insert (h.keyed.add hadd) hnew hlineages
    · intro above habove
      rw [show actor.lineage.parentActorId = none from hparentless] at habove
      cases habove
    · exact hagree
    · intro ref account haccount
      exact ⟨h.limits ref account haccount, account, haccount, rfl⟩
    · intro actorId found childId hfound hchild
      right
      simp only [hactors] at hfound
      by_cases hsame : actorId = actor.actorId
      · rw [hsame, update_self] at hfound
        cases hfound
        rw [hchildless] at hchild
        cases hchild
      · rw [update_of_ne hsame] at hfound
        exact h.listed actorId found childId hfound hchild
    · rfl

theorem Attenuated.bind (h : Attenuated runtime) {ref providerId : String} {maxSpawns : ℕ}
    (hagree : ProvidersAgree runtime (.bind ref providerId maxSpawns)) :
    Attenuated (RuntimeCall.step config runtime (.bind ref providerId maxSpawns)) := by
  refine ⟨h.keyed, h.sound, h.rooted, ?_, ?_, h.listed, h.copies⟩
  · intro actorId lineage account hlineage haccount
    obtain ⟨actor, hactor, rfl⟩ := Option.map_eq_some_iff.mp hlineage
    have hbound : update runtime.ledger ref (some ⟨providerId, maxSpawns, 0, 0⟩)
        actor.budgetRef = some account := haccount
    by_cases hsame : actor.budgetRef = ref
    · rw [hsame, update_self] at hbound
      cases hbound
      exact hagree actorId actor hactor hsame
    · rw [update_of_ne hsame] at hbound
      exact h.providers actorId actor.lineage account hlineage hbound
  · intro other account haccount
    have hbound : update runtime.ledger ref (some ⟨providerId, maxSpawns, 0, 0⟩)
        other = some account := haccount
    by_cases hsame : other = ref
    · rw [hsame, update_self] at hbound
      cases hbound
      exact Nat.zero_le maxSpawns
    · rw [update_of_ne hsame] at hbound
      exact h.limits other account hbound

variable {request : SpawnRequest}

theorem Attenuated.separate (h : Attenuated runtime)
    {parent : ActorState} {account : BudgetAccount}
    (hreserves : Reserves request runtime parent account)
    (hunused : runtime.states.actors request.childActorId = none) :
    Separate parent request runtime.states :=
  ⟨hunused, fun hlisted =>
    h.listed request.parentActorId parent request.childActorId hreserves.known hlisted hunused⟩

theorem Attenuated.spawn (h : Attenuated runtime) {hook : SpawnHook}
    (hfresh : FreshChild runtime (.spawn hook request)) :
    Attenuated (RuntimeCall.step config runtime (.spawn hook request)) := by
  have hkeyed := RuntimeCall.keyed_step config h.keyed (.spawn hook request)
  have hends := @ends_spawn_of_separate runtime hook request h.keyed
    fun parent account hreserves => h.separate hreserves (hfresh parent account hreserves)
  rw [RuntimeCall.step] at hkeyed ⊢
  cases hexec : (RecursiveRuntime.spawn hook request).exec runtime with
  | mk now answer =>
    rw [hexec] at hkeyed
    cases answer with
    | error fault =>
      rw [show now = runtime from (ends_of_error hexec).mp hends]
      exact h
    | ok result =>
      rcases (ends_of_ok hexec).mp hends with
        ⟨hquiet, -⟩ | ⟨-, parent, account, hgrew⟩
      · exact h.same hkeyed hquiet.states hquiet.ledger hquiet.checkpoints
      · exact h.grew hkeyed hgrew

theorem Attenuated.checkpoint (h : Attenuated runtime) (actorId checkpointId : String) :
    Attenuated (RuntimeCall.step config runtime (.checkpoint actorId checkpointId)) := by
  rw [RuntimeCall.step, RecursiveRuntime.checkpoint]
  cases hactor : runtime.states.actors actorId with
  | none =>
    have hget : runtime.states.get actorId = .error (.keyError actorId) := by
      rw [StateRepository.get, hactor]
    rw [exec_bind_error (exec_look_error hget)]
    exact h
  | some actor =>
    rw [exec_bind_ok (exec_look (StateRepository.get_eq_ok_iff.mpr hactor)), exec_act]
    refine ⟨h.keyed, h.sound, h.rooted, h.providers, h.limits, h.listed, ?_⟩
    intro other copy hcopy
    have hid := h.keyed actorId actor hactor
    simp only [hid] at hcopy
    by_cases hsame : other = actorId
    · rw [hsame, update_self, List.mem_append, List.mem_singleton] at hcopy
      rcases hcopy with hold | rfl
      · rw [hsame]
        exact h.copies actorId copy hold
      · rw [hsame]
        exact ⟨StateRepository.lineages_of_actor hactor, fun childId hchild =>
          h.listed actorId actor childId hactor hchild⟩
    · rw [update_of_ne hsame] at hcopy
      exact h.copies other copy hcopy

theorem Attenuated.replay (h : Attenuated runtime) :
    Attenuated (RuntimeCall.step config runtime .replayRecoveries) := by
  apply @replayRecoveries_keeps runtime (fun _ _ _ => True) Attenuated config
  · intro rows row runtime h _
    apply h.takesOver (keeps_exec (keyed_replayTransition rows row) h.keyed) _
      (takesOver_turn rows row runtime)
    intro successorId found predecessor hadds
    exact ⟨hadds.unused, row.actorId, hadds.resumes.checkpointed⟩
  · exact h
  · intro _
    exact AlongReplay.trivial _ _ runtime

theorem Attenuated.step (h : Attenuated runtime) {call : RuntimeCall}
    (hroots : FromRoots runtime call) (hagree : ProvidersAgree runtime call)
    (hfresh : FreshChild runtime call) : Attenuated (call.step config runtime) := by
  cases call with
  | add actor active => exact h.add config hroots hagree
  | bind ref providerId maxSpawns => exact h.bind config hagree
  | mark actorId lifecycle =>
    exact h.relabelled (keeps_exec (relabelled_setLifecycle runtime actorId lifecycle)
      (.refl runtime))
  | spawn hook request => exact h.spawn config hfresh
  | cancel fuel actorId reason =>
    exact h.relabelled (keeps_exec (relabelled_cancel runtime config fuel actorId reason)
      (.refl runtime))
  | replayCancellations =>
    exact h.relabelled (keeps_exec (relabelled_replayCancellations runtime config)
      (.refl runtime))
  | checkpoint actorId checkpointId => exact h.checkpoint config actorId checkpointId
  | recover predecessorId successorId crash =>
    apply h.takesOver (RuntimeCall.keyed_step config h.keyed
      (.recover predecessorId successorId crash)) _
      (takesOver_recover config predecessorId successorId crash runtime)
    rintro otherId found predecessor ⟨rfl, hadds⟩
    exact ⟨hadds.unused, predecessorId, hadds.checkpointed⟩
  | replayRecoveries => exact h.replay config

/-! ## Commits -/

/-- Whether the call is a spawn that is committed, under a parent with the budget. -/
def commitsUnder (ref : String) (runtime : RuntimeState) : RuntimeCall → Bool
  | .spawn hook request =>
    (runtime.results request.requestId).isNone &&
      ((runtime.states.actors request.parentActorId).map (·.budgetRef) == some ref) &&
      (((RecursiveRuntime.spawn hook request).exec runtime).2.toOption.map (·.status) ==
        some .committed)
  | _ => false

/-- The committed spawns of a run under a budget. -/
def committedSpawns (ref : String) : RuntimeState → List RuntimeCall → ℕ
  | _, [] => 0
  | runtime, call :: calls =>
    (if commitsUnder ref runtime call then 1 else 0) +
      committedSpawns ref (call.step config runtime) calls

/-- The actual spawns of a budget, none if it is not bound. -/
def BudgetLedger.actualOf (ledger : BudgetLedger) (ref : String) : ℕ :=
  match ledger ref with
  | none => 0
  | some account => account.actual

theorem actualOf_spawn (h : Attenuated runtime) (ref : String) {hook : SpawnHook} (hfresh : FreshChild runtime (.spawn hook request)) :
    (RuntimeCall.step config runtime (.spawn hook request)).ledger.actualOf ref =
      runtime.ledger.actualOf ref +
        if commitsUnder ref runtime (.spawn hook request) then 1 else 0 := by
  have hends := @ends_spawn_of_separate runtime hook request h.keyed
    fun parent account hreserves => h.separate hreserves (hfresh parent account hreserves)
  rw [RuntimeCall.step, commitsUnder]
  cases hexec : (RecursiveRuntime.spawn hook request).exec runtime with
  | mk now answer =>
    cases answer with
    | error fault =>
      rw [show now = runtime from (ends_of_error hexec).mp hends]
      simp [Except.toOption]
    | ok result =>
      rcases (ends_of_ok hexec).mp hends with
        ⟨hquiet, habort⟩ | ⟨hstatus, parent, account, hgrew⟩
      · simp only [hquiet.ledger, Except.toOption, Option.map_some]
        by_cases hnone : runtime.results request.requestId = none
        · simp [habort hnone]
        · have hstored : (runtime.results request.requestId).isNone = false := by
            simp [Option.isSome_iff_ne_none, hnone]
          simp [hstored]
      · simp only [Except.toOption, Option.map_some, hstatus, hgrew.reserves.fresh,
          hgrew.reserves.known, Option.isNone_none, Bool.true_and, BEq.rfl, Bool.and_true,
          BudgetLedger.actualOf, hgrew.ledger]
        by_cases hsame : ref = parent.budgetRef
        · subst hsame
          simp [hgrew.reserves.funded]
        · simp [update_of_ne hsame, Ne.symm hsame]

theorem actualOf_step (h : Attenuated runtime) (ref : String) {call : RuntimeCall}
    (hroots : FromRoots runtime call) (hfresh : FreshChild runtime call) :
    (call.step config runtime).ledger.actualOf ref =
      runtime.ledger.actualOf ref + if commitsUnder ref runtime call then 1 else 0 := by
  have hkept {now : RuntimeState} (hledger : now.ledger = runtime.ledger) :
      now.ledger.actualOf ref = runtime.ledger.actualOf ref + 0 := by
    rw [hledger, Nat.add_zero]
  cases call with
  | add actor active =>
    apply hkept
    cases hadd : runtime.states.add actor active with
    | error fault => rw [RuntimeCall.step, exec_changeStates_error hadd]
    | ok states => rw [RuntimeCall.step, exec_changeStates hadd]
  | bind bound providerId maxSpawns =>
    have hunbound : runtime.ledger bound = none := hroots
    rw [RuntimeCall.step, BudgetLedger.actualOf, BudgetLedger.actualOf, BudgetLedger.bind]
    simp only
    by_cases hsame : ref = bound
    · rw [hsame, update_self, hunbound]
      rfl
    · rw [update_of_ne hsame]
      rfl
  | mark actorId lifecycle =>
    exact hkept (keeps_exec (relabelled_setLifecycle runtime actorId lifecycle)
      (.refl runtime)).ledger
  | spawn hook request => exact actualOf_spawn config h ref hfresh
  | cancel fuel actorId reason =>
    exact hkept (keeps_exec (relabelled_cancel runtime config fuel actorId reason)
      (.refl runtime)).ledger
  | replayCancellations =>
    exact hkept (keeps_exec (relabelled_replayCancellations runtime config)
      (.refl runtime)).ledger
  | checkpoint actorId checkpointId =>
    apply hkept
    rw [RuntimeCall.step, RecursiveRuntime.checkpoint]
    cases hget : runtime.states.get actorId with
    | error fault => rw [exec_bind_error (exec_look_error hget)]
    | ok actor => rw [exec_bind_ok (exec_look hget), exec_act]
  | recover predecessorId successorId crash =>
    exact hkept (takesOver_recover config predecessorId successorId crash runtime).ledger
  | replayRecoveries =>
    apply hkept
    apply @replayRecoveries_keeps runtime (fun _ _ _ => True)
      (fun now => now.ledger = runtime.ledger) config
    · intro rows row now hnow _
      exact (takesOver_turn rows row now).ledger.trans hnow
    · rfl
    · intro _
      exact AlongReplay.trivial _ _ runtime

/-! ## The bounds of every run -/

/-- Every actor is bounded by each of its ancestors and by a root that it descends from, is
one deeper than its parent, and every budget counts its committed spawns within its
limit. -/
structure AuthorityBounded (runtime : RuntimeState) (committed : String → ℕ) : Prop where
  ancestors : ∀ actorId actor ancestorId, runtime.states.actors actorId = some actor →
    Relation.TransGen (runtime.states.lineages.ParentOf Lineage.parentActorId) actorId
      ancestorId →
    ∃ ancestor, runtime.states.actors ancestorId = some ancestor ∧
      actor.lineage.Within ancestor.lineage
  root : ∀ actorId actor, runtime.states.actors actorId = some actor →
    ∃ rootId root, runtime.states.actors rootId = some root ∧ root.parentActorId = none ∧
      Relation.ReflTransGen (runtime.states.lineages.ParentOf Lineage.parentActorId) actorId
        rootId ∧
      actor.lineage.Within root.lineage
  depth : ∀ actorId actor parentId, runtime.states.actors actorId = some actor →
    actor.parentActorId = some parentId →
    ∃ parent, runtime.states.actors parentId = some parent ∧ actor.depth = parent.depth + 1
  budget : ∀ ref account, runtime.ledger ref = some account →
    account.reserved + account.actual ≤ account.maxSpawns ∧ account.actual = committed ref

variable {config}

theorem Attenuated.bounded (h : Attenuated runtime) {committed : String → ℕ}
    (hcommitted : ∀ ref, runtime.ledger.actualOf ref = committed ref) :
    AuthorityBounded runtime committed := by
  have habove {actorId ancestorId : String} {actor : ActorState}
      (hactor : runtime.states.actors actorId = some actor)
      (hpath : Relation.ReflTransGen (runtime.states.lineages.ParentOf Lineage.parentActorId)
        actorId ancestorId) :
      ∃ ancestor, runtime.states.actors ancestorId = some ancestor ∧
        actor.lineage.Within ancestor.lineage := by
    obtain ⟨lineage, hlineage, hwithin⟩ := h.sound.below Lineage.Within.refl
      Lineage.Within.trans Lineage.ChildOf.toWithin hpath
      (StateRepository.lineages_of_actor hactor)
    obtain ⟨ancestor, hancestor, rfl⟩ := Option.map_eq_some_iff.mp hlineage
    exact ⟨ancestor, hancestor, hwithin⟩
  refine ⟨?_, ?_, ?_, ?_⟩
  · intro actorId actor ancestorId hactor hpath
    exact habove hactor hpath.to_reflTransGen
  · intro actorId actor hactor
    obtain ⟨rootId, lineage, hpath, hroot, hparentless⟩ :=
      h.rooted actorId actor.lineage (StateRepository.lineages_of_actor hactor)
    obtain ⟨root, hstored, hwithin⟩ := habove hactor hpath
    rw [StateRepository.lineages_of_actor hstored] at hroot
    cases hroot
    exact ⟨rootId, root, hstored, hparentless, hpath, hwithin⟩
  · intro actorId actor parentId hactor hparent
    obtain ⟨lineage, hlineage, hchild⟩ := h.sound actorId actor.lineage parentId
      (StateRepository.lineages_of_actor hactor) hparent
    obtain ⟨parent, hstored, rfl⟩ := Option.map_eq_some_iff.mp hlineage
    exact ⟨parent, hstored, hchild.depth⟩
  · intro ref account haccount
    refine ⟨h.limits ref account haccount, ?_⟩
    rw [← hcommitted ref, BudgetLedger.actualOf, haccount]

theorem attenuated_empty : Attenuated .empty := by
  refine ⟨?_, ?_, ?_, ?_, ?_, ?_, ?_⟩
  · intro actorId actor hactor
    cases hactor
  · intro actorId lineage above hlineage
    cases hlineage
  · intro actorId lineage hlineage
    cases hlineage
  · intro actorId lineage account hlineage
    cases hlineage
  · intro ref account haccount
    cases haccount
  · intro actorId actor childId hactor
    cases hactor
  · intro actorId copy hcopy
    cases hcopy

theorem actualOf_run (ref : String) {start : RuntimeState} (h : Attenuated start)
    {calls : List RuntimeCall} (hroots : Admissible (RuntimeCall.step config) FromRoots start calls)
    (hagree : Admissible (RuntimeCall.step config) ProvidersAgree start calls)
    (hfresh : Admissible (RuntimeCall.step config) FreshChild start calls) :
    Attenuated (run (RuntimeCall.step config) start calls) ∧
      (run (RuntimeCall.step config) start calls).ledger.actualOf ref =
        start.ledger.actualOf ref + committedSpawns config ref start calls := by
  induction calls generalizing start with
  | nil => exact ⟨h, rfl⟩
  | cons call calls ih =>
    obtain ⟨hattenuated, hactual⟩ := ih (h.step config hroots.1 hagree.1 hfresh.1) hroots.2
      hagree.2 hfresh.2
    refine ⟨hattenuated, ?_⟩
    rw [run_cons, hactual, actualOf_step config h ref hroots.1 hfresh.1, committedSpawns,
      Nat.add_assoc]

/-- In every run from roots whose providers are those of their budgets, authority is
attenuated as long as no spawn takes the id of an actor for its child. -/
theorem authority_attenuated (config : RuntimeConfig) (calls : List RuntimeCall)
    (hroots : Admissible (RuntimeCall.step config) FromRoots .empty calls)
    (hagree : Admissible (RuntimeCall.step config) ProvidersAgree .empty calls)
    (hfresh : Admissible (RuntimeCall.step config) FreshChild .empty calls) :
    AuthorityBounded (runtimeRun config calls)
      fun ref => committedSpawns config ref .empty calls := by
  apply (actualOf_run "" attenuated_empty hroots hagree hfresh).1.bounded
  intro ref
  rw [(actualOf_run ref attenuated_empty hroots hagree hfresh).2]
  exact Nat.zero_add _

/-- A root and a child of it. -/
def rootAndChild : List RuntimeCall :=
  [.bind "B1" "provider-canonical" 20, .add (sampleRoot "a") true,
    .spawn .none (sampleRequest "r1" "a" "c")]

theorem authority_attenuated_child :
    (runtimeRun ⟨{"C1"}, true, true⟩ rootAndChild).states.actors "c" ≠ none ∧
      AuthorityBounded (runtimeRun ⟨{"C1"}, true, true⟩ rootAndChild)
        fun ref => committedSpawns ⟨{"C1"}, true, true⟩ ref .empty rootAndChild := by
  refine ⟨by decide +kernel, authority_attenuated ⟨{"C1"}, true, true⟩ rootAndChild ?_ ?_ ?_⟩
  · exact ⟨rfl, ⟨rfl, rfl, rfl⟩, trivial, trivial⟩
  · refine ⟨?_, ?_, trivial, trivial⟩
    · intro actorId actor hactor
      cases hactor
    · intro account haccount
      cases haccount
      rfl
  · refine ⟨trivial, trivial, ?_, trivial⟩
    intro _ _ _
    decide +kernel

/-- A root, a child and a grandchild; then the root takes the id of the child again, for a
child without scopes. -/
def childReplaced : List RuntimeCall :=
  rootAndChild ++ [.spawn .none (sampleRequest "r2" "c" "g"),
    .spawn .none { sampleRequest "r3" "a" "c" with
      childIdentityId := "ID:c2", childNamespace := "ns:c2", requestedScopes := ∅ }]

/-- The grandchild then has a scope that its parent has not. -/
theorem grandchild_unbounded :
    ¬ AuthorityBounded (runtimeRun ⟨{"C1"}, true, true⟩ childReplaced)
      fun ref => committedSpawns ⟨{"C1"}, true, true⟩ ref .empty childReplaced := by
  intro hbounded
  have hscopes : ((runtimeRun ⟨{"C1"}, true, true⟩ childReplaced).states.actors "g").map
      (fun actor => (actor.authority.scopes, actor.parentActorId)) =
        some ({"read"}, some "c") := by decide +kernel
  have hnone : ((runtimeRun ⟨{"C1"}, true, true⟩ childReplaced).states.actors "c").map
      (·.authority.scopes) = some ∅ := by decide +kernel
  obtain ⟨grandchild, hgrandchild, hfields⟩ := Option.map_eq_some_iff.mp hscopes
  simp only [Prod.mk.injEq] at hfields
  obtain ⟨hread, hparent⟩ := hfields
  obtain ⟨child, hchild, hwithin⟩ := hbounded.ancestors "g" grandchild "c" hgrandchild
    (.single ⟨grandchild.lineage, StateRepository.lineages_of_actor hgrandchild, hparent⟩)
  rw [hchild, Option.map_some, Option.some.injEq] at hnone
  have hsubset : grandchild.authority.scopes ⊆ child.authority.scopes := hwithin.scopes
  rw [hread, hnone] at hsubset
  exact absurd hsubset (by decide)

end Calls

end ReisOs.RecursiveRuntime
