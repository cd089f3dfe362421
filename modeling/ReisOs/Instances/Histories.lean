import ReisOs.Instances.ServiceSafety
import ReisOs.Instances.StoreRules
import ReisOs.Kernel.LeaseHistory
import ReisOs.Kernel.SteadyGuard

/-!
# Histories of one process

One binder process at a time makes calls, crashes anywhere, starts again and reads new
clocks, while its leases are issued and withdrawn.  Whatever happens, the columns that
identify a row stay as they were written, leases only move forward, and the guard stays
steady.
-/

namespace ReisOs.Instances

open ReisOs.Core ReisOs.Kernel World Script InstanceStore

/-! ## Records of the registry -/

namespace InstanceStore

variable {store written : InstanceStore}

/-- What the registry says of its rows for good. -/
def records (store : InstanceStore) : List InstanceBinding := store.bindings.map (·.fixed)

/-- The journal stays faithful. -/
def journalRule : Discipline InstanceStore :=
  .alone Journaled (fun _ _ => True) (fun _ => trivial) fun _ _ => trivial

/-- Records are only added. -/
def recordRule : Discipline InstanceStore :=
  .alone (fun _ => True) (fun store later => store.records <+: later.records)
    (fun store => List.prefix_refl store.records) List.IsPrefix.trans

theorem obeys_journal {A : Type} {method : Script InstanceStore InstanceError A}
    (hatomic : method.Atomic)
    (h : ∀ store, Journaled store → Journaled (method.exec store).1) :
    Obeys journalRule method :=
  obeys_of_leaves fun store hstore => hatomic.leaves hstore (h store hstore)

theorem journal_create (binding : InstanceBinding) : Obeys journalRule (create binding) :=
  obeys_journal (atomic_create binding) fun _ h => h.create binding

theorem journal_transition (arguments : Transition) :
    Obeys journalRule (transition arguments) :=
  obeys_journal (atomic_transition arguments) fun _ h => h.transition arguments

theorem journal_commitReplacement (arguments : Replacement) :
    Obeys journalRule (commitReplacement arguments) :=
  obeys_journal (atomic_commitReplacement arguments) fun _ h => h.commitReplacement arguments

theorem records_updated (bindings : List InstanceBinding) (bindingId : String)
    (version : ℕ) (columns : InstanceBinding → InstanceBinding)
    (hcolumns : ∀ binding, (columns binding).fixed = binding.fixed) :
    (updated bindings bindingId version columns).map (·.fixed) = bindings.map (·.fixed) := by
  rw [updated, List.map_map]
  apply List.map_congr_left
  intro binding _
  simp only [Function.comp_apply]
  split
  · exact hcolumns binding
  · rfl

theorem obeys_records {writes : InstanceStore → Except InstanceError InstanceStore}
    (h : ∀ store written, writes store = .ok written →
      store.records <+: written.records) :
    Obeys recordRule (commit writes) := by
  apply obeys_act
  intro store _
  refine ⟨trivial, ?_⟩
  change store.records <+: _
  cases hwritten : writes store with
  | error error => exact List.prefix_refl _
  | ok written => exact h store written hwritten

theorem records_create (binding : InstanceBinding) : Obeys recordRule (create binding) := by
  apply obeys_create
  apply obeys_records
  intro store written hwritten
  rw [(insertCreated_ok hwritten).1, records, records, List.map_append]
  exact List.prefix_append _ _

theorem records_transition (arguments : Transition) :
    Obeys recordRule (transition arguments) := by
  apply obeys_transition
  intro current
  apply obeys_records
  intro store written hwritten
  have hsame : written.records = store.records := by
    rw [(applyTransition_ok hwritten).1]
    exact records_updated _ _ _ _ fun _ => rfl
  exact ⟨[], by rw [hsame, List.append_nil]⟩

theorem records_commitReplacement (arguments : Replacement) :
    Obeys recordRule (commitReplacement arguments) := by
  apply obeys_commitReplacement
  intro predecessor successor
  apply obeys_records
  intro store written hwritten
  have hsame : written.records = store.records := by
    rw [applyReplacement_ok hwritten]
    have hfirst := records_updated store.bindings arguments.predecessorId
      arguments.predecessorExpectedVersion (Replacement.overPredecessor predecessor)
      fun _ => rfl
    have hsecond := records_updated
      (updated store.bindings arguments.predecessorId arguments.predecessorExpectedVersion
        (Replacement.overPredecessor predecessor)) arguments.successorId
      arguments.successorExpectedVersion (arguments.overSuccessor successor) fun _ => rfl
    exact hsecond.trans hfirst
  exact ⟨[], by rw [hsame, List.append_nil]⟩

theorem find?_of_records {later : InstanceStore} {test : InstanceBinding → Bool}
    (htest : ∀ binding, test binding.fixed = test binding)
    (h : store.records <+: later.records) {row : InstanceBinding}
    (hrow : store.bindings.find? test = some row) :
    ∃ row', later.bindings.find? test = some row' ∧ row'.fixed = row.fixed := by
  have hfixed (bindings : List InstanceBinding) :
      (bindings.map (·.fixed)).find? test = (bindings.find? test).map (·.fixed) := by
    rw [List.find?_map]
    congr 2
    funext binding
    exact htest binding
  have hfound : later.records.find? test = some row.fixed := by
    obtain ⟨rest, hrest⟩ := h
    rw [← hrest, List.find?_append, records, hfixed, hrow]
    rfl
  rw [records, hfixed, Option.map_eq_some_iff] at hfound
  exact hfound

end InstanceStore

/-! ## The discipline -/

variable {S A : Type}

/-- The guard is steady, the leases are in order and the journal is faithful. -/
structure Tended (config : BinderConfig S) (world : World S) : Prop where
  steady : Steady config.hazel.identity world.guard
  kept : world.leases.Kept
  journaled : world.store.Journaled

/-- A tended world, whose leases and whose registry's records only grow. -/
def history (config : BinderConfig S) : Discipline (World S) :=
  .alone (Tended config)
    (fun world now => world.store.records <+: now.store.records ∧
      world.leases.Grows now.leases)
    (fun world => ⟨List.prefix_refl _, .refl world.leases⟩)
    (fun h hnext => ⟨h.1.trans hnext.1, h.2.trans hnext.2⟩)

section Steps

variable {config : BinderConfig S} {world : World S}

theorem history_tick : Obeys (history config) tick := by
  apply obeys_act
  intro now hnow
  exact ⟨⟨hnow.steady, hnow.kept, hnow.journaled⟩, (history config).refl now⟩

theorem history_finalize (leaseId : String) : Obeys (history config) (finalize leaseId) := by
  apply obeys_act
  intro now hnow
  cases hfinalize : now.leases.finalize leaseId with
  | error error => exact ⟨hnow, (history config).refl now⟩
  | ok answer =>
    obtain ⟨leases, state⟩ := answer
    have hmove := AuthorityLeaseManager.LeaseMove.of_finalize (P := String) hfinalize
    exact ⟨⟨hnow.steady, hmove.kept hnow.kept, hnow.journaled⟩, List.prefix_refl _,
      AuthorityLeaseManager.grows_finalize hfinalize⟩

theorem history_reserveUse (now later : Time) (envelope : AuthorizedActionEnvelope String) :
    Obeys (history config) (reserveUse now later envelope) := by
  apply obeys_act
  intro world hworld
  rcases hreserve : world.leases.reserveUse now later envelope with ⟨leases, answer⟩
  have hmove := AuthorityLeaseManager.LeaseMove.of_reserveUse hreserve
  have hkept : (history config).Inv { world with leases := leases } :=
    ⟨hworld.steady, hmove.kept hworld.kept, hworld.journaled⟩
  have hgrows : (history config).Grows world { world with leases := leases } :=
    ⟨List.prefix_refl _, AuthorityLeaseManager.grows_reserveUse hreserve⟩
  cases answer with
  | error reason => exact ⟨hkept, hgrows⟩
  | ok use => exact ⟨hkept, hgrows⟩

theorem history_onStore {method : Script InstanceStore InstanceError A}
    (hjournal : Obeys journalRule method)
    (hrecords : Obeys recordRule method) :
    Obeys (history config) (onStore method) := by
  apply Obeys.on _ _ _ (hjournal.both hrecords)
  · intro now hnow
    exact ⟨hnow.journaled, trivial⟩
  · rintro now _ rfl
    exact ⟨rfl, rfl⟩
  · intro now store hnow hjournaled hgrows
    exact ⟨⟨hnow.steady, hnow.kept, hjournaled.1⟩, hgrows.2, .refl now.leases⟩

theorem history_create (binding : InstanceBinding) :
    Obeys (history config) (onStore (create binding)) :=
  history_onStore (journal_create binding) (records_create binding)

theorem history_transition (arguments : InstanceStore.Transition) :
    Obeys (history config) (onStore (transition arguments)) :=
  history_onStore (journal_transition arguments)
    (records_transition arguments)

theorem history_onGuard {E : Type} {lift : E → InstanceError}
    {call : IdentityKernelGuard → IdentityKernelGuard × Except E A}
    (Post : A → IdentityKernelGuard → Prop) (hworld : (history config).Inv world)
    (hsteady : Steady config.hazel.identity (call world.guard).1)
    (hanswer : ∀ value, (call world.guard).2 = .ok value → Post value (call world.guard).1) :
    (onGuard lift call : Service S A).Safe (history config)
      (fun value now => Post value now.guard) world := by
  apply safe_act
  rintro now - rfl
  revert hsteady hanswer
  rcases call world.guard with ⟨guard, outcome⟩
  intro hsteady hanswer
  cases outcome with
  | error error =>
    refine ⟨⟨hsteady, hworld.kept, hworld.journaled⟩,
      ⟨List.prefix_refl _, .refl world.leases⟩, ?_⟩
    intro value hok
    cases hok
  | ok value =>
    refine ⟨⟨hsteady, hworld.kept, hworld.journaled⟩,
      ⟨List.prefix_refl _, .refl world.leases⟩, ?_⟩
    intro other hok
    cases hok
    exact hanswer value rfl

theorem history_recoverState (arguments : RecoverArguments) :
    Obeys (history config) (recoverState config arguments) := by
  constructor
  intro world hworld
  unfold World.recoverState
  apply (history_onGuard (fun active guard => HazelBoundContinuity.Admits
    config.hazel.identity guard active) hworld
    (HazelBoundContinuity.recoverCall_steady hworld.steady arguments) _).bind hworld
  · intro active now hnow _ hadmits
    apply safe_read_bind
    rintro later - rfl
    apply history_onGuard (fun _ _ => True) hnow
    · unfold HazelBoundContinuity.recoverReturn
      split
      · exact hnow.steady
      · split
        · exact hnow.steady
        · exact (hadmits.log ..).steady
    · intro record _
      trivial
  · intro active hok
    exact (HazelBoundContinuity.recoverCall_admitted hworld.steady (Prod.ext rfl hok)).2.2

theorem history_persistState (arguments : PersistArguments (HazelPayload S)) :
    Obeys (history config) (persistState config arguments) := by
  constructor
  intro world hworld
  unfold persistState
  have hrequest : Steady config.hazel.identity
      (HazelBoundContinuity.persistRequest config.hazel world.guard arguments).1 := by
    rw [HazelBoundContinuity.persistRequest, HazelBoundContinuity.requireAuthority_fst]
    exact hworld.steady.requireValid ..
  apply (history_onGuard (fun active guard => HazelBoundContinuity.Admits
    config.hazel.identity guard active) hworld hrequest _).bind hworld
  · intro active now hnow _ hadmits
    have htransport : (transportPersist config
        (HazelBoundContinuity.envelope config.hazel active arguments)).Safe (history config)
        (fun _ later => HazelBoundContinuity.Admits config.hazel.identity later.guard active)
        now := by
      apply safe_act
      rintro later hlater rfl
      exact ⟨⟨hlater.steady, hlater.kept, hlater.journaled⟩, (history config).refl now,
        fun _ _ => hadmits⟩
    apply htransport.bind hnow
    intro answer later hlater _ hadmits
    apply history_onGuard (fun _ _ => True) hlater
    · unfold HazelBoundContinuity.persistReturn
      split
      · exact hlater.steady
      · split
        · exact hlater.steady
        · exact (hadmits.log ..).steady
    · intro receipt _
      trivial
  · intro active hok
    exact (HazelBoundContinuity.requireAuthority_admitted hworld.steady (Prod.ext rfl hok)).2.2

instance : Allows (history config) where
  tick := history_tick
  finalize := history_finalize
  reserveUse := history_reserveUse
  commit {writes} h := by
    apply history_onStore
    · apply obeys_journal (atomic_commit writes)
      intro store hstore
      unfold commit
      rw [exec_act]
      cases hwritten : writes store with
      | error error => exact hstore
      | ok written =>
        obtain ⟨hbindings, hjournal⟩ := h store written hwritten
        exact hstore.congr hbindings hjournal
    · apply obeys_records
      intro store written hwritten
      have hsame : written.records = store.records := by
        rw [records, records, (h store written hwritten).1]
      exact ⟨[], by rw [hsame, List.append_nil]⟩
  create binding _ := history_create binding
  transition arguments _ _ := history_transition arguments
  commitReplacement arguments :=
    history_onStore (journal_commitReplacement arguments)
      (records_commitReplacement arguments)

instance : AllowsHazel (history config) config where
  recoverState := history_recoverState
  persistState arguments _ := history_persistState arguments

/-! ## Preparing -/

theorem history_requireValid (runId expectedOcs : String)
    (trigger : IdentityRecheckTrigger) (host : Option String) :
    Obeys (history config) (onGuard .kernel
      (·.requireValid config.hazel.identity runId expectedOcs trigger host)) := by
  constructor
  intro world hworld
  exact history_onGuard (fun _ _ => True) hworld (hworld.steady.requireValid ..) fun _ _ => trivial

theorem history_activeIdentity (request : PrepareInstanceRequest) (runId : String) :
    Obeys (history config) (activeIdentity config request runId) := by
  unfold activeIdentity
  apply (obeys_read _).bind
  intro found
  cases found with
  | some active => exact history_requireValid ..
  | none =>
    apply AllowsOwn.tick.bind
    intro now
    apply Obeys.bind _ fun _ => history_requireValid ..
    constructor
    intro world hworld
    apply history_onGuard (fun _ _ => True) hworld
    · split
      · exact hworld.steady
      · rename_i bound hbound
        exact hworld.steady.bindActiveIdentity hbound
    · intro _ _
      trivial

instance : AllowsPreparation (history config) config where
  create := history_create
  transition := history_transition
  persistState := history_persistState
  activeIdentity := history_activeIdentity

end Steps

/-! ## Runs -/

/-- What can happen next to a process. -/
inductive Happening (S : Type) where
  /-- A call runs to its end, whatever it answers. -/
  | call (made : Call S)
  /-- A call is cut short after a number of steps. -/
  | crash (made : Call S) (steps : ℕ)
  /-- The process starts again on its identity log. -/
  | restart
  | issue (now : Time) (lease : AuthorityLease)
  | revoke (leaseId : String)
  | release (leaseId : String)
  | clock (readings : ℕ → Time)

/-- The manager after an operation that may be refused. -/
def afterLeases (manager : AuthorityLeaseManager)
    (answer : Except PyError AuthorityLeaseManager) : AuthorityLeaseManager :=
  answer.toOption.getD manager

def happen [DecidableEq S] (config : BinderConfig S) (folding : TextFolding)
    (world : World S) : Happening S → World S
  | .call made => ((made.script config folding).exec world).1
  | .crash made steps => (made.script config folding).crashed steps world
  | .restart => { world with guard := .restart world.guard.auditLog }
  | .issue now lease =>
    { world with leases := afterLeases world.leases (world.leases.issue now lease) }
  | .revoke leaseId =>
    { world with leases := afterLeases world.leases (world.leases.revoke leaseId) }
  | .release leaseId =>
    { world with leases := afterLeases world.leases (world.leases.release leaseId) }
  | .clock readings => { world with clock := readings }

/-- An empty registry, an empty Hazel and a process that has done nothing. -/
def idleWorld : World S := ⟨.empty, ∅, .empty, .restart [], fun _ => 0⟩

/-- The world that a process alone has got to. -/
def reachedAlone [DecidableEq S] (config : BinderConfig S) (folding : TextFolding)
    (happenings : List (Happening S)) : World S :=
  run (happen config folding) idleWorld happenings

/-- The invariants of every world that a process reaches alone. -/
structure Sane (config : BinderConfig S) (world : World S) : Prop where
  history : (history config).Inv world
  registry : registry.Inv world

/-- `later` is a later state of the world. -/
structure Continues (config : BinderConfig S) (world later : World S) : Prop where
  history : (history config).Grows world later
  registry : registry.Grows world later

section Runs

variable {config : BinderConfig S} {world middle later : World S}

theorem Continues.refl (world : World S) : Continues config world world :=
  ⟨Discipline.refl _ world, Discipline.refl _ world⟩

theorem Continues.trans (h : Continues config world middle)
    (hnext : Continues config middle later) : Continues config world later :=
  ⟨Discipline.trans _ h.history hnext.history, Discipline.trans _ h.registry hnext.registry⟩

theorem idleWorld_sane (config : BinderConfig S) : Sane config idleWorld where
  history := ⟨restart_steady IdentityAuditLog.nil_sound, AuthorityLeaseManager.empty_kept,
    empty_journaled⟩
  registry := ⟨lineages_empty, by simp [parts, idleWorld,
    IdentityKernelGuard.restart], by simp [parts, idleWorld, IdentityKernelGuard.restart]⟩

theorem Sane.withLeases (h : Sane config world) {leases : AuthorityLeaseManager}
    (hkept : leases.Kept) (hgrows : world.leases.Grows leases) :
    Sane config { world with leases := leases } ∧
      Continues config world { world with leases := leases } :=
  ⟨⟨⟨h.history.steady, hkept, h.history.journaled⟩, h.registry⟩, ⟨List.prefix_refl _, hgrows⟩,
    Discipline.refl World.registry world⟩

theorem Sane.afterLeases (h : Sane config world)
    {answer : Except PyError AuthorityLeaseManager}
    (hanswer : ∀ leases, answer = .ok leases →
      AuthorityLeaseManager.LeaseMove (P := String) world.leases leases ∧
        world.leases.Grows leases) :
    Sane config { world with leases := afterLeases world.leases answer } ∧
      Continues config world
        { world with leases := Instances.afterLeases world.leases answer } := by
  cases answer with
  | error error => exact ⟨h, .refl world⟩
  | ok leases =>
    obtain ⟨hmove, hgrows⟩ := hanswer leases rfl
    exact h.withLeases (hmove.kept h.history.kept) hgrows

theorem Sane.happen [DecidableEq S] (folding : TextFolding) (h : Sane config world)
    (next : Happening S) :
    Sane config (happen config folding world next) ∧
      Continues config world (Instances.happen config folding world next) := by
  have hhistory (made : Call S) :
      Obeys (Instances.history config) (made.script config folding) :=
    obeys_script config folding obeys_preparation made
  have hregistry (made : Call S) : Obeys World.registry (made.script config folding) :=
    obeys_script config folding (obeys_prepare config) made
  cases next with
  | call made =>
    have hends := (hhistory made).exec h.history
    have hkeeps := (hregistry made).exec h.registry
    exact ⟨⟨hends.1, hkeeps.1⟩, hends.2, hkeeps.2⟩
  | crash made steps =>
    have hends := (hhistory made).crashed h.history steps
    have hkeeps := (hregistry made).crashed h.registry steps
    exact ⟨⟨hends.1, hkeeps.1⟩, hends.2, hkeeps.2⟩
  | restart =>
    exact ⟨⟨⟨h.history.steady.restart, h.history.kept, h.history.journaled⟩,
      h.registry.1, h.registry.2.restart⟩,
      Discipline.refl (Instances.history config) world, Discipline.refl World.registry world⟩
  | issue now lease =>
    apply h.afterLeases
    intro leases hissue
    exact ⟨.of_issue hissue,
      AuthorityLeaseManager.grows_issue h.history.kept.metered hissue⟩
  | revoke leaseId =>
    apply h.afterLeases
    intro leases hrevoke
    exact ⟨.of_revoke hrevoke, AuthorityLeaseManager.grows_revoke hrevoke⟩
  | release leaseId =>
    apply h.afterLeases
    intro leases hrelease
    exact ⟨.of_release hrelease, AuthorityLeaseManager.grows_release hrelease⟩
  | clock readings =>
    exact ⟨⟨⟨h.history.steady, h.history.kept, h.history.journaled⟩, h.registry⟩,
      Discipline.refl (Instances.history config) world, Discipline.refl World.registry world⟩

theorem Sane.run [DecidableEq S] (folding : TextFolding) (h : Sane config world)
    (happenings : List (Happening S)) :
    Sane config (Core.run (Instances.happen config folding) world happenings) ∧
      Continues config world (Core.run (Instances.happen config folding) world happenings) :=
  run_invariant (fun now => Sane config now ∧ Continues config world now)
    (fun _ next hnow => ⟨(hnow.1.happen folding next).1,
      hnow.2.trans (hnow.1.happen folding next).2⟩) ⟨h, .refl world⟩ happenings

theorem reachedAlone_sane [DecidableEq S] (config : BinderConfig S) (folding : TextFolding)
    (happenings : List (Happening S)) :
    Sane config (reachedAlone config folding happenings) :=
  ((idleWorld_sane config).run folding happenings).1

end Runs

/-! ## A small deployment -/

/-- The clock runs, and a lease to bind one instance is issued. -/
def sofiaStart : List (Happening ℕ) :=
  [.clock fun index => 10 + index,
    .issue 5 (sofiaLease "lease:bind" "ocs_instance_binding" 1 100)]

/-- The request that binds the first instance. -/
def sofiaFirst : PrepareInstanceRequest := sofiaRequest "lease:bind" "key:prepare" none

/-- Its binding. -/
def sofiaBinding : String := sofiaConfig.bindingId sofiaFirst

def sofiaAttach : AttachCall :=
  ⟨sofiaBinding, ⟨"worker", "SOFIA"⟩, 2, "key:attach"⟩

/-- The answer of a worker that was handed the envelope of the first instance. -/
def sofiaAck : BootstrapAck :=
  { bindingId := sofiaBinding, platformInstanceId := "worker", generation := 1
    bootstrapHash := withNumber s!"{sofiaBinding}/unverified" 12
    identityBindingHash := withNumber "run:REIS OS/org/mission/SOFIA" 11
    challengeNonce := "key:prepare/lease:bind", idempotencyKey := "key:ack" }

end ReisOs.Instances
