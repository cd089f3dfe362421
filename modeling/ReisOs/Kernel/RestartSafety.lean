import ReisOs.Kernel.StateEffects

/-!
# Commits across restarts

The id of a commit is built from a counter that begins again in every runtime
object, while the store lives on.  Within one runtime the counter separates the
commits; a commit of a later runtime is fresh as long as no earlier runtime has
committed under the number that the later one draws.
-/

namespace ReisOs.Kernel

open ReisOs.Core

variable {P : Type}

/-- A store without records, in memory or over an empty database. -/
def StateCore.blank (durable : Bool) : StateCore P :=
  ⟨∅, ∅, if durable then some [] else none⟩

theorem StateCore.blank_mentions (durable : Bool) (stateId : String) :
    ¬ (blank durable : StateCore P).Mentions stateId := by
  rintro (hmemory | ⟨database, hport, row, hrow, -⟩)
  · simp [blank] at hmemory
  · cases durable with
    | false => cases hport
    | true =>
      cases hport
      cases hrow

theorem StateCore.WriteMove.mentions {core core' : StateCore P} {record : StateRecord P}
    {check : ReadbackCheck P} {answer : Except PyError (StateRecord P)}
    (hmove : WriteMove core record check core' answer)
    (hcheck : ∀ error, check record ≠ .error error) {stateId : String}
    (h : core'.Mentions stateId) :
    core.Mentions stateId ∨ stateId = record.stateId ∧ answer.isOk = true := by
  cases hmove with
  | refused => exact .inl h
  | failed error hrecords hcurrent hmentions =>
    rcases hmentions stateId h with hbefore | ⟨-, raised, hraised⟩
    · exact .inl hbefore
    · exact absurd hraised (hcheck raised)
  | installed hrecords hcurrent hmentions =>
    exact (hmentions stateId h).imp_right fun hid => ⟨hid, rfl⟩

theorem StateCore.WriteMove.mentions_of_ne {core core' : StateCore P}
    {record : StateRecord P} {check : ReadbackCheck P}
    {answer : Except PyError (StateRecord P)}
    (hmove : WriteMove core record check core' answer) {stateId : String}
    (hother : stateId ≠ record.stateId) (h : core'.Mentions stateId) :
    core.Mentions stateId := by
  cases hmove with
  | refused => exact h
  | failed error hrecords hcurrent hmentions =>
    exact (hmentions stateId h).resolve_right fun hid => hother hid.1
  | installed hrecords hcurrent hmentions =>
    exact (hmentions stateId h).resolve_right hother

namespace UniversalKernelRuntime

/-- Every commit tried to store its record under an id unused in its store. -/
def CommitsFresh (k : UniversalKernelRuntime P) : Prop :=
  ∀ call ∈ k.history.stateWrites, ¬ call.before.Mentions call.record.stateId

instance (k : UniversalKernelRuntime P) : Decidable (CommitsFresh k) :=
  inferInstanceAs (Decidable (∀ call ∈ k.history.stateWrites, _))

/-- A call does not draw the number of a commit of an earlier runtime for the same
OCS, and other writers stay away from the ids of commits. -/
def Unreused (k : UniversalKernelRuntime P) : KernelOp P → Prop
  | .execute p _ => ∀ call ∈ k.history.stateWrites, call.committed = true →
      call.runtime ≠ k.serial → call.record.stateId ≠ stateId p.ocs (k.seq + 7)
  | .writeState record _ _ => ∀ ocs number, record.stateId ≠ stateId ocs number
  | _ => True

/-- Every id of a commit in the store was committed in the run, and this runtime's
commits carry numbers its counter has passed. -/
structure Accounted (k : UniversalKernelRuntime P) : Prop where
  committed : ∀ ocs number, k.state.Mentions (stateId ocs number) →
    ∃ call ∈ k.history.stateWrites, call.committed = true ∧
      call.record.stateId = stateId ocs number
  numbered : ∀ call ∈ k.history.stateWrites, call.runtime = k.serial →
    ∃ ocs number, call.record.stateId = stateId ocs number ∧ number ≤ k.seq
  serials : ∀ call ∈ k.history.stateWrites, call.runtime ≤ k.serial
  fresh : CommitsFresh k

variable {k k' : UniversalKernelRuntime P}

theorem Accounted.frame (h : Accounted k)
    (hmentions : ∀ ocs number, k'.state.Mentions (stateId ocs number) →
      k.state.Mentions (stateId ocs number))
    (hseq : k.seq ≤ k'.seq) (hserial : k'.serial = k.serial)
    (hwrites : k'.history.stateWrites = k.history.stateWrites) : Accounted k' where
  committed ocs number hid := by
    rw [hwrites]
    exact h.committed ocs number (hmentions ocs number hid)
  numbered call hcall hruntime := by
    rw [hwrites] at hcall
    rw [hserial] at hruntime
    obtain ⟨ocs, number, hid, hle⟩ := h.numbered call hcall hruntime
    exact ⟨ocs, number, hid, hle.trans hseq⟩
  serials call hcall := by
    rw [hwrites] at hcall
    rw [hserial]
    exact h.serials call hcall
  fresh := by
    rw [CommitsFresh, hwrites]
    exact h.fresh

theorem Accounted.constructed (h : Accounted k) {state : StateCore P}
    (hmentions : ∀ ocs number, state.Mentions (stateId ocs number) →
      k.state.Mentions (stateId ocs number)) (parts : RuntimeParts P) :
    Accounted (constructed state parts (k.serial + 1) k.history) where
  committed ocs number hid := h.committed ocs number (hmentions ocs number hid)
  numbered call hcall hruntime := by
    have hle := h.serials call hcall
    simp only [UniversalKernelRuntime.constructed] at hruntime
    omega
  serials call hcall := (h.serials call hcall).trans (Nat.le_succ _)
  fresh := h.fresh

variable [DecidableEq P] {config : RuntimeConfig P}

theorem Accounted.execute (h : Accounted k) (p : ActionProposal P)
    (answers : Point → StepEnv P) (hunreused : Unreused k (.execute p answers)) :
    Accounted (k.execute config p answers).1 := by
  cases execute_state config p answers k with
  | kept hkept hseq =>
    exact h.frame (fun _ _ hid => hkept.state ▸ hid) hseq hkept.serial hkept.stateWrites
  | recovered checkpoints recoveryRef restored _ _ _ htarget hstate hseq hserial hwrites =>
    refine h.frame (fun ocs number hid => ?_) hseq hserial hwrites
    rw [hstate] at hid
    have hmove := (StateCore.write_move config.codec k.state restored
      (fun stored => .ok (stored = restored)) (StateCore.restoreContext restored)).1
    obtain ⟨checkpointId, version, hrestored⟩ := recoveryTarget_stateId htarget
    refine hmove.mentions_of_ne ?_ hid
    rw [hrestored]
    exact Ne.symm (recoveryId_ne_stateId _ _ _ _)
  | committed envelope record hid hocs hstate hseq hserial hwrites =>
    have hmove := (StateCore.write_move config.codec k.state record
      (fun stored => .ok (stored = record)) (writeContext p envelope record)).1
    have hunused : ¬ k.state.Mentions record.stateId := by
      intro hmentions
      rw [hid] at hmentions
      obtain ⟨call, hcall, hcommitted, hsame⟩ := h.committed _ _ hmentions
      by_cases hruntime : call.runtime = k.serial
      · obtain ⟨ocs, number, hnumber, hle⟩ := h.numbered call hcall hruntime
        have hnumbers := (stateId_inj (hsame.symm.trans hnumber)).2
        omega
      · exact hunreused call hcall hcommitted hruntime hsame
    constructor
    · intro ocs number hmentions
      rw [hstate] at hmentions
      rw [hwrites]
      rcases hmove.mentions nofun hmentions with hbefore | ⟨hsame, hok⟩
      · obtain ⟨call, hcall, hcommitted⟩ := h.committed ocs number hbefore
        exact ⟨call, List.mem_append_left _ hcall, hcommitted⟩
      · exact ⟨_, List.mem_append_right _ (List.mem_singleton_self _), hok, hsame.symm⟩
    · intro call hcall hruntime
      rw [hwrites, List.mem_append, List.mem_singleton] at hcall
      rw [hserial] at hruntime
      rcases hcall with hold | rfl
      · obtain ⟨ocs, number, hnumber, hle⟩ := h.numbered call hold hruntime
        exact ⟨ocs, number, hnumber, by omega⟩
      · exact ⟨p.ocs, k.seq + 7, hid, hseq⟩
    · intro call hcall
      rw [hwrites, List.mem_append, List.mem_singleton] at hcall
      rw [hserial]
      rcases hcall with hold | rfl
      · exact h.serials call hold
      · exact le_rfl
    · intro call hcall
      rw [hwrites, List.mem_append, List.mem_singleton] at hcall
      rcases hcall with hold | rfl
      · exact h.fresh call hold
      · exact hunused

theorem Accounted.restoreState (h : Accounted k) (checkpoint : VerifiedCheckpoint P) :
    Accounted (k.operate config (.restoreState checkpoint)) := by
  refine h.frame (fun ocs number hid => ?_) le_rfl rfl rfl
  simp only [operate, StateCore.restoreVerified] at hid
  cases htarget : k.state.restoreTarget config.codec checkpoint with
  | error error => simpa only [htarget] using hid
  | ok restored =>
    simp only [htarget] at hid
    have hmove := (StateCore.write_move config.codec k.state restored
      (fun stored => .ok (stored = restored)) (StateCore.restoreContext restored)).1
    obtain ⟨version, hrestored⟩ := restoreTarget_stateId htarget
    refine hmove.mentions_of_ne ?_ hid
    rw [hrestored]
    exact Ne.symm (recoveryId_ne_stateId _ _ _ _)

theorem Accounted.operate (h : Accounted k) {op : KernelOp P} (hop : Unreused k op) :
    Accounted (k.operate config op) := by
  have hsame {k' : UniversalKernelRuntime P} (hstate : k'.state = k.state)
      (hseq : k'.seq = k.seq) (hserial : k'.serial = k.serial)
      (hwrites : k'.history.stateWrites = k.history.stateWrites) : Accounted k' :=
    h.frame (fun _ _ hid => hstate ▸ hid) hseq.ge hserial hwrites
  have hleases (answer : Except PyError AuthorityLeaseManager) :
      Accounted (k.leasesAfter answer) := by
    cases answer with
    | error _ => exact h
    | ok leases => exact hsame rfl rfl rfl rfl
  cases op with
  | execute p answers => exact h.execute p answers hop
  | issue | revoke | release | finalizeLease => exact hleases _
  | registerCheckpoint recoveryRef checkpoint =>
    simp only [UniversalKernelRuntime.operate]
    split
    · exact h
    · split
      · exact h
      · exact hsame rfl rfl rfl rfl
  | writeState record check context =>
    refine h.frame (fun ocs number hid => ?_) le_rfl rfl rfl
    have hmove := (StateCore.write_move config.codec k.state record check context).1
    exact hmove.mentions_of_ne (hop ocs number).symm hid
  | restoreState checkpoint => exact h.restoreState checkpoint
  | replaceContext items =>
    simp only [UniversalKernelRuntime.operate]
    split
    · exact hsame rfl rfl rfl rfl
    · exact h
  | identity => exact hsame rfl rfl rfl rfl
  | construct parts => exact h.constructed (fun _ _ hid => hid) parts
  | reload parts =>
    simp only [UniversalKernelRuntime.operate]
    split
    · exact h
    · rename_i database hport
      split
      · exact h
      · rename_i state hstate
        have hloaded := (StateCore.reload_mentions hstate).2
        exact h.constructed
          (fun _ _ hid => .inr ⟨database, hport, hloaded _ hid⟩) parts

omit [DecidableEq P] in
theorem blank_accounted (durable : Bool) (trace : TraceCore) (guard : IdentityKernelGuard)
    (recovery : Option (Checkpoints P)) (contextItems : List ContextItem) :
    Accounted (fresh (.blank durable) trace guard recovery contextItems) where
  committed _ _ hid := absurd hid (StateCore.blank_mentions durable _)
  numbered := by simp [fresh, UniversalKernelRuntime.constructed]
  serials := by simp [fresh, UniversalKernelRuntime.constructed]
  fresh := by simp [CommitsFresh, fresh, UniversalKernelRuntime.constructed]

/-- In a run across any number of restarts, over one store in memory or over one
database, every commit uses a fresh id if no call draws the number of an earlier
runtime's commit for its OCS. -/
theorem commitsFresh_of_unreused (config : RuntimeConfig P) (durable : Bool)
    (trace : TraceCore) (guard : IdentityKernelGuard) (recovery : Option (Checkpoints P))
    (contextItems : List ContextItem) (ops : List (KernelOp P))
    (hops : Admissible (operate config) Unreused
      (fresh (.blank durable) trace guard recovery contextItems) ops) :
    CommitsFresh
      (run (operate config) (fresh (.blank durable) trace guard recovery contextItems) ops) := by
  have haccounted := run_invariant_of_admissible Accounted
    (fun _ _ h hop => Accounted.operate h hop) (blank_accounted ..) hops
  exact haccounted.fresh

/-- New objects around the store, with an empty lease manager. -/
def newParts : RuntimeParts ℕ := ⟨.empty, ∅, .empty, .restart [], none, []⟩

/-- The fixture's proposal as the next action of a run. -/
def secondAction : ActionProposal ℕ :=
  { Fixture.proposal with actionId := "action-2", idempotencyKey := some "key-2" }

/-- One commit before and one after a restart. -/
def restarted (restart : KernelOp ℕ) : List (KernelOp ℕ) :=
  [.issue 100 Fixture.lease, .execute Fixture.proposal Fixture.good, restart,
    .issue 100 Fixture.lease, .execute secondAction Fixture.good]

/-- A denied call before the first commit shifts its number away from the one that
the restarted runtime draws. -/
theorem commitsFresh_shifted_restart :
    CommitsFresh
      (run (operate Fixture.config) (fresh (.blank true) .empty (.restart []) none [])
        (.execute Fixture.proposal Fixture.good :: restarted (.reload newParts))) := by
  refine commitsFresh_of_unreused Fixture.config true _ _ _ _ _
    ⟨?_, trivial, ?_, trivial, trivial, ?_, trivial⟩
  all_goals
    change ∀ call ∈ _, _
    decide

/-- A restart over the same store: in memory the second commit overwrites the first
record, which is its own predecessor; over a database it fails on the primary key
after the effect. -/
theorem restart_reuses_state_id :
    let memory := run (operate Fixture.config)
      (fresh (.blank false) .empty (.restart []) none []) (restarted (.construct newParts))
    let durable := run (operate Fixture.config)
      (fresh (.blank true) .empty (.restart []) none []) (restarted (.reload newParts))
    memory.state.current "SOFIA" =
        .ok (some ⟨"state:SOFIA:7", "SOFIA", 2, some "state:SOFIA:7", 7, true⟩) ∧
      ¬ CommitsFresh memory ∧
      (durable.history.mutateCalls.map (·.completed) = [true, true]) ∧
      (durable.history.stateWrites.map fun call =>
        (call.record.stateId, call.outcome.toOption.isSome)) =
        [("state:SOFIA:7", true), ("state:SOFIA:7", false)] ∧
      ¬ CommitsFresh durable := by
  exact ⟨rfl, by decide, by decide, by decide, by decide⟩

end UniversalKernelRuntime

end ReisOs.Kernel
