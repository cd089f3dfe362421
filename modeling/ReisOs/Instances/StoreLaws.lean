import ReisOs.Core.Fallible
import ReisOs.Core.Journals
import ReisOs.Instances.Store

/-!
# What the registry's calls can do

One lemma for each write and each method: it raises and changes nothing, it answers
from what is stored, or it commits exactly the rows given here.
-/

namespace ReisOs.Instances.InstanceStore

open ReisOs.Core ReisOs.Kernel

variable {store written : InstanceStore} {binding : InstanceBinding} {entry : JournalEntry}

/-! ## Writes -/

@[simp]
theorem event_bindingId (binding : InstanceBinding) (eventType : String)
    (fromStatus : Option InstanceStatus) (idempotencyKey : String)
    (payload : JournalPayload) :
    (event binding eventType fromStatus idempotencyKey payload).bindingId =
      binding.bindingId := rfl

theorem appendEvent_ok (h : store.appendEvent entry = .ok written) :
    written = { store with journal := store.journal ++ [entry] } ∧
      ∀ other ∈ store.journal, other.idempotencyKey ≠ entry.idempotencyKey := by
  unfold appendEvent at h
  split at h
  · cases h
  · rename_i hfree
    cases h
    refine ⟨rfl, fun other hother hsame => hfree ?_⟩
    exact List.any_eq_true.mpr ⟨other, hother, by simp [hsame]⟩

theorem insertRow_ok (h : store.insertRow binding = .ok written) :
    written = { store with bindings := store.bindings ++ [binding] } ∧
      ∀ other ∈ store.bindings, clashes binding other = false := by
  unfold insertRow at h
  split at h
  · cases h
  · rename_i hfree
    cases h
    refine ⟨rfl, fun other hother => ?_⟩
    simpa using fun hclash => hfree (List.any_eq_true.mpr ⟨other, hother, hclash⟩)

variable {columns : InstanceBinding → InstanceBinding}

theorem updateRow_ok {bindingId : String} {version : ℕ}
    (h : store.updateRow bindingId version columns = .ok written) :
    written = { store with bindings := updated store.bindings bindingId version columns } ∧
      ∃ binding ∈ store.bindings, binding.bindingId = bindingId ∧
        binding.version = version := by
  unfold updateRow at h
  split at h
  · rename_i hfound
    cases h
    obtain ⟨binding, hbinding, hmatches⟩ := List.any_eq_true.mp hfound
    exact ⟨rfl, binding, hbinding, by simpa using hmatches⟩
  · cases h

theorem insertCreated_ok (h : insertCreated binding store = .ok written) :
    written = { store with
        bindings := store.bindings ++ [binding]
        journal := store.journal ++ [event binding "OCS_INSTANCE_PREPARED" none
          s!"{binding.idempotencyKey}:prepared" (.created binding.profileHash)] } ∧
      ∀ other ∈ store.bindings, clashes binding other = false := by
  obtain ⟨inserted, hinsert, hjournal⟩ := bind_eq_ok h
  obtain ⟨rfl, hfree⟩ := insertRow_ok hinsert
  obtain ⟨rfl, -⟩ := appendEvent_ok hjournal
  exact ⟨rfl, hfree⟩

theorem applyTransition_ok {arguments : Transition} {current : InstanceBinding}
    (h : applyTransition arguments current store = .ok written) :
    written = { store with
        bindings := updated store.bindings arguments.bindingId arguments.expectedVersion
          (arguments.overRow current)
        journal := store.journal ++ [event (arguments.columns current)
          arguments.eventType (some current.status) arguments.idempotencyKey
          arguments.requestedPayload] } ∧
      store.platformTaken arguments.bindingId
        (arguments.columns current).platformInstanceId = false := by
  obtain ⟨moved, hmoved, hjournal⟩ := bind_eq_ok h
  obtain ⟨rfl, -⟩ := updateRow_ok hmoved
  split at hjournal
  · cases hjournal
  · rename_i hfree
    obtain ⟨rfl, -⟩ := appendEvent_ok hjournal
    exact ⟨rfl, by simpa using hfree⟩

theorem applyReplacement_ok {arguments : Replacement}
    {predecessor successor : InstanceBinding}
    (h : applyReplacement arguments predecessor successor store = .ok written) :
    written = { store with
        bindings := updated
          (updated store.bindings arguments.predecessorId
            arguments.predecessorExpectedVersion
            (Replacement.overPredecessor predecessor))
          arguments.successorId arguments.successorExpectedVersion
          (arguments.overSuccessor successor)
        journal := store.journal ++
          [event (Replacement.replaced predecessor) "OCS_INSTANCE_REPLACED"
            (some predecessor.status) arguments.idempotencyKey arguments.replayPayload] ++
          [event (arguments.persisted successor) "OCS_REPLACEMENT_PERSISTED"
            (some successor.status) s!"{arguments.idempotencyKey}:successor"
            (.successor arguments.predecessorId arguments.checkpointVersion)] } := by
  obtain ⟨first, hfirst, h⟩ := bind_eq_ok h
  obtain ⟨second, hsecond, h⟩ := bind_eq_ok h
  obtain ⟨third, hthird, h⟩ := bind_eq_ok h
  obtain ⟨rfl, -⟩ := updateRow_ok hfirst
  obtain ⟨rfl, -⟩ := updateRow_ok hsecond
  obtain ⟨rfl, -⟩ := appendEvent_ok hthird
  obtain ⟨rfl, -⟩ := appendEvent_ok h
  rfl

theorem applyReplacement_found {arguments : Replacement}
    {predecessor successor : InstanceBinding}
    (h : applyReplacement arguments predecessor successor store = .ok written) :
    (∃ row ∈ store.bindings, row.bindingId = arguments.predecessorId ∧
        row.version = arguments.predecessorExpectedVersion) ∧
      ∃ row ∈ updated store.bindings arguments.predecessorId
          arguments.predecessorExpectedVersion (Replacement.overPredecessor predecessor),
        row.bindingId = arguments.successorId ∧
          row.version = arguments.successorExpectedVersion := by
  obtain ⟨first, hfirst, h⟩ := bind_eq_ok h
  obtain ⟨second, hsecond, -⟩ := bind_eq_ok h
  obtain ⟨rfl, hpredecessor⟩ := updateRow_ok hfirst
  obtain ⟨-, hsuccessor⟩ := updateRow_ok hsecond
  exact ⟨hpredecessor, hsuccessor⟩

/-! ## Rows -/

theorem find?_updated (bindings : List InstanceBinding) (bindingId : String) (version : ℕ) {test : InstanceBinding → Bool}
    (htest : ∀ binding, test (columns binding) = test binding) :
    (updated bindings bindingId version columns).find? test =
      (bindings.find? test).map fun binding =>
        if binding.bindingId = bindingId ∧ binding.version = version then columns binding
        else binding := by
  rw [updated, List.find?_map]
  congr 2
  funext binding
  rw [Function.comp_apply]
  split
  · exact htest binding
  · rfl

theorem row_updated {bindingId : String} {version : ℕ}
    (h : written.bindings = updated store.bindings bindingId version columns)
    (hcolumns : ∀ binding, (columns binding).bindingId = binding.bindingId)
    (other : String) :
    written.row other = (store.row other).map fun binding =>
      if binding.bindingId = bindingId ∧ binding.version = version then columns binding
      else binding := by
  rw [row, h]
  apply find?_updated
  intro binding
  rw [hcolumns]

theorem row_created (h : insertCreated binding store = .ok written) (bindingId : String) :
    written.row bindingId =
      if binding.bindingId = bindingId then some binding else store.row bindingId := by
  obtain ⟨rfl, hfree⟩ := insertCreated_ok h
  rw [row, List.find?_append, List.find?_singleton]
  split
  · rename_i hsame
    have hnone : store.bindings.find? (·.bindingId = bindingId) = none := by
      apply List.find?_eq_none.mpr
      intro other hother
      have hclash := hfree other hother
      simp only [clashes, Bool.or_eq_false_iff, decide_eq_false_iff_not] at hclash
      rw [decide_eq_true_eq, ← of_decide_eq_true hsame]
      exact hclash.1.1.1
    simp [hnone, of_decide_eq_true hsame]
  · rename_i hother
    rw [if_neg (by simpa using hother), Option.or_none]
    rfl

theorem byIdempotency_created (h : insertCreated binding store = .ok written)
    (hnew : store.byIdempotency binding.idempotencyKey = none) :
    written.byIdempotency binding.idempotencyKey = some binding := by
  obtain ⟨rfl, -⟩ := insertCreated_ok h
  rw [byIdempotency] at hnew ⊢
  rw [List.find?_append, hnew]
  simp

theorem row_transitioned {arguments : Transition} {current : InstanceBinding}
    (h : applyTransition arguments current store = .ok written)
    (hrow : store.row arguments.bindingId = some current)
    (hversion : current.version = arguments.expectedVersion) :
    written.row arguments.bindingId = some (arguments.columns current) := by
  have hid : current.bindingId = arguments.bindingId := by
    simpa using List.find?_some hrow
  have hbindings : written.bindings = updated store.bindings arguments.bindingId
      arguments.expectedVersion (arguments.overRow current) := by
    rw [(applyTransition_ok h).1]
  rw [row_updated hbindings fun _ => rfl, hrow, Option.map_some, if_pos ⟨hid, hversion⟩]
  rfl

/-! ## Methods -/

theorem exec_get (store : InstanceStore) (bindingId : String) :
    (get bindingId).exec store =
      (store, (store.row bindingId).elim
        (.error (.binding "instance_binding_not_found")) .ok) := by
  unfold get
  simp only [Script.exec_read_bind]
  cases store.row bindingId <;> rfl

theorem exec_commit_bind {A : Type} (writes : InstanceStore → Except InstanceError InstanceStore)
    (rest : Unit → Script InstanceStore InstanceError A) (store : InstanceStore) :
    (commit writes >>= rest).exec store =
      match writes store with
      | .error error => (store, .error error)
      | .ok written => (rest ()).exec written := by
  rw [Script.exec_bind, commit, Script.exec_act]
  cases writes store <;> rfl

/-- What the predecessor check of `create` accepts. -/
def PredecessorFits (binding : InstanceBinding) (store : InstanceStore) : Prop :=
  ∀ predecessorId, binding.predecessorBindingId = some predecessorId →
    ∃ predecessor, store.row predecessorId = some predecessor ∧
      predecessor.status = .checkpointed ∧ sameLineage binding predecessor = true

theorem checkPredecessor_cases (binding : InstanceBinding) (store : InstanceStore) :
    (∃ error, (checkPredecessor binding).exec store = (store, .error error)) ∨
      (PredecessorFits binding store ∧
        (checkPredecessor binding).exec store = (store, .ok ())) := by
  unfold checkPredecessor PredecessorFits
  split
  · rename_i hnone
    exact .inr ⟨by simp [hnone], rfl⟩
  · rename_i predecessorId hsome
    simp only [Script.exec_read_bind]
    split
    · exact .inl ⟨_, rfl⟩
    · rename_i predecessor hrow
      unfold Script.raiseIf
      split
      · exact .inl ⟨_, rfl⟩
      · rename_i hfits
        simp only [not_or, not_not] at hfits
        refine .inr ⟨fun other hother => ?_, rfl⟩
        cases hsome.symm.trans hother
        exact ⟨predecessor, hrow, hfits⟩

/-- A call of `create` raises, answers a replay, or inserts the row and its event. -/
theorem create_cases (binding : InstanceBinding) (store : InstanceStore) :
    (∃ error, (create binding).exec store = (store, .error error)) ∨
      (∃ recovered, store.byIdempotency binding.idempotencyKey = some recovered ∧
        recovered.requestHash = binding.requestHash ∧
        (create binding).exec store = (store, .ok recovered)) ∨
      (store.byIdempotency binding.idempotencyKey = none ∧ binding.status = .prepared ∧
        binding.version = 1 ∧
        (binding.predecessorBindingId = none →
          store.activeRow binding.organizationId binding.missionId binding.ocsId = none) ∧
        PredecessorFits binding store ∧
        ∃ written, insertCreated binding store = .ok written ∧
          (create binding).exec store = (written, .ok binding)) := by
  unfold create
  simp only [Script.exec_raiseIf_bind, Script.exec_read_bind]
  split
  · exact .inl ⟨_, rfl⟩
  · rename_i hinitial
    simp only [not_or, not_not] at hinitial
    split
    · rename_i recovered hrecovered
      simp only [Script.exec_raiseIf_bind]
      split
      · exact .inl ⟨_, rfl⟩
      · rename_i hhash
        exact .inr (.inl ⟨recovered, hrecovered, not_not.mp hhash, rfl⟩)
    · rename_i hnew
      simp only [Script.exec_raiseIf_bind, Script.exec_read_bind]
      split
      · exact .inl ⟨_, rfl⟩
      · rename_i hactive
        have hfree (hgenesis : binding.predecessorBindingId = none) :
            store.activeRow binding.organizationId binding.missionId binding.ocsId =
              none := by
          simpa [hgenesis] using hactive
        rcases checkPredecessor_cases binding store with ⟨error, hraised⟩ | ⟨hfits, hok⟩
        · exact .inl ⟨error, Script.exec_bind_error hraised⟩
        · rw [Script.exec_bind_ok hok, exec_commit_bind]
          split
          · exact .inl ⟨_, rfl⟩
          · rename_i written hwritten
            exact .inr (.inr
              ⟨hnew, hinitial.1, hinitial.2, hfree, hfits, written, hwritten, rfl⟩)

/-- A call of `transition` raises, answers a replay, or moves the row it expects. -/
theorem transition_cases (arguments : Transition) (store : InstanceStore) :
    (∃ error, (transition arguments).exec store = (store, .error error)) ∨
      (∃ replay current, store.entry arguments.idempotencyKey = some replay ∧
        arguments.replays replay = true ∧ store.row arguments.bindingId = some current ∧
        (transition arguments).exec store = (store, .ok current)) ∨
      (store.entry arguments.idempotencyKey = none ∧
        ∃ current written, store.row arguments.bindingId = some current ∧
          current.version = arguments.expectedVersion ∧
          arguments.target ∈ allowedTransitions current.status ∧
          applyTransition arguments current store = .ok written ∧
          (transition arguments).exec store =
            (written, .ok (arguments.columns current))) := by
  unfold transition
  simp only [Script.exec_read_bind]
  split
  · rename_i replay hreplay
    simp only [Script.exec_raiseIf_bind]
    split
    · exact .inl ⟨_, rfl⟩
    · rename_i hreplays
      rw [exec_get]
      cases hrow : store.row arguments.bindingId with
      | none => exact .inl ⟨_, rfl⟩
      | some current =>
        exact .inr (.inl ⟨replay, current, hreplay, not_not.mp hreplays, rfl, rfl⟩)
  · rename_i hnew
    cases hrow : store.row arguments.bindingId with
    | none =>
      exact .inl ⟨_, Script.exec_bind_error (by rw [exec_get, hrow]; rfl)⟩
    | some current =>
      have hget : (get arguments.bindingId).exec store = (store, .ok current) := by
        rw [exec_get, hrow]
        rfl
      rw [Script.exec_bind_ok hget]
      simp only [Script.exec_raiseIf_bind]
      split
      · exact .inl ⟨_, rfl⟩
      · rename_i hversion
        split
        · exact .inl ⟨_, rfl⟩
        · rename_i hallowed
          rw [exec_commit_bind]
          split
          · exact .inl ⟨_, rfl⟩
          · rename_i written hwritten
            exact .inr (.inr ⟨hnew, current, written, rfl, not_not.mp hversion,
              not_not.mp hallowed, hwritten, rfl⟩)

/-- A call of `commit_replacement` raises, answers a replay, or moves both rows. -/
theorem commitReplacement_cases (arguments : Replacement) (store : InstanceStore) :
    (∃ error, (commitReplacement arguments).exec store = (store, .error error)) ∨
      (∃ replay predecessor successor, store.entry arguments.idempotencyKey = some replay ∧
        arguments.replays replay = true ∧
        store.row arguments.predecessorId = some predecessor ∧
        store.row arguments.successorId = some successor ∧
        (commitReplacement arguments).exec store =
          (store, .ok (predecessor, successor))) ∨
      (store.entry arguments.idempotencyKey = none ∧
        ∃ predecessor successor written,
          store.row arguments.predecessorId = some predecessor ∧
          store.row arguments.successorId = some successor ∧
          successor.predecessorBindingId = some predecessor.bindingId ∧
          sameLineage successor predecessor = true ∧
          predecessor.version = arguments.predecessorExpectedVersion ∧
          successor.version = arguments.successorExpectedVersion ∧
          predecessor.status = .checkpointed ∧ successor.status = .prepared ∧
          applyReplacement arguments predecessor successor store = .ok written ∧
          (commitReplacement arguments).exec store =
            (written,
              .ok (Replacement.replaced predecessor, arguments.persisted successor))) := by
  unfold commitReplacement
  simp only [Script.exec_read_bind]
  split
  · rename_i replay hreplay
    simp only [Script.exec_raiseIf_bind]
    split
    · exact .inl ⟨_, rfl⟩
    · rename_i hreplays
      rw [Script.exec_bind, exec_get]
      cases hpredecessor : store.row arguments.predecessorId with
      | none => exact .inl ⟨_, rfl⟩
      | some predecessor =>
        dsimp only [Option.elim]
        rw [Script.exec_bind, exec_get]
        cases hsuccessor : store.row arguments.successorId with
        | none => exact .inl ⟨_, rfl⟩
        | some successor =>
          exact .inr (.inl ⟨replay, predecessor, successor, hreplay,
            not_not.mp hreplays, rfl, rfl, rfl⟩)
  · rename_i hnew
    simp only [Script.exec_read_bind]
    split
    · rename_i predecessor successor hpredecessor hsuccessor
      simp only [Script.exec_raiseIf_bind]
      split
      · exact .inl ⟨_, rfl⟩
      · rename_i hlineage
        split
        · exact .inl ⟨_, rfl⟩
        · rename_i hversions
          split
          · exact .inl ⟨_, rfl⟩
          · rename_i hcheckpointed
            split
            · exact .inl ⟨_, rfl⟩
            · rename_i hprepared
              rw [exec_commit_bind]
              split
              · exact .inl ⟨_, rfl⟩
              · rename_i written hwritten
                simp only [not_or, not_not] at hlineage hversions hcheckpointed hprepared
                exact .inr (.inr ⟨hnew, predecessor, successor, written, hpredecessor,
                  hsuccessor, hlineage.1, hlineage.2, hversions.1, hversions.2,
                  hcheckpointed, hprepared, hwritten, rfl⟩)
    · exact .inl ⟨_, rfl⟩

/-! ## Transactions -/

theorem reads_get (bindingId : String) : (get bindingId).Reads := by
  apply (Script.reads_read _).bind
  intro found
  cases found with
  | none => trivial
  | some binding => trivial

theorem reads_checkPredecessor (binding : InstanceBinding) :
    (checkPredecessor binding).Reads := by
  unfold checkPredecessor
  split
  · trivial
  · apply (Script.reads_read _).bind
    intro found
    cases found with
    | none => trivial
    | some predecessor => exact Script.reads_raiseIf _ _

theorem atomic_commit (writes : InstanceStore → Except InstanceError InstanceStore) :
    (commit writes).Atomic := Script.atomic_act _

theorem atomic_create (binding : InstanceBinding) : (create binding).Atomic := by
  apply (Script.reads_raiseIf _ _).bind_atomic
  intro _
  apply (Script.reads_read _).bind_atomic
  intro replay
  cases replay with
  | some recovered =>
    exact ((Script.reads_raiseIf _ _).bind fun _ => Script.reads_pure _).atomic
  | none =>
    apply (Script.reads_read _).bind_atomic
    intro active
    apply (Script.reads_raiseIf _ _).bind_atomic
    intro _
    apply (reads_checkPredecessor binding).bind_atomic
    intro _
    exact (atomic_commit _).bind_reads fun _ => Script.reads_pure _

theorem atomic_transition (arguments : Transition) : (transition arguments).Atomic := by
  apply (Script.reads_read _).bind_atomic
  intro replay
  cases replay with
  | some replay =>
    exact ((Script.reads_raiseIf _ _).bind fun _ => reads_get _).atomic
  | none =>
    apply (reads_get _).bind_atomic
    intro current
    apply (Script.reads_raiseIf _ _).bind_atomic
    intro _
    apply (Script.reads_raiseIf _ _).bind_atomic
    intro _
    exact (atomic_commit _).bind_reads fun _ => Script.reads_pure _

theorem atomic_commitReplacement (arguments : Replacement) :
    (commitReplacement arguments).Atomic := by
  apply (Script.reads_read _).bind_atomic
  intro replay
  cases replay with
  | some replay =>
    apply Script.Reads.atomic
    apply (Script.reads_raiseIf _ _).bind
    intro _
    apply (reads_get _).bind
    intro predecessor
    exact (reads_get _).bind fun successor => Script.reads_pure _
  | none =>
    apply (Script.reads_read _).bind_atomic
    intro predecessorRow
    apply (Script.reads_read _).bind_atomic
    intro successorRow
    cases predecessorRow with
    | none => exact Script.Reads.atomic trivial
    | some predecessor =>
      cases successorRow with
      | none => exact Script.Reads.atomic trivial
      | some successor =>
        apply (Script.reads_raiseIf _ _).bind_atomic
        intro _
        apply (Script.reads_raiseIf _ _).bind_atomic
        intro _
        apply (Script.reads_raiseIf _ _).bind_atomic
        intro _
        apply (Script.reads_raiseIf _ _).bind_atomic
        intro _
        exact (atomic_commit _).bind_reads fun _ => Script.reads_pure _

end ReisOs.Instances.InstanceStore
