import ReisOs.Core.Runs
import ReisOs.Instances.StoreLaws

/-!
# Journal fidelity

The registry writes a row and its journal entry in separate statements.  Over every
sequence of `create`, `transition` and `commit_replacement` calls, replayed and failing
ones included, the entries of a binding retell how its row came to be what it is.
-/

namespace ReisOs.Instances.InstanceStore

open ReisOs.Core ReisOs.Kernel

/-- The journal entries of a binding, by position. -/
def entriesOf (store : InstanceStore) (bindingId : String) : List JournalEntry :=
  store.journal.filter (·.bindingId = bindingId)

/-- What an entry says after the entry before it of the same binding. -/
def Follows : Option JournalEntry → JournalEntry → Prop
  | none, entry =>
    entry.bindingVersion = 1 ∧ entry.fromStatus = none ∧ entry.toStatus = .prepared
  | some previous, entry =>
    entry.bindingVersion = previous.bindingVersion + 1 ∧
      entry.fromStatus = some previous.toStatus ∧
      entry.toStatus ∈ allowedTransitions previous.toStatus

/-- The journal of every binding counts its versions from one, links its statuses by
allowed transitions from `prepared`, and ends at the row's version and status. -/
structure JournalFaithful (store : InstanceStore) : Prop where
  versions : ∀ binding ∈ store.bindings,
    (store.entriesOf binding.bindingId).map (·.bindingVersion) =
      List.range' 1 binding.version
  steps : ∀ binding ∈ store.bindings,
    Chained Follows (store.entriesOf binding.bindingId)
  current : ∀ binding ∈ store.bindings,
    (store.entriesOf binding.bindingId).getLast?.map (·.toStatus) = some binding.status

inductive StoreCall where
  | create (binding : InstanceBinding)
  | transition (arguments : Transition)
  | commitReplacement (arguments : Replacement)

/-- The store after a call, whether or not it raised. -/
def perform (store : InstanceStore) : StoreCall → InstanceStore
  | .create binding => ((create binding).exec store).1
  | .transition arguments => ((transition arguments).exec store).1
  | .commitReplacement arguments => ((commitReplacement arguments).exec store).1

/-! ## The inductive invariant -/

structure Journaled (store : InstanceStore) : Prop where
  ids : (store.bindings.map (·.bindingId)).Nodup
  owned : ∀ entry ∈ store.journal, ∃ binding ∈ store.bindings,
    binding.bindingId = entry.bindingId
  chains : GroupChained Follows (·.bindingId) store.journal
  last : ∀ binding ∈ store.bindings, ∃ entry,
    (store.entriesOf binding.bindingId).getLast? = some entry ∧
      entry.bindingVersion = binding.version ∧ entry.toStatus = binding.status

theorem follows_version {previous : Option JournalEntry} {entry : JournalEntry}
    (h : Follows previous entry) :
    entry.bindingVersion = previous.elim 1 (·.bindingVersion + 1) := by
  cases previous with
  | none => exact h.1
  | some previous => exact h.1

variable {store written : InstanceStore}

theorem Journaled.faithful (h : Journaled store) : JournalFaithful store where
  versions binding hbinding := by
    have hchain := h.chains binding.bindingId
    have hnumbers := hchain.map_eq_range' (·.bindingVersion) fun _ _ => follows_version
    obtain ⟨entry, hlast, hversion, -⟩ := h.last binding hbinding
    have hlength := hchain.number_getLast? (·.bindingVersion)
      (fun _ _ => follows_version) hlast
    rw [← hversion, hlength]
    exact hnumbers
  steps binding _ := h.chains binding.bindingId
  current binding hbinding := by
    obtain ⟨entry, hlast, -, hstatus⟩ := h.last binding hbinding
    rw [hlast, Option.map_some, hstatus]

theorem row_eq_some (h : (store.bindings.map (·.bindingId)).Nodup) {bindingId : String}
    {binding : InstanceBinding} :
    store.row bindingId = some binding ↔
      binding ∈ store.bindings ∧ binding.bindingId = bindingId :=
  find?_key_eq_some_iff h

theorem entriesOf_append (store : InstanceStore) (bindings : List InstanceBinding)
    (entry : JournalEntry) (bindingId : String) :
    entriesOf { store with bindings := bindings, journal := store.journal ++ [entry] }
        bindingId =
      store.entriesOf bindingId ++ if entry.bindingId = bindingId then [entry] else [] := by
  rw [entriesOf, entriesOf, List.filter_append, List.filter_singleton]
  by_cases hsame : entry.bindingId = bindingId <;> simp [hsame]

/-- A row and its first event are added together. -/
theorem Journaled.created (h : Journaled store) {binding : InstanceBinding}
    (hstatus : binding.status = .prepared) (hversion : binding.version = 1)
    (hwritten : insertCreated binding store = .ok written) : Journaled written := by
  obtain ⟨rfl, hfree⟩ := insertCreated_ok hwritten
  have hfresh (other : InstanceBinding) (hother : other ∈ store.bindings) :
      other.bindingId ≠ binding.bindingId := by
    have hclash := hfree other hother
    simp only [clashes, Bool.or_eq_false_iff, decide_eq_false_iff_not] at hclash
    exact hclash.1.1.1
  have hnone : store.entriesOf binding.bindingId = [] := by
    apply List.filter_eq_nil_iff.mpr
    intro entry hentry
    obtain ⟨other, hother, hsame⟩ := h.owned entry hentry
    simpa [← hsame] using hfresh other hother
  constructor
  · rw [List.map_append, List.nodup_append]
    refine ⟨h.ids, by simp, ?_⟩
    intro left hleft right hright
    obtain ⟨other, hother, rfl⟩ := List.mem_map.mp hleft
    rw [List.mem_singleton.mp hright]
    exact hfresh other hother
  · intro entry hentry
    rcases List.mem_append.mp hentry with hold | hnew
    · obtain ⟨other, hother, hsame⟩ := h.owned entry hold
      exact ⟨other, List.mem_append_left _ hother, hsame⟩
    · rw [List.mem_singleton.mp hnew]
      exact ⟨binding, by simp, rfl⟩
  · apply groupChained_concat h.chains
    change Follows (store.entriesOf binding.bindingId).getLast? _
    rw [hnone]
    exact ⟨hversion, rfl, hstatus⟩
  · intro other hother
    rw [entriesOf_append, event_bindingId]
    rcases List.mem_append.mp hother with hold | hnew
    · rw [if_neg (hfresh other hold).symm, List.append_nil]
      exact h.last other hold
    · rw [List.mem_singleton.mp hnew, hnone, if_pos rfl]
      exact ⟨_, rfl, rfl, rfl⟩

/-- One row moves along an allowed transition and one event says so. -/
theorem Journaled.moved (h : Journaled store) {current : InstanceBinding}
    {columns : InstanceBinding → InstanceBinding} {entry : JournalEntry}
    (hcurrent : store.row current.bindingId = some current)
    (hid : ∀ binding, (columns binding).bindingId = binding.bindingId)
    (hversion : (columns current).version = current.version + 1)
    (hentry : entry.bindingId = current.bindingId)
    (hfrom : entry.fromStatus = some current.status)
    (hto : entry.toStatus = (columns current).status)
    (hnumber : entry.bindingVersion = current.version + 1)
    (hallowed : (columns current).status ∈ allowedTransitions current.status) :
    Journaled { store with
      bindings := updated store.bindings current.bindingId current.version columns
      journal := store.journal ++ [entry] } := by
  have hmem : current ∈ store.bindings := ((row_eq_some h.ids).mp hcurrent).1
  have hids : (updated store.bindings current.bindingId current.version columns).map
      (·.bindingId) = store.bindings.map (·.bindingId) := by
    rw [updated, List.map_map]
    apply List.map_congr_left
    intro binding _
    simp only [Function.comp_apply]
    split
    · exact hid binding
    · rfl
  obtain ⟨previous, hprevious, hpreviousVersion, hpreviousStatus⟩ := h.last current hmem
  constructor
  · rw [hids]
    exact h.ids
  · intro other hother
    have hknown : ∃ binding ∈ store.bindings, binding.bindingId = other.bindingId := by
      rcases List.mem_append.mp hother with hold | hnew
      · exact h.owned other hold
      · rw [List.mem_singleton.mp hnew]
        exact ⟨current, hmem, hentry.symm⟩
    have hlisted : other.bindingId ∈ store.bindings.map (·.bindingId) := by
      obtain ⟨binding, hbinding, hsame⟩ := hknown
      exact hsame ▸ List.mem_map_of_mem hbinding
    rw [← hids] at hlisted
    exact List.mem_map.mp hlisted
  · apply groupChained_concat h.chains
    rw [hentry]
    change Follows (store.entriesOf current.bindingId).getLast? entry
    rw [hprevious]
    refine ⟨?_, ?_, ?_⟩
    · rw [hnumber, hpreviousVersion]
    · rw [hfrom, hpreviousStatus]
    · rw [hto, hpreviousStatus]
      exact hallowed
  · intro other hother
    obtain ⟨binding, hbinding, rfl⟩ := List.mem_map.mp hother
    rw [entriesOf_append]
    split
    · rename_i hmatches
      have hsame : binding = current :=
        List.inj_on_of_nodup_map h.ids hbinding hmem hmatches.1
      subst hsame
      rw [hid, if_pos hentry, List.getLast?_concat]
      exact ⟨entry, rfl, hnumber.trans hversion.symm, hto⟩
    · rename_i hother
      have hne : entry.bindingId ≠ binding.bindingId := by
        intro hsame
        have hcurrent := List.inj_on_of_nodup_map h.ids hbinding hmem
          (hsame.symm.trans hentry)
        rw [hcurrent] at hother
        exact hother ⟨rfl, rfl⟩
      rw [if_neg hne, List.append_nil]
      exact h.last binding hbinding

/-! ## Calls -/

theorem Journaled.create (h : Journaled store) (binding : InstanceBinding) :
    Journaled (store.perform (.create binding)) := by
  simp only [perform]
  rcases create_cases binding store with ⟨error, hraised⟩ | ⟨recovered, -, -, hreplayed⟩ |
    ⟨-, hstatus, hversion, -, -, written, hwritten, hcreated⟩
  · rw [hraised]
    exact h
  · rw [hreplayed]
    exact h
  · rw [hcreated]
    exact h.created hstatus hversion hwritten

theorem Journaled.transition (h : Journaled store) (arguments : Transition) :
    Journaled (store.perform (.transition arguments)) := by
  simp only [perform]
  rcases transition_cases arguments store with ⟨error, hraised⟩ |
    ⟨replay, current, -, -, -, hreplayed⟩ |
    ⟨-, current, written, hrow, hversion, hallowed, hwritten, hmoved⟩
  · rw [hraised]
    exact h
  · rw [hreplayed]
    exact h
  · rw [hmoved]
    obtain ⟨rfl, -⟩ := applyTransition_ok hwritten
    obtain ⟨-, hid⟩ := (row_eq_some h.ids).mp hrow
    rw [← hid, ← hversion]
    exact h.moved (hid ▸ hrow) (fun _ => rfl) rfl rfl rfl rfl rfl hallowed

theorem Journaled.commitReplacement (h : Journaled store) (arguments : Replacement) :
    Journaled (store.perform (.commitReplacement arguments)) := by
  simp only [perform]
  rcases commitReplacement_cases arguments store with ⟨error, hraised⟩ |
    ⟨replay, predecessor, successor, -, -, -, -, hreplayed⟩ |
    ⟨-, predecessor, successor, written, hpredecessor, hsuccessor, hlink, hlineage,
      hversion, hsuccessorVersion, hcheckpointed, hprepared, hwritten, hmoved⟩
  · rw [hraised]
    exact h
  · rw [hreplayed]
    exact h
  · rw [hmoved]
    obtain rfl := applyReplacement_ok hwritten
    obtain ⟨hpredecessorMem, hpredecessorId⟩ := (row_eq_some h.ids).mp hpredecessor
    obtain ⟨hsuccessorMem, hsuccessorId⟩ := (row_eq_some h.ids).mp hsuccessor
    have hne : successor.bindingId ≠ predecessor.bindingId := by
      intro hsame
      have hequal := List.inj_on_of_nodup_map h.ids hsuccessorMem hpredecessorMem hsame
      rw [hequal, hcheckpointed] at hprepared
      cases hprepared
    rw [← hpredecessorId, ← hsuccessorId, ← hversion, ← hsuccessorVersion]
    have hreplaced : InstanceStatus.replaced ∈ allowedTransitions predecessor.status := by
      rw [hcheckpointed]
      decide
    have hpersisted : InstanceStatus.persisted ∈ allowedTransitions successor.status := by
      rw [hprepared]
      decide
    have hfirst : Journaled { store with
        bindings := updated store.bindings predecessor.bindingId predecessor.version
          (Replacement.overPredecessor predecessor)
        journal := store.journal ++ [event (Replacement.replaced predecessor)
          "OCS_INSTANCE_REPLACED" (some predecessor.status) arguments.idempotencyKey
          arguments.replayPayload] } :=
      h.moved (hpredecessorId ▸ hpredecessor) (fun _ => rfl) rfl rfl rfl rfl rfl hreplaced
    refine hfirst.moved ?_ (fun _ => rfl) rfl rfl rfl rfl rfl hpersisted
    apply (row_eq_some hfirst.ids).mpr
    refine ⟨List.mem_map.mpr ⟨successor, hsuccessorMem, ?_⟩, rfl⟩
    rw [if_neg fun hmatches => hne hmatches.1]

theorem Journaled.congr (h : Journaled store) (hbindings : written.bindings = store.bindings)
    (hjournal : written.journal = store.journal) : Journaled written where
  ids := hbindings ▸ h.ids
  owned := by
    rw [hbindings, hjournal]
    exact h.owned
  chains := hjournal ▸ h.chains
  last := by
    intro binding hbinding
    rw [hbindings] at hbinding
    unfold entriesOf
    rw [hjournal]
    exact h.last binding hbinding

theorem empty_journaled : Journaled empty where
  ids := by simp [empty]
  owned := by simp [empty]
  chains := fun _ => chained_nil _
  last := by simp [empty]

/-- After every sequence of calls the journal of every binding is faithful to it. -/
theorem journalFaithful_run (calls : List StoreCall) :
    JournalFaithful (run perform empty calls) := by
  have hjournaled := run_invariant Journaled (fun store call h => by
    cases call with
    | create binding => exact Journaled.create h binding
    | transition arguments => exact Journaled.transition h arguments
    | commitReplacement arguments => exact Journaled.commitReplacement h arguments)
    empty_journaled calls
  exact hjournaled.faithful

end ReisOs.Instances.InstanceStore
