import ReisOs.Instances.Histories

/-!
# Well formed registries

Every entry of the journal and every predecessor is a row, rows and sagas have keys of
their own, and a committed checkpoint has its saga.  A `Frame` adds that the rows of some
bindings, with their entries and sagas, are as they were, and what all other rows are
like.  The writes of the registry keep both if they are made on other bindings.
-/

namespace ReisOs.Instances

open ReisOs.Core ReisOs.Kernel Script

namespace InstanceStore

variable {store written later : InstanceStore}

/-- A saga of the given key that belongs to the given binding. -/
def HasSaga (store : InstanceStore) (idempotencyKey bindingId : String) : Prop :=
  ∃ saga ∈ store.sagas, saga.idempotencyKey = idempotencyKey ∧ saga.bindingId = bindingId

/-- The predecessor of a binding is a row of its organization. -/
def Preceded (store : InstanceStore) (binding : InstanceBinding) : Prop :=
  ∀ bindingId, binding.predecessorBindingId = some bindingId →
    ∃ previous ∈ store.bindings, previous.bindingId = bindingId ∧
      previous.organizationId = binding.organizationId

structure WellFormed (store : InstanceStore) : Prop where
  bindings : (store.bindings.map (·.bindingId)).Nodup
  sagas : (store.sagas.map (·.idempotencyKey)).Nodup
  entries : ∀ entry ∈ store.journal, ∃ row ∈ store.bindings,
    row.bindingId = entry.bindingId
  checkpoints : ∀ entry ∈ store.journal, entry.toStatus = .checkpointed →
    store.HasSaga entry.idempotencyKey entry.bindingId
  predecessors : ∀ row ∈ store.bindings, store.Preceded row

/-- Rows and entries are only added, and sagas stay with their bindings. -/
structure Extends (store later : InstanceStore) : Prop where
  records : store.records <+: later.records
  journal : store.journal <+: later.journal
  sagas : ∀ idempotencyKey bindingId, store.HasSaga idempotencyKey bindingId →
    later.HasSaga idempotencyKey bindingId

theorem Extends.refl (store : InstanceStore) : store.Extends store :=
  ⟨List.prefix_refl _, List.prefix_refl _, fun _ _ => id⟩

theorem Extends.trans {middle : InstanceStore} (h : store.Extends middle)
    (hnext : middle.Extends later) : store.Extends later :=
  ⟨h.records.trans hnext.records, h.journal.trans hnext.journal,
    fun key bindingId hsaga => hnext.sagas key bindingId (h.sagas key bindingId hsaga)⟩

theorem Extends.row (h : store.Extends later) {row : InstanceBinding}
    (hrow : row ∈ store.bindings) : ∃ next ∈ later.bindings, next.fixed = row.fixed := by
  have hmem : row.fixed ∈ later.records := h.records.mem (List.mem_map_of_mem hrow)
  exact List.mem_map.mp hmem

theorem Preceded.of_fixed {binding other : InstanceBinding} (h : store.Preceded binding)
    (hfixed : other.fixed = binding.fixed) : store.Preceded other := by
  have hlink := InstanceBinding.column_of_fixed hfixed (·.predecessorBindingId) fun _ => rfl
  have horganization := InstanceBinding.column_of_fixed hfixed (·.organizationId) fun _ => rfl
  intro bindingId hsome
  rw [horganization]
  exact h bindingId (hlink.symm.trans hsome)

theorem Preceded.grows {binding : InstanceBinding} (h : store.Preceded binding)
    (hextends : store.Extends later) : later.Preceded binding := by
  intro bindingId hlink
  obtain ⟨previous, hprevious, hid, horganization⟩ := h bindingId hlink
  obtain ⟨next, hnext, hfixed⟩ := hextends.row hprevious
  have hsameId := InstanceBinding.column_of_fixed hfixed (·.bindingId) fun _ => rfl
  have hsame := InstanceBinding.column_of_fixed hfixed (·.organizationId) fun _ => rfl
  exact ⟨next, hnext, hsameId.trans hid, hsame.trans horganization⟩

theorem wellFormed_empty : empty.WellFormed where
  bindings := List.nodup_nil
  sagas := List.nodup_nil
  entries _ hentry := nomatch hentry
  checkpoints _ hentry := nomatch hentry
  predecessors _ hrow := nomatch hrow

/-- The bindings, and what belongs to them, whose ids are kept. -/
def part (kept : String → Bool) (store : InstanceStore) : InstanceStore where
  bindings := store.bindings.filter (kept ·.bindingId)
  journal := store.journal.filter (kept ·.bindingId)
  sagas := store.sagas.filter (kept ·.bindingId)

end InstanceStore

/-- Some bindings with what they have in the registry, and what all others are like. -/
structure Frame where
  kept : String → Bool
  part : InstanceStore
  Like : InstanceBinding → Prop

namespace Frame

open InstanceStore

/-- The registry is well formed and has the kept part. -/
structure Holds (frame : Frame) (store : InstanceStore) : Prop where
  wellFormed : store.WellFormed
  part : store.part frame.kept = frame.part
  like : ∀ row ∈ store.bindings, frame.kept row.bindingId = false → frame.Like row

/-- Nothing is kept. -/
def nothing : Frame := ⟨fun _ => false, .empty, fun _ => True⟩

theorem holds_nothing {store : InstanceStore} :
    nothing.Holds store ↔ store.WellFormed := by
  constructor
  · exact Holds.wellFormed
  · intro h
    refine ⟨h, ?_, fun _ _ _ => trivial⟩
    simp [InstanceStore.part, nothing, empty]

variable {frame : Frame} {store written : InstanceStore}

/-- The rule of the calls on other bindings. -/
def rule (frame : Frame) : Discipline InstanceStore where
  Inv := frame.Holds
  Grows := Extends
  Others := Extends
  refl := .refl
  trans := .trans
  idle := .refl
  others := id

/-! ## Rows -/

theorem filter_map_eq {A : Type} {test : A → Bool} {update : A → A} {values : List A}
    (h : ∀ value ∈ values, update value = value ∨
      test value = false ∧ test (update value) = false) :
    (values.map update).filter test = values.filter test := by
  induction values with
  | nil => rfl
  | cons value rest ih =>
    rw [List.forall_mem_cons] at h
    rw [List.map_cons, List.filter_cons, List.filter_cons, ih h.2]
    rcases h.1 with hsame | ⟨hbefore, hafter⟩
    · rw [hsame]
    · rw [hbefore, hafter]
      rfl

variable {bindingId : String}

theorem filter_updated (kept : String → Bool) (bindings : List InstanceBinding) (version : ℕ) (columns : InstanceBinding → InstanceBinding)
    (hcolumns : ∀ binding, (columns binding).bindingId = binding.bindingId)
    (hforeign : kept bindingId = false) :
    (updated bindings bindingId version columns).filter (kept ·.bindingId) =
      bindings.filter (kept ·.bindingId) := by
  apply filter_map_eq
  intro binding _
  by_cases hmatches : binding.bindingId = bindingId ∧ binding.version = version
  · right
    rw [if_pos hmatches, hcolumns, hmatches.1]
    exact ⟨hforeign, hforeign⟩
  · left
    rw [if_neg hmatches]

theorem mem_updated {bindings : List InstanceBinding} {version : ℕ}
    {columns : InstanceBinding → InstanceBinding} {row : InstanceBinding}
    (h : row ∈ updated bindings bindingId version columns) :
    row ∈ bindings ∨ ∃ before ∈ bindings, before.bindingId = bindingId ∧
      row = columns before := by
  obtain ⟨before, hbefore, rfl⟩ := List.mem_map.mp h
  by_cases hmatches : before.bindingId = bindingId ∧ before.version = version
  · rw [if_pos hmatches]
    exact Or.inr ⟨before, hbefore, hmatches.1, rfl⟩
  · rw [if_neg hmatches]
    exact Or.inl hbefore

/-! ## Writes -/

theorem bindingIds_of_fixed {left right : List InstanceBinding}
    (h : left.map (·.fixed) = right.map (·.fixed)) :
    left.map (·.bindingId) = right.map (·.bindingId) := by
  have hids (bindings : List InstanceBinding) :
      bindings.map (·.bindingId) = (bindings.map (·.fixed)).map (·.bindingId) := by
    rw [List.map_map]
    rfl
  rw [hids left, h, ← hids]

/-- What a write adds to the rows and the journal. -/
theorem wellFormed_extended (h : store.WellFormed) {added : List InstanceBinding}
    {entries : List JournalEntry}
    (hids : (written.bindings.map (·.bindingId)).Nodup)
    (hrecords : written.records = store.records ++ added.map (·.fixed))
    (hjournal : written.journal = store.journal ++ entries)
    (hsagas : written.sagas = store.sagas)
    (hentries : ∀ entry ∈ entries,
      (∃ row ∈ written.bindings, row.bindingId = entry.bindingId) ∧
        (entry.toStatus = .checkpointed →
          store.HasSaga entry.idempotencyKey entry.bindingId))
    (hadded : ∀ row ∈ added, store.Preceded row) :
    written.WellFormed ∧ store.Extends written := by
  have hextends : store.Extends written := by
    constructor
    · exact ⟨added.map (·.fixed), hrecords.symm⟩
    · exact ⟨entries, hjournal.symm⟩
    · intro key bindingId hsaga
      rw [HasSaga, hsagas]
      exact hsaga
  refine ⟨?_, hextends⟩
  constructor
  · exact hids
  · rw [hsagas]
    exact h.sagas
  · intro entry hentry
    rw [hjournal] at hentry
    rcases List.mem_append.mp hentry with hold | hnew
    · obtain ⟨row, hrow, hid⟩ := h.entries entry hold
      obtain ⟨next, hnext, hfixed⟩ := hextends.row hrow
      have hsame := InstanceBinding.column_of_fixed hfixed (·.bindingId) fun _ => rfl
      exact ⟨next, hnext, hsame.trans hid⟩
    · exact (hentries entry hnew).1
  · intro entry hentry hcheckpointed
    rw [hjournal] at hentry
    apply hextends.sagas
    rcases List.mem_append.mp hentry with hold | hnew
    · exact h.checkpoints entry hold hcheckpointed
    · exact (hentries entry hnew).2 hcheckpointed
  · intro row hrow
    have hmem : row.fixed ∈ store.records ++ added.map (·.fixed) := by
      rw [← hrecords]
      exact List.mem_map_of_mem hrow
    have hpreceded : store.Preceded row := by
      rcases List.mem_append.mp hmem with hold | hnew
      · obtain ⟨before, hbefore, hfixed⟩ := List.mem_map.mp hold
        exact (h.predecessors before hbefore).of_fixed hfixed.symm
      · obtain ⟨before, hbefore, hfixed⟩ := List.mem_map.mp hnew
        exact (hadded before hbefore).of_fixed hfixed.symm
    exact hpreceded.grows hextends

/-- A new row, in a registry where its predecessor is a row of its organization. -/
theorem Holds.created (h : frame.Holds store) {binding : InstanceBinding}
    (hprepared : binding.status = .prepared) (hlike : frame.Like binding)
    (hforeign : frame.kept binding.bindingId = false)
    (hpreceded : store.Preceded binding)
    (hwritten : insertCreated binding store = .ok written) :
    frame.Holds written ∧ store.Extends written := by
  obtain ⟨rfl, hfree⟩ := insertCreated_ok hwritten
  have hwell := @wellFormed_extended store { store with
      bindings := store.bindings ++ [binding]
      journal := store.journal ++ [event binding "OCS_INSTANCE_PREPARED" none
        s!"{binding.idempotencyKey}:prepared" (.created binding.profileHash)] }
    h.wellFormed [binding] _ ?_ ?_ rfl rfl ?_ ?_
  · refine ⟨⟨hwell.1, ?_, ?_⟩, hwell.2⟩
    · rw [← h.part]
      simp [InstanceStore.part, List.filter_append, hforeign]
    · intro row hrow hother
      rcases List.mem_append.mp hrow with hold | hnew
      · exact h.like row hold hother
      · rw [List.mem_singleton.mp hnew]
        exact hlike
  · rw [List.map_append, List.nodup_append]
    refine ⟨h.wellFormed.bindings, List.nodup_singleton _, ?_⟩
    intro left hleft right hright
    obtain ⟨other, hother, rfl⟩ := List.mem_map.mp hleft
    rw [List.mem_singleton.mp hright]
    have hclash := hfree other hother
    simp only [clashes, Bool.or_eq_false_iff, decide_eq_false_iff_not] at hclash
    exact hclash.1.1.1
  · rw [records, records, List.map_append]
  · intro entry hentry
    rw [List.mem_singleton.mp hentry]
    refine ⟨⟨binding, by simp, rfl⟩, ?_⟩
    intro hcheckpointed
    rw [event, hprepared] at hcheckpointed
    cases hcheckpointed
  · intro row hrow
    rw [List.mem_singleton.mp hrow]
    exact hpreceded

/-- A move of one row with its entry. -/
theorem Holds.moved (h : frame.Holds store) {bindings : List InstanceBinding}
    {entries : List JournalEntry}
    (hwritten : written = { store with bindings, journal := store.journal ++ entries })
    (hrecords : bindings.map (·.fixed) = store.records)
    (hpart : bindings.filter (frame.kept ·.bindingId) =
      store.bindings.filter (frame.kept ·.bindingId))
    (hlike : ∀ row ∈ bindings, frame.kept row.bindingId = false → frame.Like row)
    (hentries : ∀ entry ∈ entries, frame.kept entry.bindingId = false ∧
      (∃ row ∈ store.bindings, row.bindingId = entry.bindingId) ∧
        (entry.toStatus = .checkpointed →
          store.HasSaga entry.idempotencyKey entry.bindingId)) :
    frame.Holds written ∧ store.Extends written := by
  subst hwritten
  have hids := bindingIds_of_fixed hrecords
  have hwell := @wellFormed_extended store
    { store with bindings, journal := store.journal ++ entries } h.wellFormed [] entries
    ?_ ?_ rfl rfl ?_ ?_
  · refine ⟨⟨hwell.1, ?_, hlike⟩, hwell.2⟩
    have hnone : entries.filter (frame.kept ·.bindingId) = [] := by
      apply List.filter_eq_nil_iff.mpr
      intro entry hentry
      rw [(hentries entry hentry).1]
      exact Bool.false_ne_true
    rw [← h.part]
    simp [InstanceStore.part, List.filter_append, hpart, hnone]
  · rw [hids]
    exact h.wellFormed.bindings
  · rw [List.map_nil, List.append_nil]
    exact hrecords
  · intro entry hentry
    obtain ⟨-, ⟨row, hrow, hid⟩, hsaga⟩ := hentries entry hentry
    have hmem : row.bindingId ∈ bindings.map (·.bindingId) := by
      rw [hids]
      exact List.mem_map_of_mem hrow
    obtain ⟨next, hnext, hnextId⟩ := List.mem_map.mp hmem
    exact ⟨⟨next, hnext, hnextId.trans hid⟩, hsaga⟩
  · intro row hrow
    cases hrow

theorem Holds.transitioned (h : frame.Holds store) {arguments : Transition}
    {current : InstanceBinding} (hid : current.bindingId = arguments.bindingId)
    (hforeign : frame.kept arguments.bindingId = false)
    (hlike : ∀ row, frame.Like row → frame.Like (arguments.overRow current row))
    (hsaga : arguments.target = .checkpointed →
      store.HasSaga arguments.idempotencyKey arguments.bindingId)
    (hwritten : applyTransition arguments current store = .ok written) :
    frame.Holds written ∧ store.Extends written := by
  obtain ⟨row, hrow, hrowId⟩ : ∃ row ∈ store.bindings,
      row.bindingId = arguments.bindingId := by
    obtain ⟨moved, hmoved, -⟩ := bind_eq_ok hwritten
    obtain ⟨-, row, hrow, hrowId, -⟩ := updateRow_ok hmoved
    exact ⟨row, hrow, hrowId⟩
  have hrecords := records_updated store.bindings arguments.bindingId
    arguments.expectedVersion (arguments.overRow current) fun _ => rfl
  apply h.moved (applyTransition_ok hwritten).1 hrecords
  · exact filter_updated _ _ _ _ (fun _ => rfl) hforeign
  · intro moved hmoved hother
    rcases mem_updated hmoved with hold | ⟨before, hbefore, hsame, rfl⟩
    · exact h.like moved hold hother
    · apply hlike
      apply h.like before hbefore
      rw [hsame]
      exact hforeign
  · intro entry hentry
    rw [List.mem_singleton.mp hentry]
    have hentryId : (arguments.columns current).bindingId = arguments.bindingId := hid
    refine ⟨?_, ?_, ?_⟩
    · rw [event_bindingId, hentryId]
      exact hforeign
    · exact ⟨row, hrow, hrowId.trans hentryId.symm⟩
    · intro hcheckpointed
      rw [event_bindingId, hentryId]
      exact hsaga hcheckpointed

theorem Holds.replaced (h : frame.Holds store) {arguments : Replacement}
    {predecessor successor : InstanceBinding}
    (hpredecessor : predecessor.bindingId = arguments.predecessorId)
    (hsuccessor : successor.bindingId = arguments.successorId)
    (hforeign : frame.kept arguments.predecessorId = false)
    (hforeignSuccessor : frame.kept arguments.successorId = false)
    (hlike : ∀ row, frame.Like row →
      frame.Like (Replacement.overPredecessor predecessor row) ∧
        frame.Like (arguments.overSuccessor successor row))
    (hwritten : applyReplacement arguments predecessor successor store = .ok written) :
    frame.Holds written ∧ store.Extends written := by
  obtain ⟨⟨row, hrow, hrowId, -⟩, moved, hmoved, hmovedId, -⟩ :=
    applyReplacement_found hwritten
  have hfirst := records_updated store.bindings arguments.predecessorId
    arguments.predecessorExpectedVersion (Replacement.overPredecessor predecessor)
    fun _ => rfl
  have hsecond := records_updated
    (updated store.bindings arguments.predecessorId arguments.predecessorExpectedVersion
      (Replacement.overPredecessor predecessor)) arguments.successorId
    arguments.successorExpectedVersion (arguments.overSuccessor successor) fun _ => rfl
  have hfirstLike : ∀ row ∈ updated store.bindings arguments.predecessorId
      arguments.predecessorExpectedVersion (Replacement.overPredecessor predecessor),
      frame.kept row.bindingId = false → frame.Like row := by
    intro next hnext hother
    rcases mem_updated hnext with hold | ⟨before, hbefore, hsame, rfl⟩
    · exact h.like next hold hother
    · apply (hlike before _).1
      apply h.like before hbefore
      rw [hsame]
      exact hforeign
  have hwrites := applyReplacement_ok hwritten
  rw [List.append_assoc] at hwrites
  apply h.moved hwrites (hsecond.trans hfirst)
  · have houter := filter_updated frame.kept (updated store.bindings
      arguments.predecessorId arguments.predecessorExpectedVersion
      (Replacement.overPredecessor predecessor)) arguments.successorExpectedVersion
      (arguments.overSuccessor successor) (fun _ => rfl) hforeignSuccessor
    have hinner := filter_updated frame.kept store.bindings
      arguments.predecessorExpectedVersion (Replacement.overPredecessor predecessor)
      (fun _ => rfl) hforeign
    exact houter.trans hinner
  · intro next hnext hother
    rcases mem_updated hnext with hold | ⟨before, hbefore, hsame, rfl⟩
    · exact hfirstLike next hold hother
    · apply (hlike before _).2
      apply hfirstLike before hbefore
      rw [hsame]
      exact hforeignSuccessor
  · have hbefore : ∃ row ∈ store.bindings, row.bindingId = arguments.successorId := by
      have hmem : moved.bindingId ∈ store.bindings.map (·.bindingId) := by
        rw [← bindingIds_of_fixed hfirst]
        exact List.mem_map_of_mem hmoved
      obtain ⟨before, hbefore, hid⟩ := List.mem_map.mp hmem
      exact ⟨before, hbefore, hid.trans hmovedId⟩
    obtain ⟨before, hbefore, hbeforeId⟩ := hbefore
    intro entry hentry
    rcases List.mem_pair.mp hentry with rfl | rfl
    · have hid : (Replacement.replaced predecessor).bindingId = arguments.predecessorId :=
        hpredecessor
      refine ⟨?_, ⟨row, hrow, hrowId.trans hid.symm⟩, fun hwrong => nomatch hwrong⟩
      rw [event_bindingId, hid]
      exact hforeign
    · have hid : (arguments.persisted successor).bindingId = arguments.successorId :=
        hsuccessor
      refine ⟨?_, ⟨before, hbefore, hbeforeId.trans hid.symm⟩, fun hwrong => nomatch hwrong⟩
      rw [event_bindingId, hid]
      exact hforeignSuccessor

/-! ## Sagas -/

theorem Holds.begun (h : frame.Holds store) {saga : ActionSaga}
    (hforeign : frame.kept saga.bindingId = false)
    (hwritten : insertSaga saga store = .ok written) :
    frame.Holds written ∧ store.Extends written ∧
      written.HasSaga saga.idempotencyKey saga.bindingId := by
  unfold insertSaga at hwritten
  split at hwritten
  · cases hwritten
  · rename_i hfree
    cases hwritten
    have hnew : ∀ other ∈ store.sagas, other.idempotencyKey ≠ saga.idempotencyKey := by
      intro other hother hsame
      apply hfree
      left
      rw [InstanceStore.saga, List.find?_isSome]
      exact ⟨other, hother, by simpa using hsame⟩
    have hextends : store.Extends { store with sagas := store.sagas ++ [saga] } := by
      refine ⟨List.prefix_refl _, List.prefix_refl _, ?_⟩
      rintro key bindingId ⟨other, hother, hsame⟩
      exact ⟨other, List.mem_append_left _ hother, hsame⟩
    refine ⟨⟨⟨h.wellFormed.bindings, ?_, h.wellFormed.entries, ?_,
      h.wellFormed.predecessors⟩, ?_, h.like⟩, hextends, saga, by simp, rfl, rfl⟩
    · rw [List.map_append, List.nodup_append]
      refine ⟨h.wellFormed.sagas, List.nodup_singleton _, ?_⟩
      intro left hleft right hright
      obtain ⟨other, hother, rfl⟩ := List.mem_map.mp hleft
      rw [List.mem_singleton.mp hright]
      exact hnew other hother
    · intro entry hentry hcheckpointed
      exact hextends.sagas _ _ (h.wellFormed.checkpoints entry hentry hcheckpointed)
    · rw [← h.part]
      simp [InstanceStore.part, List.filter_append, hforeign]

theorem Holds.advanced (h : frame.Holds store) {idempotencyKey : String}
    {expected target : SagaState} {now : Time}
    (hsaga : store.HasSaga idempotencyKey bindingId)
    (hforeign : frame.kept bindingId = false)
    (hwritten : moveSaga idempotencyKey expected target now store = .ok written) :
    frame.Holds written ∧ store.Extends written := by
  unfold moveSaga at hwritten
  split at hwritten
  · cases hwritten
  · split at hwritten
    · cases hwritten
      have hkeys (saga : ActionSaga) : (if saga.idempotencyKey = idempotencyKey ∧
          saga.state = expected then { saga with state := target, updatedAt := now }
          else saga).idempotencyKey = saga.idempotencyKey := by split <;> rfl
      have hids (saga : ActionSaga) : (if saga.idempotencyKey = idempotencyKey ∧
          saga.state = expected then { saga with state := target, updatedAt := now }
          else saga).bindingId = saga.bindingId := by split <;> rfl
      have hextends : store.Extends { store with
          sagas := store.sagas.map fun saga =>
            if saga.idempotencyKey = idempotencyKey ∧ saga.state = expected then
              { saga with state := target, updatedAt := now }
            else saga } := by
        refine ⟨List.prefix_refl _, List.prefix_refl _, ?_⟩
        rintro key other ⟨saga, hmem, hkey, hid⟩
        exact ⟨_, List.mem_map_of_mem hmem, (hkeys saga).trans hkey, (hids saga).trans hid⟩
      refine ⟨⟨⟨h.wellFormed.bindings, ?_, h.wellFormed.entries, ?_,
        h.wellFormed.predecessors⟩, ?_, h.like⟩, hextends⟩
      · rw [List.map_map]
        have hsame : store.sagas.map ((·.idempotencyKey) ∘ fun saga =>
            if saga.idempotencyKey = idempotencyKey ∧ saga.state = expected then
              { saga with state := target, updatedAt := now }
            else saga) = store.sagas.map (·.idempotencyKey) :=
          List.map_congr_left fun saga _ => hkeys saga
        rw [hsame]
        exact h.wellFormed.sagas
      · intro entry hentry hcheckpointed
        exact hextends.sagas _ _ (h.wellFormed.checkpoints entry hentry hcheckpointed)
      · rw [← h.part, InstanceStore.part, InstanceStore.part, filter_map_eq]
        intro saga hmem
        by_cases hmatches : saga.idempotencyKey = idempotencyKey ∧ saga.state = expected
        · obtain ⟨owned, howned, hkey, hid⟩ := hsaga
          have hone : saga = owned := List.inj_on_of_nodup_map h.wellFormed.sagas hmem howned
            (hmatches.1.trans hkey.symm)
          right
          rw [hids, hone, hid]
          exact ⟨hforeign, hforeign⟩
        · left
          rw [if_neg hmatches]
    · split at hwritten
      · cases hwritten
        exact ⟨h, .refl store⟩
      · cases hwritten

end Frame

end ReisOs.Instances
