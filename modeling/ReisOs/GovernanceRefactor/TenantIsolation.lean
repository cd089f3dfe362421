import ReisOs.Core.Fallible
import ReisOs.GovernanceRefactor.Correspondence
import ReisOs.GovernanceRefactor.Projections

/-!
# Isolation of organizations

The scopes join an organization to exactly the journal entries that were accepted from
it.  The four projections read nothing else, so an append of another organization, in
whatever way it ends, does not show in them.
-/

namespace ReisOs.GovernanceRefactor

open ReisOs.Core

variable {N : Type} {library : Library N} {journal : List Envelope}
variable {organizationId : String}

/-! ## Joins -/

/-- The numbered entries of an organization. -/
def entriesOf (journal : List Envelope) (organizationId : String) : List (Envelope × ℕ) :=
  (journal.zipIdx 1).filter fun entry => entry.1.organizationId = organizationId

theorem filter_scopes (hkeys : (journal.map Envelope.key).Nodup) {entry : Envelope}
    (hentry : entry ∈ journal) :
    ((tables library journal).scopes.filter fun scope =>
        scope.key = entry.key ∧ scope.organizationId = organizationId) =
      if entry.organizationId = organizationId then [scopeRow entry] else [] := by
  have hscopes : ((tables library journal).scopes.map ScopeRow.key).Nodup := by
    rw [map_key_scopes]
    exact hkeys
  have hone : (tables library journal).scopes.filter (·.key = (scopeRow entry).key) =
      [scopeRow entry] :=
    filter_key_eq_singleton hscopes (List.mem_map_of_mem hentry)
  calc
    ((tables library journal).scopes.filter fun scope =>
          scope.key = entry.key ∧ scope.organizationId = organizationId) =
        ((tables library journal).scopes.filter (·.key = (scopeRow entry).key)).filter
          (·.organizationId = organizationId) := by
      rw [List.filter_filter]
      apply List.filter_congr
      intro scope _
      rw [Bool.decide_and, Bool.and_comm]
      rfl
    _ = [scopeRow entry].filter (·.organizationId = organizationId) := by rw [hone]
    _ = if entry.organizationId = organizationId then [scopeRow entry] else [] := by
      by_cases horganization : entry.organizationId = organizationId
      · simp [scopeRow, horganization]
      · simp [scopeRow, horganization]

theorem joined_tables {R : Type} (hkeys : (journal.map Envelope.key).Nodup)
    {key : R → Key} {row : Envelope × ℕ → R} (hrow : ∀ entry, key (row entry) = entry.1.key) :
    (tables library journal).joined key ((journal.zipIdx 1).map row) organizationId =
      (entriesOf journal organizationId).map row := by
  have hpart : ∀ entries : List (Envelope × ℕ), (∀ entry ∈ entries, entry.1 ∈ journal) →
      (tables library journal).joined key (entries.map row) organizationId =
        (entries.filter fun entry => entry.1.organizationId = organizationId).map row := by
    intro entries hentries
    induction entries with
    | nil => rfl
    | cons entry entries ih =>
      rw [List.forall_mem_cons] at hentries
      have hrest := ih hentries.2
      rw [Database.joined] at hrest
      rw [List.map_cons, Database.joined, List.flatMap_cons, hrest, hrow,
        filter_scopes hkeys hentries.1]
      by_cases horganization : entry.1.organizationId = organizationId
      · rw [if_pos horganization, List.filter_cons_of_pos (by simpa using horganization)]
        rfl
      · rw [if_neg horganization, List.filter_cons_of_neg (by simpa using horganization)]
        rfl
  exact hpart _ fun entry hentry => List.fst_mem_of_mem_zipIdx hentry

theorem joinedRecords_tables (hkeys : (journal.map Envelope.key).Nodup) :
    (tables library journal).joinedRecords organizationId =
      (entriesOf journal organizationId).map fun entry => recordRow library entry.2 entry.1 :=
  joined_tables hkeys fun _ => rfl

theorem joinedEvents_tables (hkeys : (journal.map Envelope.key).Nodup) :
    (tables library journal).joinedEvents organizationId =
      (entriesOf journal organizationId).map fun entry => eventRow library entry.2 entry.1 :=
  joined_tables hkeys fun _ => rfl

variable {envelope : Envelope}

theorem entriesOf_concat
    (h : envelope.organizationId ≠ organizationId) :
    entriesOf (journal ++ [envelope]) organizationId = entriesOf journal organizationId := by
  rw [entriesOf, List.zipIdx_append, List.filter_append]
  simp [entriesOf, h]

/-! ## Accepted records -/

/-- The envelope is that of a call of the organization that was accepted as new. -/
def AcceptedFrom (library : Library N) (calls : List (AppendCall N))
    (organizationId : String) (envelope : Envelope) : Prop :=
  ∃ before call later, calls = before ++ call :: later ∧
    call.organizationId = organizationId ∧ prepare library call = .ok envelope ∧
    (append library (stored library before) call).2 = some (.ok (envelope.receipt false))

variable {call : AppendCall N}

theorem prepare_organizationId
    (h : prepare library call = .ok envelope) :
    envelope.organizationId = call.organizationId := by
  rw [prepare] at h
  split at h
  · cases h
  split at h
  · cases h
  simp only at h
  split at h
  · cases h
  split at h
  · cases h
  split at h
  · cases h
  cases h
  rfl

variable {calls : List (AppendCall N)}

theorem AcceptedFrom.append {later : List (AppendCall N)}
    (h : AcceptedFrom library calls organizationId envelope) :
    AcceptedFrom library (calls ++ later) organizationId envelope := by
  obtain ⟨before, call, between, rfl, hcall⟩ := h
  exact ⟨before, call, between ++ later, by simp, hcall⟩

theorem mem_appended {database : Database}
    (h : envelope ∈ appended library database call) :
    prepare library call = .ok envelope ∧
      ∃ receipt, (append library database call).2 = some (.ok receipt) ∧
        receipt.replayed = false := by
  unfold appended at h
  split at h
  · rename_i found receipt hprepare hanswer
    split at h
    · cases h
    · cases List.mem_singleton.mp h
      exact ⟨hprepare, receipt, hanswer, by simpa using ‹¬receipt.replayed = true›⟩
  · cases h

theorem acceptedFrom_of_mem {entry : Envelope}
    (h : entry ∈ journalOf library calls) :
    AcceptedFrom library calls entry.organizationId entry := by
  induction calls using List.reverseRecOn with
  | nil => cases h
  | append_singleton calls call ih =>
    rw [journalOf_append, List.mem_append] at h
    rcases h with hold | hnew
    · exact (ih hold).append
    · rw [journalFrom, journalFrom, List.append_nil] at hnew
      obtain ⟨hprepare, receipt, hanswer, hfresh⟩ := mem_appended hnew
      obtain ⟨hstored, hkeys⟩ := stored_eq_tables library calls
      refine ⟨calls, call, [], rfl, (prepare_organizationId hprepare).symm, hprepare, ?_⟩
      rw [hstored] at hanswer ⊢
      cases append_cases library hkeys call with
      | new envelope hfound hkey happend =>
        rw [hprepare] at hfound
        cases hfound
        exact congrArg Prod.snd happend
      | replayed envelope entry hfound hentry hagrees happend =>
        rw [happend] at hanswer
        cases hanswer
        cases hfresh
      | refused hdatabase hrefused => exact absurd hanswer (hrefused receipt)

theorem acceptedFrom_of_mem_entriesOf
    {entry : Envelope × ℕ} (h : entry ∈ entriesOf (journalOf library calls) organizationId) :
    AcceptedFrom library calls organizationId entry.1 := by
  obtain ⟨hentry, horganization⟩ := List.mem_filter.mp h
  have haccepted := acceptedFrom_of_mem (List.fst_mem_of_mem_zipIdx hentry)
  rwa [of_decide_eq_true horganization] at haccepted

theorem exists_of_mem_joinedRecords {row : RecordRow}
    (h : row ∈ (stored library calls).joinedRecords organizationId) :
    ∃ envelope position, AcceptedFrom library calls organizationId envelope ∧
      row = recordRow library position envelope := by
  obtain ⟨hstored, hkeys⟩ := stored_eq_tables library calls
  rw [hstored, joinedRecords_tables hkeys] at h
  obtain ⟨entry, hentry, rfl⟩ := List.mem_map.mp h
  exact ⟨entry.1, entry.2, acceptedFrom_of_mem_entriesOf hentry, rfl⟩

theorem exists_of_mem_joinedEvents {row : EventRow}
    (h : row ∈ (stored library calls).joinedEvents organizationId) :
    ∃ envelope position, AcceptedFrom library calls organizationId envelope ∧
      row = eventRow library position envelope := by
  obtain ⟨hstored, hkeys⟩ := stored_eq_tables library calls
  rw [hstored, joinedEvents_tables hkeys] at h
  obtain ⟨entry, hentry, rfl⟩ := List.mem_map.mp h
  exact ⟨entry.1, entry.2, acceptedFrom_of_mem_entriesOf hentry, rfl⟩

/-! ## What the projections return -/

theorem mem_of_mem_page {A K : Type} [LinearOrder K] {column : A → K} {rows : List A}
    {selected : A → Bool} {count : ℕ} {row : A}
    (h : row ∈ (ascending column (rows.filter selected)).take count) : row ∈ rows := by
  have hsorted := List.mem_of_mem_take h
  rw [ascending, List.mem_insertionSort] at hsorted
  exact (List.mem_filter.mp hsorted).1

variable {health : Health}

theorem listed_accepted
    {filters : CandidateFilter} {cursor limit : ℤ} {now : Moment}
    {page : Page (CandidateItem N)}
    (h : listCandidates library (stored library calls) health organizationId filters cursor
      limit now = .ok page) {item : CandidateItem N} (hitem : item ∈ page.items) :
    ∃ envelope position, AcceptedFrom library calls organizationId envelope ∧
      candidateItem library (recordRow library position envelope) now = .ok item := by
  obtain ⟨-, -, h⟩ := bind_eq_ok h
  by_cases hhealth : health ≠ .available
  · rw [if_pos hhealth] at h
    cases h
    cases hitem
  · rw [if_neg hhealth] at h
    obtain ⟨items, hitems, h⟩ := bind_eq_ok h
    cases h
    obtain ⟨row, hrow, hread⟩ := mem_of_mapM_eq_ok hitems (List.mem_of_mem_take hitem)
    obtain ⟨envelope, position, haccepted, rfl⟩ :=
      exists_of_mem_joinedRecords (mem_of_mem_page hrow)
    exact ⟨envelope, position, haccepted, hread⟩

theorem found_accepted
    {recordType recordId : String} {now : Moment} {item : CandidateItem N}
    (h : getCandidate library (stored library calls) health organizationId recordType
      recordId now = .ok item) :
    ∃ envelope position, AcceptedFrom library calls organizationId envelope ∧
      candidateItem library (recordRow library position envelope) now = .ok item := by
  obtain ⟨-, -, h⟩ := bind_eq_ok h
  split at h
  · cases h
  split at h
  · cases h
  split at h
  · cases h
  · rename_i row rest hrows
    have hrow : row ∈ (stored library calls).joinedRecords organizationId := by
      apply List.mem_of_mem_filter
      rw [hrows]
      exact List.mem_cons_self
    obtain ⟨envelope, position, haccepted, rfl⟩ := exists_of_mem_joinedRecords hrow
    exact ⟨envelope, position, haccepted, h⟩

theorem told_accepted {cursor limit : ℤ}
    {page : Page EventItem}
    (h : events library (stored library calls) health organizationId cursor limit =
      .ok page) {item : EventItem} (hitem : item ∈ page.items) :
    ∃ envelope position, AcceptedFrom library calls organizationId envelope ∧
      eventItem library (eventRow library position envelope) = .ok item := by
  obtain ⟨-, -, h⟩ := bind_eq_ok h
  by_cases hhealth : health ≠ .available
  · rw [if_pos hhealth] at h
    cases h
    cases hitem
  · rw [if_neg hhealth] at h
    obtain ⟨items, hitems, h⟩ := bind_eq_ok h
    cases h
    obtain ⟨row, hrow, hread⟩ := mem_of_mapM_eq_ok hitems hitem
    obtain ⟨envelope, position, haccepted, rfl⟩ :=
      exists_of_mem_joinedEvents (mem_of_mem_page (List.mem_of_mem_take hrow))
    exact ⟨envelope, position, haccepted, hread⟩

/-- What is counted under a type are different accepted records of it. -/
theorem counted_accepted {answer : Summary}
    (h : summary (stored library calls) health organizationId = .ok answer)
    {recordType : String} {count : ℕ} (hcount : (recordType, count) ∈ answer.countsByType) :
    ∃ accepted : List Envelope, accepted.length = count ∧
      (accepted.map Envelope.key).Nodup ∧ ∀ envelope ∈ accepted,
        envelope.recordType = recordType ∧
          AcceptedFrom library calls organizationId envelope := by
  obtain ⟨-, -, h⟩ := bind_eq_ok h
  by_cases hhealth : health ≠ .available
  · rw [if_pos hhealth] at h
    cases h
    cases hcount
  · rw [if_neg hhealth] at h
    cases h
    obtain ⟨found, hfound, heq⟩ := List.mem_map.mp hcount
    cases heq
    obtain ⟨hstored, hkeys⟩ := stored_eq_tables library calls
    have hallowed : recordType ∈ allowedRecordTypes := by
      rw [ascending, List.mem_insertionSort, List.mem_dedup] at hfound
      simpa using (List.mem_filter.mp hfound).2
    let entries := (entriesOf (journalOf library calls) organizationId).filter
      fun entry => entry.1.recordType = recordType
    refine ⟨entries.map Prod.fst, ?_, ?_, ?_⟩
    · rw [List.length_map, List.count_filter (by simpa using hallowed), hstored,
        joinedRecords_tables hkeys, List.map_map, List.count, List.countP_map,
        List.countP_eq_length_filter]
      rfl
    · refine List.Nodup.sublist ?_ hkeys
      apply List.Sublist.map
      rw [← List.zipIdx_map_fst 1 (journalOf library calls)]
      exact (List.filter_sublist.trans List.filter_sublist).map Prod.fst
    · intro envelope henvelope
      obtain ⟨entry, hentry, rfl⟩ := List.mem_map.mp henvelope
      obtain ⟨hmem, htype⟩ := List.mem_filter.mp hentry
      exact ⟨of_decide_eq_true htype, acceptedFrom_of_mem_entriesOf hmem⟩

/-! ## Isolation -/

/-- The projections of an organization are the same for both databases. -/
structure SameViews (library : Library N) (before after : Database)
    (organizationId : String) : Prop where
  listCandidates : ∀ health filters cursor limit now,
    listCandidates library after health organizationId filters cursor limit now =
      listCandidates library before health organizationId filters cursor limit now
  getCandidate : ∀ health recordType recordId now,
    getCandidate library after health organizationId recordType recordId now =
      getCandidate library before health organizationId recordType recordId now
  events : ∀ health cursor limit,
    events library after health organizationId cursor limit =
      events library before health organizationId cursor limit
  summary : ∀ health,
    summary after health organizationId = summary before health organizationId

theorem SameViews.of_joined {before after : Database}
    (hrecords : after.joinedRecords organizationId = before.joinedRecords organizationId)
    (hevents : after.joinedEvents organizationId = before.joinedEvents organizationId) :
    SameViews library before after organizationId where
  listCandidates := by
    intro health filters cursor limit now
    rw [GovernanceRefactor.listCandidates, hrecords]
    rfl
  getCandidate := by
    intro health recordType recordId now
    rw [GovernanceRefactor.getCandidate, hrecords]
    rfl
  events := by
    intro health cursor limit
    rw [GovernanceRefactor.events, hevents]
    rfl
  summary := by
    intro health
    rw [GovernanceRefactor.summary, hrecords]
    rfl

theorem sameViews_append
    (h : call.organizationId ≠ organizationId) :
    SameViews library (stored library calls)
      (append library (stored library calls) call).1 organizationId := by
  obtain ⟨hstored, hkeys⟩ := stored_eq_tables library calls
  rw [hstored]
  cases append_cases library hkeys call with
  | new envelope hprepare hkey happend =>
    have hother : envelope.organizationId ≠ organizationId := by
      rw [prepare_organizationId hprepare]
      exact h
    have hnext := (append_eq_tables library hkeys call).2
    have hnew : appended library (tables library (journalOf library calls)) call =
        [envelope] := by
      simp [appended, hprepare, happend, Envelope.receipt]
    rw [hnew] at hnext
    rw [happend]
    apply SameViews.of_joined
    · rw [joinedRecords_tables hkeys, joinedRecords_tables hnext, entriesOf_concat hother]
    · rw [joinedEvents_tables hkeys, joinedEvents_tables hnext, entriesOf_concat hother]
  | replayed envelope entry hprepare hentry hagrees happend =>
    rw [happend]
    exact .of_joined rfl rfl
  | refused hdatabase hanswer =>
    rw [hdatabase]
    exact .of_joined rfl rfl

/-- The projections of an organization return what was accepted from it, and no append of
another organization changes what they return. -/
theorem organizations_isolated (library : Library N) (calls : List (AppendCall N))
    (organizationId : String) :
    (∀ health filters cursor limit now page,
      listCandidates library (stored library calls) health organizationId filters cursor
          limit now = .ok page →
        ∀ item ∈ page.items, ∃ envelope position,
          AcceptedFrom library calls organizationId envelope ∧
            candidateItem library (recordRow library position envelope) now = .ok item) ∧
      (∀ health recordType recordId now item,
        getCandidate library (stored library calls) health organizationId recordType
            recordId now = .ok item →
          ∃ envelope position, AcceptedFrom library calls organizationId envelope ∧
            candidateItem library (recordRow library position envelope) now = .ok item) ∧
      (∀ health cursor limit page,
        events library (stored library calls) health organizationId cursor limit =
            .ok page →
          ∀ item ∈ page.items, ∃ envelope position,
            AcceptedFrom library calls organizationId envelope ∧
              eventItem library (eventRow library position envelope) = .ok item) ∧
      (∀ health answer,
        summary (stored library calls) health organizationId = .ok answer →
          ∀ recordType count, (recordType, count) ∈ answer.countsByType →
            ∃ accepted : List Envelope, accepted.length = count ∧
              (accepted.map Envelope.key).Nodup ∧ ∀ envelope ∈ accepted,
                envelope.recordType = recordType ∧
                  AcceptedFrom library calls organizationId envelope) ∧
      ∀ call : AppendCall N, call.organizationId ≠ organizationId →
        SameViews library (stored library calls)
          (append library (stored library calls) call).1 organizationId := by
  refine ⟨?_, ?_, ?_, ?_, ?_⟩
  · intro health filters cursor limit now page hpage item hitem
    exact listed_accepted hpage hitem
  · intro health recordType recordId now item hitem
    exact found_accepted hitem
  · intro health cursor limit page hpage item hitem
    exact told_accepted hpage hitem
  · intro health answer hanswer recordType count hcount
    exact counted_accepted hanswer hcount
  · intro call hcall
    exact sameViews_append hcall

end ReisOs.GovernanceRefactor
