import ReisOs.Core.Journals
import ReisOs.GovernanceRefactor.ScopedStore

/-!
# Three tables and one journal

The store is a journal of the envelopes it accepted as new: the n-th of them is row n of
the records and of the events, and its key is bound to one organization.  An append
extends the journal by its envelope, repeats the receipt of an entry, or leaves every
table as it was.
-/

namespace ReisOs.GovernanceRefactor

open ReisOs.Core

variable {N : Type} {library : Library N} {journal : List Envelope}

/-! ## The journal -/

/-- The tables of a journal. -/
def tables (library : Library N) (journal : List Envelope) : Database where
  records := (journal.zipIdx 1).map fun entry => recordRow library entry.2 entry.1
  events := (journal.zipIdx 1).map fun entry => eventRow library entry.2 entry.1
  scopes := journal.map scopeRow

/-- The envelope of a call that is accepted as new. -/
def appended (library : Library N) (database : Database) (call : AppendCall N) :
    List Envelope :=
  match prepare library call, (append library database call).2 with
  | .ok envelope, some (.ok receipt) => if receipt.replayed then [] else [envelope]
  | _, _ => []

/-- The envelopes of the calls that are accepted as new, in their order. -/
def journalFrom (library : Library N) : Database → List (AppendCall N) → List Envelope
  | _, [] => []
  | database, call :: calls =>
    appended library database call ++ journalFrom library (append library database call).1
      calls

def journalOf (library : Library N) (calls : List (AppendCall N)) : List Envelope :=
  journalFrom library .empty calls

theorem tables_concat (envelope : Envelope) :
    tables library (journal ++ [envelope]) =
      { records := (tables library journal).records ++
          [recordRow library (journal.length + 1) envelope]
        events := (tables library journal).events ++
          [eventRow library (journal.length + 1) envelope]
        scopes := (tables library journal).scopes ++ [scopeRow envelope] } := by
  simp [tables, List.zipIdx_append, Nat.add_comm]

theorem map_position_records :
    (tables library journal).records.map RecordRow.position =
      List.range' 1 journal.length := by
  rw [← List.zipIdx_map_snd 1 journal, tables, List.map_map]
  rfl

theorem map_position_events :
    (tables library journal).events.map EventRow.position =
      List.range' 1 journal.length := by
  rw [← List.zipIdx_map_snd 1 journal, tables, List.map_map]
  rfl

theorem map_key_records (library : Library N) :
    (tables library journal).records.map RecordRow.key = journal.map Envelope.key := by
  calc
    (tables library journal).records.map RecordRow.key =
        ((journal.zipIdx 1).map Prod.fst).map Envelope.key := by
      rw [tables, List.map_map, List.map_map]
      rfl
    _ = journal.map Envelope.key := by rw [List.zipIdx_map_fst]

theorem map_key_events :
    (tables library journal).events.map EventRow.key = journal.map Envelope.key := by
  calc
    (tables library journal).events.map EventRow.key =
        ((journal.zipIdx 1).map Prod.fst).map Envelope.key := by
      rw [tables, List.map_map, List.map_map]
      rfl
    _ = journal.map Envelope.key := by rw [List.zipIdx_map_fst]

theorem map_key_scopes (library : Library N) :
    (tables library journal).scopes.map ScopeRow.key = journal.map Envelope.key := by
  rw [tables, List.map_map]
  rfl

variable {entry : Envelope}

theorem exists_record (library : Library N) (hentry : entry ∈ journal) :
    ∃ position, (entry, position) ∈ journal.zipIdx 1 ∧
      recordRow library position entry ∈ (tables library journal).records := by
  rw [← List.zipIdx_map_fst 1 journal] at hentry
  obtain ⟨⟨found, position⟩, hfound, rfl⟩ := List.mem_map.mp hentry
  exact ⟨position, hfound, List.mem_map.mpr ⟨_, hfound, rfl⟩⟩

/-! ## One append -/

theorem nextPosition_concat (positions : List ℕ) (position : ℕ) :
    nextPosition (positions ++ [position]) = max (nextPosition positions) (position + 1) := by
  induction positions with
  | nil => simp [nextPosition]
  | cons first positions ih =>
    simp only [nextPosition, List.cons_append, List.foldr_cons] at ih ⊢
    omega

theorem nextPosition_range' (count : ℕ) : nextPosition (List.range' 1 count) = count + 1 := by
  induction count with
  | zero => rfl
  | succ count ih =>
    rw [List.range'_1_concat, nextPosition_concat, ih]
    omega

theorem existing_eq_none {key : Key} (hkey : key ∉ journal.map Envelope.key) :
    (tables library journal).existing key = none := by
  rw [Database.existing, Option.map_eq_none_iff, List.find?_eq_none]
  intro row hrow hrowKey
  apply hkey
  rw [← map_key_records library, List.mem_map]
  exact ⟨row, hrow, by simpa using hrowKey⟩

theorem existing_eq_some (library : Library N)
    (hkeys : (journal.map Envelope.key).Nodup) (hentry : entry ∈ journal) :
    ∃ position, (tables library journal).existing entry.key =
      some (recordRow library position entry, some entry.organizationId) := by
  obtain ⟨position, -, hrecord⟩ := exists_record library hentry
  have hrecords : ((tables library journal).records.map RecordRow.key).Nodup := by
    rw [map_key_records]
    exact hkeys
  have hscopes : ((tables library journal).scopes.map ScopeRow.key).Nodup := by
    rw [map_key_scopes]
    exact hkeys
  have hfirst : (tables library journal).records.find? (·.key = entry.key) =
      some (recordRow library position entry) :=
    (find?_key_eq_some_iff hrecords).mpr ⟨hrecord, rfl⟩
  have hscope : (tables library journal).scopes.find?
      (·.key = (recordRow library position entry).key) = some (scopeRow entry) :=
    (find?_key_eq_some_iff hscopes).mpr ⟨List.mem_map_of_mem hentry, rfl⟩
  use position
  rw [Database.existing, hfirst, Option.map_some, hscope]
  rfl

theorem checkRefs_refsJson (stored refs : List String) :
    checkRefs library (library.refsJson stored) refs =
      if stored = refs then .ok ()
      else .error (.projection "candidate_evidence_envelope_mismatch") := by
  rw [checkRefs, loads_refsJson]
  simp only [asRefs_list, Option.some.injEq]

/-- The entry is one of the same record and the same organization. -/
structure Agrees (entry envelope : Envelope) : Prop where
  key : entry.key = envelope.key
  organizationId : entry.organizationId = envelope.organizationId
  payloadHash : entry.payloadHash = envelope.payloadHash
  sourceRefs : entry.sourceRefs = envelope.sourceRefs
  provenanceRefs : entry.provenanceRefs = envelope.provenanceRefs

variable {envelope : Envelope}

/-- An entry is replayed for an envelope that agrees with it. -/
theorem replay_eq_ok_iff {position : ℕ} {receipt : Receipt}
    (hkey : entry.key = envelope.key) :
    replay library (recordRow library position entry) (some entry.organizationId) envelope =
        .ok receipt ↔
      Agrees entry envelope ∧ receipt = envelope.receipt true := by
  have hsame : envelope.receipt true =
      ⟨entry.recordType, entry.recordId, envelope.payloadHash, envelope.organizationId,
        true⟩ := by
    have hparts := hkey
    simp only [Envelope.key, Prod.mk.injEq] at hparts
    rw [Envelope.receipt, hparts.1, hparts.2.1]
  have hagrees : Agrees entry envelope ↔
      entry.organizationId = envelope.organizationId ∧
        entry.payloadHash = envelope.payloadHash ∧ entry.sourceRefs = envelope.sourceRefs ∧
        entry.provenanceRefs = envelope.provenanceRefs :=
    ⟨fun h => ⟨h.2, h.3, h.4, h.5⟩, fun h => ⟨hkey, h.1, h.2.1, h.2.2.1, h.2.2.2⟩⟩
  rw [hsame, hagrees]
  by_cases horganization : entry.organizationId = envelope.organizationId
  · by_cases hhash : entry.payloadHash = envelope.payloadHash
    · by_cases hsource : entry.sourceRefs = envelope.sourceRefs
      · by_cases hprovenance : entry.provenanceRefs = envelope.provenanceRefs
        · simp [replay, recordRow, checkRefs_refsJson, horganization, hhash, hsource,
            hprovenance, Bind.bind, Except.bind, Pure.pure, Except.pure, eq_comm]
        · simp [replay, recordRow, checkRefs_refsJson, horganization, hhash, hsource,
            hprovenance, Bind.bind, Except.bind]
      · simp [replay, recordRow, checkRefs_refsJson, horganization, hhash, hsource,
          Bind.bind, Except.bind]
    · simp [replay, recordRow, horganization, hhash]
  · simp [replay, horganization]

theorem exec_statements_old (library : Library N) (hkeys : (journal.map Envelope.key).Nodup) (hentry : entry ∈ journal)
    (hkey : entry.key = envelope.key) :
    ∃ position, (statements library envelope).exec (tables library journal) =
      (tables library journal,
        replay library (recordRow library position entry) (some entry.organizationId)
          envelope) := by
  obtain ⟨position, hexisting⟩ := existing_eq_some library hkeys hentry
  use position
  rw [hkey] at hexisting
  rw [statements, Script.exec_read_bind, Script.exec_read_bind, hexisting]
  cases hreplay : replay library (recordRow library position entry)
      (some entry.organizationId) envelope with
  | error error => simp [hreplay]
  | ok receipt => simp [hreplay]

/-- For a new key, the statements that return have written one row to each table. -/
theorem exec_statements_new
    (hnew : envelope.key ∉ journal.map Envelope.key) {after : Database} {receipt : Receipt}
    (h : (statements library envelope).exec (tables library journal) =
      (after, .ok receipt)) :
    after = tables library (journal ++ [envelope]) ∧ receipt = envelope.receipt false := by
  have hrecords : nextPosition ((tables library journal).records.map RecordRow.position) =
      journal.length + 1 := by
    rw [map_position_records, nextPosition_range']
  have hevents : nextPosition ((tables library journal).events.map EventRow.position) =
      journal.length + 1 := by
    rw [map_position_events, nextPosition_range']
  rw [statements, Script.exec_read_bind, Script.exec_read_bind, existing_eq_none hnew] at h
  simp only [Script.exec_read_bind, hrecords, hevents] at h
  obtain ⟨middle, _, hrecord, h⟩ := Script.exec_bind_eq_ok h
  obtain ⟨later, _, hevent, h⟩ := Script.exec_bind_eq_ok h
  obtain ⟨last, _, hscope, h⟩ := Script.exec_bind_eq_ok h
  rw [Script.exec_act, Database.insertRecord] at hrecord
  rw [Script.exec_act, Database.insertEvent] at hevent
  rw [Script.exec_act, Database.insertScope] at hscope
  split at hrecord
  · cases hrecord
  split at hevent
  · cases hevent
  split at hscope
  · cases hscope
  cases hrecord
  cases hevent
  cases hscope
  cases h
  rw [tables_concat]
  exact ⟨rfl, rfl⟩

/-! ## Every append -/

/-- What an append makes of a journal. -/
inductive Appends (library : Library N) (journal : List Envelope) (call : AppendCall N) :
    Prop where
  | new (envelope : Envelope) (hprepare : prepare library call = .ok envelope)
      (hkey : envelope.key ∉ journal.map Envelope.key)
      (happend : append library (tables library journal) call =
        (tables library (journal ++ [envelope]), some (.ok (envelope.receipt false))))
  | replayed (envelope entry : Envelope) (hprepare : prepare library call = .ok envelope)
      (hentry : entry ∈ journal) (hagrees : Agrees entry envelope)
      (happend : append library (tables library journal) call =
        (tables library journal, some (.ok (envelope.receipt true))))
  | refused
      (hdatabase : (append library (tables library journal) call).1 = tables library journal)
      (hanswer : ∀ receipt,
        (append library (tables library journal) call).2 ≠ some (.ok receipt))

theorem append_cases (library : Library N) (hkeys : (journal.map Envelope.key).Nodup)
    (call : AppendCall N) :
    Appends library journal call := by
  cases hprepare : prepare library call with
  | error error =>
    have happend : append library (tables library journal) call =
        (tables library journal, some (.error error)) := by
      rw [append, hprepare]
    apply Appends.refused
    · rw [happend]
    · intro receipt
      rw [happend]
      simp
  | ok envelope =>
    have happend : append library (tables library journal) call =
        (statements library envelope).transact call.failing (tables library journal) := by
      rw [append, hprepare]
    have hcases := Script.transact_cases (statements library envelope) call.failing
      (tables library journal)
    rw [← happend] at hcases
    rcases hcases with ⟨after, receipt, hexec, hcommitted⟩ | ⟨hdatabase, hanswer⟩
    · by_cases hnew : envelope.key ∉ journal.map Envelope.key
      · obtain ⟨rfl, rfl⟩ := exec_statements_new hnew hexec
        exact .new envelope hprepare hnew hcommitted
      · obtain ⟨entry, hentry, hkey⟩ := List.mem_map.mp (not_not.mp hnew)
        obtain ⟨position, hold⟩ :=
          exec_statements_old library hkeys hentry hkey
        rw [hold, Prod.mk.injEq] at hexec
        obtain ⟨rfl, hreplay⟩ := hexec
        obtain ⟨hagrees, rfl⟩ := (replay_eq_ok_iff hkey).mp hreplay
        exact .replayed envelope entry hprepare hentry hagrees hcommitted
    · exact .refused hdatabase hanswer

theorem append_eq_tables (library : Library N)
    (hkeys : (journal.map Envelope.key).Nodup) (call : AppendCall N) :
    (append library (tables library journal) call).1 =
        tables library (journal ++ appended library (tables library journal) call) ∧
      ((journal ++ appended library (tables library journal) call).map
        Envelope.key).Nodup := by
  cases append_cases library hkeys call with
  | new envelope hprepare hkey happend =>
    have hnew : appended library (tables library journal) call = [envelope] := by
      simp [appended, hprepare, happend, Envelope.receipt]
    rw [hnew, happend, List.map_append, List.map_singleton]
    refine ⟨rfl, hkeys.append (List.nodup_singleton _) ?_⟩
    exact List.disjoint_singleton.mpr hkey
  | replayed envelope entry hprepare hentry hagrees happend =>
    have hold : appended library (tables library journal) call = [] := by
      simp [appended, hprepare, happend, Envelope.receipt]
    rw [hold, happend, List.append_nil]
    exact ⟨rfl, hkeys⟩
  | refused hdatabase hanswer =>
    have hnone : appended library (tables library journal) call = [] := by
      unfold appended
      split
      · exact absurd ‹_› (hanswer _)
      · rfl
    rw [hnone, hdatabase, List.append_nil]
    exact ⟨rfl, hkeys⟩

theorem run_eq_tables (library : Library N) (hkeys : (journal.map Envelope.key).Nodup)
    (calls : List (AppendCall N)) :
    run (fun database call => (append library database call).1) (tables library journal)
          calls =
        tables library (journal ++ journalFrom library (tables library journal) calls) ∧
      ((journal ++ journalFrom library (tables library journal) calls).map
        Envelope.key).Nodup := by
  induction calls generalizing journal with
  | nil =>
    rw [journalFrom, List.append_nil]
    exact ⟨rfl, hkeys⟩
  | cons call calls ih =>
    obtain ⟨hstep, hnext⟩ := append_eq_tables library hkeys call
    rw [run_cons, journalFrom, hstep, ← List.append_assoc]
    exact ih hnext

theorem stored_eq_tables (library : Library N) (calls : List (AppendCall N)) :
    stored library calls = tables library (journalOf library calls) ∧
      ((journalOf library calls).map Envelope.key).Nodup := by
  have hkeys : (([] : List Envelope).map Envelope.key).Nodup := List.nodup_nil
  exact run_eq_tables library hkeys calls

theorem journalFrom_append (database : Database) (before later : List (AppendCall N)) :
    journalFrom library database (before ++ later) =
      journalFrom library database before ++
        journalFrom library
          (run (fun database call => (append library database call).1) database before)
          later := by
  induction before generalizing database with
  | nil => rfl
  | cons call before ih => rw [List.cons_append, journalFrom, ih, ← List.append_assoc]; rfl

theorem journalOf_append (before later : List (AppendCall N)) :
    journalOf library (before ++ later) =
      journalOf library before ++ journalFrom library (stored library before) later :=
  journalFrom_append .empty before later

/-! ## Repeated appends -/

theorem Agrees.receipt (h : Agrees entry envelope)
    (replayed : Bool) : entry.receipt replayed = envelope.receipt replayed := by
  have hparts := h.key
  simp only [Envelope.key, Prod.mk.injEq] at hparts
  rw [Envelope.receipt, Envelope.receipt, hparts.1, hparts.2.1, h.payloadHash,
    h.organizationId]

theorem Agrees.trans {first second third : Envelope} (h : Agrees first second)
    (hnext : Agrees second third) : Agrees first third :=
  ⟨h.1.trans hnext.1, h.2.trans hnext.2, h.3.trans hnext.3, h.4.trans hnext.4,
    h.5.trans hnext.5⟩

variable {call : AppendCall N}

theorem prepare_again {again : AppendCall N}
    (h : prepare library call = .ok envelope) (hrecord : again.record = call.record)
    (horganization : again.organizationId = call.organizationId)
    (htime : again.occurredAt.utcoffset ≠ none) :
    ∃ repeated, prepare library again = .ok repeated ∧ Agrees envelope repeated := by
  rw [prepare] at h ⊢
  rw [hrecord, horganization, if_neg htime]
  split at h
  · cases h
  split at h
  · cases h
  simp only at h ⊢
  split at h
  · cases h
  split at h
  · cases h
  split at h
  · cases h
  cases h
  rename_i hblank _ hversion htype _ _ _
  rw [if_neg hblank, if_neg hversion, if_neg htype]
  exact ⟨_, rfl, rfl, rfl, rfl, rfl, rfl⟩

theorem append_again (hkeys : (journal.map Envelope.key).Nodup)
    (hentry : entry ∈ journal) (hagrees : Agrees entry envelope)
    (hprepare : prepare library call = .ok envelope) :
    (append library (tables library journal) call).1 = tables library journal ∧
      (call.failing = none → (append library (tables library journal) call).2 =
        some (.ok (envelope.receipt true))) := by
  obtain ⟨position, hexec⟩ := exec_statements_old library hkeys hentry hagrees.key
  have hreplay : replay library (recordRow library position entry)
      (some entry.organizationId) envelope = .ok (envelope.receipt true) :=
    (replay_eq_ok_iff hagrees.key).mpr ⟨hagrees, rfl⟩
  rw [hreplay] at hexec
  rw [append, hprepare]
  constructor
  · rcases Script.transact_cases (statements library envelope) call.failing
      (tables library journal) with ⟨after, receipt, hcommitted, htransact⟩ | ⟨hsame, -⟩
    · rw [hexec] at hcommitted
      cases hcommitted
      exact congrArg Prod.fst htransact
    · exact hsame
  · intro halone
    have hanswer := Script.transact_alone (statements library envelope)
      (tables library journal)
    rw [hexec] at hanswer
    rw [halone]
    exact hanswer

theorem exists_entry {before : List (AppendCall N)} (later : List (AppendCall N))
    {receipt : Receipt}
    (h : (append library (stored library before) call).2 = some (.ok receipt)) :
    ∃ envelope entry, prepare library call = .ok envelope ∧
      entry ∈ journalOf library (before ++ call :: later) ∧ Agrees entry envelope ∧
      { receipt with replayed := true } = envelope.receipt true := by
  obtain ⟨hstored, hkeys⟩ := stored_eq_tables library before
  rw [journalOf_append, journalFrom, hstored]
  rw [hstored] at h
  cases append_cases library hkeys call with
  | new envelope hprepare hkey happend =>
    rw [happend] at h
    cases h
    refine ⟨envelope, envelope, hprepare, ?_, ⟨rfl, rfl, rfl, rfl, rfl⟩, rfl⟩
    have hnew : appended library (tables library (journalOf library before)) call =
        [envelope] := by
      simp [appended, hprepare, happend, Envelope.receipt]
    rw [hnew]
    simp
  | replayed envelope entry hprepare hentry hagrees happend =>
    rw [happend] at h
    cases h
    exact ⟨envelope, entry, hprepare, List.mem_append_left _ hentry, hagrees, rfl⟩
  | refused hdatabase hanswer => exact absurd h (hanswer receipt)

/-! ## Correspondence -/

/-- The record an event tells of. -/
def EventRow.record (row : EventRow) : RecordRow where
  position := row.position
  recordType := row.recordType
  recordId := row.recordId
  schemaVersion := row.schemaVersion
  payloadJson := row.payloadJson
  payloadHash := row.payloadHash
  sourceRefsJson := row.sourceRefsJson
  provenanceRefsJson := row.provenanceRefsJson
  writtenAt := row.occurredAt

/-- Row by row, the tables tell of the same records, no two of which have one key. -/
structure Corresponding (database : Database) : Prop where
  events : database.events.map EventRow.record = database.records
  scopes : (database.scopes.map fun row => (row.key, row.boundAt)) =
    database.records.map fun row => (row.key, row.writtenAt)
  keys : (database.records.map RecordRow.key).Nodup

/-- The append has no receipt. -/
def Refused (library : Library N) (database : Database) (call : AppendCall N) : Prop :=
  ∀ receipt, (append library database call).2 ≠ some (.ok receipt)

/-- The receipt is that of a stored event, and an append of the same record for the same
organization, at whatever time, repeats it and changes nothing. -/
structure Repeatable (library : Library N) (database : Database) (call : AppendCall N)
    (receipt : Receipt) : Prop where
  event : ∃ event ∈ database.events, event.recordType = receipt.recordType ∧
    event.recordId = receipt.recordId ∧ event.payloadHash = receipt.payloadHash
  scope : ∃ scope ∈ database.scopes, scope.recordType = receipt.recordType ∧
    scope.recordId = receipt.recordId ∧ scope.organizationId = receipt.organizationId
  unchanged : ∀ again : AppendCall N, again.record = call.record →
    again.organizationId = call.organizationId → again.occurredAt.utcoffset ≠ none →
    (append library database again).1 = database
  answer : ∀ again : AppendCall N, again.record = call.record →
    again.organizationId = call.organizationId → again.occurredAt.utcoffset ≠ none →
    again.failing = none →
    (append library database again).2 = some (.ok { receipt with replayed := true })

/-- The key is stored with another payload or for another organization. -/
def Conflicts (database : Database) (envelope : Envelope) : Prop :=
  (∃ row ∈ database.records, row.key = envelope.key ∧
    row.payloadHash ≠ envelope.payloadHash) ∨
  ∃ row ∈ database.scopes, row.key = envelope.key ∧
    row.organizationId ≠ envelope.organizationId

theorem corresponding_tables (hkeys : (journal.map Envelope.key).Nodup) :
    Corresponding (tables library journal) where
  events := by
    rw [tables, List.map_map]
    rfl
  scopes := by
    calc
      ((tables library journal).scopes.map fun row => (row.key, row.boundAt)) =
          ((journal.zipIdx 1).map Prod.fst).map
            fun entry => (entry.key, entry.timestamp) := by
        rw [List.zipIdx_map_fst, tables, List.map_map]
        rfl
      _ = (tables library journal).records.map fun row => (row.key, row.writtenAt) := by
        rw [tables, List.map_map, List.map_map]
        rfl
  keys := by
    rw [map_key_records]
    exact hkeys

theorem refused_of_conflicts (hkeys : (journal.map Envelope.key).Nodup)
    (hprepare : prepare library call = .ok envelope)
    (hconflicts : Conflicts (tables library journal) envelope) :
    Refused library (tables library journal) call := by
  -- the one entry of the key is the row that disagrees
  have hdisagrees : ∀ entry ∈ journal, entry.key = envelope.key →
      ¬Agrees entry envelope := by
    intro entry hentry hkey hagrees
    rcases hconflicts with ⟨row, hrow, hrowKey, hhash⟩ | ⟨row, hrow, hrowKey, horganization⟩
    · obtain ⟨⟨other, position⟩, hother, rfl⟩ := List.mem_map.mp hrow
      have hsame : other = entry := List.inj_on_of_nodup_map hkeys
        (List.fst_mem_of_mem_zipIdx hother) hentry (hrowKey.trans hkey.symm)
      apply hhash
      exact (congrArg Envelope.payloadHash hsame).trans hagrees.payloadHash
    · obtain ⟨other, hother, rfl⟩ := List.mem_map.mp hrow
      have hsame : other = entry := List.inj_on_of_nodup_map hkeys hother hentry
        (hrowKey.trans hkey.symm)
      apply horganization
      exact (congrArg Envelope.organizationId hsame).trans hagrees.organizationId
  have hmem : envelope.key ∈ journal.map Envelope.key := by
    rw [← map_key_scopes library]
    rcases hconflicts with ⟨row, hrow, hrowKey, -⟩ | ⟨row, hrow, hrowKey, -⟩
    · rw [map_key_scopes, ← map_key_records library, ← hrowKey]
      exact List.mem_map_of_mem hrow
    · rw [← hrowKey]
      exact List.mem_map_of_mem hrow
  intro receipt hreceipt
  cases append_cases library hkeys call with
  | new found hfound hkey happend =>
    rw [hprepare] at hfound
    cases hfound
    exact hkey hmem
  | replayed found entry hfound hentry hagrees happend =>
    rw [hprepare] at hfound
    cases hfound
    exact hdisagrees entry hentry hagrees.key hagrees
  | refused hdatabase hanswer => exact hanswer receipt hreceipt

theorem repeatable_stored {before later : List (AppendCall N)}
    {receipt : Receipt}
    (h : (append library (stored library before) call).2 = some (.ok receipt)) :
    Repeatable library (stored library (before ++ call :: later)) call receipt := by
  obtain ⟨envelope, entry, hprepare, hentry, hagrees, hreceipt⟩ :=
    exists_entry later h
  obtain ⟨hstored, hkeys⟩ :=
    stored_eq_tables library (before ++ call :: later)
  rw [← hagrees.receipt] at hreceipt
  simp only [Envelope.receipt, Receipt.mk.injEq, and_true] at hreceipt
  obtain ⟨htype, hid, hhash, horganization⟩ := hreceipt
  rw [hstored]
  obtain ⟨position, hposition, -⟩ := exists_record library hentry
  have hagain : ∀ again : AppendCall N, again.record = call.record →
      again.organizationId = call.organizationId → again.occurredAt.utcoffset ≠ none →
      ∃ repeated, prepare library again = .ok repeated ∧ Agrees entry repeated := by
    intro again hrecord hsame htime
    obtain ⟨repeated, hrepeated, hrest⟩ := prepare_again hprepare hrecord hsame htime
    exact ⟨repeated, hrepeated, hagrees.trans hrest⟩
  constructor
  · refine ⟨eventRow library position entry, List.mem_map.mpr ⟨_, hposition, rfl⟩, ?_⟩
    exact ⟨htype.symm, hid.symm, hhash.symm⟩
  · refine ⟨scopeRow entry, List.mem_map_of_mem hentry, ?_⟩
    exact ⟨htype.symm, hid.symm, horganization.symm⟩
  · intro again hrecord hsame htime
    obtain ⟨repeated, hrepeated, hrest⟩ := hagain again hrecord hsame htime
    exact (append_again hkeys hentry hrest hrepeated).1
  · intro again hrecord hsame htime halone
    obtain ⟨repeated, hrepeated, hrest⟩ := hagain again hrecord hsame htime
    rw [(append_again hkeys hentry hrest hrepeated).2 halone, ← hrest.receipt,
      Envelope.receipt, htype, hid, hhash, horganization]

/-- Over every sequence of appends the tables correspond, events are numbered in the
order of the appends, an accepted append can be repeated, and whatever is refused leaves
the tables as they were. -/
theorem appends_correspond (library : Library N) (calls : List (AppendCall N)) :
    Corresponding (stored library calls) ∧
      (stored library calls).events.map EventRow.position =
        List.range' 1 (stored library calls).events.length ∧
      (stored library calls).events.map EventRow.key =
        (journalOf library calls).map Envelope.key ∧
      (∀ before call later receipt, calls = before ++ call :: later →
        (append library (stored library before) call).2 = some (.ok receipt) →
        Repeatable library (stored library calls) call receipt) ∧
      (∀ call envelope, prepare library call = .ok envelope →
        Conflicts (stored library calls) envelope →
        Refused library (stored library calls) call) ∧
      ∀ call, Refused library (stored library calls) call →
        (append library (stored library calls) call).1 = stored library calls := by
  obtain ⟨hstored, hkeys⟩ := stored_eq_tables library calls
  have hlength : (stored library calls).events.length = (journalOf library calls).length := by
    rw [hstored, tables, List.length_map, List.length_zipIdx]
  refine ⟨?_, ?_, ?_, ?_, ?_, ?_⟩
  · rw [hstored]
    exact corresponding_tables hkeys
  · rw [hlength, hstored, map_position_events]
  · rw [hstored, map_key_events]
  · rintro before call later receipt rfl hreceipt
    exact repeatable_stored hreceipt
  · rw [hstored]
    exact fun call envelope hprepare => refused_of_conflicts hkeys hprepare
  · rw [hstored]
    intro call hrefused
    cases append_cases library hkeys call with
    | new envelope hprepare hkey happend =>
      exact absurd (congrArg Prod.snd happend) (hrefused _)
    | replayed envelope entry hprepare hentry hagrees happend =>
      exact absurd (congrArg Prod.snd happend) (hrefused _)
    | refused hdatabase hanswer => exact hdatabase

end ReisOs.GovernanceRefactor
