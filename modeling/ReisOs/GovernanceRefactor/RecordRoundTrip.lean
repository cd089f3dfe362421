import ReisOs.GovernanceRefactor.CursorPaging

/-!
# Round trips of candidate records

A record that `append` accepted is returned to its organization by every projection:
once, and with the normalised record as its payload.
-/

namespace ReisOs.GovernanceRefactor

open ReisOs.Core

variable {N : Type} {library : Library N} {calls before later : List (AppendCall N)}
  {call : AppendCall N} {receipt : Receipt}

/-! ## The entry of an accepted record -/

/-- Two texts share a digest. -/
def Collision (library : Library N) : Prop :=
  ∃ left right, left ≠ right ∧ library.sha256 left = library.sha256 right

/-- The payload is the JSON form of the record, unless two texts share a digest. -/
def IsWritten (library : Library N) (record : CandidateRecord N) (payload : PyValue N) :
    Prop :=
  payload = (PyValue.dict (library.payload record)).readBack ∨ Collision library

/-- The entry is that of the receipt, and its payload is the record's. -/
structure EntryOf (library : Library N) (call : AppendCall N) (receipt : Receipt)
    (entry : Envelope × ℕ) : Prop where
  recordType : entry.1.recordType = receipt.recordType
  recordId : entry.1.recordId = receipt.recordId
  schemaVersion : entry.1.schemaVersion = schemaVersion
  organizationId : entry.1.organizationId = call.organizationId
  payload : ∃ record, entry.1.Of library record ∧
    IsWritten library call.record (PyValue.dict (library.payload record)).readBack

theorem isWritten_of_sameHash {record other : CandidateRecord N}
    (h : library.sha256 (library.canonicalJson (.dict (library.payload record))) =
      library.sha256 (library.canonicalJson (.dict (library.payload other)))) :
    IsWritten library record (PyValue.dict (library.payload other)).readBack := by
  by_cases hsame : library.canonicalJson (.dict (library.payload record)) =
      library.canonicalJson (.dict (library.payload other))
  · have hread := loads_canonicalJson library (.dict (library.payload other))
    rw [← hsame, loads_canonicalJson, Option.some_inj] at hread
    exact .inl hread.symm
  · exact .inr ⟨_, _, hsame, h⟩

theorem exists_entryOf
    (hbuilt : ∀ other ∈ before ++ call :: later, other.record.Built)
    (haccepted : (append library (stored library before) call).2 = some (.ok receipt)) :
    ∃ entry ∈ entriesOf (journalOf library (before ++ call :: later)) call.organizationId,
      EntryOf library call receipt entry := by
  obtain ⟨envelope, entry, hprepare, hentry, hagrees, hreceipt⟩ :=
    exists_entry later haccepted
  have hmem : call ∈ before ++ call :: later :=
    List.mem_append_right before List.mem_cons_self
  have henvelope := Envelope.Of.of_prepare hprepare (hbuilt call hmem)
  have horganization : entry.organizationId = call.organizationId :=
    hagrees.organizationId.trans (prepare_organizationId hprepare)
  obtain ⟨position, hposition, -⟩ := exists_record library hentry
  have hin : (entry, position) ∈ entriesOf (journalOf library (before ++ call :: later))
      call.organizationId :=
    List.mem_filter.mpr ⟨hposition, decide_eq_true horganization⟩
  obtain ⟨other, -, hof⟩ := exists_call hbuilt hin
  rw [← hagrees.receipt] at hreceipt
  simp only [Envelope.receipt, Receipt.mk.injEq, and_true] at hreceipt
  refine ⟨(entry, position), hin, hreceipt.1.symm, hreceipt.2.1.symm, hof.schemaVersion,
    horganization, other.record, hof, ?_⟩
  apply isWritten_of_sameHash
  have hhash := hagrees.payloadHash
  rw [hof.payloadHash, henvelope.payloadHash, hof.payloadJson, henvelope.payloadJson] at hhash
  exact hhash.symm

variable {organizationId : String}

theorem entriesOf_inj {left right : Envelope × ℕ}
    (hleft : left ∈ entriesOf (journalOf library calls) organizationId)
    (hright : right ∈ entriesOf (journalOf library calls) organizationId)
    (hkey : left.1.key = right.1.key) : left = right := by
  have hkeys := (stored_eq_tables library calls).2
  have hentries : ((journalOf library calls).zipIdx 1).map (fun entry => entry.1.key) =
      (journalOf library calls).map Envelope.key := by
    calc
      ((journalOf library calls).zipIdx 1).map (fun entry => entry.1.key) =
          (((journalOf library calls).zipIdx 1).map Prod.fst).map Envelope.key := by
        rw [List.map_map]
        rfl
      _ = (journalOf library calls).map Envelope.key := by rw [List.zipIdx_map_fst]
  rw [← hentries] at hkeys
  exact List.inj_on_of_nodup_map hkeys (List.mem_of_mem_filter hleft)
    (List.mem_of_mem_filter hright) hkey

/-! ## Once in a listing -/

theorem filter_eq_singleton {I : Type} {position : I → ℕ} {items : List I}
    (hsorted : (items.map position).Pairwise (· < ·)) {named : I → Bool} {item : I}
    (hitem : item ∈ items) (hnamed : named item = true)
    (honly : ∀ other ∈ items, named other = true → position other = position item) :
    items.filter named = [item] := by
  have hnodup : items.Nodup := by
    apply List.Nodup.of_map position
    exact hsorted.imp fun hlt => hlt.ne
  have hsame : ∀ other ∈ items.filter named, other = item := by
    intro other hother
    obtain ⟨hmem, hother⟩ := List.mem_filter.mp hother
    have hpositions : (items.map position).Nodup := hsorted.imp fun hlt => hlt.ne
    exact List.inj_on_of_nodup_map hpositions hmem hitem (honly other hmem hother)
  have hmem : item ∈ items.filter named := List.mem_filter.mpr ⟨hitem, hnamed⟩
  have hfiltered : (items.filter named).Nodup := hnodup.filter _
  generalize items.filter named = filtered at hsame hmem hfiltered
  cases filtered with
  | nil => cases hmem
  | cons first rest =>
    obtain rfl := hsame first List.mem_cons_self
    cases rest with
    | nil => rfl
    | cons second rest =>
      have hsecond := hsame second (List.mem_cons_of_mem _ List.mem_cons_self)
      rw [hsecond, List.nodup_cons] at hfiltered
      exact absurd List.mem_cons_self hfiltered.1

/-! ## What is returned -/

theorem prepare_organization_not_blank {envelope : Envelope}
    (h : prepare library call = .ok envelope) :
    isBlankText call.organizationId = false := by
  rw [prepare] at h
  split at h
  · cases h
  · rename_i hblank
    exact Bool.eq_false_iff.mpr hblank

/-- The key of a receipt. -/
def Receipt.key (receipt : Receipt) : Key :=
  (receipt.recordType, receipt.recordId, schemaVersion)

variable {entry : Envelope × ℕ}

theorem EntryOf.key (h : EntryOf library call receipt entry) :
    entry.1.key = receipt.key := by
  rw [Envelope.key, h.recordType, h.recordId, h.schemaVersion]
  rfl

theorem EntryOf.eq_of_named (hbuilt : ∀ other ∈ calls, other.record.Built)
    {other : Envelope × ℕ}
    (hentry : entry ∈ entriesOf (journalOf library calls) organizationId)
    (h : EntryOf library call receipt entry)
    (hother : other ∈ entriesOf (journalOf library calls) organizationId)
    (htype : other.1.recordType = receipt.recordType)
    (hid : other.1.recordId = receipt.recordId) : other = entry := by
  obtain ⟨found, -, hof⟩ := exists_call hbuilt hother
  apply entriesOf_inj hother hentry
  rw [h.key, Envelope.key, htype, hid, hof.schemaVersion]
  rfl

theorem EntryOf.shown (h : EntryOf library call receipt entry)
    {now : Moment} {item : CandidateItem N} (hitem : ShowsCandidate library now entry item)
    (hnow : now.utcoffset ≠ none) : IsWritten library call.record item.payload := by
  obtain ⟨record, hof, hwritten⟩ := h.payload
  obtain ⟨found, hfound, -, -, -, hpayload⟩ := hof.candidateItem entry.2 hnow
  obtain rfl : found = item := Except.ok.inj (hfound.symm.trans hitem)
  rw [hpayload]
  exact hwritten

theorem candidateItem_named {row : RecordRow} {now : Moment} {item : CandidateItem N}
    (h : candidateItem library row now = .ok item) :
    item.recordType = row.recordType ∧ item.recordId = row.recordId := by
  obtain ⟨_, -, h⟩ := bind_eq_ok h
  obtain ⟨_, -, h⟩ := bind_eq_ok h
  obtain ⟨_, -, h⟩ := bind_eq_ok h
  obtain ⟨_, -, h⟩ := bind_eq_ok h
  obtain ⟨_, -, h⟩ := bind_eq_ok h
  obtain ⟨_, -, h⟩ := bind_eq_ok h
  obtain ⟨_, -, h⟩ := bind_eq_ok h
  cases h
  exact ⟨rfl, rfl⟩

theorem eventItem_named {row : EventRow} {item : EventItem}
    (h : eventItem library row = .ok item) :
    item.recordType = row.recordType ∧ item.recordId = row.recordId := by
  obtain ⟨_, -, h⟩ := bind_eq_ok h
  obtain ⟨_, -, h⟩ := bind_eq_ok h
  obtain ⟨_, -, h⟩ := bind_eq_ok h
  cases h
  exact ⟨rfl, rfl⟩

theorem getCandidate_accepted
    (hentry : entry ∈ entriesOf (journalOf library calls) call.organizationId)
    (h : EntryOf library call receipt entry)
    (horganization : isBlankText call.organizationId = false)
    {now : Moment} (hnow : now.utcoffset ≠ none) :
    ∃ item, getCandidate library (stored library calls) .available call.organizationId
        receipt.recordType receipt.recordId now = .ok item ∧
      IsWritten library call.record item.payload := by
  obtain ⟨record, hof, -⟩ := h.payload
  have hfilters : CandidateFilter.validate { recordType := some receipt.recordType } =
      .ok () := by
    have hallowed : receipt.recordType ∈ allowedRecordTypes := by
      rw [← h.recordType, hof.recordType]
      exact hof.allowed
    simp [CandidateFilter.validate, hallowed]
  have hvalid := validateRequest_ok horganization hfilters
    (⟨le_rfl, by decide⟩ : 1 ≤ 1 ∧ 1 ≤ 100) 0
  have hblank : isBlankText receipt.recordId = false := by
    rw [← h.recordId]
    exact hof.recordId_not_blank
  obtain ⟨item, hitem, -⟩ := hof.candidateItem entry.2 hnow
  refine ⟨item, ?_, h.shown hitem hnow⟩
  -- the rows with the key of the receipt: the first of them is the entry's
  have hrow : entryRecord library entry ∈
      ((stored library calls).joinedRecords call.organizationId).filter
        (·.key = receipt.key) :=
    List.mem_filter.mpr ⟨mem_joinedRecords_iff.mpr ⟨entry, hentry, rfl⟩,
      decide_eq_true h.key⟩
  have hfound : ∀ row ∈ ((stored library calls).joinedRecords call.organizationId).filter
      (·.key = receipt.key), row = entryRecord library entry := by
    intro row hrow
    obtain ⟨hmem, hkey⟩ := List.mem_filter.mp hrow
    obtain ⟨other, hother, rfl⟩ := mem_joinedRecords_iff.mp hmem
    have hsame := (of_decide_eq_true hkey : other.1.key = receipt.key)
    rw [entriesOf_inj hother hentry (hsame.trans h.key.symm)]
  have hfirst : ∃ rest, ((stored library calls).joinedRecords call.organizationId).filter
      (·.key = receipt.key) = entryRecord library entry :: rest := by
    cases hrows : ((stored library calls).joinedRecords call.organizationId).filter
        (·.key = receipt.key) with
    | nil =>
      rw [hrows] at hrow
      cases hrow
    | cons row rest =>
      rw [hfound row (by rw [hrows]; exact List.mem_cons_self)]
      exact ⟨rest, rfl⟩
  obtain ⟨rest, hrows⟩ := hfirst
  have hselected : ((stored library calls).joinedRecords call.organizationId).filter
      (·.key = (receipt.recordType, receipt.recordId, schemaVersion)) =
        entryRecord library entry :: rest := hrows
  rw [getCandidate, show validateRequest call.organizationId
    { recordType := some receipt.recordType } 0 1 = .ok () from hvalid]
  simp only [Bind.bind, Except.bind, hblank, Bool.false_eq_true, if_false, ne_eq,
    not_true_eq_false, hselected]
  exact hitem

theorem selects_unfiltered (hbuilt : ∀ other ∈ calls, other.record.Built) {row : RecordRow}
    (hrow : row ∈ (stored library calls).joinedRecords organizationId) :
    selects library {} 0 row = true := by
  obtain ⟨entry, hentry, rfl⟩ := mem_joinedRecords_iff.mp hrow
  obtain ⟨found, -, hof⟩ := exists_call hbuilt hentry
  have hposition := List.le_snd_of_mem_zipIdx (List.mem_of_mem_filter hentry)
  have hallowed : (entryRecord library entry).recordType ∈ allowedRecordTypes := by
    change entry.1.recordType ∈ allowedRecordTypes
    rw [hof.recordType]
    exact hof.allowed
  have hafter : (0 : ℤ) < (entryRecord library entry).position := by
    change (0 : ℤ) < entry.2
    omega
  rw [selects, decide_eq_true hafter, decide_eq_true hallowed]
  rfl

end ReisOs.GovernanceRefactor
