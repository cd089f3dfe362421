import Mathlib.Data.Prod.Lex
import ReisOs.Core.Fallible
import ReisOs.Core.Journals
import ReisOs.Core.JsonChars
import ReisOs.Core.Keyset
import ReisOs.Command.InstanceViews

/-!
# Paging through the instances

Following the cursors of `list_instances` reads the rows by a key: the later creation
time first, then the smaller binding id.  A cursor holds the key of the last row, the
snapshot time of the first call, and what it may be used for.
-/

namespace ReisOs.Command

open ReisOs.Core ReisOs.Kernel ReisOs.Instances BindingRow OrderDual

/-! ## Keys -/

/-- Creation times from the latest to the earliest, then binding ids. -/
abbrev Key := Lex (OrderDual Time × String)

def BindingRow.key (row : BindingRow) : Key :=
  toLex (toDual row.createdAt, row.bindingId)

theorem listOrder_iff {left right : BindingRow} :
    listOrder left right ↔ left.key ≤ right.key := by
  rw [listOrder, key, key, Prod.Lex.toLex_le_toLex]
  simp only [toDual_lt_toDual, toDual_inj, eq_comm]

theorem key_lt_iff {left right : BindingRow} :
    left.key < right.key ↔ right.createdAt < left.createdAt ∨
      left.createdAt = right.createdAt ∧ left.bindingId < right.bindingId := by
  rw [key, key, Prod.Lex.toLex_lt_toLex]
  simp only [toDual_lt_toDual, toDual_inj]

/-! ## Cursors -/

variable {codec : Codec} {organizationId : String} {filters : InstanceFilter}

/-- The cursor of a request that continues after a key. -/
def cursorAfter (organizationId filterHash : String) (snapshotAt : Time) (last : Key) :
    PageCursor where
  organizationId
  filterHash
  snapshotAt
  lastCreatedAt := some (ofDual (ofLex last).1)
  lastBindingId := some (ofLex last).2

theorem ofDocument_document (cursor : PageCursor) :
    PageCursor.ofDocument cursor.document = some cursor := by
  rcases cursor with ⟨organizationId, filterHash, snapshotAt, lastCreatedAt, lastBindingId⟩
  cases lastCreatedAt with
  | none =>
    cases lastBindingId with
    | none => rfl
    | some bindingId => rfl
  | some createdAt =>
    cases lastBindingId with
    | none => rfl
    | some bindingId => rfl

theorem decode_encode (cursor : PageCursor) :
    (codec.decode (cursor.encode codec)).bind PageCursor.ofDocument = some cursor := by
  rw [PageCursor.encode, codec.decode_encode, Option.bind_some, ofDocument_document]

theorem decode_cursorAfter {filterHash : String} {snapshotAt clock : Time} {last : Key}
    (hclock : snapshotAt ≤ clock) :
    PageCursor.decode codec
        (some ((cursorAfter organizationId filterHash snapshotAt last).encode codec))
        organizationId filterHash clock =
      .ok (cursorAfter organizationId filterHash snapshotAt last) := by
  rw [PageCursor.decode, decode_encode]
  simp [cursorAfter, hclock]

theorem isCandidate_cursorAfter {filterHash : String} {snapshotAt : Time} {last : Key}
    {item : Item} :
    isCandidate (cursorAfter organizationId filterHash snapshotAt last) item = true ↔
      last < item.binding.key := by
  have hlast : last = toLex ((ofLex last).1, (ofLex last).2) := rfl
  rw [hlast, key, Prod.Lex.toLex_lt_toLex]
  have hleft : (ofLex last).1 < toDual item.binding.createdAt ↔
      item.binding.createdAt < ofDual (ofLex last).1 := Iff.rfl
  have hright : (ofLex last).1 = toDual item.binding.createdAt ↔
      item.binding.createdAt = ofDual (ofLex last).1 := eq_comm
  simp [isCandidate, cursorAfter, hleft, hright]

/-! ## Insertions -/

/-- The later registry has new bindings only, which were created after the snapshot or
after every old binding. -/
structure Inserted (first later : Registry) (snapshotAt : Time) : Prop where
  old : ∀ row ∈ first.bindings, row ∈ later.bindings
  new : ∀ row ∈ later.bindings, row ∈ first.bindings ∨ snapshotAt < row.createdAt ∨
    ∀ other ∈ first.bindings, other.createdAt < row.createdAt
  journal : ∀ row ∈ first.bindings,
    later.journalRows row.bindingId = first.journalRows row.bindingId
  sagas : ∀ row ∈ first.bindings,
    later.sagas.filter (·.bindingId = row.bindingId) =
      first.sagas.filter (·.bindingId = row.bindingId)

section Insertion

variable {first later : Registry} {snapshotAt : Time} {row earlier : BindingRow}

theorem getScoped_eq_some_iff {registry : Registry} {bindingId : String} :
    registry.getScoped bindingId organizationId = some row ↔
      row ∈ registry.bindings ∧ row.bindingId = bindingId ∧
        row.organizationId = organizationId := by
  rw [Registry.getScoped]
  constructor
  · intro h
    exact ⟨List.mem_of_find?_eq_some h, by simpa using List.find?_some h⟩
  · rintro ⟨hmem, hrow⟩
    cases hfound : registry.bindings.find? fun other =>
        other.bindingId = bindingId ∧ other.organizationId = organizationId with
    | none =>
      have hmissing := List.find?_eq_none.mp hfound row hmem
      simp [hrow] at hmissing
    | some found =>
      have hkey : found.bindingId = bindingId ∧ found.organizationId = organizationId := by
        simpa using List.find?_some hfound
      have hsame := List.inj_on_of_nodup_map registry.keys
        (List.mem_of_find?_eq_some hfound) hmem (hkey.1.trans hrow.1.symm)
      rw [hsame]

theorem Inserted.replacementSaga (h : Inserted first later snapshotAt)
    (hrow : row ∈ first.bindings) :
    later.replacementSaga row.bindingId = first.replacementSaga row.bindingId := by
  rw [Registry.replacementSaga, Registry.replacementSaga, h.sagas row hrow]

theorem Inserted.predecessor (h : Inserted first later snapshotAt)
    (hpredecessor : first.predecessor row = some earlier) :
    later.predecessor row = some earlier ∧ earlier ∈ first.bindings := by
  obtain ⟨bindingId, hbinding, hfound⟩ := Option.bind_eq_some_iff.mp hpredecessor
  obtain ⟨hmem, hkey⟩ := getScoped_eq_some_iff.mp hfound
  refine ⟨?_, hmem⟩
  rw [Registry.predecessor, hbinding, Option.bind_some]
  exact getScoped_eq_some_iff.mpr ⟨h.old earlier hmem, hkey⟩

theorem Inserted.recoveryComplete (h : Inserted first later snapshotAt)
    (hrow : row ∈ first.bindings)
    (hcomplete : first.recoveryComplete row (first.predecessor row) = true) :
    later.recoveryComplete row (later.predecessor row) = true := by
  cases hpredecessor : first.predecessor row with
  | none =>
    rw [hpredecessor] at hcomplete
    simp [Registry.recoveryComplete, Registry.recoveryChecks] at hcomplete
  | some predecessor =>
    obtain ⟨hsame, hmem⟩ := h.predecessor hpredecessor
    rw [hpredecessor] at hcomplete
    rw [hsame]
    have hchecks : later.recoveryChecks row (some predecessor) =
        first.recoveryChecks row (some predecessor) := by
      rw [Registry.recoveryChecks, Registry.recoveryChecks, h.journal row hrow,
        Option.bind_some, Option.bind_some, h.replacementSaga hmem]
    rw [Registry.recoveryComplete, hchecks]
    exact hcomplete

theorem mem_phases {registry : Registry} {phase : OperationalPhase} :
    phase ∈ registry.phases row ↔
      (phase = .awaitingPlatformInstance ∧ row.status = .persisted ∧
        row.platformInstanceId = none) ∨
      (phase = .bootstrapAcknowledged ∧ "OCS_BOOTSTRAP_ACKNOWLEDGED" ∈
        (registry.journalRows row.bindingId).map JournalEntry.eventType) ∨
      (phase = .replacementPending ∧ (registry.replacementSaga row.bindingId).any
        (·.state ≠ .leaseFinalized) = true) ∨
      (phase = .recovered ∧
        registry.recoveryComplete row (registry.predecessor row) = true) := by
  simp only [Registry.phases, List.mem_append, List.mem_ite_nil_right, List.mem_singleton,
    or_assoc]
  tauto

theorem Inserted.phases (h : Inserted first later snapshotAt) (hrow : row ∈ first.bindings)
    {phase : OperationalPhase} (hphase : phase ∈ first.phases row) :
    phase ∈ later.phases row := by
  rw [mem_phases] at hphase ⊢
  rw [h.journal row hrow, h.replacementSaga hrow]
  rcases hphase with hawaiting | hbootstrap | hpending | ⟨hrecovered, hcomplete⟩
  · exact .inl hawaiting
  · exact .inr (.inl hbootstrap)
  · exact .inr (.inr (.inl hpending))
  · exact .inr (.inr (.inr ⟨hrecovered, h.recoveryComplete hrow hcomplete⟩))

theorem Inserted.keeps (h : Inserted first later snapshotAt) (hrow : row ∈ first.bindings)
    {clock now : Time} {health : Health} {wall text : String}
    (hclock : filters.recoveryOnly = true → now = clock)
    (hkeeps : keeps filters (first.project row clock health wall) = true) :
    Command.keeps filters (later.project row now health text) = true := by
  have hphases : ∀ phase ∈ first.phases row, phase ∈ later.phases row := fun phase =>
    h.phases hrow
  rw [Command.keeps, Bool.and_eq_true] at hkeeps ⊢
  constructor
  · cases hphase : filters.operationalPhase with
    | none => rfl
    | some value =>
      have hbefore := hkeeps.1
      rw [hphase] at hbefore
      simp only [Option.all_some, decide_eq_true_eq] at hbefore ⊢
      exact List.map_subset _ hphases hbefore
  · by_cases hrecovery : filters.recoveryOnly = true
    · have hafter := hkeeps.2
      simp only [Registry.project, hrecovery, hclock hrecovery, Bool.not_true,
        Bool.false_or, Bool.or_eq_true, decide_eq_true_eq] at hafter ⊢
      rcases hafter with ((hstatus | hpending) | hrecovered) | hfresh
      · exact .inl (.inl (.inl (of_decide_eq_true hstatus)))
      · exact .inl (.inl (.inr (hphases _ (of_decide_eq_true hpending))))
      · exact .inl (.inr (hphases _ (of_decide_eq_true hrecovered)))
      · exact .inr (of_decide_eq_true hfresh)
    · simp [hrecovery]

end Insertion

/-! ## Pages -/

section Pages

variable {registry : Registry} {snapshotAt clock : Time} {wall : String} {limit : ℕ}

/-- The bindings that a request lists, page boundaries aside. -/
def listed (registry : Registry) (organizationId : String) (filters : InstanceFilter)
    (snapshotAt clock : Time) (wall : String) : List BindingRow :=
  (filteredItems registry organizationId filters snapshotAt clock .available wall).map
    Item.binding

theorem listed_eq_filter :
    listed registry organizationId filters snapshotAt clock wall =
      ((registry.bindings.filter
        (selects organizationId filters snapshotAt)).insertionSort listOrder).filter
          fun row => keeps filters (registry.project row clock .available wall) := by
  rw [listed, filteredItems, List.filter_map, List.map_map]
  exact List.map_id _

theorem mem_listed {row : BindingRow} :
    row ∈ listed registry organizationId filters snapshotAt clock wall ↔
      row ∈ registry.bindings ∧ selects organizationId filters snapshotAt row = true ∧
        keeps filters (registry.project row clock .available wall) = true := by
  rw [listed_eq_filter, List.mem_filter, List.mem_insertionSort, List.mem_filter, and_assoc]

theorem listed_sorted :
    ((listed registry organizationId filters snapshotAt clock wall).map
      key).Pairwise (· < ·) := by
  rw [List.pairwise_map, listed_eq_filter]
  apply List.Pairwise.filter
  let rows := registry.bindings.filter (selects organizationId filters snapshotAt)
  have hkeys : (rows.map fun row => row.bindingId).Nodup :=
    List.Nodup.sublist (List.filter_sublist.map _) registry.keys
  have hsorted : (rows.insertionSort listOrder).Pairwise fun left right =>
      left.key ≤ right.key := by
    have htotal : @Std.Total BindingRow listOrder :=
      ⟨fun left right => by rw [listOrder_iff, listOrder_iff]; exact le_total _ _⟩
    have htrans : IsTrans BindingRow listOrder :=
      ⟨fun first second third => by
        rw [listOrder_iff, listOrder_iff, listOrder_iff]
        exact le_trans⟩
    exact (List.pairwise_insertionSort listOrder rows).imp listOrder_iff.mp
  have hdistinct : (rows.insertionSort listOrder).Pairwise fun left right =>
      left.bindingId ≠ right.bindingId := by
    rw [← List.pairwise_map (f := fun row : BindingRow => row.bindingId)]
    exact (((List.perm_insertionSort listOrder rows).map _).nodup_iff).mpr hkeys
  apply hsorted.imp₂ _ hdistinct
  intro left right hle hne
  apply lt_of_le_of_ne hle
  intro hkey
  exact hne (congrArg (fun key : Key => (ofLex key).2) hkey)

/-- The cursor text of a request that continues after a key. -/
def cursorText (codec : Codec) (organizationId : String) (filters : InstanceFilter)
    (snapshotAt : Time) (last : Key) : String :=
  (cursorAfter organizationId (filters.digest codec) snapshotAt last).encode codec

/-- A request that is in scope returns the next rows by their keys, and the cursor after
the last of them if there are more. -/
theorem listInstances_page (codec : Codec) (registry : Registry) (limit : ℕ) (wall : String)
    (hscope : validateScope organizationId filters = .ok ())
    (hclock : snapshotAt ≤ clock) {cursor : Option Key}
    (hfirst : cursor = none → snapshotAt = clock) :
    ∃ page, listInstances codec registry .available organizationId filters
        (cursor.map (cursorText codec organizationId filters snapshotAt)) limit clock wall =
          .ok page ∧
      page.items.map Item.binding =
        (Keyset.after key cursor
          (listed registry organizationId filters snapshotAt clock wall)).take limit ∧
      page.nextCursor =
        (Keyset.next key limit (Keyset.after key cursor
          (listed registry organizationId filters snapshotAt clock wall))).map
            (cursorText codec organizationId filters snapshotAt) := by
  obtain ⟨request, hdecode, hsnapshot, hcandidate⟩ :
      ∃ request : PageCursor,
        PageCursor.decode codec
            (cursor.map (cursorText codec organizationId filters snapshotAt))
            organizationId (filters.digest codec) clock = .ok request ∧
          request.snapshotAt = snapshotAt ∧
          ∀ item, isCandidate request item =
            cursor.all fun last => decide (last < item.binding.key) := by
    cases cursor with
    | none => exact ⟨_, rfl, (hfirst rfl).symm, fun item => rfl⟩
    | some last =>
      refine ⟨_, decode_cursorAfter hclock, rfl, fun item => ?_⟩
      rw [Bool.eq_iff_iff, isCandidate_cursorAfter]
      simp
  let items := filteredItems registry organizationId filters snapshotAt clock .available wall
  have hcandidates : (items.filter (isCandidate request)).map Item.binding =
      Keyset.after key cursor
        (listed registry organizationId filters snapshotAt clock wall) := by
    rw [Keyset.after, listed, List.filter_map]
    congr 1
    apply List.filter_congr
    intro item _
    exact hcandidate item
  refine ⟨_, by
    rw [listInstances, hscope]
    simp only [Bind.bind, Except.bind, hdecode, ne_eq, not_true_eq_false, if_false]
    rfl, ?_, ?_⟩
  · rw [← hcandidates, ← List.map_take]
    rw [hsnapshot]
  · rw [← hcandidates, Keyset.next, List.length_map, ← List.map_take, hsnapshot]
    split
    · rw [List.getLast?_map, Option.map_map, Option.map_map]
      rfl
    · rfl

end Pages

/-! ## Following the cursors -/

section Following

variable {registry : ℕ → Registry} {clock : ℕ → Time} {wall : ℕ → String} {limit : ℕ}

/-- The items of all pages from the one of the given number on, for at most `fuel` pages;
before each page the registry and the clock may have changed. -/
def follow (codec : Codec) (registry : ℕ → Registry) (clock : ℕ → Time)
    (wall : ℕ → String) (organizationId : String) (filters : InstanceFilter) (limit : ℕ) :
    ℕ → ℕ → Option String → Except ViewError (Option (List Item))
  | 0, _, _ => .ok none
  | fuel + 1, index, cursor => do
      let page ← listInstances codec (registry index) .available organizationId filters
        cursor limit (clock index) (wall index)
      match page.nextCursor with
      | none => return some page.items
      | some next => do
          let rest ← follow codec registry clock wall organizationId filters limit fuel
            (index + 1) (some next)
          return rest.map fun items => page.items ++ items

/-- The bindings that the call of the given number lists at the snapshot of the first. -/
def visible (registry : ℕ → Registry) (clock : ℕ → Time) (wall : ℕ → String)
    (organizationId : String) (filters : InstanceFilter) (index : ℕ) : List BindingRow :=
  listed (registry index) organizationId filters (clock 0) (clock index) (wall index)

/-- Following the cursors reads the pages of the visible bindings. -/
theorem follow_eq_pages (codec : Codec) (wall : ℕ → String) (limit : ℕ)
    (hscope : validateScope organizationId filters = .ok ())
    (hclock : ∀ index, clock 0 ≤ clock index) (fuel index : ℕ) (cursor : Option Key)
    (hfirst : cursor = none → index = 0) :
    ∃ result, follow codec registry clock wall organizationId filters limit fuel index
        (cursor.map (cursorText codec organizationId filters (clock 0))) = .ok result ∧
      result.map (List.map Item.binding) =
        Keyset.pages key
          (visible registry clock wall organizationId filters) limit fuel index cursor := by
  induction fuel generalizing index cursor with
  | zero => exact ⟨none, rfl, rfl⟩
  | succ fuel ih =>
    have hstart : cursor = none → clock 0 = clock index := fun h => by rw [hfirst h]
    obtain ⟨page, hpage, hitems, hnext⟩ :=
      listInstances_page codec (registry index) limit (wall index) hscope (hclock index)
        hstart
    rw [follow, hpage, Keyset.pages]
    simp only [Bind.bind, Except.bind]
    rw [visible, hnext, ← hitems]
    cases hlast : Keyset.next key limit (Keyset.after key cursor
        (listed (registry index) organizationId filters (clock 0) (clock index)
          (wall index))) with
    | none => exact ⟨some page.items, rfl, rfl⟩
    | some last =>
      obtain ⟨rest, hrest, hpages⟩ := ih (index + 1) (some last) (by rintro ⟨⟩)
      refine ⟨rest.map fun items => page.items ++ items, ?_, ?_⟩
      · simp only [Option.map_some] at hrest ⊢
        rw [hrest]
        rfl
      · simp only
        rw [← hpages]
        cases rest with
        | none => rfl
        | some items => simp

theorem visible_of_first {row : BindingRow}
    (hinserted : ∀ index, Inserted (registry 0) (registry index) (clock 0))
    (hconstant : filters.recoveryOnly = true → ∀ index, clock index = clock 0)
    (hrow : row ∈ visible registry clock wall organizationId filters 0) (index : ℕ) :
    row ∈ visible registry clock wall organizationId filters index := by
  obtain ⟨hmem, hselects, hkeeps⟩ := mem_listed.mp hrow
  apply mem_listed.mpr
  refine ⟨(hinserted index).old row hmem, hselects, ?_⟩
  exact (hinserted index).keeps hmem (fun hrecovery => hconstant hrecovery index) hkeeps

theorem old_or_before {row : BindingRow} {index : ℕ}
    (hinserted : Inserted (registry 0) (registry index) (clock 0))
    (hrow : row ∈ visible registry clock wall organizationId filters index) :
    row ∈ (registry 0).bindings ∨
      ∀ other ∈ (registry 0).bindings, row.key < other.key := by
  obtain ⟨hmem, hselects, -⟩ := mem_listed.mp hrow
  rcases hinserted.new row hmem with hold | hlater | hlatest
  · exact .inl hold
  · simp only [selects, Bool.and_eq_true, decide_eq_true_eq] at hselects
    exact absurd hselects.1.1.1.2 (Int.not_le.mpr hlater)
  · exact .inr fun other hother => key_lt_iff.mpr (.inl (hlatest other hother))

/-- With insertions between the pages, following the cursors ends and lists the bindings
of the first call in order. -/
theorem follow_enumerates (codec : Codec) (wall : ℕ → String)
    (hscope : validateScope organizationId filters = .ok ()) (hlimit : 0 < limit)
    (hclock : ∀ earlier later, earlier ≤ later → clock earlier ≤ clock later)
    (hconstant : filters.recoveryOnly = true → ∀ index, clock index = clock 0)
    (hinserted : ∀ index, Inserted (registry 0) (registry index) (clock 0)) :
    ∃ items, follow codec registry clock wall organizationId filters limit
        ((registry 0).bindings.length + 1) 0 none = .ok (some items) ∧
      (items.map fun item => item.binding.key).Pairwise (· < ·) ∧
      (∀ item ∈ items, item.binding ∈ (registry 0).bindings) ∧
      ∀ row ∈ visible registry clock wall organizationId filters 0,
        row ∈ items.map Item.binding := by
  have hmonotone : ∀ index, clock 0 ≤ clock index := fun index =>
    hclock 0 index (Nat.zero_le index)
  obtain ⟨result, hfollow, hpages⟩ :=
    follow_eq_pages codec wall limit hscope hmonotone ((registry 0).bindings.length + 1) 0
      none fun _ => rfl
  obtain ⟨rows, hrows, hsorted, hin, hall⟩ :=
    Keyset.pages_enumerate key
      (visible registry clock wall organizationId filters) (registry 0).bindings
      (visible registry clock wall organizationId filters 0) hlimit (fun index => listed_sorted)
      (fun index row hrow => visible_of_first hinserted hconstant hrow index)
      (fun index row hrow => old_or_before (hinserted index) hrow)
      (fun row hrow => (mem_listed.mp hrow).1)
  rw [hrows] at hpages
  obtain ⟨items, rfl, rfl⟩ := Option.map_eq_some_iff.mp hpages
  refine ⟨items, hfollow, ?_, ?_, hall⟩
  · rw [List.map_map] at hsorted
    exact hsorted
  · intro item hitem
    exact hin _ (List.mem_map_of_mem hitem)

end Following

/-! ## Scope of a cursor -/

theorem textOrNull_injective : Function.Injective textOrNull := by
  intro left right h
  cases left with
  | none =>
    cases right with
    | none => rfl
    | some text => cases h
  | some text =>
    cases right with
    | none => cases h
    | some other =>
      cases h
      rfl

theorem document_injective : Function.Injective InstanceFilter.document := by
  intro left right h
  rw [InstanceFilter.document, InstanceFilter.document] at h
  simp only [Json.object.injEq, List.cons.injEq, Prod.mk.injEq, Json.bool.injEq, true_and,
    and_true] at h
  obtain ⟨hstatus, hmission, hocs, hphase, hrecovery⟩ := h
  rcases left with ⟨missionId, ocsId, canonicalStatus, operationalPhase, recoveryOnly⟩
  rw [InstanceFilter.mk.injEq]
  exact ⟨textOrNull_injective hmission, textOrNull_injective hocs,
    textOrNull_injective hstatus, textOrNull_injective hphase, hrecovery⟩

theorem exists_cursor {registry : Registry} {health : Health} {cursor : Option String}
    {limit : ℕ} {now : Time} {wall text : String} {page : Page}
    (hpage : listInstances codec registry health organizationId filters cursor limit now
      wall = .ok page)
    (htext : page.nextCursor = some text) :
    ∃ request : PageCursor, request.organizationId = organizationId ∧
      request.filterHash = filters.digest codec ∧ text = request.encode codec := by
  obtain ⟨-, -, hpage⟩ := bind_eq_ok hpage
  obtain ⟨request, -, hpage⟩ := bind_eq_ok hpage
  split at hpage
  · cases hpage
    cases htext
  · cases hpage
    simp only at htext
    split at htext
    · obtain ⟨last, -, rfl⟩ := Option.map_eq_some_iff.mp htext
      exact ⟨_, rfl, rfl, rfl⟩
    · cases htext

theorem eq_of_accepted {registry : Registry} {health : Health} {request : PageCursor}
    {limit : ℕ} {now : Time} {wall : String} {page : Page}
    (hpage : listInstances codec registry health organizationId filters
      (some (request.encode codec)) limit now wall = .ok page) :
    request.organizationId = organizationId ∧ request.filterHash = filters.digest codec := by
  obtain ⟨-, -, hpage⟩ := bind_eq_ok hpage
  obtain ⟨accepted, haccepted, -⟩ := bind_eq_ok hpage
  rw [PageCursor.decode, decode_encode] at haccepted
  simp only at haccepted
  split at haccepted
  · cases haccepted
  · rename_i hmismatch
    rw [not_or, not_or, not_ne_iff, not_ne_iff] at hmismatch
    exact ⟨hmismatch.1, hmismatch.2.1⟩

/-- The documents of two filters have one SHA-256 digest. -/
def Collides (codec : Codec) (left right : InstanceFilter) : Prop :=
  left.document ≠ right.document ∧
    codec.sha256 left.document = codec.sha256 right.document

/-! ## Pagination -/

/-- A binding is listed before another one. -/
def Precedes (left right : BindingRow) : Prop :=
  right.createdAt < left.createdAt ∨
    left.createdAt = right.createdAt ∧ left.bindingId < right.bindingId

/-- Following the cursors ends, and lists in order and once each every binding that the
first call matched; and a cursor is not accepted for another organization or filter,
unless the digests of the filters collide. -/
theorem instances_paged (codec : Codec) (organizationId : String)
    (filters : InstanceFilter) :
    (∀ (registry : ℕ → Registry) (clock : ℕ → Time) (wall : ℕ → String) (limit : ℕ),
      validateScope organizationId filters = .ok () → 1 ≤ limit →
      (∀ earlier later, earlier ≤ later → clock earlier ≤ clock later) →
      (filters.recoveryOnly = true → ∀ index, clock index = clock 0) →
      (∀ index, Inserted (registry 0) (registry index) (clock 0)) →
      ∃ fuel items, follow codec registry clock wall organizationId filters limit fuel 0
          none = .ok (some items) ∧
        (items.map Item.binding).Pairwise Precedes ∧
        (∀ item ∈ items, item.binding ∈ (registry 0).bindings) ∧
        ∀ matched ∈ filteredItems (registry 0) organizationId filters (clock 0) (clock 0)
            .available (wall 0),
          (items.map Item.binding).count matched.binding = 1) ∧
      ∀ registry health cursor limit now wall page text,
        listInstances codec registry health organizationId filters cursor limit now wall =
            .ok page →
          page.nextCursor = some text →
        ∀ organization filter, (organization, filter) ≠ (organizationId, filters) →
          (∀ registry health limit now wall other,
            listInstances codec registry health organization filter (some text) limit now
              wall ≠ .ok other) ∨
          Collides codec filter filters := by
  constructor
  · intro registry clock wall limit hscope hlimit hclock hconstant hinserted
    obtain ⟨items, hfollow, hsorted, hin, hall⟩ :=
      follow_enumerates codec wall hscope hlimit hclock hconstant hinserted
    have hordered : (items.map Item.binding).Pairwise Precedes := by
      rw [List.pairwise_map] at hsorted ⊢
      exact hsorted.imp key_lt_iff.mp
    refine ⟨_, items, hfollow, hordered, hin, fun matched hmatched => ?_⟩
    have hnodup : (items.map Item.binding).Nodup := by
      rw [List.pairwise_map] at hsorted
      rw [List.Nodup, List.pairwise_map]
      exact hsorted.imp fun hlt heq => hlt.ne (congrArg key heq)
    exact List.count_eq_one_of_mem hnodup (hall _ (List.mem_map_of_mem hmatched))
  · intro registry health cursor limit now wall page text hpage htext organization filter
      hother
    obtain ⟨request, horganization, hdigest, rfl⟩ := exists_cursor hpage htext
    by_cases hcollides : Collides codec filter filters
    · exact .inr hcollides
    · left
      intro registry health limit now wall other haccepted
      obtain ⟨hsame, hhash⟩ := eq_of_accepted haccepted
      apply hother
      rw [Prod.mk.injEq]
      refine ⟨hsame.symm.trans horganization, ?_⟩
      by_contra hfilter
      apply hcollides
      refine ⟨fun hdocument => hfilter (document_injective hdocument), ?_⟩
      exact hhash.symm.trans hdigest

/-! ### An example -/

/-- Documents by their texts. -/
def textCodec : Codec where
  sha256 := fun document =>
    String.ofList (JsonText.write JsonText.integerFormat .compact document)
  encode := fun document =>
    String.ofList (JsonText.write JsonText.integerFormat .compact document)
  decode := fun text => JsonText.read JsonText.integerFormat text.toList
  decode_encode := by
    intro document
    rw [String.toList_ofList]
    exact JsonText.read_write JsonText.integerFormat .compact document

/-- A persisted binding of a mission. -/
def persistedRow (bindingId missionId : String) (createdAt : Time) : BindingRow where
  bindingId
  missionId
  runId := "run"
  organizationId := "org:reis-os"
  ocsId := "SOFIA"
  profileVersion := "1"
  profileHash := "profile"
  identityBindingHash := "identity"
  requestHash := "request"
  maturity := .preparedUnverified
  host := "host"
  capability := "capability"
  leaseId := "lease"
  authorityRef := "authority"
  scope := []
  stateNamespace := "state"
  memoryNamespace := "memory"
  generation := 1
  platformInstanceId := none
  challengeHash := "challenge"
  bootstrapHash := "bootstrap"
  status := .persisted
  version := 1
  predecessorBindingId := none
  checkpointVersion := 0
  checkpointHash := none
  hazelEventHash := none
  idempotencyKey := bindingId
  correlationId := "correlation"
  causationId := none
  createdAt
  updatedAt := createdAt

/-- Two bindings of one creation time; a third one is inserted after the first page. -/
def growingRegistry : ℕ → Registry
  | 0 => ⟨[persistedRow "binding:0" "m0" 5, persistedRow "binding:1" "m1" 5], [], [],
      by decide⟩
  | _ + 1 => ⟨[persistedRow "binding:0" "m0" 5, persistedRow "binding:1" "m1" 5,
      persistedRow "binding:2" "m2" 20], [], [], by decide⟩

theorem inserted_growingRegistry (index : ℕ) :
    Inserted (growingRegistry 0) (growingRegistry index) 10 := by
  cases index with
  | zero => exact ⟨fun _ h => h, fun _ h => .inl h, fun _ _ => rfl, fun _ _ => rfl⟩
  | succ index =>
    refine ⟨?_, ?_, fun _ _ => rfl, fun _ _ => rfl⟩
    · intro row hrow
      exact List.mem_append_left [persistedRow "binding:2" "m2" 20] hrow
    · intro row hrow
      rcases List.mem_append.mp (show row ∈ (growingRegistry 0).bindings ++
        [persistedRow "binding:2" "m2" 20] from hrow) with hold | hnew
      · exact .inl hold
      · rw [List.mem_singleton.mp hnew]
        exact .inr (.inl (by decide))

/-- Both old bindings are listed, one a page, while a third one is inserted. -/
theorem instances_paged_growingRegistry :
    ∃ fuel items, follow textCodec growingRegistry (fun index => 10 + index)
        (fun _ => "now") "org:reis-os" {} 1 fuel 0 none = .ok (some items) ∧
      (items.map Item.binding).Pairwise Precedes ∧
      (∀ item ∈ items, item.binding ∈ (growingRegistry 0).bindings) ∧
      ∀ matched ∈ filteredItems (growingRegistry 0) "org:reis-os" {} 10 10 .available "now",
        (items.map Item.binding).count matched.binding = 1 :=
  (instances_paged textCodec "org:reis-os" {}).1 growingRegistry (fun index => 10 + index)
    (fun _ => "now") 1 rfl le_rfl
    (fun earlier later hle => by
      change (10 : ℤ) + earlier ≤ 10 + later
      omega)
    (fun h => by cases h) inserted_growingRegistry

end ReisOs.Command
