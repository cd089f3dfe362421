import ReisOs.Core.Keyset
import ReisOs.GovernanceRefactor.RecordReads

/-!
# Following the cursors of the projections

`list_candidates` and `events` both page by position.  Positions only grow, so while
records are appended between the pages the cursors lead through every record that was
there at first, and to an end.
-/

namespace ReisOs.GovernanceRefactor

open ReisOs.Core Keyset

/-! ## Pages of entries -/

section Following

variable {A I : Type} {key : A → ℕ} {visible : ℕ → List A} {shows : ℕ → A → I → Prop}
  {limit : ℕ}

/-- The items of all pages from the one of the given number on, for at most `fuel`
pages. -/
def follow (fetch : ℕ → ℕ → Except GovernanceError (Page I)) :
    ℕ → ℕ → ℕ → Except GovernanceError (Option (List I))
  | 0, _, _ => .ok none
  | fuel + 1, index, cursor => do
      let page ← fetch index cursor
      match page.nextCursor with
      | none => return some page.items
      | some next => do
          let rest ← follow fetch fuel (index + 1) next
          return rest.map fun items => page.items ++ items

/-- The page shows the next entries after the cursor, and has the cursor after the last
of them if there are more. -/
structure PageOf (key : A → ℕ) (shows : A → I → Prop) (limit cursor : ℕ)
    (entries : List A) (page : Page I) : Prop where
  items : List.Forall₂ shows ((after key (some cursor) entries).take limit)
    page.items
  nextCursor : page.nextCursor =
    next key limit (after key (some cursor) entries)

/-- Following the cursors shows the pages of the visible entries. -/
theorem follow_eq_pages {fetch : ℕ → ℕ → Except GovernanceError (Page I)}
    (hfetch : ∀ index cursor, ∃ page, fetch index cursor = .ok page ∧
      PageOf key (shows index) limit cursor (visible index) page)
    (fuel index cursor : ℕ) :
    ∃ result, follow fetch fuel index cursor = .ok result ∧
      Option.Rel (List.Forall₂ fun entry item => ∃ index, shows index entry item)
        (pages key visible limit fuel index (some cursor)) result := by
  induction fuel generalizing index cursor with
  | zero => exact ⟨none, rfl, .none⟩
  | succ fuel ih =>
    obtain ⟨page, hpage, hof⟩ := hfetch index cursor
    have hitems : List.Forall₂ (fun entry item => ∃ index, shows index entry item)
        ((after key (some cursor) (visible index)).take limit) page.items :=
      hof.items.imp fun entry item hshows => ⟨index, hshows⟩
    rw [follow, hpage, pages]
    simp only [Bind.bind, Except.bind]
    rw [hof.nextCursor]
    cases next key limit (after key (some cursor) (visible index)) with
    | none => exact ⟨some page.items, rfl, .some hitems⟩
    | some last =>
      obtain ⟨rest, hrest, hrel⟩ := ih (index + 1) last
      refine ⟨rest.map fun items => page.items ++ items, ?_, ?_⟩
      · simp only [hrest]
        rfl
      · simp only
        generalize pages key visible limit fuel (index + 1) (some last) = later
          at hrel
        cases hrel with
        | none => exact .none
        | some hlater => exact .some (List.rel_append hitems hlater)

/-- While the visible entries grow within a finite list, following the cursors ends, and
shows in order every entry after the first cursor that was visible at first. -/
theorem follow_enumerates {fetch : ℕ → ℕ → Except GovernanceError (Page I)}
    {known : List A} {position : I → ℕ}
    (hfetch : ∀ index cursor, ∃ page, fetch index cursor = .ok page ∧
      PageOf key (shows index) limit cursor (visible index) page)
    (hlimit : 0 < limit)
    (hposition : ∀ index entry item, shows index entry item → position item = key entry)
    (hsorted : ∀ index, ((visible index).map key).Pairwise (· < ·))
    (hgrow : ∀ index, ∀ entry ∈ visible 0, entry ∈ visible index)
    (hknown : ∀ index, ∀ entry ∈ visible index, entry ∈ known) (cursor : ℕ) :
    ∃ items, follow fetch (known.length + 1) 0 cursor = .ok (some items) ∧
      (items.map position).Pairwise (· < ·) ∧
      (∀ item ∈ items, ∃ entry ∈ known, cursor < key entry ∧
        ∃ index, shows index entry item) ∧
      ∀ entry ∈ visible 0, cursor < key entry →
        ∃ item ∈ items, ∃ index, shows index entry item := by
  obtain ⟨result, hresult, hrel⟩ := follow_eq_pages hfetch (known.length + 1) 0 cursor
  have hold : ∀ entry ∈ after key (some cursor) (visible 0), entry ∈ known :=
    fun entry hentry => hknown 0 entry (mem_after.mp hentry).1
  have hfuel : (after key (some cursor) known).length < known.length + 1 :=
    Nat.lt_succ_of_le (after_sublist (some cursor) known).length_le
  obtain ⟨entries, hpages, hordered, hin, hall⟩ :=
    pages_after hlimit hsorted
      (fun index entry hentry => hgrow index entry hentry)
      (fun index entry hentry => .inl (hknown index entry hentry)) hold hfuel
  rw [hpages] at hrel
  cases hrel with
  | @some _ items hitems =>
    refine ⟨items, hresult, ?_, ?_, ?_⟩
    · have hkeys : items.map position = entries.map key := by
        clear hresult hpages hordered hin hall
        induction hitems with
        | nil => rfl
        | cons hfirst _ ih =>
          obtain ⟨index, hshows⟩ := hfirst
          rw [List.map_cons, List.map_cons, ih, hposition index _ _ hshows]
      rw [hkeys]
      exact hordered
    · intro item hitem
      obtain ⟨entry, hentry, hshows⟩ := exists_related hitems.flip hitem
      obtain ⟨hmem, hafter⟩ := hin entry hentry
      exact ⟨entry, hmem, hafter cursor rfl, hshows⟩
    · intro entry hentry hafter
      apply exists_related hitems
      apply hall entry hentry
      rintro _ ⟨⟩
      exact hafter

end Following

/-! ## Rows of the projections -/

variable {N : Type} {library : Library N} {calls : List (AppendCall N)}
  {organizationId : String} {filters : CandidateFilter} {limit : ℕ}

/-- The record of an entry of the journal. -/
def entryRecord (library : Library N) (entry : Envelope × ℕ) : RecordRow :=
  recordRow library entry.2 entry.1

/-- The event of an entry of the journal. -/
def entryEvent (library : Library N) (entry : Envelope × ℕ) : EventRow :=
  eventRow library entry.2 entry.1

/-- The entries that `list_candidates` selects, wherever the cursor is. -/
def candidates (library : Library N) (calls : List (AppendCall N)) (organizationId : String)
    (filters : CandidateFilter) : List (Envelope × ℕ) :=
  (entriesOf (journalOf library calls) organizationId).filter fun entry =>
    selects library filters (-1) (entryRecord library entry)

/-- The entries that `events` selects, wherever the cursor is. -/
def told (library : Library N) (calls : List (AppendCall N)) (organizationId : String) :
    List (Envelope × ℕ) :=
  (entriesOf (journalOf library calls) organizationId).filter fun entry =>
    entry.1.recordType ∈ allowedRecordTypes

theorem selects_cursor (library : Library N) (filters : CandidateFilter) (cursor : ℕ)
    (row : RecordRow) : selects library filters cursor row =
      (decide (cursor < row.position) && selects library filters (-1) row) := by
  have hfirst : decide (-1 < (row.position : ℤ)) = true := by
    apply decide_eq_true
    omega
  rw [selects, selects, hfirst, Bool.true_and]
  simp only [Bool.and_assoc, Int.ofNat_lt]

theorem entriesOf_sorted (journal : List Envelope) (organizationId : String) :
    ((entriesOf journal organizationId).map Prod.snd).Pairwise (· < ·) := by
  apply List.Pairwise.sublist (List.filter_sublist.map Prod.snd)
  rw [List.zipIdx_map_snd]
  exact List.pairwise_lt_range'

theorem ascending_after {R : Type} {row : Envelope × ℕ → R} {position : R → ℕ}
    (hrow : ∀ entry, position (row entry) = entry.2) {entries : List (Envelope × ℕ)}
    (hsorted : (entries.map Prod.snd).Pairwise (· < ·)) {selected : R → Bool}
    {meets : Envelope × ℕ → Bool} {cursor : ℕ}
    (hselected : ∀ entry, selected (row entry) = (decide (cursor < entry.2) && meets entry)) :
    ascending position ((entries.map row).filter selected) =
      (after Prod.snd (some cursor) (entries.filter meets)).map row := by
  have hfilter : (entries.map row).filter selected =
      (after Prod.snd (some cursor) (entries.filter meets)).map row := by
    rw [List.filter_map, after, List.filter_filter]
    congr 1
    apply List.filter_congr
    intro entry _
    simpa using hselected entry
  rw [hfilter, ascending]
  apply List.Pairwise.insertionSort_eq
  rw [List.pairwise_map]
  have hafter : ((after Prod.snd (some cursor) (entries.filter meets)).map
      Prod.snd).Pairwise (· < ·) :=
    hsorted.sublist
      (((after_sublist (some cursor) _).trans List.filter_sublist).map Prod.snd)
  rw [List.pairwise_map] at hafter
  apply hafter.imp
  intro left right hlt
  rw [hrow, hrow]
  exact hlt.le

theorem exists_mapM {A B E : Type} {f : A → Except E B} {items : List A}
    (h : ∀ item ∈ items, ∃ answer, f item = .ok answer) :
    ∃ answers, items.mapM f = .ok answers ∧
      List.Forall₂ (fun item answer => f item = .ok answer) items answers := by
  induction items with
  | nil => exact ⟨[], rfl, .nil⟩
  | cons item items ih =>
    obtain ⟨answer, hanswer⟩ := h item List.mem_cons_self
    obtain ⟨answers, hanswers, hrelated⟩ :=
      ih fun later hlater => h later (List.mem_cons_of_mem _ hlater)
    refine ⟨answer :: answers, ?_, .cons hanswer hrelated⟩
    rw [List.mapM_cons, hanswer, hanswers]
    rfl

theorem exists_call (hbuilt : ∀ call ∈ calls, call.record.Built) {entry : Envelope × ℕ}
    (hentry : entry ∈ entriesOf (journalOf library calls) organizationId) :
    ∃ call ∈ calls, entry.1.Of library call.record := by
  obtain ⟨before, call, later, rfl, -, hprepare, -⟩ :=
    acceptedFrom_of_mem_entriesOf hentry
  have hmem : call ∈ before ++ call :: later :=
    List.mem_append_right before List.mem_cons_self
  exact ⟨call, hmem, .of_prepare hprepare (hbuilt call hmem)⟩

theorem candidateItem_position {row : RecordRow} {now : Moment} {item : CandidateItem N}
    (h : candidateItem library row now = .ok item) : item.position = row.position := by
  obtain ⟨_, -, h⟩ := bind_eq_ok h
  obtain ⟨_, -, h⟩ := bind_eq_ok h
  obtain ⟨_, -, h⟩ := bind_eq_ok h
  obtain ⟨_, -, h⟩ := bind_eq_ok h
  obtain ⟨_, -, h⟩ := bind_eq_ok h
  obtain ⟨_, -, h⟩ := bind_eq_ok h
  obtain ⟨_, -, h⟩ := bind_eq_ok h
  cases h
  rfl

theorem eventItem_position {row : EventRow} {item : EventItem}
    (h : eventItem library row = .ok item) : item.position = row.position := by
  obtain ⟨_, -, h⟩ := bind_eq_ok h
  obtain ⟨_, -, h⟩ := bind_eq_ok h
  obtain ⟨_, -, h⟩ := bind_eq_ok h
  cases h
  rfl

theorem validateRequest_ok (horganization : isBlankText organizationId = false)
    (hfilters : filters.validate = .ok ()) (hlimit : 1 ≤ limit ∧ limit ≤ 100) (cursor : ℕ) :
    validateRequest organizationId filters cursor limit = .ok () := by
  have hcursor : ¬ (cursor : ℤ) < 0 := by omega
  have hbounds : ¬ ¬ (1 ≤ (limit : ℤ) ∧ (limit : ℤ) ≤ 100) := by omega
  rw [validateRequest, horganization, if_neg Bool.false_ne_true, if_neg hcursor,
    if_neg hbounds, hfilters]

theorem getLast?_position {I : Type} {shows : Envelope × ℕ → I → Prop} {position : I → ℕ}
    (hposition : ∀ entry item, shows entry item → position item = entry.2)
    {entries : List (Envelope × ℕ)} {items : List I} (h : List.Forall₂ shows entries items) :
    items.getLast?.map position = entries.getLast?.map Prod.snd := by
  have hpositions : items.map position = entries.map Prod.snd := by
    induction h with
    | nil => rfl
    | cons hfirst _ ih => rw [List.map_cons, List.map_cons, ih, hposition _ _ hfirst]
  rw [← List.getLast?_map, hpositions, List.getLast?_map]

/-! ## Pages of candidates -/

/-- The item that `_record` makes of an entry. -/
def ShowsCandidate (library : Library N) (now : Moment) (entry : Envelope × ℕ)
    (item : CandidateItem N) : Prop :=
  candidateItem library (entryRecord library entry) now = .ok item

theorem listCandidates_page (hbuilt : ∀ call ∈ calls, call.record.Built)
    (horganization : isBlankText organizationId = false)
    (hfilters : filters.validate = .ok ()) (hlimit : 1 ≤ limit ∧ limit ≤ 100)
    {now : Moment} (hnow : now.utcoffset ≠ none) (cursor : ℕ) :
    ∃ page, listCandidates library (stored library calls) .available organizationId filters
        cursor limit now = .ok page ∧
      PageOf Prod.snd (ShowsCandidate library now) limit cursor
        (candidates library calls organizationId filters) page := by
  obtain ⟨hstored, hkeys⟩ := stored_eq_tables library calls
  let found := after Prod.snd (some cursor)
    (candidates library calls organizationId filters)
  have hrows : ascending RecordRow.position
      (((stored library calls).joinedRecords organizationId).filter
        (selects library filters cursor)) = found.map (entryRecord library) := by
    rw [hstored, joinedRecords_tables hkeys]
    exact @ascending_after RecordRow (entryRecord library) RecordRow.position
      (fun _ => rfl) _ (entriesOf_sorted _ _) _ _ cursor fun entry =>
        selects_cursor library filters cursor (entryRecord library entry)
  have hread : ∀ entry ∈ found.take (limit + 1),
      ∃ item, ShowsCandidate library now entry item := by
    intro entry hentry
    have hmem := (mem_after.mp (List.mem_of_mem_take hentry)).1
    obtain ⟨call, -, hof⟩ := exists_call hbuilt (List.mem_filter.mp hmem).1
    obtain ⟨item, hitem, -⟩ := hof.candidateItem entry.2 hnow
    exact ⟨item, hitem⟩
  obtain ⟨items, hitems, hshown⟩ := exists_mapM hread
  have hmapM : ((found.map (entryRecord library)).take (limit + 1)).mapM
      (fun row => candidateItem library row now) = .ok items := by
    rw [← List.map_take, List.mapM_map]
    exact hitems
  have htaken : List.Forall₂ (ShowsCandidate library now) (found.take limit)
      (items.take limit) := by
    have htake := List.forall₂_take limit hshown
    rwa [List.take_take, Nat.min_eq_left (Nat.le_succ limit)] at htake
  have hlength : (limit : ℤ) < (items.length : ℤ) ↔ limit < found.length := by
    rw [Int.ofNat_lt, ← hshown.length_eq, List.length_take]
    omega
  have hcount : ((limit : ℤ) + 1).toNat = limit + 1 := by omega
  refine ⟨⟨items.take limit, (items.take limit).length,
    if (limit : ℤ) < items.length then
      (items.take limit).getLast?.map CandidateItem.position else none,
    none, source .available, {}⟩, ?_, htaken, ?_⟩
  · rw [listCandidates, validateRequest_ok horganization hfilters hlimit]
    simp only [Bind.bind, Except.bind, ne_eq, not_true_eq_false, if_false]
    rw [hrows, hcount, hmapM]
    rfl
  · rw [next, getLast?_position
      (fun _ _ hitem => candidateItem_position hitem) htaken]
    exact if_congr hlength rfl rfl

/-! ## Pages of events -/

/-- The item that `_event` makes of an entry. -/
def ShowsEvent (library : Library N) (entry : Envelope × ℕ) (item : EventItem) : Prop :=
  eventItem library (entryEvent library entry) = .ok item

theorem events_page (hbuilt : ∀ call ∈ calls, call.record.Built)
    (horganization : isBlankText organizationId = false) (hlimit : 1 ≤ limit ∧ limit ≤ 100)
    (cursor : ℕ) :
    ∃ page, events library (stored library calls) .available organizationId cursor limit =
        .ok page ∧
      PageOf Prod.snd (ShowsEvent library) limit cursor
        (told library calls organizationId) page := by
  obtain ⟨hstored, hkeys⟩ := stored_eq_tables library calls
  let found := after Prod.snd (some cursor) (told library calls organizationId)
  have hrows : ascending EventRow.position
      (((stored library calls).joinedEvents organizationId).filter fun row =>
        (cursor : ℤ) < row.position ∧ row.recordType ∈ allowedRecordTypes) =
      found.map (entryEvent library) := by
    rw [hstored, joinedEvents_tables hkeys]
    exact @ascending_after EventRow (entryEvent library) EventRow.position
      (fun _ => rfl) _ (entriesOf_sorted _ _) _ _ cursor fun entry => by
        rw [Bool.decide_and]
        simp only [Int.ofNat_lt]
        rfl
  have hread : ∀ entry ∈ found.take limit, ∃ item, ShowsEvent library entry item := by
    intro entry hentry
    have hmem := (mem_after.mp (List.mem_of_mem_take hentry)).1
    obtain ⟨call, -, hof⟩ := exists_call hbuilt (List.mem_filter.mp hmem).1
    exact ⟨_, hof.eventItem entry.2⟩
  obtain ⟨items, hitems, hshown⟩ := exists_mapM hread
  have hmapM : (((found.map (entryEvent library)).take (limit + 1)).take limit).mapM
      (eventItem library) = .ok items := by
    rw [List.take_take, Nat.min_eq_left (Nat.le_succ limit), ← List.map_take,
      List.mapM_map]
    exact hitems
  have hlength : (limit : ℤ) <
      ((found.map (entryEvent library)).take (limit + 1)).length ↔ limit < found.length := by
    rw [Int.ofNat_lt, List.length_take, List.length_map]
    omega
  have hcount : ((limit : ℤ) + 1).toNat = limit + 1 := by omega
  refine ⟨⟨items, items.length,
    if (limit : ℤ) < ((found.map (entryEvent library)).take (limit + 1)).length then
      items.getLast?.map EventItem.position else none,
    none, source .available, {}⟩, ?_, hshown, ?_⟩
  · rw [events, validateRequest_ok horganization rfl hlimit]
    simp only [Bind.bind, Except.bind, ne_eq, not_true_eq_false, if_false]
    rw [hrows, hcount, Int.toNat_natCast, hmapM]
    rfl
  · rw [next, getLast?_position (fun _ _ hitem => eventItem_position hitem) hshown]
    exact if_congr hlength rfl rfl

/-! ## Appends between the pages -/

section Appends

variable {history : ℕ → List (AppendCall N)} {total : List (AppendCall N)}
  {now : ℕ → Moment}

variable {before after : List (AppendCall N)} {entry : Envelope × ℕ}

theorem entriesOf_grow (library : Library N)
    (h : before <+: after)
    (hentry : entry ∈ entriesOf (journalOf library before) organizationId) :
    entry ∈ entriesOf (journalOf library after) organizationId := by
  obtain ⟨later, rfl⟩ := h
  rw [journalOf_append, entriesOf, List.zipIdx_append, List.filter_append]
  exact List.mem_append_left _ hentry

theorem candidates_grow (h : before <+: after)
    (hentry : entry ∈ candidates library before organizationId filters) :
    entry ∈ candidates library after organizationId filters := by
  obtain ⟨hmem, hselects⟩ := List.mem_filter.mp hentry
  exact List.mem_filter.mpr ⟨entriesOf_grow library h hmem, hselects⟩

theorem told_grow (h : before <+: after) (hentry : entry ∈ told library before organizationId) :
    entry ∈ told library after organizationId := by
  obtain ⟨hmem, hallowed⟩ := List.mem_filter.mp hentry
  exact List.mem_filter.mpr ⟨entriesOf_grow library h hmem, hallowed⟩

/-- The pages of `list_candidates`, each on the store and at the time of its call. -/
def candidatePages (library : Library N) (history : ℕ → List (AppendCall N))
    (organizationId : String) (filters : CandidateFilter) (limit : ℕ) (now : ℕ → Moment)
    (index cursor : ℕ) : Except GovernanceError (Page (CandidateItem N)) :=
  listCandidates library (stored library (history index)) .available organizationId filters
    cursor limit (now index)

/-- The pages of `events`. -/
def eventPages (library : Library N) (history : ℕ → List (AppendCall N))
    (organizationId : String) (limit index cursor : ℕ) :
    Except GovernanceError (Page EventItem) :=
  events library (stored library (history index)) .available organizationId cursor limit

theorem candidates_followed (hgrow : ∀ index, history 0 <+: history index)
    (htotal : ∀ index, history index <+: total)
    (hbuilt : ∀ call ∈ total, call.record.Built)
    (horganization : isBlankText organizationId = false)
    (hfilters : filters.validate = .ok ()) (hlimit : 1 ≤ limit ∧ limit ≤ 100)
    (hnow : ∀ index, (now index).utcoffset ≠ none) (cursor : ℕ) :
    ∃ pages items, follow
        (candidatePages library history organizationId filters limit now) pages 0 cursor =
          .ok (some items) ∧
      (items.map CandidateItem.position).Pairwise (· < ·) ∧
      (∀ item ∈ items, ∃ entry ∈ candidates library total organizationId filters,
        cursor < entry.2 ∧ ∃ index, ShowsCandidate library (now index) entry item) ∧
      ∀ entry ∈ candidates library (history 0) organizationId filters, cursor < entry.2 →
        ∃ item ∈ items, ∃ index, ShowsCandidate library (now index) entry item := by
  have hfetch (index cursor : ℕ) : ∃ page, candidatePages library history organizationId
        filters limit now index cursor = .ok page ∧
      PageOf Prod.snd (ShowsCandidate library (now index)) limit cursor
        (candidates library (history index) organizationId filters) page :=
    listCandidates_page (fun call hcall => hbuilt call ((htotal index).subset hcall))
      horganization hfilters hlimit (hnow index) cursor
  have hposition (index : ℕ) (entry : Envelope × ℕ) (item : CandidateItem N)
      (hitem : ShowsCandidate library (now index) entry item) : item.position = entry.2 :=
    candidateItem_position hitem
  have hsorted (index : ℕ) : ((candidates library (history index) organizationId
      filters).map Prod.snd).Pairwise (· < ·) :=
    (entriesOf_sorted _ _).sublist (List.filter_sublist.map Prod.snd)
  exact ⟨_, follow_enumerates hfetch hlimit.1 hposition hsorted
    (fun index entry hentry => candidates_grow (hgrow index) hentry)
    (fun index entry hentry => candidates_grow (htotal index) hentry) cursor⟩

theorem events_followed (hgrow : ∀ index, history 0 <+: history index)
    (htotal : ∀ index, history index <+: total)
    (hbuilt : ∀ call ∈ total, call.record.Built)
    (horganization : isBlankText organizationId = false)
    (hlimit : 1 ≤ limit ∧ limit ≤ 100) (cursor : ℕ) :
    ∃ pages items, follow (eventPages library history organizationId limit) pages 0
        cursor = .ok (some items) ∧
      (items.map EventItem.position).Pairwise (· < ·) ∧
      (∀ item ∈ items, ∃ entry ∈ told library total organizationId,
        cursor < entry.2 ∧ ∃ _ : ℕ, ShowsEvent library entry item) ∧
      ∀ entry ∈ told library (history 0) organizationId, cursor < entry.2 →
        ∃ item ∈ items, ∃ _ : ℕ, ShowsEvent library entry item := by
  have hfetch (index cursor : ℕ) :
      ∃ page, eventPages library history organizationId limit index cursor = .ok page ∧
        PageOf Prod.snd (ShowsEvent library) limit cursor
          (told library (history index) organizationId) page :=
    events_page (fun call hcall => hbuilt call ((htotal index).subset hcall)) horganization
      hlimit cursor
  have hposition (_ : ℕ) (entry : Envelope × ℕ) (item : EventItem)
      (hitem : ShowsEvent library entry item) : item.position = entry.2 :=
    eventItem_position hitem
  have hsorted (index : ℕ) : ((told library (history index) organizationId).map
      Prod.snd).Pairwise (· < ·) :=
    (entriesOf_sorted _ _).sublist (List.filter_sublist.map Prod.snd)
  exact ⟨_, follow_enumerates hfetch hlimit.1 hposition hsorted
    (fun index entry hentry => told_grow (hgrow index) hentry)
    (fun index entry hentry => told_grow (htotal index) hentry) cursor⟩

theorem mem_joinedRecords_iff {calls : List (AppendCall N)} {row : RecordRow} :
    row ∈ (stored library calls).joinedRecords organizationId ↔
      ∃ entry ∈ entriesOf (journalOf library calls) organizationId,
        entryRecord library entry = row := by
  obtain ⟨hstored, hkeys⟩ := stored_eq_tables library calls
  rw [hstored, joinedRecords_tables hkeys, List.mem_map]
  rfl

theorem mem_joinedEvents_iff {calls : List (AppendCall N)} {row : EventRow} :
    row ∈ (stored library calls).joinedEvents organizationId ↔
      ∃ entry ∈ entriesOf (journalOf library calls) organizationId,
        entryEvent library entry = row := by
  obtain ⟨hstored, hkeys⟩ := stored_eq_tables library calls
  rw [hstored, joinedEvents_tables hkeys, List.mem_map]
  rfl

/-- Whatever is appended between the pages, the cursors of both projections lead to an
end, in the order of the positions, and show every row that the request selected before
the first page. -/
theorem cursors_complete (library : Library N)
    (hgrow : ∀ index, history 0 <+: history index)
    (htotal : ∀ index, history index <+: total)
    (hbuilt : ∀ call ∈ total, call.record.Built)
    (horganization : isBlankText organizationId = false)
    (hfilters : filters.validate = .ok ()) (hlimit : 1 ≤ limit ∧ limit ≤ 100)
    (hnow : ∀ index, (now index).utcoffset ≠ none) (cursor : ℕ) :
    (∃ pages items, follow
        (candidatePages library history organizationId filters limit now) pages 0 cursor =
          .ok (some items) ∧
      (items.map CandidateItem.position).Pairwise (· < ·) ∧
      (∀ item ∈ items, ∃ row ∈ (stored library total).joinedRecords organizationId,
        selects library filters cursor row = true ∧
          ∃ index, candidateItem library row (now index) = .ok item) ∧
      ∀ row ∈ (stored library (history 0)).joinedRecords organizationId,
        selects library filters cursor row = true →
        ∃ item ∈ items, ∃ index, candidateItem library row (now index) = .ok item) ∧
    ∃ pages items, follow (eventPages library history organizationId limit) pages 0
        cursor = .ok (some items) ∧
      (items.map EventItem.position).Pairwise (· < ·) ∧
      (∀ item ∈ items, ∃ row ∈ (stored library total).joinedEvents organizationId,
        cursor < row.position ∧ row.recordType ∈ allowedRecordTypes ∧
          eventItem library row = .ok item) ∧
      ∀ row ∈ (stored library (history 0)).joinedEvents organizationId,
        cursor < row.position → row.recordType ∈ allowedRecordTypes →
        ∃ item ∈ items, eventItem library row = .ok item := by
  constructor
  · obtain ⟨pages, items, hfollow, hsorted, hshown, hcomplete⟩ :=
      candidates_followed hgrow htotal hbuilt horganization hfilters hlimit hnow cursor
    refine ⟨pages, items, hfollow, hsorted, ?_, ?_⟩
    · intro item hitem
      obtain ⟨entry, hentry, hafter, hindex⟩ := hshown item hitem
      obtain ⟨hmem, hselects⟩ := List.mem_filter.mp hentry
      refine ⟨entryRecord library entry, mem_joinedRecords_iff.mpr ⟨entry, hmem, rfl⟩,
        ?_, hindex⟩
      rw [selects_cursor, hselects, Bool.and_true]
      exact decide_eq_true hafter
    · intro row hrow hselected
      obtain ⟨entry, hentry, rfl⟩ := mem_joinedRecords_iff.mp hrow
      rw [selects_cursor, Bool.and_eq_true, decide_eq_true_eq] at hselected
      exact hcomplete entry (List.mem_filter.mpr ⟨hentry, hselected.2⟩) hselected.1
  · obtain ⟨pages, items, hfollow, hsorted, hshown, hcomplete⟩ :=
      events_followed hgrow htotal hbuilt horganization hlimit cursor
    refine ⟨pages, items, hfollow, hsorted, ?_, ?_⟩
    · intro item hitem
      obtain ⟨entry, hentry, hafter, -, hitem⟩ := hshown item hitem
      obtain ⟨hmem, hallowed⟩ := List.mem_filter.mp hentry
      exact ⟨entryEvent library entry, mem_joinedEvents_iff.mpr ⟨entry, hmem, rfl⟩,
        hafter, of_decide_eq_true hallowed, hitem⟩
    · intro row hrow hafter hallowed
      obtain ⟨entry, hentry, rfl⟩ := mem_joinedEvents_iff.mp hrow
      obtain ⟨item, hitem, -, hshows⟩ :=
        hcomplete entry (List.mem_filter.mpr ⟨hentry, decide_eq_true hallowed⟩) hafter
      exact ⟨item, hitem, hshows⟩

end Appends

/-! ### Two matrices, one of them appended between the pages -/

/-- A library for records without numbers and times, whose digest is the text itself. -/
def textLibrary : Library ℤ where
  format := JsonText.integerFormat
  sameNumber left right := left = right
  ofBool value := if value then 1 else 0
  str _ := ""
  isoformat _ := "1970-01-01T00:00:00+00:00"
  fromisoformat text := if text = "1970-01-01T00:00:00+00:00" then some ⟨0, some 0⟩ else none
  sha256 := String.ofList
  jsonExtract _ _ := none

def matrixRecord (matrixId : String) : CandidateRecord ℤ where
  recordType := "QualityApplicabilityMatrix"
  fields :=
    [("matrix_id", .string matrixId), ("object_ref", .string "object:1"),
      ("domain", .string "safety"), ("applicable", .bool true),
      ("reason", .string "in scope"), ("required_evidence", .tuple [.string "evidence:1"]),
      ("mandatory_for_promotion", .bool true),
      ("source_links", .tuple [sourceLink "document" "document:1" "derived"]),
      ("provenance_refs", .tuple [.string "provenance:1"]), ("version", .string "1"),
      ("schema_version", .string schemaVersion)]

def matrixCall (matrixId : String) : AppendCall ℤ where
  record := matrixRecord matrixId
  organizationId := "org-1"
  occurredAt := ⟨0, some 0⟩
  failing := none

theorem matrixRecord_built {matrixId : String} (h : isBlankText matrixId = false) :
    (matrixRecord matrixId).Built := by
  refine ⟨qualityApplicabilityMatrix, by simp [recordClasses], rfl, ?_, ?_⟩
  · refine .cons ⟨rfl, trivial⟩ (.cons ⟨rfl, trivial⟩ (.cons ⟨rfl, trivial⟩
      (.cons ⟨rfl, trivial⟩ (.cons ⟨rfl, trivial⟩ (.cons ⟨rfl, ["evidence:1"], rfl⟩
      (.cons ⟨rfl, trivial⟩ (.cons ⟨rfl, ?_⟩ (.cons ⟨rfl, ["provenance:1"], rfl⟩
      (.cons ⟨rfl, trivial⟩ (.cons ⟨rfl, trivial⟩ .nil))))))))))
    intro item hitem
    exact ⟨"document", "document:1", "derived", List.mem_singleton.mp hitem⟩
  · intro name hname
    simp only [qualityApplicabilityMatrix, List.mem_cons, List.not_mem_nil, or_false] at hname
    rcases hname with rfl | rfl | rfl | rfl | rfl
    · exact ⟨matrixId, rfl, h⟩
    · exact ⟨"object:1", rfl, by decide⟩
    · exact ⟨"safety", rfl, by decide⟩
    · exact ⟨"in scope", rfl, by decide⟩
    · exact ⟨"1", rfl, by decide⟩

theorem matrixCalls_built : ∀ call ∈ [matrixCall "matrix-1", matrixCall "matrix-2"],
    call.record.Built := by
  intro call hcall
  simp only [List.mem_cons, List.not_mem_nil, or_false] at hcall
  rcases hcall with rfl | rfl
  · exact matrixRecord_built (by decide)
  · exact matrixRecord_built (by decide)

/-- The second matrix is appended after the first page. -/
def matrixHistory (index : ℕ) : List (AppendCall ℤ) :=
  if index = 0 then [matrixCall "matrix-1"]
  else [matrixCall "matrix-1", matrixCall "matrix-2"]

theorem matrices_followed :
    ∃ pages items, follow (candidatePages textLibrary matrixHistory "org-1" {} 1
        fun _ => ⟨0, some 0⟩) pages 0 0 = .ok (some items) ∧
      (items.map CandidateItem.position).Pairwise (· < ·) := by
  have hgrow (index : ℕ) : matrixHistory 0 <+: matrixHistory index := by
    cases index with
    | zero => exact List.prefix_rfl
    | succ index => exact ⟨[matrixCall "matrix-2"], rfl⟩
  have htotal (index : ℕ) :
      matrixHistory index <+: [matrixCall "matrix-1", matrixCall "matrix-2"] := by
    cases index with
    | zero => exact ⟨[matrixCall "matrix-2"], rfl⟩
    | succ index => exact List.prefix_rfl
  have hnow (index : ℕ) : ((fun _ => ⟨0, some 0⟩ : ℕ → Moment) index).utcoffset ≠ none :=
    Option.some_ne_none _
  obtain ⟨⟨pages, items, hfollow, hsorted, -, -⟩, -⟩ :=
    cursors_complete textLibrary hgrow htotal matrixCalls_built
      (by decide : isBlankText "org-1" = false) (rfl : CandidateFilter.validate {} = .ok ())
      (⟨le_rfl, by decide⟩ : 1 ≤ 1 ∧ 1 ≤ 100)
      hnow 0
  exact ⟨pages, items, hfollow, hsorted⟩

end ReisOs.GovernanceRefactor
