import ReisOs.Command.InstanceFeed
import ReisOs.Instances.RegistryStates
import ReisOs.Instances.ForeignCalls

/-!
# Polling is complete

An entry never leaves the journal of its organization and none enters it before the
last, since rows keep their organizations and entries have rows.  So both feeds deliver
their logs, whatever happens between two polls and within one.
-/

namespace ReisOs.Command

open ReisOs.Core ReisOs.Kernel ReisOs.Instances OffsetFeed

/-! ## The feeds -/

structure FeedQuery where
  health : Health
  limit : ℤ
  now : Time

/-- `journal_feed` for an organization. -/
def instanceFeed (stamps : String → JournalStamp) (organizationId : String) :
    OffsetFeed InstanceStore ViewError FeedBatch FeedEvent FeedQuery where
  log store := (feedRows store organizationId).map (journalRow stamps)
  request query cursor :=
    journalFeed stamps organizationId query.health cursor query.limit query.now
  asks query := query.health = .available && query.limit ≠ 0
  events := FeedBatch.events
  nextCursor := FeedBatch.nextCursor

/-- `CommandRealtimeFeed.read`. -/
def commandFeed {K N : Type} (feed : RealtimeFeed) :
    OffsetFeed (EventStore K N) ViewError (RealtimeBatch N) (CommandEvent N) Unit where
  log := EventStore.rows
  request _ cursor := feed.read cursor
  asks _ := true
  events := RealtimeBatch.events
  nextCursor := RealtimeBatch.nextCursor

theorem append_take_drop_prefix {A : Type} {received log : List A} (h : received <+: log)
    (count : ℕ) : received ++ (log.drop received.length).take count <+: log := by
  obtain ⟨rest, rfl⟩ := h
  rw [List.drop_left, List.prefix_append_right_inj]
  exact List.take_prefix count rest

theorem take_drop_ne_nil {A : Type} {log : List A} {cursor count : ℕ} (hcount : 0 < count)
    (h : cursor < log.length) : (log.drop cursor).take count ≠ [] := by
  apply List.ne_nil_of_length_pos
  rw [List.length_take, List.length_drop]
  omega

theorem exists_limited {A : Type} (limit : ℤ) (rows : List A) :
    ∃ count, limited limit rows = rows.take count ∧
      (limit ≠ 0 → rows ≠ [] → 0 < count) := by
  by_cases hlimit : limit < 0
  · refine ⟨rows.length, ?_, ?_⟩
    · rw [limited, if_pos hlimit, List.take_length]
    · intro _ hrows
      exact List.length_pos_of_ne_nil hrows
  · refine ⟨limit.toNat, ?_, ?_⟩
    · rw [limited, if_neg hlimit]
    · intro hzero _
      omega

theorem lawful_instanceFeed (stamps : String → JournalStamp) (organizationId : String) :
    (instanceFeed stamps organizationId).Lawful := by
  intro query received store hreceived
  apply serves_raiseIf_bind (by omega)
  by_cases hhealth : query.health = .available
  · rw [if_neg (not_not.mpr hhealth)]
    apply serves_read_bind
    intro counted hcounted
    have hcursor : received.length ≤ (feedRows counted organizationId).length := by
      have hlength := (hreceived.trans hcounted).length_le
      simpa [instanceFeed] using hlength
    apply serves_raiseIf_bind (by omega)
    apply serves_read_bind
    intro now hnow
    obtain ⟨count, hpage, hsome⟩ := exists_limited query.limit
      ((feedRows now organizationId).drop received.length)
    have hevents : ((limited query.limit
        ((feedRows now organizationId).drop received.length)).map (journalRow stamps)) =
        (((feedRows now organizationId).map (journalRow stamps)).drop
          received.length).take count := by
      rw [hpage, List.map_take, List.map_drop]
    have hlog := hreceived.trans (hcounted.trans hnow)
    refine ⟨⟨?_, ?_⟩, ?_⟩
    · simp [instanceFeed]
    · have hprefix := append_take_drop_prefix hlog count
      simpa [instanceFeed, hevents] using hprefix
    · intro hasks hbehind
      have hlength : received.length < (feedRows now organizationId).length := by
        have hgrown := (hcounted.trans hnow).length_le
        simp only [instanceFeed, List.length_map] at hgrown hbehind
        omega
      have hlimit : query.limit ≠ 0 := by
        simp only [instanceFeed, hhealth, decide_true, Bool.true_and,
          decide_eq_true_eq] at hasks
        exact hasks
      have hcount : 0 < count := by
        apply hsome hlimit
        apply List.ne_nil_of_length_pos
        rw [List.length_drop]
        omega
      rw [← List.length_map (journalRow stamps)] at hlength
      have hne := take_drop_ne_nil hcount hlength
      simpa [instanceFeed, hevents] using hne
  · rw [if_pos hhealth]
    refine ⟨⟨?_, ?_⟩, ?_⟩
    · simp [instanceFeed]
    · simpa [instanceFeed] using hreceived
    · intro hasks
      simp [instanceFeed, hhealth] at hasks

theorem lawful_commandFeed {K N : Type} (feed : RealtimeFeed) :
    (commandFeed feed : OffsetFeed (EventStore K N) ViewError _ _ _).Lawful := by
  intro query received store hreceived
  apply serves_raiseIf_bind (by omega)
  apply serves_read_bind
  intro now hnow
  have hlog := hreceived.trans hnow
  have hcursor : received.length ≤ now.rows.length := hlog.length_le
  apply serves_raiseIf_bind (by omega)
  refine ⟨⟨?_, ?_⟩, ?_⟩
  · simp [commandFeed]
  · exact append_take_drop_prefix hlog feed.maxBatch
  · intro _ hbehind
    apply take_drop_ne_nil feed.positive
    exact hbehind.trans_le hnow.length_le

/-! ## The journal of an organization -/

theorem joined_eq (bindings : List InstanceBinding) (entry : JournalEntry)
    (organizationId : String) :
    ((bindings.filter fun row =>
      row.bindingId = entry.bindingId ∧ row.organizationId = organizationId).map
        fun _ => entry) =
      (((bindings.map (·.fixed)).filter fun row =>
        row.bindingId = entry.bindingId ∧ row.organizationId = organizationId).map
          fun _ => entry) := by
  rw [List.filter_map, List.map_map]
  rfl

theorem joined_extends {store later : InstanceStore} (h : store.WellFormed)
    (hlater : later.WellFormed) (hextends : store.Extends later) {entry : JournalEntry}
    (hentry : entry ∈ store.journal) (organizationId : String) :
    ((later.bindings.filter fun row =>
      row.bindingId = entry.bindingId ∧ row.organizationId = organizationId).map
        fun _ => entry) =
      ((store.bindings.filter fun row =>
        row.bindingId = entry.bindingId ∧ row.organizationId = organizationId).map
          fun _ => entry) := by
  rw [joined_eq later.bindings, joined_eq store.bindings]
  obtain ⟨added, hadded⟩ := hextends.records
  obtain ⟨row, hrow, hid⟩ := h.entries entry hentry
  have hnone : added.filter (fun row =>
      row.bindingId = entry.bindingId ∧ row.organizationId = organizationId) = [] := by
    apply List.filter_eq_nil_iff.mpr
    intro other hother hboth
    have hnodup : (later.records.map (·.bindingId)).Nodup := by
      rw [InstanceStore.records, List.map_map]
      exact hlater.bindings
    rw [← hadded, List.map_append, List.nodup_append] at hnodup
    have hmem : row.fixed ∈ store.records := List.mem_map_of_mem hrow
    apply hnodup.2.2 _ (List.mem_map_of_mem hmem) _ (List.mem_map_of_mem hother)
    exact hid.trans (of_decide_eq_true hboth).1.symm
  change ((later.records.filter _).map _) = ((store.records.filter _).map _)
  rw [← hadded, List.filter_append, hnone, List.append_nil]

theorem feedRows_prefix {store later : InstanceStore} (h : store.WellFormed)
    (hlater : later.WellFormed) (hextends : store.Extends later) (organizationId : String) :
    feedRows store organizationId <+: feedRows later organizationId := by
  obtain ⟨added, hadded⟩ := hextends.journal
  have hold : (store.journal.flatMap fun entry =>
      (later.bindings.filter fun row =>
        row.bindingId = entry.bindingId ∧ row.organizationId = organizationId).map
          fun _ => entry) = feedRows store organizationId := by
    apply List.flatMap_congr
    intro entry hentry
    exact joined_extends h hlater hextends hentry organizationId
  rw [feedRows, feedRows, ← hadded, List.flatMap_append]
  exact ⟨_, congrArg (· ++ _) hold.symm⟩

/-! ## Every run -/

variable {S : Type}

variable [DecidableEq S]

/-- What an event does to the processes of the registry. -/
def registryMove (config : BinderConfig S) (folding : TextFolding) (pool : Processes S)
    (event : Event S) : Processes S :=
  run (Pool.turn World.parts) pool (event.turns config folding)

theorem registryMove_extends (config : BinderConfig S) (folding : TextFolding)
    {pool : Processes S} (h : pool.Orderly World.parts Frame.nothing.pooled)
    (event : Event S) :
    (registryMove config folding pool event).Orderly World.parts Frame.nothing.pooled ∧
      pool.common.1.Extends (registryMove config folding pool event).common.1 :=
  ⟨h.run (turns_extend config folding event), h.grows_run (turns_extend config folding event)⟩

/-- A client that polls the journal of an organization while processes work on the
registry. -/
def journalPolled (config : BinderConfig S) (folding : TextFolding)
    (stamps : String → JournalStamp) (organizationId : String)
    (steps : List (Event S ⊕ FeedStep FeedQuery)) :
    Processes S × FeedClient InstanceStore ViewError FeedBatch FeedEvent FeedQuery :=
  run (watch (instanceFeed stamps organizationId) (fun pool : Processes S => pool.common.1)
    (registryMove config folding)) (idleProcesses, .new) steps

/-- A client that polls the command events while connections append. -/
def eventsPolled {K N : Type} [DecidableEq K] (library : Library N) (feed : RealtimeFeed)
    (steps : List (AppendStep K N ⊕ FeedStep Unit)) :
    EventStore K N × FeedClient (EventStore K N) ViewError (RealtimeBatch N)
      (CommandEvent N) Unit :=
  run (watch (commandFeed feed) id fun store next => (EventStore.step library store next).1)
    (.empty, .new) steps

theorem rows_step {K N : Type} [DecidableEq K] (library : Library N)
    (store : EventStore K N) (next : AppendStep K N) :
    store.rows <+: (EventStore.step library store next).1.rows := by
  cases next with
  | check connection event =>
    simp only [EventStore.step]
    split
    · exact List.prefix_refl _
    · split <;> exact List.prefix_refl _
  | insert connection =>
    simp only [EventStore.step]
    split
    · exact List.prefix_refl _
    · split
      · exact List.prefix_refl _
      · exact List.prefix_append _ _
  | fail connection => exact List.prefix_refl _

/-- Between any two states of any run, each feed delivers its log: the journal of an
organization, and the command events. -/
theorem feeds_deliver {K N : Type} [DecidableEq K] :
    (∀ (config : BinderConfig S) (folding : TextFolding) (stamps : String → JournalStamp)
      (organizationId : String) (steps later : List (Event S ⊕ FeedStep FeedQuery)),
      let before := journalPolled config folding stamps organizationId steps
      let after := journalPolled config folding stamps organizationId (steps ++ later)
      (instanceFeed stamps organizationId).Delivers before.1.common.1 after.1.common.1
        before.2 after.2) ∧
      ∀ (library : Library N) (feed : RealtimeFeed)
        (steps later : List (AppendStep K N ⊕ FeedStep Unit)),
        let before := eventsPolled library feed steps
        let after := eventsPolled library feed (steps ++ later)
        (commandFeed feed).Delivers before.1 after.1 before.2 after.2 := by
  constructor
  · intro config folding stamps organizationId steps later before after
    have hlawful := lawful_instanceFeed stamps organizationId
    have hmove (pool : Processes S) (event : Event S)
        (hpool : pool.Orderly World.parts Frame.nothing.pooled) :
        (registryMove config folding pool event).Orderly World.parts Frame.nothing.pooled ∧
          (instanceFeed stamps organizationId).log pool.common.1 <+:
            (instanceFeed stamps organizationId).log
              (registryMove config folding pool event).common.1 := by
      obtain ⟨horderly, hextends⟩ := registryMove_extends config folding hpool event
      refine ⟨horderly, List.IsPrefix.map _ ?_⟩
      exact feedRows_prefix hpool.common.wellFormed horderly.common.wellFormed hextends
        organizationId
    obtain ⟨hinv, hsynced⟩ := synced_run hlawful hmove orderly_idleProcesses
      synced_new steps
    have hdelivers := delivers_run hlawful hmove hinv hsynced later
    rw [← run_append] at hdelivers
    exact hdelivers
  · intro library feed steps later before after
    have hlawful := @lawful_commandFeed K N feed
    have hmove (store : EventStore K N) (next : AppendStep K N) (_ : True) :
        True ∧ (commandFeed feed : OffsetFeed (EventStore K N) _ _ _ _).log store <+:
          (commandFeed feed).log (EventStore.step library store next).1 :=
      ⟨trivial, rows_step library store next⟩
    obtain ⟨hinv, hsynced⟩ := synced_run hlawful hmove trivial
      synced_new steps
    have hdelivers := delivers_run hlawful hmove hinv hsynced later
    rw [← run_append] at hdelivers
    exact hdelivers

end ReisOs.Command
