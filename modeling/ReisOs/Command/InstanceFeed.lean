import ReisOs.Command.EventStore
import ReisOs.Command.InstanceViews
import ReisOs.Core.OffsetFeed

/-!
# Feeds

`CommandInstanceViews.journal_feed` over the journal of the registry and
`CommandRealtimeFeed.read` over the command events.  Both take cursors that are offsets;
the first counts its rows and reads its page on two connections.
-/

namespace ReisOs.Command

open ReisOs.Core ReisOs.Kernel ReisOs.Instances

/-! ## The journal of the registry -/

/-- What the table of the journal adds to an entry, which its `event_id` names. -/
structure JournalStamp where
  position : ℕ
  occurredAt : Time

/-- `_journal_row`. -/
structure FeedEvent where
  entry : JournalEntry
  position : ℕ
  occurredAt : Time
  sourceVersion : String
  evidenceRefs : List String
  deriving DecidableEq, Repr

structure FeedBatch where
  events : List FeedEvent
  nextCursor : ℤ
  freshness : ViewFreshness
  batchAvailability : Option String
  source : Source
  deriving DecidableEq, Repr

def journalRow (stamps : String → JournalStamp) (entry : JournalEntry) : FeedEvent where
  entry := entry
  position := (stamps entry.eventId).position
  occurredAt := (stamps entry.eventId).occurredAt
  sourceVersion := entry.bindingVersion.repr
  evidenceRefs := [s!"journal-event:{entry.eventId}"]

/-- The join of the journal with the bindings of an organization, by position. -/
def feedRows (store : InstanceStore) (organizationId : String) : List JournalEntry :=
  store.journal.flatMap fun entry =>
    (store.bindings.filter fun row =>
      row.bindingId = entry.bindingId ∧ row.organizationId = organizationId).map
        fun _ => entry

/-- `LIMIT`, which a negative number lifts. -/
def limited {A : Type} (limit : ℤ) (rows : List A) : List A :=
  if limit < 0 then rows else rows.take limit.toNat

/-- The freshness of a batch. -/
def batchFreshness (values : List ViewFreshness) : ViewFreshness :=
  if .stale ∈ values then .stale
  else if values ≠ [] ∧ ∀ value ∈ values, value = .current then .current
  else .unknown

/-- `journal_feed`; `health` is what `_source_health` finds. -/
def journalFeed (stamps : String → JournalStamp) (organizationId : String) (health : Health)
    (cursor limit : ℤ) (now : Time) : Script InstanceStore ViewError FeedBatch := do
  .raiseIf (cursor < 0) ⟨"command_instance_cursor_invalid"⟩
  if health ≠ .available then
    return ⟨[], cursor, .unknown, none, source health⟩
  else
    let total ← Script.read fun store => (feedRows store organizationId).length
    .raiseIf (total < cursor) ⟨"command_instance_cursor_ahead"⟩
    let rows ← Script.read fun store =>
      limited limit ((feedRows store organizationId).drop cursor.toNat)
    let events := rows.map (journalRow stamps)
    return {
      events
      nextCursor := cursor + events.length
      freshness := batchFreshness
        (events.map fun event => freshness event.occurredAt now health)
      batchAvailability := some "available"
      source := source health }

/-! ## The command events -/

structure RealtimeBatch (N : Type) where
  events : List (CommandEvent N)
  nextCursor : ℤ
  disconnected : Bool
  freshness : Freshness

/-- `CommandRealtimeFeed`, whose `__init__` refuses other batch sizes. -/
structure RealtimeFeed where
  maxBatch : ℕ
  positive : 0 < maxBatch

namespace RealtimeFeed

variable {K N : Type}

/-- `_freshness`. -/
def freshness (events : List (CommandEvent N)) : Freshness :=
  if events = [] then .unknown
  else if .stale ∈ events.map CommandEvent.freshness then .stale
  else if .unknown ∈ events.map CommandEvent.freshness then .unknown
  else if ∀ value ∈ events.map CommandEvent.freshness, value = .live then .live
  else .recent

/-- `read`. -/
def read (feed : RealtimeFeed) (cursor : ℤ) :
    Script (EventStore K N) ViewError (RealtimeBatch N) := do
  .raiseIf (cursor < 0) ⟨"command_realtime_cursor_invalid"⟩
  let events ← Script.read EventStore.rows
  .raiseIf (events.length < cursor) ⟨"command_realtime_cursor_ahead"⟩
  let selected := (events.drop cursor.toNat).take feed.maxBatch
  return {
    events := selected
    nextCursor := cursor + selected.length
    disconnected := false
    freshness := freshness selected }

end RealtimeFeed

end ReisOs.Command
