import Mathlib.Logic.Function.Basic
import ReisOs.Core.Links
import ReisOs.Core.Runs

/-!
# A row and its audit trail

Sessions read a row, and later write the columns they have changed together with an event
of their own view of the change.  No lock is held in between.  The events of a row are
linked as long as no session writes after the row it has read has changed.
-/

namespace ReisOs.Core

/-- What a session that has read the row is about to write. -/
inductive RowSession (D : Type) where
  | inserting (row : D)
  | changing (read view : D)
  deriving DecidableEq, Repr

/-- A kind of rows: what a request makes of the row it reads, how the columns in which a
view differs from what was read are laid over the row, and which changes of status a request
may make. -/
structure RowKind (Q D S X : Type) where
  session : Q → Option D → Except X (RowSession D)
  overlay : D → D → D → D
  status : D → S
  permitted : S → S → Bool
  overlay_read : ∀ read view, overlay read view read = view
  session_read : ∀ {request stored read view},
    session request stored = .ok (.changing read view) → stored = some read
  session_status : ∀ {request stored read view},
    session request stored = .ok (.changing read view) →
      status view = status read ∨ permitted (status read) (status view)

structure RowEvent (D : Type) where
  beforeData : Option D
  afterData : D
  deriving DecidableEq, Repr

/-- The row of one entity, the sessions that have read it and its events in the order of
their commits. -/
structure AuditedRow (K D : Type) where
  row : Option D
  sessions : K → Option (RowSession D)
  events : List (RowEvent D)

inductive RowStep (K Q : Type) where
  | read (session : K) (request : Q)
  | commit (session : K)
  | rollback (session : K)

namespace AuditedRow

variable {K Q D S X : Type}

def empty : AuditedRow K D where
  row := none
  sessions _ := none
  events := []

variable [DecidableEq K]

def withSession (table : AuditedRow K D) (session : K) (state : Option (RowSession D)) :
    AuditedRow K D :=
  { table with sessions := Function.update table.sessions session state }

/-- The commit of an insertion: the row of another entity when this one has a row. -/
def insert (table : AuditedRow K D) (row : D) : AuditedRow K D :=
  match table.row with
  | some _ => table
  | none => { table with row := some row, events := table.events ++ [⟨none, row⟩] }

def write (kind : RowKind Q D S X) (table : AuditedRow K D) (read view : D) :
    AuditedRow K D :=
  { table with
    row := table.row.map (kind.overlay read view)
    events := table.events ++ [⟨some read, view⟩] }

def step (kind : RowKind Q D S X) (table : AuditedRow K D) : RowStep K Q → AuditedRow K D
  | .read session request =>
    match table.sessions session, kind.session request table.row with
    | none, .ok state => table.withSession session (some state)
    | _, _ => table
  | .commit session =>
    match table.sessions session with
    | none => table
    | some (.inserting row) => (table.withSession session none).insert row
    | some (.changing read view) => (table.withSession session none).write kind read view
  | .rollback session => table.withSession session none

end AuditedRow

section Trail

variable {K Q D S X : Type} (kind : RowKind Q D S X)

/-- The events are a chain from the creation to the stored row, along permitted changes of
status. -/
structure AuditTrail (table : AuditedRow K D) : Prop where
  created : ∀ event, table.events[0]? = some event → event.beforeData = none
  chained : ∀ index event next, table.events[index]? = some event →
    table.events[index + 1]? = some next → next.beforeData = some event.afterData
  stored : table.row = table.events.getLast?.map (·.afterData)
  statuses : ∀ index event next, table.events[index]? = some event →
    table.events[index + 1]? = some next →
    kind.status next.afterData = kind.status event.afterData ∨
      kind.permitted (kind.status event.afterData) (kind.status next.afterData)
  settled : ∀ index event next, table.events[index]? = some event →
    table.events[index + 1]? = some next →
    (∀ target, kind.permitted (kind.status event.afterData) target = false) →
    kind.status next.afterData = kind.status event.afterData

/-- A session that changes the row commits while the row is as it has read it. -/
def Undisturbed (table : AuditedRow K D) : RowStep K Q → Prop
  | .commit session => ∀ read view, table.sessions session = some (.changing read view) →
      table.row = some read
  | _ => True

/-- The events are linked up to the row, and what is done or about to be done to it
follows the permitted changes. -/
structure InTrail (table : AuditedRow K D) : Prop where
  linked : Linked none RowEvent.beforeData (fun event => some event.afterData) table.events
  stored : table.row = reached none (fun event => some event.afterData) table.events
  permitted : ∀ event ∈ table.events, ∀ before, event.beforeData = some before →
    kind.status event.afterData = kind.status before ∨
      kind.permitted (kind.status before) (kind.status event.afterData)
  pending : ∀ session read view, table.sessions session = some (.changing read view) →
    kind.status view = kind.status read ∨
      kind.permitted (kind.status read) (kind.status view)

variable {kind} {table : AuditedRow K D}

theorem reached_events (events : List (RowEvent D)) :
    reached none (fun event => some event.afterData) events =
      events.getLast?.map (·.afterData) := by
  rw [reached]
  cases events.getLast? <;> rfl

theorem empty_inTrail : InTrail kind (AuditedRow.empty : AuditedRow K D) where
  linked := linked_nil
  stored := rfl
  permitted := fun _ h => by cases h
  pending := fun _ _ _ h => by cases h

theorem InTrail.auditTrail (h : InTrail kind table) : AuditTrail kind table where
  created := fun _ => h.linked.first
  chained := fun _ _ _ => h.linked.next
  stored := h.stored.trans (reached_events table.events)
  statuses := fun _ _ next hevent hnext =>
    h.permitted next (List.mem_of_getElem? hnext) _ (h.linked.next hevent hnext)
  settled := by
    intro index event next hevent hnext hfinal
    have hstatus :=
      h.permitted next (List.mem_of_getElem? hnext) _ (h.linked.next hevent hnext)
    apply hstatus.resolve_right
    rw [hfinal]
    exact Bool.false_ne_true

theorem InTrail.record (h : InTrail kind table) {before : Option D} {after : D}
    (hbefore : before = table.row)
    (hpermitted : ∀ read, before = some read →
      kind.status after = kind.status read ∨
        kind.permitted (kind.status read) (kind.status after)) :
    InTrail kind
      { table with row := some after, events := table.events ++ [⟨before, after⟩] } where
  linked := linked_append_singleton_iff.mpr ⟨h.linked, hbefore.trans h.stored⟩
  stored := by rw [reached_append_singleton]
  permitted := by
    intro other hmem
    rcases List.mem_append.mp hmem with hmem | hmem
    · exact h.permitted other hmem
    · rw [List.mem_singleton.mp hmem]
      exact hpermitted
  pending := h.pending

variable [DecidableEq K]

theorem InTrail.withSession (h : InTrail kind table) (session : K)
    {state : Option (RowSession D)}
    (hstate : ∀ read view, state = some (.changing read view) →
      kind.status view = kind.status read ∨
        kind.permitted (kind.status read) (kind.status view)) :
    InTrail kind (table.withSession session state) where
  linked := h.linked
  stored := h.stored
  permitted := h.permitted
  pending := by
    intro other read view hother
    rw [AuditedRow.withSession] at hother
    dsimp only at hother
    by_cases hsame : other = session
    · rw [hsame, Function.update_self] at hother
      exact hstate read view hother
    · rw [Function.update_of_ne hsame] at hother
      exact h.pending other read view hother

theorem InTrail.closed (h : InTrail kind table) (session : K) :
    InTrail kind (table.withSession session none) :=
  h.withSession session fun _ _ hstate => by cases hstate

theorem InTrail.step (h : InTrail kind table) {input : RowStep K Q}
    (hinput : Undisturbed table input) : InTrail kind (table.step kind input) := by
  cases input with
  | rollback session => exact h.closed session
  | read session request =>
    rw [AuditedRow.step]
    split
    · next state _ hsession =>
        apply h.withSession session
        intro read view hstate
        cases hstate
        exact kind.session_status hsession
    · exact h
  | commit session =>
    rw [AuditedRow.step]
    split
    · exact h
    · next row hsession =>
        rw [AuditedRow.insert]
        split
        · exact h.closed session
        · next hnone =>
            apply (h.closed session).record hnone.symm
            intro before hbefore
            cases hbefore
    · next read view hsession =>
        have hread := hinput read view hsession
        have hrow : (table.withSession session none).row = some read := hread
        rw [AuditedRow.write, hrow, Option.map_some, kind.overlay_read]
        apply (h.closed session).record hread.symm
        intro before hbefore
        cases hbefore
        exact h.pending session read view hsession

/-- A commit after which the events are a chain has found the row that was read. -/
theorem InTrail.undisturbed (h : InTrail kind table) {input : RowStep K Q}
    (hafter : AuditTrail kind (table.step kind input)) : Undisturbed table input := by
  cases input with
  | rollback session => trivial
  | read session request => trivial
  | commit session =>
    intro read view hsession
    have hevents : (table.step kind (.commit session)).events =
        table.events ++ [⟨some read, view⟩] := by
      rw [AuditedRow.step, hsession]
      rfl
    rw [h.stored, reached_events]
    cases hlast : table.events.getLast? with
    | none =>
      have hnil := List.getLast?_eq_none_iff.mp hlast
      have hfirst := hafter.created ⟨some read, view⟩ (by rw [hevents, hnil]; rfl)
      cases hfirst
    | some event =>
      rw [List.getLast?_eq_getElem?] at hlast
      have hindex := (List.getElem?_eq_some_iff.mp hlast).1
      have hnext := hafter.chained (table.events.length - 1) event ⟨some read, view⟩
        (by rw [hevents, List.getElem?_append_left hindex, hlast])
        (by
          rw [hevents, Nat.sub_add_cancel (Nat.one_le_of_lt hindex)]
          exact List.getElem?_concat_length)
      exact hnext.symm

/-- The trail of a row is a chain at all times just if no session commits a change after
the row it has read has changed. -/
theorem auditTrail_iff (kind : RowKind Q D S X) (steps : List (RowStep K Q)) :
    (∀ before, before <+: steps →
      AuditTrail kind (run (AuditedRow.step kind) AuditedRow.empty before)) ↔
      Admissible (AuditedRow.step kind) Undisturbed AuditedRow.empty steps :=
  always_iff_admissible (InTrail kind) (AuditTrail kind) (fun _ _ h hinput => h.step hinput)
    (fun _ h => h.auditTrail) (fun _ _ h hafter => h.undisturbed hafter) empty_inTrail steps

end Trail

end ReisOs.Core
