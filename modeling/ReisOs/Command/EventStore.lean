import Mathlib.Data.List.Range
import ReisOs.Command.Events
import ReisOs.Core.Runs

/-!
# The command event store

`CommandEventStore.append` checks the sequence of an event by a query and inserts it by
another statement, each on its own as `sqlite3` begins no transaction for a query.  What
is left to the table are its UNIQUE constraints, for which no two NULLs are equal.
-/

namespace ReisOs.Command

open ReisOs.Core

/-- The table with the connections on it; a connection whose `append` has passed the
checks holds the event it is about to insert. -/
structure EventStore (K N : Type) where
  rows : List (CommandEvent N)
  pending : K → Option (CommandEvent N)

/-- What happens next: the queries of an `append`, its INSERT, or its end without one. -/
inductive AppendStep (K N : Type) where
  | check (connection : K) (event : CommandEvent N)
  | insert (connection : K)
  | fail (connection : K)

/-- `SELECT MAX(sequence)`. -/
def lastSequence : List ℤ → Option ℤ
  | [] => none
  | sequence :: rest =>
    match lastSequence rest with
    | none => some sequence
    | some last => some (if last < sequence then sequence else last)

variable {K N : Type}

/-- An event as `read_all` gives it back, in UTC. -/
def CommandEvent.persisted (event : CommandEvent N) : CommandEvent N :=
  { event with
    occurredAt :=
      ⟨event.occurredAt.microseconds - event.occurredAt.utcoffset.getD 0, some 0⟩ }

namespace EventStore

def empty : EventStore K N := ⟨[], fun _ => none⟩

/-- The rows that a query for a stream selects, by `IS` where a column may be NULL. -/
def sequences (store : EventStore K N) (stream : CommandEvent.Stream) : List ℤ :=
  (store.rows.filter (·.stream = stream)).map (·.sequence)

/-- `append` up to its INSERT: its answer, or none if it goes on. -/
def check (library : Library N) (store : EventStore K N) (event : CommandEvent N) :
    Option (Except EventError Bool) :=
  match event.validate library with
  | .error error => some (.error error)
  | .ok () =>
    match store.rows.find? (·.idempotencyKey = event.idempotencyKey) with
    | some existing =>
      if existing.eventId ≠ event.eventId then
        some (.error (.store "command_event_idempotency_conflict"))
      else some (.ok false)
    | none =>
      let expected := match lastSequence (store.sequences event.stream) with
        | none => 1
        | some last => last + 1
      if event.sequence ≠ expected then
        some (.error (.validation "command_event_sequence_hold"))
      else
        match event.occurredAtUtc library with
        | .error error => some (.error error)
        | .ok _ => none

/-- The UNIQUE constraints of the identifiers. -/
def identified (store : EventStore K N) (event : CommandEvent N) : Prop :=
  ∃ row ∈ store.rows,
    row.eventId = event.eventId ∨ row.idempotencyKey = event.idempotencyKey

/-- The UNIQUE constraint of the streams; a NULL differs from every other one. -/
def numbered (store : EventStore K N) (event : CommandEvent N) : Prop :=
  event.ocsId ≠ none ∧ event.runId ≠ none ∧
    ∃ row ∈ store.rows, row.stream = event.stream ∧ row.sequence = event.sequence

instance (store : EventStore K N) (event : CommandEvent N) :
    Decidable (store.identified event) := by
  unfold identified
  infer_instance

instance (store : EventStore K N) (event : CommandEvent N) :
    Decidable (store.numbered event) := by
  unfold numbered
  infer_instance

/-- The store after a step, with the answer of the call that it ends. -/
def step [DecidableEq K] (library : Library N) (store : EventStore K N) :
    AppendStep K N → EventStore K N × Option (Except EventError Bool)
  | .check connection event =>
    match store.pending connection with
    | some _ => (store, none)
    | none =>
      match store.check library event with
      | some answer => (store, some answer)
      | none =>
        ({ store with
            pending := Function.update store.pending connection (some event) }, none)
  | .insert connection =>
    match store.pending connection with
    | none => (store, none)
    | some event =>
      let pending := Function.update store.pending connection none
      if store.identified event ∨ store.numbered event then
        ({ store with pending },
          some (.error (.store "command_event_integrity_rejected")))
      else (⟨store.rows ++ [event.persisted], pending⟩, some (.ok true))
  | .fail connection =>
    ({ store with pending := Function.update store.pending connection none }, none)

/-- The store that a run of steps leaves. -/
def after [DecidableEq K] (library : Library N) (steps : List (AppendStep K N)) :
    EventStore K N :=
  run (fun store next => (step library store next).1) empty steps

end EventStore

/-! ## Numbers -/

/-- The sequences of a stream of so many events. -/
def numbers (count : ℕ) : List ℤ := (List.range' 1 count).map fun (k : ℕ) => (k : ℤ)

theorem numbers_succ (count : ℕ) : numbers (count + 1) = numbers count ++ [(count : ℤ) + 1] := by
  have hlast : (((1 + count : ℕ) : ℤ)) = (count : ℤ) + 1 := by omega
  rw [numbers, List.range'_1_concat, List.map_append, List.map_singleton, hlast]
  rfl

theorem mem_numbers {count : ℕ} {sequence : ℤ} :
    sequence ∈ numbers count ↔ 1 ≤ sequence ∧ sequence ≤ count := by
  rw [numbers, List.mem_map]
  constructor
  · rintro ⟨k, hk, rfl⟩
    have hrange := List.mem_range'_1.mp hk
    omega
  · intro h
    have hcast : ((sequence.toNat : ℕ) : ℤ) = sequence := by omega
    refine ⟨sequence.toNat, List.mem_range'_1.mpr ?_, hcast⟩
    omega

@[simp]
theorem length_numbers (count : ℕ) : (numbers count).length = count := by
  rw [numbers, List.length_map, List.length_range']

theorem lastSequence_spec {values : List ℤ} {last : ℤ} (h : lastSequence values = some last) :
    last ∈ values ∧ ∀ value ∈ values, value ≤ last := by
  induction values generalizing last with
  | nil => cases h
  | cons head rest ih =>
    rw [lastSequence] at h
    cases hrest : lastSequence rest with
    | none =>
      have hempty : rest = [] := by
        cases rest with
        | nil => rfl
        | cons other rest =>
          rw [lastSequence] at hrest
          split at hrest <;> cases hrest
      rw [hrest] at h
      cases h
      simp [hempty]
    | some other =>
      have hother := ih hrest
      simp only [hrest, Option.some.injEq] at h
      by_cases hless : other < head
      · rw [if_pos hless] at h
        subst h
        refine ⟨List.mem_cons_self, ?_⟩
        intro value hvalue
        rcases List.mem_cons.mp hvalue with rfl | hmem
        · exact le_refl _
        · exact (hother.2 value hmem).trans hless.le
      · rw [if_neg hless] at h
        subst h
        refine ⟨List.mem_cons_of_mem _ hother.1, ?_⟩
        intro value hvalue
        rcases List.mem_cons.mp hvalue with rfl | hmem
        · omega
        · exact hother.2 value hmem

theorem lastSequence_numbers (count : ℕ) :
    (match lastSequence (numbers count) with
      | none => 1
      | some last => last + 1) = (count : ℤ) + 1 := by
  cases hlast : lastSequence (numbers count) with
  | none =>
    cases count with
    | zero => rfl
    | succ count =>
      have hsome : lastSequence (numbers (count + 1)) ≠ none := by
        rw [numbers, List.range'_succ, List.map_cons, lastSequence]
        split <;> simp
      exact absurd hlast hsome
  | some last =>
    have hspec := lastSequence_spec hlast
    have hrange := mem_numbers.mp hspec.1
    have htop : (count : ℤ) ≤ last := by
      apply hspec.2
      rw [mem_numbers]
      omega
    have hsame : last = count := by omega
    simp [hsame]

end ReisOs.Command
