import ReisOs.Command.EventStore

/-!
# Streams of the event store

Appends on several connections keep every stream numbered from one without a gap.  What
they keep apart only if OCS and run are given are two events of the same number.
-/

namespace ReisOs.Command

open ReisOs.Core

namespace EventStore

variable {K N : Type}

/-- Every stream holds the sequences from one on, each exactly once. -/
def Sequenced (store : EventStore K N) : Prop :=
  ∀ stream, (store.sequences stream).Perm (numbers (store.sequences stream).length)

/-- Streams are numbered in the order of their rows, and an event that is about to be
inserted has passed the numbers in use by one at most. -/
structure Wired (store : EventStore K N) : Prop where
  numbered : ∀ stream, store.sequences stream = numbers (store.sequences stream).length
  pending : ∀ connection event, store.pending connection = some event →
    1 ≤ event.sequence ∧ event.sequence ≤ (store.sequences event.stream).length + 1

/-- An event without OCS or run that the identifiers let pass finds its sequence free. -/
def Timely (store : EventStore K N) : AppendStep K N → Prop
  | .insert connection => ∀ event ∈ store.pending connection,
      (event.ocsId = none ∨ event.runId = none) → ¬store.identified event →
        event.sequence ∉ store.sequences event.stream
  | _ => True

theorem wired_empty : (empty : EventStore K N).Wired where
  numbered _ := rfl
  pending _ _ h := nomatch h

variable {store : EventStore K N}

theorem mem_sequences {stream : CommandEvent.Stream}
    {sequence : ℤ} :
    sequence ∈ store.sequences stream ↔
      ∃ row ∈ store.rows, row.stream = stream ∧ row.sequence = sequence := by
  simp [sequences, and_assoc]

variable {event : CommandEvent N}

theorem numbered_iff :
    store.numbered event ↔ event.ocsId ≠ none ∧ event.runId ≠ none ∧
      event.sequence ∈ store.sequences event.stream := by
  rw [mem_sequences, EventStore.numbered]

theorem sequences_push (store : EventStore K N) (event : CommandEvent N)
    (pending : K → Option (CommandEvent N)) (stream : CommandEvent.Stream) :
    (⟨store.rows ++ [event.persisted], pending⟩ : EventStore K N).sequences stream =
      if stream = event.stream then store.sequences stream ++ [event.sequence]
      else store.sequences stream := by
  have hstream : event.persisted.stream = event.stream := rfl
  have hsequence : event.persisted.sequence = event.sequence := rfl
  rw [sequences, List.filter_append, List.map_append]
  by_cases hsame : stream = event.stream
  · rw [if_pos hsame, List.filter_singleton, hstream, hsame]
    simp [sequences, hsequence]
  · rw [if_neg hsame, List.filter_singleton, hstream]
    simp [sequences, Ne.symm hsame]

variable {library : Library N}

theorem Wired.check_none (h : store.Wired) (hcheck : store.check library event = none) :
    1 ≤ event.sequence ∧
      event.sequence = (store.sequences event.stream).length + 1 := by
  rw [check] at hcheck
  cases hvalid : event.validate library with
  | error error => simp [hvalid] at hcheck
  | ok _ =>
    refine ⟨CommandEvent.one_le_sequence hvalid, ?_⟩
    rw [h.numbered event.stream, length_numbers, ← lastSequence_numbers]
    by_contra hdiffers
    rw [← h.numbered event.stream] at hdiffers
    cases hfound : store.rows.find? (·.idempotencyKey = event.idempotencyKey) with
    | none => simp [hvalid, hfound, hdiffers] at hcheck
    | some existing =>
      by_cases hid : existing.eventId = event.eventId <;>
        simp [hvalid, hfound, hid] at hcheck

theorem Wired.hold {store : EventStore K N} (h : store.Wired)
    {pending : K → Option (CommandEvent N)}
    (hpending : ∀ connection event, pending connection = some event →
      1 ≤ event.sequence ∧ event.sequence ≤ (store.sequences event.stream).length + 1) :
    (⟨store.rows, pending⟩ : EventStore K N).Wired where
  numbered := h.numbered
  pending := hpending

variable [DecidableEq K]

theorem pending_update {connection other : K}
    {value : Option (CommandEvent N)}
    (h : Function.update store.pending connection value other = some event) :
    value = some event ∨ store.pending other = some event := by
  by_cases hsame : other = connection
  · subst hsame
    left
    simpa using h
  · right
    simpa [hsame] using h

theorem Wired.idle (h : store.Wired) (connection : K) :
    ({ store with pending := Function.update store.pending connection none } :
      EventStore K N).Wired := by
  apply h.hold
  intro other event hevent
  rcases pending_update hevent with hnone | hheld
  · cases hnone
  · exact h.pending other event hheld

/-- Inserting an event whose number is free keeps the streams numbered. -/
theorem Wired.push (h : store.Wired) {connection : K} (hevent : store.pending connection = some event)
    (hfree : event.sequence ∉ store.sequences event.stream) :
    (⟨store.rows ++ [event.persisted], Function.update store.pending connection none⟩ :
      EventStore K N).Wired := by
  have hbounds := h.pending connection event hevent
  have hnext : event.sequence = (store.sequences event.stream).length + 1 := by
    rw [h.numbered event.stream, mem_numbers] at hfree
    omega
  constructor
  · intro stream
    rw [sequences_push]
    by_cases hsame : stream = event.stream
    · rw [if_pos hsame, List.length_append, List.length_singleton, numbers_succ, hsame,
        ← h.numbered event.stream, hnext]
    · rw [if_neg hsame]
      exact h.numbered stream
  · intro other later hlater
    have hheld : store.pending other = some later := by
      rcases pending_update hlater with hnone | hheld
      · cases hnone
      · exact hheld
    have hlaterbounds := h.pending other later hheld
    rw [sequences_push]
    by_cases hsame : later.stream = event.stream
    · rw [if_pos hsame, List.length_append, List.length_singleton]
      omega
    · rw [if_neg hsame]
      exact hlaterbounds

theorem step_insert (library : Library N) {connection : K} (h : store.pending connection = some event) :
    (store.step library (.insert connection)).1 =
      if store.identified event ∨ store.numbered event then
        { store with pending := Function.update store.pending connection none }
      else
        ⟨store.rows ++ [event.persisted],
          Function.update store.pending connection none⟩ := by
  rw [step, h]
  by_cases hrejected : store.identified event ∨ store.numbered event
  · rw [if_pos hrejected]
    simp only [if_pos hrejected]
  · rw [if_neg hrejected]
    simp only [if_neg hrejected]

theorem Wired.step (h : store.Wired)
    {next : AppendStep K N} (htimely : store.Timely next) :
    (store.step library next).1.Wired := by
  cases next with
  | check connection event =>
    rw [EventStore.step]
    cases hpending : store.pending connection with
    | some held => exact h
    | none =>
      cases hcheck : store.check library event with
      | some answer => exact h
      | none =>
        change (⟨store.rows, Function.update store.pending connection (some event)⟩ :
          EventStore K N).Wired
        apply h.hold
        intro other later hlater
        rcases pending_update hlater with hsame | hheld
        · have hnext := h.check_none hcheck
          rw [← Option.some.inj hsame]
          omega
        · exact h.pending other later hheld
  | insert connection =>
    cases hpending : store.pending connection with
    | none =>
      rw [EventStore.step, hpending]
      exact h
    | some event =>
      rw [step_insert library hpending]
      by_cases hrejected : store.identified event ∨ store.numbered event
      · rw [if_pos hrejected]
        exact h.idle connection
      · rw [if_neg hrejected]
        apply h.push hpending
        intro htaken
        have hevent := htimely event hpending
        have hgiven : ¬(event.ocsId = none ∨ event.runId = none) := fun hnull =>
          hevent hnull (fun hid => hrejected (Or.inl hid)) htaken
        rw [not_or] at hgiven
        exact hrejected (Or.inr (numbered_iff.mpr ⟨hgiven.1, hgiven.2, htaken⟩))
  | fail connection => exact h.idle connection

theorem Wired.timely (h : store.Wired)
    {next : AppendStep K N} (hafter : (store.step library next).1.Sequenced) :
    store.Timely next := by
  cases next with
  | check connection event => trivial
  | fail connection => trivial
  | insert connection =>
    intro event hpending hnull hnew htaken
    have hrejected : ¬(store.identified event ∨ store.numbered event) := by
      rintro (hid | hnumbered)
      · exact hnew hid
      · rcases hnull with hocs | hrun
        · exact hnumbered.1 hocs
        · exact hnumbered.2.1 hrun
    rw [step_insert library hpending, if_neg hrejected] at hafter
    have hstream := hafter event.stream
    rw [sequences_push, if_pos rfl, List.length_append, List.length_singleton,
      numbers_succ, ← h.numbered event.stream, List.perm_append_left_iff] at hstream
    have hlast := List.perm_singleton.mp hstream
    rw [List.singleton_inj] at hlast
    rw [h.numbered event.stream, mem_numbers] at htaken
    omega

/-- A step whose answer is a rejection, by an exception or as a repetition, has left the
rows as they were. -/
theorem rejected_unchanged (library : Library N) (store : EventStore K N)
    (next : AppendStep K N) {answer : Except EventError Bool}
    (hanswer : (store.step library next).2 = some answer) (hrejected : answer ≠ .ok true) :
    (store.step library next).1.rows = store.rows := by
  cases next with
  | check connection event =>
    rw [step]
    split
    · rfl
    · split <;> rfl
  | fail connection => rfl
  | insert connection =>
    cases hpending : store.pending connection with
    | none => rw [step, hpending]
    | some event =>
      rw [step_insert library hpending]
      rw [step, hpending] at hanswer
      by_cases hviolates : store.identified event ∨ store.numbered event
      · rw [if_pos hviolates]
      · simp only [if_neg hviolates, Option.some.injEq] at hanswer
        exact absurd hanswer.symm hrejected

/-- The streams hold their sequences, and no rejection changes the rows. -/
structure Sound (library : Library N) (store : EventStore K N) : Prop where
  sequenced : store.Sequenced
  rejections : ∀ next answer, (store.step library next).2 = some answer →
    answer ≠ .ok true → (store.step library next).1.rows = store.rows

/-- All states of a run have sound streams if and only if every insert of an event
without OCS or run still finds its sequence free. -/
theorem streams_sequenced_iff (library : Library N) (steps : List (AppendStep K N)) :
    (∀ before, before <+: steps →
        Sound library (after library before : EventStore K N)) ↔
      Admissible (fun store next => (step library store next).1) Timely
        (empty : EventStore K N) steps := by
  apply always_iff_admissible Wired (Sound library)
  · intro store next h htimely
    exact h.step htimely
  · intro store h
    constructor
    · intro stream
      rw [h.numbered stream, length_numbers]
    · intro next answer hanswer hrejected
      exact rejected_unchanged library store next hanswer hrejected
  · intro store next h hafter
    exact h.timely hafter.sequenced
  · exact wired_empty

/-! ## Two appends to one stream -/

/-- Two connections append the first event of one stream. -/
def overlappingAppends : List (AppendStep Bool ℕ) :=
  [.check true (institutionEvent "a" "k" ∅), .check false (institutionEvent "b" "l" ∅),
    .insert true, .insert false]

theorem overlapping_appends_not_sequenced :
    ¬Sound asciiLibrary (after asciiLibrary overlappingAppends : EventStore Bool ℕ) := by
  intro h
  have hstream := h.sequenced ("s", "i", none, none)
  have hsequences : (after asciiLibrary overlappingAppends : EventStore Bool ℕ).sequences
      ("s", "i", none, none) = [1, 1] := by decide +kernel
  rw [hsequences] at hstream
  exact absurd (hstream.nodup_iff.mpr (by decide)) (by decide)

end EventStore

end ReisOs.Command
