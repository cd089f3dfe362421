import Mathlib.Data.List.Infix
import ReisOs.Core.Runs
import ReisOs.Core.Scripts

/-!
# Reading a log by offset

A log that only grows is served in pages, and a client asks for the page after the
entries that it has received.  A poll may take several steps, between which the log grows
on.  If every answer continues what the client has, the client receives the log in order,
and all of it after enough polls.
-/

namespace ReisOs.Core

/-- Who serves a log: the call for a query at a cursor, and what its answers hold. -/
structure OffsetFeed (W E P A Q : Type) where
  log : W → List A
  request : Q → ℤ → Script W E P
  /-- The query asks for entries, and the source is there. -/
  asks : Q → Bool
  events : P → List A
  nextCursor : P → ℤ

/-- A client that polls with the last cursor it was given. -/
structure FeedClient (W E P A Q : Type) where
  cursor : ℤ
  received : List A
  refused : List E
  polling : Option (Q × Script W E P)
  /-- How many polls that ask for entries have been answered. -/
  served : ℕ

/-- What a client does next: begin a poll, go on with it, or lose it. -/
inductive FeedStep (Q : Type) where
  | poll (query : Q)
  | read
  | drop

variable {W E P A Q : Type}

namespace FeedClient

def new : FeedClient W E P A Q := ⟨0, [], [], none, 0⟩

variable (feed : OffsetFeed W E P A Q)

/-- A poll only reads the world. -/
def step (world : W) (client : FeedClient W E P A Q) : FeedStep Q → FeedClient W E P A Q
  | .poll query =>
    match client.polling with
    | some _ => client
    | none => { client with polling := some (query, feed.request query client.cursor) }
  | .drop => { client with polling := none }
  | .read =>
    match client.polling with
    | none => client
    | some (query, .step _ next) => { client with polling := some (query, next world) }
    | some (_, .done (.error error)) =>
      { client with polling := none, refused := client.refused ++ [error] }
    | some (query, .done (.ok page)) =>
      { client with
        polling := none
        cursor := feed.nextCursor page
        received := client.received ++ feed.events page
        served := client.served + (feed.asks query).toNat }

end FeedClient

/-- A client beside a machine whose states hold the world that it reads. -/
def watch {X I : Type} (feed : OffsetFeed W E P A Q) (view : X → W) (move : X → I → X)
    (state : X × FeedClient W E P A Q) :
    I ⊕ FeedStep Q → X × FeedClient W E P A Q
  | .inl input => (move state.1 input, state.2)
  | .inr next => (state.1, state.2.step feed (view state.1) next)

namespace OffsetFeed

variable (feed : OffsetFeed W E P A Q)

/-- The script only reads and never fails, and its answer meets the condition when it is
given, however the log grows meanwhile. -/
def Serves (Post : P → W → Prop) : Script W E P → W → Prop
  | .done (.ok page), world => Post page world
  | .done (.error _), _ => False
  | .step effect next, world =>
    effect = id ∧ ∀ now, feed.log world <+: feed.log now → Serves Post (next now) now

/-- The page continues what was received. -/
def Continues (received : List A) (page : P) (world : W) : Prop :=
  feed.nextCursor page = (received.length + (feed.events page).length : ℕ) ∧
    received ++ feed.events page <+: feed.log world

/-- Every poll with the number of entries received is answered by a page that continues
them, and if it asks for entries and there are any, the page has some. -/
def Lawful : Prop :=
  ∀ query (received : List A) world, received <+: feed.log world →
    feed.Serves (fun page now => feed.Continues received page now ∧
      (feed.asks query = true → received.length < (feed.log world).length →
        feed.events page ≠ []))
      (feed.request query received.length) world

variable {feed} {Post : P → W → Prop} {world later : W} {script : Script W E P}

theorem Serves.mono {weaker : P → W → Prop} (h : feed.Serves Post script world)
    (hweaker : ∀ page world, Post page world → weaker page world) :
    feed.Serves weaker script world := by
  induction script generalizing world with
  | done answer =>
    cases answer with
    | error error => exact h
    | ok page => exact hweaker page world h
  | step effect next ih => exact ⟨h.1, fun now hnow => ih now (h.2 now hnow)⟩

theorem Serves.grow (h : feed.Serves Post script world)
    (hpost : ∀ page, Post page world → Post page later)
    (hlog : feed.log world <+: feed.log later) : feed.Serves Post script later := by
  cases script with
  | done answer =>
    cases answer with
    | error error => exact h
    | ok page => exact hpost page h
  | step effect next => exact ⟨h.1, fun now hnow => h.2 now (hlog.trans hnow)⟩

theorem serves_raiseIf_bind {condition : Prop} [Decidable condition] {error : E}
    {rest : Unit → Script W E P} (h : ¬ condition) (hrest : feed.Serves Post (rest ()) world) :
    feed.Serves Post (Script.raiseIf condition error >>= rest) world := by
  rw [Script.raiseIf, if_neg h]
  exact hrest

theorem serves_read_bind {B : Type} {f : W → B} {rest : B → Script W E P}
    (h : ∀ now, feed.log world <+: feed.log now → feed.Serves Post (rest (f now)) now) :
    feed.Serves Post (Script.read f >>= rest) world := ⟨rfl, h⟩

/-! ## What a client has -/

/-- The client has a prefix of the log, and its poll will continue it. -/
structure Synced (feed : OffsetFeed W E P A Q) (world : W)
    (client : FeedClient W E P A Q) : Prop where
  cursor : client.cursor = client.received.length
  received : client.received <+: feed.log world
  refused : client.refused = []
  polling : ∀ poll ∈ client.polling,
    feed.Serves (feed.Continues client.received) poll.2 world

/-- The client has all of an earlier log, or at least as many entries as it was served
polls since, but for one. -/
structure Gaining (feed : OffsetFeed W E P A Q) (start : List A) (served : ℕ) (world : W)
    (client : FeedClient W E P A Q) : Prop where
  log : start <+: feed.log world
  received : start.length ≤ client.received.length ∨
    client.served ≤ served + client.received.length + 1
  polling : ∀ poll ∈ client.polling, feed.asks poll.1 = true →
    feed.Serves (fun page _ =>
      start.length ≤ (client.received ++ feed.events page).length ∨
        client.served ≤ served + (client.received ++ feed.events page).length) poll.2 world

variable {client : FeedClient W E P A Q} {start : List A} {served : ℕ}

theorem synced_new : feed.Synced world .new where
  cursor := rfl
  received := List.nil_prefix
  refused := rfl
  polling _ hpoll := nomatch hpoll

theorem Synced.gaining (h : feed.Synced world client) :
    feed.Gaining (feed.log world) client.served world client where
  log := List.prefix_refl _
  received := Or.inr (by omega)
  polling poll hpoll _ := (h.polling poll hpoll).mono fun page _ _ => Or.inr (by omega)

theorem Synced.grow (h : feed.Synced world client)
    (hlog : feed.log world <+: feed.log later) : feed.Synced later client where
  cursor := h.cursor
  received := h.received.trans hlog
  refused := h.refused
  polling poll hpoll := by
    apply (h.polling poll hpoll).grow _ hlog
    intro page hpage
    exact ⟨hpage.1, hpage.2.trans hlog⟩

theorem Gaining.grow (h : feed.Gaining start served world client)
    (hlog : feed.log world <+: feed.log later) : feed.Gaining start served later client where
  log := h.log.trans hlog
  received := h.received
  polling poll hpoll hasks := (h.polling poll hpoll hasks).grow (fun _ => id) hlog

/-! ## One step of the client -/

theorem Synced.step (hlawful : feed.Lawful) (h : feed.Synced world client)
    (next : FeedStep Q) : feed.Synced world (client.step feed world next) := by
  cases next with
  | drop => exact ⟨h.cursor, h.received, h.refused, fun _ hpoll => nomatch hpoll⟩
  | poll query =>
    cases hpolling : client.polling with
    | some poll =>
      simp only [FeedClient.step, hpolling]
      exact h
    | none =>
      simp only [FeedClient.step, hpolling]
      refine ⟨h.cursor, h.received, h.refused, ?_⟩
      intro poll hpoll
      cases hpoll
      have hserves := hlawful query client.received world h.received
      rw [← h.cursor] at hserves
      exact hserves.mono fun _ _ hpage => hpage.1
  | read =>
    cases hpolling : client.polling with
    | none =>
      simp only [FeedClient.step, hpolling]
      exact h
    | some poll =>
      obtain ⟨query, script⟩ := poll
      have hserves := h.polling _ hpolling
      cases script with
      | step effect next =>
        simp only [FeedClient.step, hpolling]
        refine ⟨h.cursor, h.received, h.refused, ?_⟩
        intro poll hpoll
        cases hpoll
        exact hserves.2 world (List.prefix_refl _)
      | done answer =>
        cases answer with
        | error error => exact hserves.elim
        | ok page =>
          simp only [FeedClient.step, hpolling]
          refine ⟨?_, hserves.2, h.refused, fun _ hpoll => nomatch hpoll⟩
          rw [hserves.1, List.length_append]

theorem Gaining.step (hlawful : feed.Lawful) (h : feed.Synced world client)
    (hgaining : feed.Gaining start served world client) (next : FeedStep Q) :
    feed.Gaining start served world (client.step feed world next) := by
  cases next with
  | drop => exact ⟨hgaining.log, hgaining.received, fun _ hpoll => nomatch hpoll⟩
  | poll query =>
    cases hpolling : client.polling with
    | some poll =>
      simp only [FeedClient.step, hpolling]
      exact hgaining
    | none =>
      simp only [FeedClient.step, hpolling]
      refine ⟨hgaining.log, hgaining.received, ?_⟩
      intro poll hpoll hasks
      cases hpoll
      have hserves := hlawful query client.received world h.received
      rw [← h.cursor] at hserves
      apply hserves.mono
      intro page now hpage
      have hlength := hgaining.log.length_le
      dsimp only
      rw [List.length_append]
      -- The page has an entry unless the client has all of the earlier log.
      by_cases hall : start.length ≤ client.received.length
      · left
        omega
      · right
        have hsome := List.length_pos_of_ne_nil (hpage.2 hasks (by omega))
        rcases hgaining.received with hdone | hserved
        · omega
        · omega
  | read =>
    cases hpolling : client.polling with
    | none =>
      simp only [FeedClient.step, hpolling]
      exact hgaining
    | some poll =>
      obtain ⟨query, script⟩ := poll
      have hserves := hgaining.polling _ hpolling
      cases script with
      | step effect next =>
        simp only [FeedClient.step, hpolling]
        refine ⟨hgaining.log, hgaining.received, ?_⟩
        intro poll hpoll hasks
        cases hpoll
        exact (hserves hasks).2 world (List.prefix_refl _)
      | done answer =>
        cases answer with
        | error error => exact (h.polling _ hpolling).elim
        | ok page =>
          simp only [FeedClient.step, hpolling]
          refine ⟨hgaining.log, ?_, fun _ hpoll => nomatch hpoll⟩
          simp only [List.length_append]
          cases hasks : feed.asks query with
          | true =>
            have hpage := hserves hasks
            simp only [Serves, List.length_append] at hpage
            rcases hpage with hdone | hserved
            · exact Or.inl hdone
            · right
              simp only [Bool.toNat_true]
              omega
          | false =>
            simp only [Bool.toNat_false]
            rcases hgaining.received with hdone | hserved
            · left
              omega
            · right
              omega

/-! ## Whole runs -/

/-- From one state to a later one: what was received is a prefix of the log, no poll was
refused, and after enough polls all that was in the log has been received. -/
structure Delivers (feed : OffsetFeed W E P A Q) (before after : W)
    (client later : FeedClient W E P A Q) : Prop where
  received : later.received <+: feed.log after
  refused : later.refused = []
  whole : client.served + (feed.log before).length < later.served →
    feed.log before <+: later.received

variable {X I : Type} {view : X → W} {move : X → I → X} {Inv : X → Prop}

theorem synced_run (hlawful : feed.Lawful)
    (hmove : ∀ state input, Inv state → Inv (move state input) ∧
      feed.log (view state) <+: feed.log (view (move state input)))
    {state : X} (hstate : Inv state) (hclient : feed.Synced (view state) client)
    (steps : List (I ⊕ FeedStep Q)) :
    Inv (run (watch feed view move) (state, client) steps).1 ∧
      feed.Synced (view (run (watch feed view move) (state, client) steps).1)
        (run (watch feed view move) (state, client) steps).2 := by
  apply run_invariant fun reached : X × FeedClient W E P A Q =>
    Inv reached.1 ∧ feed.Synced (view reached.1) reached.2
  · intro reached next hreached
    cases next with
    | inl input =>
      obtain ⟨hinv, hlog⟩ := hmove reached.1 input hreached.1
      exact ⟨hinv, hreached.2.grow hlog⟩
    | inr next => exact ⟨hreached.1, hreached.2.step hlawful next⟩
  · exact ⟨hstate, hclient⟩

theorem gaining_run (hlawful : feed.Lawful)
    (hmove : ∀ state input, Inv state → Inv (move state input) ∧
      feed.log (view state) <+: feed.log (view (move state input)))
    {state : X} (hstate : Inv state) (hclient : feed.Synced (view state) client)
    (steps : List (I ⊕ FeedStep Q)) :
    feed.Gaining (feed.log (view state)) client.served
      (view (run (watch feed view move) (state, client) steps).1)
      (run (watch feed view move) (state, client) steps).2 := by
  have hstep (reached : X × FeedClient W E P A Q) (next : I ⊕ FeedStep Q)
      (hreached : (Inv reached.1 ∧ feed.Synced (view reached.1) reached.2) ∧
        feed.Gaining (feed.log (view state)) client.served (view reached.1) reached.2) :
      (Inv (watch feed view move reached next).1 ∧
        feed.Synced (view (watch feed view move reached next).1)
          (watch feed view move reached next).2) ∧
        feed.Gaining (feed.log (view state)) client.served
          (view (watch feed view move reached next).1)
          (watch feed view move reached next).2 := by
    cases next with
    | inl input =>
      obtain ⟨hinv, hlog⟩ := hmove reached.1 input hreached.1.1
      exact ⟨⟨hinv, hreached.1.2.grow hlog⟩, hreached.2.grow hlog⟩
    | inr next =>
      exact ⟨⟨hreached.1.1, hreached.1.2.step hlawful next⟩,
        Gaining.step hlawful hreached.1.2 hreached.2 next⟩
  exact (run_invariant _ hstep ⟨⟨hstate, hclient⟩, hclient.gaining⟩ steps).2

theorem delivers_run (hlawful : feed.Lawful)
    (hmove : ∀ state input, Inv state → Inv (move state input) ∧
      feed.log (view state) <+: feed.log (view (move state input)))
    {state : X} (hstate : Inv state) (hclient : feed.Synced (view state) client)
    (steps : List (I ⊕ FeedStep Q)) :
    feed.Delivers (view state) (view (run (watch feed view move) (state, client) steps).1)
      client (run (watch feed view move) (state, client) steps).2 := by
  have hsynced := (synced_run hlawful hmove hstate hclient steps).2
  have hgaining := gaining_run hlawful hmove hstate hclient steps
  refine ⟨hsynced.received, hsynced.refused, ?_⟩
  intro hserved
  apply List.prefix_of_prefix_length_le hgaining.log hsynced.received
  rcases hgaining.received with hdone | hcount
  · exact hdone
  · omega

end OffsetFeed

end ReisOs.Core
