import ReisOs.Instances.PrepareReplay

/-!
# Retried bridge calls

A worker's attachment and its acknowledgement are each one transition of the registry,
found again by the idempotency key in the journal.  `attach` reaches that search from every
later state of its binding; `acknowledge` asks for a bound binding first.
-/

namespace ReisOs.Instances

open ReisOs.Core ReisOs.Kernel World Script

/-! ## The journal -/

namespace InstanceStore

variable {store written later : InstanceStore}

/-- Entries are only appended. -/
def journalGrowth : Discipline InstanceStore :=
  .alone (fun _ => True) (fun store later => store.journal <+: later.journal)
    (fun store => List.prefix_refl store.journal) List.IsPrefix.trans

theorem obeys_journalGrowth {writes : InstanceStore → Except InstanceError InstanceStore}
    (h : ∀ store written, writes store = .ok written →
      store.journal <+: written.journal) :
    Obeys journalGrowth (commit writes) := by
  apply obeys_act
  intro store _
  refine ⟨trivial, ?_⟩
  change store.journal <+: _
  cases hwritten : writes store with
  | error error => exact List.prefix_refl _
  | ok written => exact h store written hwritten

instance : AllowsStore journalGrowth where
  commit h := by
    apply obeys_journalGrowth
    intro store written hwritten
    exact ⟨[], by rw [(h store written hwritten).2, List.append_nil]⟩
  insertCreated binding := by
    apply obeys_journalGrowth
    intro store written hwritten
    rw [(insertCreated_ok hwritten).1]
    exact List.prefix_append _ _
  applyTransition arguments current := by
    apply obeys_journalGrowth
    intro store written hwritten
    rw [(applyTransition_ok hwritten).1]
    exact List.prefix_append _ _
  applyReplacement arguments predecessor successor := by
    apply obeys_journalGrowth
    intro store written hwritten
    rw [applyReplacement_ok hwritten, List.append_assoc]
    exact List.prefix_append _ _

variable {entry : JournalEntry}

theorem entry_of_prefix (h : store.journal <+: later.journal) {idempotencyKey : String} (hentry : store.entry idempotencyKey = some entry) :
    later.entry idempotencyKey = some entry := by
  obtain ⟨rest, hrest⟩ := h
  rw [InstanceStore.entry, ← hrest, List.find?_append]
  rw [InstanceStore.entry] at hentry
  rw [hentry]
  rfl

theorem transition_entered {arguments : Transition} {binding : InstanceBinding}
    (h : (transition arguments).exec store = (written, .ok binding)) :
    ∃ entry, written.entry arguments.idempotencyKey = some entry ∧
      arguments.replays entry = true := by
  rcases transition_cases arguments store with ⟨error, hraised⟩ |
    ⟨replay, current, hentry, hreplays, -, hreplayed⟩ |
    ⟨hnew, current, moved, hrow, hversion, hallowed, hmoved, hexec⟩
  · rw [hraised] at h
    cases h
  · rw [hreplayed] at h
    cases h
    exact ⟨replay, hentry, hreplays⟩
  · rw [hexec] at h
    cases h
    obtain ⟨hwritten, -⟩ := applyTransition_ok hmoved
    have hid : current.bindingId = arguments.bindingId := by
      simpa using List.find?_some hrow
    refine ⟨event (arguments.columns current) arguments.eventType (some current.status)
      arguments.idempotencyKey arguments.requestedPayload, ?_, ?_⟩
    · rw [entry] at hnew
      rw [hwritten, entry, List.find?_append, hnew]
      simp [event]
    · simp [Transition.replays, event, Transition.columns, hid]

theorem transition_replayed {arguments : Transition} {replay : JournalEntry}
    {current : InstanceBinding} (hentry : store.entry arguments.idempotencyKey = some replay)
    (hreplays : arguments.replays replay = true)
    (hrow : store.row arguments.bindingId = some current) :
    (transition arguments).exec store = (store, .ok current) := by
  unfold transition
  rw [Script.exec_read_bind, hentry]
  dsimp only
  rw [Script.exec_raiseIf_bind, if_neg (not_not.mpr hreplays), exec_get, hrow]
  rfl

/-! ## Statuses -/

/-- How far a binding has come. -/
def reach : InstanceStatus → ℕ
  | .prepared => 0
  | .persisted => 1
  | .bound => 2
  | .active | .checkpointed | .replaced | .closed | .revoked | .hold => 3

theorem reach_le_of_allowed {current target : InstanceStatus}
    (h : target ∈ allowedTransitions current) : reach current ≤ reach target := by
  cases current <;> cases target <;> revert h <;> decide

theorem reach_le_last {entries : List JournalEntry} (h : Chained Follows entries)
    {last : JournalEntry} (hentry : entry ∈ entries)
    (hlast : entries.getLast? = some last) : reach entry.toStatus ≤ reach last.toStatus := by
  induction entries using List.reverseRecOn generalizing last with
  | nil => cases hentry
  | append_singleton entries final ih =>
    obtain ⟨hentries, hfollows⟩ := chained_concat_iff.mp h
    rw [List.getLast?_concat, Option.some.injEq] at hlast
    rw [← hlast]
    rcases List.mem_append.mp hentry with hearlier | hfinal
    · cases hprevious : entries.getLast? with
      | none =>
        rw [List.getLast?_eq_none_iff.mp hprevious] at hearlier
        cases hearlier
      | some previous =>
        rw [hprevious] at hfollows
        exact (ih hentries hearlier hprevious).trans (reach_le_of_allowed hfollows.2.2)
    · rw [List.mem_singleton.mp hfinal]

theorem Journaled.reach_le (h : Journaled store) {row : InstanceBinding}
    (hrow : row ∈ store.bindings) (hentry : entry ∈ store.journal)
    (hid : entry.bindingId = row.bindingId) : reach entry.toStatus ≤ reach row.status := by
  obtain ⟨last, hlast, -, hstatus⟩ := h.last row hrow
  rw [← hstatus]
  apply reach_le_last (h.chains row.bindingId) _ hlast
  exact List.mem_filter.mpr ⟨hentry, by simpa using hid⟩

end InstanceStore

variable {S : Type} {config : BinderConfig S} {world committed : World S}

/-! ## Calls of the bridge -/

inductive BridgeCall where
  | attach (call : AttachCall)
  | acknowledge (ack : BootstrapAck) (expectedVersion : ℕ)

namespace BridgeCall

def script (config : BinderConfig S) (folding : TextFolding) :
    BridgeCall → Service S InstanceBinding
  | .attach call => Instances.attach folding call
  | .acknowledge ack expectedVersion => Instances.acknowledge config ack expectedVersion

def call : BridgeCall → Call S
  | .attach call => .attach call
  | .acknowledge ack expectedVersion => .acknowledge ack expectedVersion

def bindingId : BridgeCall → String
  | .attach call => call.bindingId
  | .acknowledge ack _ => ack.bindingId

def isAttach : BridgeCall → Bool
  | .attach _ => true
  | .acknowledge _ _ => false

/-- The call returns the current row and leaves the registry as it is. -/
def Retried (config : BinderConfig S) (folding : TextFolding) (made : BridgeCall)
    (world : World S) : Prop :=
  ∃ current after, world.store.row made.bindingId = some current ∧
    (made.script config folding).exec world = (after, .ok current) ∧
    after.store = world.store

end BridgeCall

theorem exec_get_some {bindingId : String} {row : InstanceBinding}
    (h : world.store.row bindingId = some row) :
    (onStore (InstanceStore.get bindingId) : Service S InstanceBinding).exec world =
      (world, .ok row) := by
  rw [exec_onStore, InstanceStore.exec_get, h]
  rfl

/-! ## What a committed call has left -/

variable {folding : TextFolding} {first : InstanceBinding}

theorem attach_ok {call : AttachCall}
    (h : (attach folding call).exec world = (committed, .ok first)) :
    ¬ (call.receipt.platformInstanceId = "" ∨ call.receipt.taskName = "") ∧
      ∃ binding store, world.store.row call.bindingId = some binding ∧
        taskNamed folding binding.ocsId call.receipt.taskName = true ∧
        (InstanceStore.transition (attachTransition call)).exec world.store =
          (store, .ok first) ∧
        committed = { world with store := store } := by
  unfold attach at h
  obtain ⟨hreceipt, h⟩ := raiseIf_bind_ok h
  obtain ⟨middle, binding, hget, h⟩ := exec_bind_eq_ok h
  obtain ⟨hmiddle, hrow⟩ := get_ok hget
  rw [hmiddle] at h
  obtain ⟨hnamed, h⟩ := raiseIf_bind_ok h
  obtain ⟨store, htransition, hcommitted⟩ := onStore_ok h
  exact ⟨hreceipt, binding, store, hrow, by simpa using hnamed, htransition, hcommitted⟩

theorem acknowledge_ok {ack : BootstrapAck} {expectedVersion : ℕ}
    (h : (acknowledge config ack expectedVersion).exec world = (committed, .ok first)) :
    ∃ store, (InstanceStore.transition (acknowledgeTransition ack expectedVersion)).exec
        world.store = (store, .ok first) ∧ committed = { world with store := store } := by
  unfold acknowledge at h
  obtain ⟨middle, binding, hget, h⟩ := exec_bind_eq_ok h
  obtain ⟨hmiddle, -⟩ := get_ok hget
  rw [hmiddle] at h
  split at h
  · cases h
  · exact onStore_ok h

/-! ## Runs -/

theorem happen_journal [DecidableEq S] (config : BinderConfig S) (folding : TextFolding)
    (world : World S) (next : Happening S) :
    world.store.journal <+: (happen config folding world next).store.journal := by
  have hobeys (made : Call S) :
      Obeys (ofStore InstanceStore.journalGrowth) (made.script config folding) :=
    obeys_ofStore config folding made
  cases next with
  | call made => exact ((hobeys made).exec trivial).2
  | crash made steps => exact ((hobeys made).crashed trivial steps).2
  | restart | issue | revoke | release | clock => exact List.prefix_refl _

theorem run_journal [DecidableEq S] (config : BinderConfig S) (folding : TextFolding)
    (world : World S) (happenings : List (Happening S)) :
    world.store.journal <+: (run (happen config folding) world happenings).store.journal :=
  run_invariant (fun now : World S => world.store.journal <+: now.store.journal)
    (fun _ next h => h.trans (happen_journal config folding _ next))
    (List.prefix_refl _) happenings

theorem happen_bridge [DecidableEq S] {made : BridgeCall}
    (h : (made.script config folding).exec world = (committed, .ok first)) :
    happen config folding world (.call made.call) = committed := by
  cases made with
  | attach call => exact congrArg Prod.fst (exec_bind_ok h)
  | acknowledge ack expectedVersion => exact congrArg Prod.fst (exec_bind_ok h)

variable {now : World S}

theorem attach_retried {call : AttachCall}
    (hcommitted : (attach folding call).exec world = (committed, .ok first))
    (hcontinues : Continues config world now)
    (hjournal : committed.store.journal <+: now.store.journal) :
    BridgeCall.Retried config folding (.attach call) now := by
  obtain ⟨hreceipt, binding, store, hrow, hnamed, htransition, rfl⟩ := attach_ok hcommitted
  obtain ⟨entry, hentry, hreplays⟩ := InstanceStore.transition_entered htransition
  have hlater := InstanceStore.entry_of_prefix hjournal hentry
  obtain ⟨current, hcurrent, hfixed⟩ :=
    InstanceStore.find?_of_records (fun _ => rfl) hcontinues.history.1 hrow
  have hocs : current.ocsId = binding.ocsId :=
    InstanceBinding.column_of_fixed hfixed (·.ocsId) fun _ => rfl
  have hreplayed := InstanceStore.transition_replayed hlater hreplays hcurrent
  refine ⟨current, now, hcurrent, ?_, rfl⟩
  change (attach folding call).exec now = _
  unfold attach
  rw [exec_raiseIf_bind, if_neg hreceipt, exec_bind_ok (exec_get_some hcurrent),
    exec_raiseIf_bind, hocs, hnamed, if_neg (by decide), exec_onStore, hreplayed]

theorem acknowledge_refused {ack : BootstrapAck} {expectedVersion : ℕ}
    (hcommitted : (acknowledge config ack expectedVersion).exec world = (committed, .ok first))
    (hnow : Sane config now) (hjournal : committed.store.journal <+: now.store.journal) :
    (acknowledge config ack expectedVersion).exec now =
      (now, .error (.binding "instance_must_be_bound_before_ack")) := by
  obtain ⟨store, htransition, rfl⟩ := acknowledge_ok hcommitted
  obtain ⟨entry, hentry, hreplays⟩ := InstanceStore.transition_entered htransition
  have hlater := InstanceStore.entry_of_prefix hjournal hentry
  have hmem : entry ∈ now.store.journal := List.mem_of_find?_eq_some hlater
  simp only [InstanceStore.Transition.replays, Bool.and_eq_true, acknowledgeTransition]
    at hreplays
  obtain ⟨⟨⟨hid, -⟩, hactive⟩, -⟩ := hreplays
  have hjournaled := hnow.history.journaled
  obtain ⟨row, hrow, hrowId⟩ := hjournaled.owned entry hmem
  have hreach := hjournaled.reach_le hrow hmem hrowId.symm
  rw [of_decide_eq_true hactive] at hreach
  have hbound : row.status ≠ .bound := by
    intro hbound
    rw [hbound] at hreach
    revert hreach
    decide
  have hfound : now.store.row ack.bindingId = some row :=
    (InstanceStore.row_eq_some hjournaled.ids).mpr ⟨hrow, hrowId.trans (of_decide_eq_true hid)⟩
  unfold acknowledge
  rw [exec_bind_ok (exec_get_some hfound)]
  simp [ackFailure, firstFailure, hbound]

/-- The world after the first instance has been prepared and attached. -/
def sofiaAttached : World ℕ := run (happen sofiaConfig plainFolding) sofiaPrepared
  [.call (.attach sofiaAttach)]

/-- The happenings up to the preparation. -/
def sofiaBeforeAttach : List (Happening ℕ) := sofiaStart ++ [.call (.prepare sofiaFirst)]

end ReisOs.Instances
