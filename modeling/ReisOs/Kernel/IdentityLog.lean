import ReisOs.Kernel.Identity

/-!
# What the identity log records

The chain of an audit log survives every append, and the last event of a run
decides what a recovery of that run returns.  A coherent guard holds in memory, of
each run it knows, the binding that the run's last event carries.
-/

namespace ReisOs.Kernel

open ReisOs.Core

variable {config : IdentityConfig}

namespace IdentityAuditLog

variable {log : IdentityAuditLog} {runId : String}

/-! ## Appending -/

theorem chainIsValidFrom_append {event : IdentityLogEvent}
    (hhash : config.hashPayload event.toIdentityLogBase = event.eventHash) {sequence : ℕ}
    {predecessor : Option String}
    (h : chainIsValidFrom config sequence predecessor log = true)
    (hsequence : event.sequence = sequence + log.length)
    (hpredecessor : event.predecessorHash =
      (log.getLast?.map (·.eventHash)).or predecessor) :
    chainIsValidFrom config sequence predecessor (log ++ [event]) = true := by
  induction log generalizing sequence predecessor with
  | nil => simpa [chainIsValidFrom, hhash] using ⟨hsequence, hpredecessor⟩
  | cons first rest ih =>
    simp only [chainIsValidFrom, Bool.and_eq_true] at h
    simp only [List.cons_append, chainIsValidFrom, h.1, Bool.true_and]
    apply ih h.2
    · rw [hsequence, List.length_cons]
      omega
    · rw [hpredecessor, List.getLast?_cons]
      cases rest.getLast? <;> rfl

theorem chainIsValid_append (h : log.chainIsValid config = true) (eventType : String)
    (binding : ActiveIdentityBinding) (details : Details) :
    (log.append config eventType binding details).chainIsValid config = true := by
  apply chainIsValidFrom_append rfl h
  · exact Nat.add_comm ..
  · exact (Option.or_none).symm

theorem terminalBinding_append (log : IdentityAuditLog) (eventType runId : String)
    (binding : ActiveIdentityBinding) (details : Details) :
    (log.append config eventType binding details).terminalBinding runId =
      if binding.runId = runId then some binding else log.terminalBinding runId := by
  by_cases h : binding.runId = runId <;> simp [append, terminalBinding, h]

theorem mem_append {event : IdentityLogEvent} {eventType : String}
    {binding : ActiveIdentityBinding} {details : Details}
    (h : event ∈ log.append config eventType binding details) :
    event ∈ log ∨ event.runId = event.binding.runId := by
  rcases List.mem_append.mp h with hold | hnew
  · exact .inl hold
  · rw [List.mem_singleton] at hnew
    exact .inr (by rw [hnew])

/-! ## Recovery -/

/-- The chain verifies, and every event is filed under its binding's run. -/
structure Sound (config : IdentityConfig) (log : IdentityAuditLog) : Prop where
  chain : log.chainIsValid config = true
  owned : ∀ event ∈ log, event.runId = event.binding.runId

theorem nil_sound : Sound config [] where
  chain := rfl
  owned _ hevent := by simp at hevent

theorem Sound.append (h : Sound config log) (eventType : String)
    (binding : ActiveIdentityBinding) (details : Details) :
    Sound config (log.append config eventType binding details) where
  chain := chainIsValid_append h.chain eventType binding details
  owned event hevent := by
    rcases mem_append hevent with hold | hnew
    · exact h.owned event hold
    · exact hnew

theorem Sound.terminal_runId (h : Sound config log) {binding : ActiveIdentityBinding}
    (hterminal : log.terminalBinding runId = some binding) : binding.runId = runId := by
  obtain ⟨event, hfind, rfl⟩ := Option.map_eq_some_iff.mp hterminal
  have hmem : event ∈ log := List.mem_reverse.mp (List.mem_of_find?_eq_some hfind)
  rw [← h.owned event hmem]
  simpa using List.find?_some hfind

/-- The last event of the run carries a held binding. -/
def Held (log : IdentityAuditLog) (runId : String) : Prop :=
  (log.terminalBinding runId).map (·.status) = some .hold

instance : Decidable (Held log runId) :=
  inferInstanceAs (Decidable (_ = _))

theorem held_append (eventType : String) (binding : ActiveIdentityBinding)
    (details : Details) :
    Held (log.append config eventType binding details) runId ↔
      if binding.runId = runId then binding.status = .hold else Held log runId := by
  rw [Held, terminalBinding_append]
  split
  · simp
  · rfl

theorem Sound.recoverCurrentBinding_held (h : Sound config log) (hheld : Held log runId) :
    log.recoverCurrentBinding config runId =
      .error (.valueError "identity_hold_rebind_required") := by
  obtain ⟨binding, hterminal, hstatus⟩ := Option.map_eq_some_iff.mp hheld
  simp [recoverCurrentBinding, h.chain, hterminal, hstatus]

theorem Sound.recoverCurrentBinding_valid (h : Sound config log)
    {binding : ActiveIdentityBinding}
    (hterminal : log.terminalBinding runId = some binding)
    (hstatus : binding.status = .valid) :
    log.recoverCurrentBinding config runId = .ok (some binding) := by
  simp [recoverCurrentBinding, h.chain, hterminal, hstatus]

theorem recoverCurrentBinding_ok {binding : ActiveIdentityBinding}
    (h : log.recoverCurrentBinding config runId = .ok (some binding)) :
    log.terminalBinding runId = some binding ∧ binding.status = .valid := by
  unfold recoverCurrentBinding at h
  split at h
  · cases h
  · split at h
    · cases h
    · rename_i found hterminal
      split at h
      · cases h
      · rename_i hstatus
        cases h
        exact ⟨hterminal, hstatus⟩

end IdentityAuditLog

namespace IdentityKernelGuard

variable {guard guard' : IdentityKernelGuard} {runId : String}
  {binding : ActiveIdentityBinding}

/-! ## Guard operations -/

@[simp]
theorem log_bindings (eventType : String) (binding : ActiveIdentityBinding)
    (details : Details) :
    (guard.log config eventType binding details).bindings = guard.bindings := rfl

@[simp]
theorem log_auditLog (eventType : String) (binding : ActiveIdentityBinding)
    (details : Details) :
    (guard.log config eventType binding details).auditLog =
      guard.auditLog.append config eventType binding details := rfl

@[simp]
theorem record_bindings (eventType : String) (binding : ActiveIdentityBinding)
    (details : Details) :
    (guard.record config runId eventType binding details).bindings =
      guard.bindings.insert runId binding := rfl

@[simp]
theorem record_auditLog (eventType : String) (binding : ActiveIdentityBinding)
    (details : Details) :
    (guard.record config runId eventType binding details).auditLog =
      guard.auditLog.append config eventType binding details := rfl

/-- Why `bind_active_identity` raises, if it does. -/
def bindRefusal (config : IdentityConfig) (runId ocsId host sessionContext : String) :
    Option PyError :=
  if runId = "" ∨ host = "" ∨ sessionContext = "" then
    some (.valueError "identity_binding_fields_required")
  else if config.profiles.lookup ocsId = none then
    some (.valueError "unknown_ocs_identity")
  else
    none

theorem bindActiveIdentity_refused {now : Time} {ocsId host sessionContext : String}
    {error : PyError}
    (h : bindRefusal config runId ocsId host sessionContext = some error) :
    guard.bindActiveIdentity config now runId ocsId host sessionContext = .error error := by
  unfold bindRefusal at h
  unfold bindActiveIdentity
  split
  · rename_i hfields
    rw [if_pos hfields] at h
    exact congrArg Except.error (Option.some.inj h)
  · rename_i hfields
    rw [if_neg hfields] at h
    split at h
    · rename_i hprofile
      rw [hprofile]
      exact congrArg Except.error (Option.some.inj h)
    · cases h

theorem bindActiveIdentity_accepted {ocsId host sessionContext : String}
    (h : bindRefusal config runId ocsId host sessionContext = none)
    (guard : IdentityKernelGuard) (now : Time) :
    ∃ profile, config.profiles.lookup ocsId = some profile ∧
      guard.bindActiveIdentity config now runId ocsId host sessionContext =
        .ok (guard.record config runId "BIND_ACTIVE_IDENTITY"
          (newBinding profile runId host sessionContext now) [],
          newBinding profile runId host sessionContext now) := by
  unfold bindRefusal at h
  split at h
  · cases h
  · rename_i hfields
    split at h
    · cases h
    · rename_i hprofile
      obtain ⟨profile, hlookup⟩ := Option.ne_none_iff_exists'.mp hprofile
      exact ⟨profile, hlookup, by simp only [bindActiveIdentity, if_neg hfields, hlookup]⟩

theorem hold_ok {reason : String} {held : ActiveIdentityBinding}
    (h : guard.hold config runId reason = .ok (guard', held)) :
    ∃ binding, guard.bindings.lookup runId = some binding ∧
      held = { binding with status := .hold, holdReason := some reason } ∧
      guard' = guard.record config runId "IDENTITY_HOLD" held
        [("reason", .text reason)] := by
  unfold hold at h
  split at h
  · cases h
  · rename_i binding hbinding
    cases h
    exact ⟨binding, hbinding, rfl, rfl⟩

theorem recoverState_ok
    (h : guard.recoverState config runId = .ok (guard', binding)) :
    guard.auditLog.terminalBinding runId = some binding ∧ binding.status = .valid ∧
      validateProfileBinding config binding = none ∧
      guard' = guard.record config runId "RECOVER_IDENTITY" binding
        [("source", .text "hazel_identity_log")] := by
  unfold recoverState at h
  split at h
  · cases h
  · cases h
  · rename_i recovered hrecover
    obtain ⟨hterminal, hstatus⟩ := IdentityAuditLog.recoverCurrentBinding_ok hrecover
    split at h
    · cases h
    · rename_i hprofile
      cases h
      exact ⟨hterminal, hstatus, hprofile, rfl⟩

/-- What a revalidation does: nothing, a hold of the run, or an event that repeats a
valid binding. -/
theorem revalidate_cases (config : IdentityConfig) (guard : IdentityKernelGuard)
    (runId expectedOcs : String)
    (trigger : IdentityRecheckTrigger) (host : Option String) :
    ((∀ binding, guard.bindings.lookup runId = some binding → binding.status ≠ .valid) ∧
        (guard.revalidate config runId expectedOcs trigger host).1 = guard ∧
        (guard.revalidate config runId expectedOcs trigger host).2.valid = false) ∨
      (∃ reason guard' held, guard.hold config runId reason = .ok (guard', held) ∧
        (guard.revalidate config runId expectedOcs trigger host).1 = guard' ∧
        (guard.revalidate config runId expectedOcs trigger host).2.valid = false) ∨
      ∃ binding, guard.bindings.lookup runId = some binding ∧
        validateProfileBinding config binding = none ∧ binding.status = .valid ∧
        expectedOcs = binding.ocsId ∧ host.any (· ≠ binding.host) = false ∧
        guard.revalidate config runId expectedOcs trigger host =
          (guard.log config "IDENTITY_REVALIDATION" binding
            [("trigger", .text trigger.value), ("result", .text "valid")],
            ⟨true, "identity_valid", some binding⟩) := by
  cases hbinding : guard.bindings.lookup runId with
  | none => exact .inl ⟨by simp, by simp [revalidate, bindingFor, hbinding]⟩
  | some binding =>
    have hhold (reason : String) : guard.hold config runId reason =
        .ok (guard.record config runId "IDENTITY_HOLD"
          { binding with status := .hold, holdReason := some reason }
          [("reason", .text reason)],
          { binding with status := .hold, holdReason := some reason }) := by
      simp [hold, bindingFor, hbinding]
    cases hprofile : validateProfileBinding config binding with
    | some reason =>
      exact .inr (.inl ⟨reason, _, _, hhold reason,
        by simp [revalidate, bindingFor, hbinding, hprofile, hhold]⟩)
    | none =>
      by_cases hstatus : binding.status = .valid
      · by_cases hocs : expectedOcs = binding.ocsId
        · cases hhost : host.any (· ≠ binding.host) with
          | true =>
            exact .inr (.inl ⟨"host_identity_context_mismatch", _, _, hhold _, by
              simp only [revalidate, bindingFor, hbinding, hprofile, hstatus, hocs,
                ne_self_iff_false, if_false, hhost, if_true, hhold, and_self]⟩)
          | false =>
            exact .inr (.inr ⟨binding, rfl, hprofile, hstatus, hocs, hhost, by
              simp only [revalidate, bindingFor, hbinding, hprofile, hstatus, hocs,
                ne_self_iff_false, if_false, hhost, Bool.false_eq_true]⟩)
        · exact .inr (.inl ⟨"active_ocs_identity_mismatch", _, _, hhold _, by
            simp [revalidate, bindingFor, hbinding, hprofile, hstatus, hocs, hhold]⟩)
      · exact .inl ⟨by simpa using hstatus, by
          simp [revalidate, bindingFor, hbinding, hprofile, hstatus]⟩

theorem requireValid_fst (guard : IdentityKernelGuard) (runId expectedOcs : String)
    (trigger : IdentityRecheckTrigger) (host : Option String) :
    (guard.requireValid config runId expectedOcs trigger host).1 =
      (guard.revalidate config runId expectedOcs trigger host).1 := by
  unfold requireValid
  split
  rename_i hrevalidate
  rw [hrevalidate]
  split <;> rfl

theorem requireValid_ok {expectedOcs : String} {trigger : IdentityRecheckTrigger}
    {host : Option String}
    (h : guard.requireValid config runId expectedOcs trigger host = (guard', .ok binding)) :
    guard.bindings.lookup runId = some binding ∧
      validateProfileBinding config binding = none ∧ binding.status = .valid ∧
      expectedOcs = binding.ocsId ∧ host.any (· ≠ binding.host) = false ∧
      guard' = guard.log config "IDENTITY_REVALIDATION" binding
        [("trigger", .text trigger.value), ("result", .text "valid")] := by
  rcases guard.revalidate_cases config runId expectedOcs trigger host with
    ⟨-, -, hinvalid⟩ | ⟨reason, after, held, -, -, hinvalid⟩ |
      ⟨found, hlookup, hprofile, hstatus, hocs, hhost, heq⟩
  · simp [requireValid, hinvalid] at h
  · simp [requireValid, hinvalid] at h
  · simp only [requireValid, heq, Prod.mk.injEq, Except.ok.injEq] at h
    obtain ⟨rfl, rfl⟩ := h
    exact ⟨hlookup, hprofile, hstatus, hocs, hhost, rfl⟩

theorem requireValid_ready {expectedOcs host : String}
    (hbinding : guard.bindings.lookup runId = some binding)
    (hprofile : validateProfileBinding config binding = none)
    (hvalid : binding.status = .valid) (hocs : expectedOcs = binding.ocsId)
    (hhost : host = binding.host) (trigger : IdentityRecheckTrigger) :
    guard.requireValid config runId expectedOcs trigger (some host) =
      (guard.log config "IDENTITY_REVALIDATION" binding
        [("trigger", .text trigger.value), ("result", .text "valid")], .ok binding) := by
  simp [requireValid, revalidate, bindingFor, hbinding, hprofile, hvalid, hocs, hhost]

end IdentityKernelGuard

end ReisOs.Kernel
