import ReisOs.Kernel.IdentityLog

/-!
# Guards that agree with their log

A guard is coherent when its memory and its log say the same of every run it knows:
the run and the status of the last event.  Every operation keeps a guard coherent,
and every operation keeps the holds of the runs that it does not bind.
-/

namespace ReisOs.Kernel

open ReisOs.Core IdentityAuditLog

variable {config : IdentityConfig}

namespace IdentityKernelGuard

/-- No identity check of the run passes, and its log gives no binding back. -/
def Closed (config : IdentityConfig) (runId : String) (guard : IdentityKernelGuard) : Prop :=
  (∀ expectedOcs trigger host binding,
      (guard.requireValid config runId expectedOcs trigger host).2 ≠ .ok binding) ∧
    ∀ binding, guard.auditLog.recoverCurrentBinding config runId ≠ .ok (some binding)

/-- In memory a guard holds, of each run it knows, a binding of that run with the status
that the log says last. -/
structure Coherent (config : IdentityConfig) (guard : IdentityKernelGuard) : Prop where
  sound : guard.auditLog.Sound config
  owned : ∀ runId binding, guard.bindings.lookup runId = some binding →
    binding.runId = runId
  current : ∀ runId binding, guard.bindings.lookup runId = some binding →
    (guard.auditLog.terminalBinding runId).map (·.status) = some binding.status

variable {guard guard' : IdentityKernelGuard} {runId : String}
  {binding : ActiveIdentityBinding}

theorem restart_coherent {log : IdentityAuditLog} (h : log.Sound config) :
    Coherent config (restart log) where
  sound := h
  owned runId binding hlookup := by simp [restart] at hlookup
  current runId binding hlookup := by simp [restart] at hlookup

theorem Coherent.record (h : Coherent config guard) (hrun : binding.runId = runId)
    (eventType : String) (details : Details) :
    Coherent config (guard.record config runId eventType binding details) where
  sound := h.sound.append eventType binding details
  owned other found hlookup := by
    rw [record_bindings, Dict.lookup_insert_eq] at hlookup
    split at hlookup
    · rename_i heq
      cases hlookup
      rw [heq, hrun]
    · exact h.owned other found hlookup
  current other found hlookup := by
    rw [record_auditLog, terminalBinding_append, hrun]
    rw [record_bindings, Dict.lookup_insert_eq] at hlookup
    split at hlookup
    · rename_i heq
      rw [if_pos heq.symm, hlookup, Option.map_some]
    · rename_i hne
      rw [if_neg (Ne.symm hne)]
      exact h.current other found hlookup

theorem Coherent.log (h : Coherent config guard)
    (hstatus : ∀ stored, guard.bindings.lookup binding.runId = some stored →
      binding.status = stored.status) (eventType : String) (details : Details) :
    Coherent config (guard.log config eventType binding details) where
  sound := h.sound.append eventType binding details
  owned := h.owned
  current other found hfound := by
    rw [log_auditLog, terminalBinding_append]
    split
    · rename_i heq
      subst heq
      rw [Option.map_some, hstatus found hfound]
    · exact h.current other found hfound

theorem Coherent.log_stored (h : Coherent config guard)
    (hlookup : guard.bindings.lookup runId = some binding) (eventType : String)
    (details : Details) : Coherent config (guard.log config eventType binding details) := by
  apply h.log
  intro stored hstored
  rw [h.owned runId binding hlookup, hlookup, Option.some_inj] at hstored
  rw [hstored]

theorem Coherent.held_log_stored (h : Coherent config guard)
    (hlookup : guard.bindings.lookup runId = some binding) (eventType other : String)
    (details : Details) :
    (guard.log config eventType binding details).auditLog.Held other ↔
      guard.auditLog.Held other := by
  rw [log_auditLog, held_append, h.owned runId binding hlookup]
  split
  · rename_i heq
    subst heq
    rw [IdentityAuditLog.Held, h.current runId binding hlookup, Option.some_inj]
  · rfl

theorem Coherent.closed (h : Coherent config guard) (hheld : guard.auditLog.Held runId) :
    Closed config runId guard := by
  constructor
  · intro expectedOcs trigger host binding hanswer
    obtain ⟨hlookup, -, hvalid, -⟩ := requireValid_ok (Prod.ext rfl hanswer)
    rw [IdentityAuditLog.Held, h.current runId binding hlookup, hvalid] at hheld
    cases hheld
  · intro binding hanswer
    rw [h.sound.recoverCurrentBinding_held hheld] at hanswer
    cases hanswer

/-- The guard stays coherent, and the holds of all runs but `bound` stay. -/
structure Keeps (config : IdentityConfig) (bound : Option String)
    (guard guard' : IdentityKernelGuard) : Prop where
  coherent : Coherent config guard → Coherent config guard'
  held : Coherent config guard → ∀ runId, bound ≠ some runId →
    guard.auditLog.Held runId → guard'.auditLog.Held runId

variable {bound : Option String}

theorem Keeps.refl (guard : IdentityKernelGuard) : Keeps config bound guard guard :=
  ⟨id, fun _ _ _ => id⟩

theorem Keeps.trans {last : IdentityKernelGuard} (h : Keeps config bound guard guard')
    (hnext : Keeps config bound guard' last) : Keeps config bound guard last where
  coherent hcoherent := hnext.coherent (h.coherent hcoherent)
  held hcoherent runId hbound hheld :=
    hnext.held (h.coherent hcoherent) runId hbound (h.held hcoherent runId hbound hheld)

theorem Keeps.log (hlookup : guard.bindings.lookup runId = some binding)
    (eventType : String) (details : Details) :
    Keeps config bound guard (guard.log config eventType binding details) where
  coherent h := h.log_stored hlookup eventType details
  held h other _ hheld := (h.held_log_stored hlookup eventType other details).mpr hheld

theorem Keeps.record (hrun : binding.runId = runId) (eventType : String)
    (details : Details) :
    Keeps config (some runId) guard
      (guard.record config runId eventType binding details) where
  coherent h := h.record hrun eventType details
  held h other hbound hheld := by
    rw [record_auditLog, held_append, hrun, if_neg (by simpa using hbound)]
    exact hheld

theorem hold_keeps {reason : String} {held : ActiveIdentityBinding}
    (hhold : guard.hold config runId reason = .ok (guard', held)) :
    Keeps config bound guard guard' := by
  obtain ⟨binding, hlookup, rfl, rfl⟩ := hold_ok hhold
  constructor
  · intro h
    have hrun : binding.runId = runId := h.owned runId binding hlookup
    apply h.record
    exact hrun
  · intro h other _ hheld
    rw [record_auditLog, held_append]
    split
    · rfl
    · exact hheld

theorem recoverState_keeps
    (hrecover : guard.recoverState config runId = .ok (guard', binding)) :
    Keeps config bound guard guard' := by
  obtain ⟨hterminal, hvalid, -, rfl⟩ := recoverState_ok hrecover
  constructor
  · intro h
    apply h.record
    exact h.sound.terminal_runId hterminal
  · intro h other _ hheld
    rw [record_auditLog, held_append, h.sound.terminal_runId hterminal]
    split
    · rename_i heq
      subst heq
      rwa [IdentityAuditLog.Held, hterminal, Option.map_some, Option.some_inj] at hheld
    · exact hheld

theorem revalidate_keeps (guard : IdentityKernelGuard) (runId expectedOcs : String)
    (trigger : IdentityRecheckTrigger) (host : Option String) :
    Keeps config bound guard
      (guard.revalidate config runId expectedOcs trigger host).1 := by
  rcases guard.revalidate_cases config runId expectedOcs trigger host with
    ⟨-, hsame, -⟩ | ⟨reason, guard', held, hhold, hguard, -⟩ |
      ⟨binding, hlookup, -, -, -, -, heq⟩
  · rw [hsame]
    exact .refl guard
  · rw [hguard]
    exact hold_keeps hhold
  · rw [heq]
    exact .log hlookup ..

theorem requireValid_keeps (guard : IdentityKernelGuard) (runId expectedOcs : String)
    (trigger : IdentityRecheckTrigger) (host : Option String) :
    Keeps config bound guard
      (guard.requireValid config runId expectedOcs trigger host).1 := by
  rw [requireValid_fst]
  exact revalidate_keeps ..

theorem bindActiveIdentity_keeps {now : Time} {ocsId host sessionContext : String}
    (hbind : guard.bindActiveIdentity config now runId ocsId host sessionContext =
      .ok (guard', binding)) :
    Keeps config (some runId) guard guard' ∧
      guard'.bindings.lookup runId = some binding ∧ binding.status = .valid := by
  cases hrefusal : bindRefusal config runId ocsId host sessionContext with
  | some error =>
    rw [bindActiveIdentity_refused hrefusal] at hbind
    cases hbind
  | none =>
    obtain ⟨profile, -, haccepted⟩ := bindActiveIdentity_accepted hrefusal guard now
    rw [haccepted] at hbind
    cases hbind
    have hrun : (newBinding profile runId host sessionContext now).runId = runId := rfl
    exact ⟨.record hrun .., by simp, rfl⟩

end IdentityKernelGuard

end ReisOs.Kernel
