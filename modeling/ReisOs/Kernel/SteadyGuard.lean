import ReisOs.Kernel.HazelContinuity

/-!
# Guards of a single process

While one process uses a guard, its memory repeats the last event of every run that it
knows.  Such a guard vouches for the binding that the log gives back last, and the
continuity calls of that run succeed whether or not the process has just started.
-/

namespace ReisOs.Kernel

open ReisOs.Core IdentityKernelGuard

variable {config : IdentityConfig} {guard guard' : IdentityKernelGuard} {runId : String}
  {binding active : ActiveIdentityBinding}

/-- The log verifies, and memory repeats the last event of each run that it knows. -/
structure Steady (config : IdentityConfig) (guard : IdentityKernelGuard) : Prop where
  sound : guard.auditLog.Sound config
  owned : ∀ {runId binding}, guard.bindings.lookup runId = some binding →
    binding.runId = runId
  current : ∀ {runId binding}, guard.bindings.lookup runId = some binding →
    guard.auditLog.terminalBinding runId = some binding

/-- The log gives the binding back for its run. -/
structure Vouches (config : IdentityConfig) (guard : IdentityKernelGuard)
    (active : ActiveIdentityBinding) : Prop where
  last : guard.auditLog.terminalBinding active.runId = some active
  valid : active.status = .valid
  profile : validateProfileBinding config active = none

/-! ## Operations -/

theorem restart_steady {log : IdentityAuditLog} (h : log.Sound config) :
    Steady config (restart log) where
  sound := h
  owned hlookup := by simp [restart] at hlookup
  current hlookup := by simp [restart] at hlookup

theorem Steady.restart (h : Steady config guard) : Steady config (restart guard.auditLog) :=
  restart_steady h.sound

theorem Steady.record (h : Steady config guard) (hrun : binding.runId = runId)
    (eventType : String) (details : Details) :
    Steady config (guard.record config runId eventType binding details) where
  sound := h.sound.append eventType binding details
  owned {other found} hlookup := by
    rw [record_bindings, Dict.lookup_insert_eq] at hlookup
    split at hlookup
    · rename_i heq
      cases hlookup
      rw [heq, hrun]
    · exact h.owned hlookup
  current {other found} hlookup := by
    rw [record_auditLog, IdentityAuditLog.terminalBinding_append, hrun]
    rw [record_bindings, Dict.lookup_insert_eq] at hlookup
    split at hlookup
    · rename_i heq
      rw [if_pos heq.symm]
      exact hlookup
    · rename_i hne
      rw [if_neg (Ne.symm hne)]
      exact h.current hlookup

theorem Steady.log (h : Steady config guard)
    (hlookup : guard.bindings.lookup runId = some binding) (eventType : String)
    (details : Details) : Steady config (guard.log config eventType binding details) where
  sound := h.sound.append eventType binding details
  owned := h.owned
  current {other found} hfound := by
    rw [log_auditLog, IdentityAuditLog.terminalBinding_append, h.owned hlookup]
    rw [log_bindings] at hfound
    split
    · rename_i heq
      rw [← heq, hlookup] at hfound
      exact hfound
    · exact h.current hfound

theorem Steady.hold {reason : String} {held : ActiveIdentityBinding}
    (h : Steady config guard)
    (hhold : guard.hold config runId reason = .ok (guard', held)) :
    Steady config guard' := by
  obtain ⟨binding, hlookup, rfl, rfl⟩ := hold_ok hhold
  have hrun : binding.runId = runId := h.owned hlookup
  apply h.record
  exact hrun

theorem Steady.recoverState (h : Steady config guard)
    (hrecover : guard.recoverState config runId = .ok (guard', binding)) :
    Steady config guard' := by
  obtain ⟨hterminal, -, -, rfl⟩ := recoverState_ok hrecover
  apply h.record
  exact h.sound.terminal_runId hterminal

theorem Steady.requireValid (h : Steady config guard) (runId expectedOcs : String)
    (trigger : IdentityRecheckTrigger) (host : Option String) :
    Steady config (guard.requireValid config runId expectedOcs trigger host).1 := by
  rw [requireValid_fst]
  rcases guard.revalidate_cases config runId expectedOcs trigger host with
    ⟨-, hsame, -⟩ | ⟨reason, guard', held, hhold, hguard, -⟩ |
      ⟨binding, hlookup, -, -, -, -, heq⟩
  · rw [hsame]
    exact h
  · rw [hguard]
    exact h.hold hhold
  · rw [heq]
    exact h.log hlookup ..

theorem Steady.bindActiveIdentity (h : Steady config guard) {now : Time}
    {ocsId host sessionContext : String}
    (hbind : guard.bindActiveIdentity config now runId ocsId host sessionContext =
      .ok (guard', binding)) : Steady config guard' := by
  unfold IdentityKernelGuard.bindActiveIdentity at hbind
  split at hbind
  · cases hbind
  · split at hbind
    · cases hbind
    · rename_i profile hprofile
      cases hbind
      have hrun : (newBinding profile runId host sessionContext now).runId = runId := rfl
      exact h.record hrun _ _

/-! ## Vouching -/

theorem Vouches.log (h : Vouches config guard active) (eventType : String)
    (details : Details) :
    Vouches config (guard.log config eventType active details) active where
  last := by rw [log_auditLog, IdentityAuditLog.terminalBinding_append, if_pos rfl]
  valid := h.valid
  profile := h.profile

theorem Vouches.of_lookup (h : Steady config guard)
    (hlookup : guard.bindings.lookup runId = some active) (hvalid : active.status = .valid)
    (hprofile : validateProfileBinding config active = none) :
    Vouches config guard active where
  last := by
    rw [h.owned hlookup]
    exact h.current hlookup
  valid := hvalid
  profile := hprofile

/-! ## Continuity calls -/

namespace HazelBoundContinuity

variable {P : Type} {hazel : HazelConfig P}

/-- The call names the run of the binding and its terms. -/
structure Names (runId expectedOcs host authorityRef : String)
    (active : ActiveIdentityBinding) : Prop where
  runId : runId = active.runId
  ocs : expectedOcs = active.ocsId
  host : host = active.host
  authority : authorityRef = active.authorityEnvelopeRef

/-- The guard stays steady, vouches for the binding and has it in memory. -/
structure Admits (config : IdentityConfig) (guard : IdentityKernelGuard)
    (active : ActiveIdentityBinding) : Prop where
  steady : Steady config guard
  vouches : Vouches config guard active
  memory : guard.bindings.lookup active.runId = some active

theorem Admits.log (h : Admits config guard active) (eventType : String)
    (details : Details) : Admits config (guard.log config eventType active details) active where
  steady := h.steady.log h.memory eventType details
  vouches := h.vouches.log eventType details
  memory := h.memory

theorem requireAuthority_admitted (h : Steady hazel.identity guard)
    {expectedOcs host authorityRef : String} {trigger : IdentityRecheckTrigger}
    (hok : requireAuthority hazel guard runId expectedOcs trigger host authorityRef =
      (guard', .ok active)) :
    Admits hazel.identity guard active ∧ Names runId expectedOcs host authorityRef active ∧
      Admits hazel.identity guard' active := by
  obtain ⟨hvalid, hauthority⟩ := requireAuthority_ok hok
  obtain ⟨hlookup, hprofile, hstatus, hocs, hhost, rfl⟩ := requireValid_ok hvalid
  have hrun : active.runId = runId := h.owned hlookup
  have hadmits : Admits hazel.identity guard active :=
    ⟨h, .of_lookup h hlookup hstatus hprofile, by rw [hrun]; exact hlookup⟩
  exact ⟨hadmits, ⟨hrun.symm, hocs, by simpa using hhost, hauthority⟩, hadmits.log ..⟩

theorem recoverCall_admitted (h : Steady hazel.identity guard)
    {arguments : RecoverArguments}
    (hok : recoverCall hazel guard arguments = (guard', .ok active)) :
    Vouches hazel.identity guard active ∧
      Names arguments.runId arguments.expectedOcs arguments.host arguments.authorityRef
        active ∧ Admits hazel.identity guard' active := by
  simp only [recoverCall] at hok
  split at hok
  · obtain ⟨hbefore, hnames, hafter⟩ := requireAuthority_admitted h hok
    exact ⟨hbefore.vouches, hnames, hafter⟩
  · split at hok
    · cases hok
    · rename_i recovered hrecover
      obtain ⟨hterminal, hstatus, hprofile, hguard⟩ := recoverState_ok hrecover
      obtain ⟨hbefore, hnames, hafter⟩ :=
        requireAuthority_admitted (h.recoverState hrecover) hok
      have hmemory := hbefore.memory
      rw [hguard, record_bindings, hnames.runId, AList.lookup_insert] at hmemory
      rw [Option.some.inj hmemory, hnames.runId] at hterminal
      exact ⟨⟨hterminal, hbefore.vouches.valid, hbefore.vouches.profile⟩, hnames, hafter⟩

theorem recoverCall_steady (h : Steady hazel.identity guard) (arguments : RecoverArguments) :
    Steady hazel.identity (recoverCall hazel guard arguments).1 := by
  simp only [recoverCall]
  split
  · rw [requireAuthority_fst]
    exact h.requireValid ..
  · split
    · exact h
    · rename_i hrecover
      rw [requireAuthority_fst]
      exact (h.recoverState hrecover).requireValid ..

end HazelBoundContinuity

end ReisOs.Kernel
