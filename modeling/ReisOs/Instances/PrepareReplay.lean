import ReisOs.Instances.Histories
import ReisOs.Instances.Outcomes

/-!
# Replayed preparations

A request that is prepared again answers from the row that its first preparation left,
whatever has happened since.  The row, its lease and the envelope that was handed out
are followed from the first answer to the replay.
-/

namespace ReisOs.Instances

open ReisOs.Core ReisOs.Kernel World Script InstanceStore InstanceBinding

variable {S : Type} {config : BinderConfig S} {world after later : World S}

/-! ## The first preparation -/

/-- What a completed preparation of the request has left: its row, its lease and the
digest of the envelope that it handed out. -/
structure Issued (config : BinderConfig S) (request : PrepareInstanceRequest)
    (profile : OCSProfile) (world : World S) (current : InstanceBinding)
    (lease : AuthorityLease) : Prop where
  valid : (validateRequest request : Service S Unit) = pure ()
  known : config.profiles.lookup request.ocsId = some profile
  stored : world.store.byIdempotency request.idempotencyKey = some current
  begun : current.status ≠ .prepared
  first : current.predecessorBindingId = none
  leaseId : current.leaseId = request.leaseId
  hash : current.requestHash = config.requestHash request
  digest : config.digest (bootstrapEnvelope current.fixed profile lease
    (config.nonce (config.requestHash request)) 0 none) = current.bootstrapHash
  found : world.leases.leases.lookup request.leaseId = some lease
  covered : ∃ now before reserved, AuthorityLease.Covers reserved now before
      (leaseEnvelope request profile lease current "ocs_instance_binding"
        s!"bind:{current.bindingId}" request.idempotencyKey) ∧
    reserved.SameTerms lease
  used : ∃ useIndex, world.leases.reservation request.leaseId request.idempotencyKey =
    some (s!"bind:{current.bindingId}", useIndex)
  spent : lease.state ≠ .active
  released : lease.singleUse = true → lease.state = .released

variable {binding : InstanceBinding}

theorem bootstrapEnvelope_fixed
    (hunverified : binding.maturity = .preparedUnverified) (profile : OCSProfile)
    (lease : AuthorityLease) (nonce : String) (checkpointVersion : ℕ)
    (checkpointHash : Option String) :
    bootstrapEnvelope binding.fixed profile lease nonce checkpointVersion checkpointHash =
      bootstrapEnvelope binding profile lease nonce checkpointVersion checkpointHash := by
  unfold bootstrapEnvelope fixed
  rw [hunverified]

theorem bootstrapEnvelope_sameTerms {lease lease' : AuthorityLease}
    (hterms : lease.SameTerms lease') (binding : InstanceBinding) (profile : OCSProfile)
    (nonce : String) (checkpointVersion : ℕ) (checkpointHash : Option String) :
    bootstrapEnvelope binding profile lease' nonce checkpointVersion checkpointHash =
      bootstrapEnvelope binding profile lease nonce checkpointVersion checkpointHash := by
  unfold bootstrapEnvelope
  rw [hterms]

theorem ensureHazel_ok [DecidableEq S] {durable : InstanceBinding}
    {request : PrepareInstanceRequest} (hjournaled : world.store.Journaled)
    (hrow : world.store.row binding.bindingId = some binding)
    (hprepared : binding.status = .prepared) (hversion : binding.version = 1)
    (h : (ensureHazel config binding request).exec world = (after, .ok durable)) :
    after.store.row binding.bindingId = some durable ∧ durable.fixed = binding.fixed ∧
      durable.status = .persisted ∧ after.leases = world.leases ∧
      world.store.records <+: after.store.records ∧ after.store.Journaled := by
  unfold ensureHazel at h
  obtain ⟨middle, recovered, hrecovered, hrest⟩ := exec_bind_eq_ok h
  obtain ⟨hstore, hleases⟩ := outside_exec (outside_recoverOrPersist binding) hrecovered
  obtain ⟨-, hmove⟩ := raiseIf_bind_ok hrest
  obtain ⟨moved, htransition, hafter⟩ := onStore_ok hmove
  rw [hstore] at htransition
  obtain ⟨hcolumns, hmoved⟩ := transition_first hjournaled hrow hversion
    (by simp [hprepared]) htransition
  have hrecords := ((records_transition _).ends trivial htransition).2
  have hkept := ((journal_transition _).ends hjournaled htransition).1
  rw [hafter]
  refine ⟨hmoved, ?_, ?_, hleases, hrecords, hkept⟩
  · rw [hcolumns]
    rfl
  · rw [hcolumns]
    rfl

/-- A preparation from the insertion of its row on. -/
theorem inserted_ok [DecidableEq S] {created : InstanceBinding}
    {request : PrepareInstanceRequest} {leaseId : String}
    {signed handed : InstanceBootstrapEnvelope} (hjournaled : world.store.Journaled)
    (hnew : world.store.byIdempotency binding.idempotencyKey = none)
    (hprepared : binding.status = .prepared) (hversion : binding.version = 1)
    (h : (do
        let stored ← onStore (create binding)
        World.finalize leaseId
        let durable ← ensureHazel config stored request
        return (durable, signed)).exec world = (after, .ok (created, handed))) :
    after.store.byIdempotency binding.idempotencyKey = some created ∧
      created.fixed = binding.fixed ∧ created.status = .persisted ∧
      ∃ state, world.leases.finalize leaseId = .ok (after.leases, state) := by
  obtain ⟨inserted, stored, hcreate, hfinalizes⟩ := exec_bind_eq_ok h
  obtain ⟨registered, hregister, rfl⟩ := onStore_ok hcreate
  obtain ⟨hstored, hinserted⟩ := create_fresh hnew hregister
  rw [hstored] at hfinalizes
  obtain ⟨finalized, ⟨⟩, hfinalize, hensures⟩ := exec_bind_eq_ok hfinalizes
  obtain ⟨leases, state, hreleased, rfl⟩ := finalize_ok hfinalize
  obtain ⟨ended, durable, hensure, hend⟩ := exec_bind_eq_ok hensures
  cases hend
  have hrow := row_created hinserted binding.bindingId
  rw [if_pos rfl] at hrow
  have hregistered : registered.Journaled :=
    ((journal_create _).ends hjournaled hregister).1
  obtain ⟨hdurable, hfixed, hstatus, hleases, hrecords, hkept⟩ :=
    ensureHazel_ok hregistered hrow hprepared hversion hensure
  obtain ⟨row, hkeyed, hsame⟩ := find?_of_records (fun _ => rfl) hrecords
    (byIdempotency_created hinserted hnew)
  have hid : row.bindingId = binding.bindingId :=
    column_of_fixed hsame (·.bindingId) fun _ => rfl
  have hfound : after.store.row binding.bindingId = some row :=
    (row_eq_some hkept.ids).mpr ⟨List.mem_of_find?_eq_some hkeyed, hid⟩
  rw [hdurable] at hfound
  rw [Option.some.inj hfound]
  exact ⟨hkeyed, (Option.some.inj hfound) ▸ hfixed, (Option.some.inj hfound) ▸ hstatus,
    state, hleases ▸ hreleased⟩

theorem prepare_new [DecidableEq S] {request : PrepareInstanceRequest}
    {answer : InstanceBinding × InstanceBootstrapEnvelope}
    (hnew : world.store.byIdempotency request.idempotencyKey = none)
    (h : (prepare config request).exec world = (after, .ok answer)) :
    (validateRequest request : Service S Unit) = pure () ∧
      ∃ profile, config.profiles.lookup request.ocsId = some profile ∧
        (prepareNew config request profile).exec world = (after, .ok answer) := by
  unfold prepare at h
  obtain ⟨start, ⟨⟩, hchecked, hrun⟩ := exec_bind_eq_ok h
  obtain ⟨hvalid, hstart⟩ := validateRequest_ok hchecked
  rw [hstart] at hrun
  split at hrun
  · cases hrun
  · rename_i profile hprofile
    rw [exec_read_bind, hnew] at hrun
    exact ⟨hvalid, profile, hprofile, hrun⟩

theorem prepare_issued [DecidableEq S] {request : PrepareInstanceRequest}
    {created : InstanceBinding} {signed : InstanceBootstrapEnvelope}
    (hworld : Sane config world)
    (hnew : world.store.byIdempotency request.idempotencyKey = none)
    (h : (prepare config request).exec world = (after, .ok (created, signed))) :
    ∃ profile lease, Issued config request profile after created lease := by
  obtain ⟨hvalid, profile, hprofile, hprepare⟩ := prepare_new hnew h
  unfold prepareNew at hprepare
  obtain ⟨leased, lease, hlease, hidentify⟩ := exec_bind_eq_ok hprepare
  obtain ⟨hleased, hlookup⟩ := validatedLease_ok hlease
  obtain ⟨identified, active, hactive, hseal⟩ := exec_bind_eq_ok hidentify
  obtain ⟨hstore, hleases⟩ := outside_exec (outside_activeIdentity request _) hactive
  rw [hleased] at hstore hleases
  rw [exec_read_bind, exec_tick_bind] at hseal
  obtain ⟨sealing, ⟨binding, envelope⟩, hsealed, hreserves⟩ := exec_bind_eq_ok hseal
  obtain ⟨hsealing, hbinding, henvelope⟩ := sealed_ok rfl hsealed
  obtain ⟨reserved, ⟨⟩, hreserve, hcreates⟩ := exec_bind_eq_ok hreserves
  obtain ⟨leases, use, hreserved, hreservedWorld⟩ := reserveActionLease_ok hreserve
  have hkey : binding.idempotencyKey = request.idempotencyKey := by
    rw [hbinding]
    rfl
  have hregistry : reserved.store = world.store := by
    rw [hreservedWorld, hsealing]
    exact hstore
  obtain ⟨hstored, hfixed, hstatus, state, hfinalize⟩ :=
    inserted_ok (by rw [hregistry]; exact hworld.history.journaled)
      (by rw [hregistry, hkey]; exact hnew) (by rw [hbinding]; rfl) (by rw [hbinding]; rfl)
      hcreates
  have hreservedLeases : reserved.leases = leases := by rw [hreservedWorld]
  have hfound : sealing.leases.leases.lookup request.leaseId = some lease := by
    rw [hsealing]
    exact hleases ▸ hlookup
  have hid : lease.leaseId = request.leaseId := hworld.history.kept.named hlookup
  obtain ⟨before, held, hbefore, hcovers, hheld, hterms, useIndex, hused⟩ :=
    AuthorityLeaseManager.reserveUse_accepted hreserved
  rw [hreservedLeases] at hfinalize
  obtain ⟨heldAgain, final, hheldAgain, hfinal, hfinalTerms, hspent, hsingle, husage⟩ :=
    AuthorityLeaseManager.finalize_accepted hfinalize
  have hsame : before = lease := by
    have hlease : sealing.leases.leases.lookup lease.leaseId = some before := hbefore
    rw [hid, hfound] at hlease
    exact (Option.some.inj hlease).symm
  have hsameAgain : heldAgain = held := by
    have hlease : leases.leases.lookup lease.leaseId = some held := hheld
    rw [hlease] at hheldAgain
    exact (Option.some.inj hheldAgain).symm
  rw [hsame] at hterms hcovers
  rw [hsameAgain] at hfinalTerms
  have hall : lease.SameTerms final := hterms.trans hfinalTerms
  have hcreated : created.bindingId = binding.bindingId :=
    column_of_fixed hfixed (·.bindingId) fun _ => rfl
  refine ⟨profile, final, ?_⟩
  constructor
  · exact hvalid
  · exact hprofile
  · exact hkey ▸ hstored
  · simp [hstatus]
  · rw [column_of_fixed hfixed (·.predecessorBindingId) fun _ => rfl, hbinding]
    rfl
  · rw [column_of_fixed hfixed (·.leaseId) fun _ => rfl, hbinding]
    rfl
  · rw [column_of_fixed hfixed (·.requestHash) fun _ => rfl, hbinding]
    rfl
  · rw [column_of_fixed hfixed (·.bootstrapHash) fun _ => rfl, hfixed,
      bootstrapEnvelope_sameTerms hall, bootstrapEnvelope_fixed (by rw [hbinding]; rfl),
      hbinding, henvelope]
    rfl
  · exact hid ▸ hfinal
  · refine ⟨sealing.clock 0, sealing.clock 1, lease, ?_, hall⟩
    rw [leaseEnvelope_congr hall hfixed, hcreated]
    exact hcovers
  · refine ⟨useIndex, ?_⟩
    rw [AuthorityLeaseManager.reservation, husage, hcreated, ← hid]
    exact hused
  · exact hspent
  · exact hsingle

/-! ## Afterwards -/

/-- The row and the lease of an issued binding are still there in every later state. -/
theorem Issued.continues {request : PrepareInstanceRequest} {profile : OCSProfile}
    {current : InstanceBinding} {lease : AuthorityLease}
    (h : Issued config request profile world current lease) (hlater : Sane config later)
    (hgrows : Continues config world later) :
    ∃ current' lease', Issued config request profile later current' lease' ∧
      current'.bindingId = current.bindingId := by
  obtain ⟨row, hrow, hfixed⟩ :=
    find?_of_records (fun _ => rfl) hgrows.history.1 h.stored
  obtain ⟨seen, hseen, hadvances⟩ :=
    hgrows.registry.1 current (List.mem_of_find?_eq_some h.stored)
  have hid : row.bindingId = current.bindingId :=
    column_of_fixed hfixed (·.bindingId) fun _ => rfl
  have hsame : seen = row := List.inj_on_of_nodup_map hlater.history.journaled.ids hseen
    (List.mem_of_find?_eq_some hrow) (hadvances.bindingId.trans hid.symm)
  rw [hsame] at hadvances
  obtain ⟨lease', hlease, hterms, hrank⟩ := hgrows.history.2.lease h.found
  refine ⟨row, lease', ?_, hid⟩
  constructor
  · exact h.valid
  · exact h.known
  · exact hrow
  · exact hadvances.begun h.begun
  · rw [hadvances.predecessorBindingId]
    exact h.first
  · rw [hadvances.column (·.leaseId) fun _ => rfl]
    exact h.leaseId
  · rw [hadvances.column (·.requestHash) fun _ => rfl]
    exact h.hash
  · rw [hfixed, bootstrapEnvelope_sameTerms hterms,
      hadvances.column (·.bootstrapHash) fun _ => rfl]
    exact h.digest
  · exact hlease
  · obtain ⟨now, before, reserved, hcovers, hreserved⟩ := h.covered
    refine ⟨now, before, reserved, ?_, hreserved.trans hterms⟩
    rw [leaseEnvelope_congr hterms hfixed, hid]
    exact hcovers
  · obtain ⟨useIndex, hused⟩ := h.used
    refine ⟨useIndex, ?_⟩
    rw [hid]
    exact hgrows.history.2.reservation hused
  · exact LeaseState.spent_of_rank h.spent hrank
  · intro hsingle
    apply LeaseState.released_of_rank (h.released _) hrank
    rw [hterms] at hsingle
    exact hsingle

/-- What the request's row and lease have to be for a replay: the worker has not answered
yet, and the lease is released or still in force. -/
structure Replayable (request : PrepareInstanceRequest) (world : World S) : Prop where
  unverified : ∀ current, world.store.byIdempotency request.idempotencyKey = some current →
    current.maturity = .preparedUnverified
  lease : ∀ lease, world.leases.leases.lookup request.leaseId = some lease →
    lease.state = .released ∨ lease.InForce (world.clock 0) (world.clock 1)

/-- Preparing again returns the current row and an envelope with its digest, and changes
neither the registry nor Hazel nor the leases. -/
def Replayed [DecidableEq S] (config : BinderConfig S) (request : PrepareInstanceRequest)
    (bindingId : String) (world : World S) : Prop :=
  ∃ current signed after,
    (prepare config request).exec world = (after, .ok (current, signed)) ∧
      world.store.row bindingId = some current ∧
      config.digest signed = current.bootstrapHash ∧
      after.store = world.store ∧ after.hazel = world.hazel ∧ after.leases = world.leases

variable {request : PrepareInstanceRequest} {profile : OCSProfile}
  {current : InstanceBinding} {lease : AuthorityLease}

/-- The lease of an issued binding needs nothing more. -/
theorem Issued.reconcile (h : Issued config request profile world current lease)
    (hnamed : lease.leaseId = request.leaseId) (hreplay : Replayable request world) :
    ∃ clock, (reconcileBindingLease request profile lease current).exec world =
      ({ world with clock := clock }, .ok ()) := by
  have hfound : world.leases.leases.lookup lease.leaseId = some lease := by
    rw [hnamed]
    exact h.found
  unfold reconcileBindingLease
  rw [exec_bind_ok (exec_leaseFor_some hfound)]
  by_cases hreleased : lease.state = .released
  · rw [if_pos hreleased]
    exact ⟨world.clock, rfl⟩
  · rw [if_neg hreleased]
    have hforce : lease.InForce (world.clock 0) (world.clock 1) :=
      (hreplay.lease lease h.found).resolve_left hreleased
    obtain ⟨now, before, reserved, hcovers, hterms⟩ := h.covered
    have hexpires : lease.expiresAt = reserved.expiresAt := by rw [hterms]
    have hcovered := hcovers.again hterms hexpires hreleased hforce
    obtain ⟨useIndex, hused⟩ := h.used
    rw [← hnamed] at hused
    have hheld := AuthorityLeaseManager.reserveUse_held hfound hcovered hused
    have hconsumed : lease.state = .consumed := by
      have hspent := h.spent
      revert hspent hreleased
      cases lease.state <;> simp
    have hshared : lease.singleUse = false := by
      rw [Bool.eq_false_iff]
      exact fun hsingle => hreleased (h.released hsingle)
    refine ⟨fun index => world.clock (index + 2), ?_⟩
    unfold reserveBindingLease
    rw [exec_bind_ok (exec_reserveActionLease hheld)]
    exact exec_finalize (AuthorityLeaseManager.finalize_shared hfound hconsumed hshared)

theorem Issued.replay [DecidableEq S] (h : Issued config request profile world current lease)
    (hworld : Sane config world) (hreplay : Replayable request world) :
    Replayed config request current.bindingId world := by
  have hnamed : lease.leaseId = request.leaseId := hworld.history.kept.named h.found
  obtain ⟨clock, hreconcile⟩ := h.reconcile hnamed hreplay
  have hrow : world.store.row current.bindingId = some current :=
    (row_eq_some hworld.history.journaled.ids).mpr
      ⟨List.mem_of_find?_eq_some h.stored, rfl⟩
  have hdigest : config.digest (bootstrapEnvelope current profile lease
      (config.nonce (config.requestHash request)) 0 none) = current.bootstrapHash := by
    rw [← bootstrapEnvelope_fixed (hreplay.unverified current h.stored)]
    exact h.digest
  refine ⟨current, bootstrapEnvelope current profile lease
    (config.nonce (config.requestHash request)) 0 none, { world with clock := clock }, ?_,
    hrow, hdigest, rfl, rfl, rfl⟩
  unfold prepare
  rw [h.valid, exec_bind_ok (exec_pure _ _)]
  simp only [h.known]
  rw [exec_read_bind, h.stored]
  dsimp only
  unfold replayPrepare
  rw [exec_bind_ok (exec_leaseFor_some (h.leaseId ▸ h.found)), exec_raiseIf_bind,
    if_neg (not_not.mpr h.hash), exec_bind_ok (exec_envelope_first _ _ _ h.begun h.first _),
    exec_raiseIf_bind, if_neg (not_not.mpr hdigest), exec_bind_ok hreconcile,
    if_neg h.begun]
  rfl

theorem happen_prepare [DecidableEq S] {request : PrepareInstanceRequest}
    {answer : InstanceBinding × InstanceBootstrapEnvelope} (folding : TextFolding)
    (h : (prepare config request).exec world = (after, .ok answer)) :
    happen config folding world (.call (.prepare request)) = after := by
  have hscript : ((Call.prepare request).script config folding).exec world =
      (after, .ok ()) := exec_bind_ok h
  rw [happen, hscript]

/-- The deployment after its first preparation. -/
def sofiaPrepared : World ℕ :=
  ((prepare sofiaConfig sofiaFirst).exec
    (reachedAlone sofiaConfig plainFolding sofiaStart)).1

theorem sofiaPrepared_ok : ∃ answer,
    (prepare sofiaConfig sofiaFirst).exec (reachedAlone sofiaConfig plainFolding sofiaStart) =
      (sofiaPrepared, .ok answer) ∧ answer.1.bindingId = sofiaBinding :=
  exec_ok_of_map (by decide +kernel)

end ReisOs.Instances
