import ReisOs.Instances.Recovery
import ReisOs.Instances.Lineages
import ReisOs.Kernel.LeaseHistory
import ReisOs.Kernel.SteadyGuard

/-!
# What a call that returns has done

One lemma for each procedure that the services share: from the answer of a call that ran
alone, the world before it and the world it left.
-/

namespace ReisOs.Instances

open ReisOs.Core ReisOs.Kernel World Script InstanceStore

variable {S A B : Type} {config : BinderConfig S} {world after : World S}

/-! ## Checks -/

theorem raiseIf_bind_ok {condition : Prop} [Decidable condition] {error : InstanceError}
    {rest : Unit → Service S A} {value : A}
    (h : (raiseIf condition error >>= rest).exec world = (after, .ok value)) :
    ¬ condition ∧ (rest ()).exec world = (after, .ok value) := by
  rw [exec_raiseIf_bind] at h
  split at h
  · cases h
  · rename_i hpassed
    exact ⟨hpassed, h⟩

/-! ## Steps -/

@[simp]
theorem exec_tick_bind (rest : Time → Service S A) (world : World S) :
    (tick >>= rest).exec world =
      (rest (world.clock 0)).exec
        { world with clock := fun index => world.clock (index + 1) } := rfl

theorem exec_leaseFor (leaseId : String) (world : World S) :
    (leaseFor leaseId : Service S AuthorityLease).exec world =
      (world, match world.leases.leases.lookup leaseId with
        | none => .error (.kernel (.keyError leaseId))
        | some lease => .ok lease) := by
  unfold World.leaseFor AuthorityLeaseManager.leaseFor
  rw [exec_read_bind]
  cases world.leases.leases.lookup leaseId <;> rfl

variable {leaseId : String} {lease : AuthorityLease}

theorem exec_leaseFor_some
    (h : world.leases.leases.lookup leaseId = some lease) :
    (leaseFor leaseId : Service S AuthorityLease).exec world = (world, .ok lease) := by
  rw [exec_leaseFor, h]

theorem leaseFor_ok
    (h : (leaseFor leaseId : Service S AuthorityLease).exec world = (after, .ok lease)) :
    after = world ∧ world.leases.leases.lookup leaseId = some lease := by
  rw [exec_leaseFor] at h
  cases hlookup : world.leases.leases.lookup leaseId with
  | none => simp [hlookup] at h
  | some found =>
    simp only [hlookup, Prod.mk.injEq, Except.ok.injEq] at h
    exact ⟨h.1.symm, by rw [h.2]⟩

theorem finalize_ok
    (h : (World.finalize leaseId : Service S Unit).exec world = (after, .ok ())) :
    ∃ leases state, world.leases.finalize leaseId = .ok (leases, state) ∧
      after = { world with leases := leases } := by
  unfold World.finalize at h
  rw [exec_act] at h
  cases hfinalize : world.leases.finalize leaseId with
  | error error => simp [hfinalize] at h
  | ok answer =>
    simp only [hfinalize, Prod.mk.injEq, and_true] at h
    exact ⟨answer.1, answer.2, rfl, h.symm⟩

variable {leases : AuthorityLeaseManager}

theorem exec_finalize
    {state : LeaseState} (h : world.leases.finalize leaseId = .ok (leases, state)) :
    (World.finalize leaseId : Service S Unit).exec world =
      ({ world with leases := leases }, .ok ()) := by
  unfold World.finalize
  rw [exec_act, h]

theorem exec_reserveUse {now later : Time} {envelope : AuthorizedActionEnvelope String} {use : String × ℕ}
    (h : world.leases.reserveUse now later envelope = (leases, .ok use)) :
    (reserveUse now later envelope : Service S Unit).exec world =
      ({ world with leases := leases }, .ok ()) := by
  unfold World.reserveUse
  rw [exec_act, h]

theorem reserveUse_ok {now later : Time} {envelope : AuthorizedActionEnvelope String}
    (h : (reserveUse now later envelope : Service S Unit).exec world = (after, .ok ())) :
    ∃ leases use, world.leases.reserveUse now later envelope = (leases, .ok use) ∧
      after = { world with leases := leases } := by
  unfold World.reserveUse at h
  rw [exec_act] at h
  rcases hreserve : world.leases.reserveUse now later envelope with ⟨leases, answer⟩
  cases answer with
  | error reason => simp [hreserve] at h
  | ok use =>
    simp only [hreserve, Prod.mk.injEq, and_true] at h
    exact ⟨leases, use, rfl, h.symm⟩

variable {request : PrepareInstanceRequest}

theorem validateRequest_ok
    (h : (validateRequest request : Service S Unit).exec world = (after, .ok ())) :
    (validateRequest request : Service S Unit) = pure () ∧ after = world := by
  unfold validateRequest raiseIf at h ⊢
  split at h
  · cases h
  · rename_i hpassed
    rw [if_neg hpassed]
    cases h
    exact ⟨rfl, rfl⟩

variable {profile : OCSProfile}

theorem validatedLease_ok
    {actionBinding : String}
    (h : (validatedLease request profile actionBinding : Service S AuthorityLease).exec world =
      (after, .ok lease)) :
    after = { world with clock := fun index => world.clock (index + 1) } ∧
      world.leases.leases.lookup request.leaseId = some lease := by
  unfold validatedLease at h
  rw [exec_tick_bind, exec_read_bind] at h
  obtain ⟨-, h⟩ := raiseIf_bind_ok h
  obtain ⟨middle, found, hfound, h⟩ := exec_bind_eq_ok h
  obtain ⟨rfl, hlookup⟩ := leaseFor_ok hfound
  split at h
  · cases h
  · cases h
    exact ⟨rfl, hlookup⟩

variable {binding : InstanceBinding} {actionType actionId idempotencyKey : String}

theorem exec_reserveActionLease
    {use : String × ℕ}
    (h : world.leases.reserveUse (world.clock 0) (world.clock 1)
      (leaseEnvelope request profile lease binding actionType actionId idempotencyKey) =
        (leases, .ok use)) :
    (reserveActionLease request profile lease binding actionType actionId
      idempotencyKey : Service S Unit).exec world =
        ({ world with leases := leases, clock := fun index => world.clock (index + 2) },
          .ok ()) := by
  unfold reserveActionLease
  rw [exec_tick_bind, exec_tick_bind]
  exact exec_reserveUse h

theorem reserveActionLease_ok
    (h : (reserveActionLease request profile lease binding actionType actionId
      idempotencyKey : Service S Unit).exec world = (after, .ok ())) :
    ∃ leases use, world.leases.reserveUse (world.clock 0) (world.clock 1)
        (leaseEnvelope request profile lease binding actionType actionId idempotencyKey) =
          (leases, .ok use) ∧
      after = { world with
        leases := leases, clock := fun index => world.clock (index + 2) } := by
  unfold reserveActionLease at h
  rw [exec_tick_bind, exec_tick_bind] at h
  obtain ⟨leases, use, hreserve, rfl⟩ := reserveUse_ok h
  exact ⟨leases, use, hreserve, rfl⟩

theorem leaseEnvelope_congr
    {lease' : AuthorityLease} {binding' : InstanceBinding} (hterms : lease.SameTerms lease')
    (hfixed : binding'.fixed = binding.fixed) :
    leaseEnvelope request profile lease' binding' actionType actionId idempotencyKey =
      leaseEnvelope request profile lease binding actionType actionId idempotencyKey := by
  have hcreated : binding'.createdAt = binding.createdAt :=
    InstanceBinding.column_of_fixed hfixed (·.createdAt) fun _ => rfl
  have hid : binding'.bindingId = binding.bindingId :=
    InstanceBinding.column_of_fixed hfixed (·.bindingId) fun _ => rfl
  rw [leaseEnvelope, leaseEnvelope, hcreated, hid, hterms]

/-! ## Envelopes -/

theorem exec_envelope_prepared (profile : OCSProfile)
    (lease : AuthorityLease) (nonce : String) (hprepared : binding.status = .prepared)
    (world : World S) :
    (envelope binding profile lease nonce).exec world =
      (world, .ok (bootstrapEnvelope binding profile lease nonce binding.checkpointVersion
        binding.checkpointHash)) := by
  unfold envelope
  rw [if_pos hprepared]
  rfl

theorem exec_envelope_first (profile : OCSProfile)
    (lease : AuthorityLease) (nonce : String) (hbegun : binding.status ≠ .prepared)
    (hfirst : binding.predecessorBindingId = none) (world : World S) :
    (envelope binding profile lease nonce).exec world =
      (world, .ok (bootstrapEnvelope binding profile lease nonce 0 none)) := by
  unfold envelope
  rw [if_neg hbegun, hfirst]
  rfl

theorem sealed_ok {provisional : InstanceBinding} {nonce : String} {signed : InstanceBootstrapEnvelope}
    (hprepared : provisional.status = .prepared)
    (h : (sealed config provisional profile lease nonce).exec world =
      (after, .ok (binding, signed))) :
    after = world ∧ binding = { provisional with bootstrapHash := config.digest signed } ∧
      signed = bootstrapEnvelope provisional profile lease nonce
        provisional.checkpointVersion provisional.checkpointHash := by
  unfold sealed at h
  rw [exec_bind_ok (exec_envelope_prepared _ _ _ hprepared _)] at h
  dsimp only at h
  rw [exec_bind_ok (exec_envelope_prepared _ _ _ (by exact hprepared) _)] at h
  cases h
  exact ⟨rfl, rfl, rfl⟩

/-! ## The registry -/

theorem exec_onStore (method : Script InstanceStore InstanceError A) (world : World S) :
    (onStore method : Service S A).exec world =
      ({ world with store := (method.exec world.store).1 },
        (method.exec world.store).2) := exec_on ..

theorem onStore_ok {method : Script InstanceStore InstanceError A} {value : A}
    (h : (onStore method : Service S A).exec world = (after, .ok value)) :
    ∃ store, method.exec world.store = (store, .ok value) ∧
      after = { world with store := store } := by
  rw [exec_onStore, Prod.mk.injEq] at h
  exact ⟨(method.exec world.store).1, Prod.ext rfl h.2, h.1.symm⟩

theorem get_ok {bindingId : String}
    (h : (onStore (get bindingId) : Service S InstanceBinding).exec world =
      (after, .ok binding)) :
    after = world ∧ world.store.row bindingId = some binding := by
  obtain ⟨store, hget, rfl⟩ := onStore_ok h
  rw [exec_get, Prod.mk.injEq] at hget
  obtain ⟨rfl, hrow⟩ := hget
  cases hfound : world.store.row bindingId with
  | none => simp [hfound] at hrow
  | some found =>
    simp only [hfound, Option.elim_some, Except.ok.injEq] at hrow
    exact ⟨rfl, by rw [hrow]⟩

theorem create_fresh {store written : InstanceStore} {stored : InstanceBinding}
    (hnew : store.byIdempotency binding.idempotencyKey = none)
    (h : (create binding).exec store = (written, .ok stored)) :
    stored = binding ∧ insertCreated binding store = .ok written := by
  rcases create_cases binding store with ⟨error, hraised⟩ |
    ⟨recovered, hrecovered, -⟩ | ⟨-, -, -, -, -, inserted, hinserted, hcreated⟩
  · rw [hraised] at h
    cases h
  · rw [hnew] at hrecovered
    cases hrecovered
  · rw [hcreated] at h
    cases h
    exact ⟨rfl, hinserted⟩

/-- The first transition of a row moves it: the journal holds no other to answer from. -/
theorem transition_first {store written : InstanceStore}
    {arguments : InstanceStore.Transition} {current moved : InstanceBinding}
    (hjournaled : store.Journaled) (hrow : store.row arguments.bindingId = some current)
    (hfirst : current.version = 1) (htarget : arguments.target ≠ current.status)
    (h : (transition arguments).exec store = (written, .ok moved)) :
    moved = arguments.columns current ∧ written.row arguments.bindingId = some moved := by
  obtain ⟨hmem, hid⟩ := (row_eq_some hjournaled.ids).mp hrow
  rcases transition_cases arguments store with ⟨error, hraised⟩ |
    ⟨replay, -, hreplay, hreplays, -⟩ |
    ⟨-, found, inserted, hfound, hversion, -, hinserted, hmoved⟩
  · rw [hraised] at h
    cases h
  · simp only [InstanceStore.Transition.replays, Bool.and_eq_true, decide_eq_true_eq]
      at hreplays
    have hentry : replay ∈ store.entriesOf current.bindingId := by
      rw [entriesOf, List.mem_filter]
      exact ⟨List.mem_of_find?_eq_some hreplay, by simp [hreplays, hid]⟩
    have hcount : (store.entriesOf current.bindingId).length = 1 := by
      have hversions := hjournaled.faithful.versions current hmem
      rw [← List.length_map (·.bindingVersion), hversions, List.length_range', hfirst]
    obtain ⟨only, honly⟩ := List.length_eq_one_iff.mp hcount
    have hlast := hjournaled.faithful.current current hmem
    rw [honly] at hentry hlast
    rw [← List.mem_singleton.mp hentry] at hlast
    simp only [List.getLast?_singleton, Option.map_some, Option.some.injEq, hreplays]
      at hlast
    exact absurd hlast htarget
  · rw [hmoved] at h
    cases h
    rw [hrow] at hfound
    cases hfound
    exact ⟨rfl, row_transitioned hinserted hrow hversion⟩

/-! ## Identity and Hazel -/

end ReisOs.Instances
