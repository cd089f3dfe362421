import ReisOs.Instances.LineageSafety

/-!
# Preparations under the discipline

The preparation of a first generation obeys the discipline of the lineages too: it is the
one call whose steps need what the steps before them have found.
-/

namespace ReisOs.Instances

open ReisOs.Core ReisOs.Kernel World Script

variable {S : Type} {world now : World S} (config : BinderConfig S)

/-! ## Preparing -/

theorem safe_recoverOrPersist [DecidableEq S] (binding : InstanceBinding)
    (hworld : registry.Inv world) (hseen : world.store.Seen binding) :
    (recoverOrPersist config binding).Safe registry
      (fun record now => Learned binding.runId record now) world := by
  unfold recoverOrPersist
  apply Safe.handle _ hworld
  · intro error other now hother hnow hgrows
    split at hother
    · cases hother
      unfold persistPrepared
      apply (safe_persistState config _ hnow _).bind hnow
      · intro receipt later hlater _ _
        apply (safe_recoverState config _ hlater).bind hlater
        intro recovered found hfound _ hlearned
        apply safe_raiseIf_bind
        intro _
        exact hlearned
      · intro prepared hprepared
        refine ⟨rfl, rfl, binding, hseen.grows hgrows.1, ?_, rfl⟩
        exact congrArg HazelPayload.bindingId hprepared
    · cases hother
  · apply (safe_recoverState config _ hworld).bind hworld
    intro recovered found hfound _ hlearned
    apply safe_raiseIf_bind
    intro _
    exact hlearned

theorem safe_ensureHazel [DecidableEq S] (binding : InstanceBinding)
    (request : PrepareInstanceRequest) (hworld : registry.Inv world)
    (hseen : world.store.Seen binding) :
    (ensureHazel config binding request).Safe registry (fun _ _ => True) world := by
  unfold ensureHazel
  apply ((safe_recoverOrPersist config binding hworld hseen).since
    (registryRule.refl _)).bind hworld
  intro recovered now hnow _ hlearned
  have hread : (raiseIf (recovered.payload ≠ some (preparedState binding))
      (.binding "hazel_prepare_readback_mismatch") : Service S Unit).Safe registry
      (fun _ now => now.store.Genesis binding.bindingId ∧
        (now.hazel.lookup binding.runId).isSome ∧ now.store.Seen binding) now :=
    safe_raiseIf fun hpassed => ⟨hlearned.1.2 binding (not_not.mp hpassed), hlearned.1.1,
      hseen.grows hlearned.2.1⟩
  apply hread.bind hnow
  intro _ later hlater _ hready
  apply safe_transition _ hlater
  · simp [InstanceStore.inTransition]
  · intro _
    obtain ⟨⟨first, hfirst, hid, hlink⟩, hknown, row, hrow, hadvances⟩ := hready
    have hsame : first = row := List.inj_on_of_nodup_map hlater.1.ids hfirst hrow
      (hid.trans hadvances.bindingId.symm)
    refine ⟨first, hfirst, hid, hlink, ?_⟩
    rw [hsame, hadvances.runId]
    exact hknown

theorem safe_activeIdentity (request : PrepareInstanceRequest) (runId : String)
    (hworld : registry.Inv world) :
    (activeIdentity config request runId).Safe registry (fun _ _ => True) world := by
  have hvalid : Obeys registry (onGuard .kernel (fun guard =>
      guard.requireValid config.hazel.identity runId request.ocsId .coldStart
        (some request.host)) : Service S ActiveIdentityBinding) :=
    ⟨fun _ _ => safe_onGuard (fun guard h => h.requireValid ..) (fun _ _ _ _ => trivial)⟩
  have hidentity : Obeys registry (activeIdentity config request runId) := by
    unfold activeIdentity
    apply (obeys_read _).bind
    intro found
    cases found with
    | some active => exact hvalid
    | none =>
      apply AllowsOwn.tick.bind
      intro now
      apply Obeys.bind _ fun _ => hvalid
      constructor
      intro world hworld
      apply safe_onGuard (Q := fun _ => True)
      · intro guard h
        split
        · exact h
        · rename_i bound hbound
          exact h.bindActiveIdentity hbound
      · intro guard value h hok
        trivial
  exact hidentity.safe world hworld

theorem safe_replayPrepare [DecidableEq S] (request : PrepareInstanceRequest)
    (profile : OCSProfile) (recovered : InstanceBinding) (hworld : registry.Inv world)
    (hseen : world.store.Seen recovered) :
    (replayPrepare config request profile recovered).Safe registry (fun _ _ => True)
      world := by
  unfold replayPrepare
  apply ((obeys_leaseFor _).safe world hworld).bind hworld
  intro lease leased hleased hgrows _
  apply ((obeys_raiseIf _ _).safe leased hleased).bind hleased
  intro _ matched hmatched hmatches _
  apply ((obeys_envelope ..).safe matched hmatched).bind hmatched
  intro replayed signed hsigned hsigns _
  apply ((obeys_raiseIf _ _).safe signed hsigned).bind hsigned
  intro _ verified hverified hverifies _
  apply ((obeys_reconcileBindingLease ..).safe verified hverified).bind hverified
  intro _ reconciled hreconciled hreconciles _
  have hnow : reconciled.store.Seen recovered :=
    hseen.grows (hgrows.1.trans (hmatches.1.trans (hsigns.1.trans
      (hverifies.1.trans hreconciles.1))))
  split
  · apply (safe_ensureHazel config recovered request hreconciled hnow).bind hreconciled
    intro durable _ _ _ _
    trivial
  · trivial

theorem safe_prepareNew [DecidableEq S] (request : PrepareInstanceRequest)
    (profile : OCSProfile) (hworld : registry.Inv world) :
    (prepareNew config request profile).Safe registry (fun _ _ => True) world := by
  unfold prepareNew
  apply ((obeys_validatedLease ..).safe world hworld).bind hworld
  intro lease leased hleased _ _
  apply (safe_activeIdentity config request _ hleased).bind hleased
  intro active identified hidentified _ _
  apply safe_read_bind
  intro counted hcounted _
  have hlatest := InstanceStore.latest_or_occupied counted.store request.organizationId
    request.missionId request.ocsId
  revert hlatest
  generalize counted.store.latestGeneration request.organizationId request.missionId
    request.ocsId = latest
  intro hlatest
  apply (AllowsOwn.tick.safe counted hcounted).bind hcounted
  intro now ticked hticked hticks _
  apply ((safe_sealed config _ _ _ _ hticked).since (registryRule.refl _)).bind hticked
  intro answer found hfound _ hsealed
  obtain ⟨binding, signed⟩ := answer
  obtain ⟨⟨bootstrapHash, hbinding⟩, hseals⟩ := hsealed
  dsimp only at hbinding
  subst hbinding
  apply ((obeys_reserveActionLease ..).safe found hfound).bind hfound
  intro _ reserved hreserved hreserves _
  refine Safe.bind (safe_create _ hreserved ?_) hreserved ?_
  · intro _
    rcases hlatest with hzero | hoccupied
    · left
      change latest + 1 = 1
      rw [hzero]
    · exact .inr (hoccupied.grows (hticks.1.trans (hseals.1.trans hreserves.1)))
  intro stored created hcreated _ hstored
  apply ((AllowsOwn.finalize _).safe created hcreated).bind hcreated
  intro _ finalized hfinalized hfinalizes _
  apply (safe_ensureHazel config stored request hfinalized
    (hstored.grows hfinalizes.1)).bind hfinalized
  intro durable _ _ _ _
  trivial

theorem obeys_prepare [DecidableEq S] (request : PrepareInstanceRequest) :
    Obeys registry (prepare config request) := by
  unfold prepare
  apply (obeys_validateRequest _).bind
  intro _
  cases config.profiles.lookup request.ocsId with
  | none => exact obeys_raise _
  | some profile =>
    constructor
    intro world hworld
    apply safe_read_bind
    intro now hnow _
    cases hfound : now.store.byIdempotency request.idempotencyKey with
    | some recovered =>
      exact safe_replayPrepare config request profile recovered hnow
        (.of_mem (List.mem_of_find?_eq_some hfound))
    | none => exact safe_prepareNew config request profile hnow

end ReisOs.Instances
