import ReisOs.Command.LostAcknowledgement

/-!
# What a persisted state rests on

The adapter answers a key that it has recorded with the recorded readback, and leaves the
version that the decision expected to the decision.  Where neither matters, what it
reports as persisted has been accepted by Hazel.
-/

namespace ReisOs.Command

open ReisOs.Core

variable {N : Type} {library : HazelLibrary N}

/-- The run, version and state that a request is about. -/
structure SameContent (left right : AuthorizedPersistRequest N) : Prop where
  runId : left.runId = right.runId
  ocs : left.ocs = right.ocs
  stateVersion : left.stateVersion = right.stateVersion
  state : ∀ name, left.state.lookup name = right.state.lookup name

/-- The write of a request, up to the causality beside its key. -/
structure WriteOf (request : AuthorizedPersistRequest N) (write : HazelWrite N) : Prop where
  runId : write.runId = request.runId
  ocs : write.ocs = request.ocs
  stateVersion : write.stateVersion = request.stateVersion
  state : ∀ name, name ≠ "command_causality" →
    write.payload.lookup name = request.state.lookup name
  key : causalityKey write.payload = some (.string request.idempotencyKey)

/-- Hazel has accepted the write of the call on top of the version that its decision
expected. -/
def Backed (hazel : Hazel N) (call : PersistCall N) : Prop :=
  ∃ before write after, hazel = before ++ write :: after ∧ WriteOf call.request write ∧
    Hazel.version before write.runId write.ocs = call.decision.expectedStateVersion ∧
    write.stateVersion = call.decision.expectedStateVersion + 1

theorem writeOf_write (library : HazelLibrary N) (decision : KernelDecision)
    (request : AuthorizedPersistRequest N) :
    WriteOf request (request.write library decision) where
  runId := rfl
  ocs := rfl
  stateVersion := rfl
  state name hname := by
    rw [AuthorizedPersistRequest.write, Dict.lookup_insert_eq, if_neg hname]
  key := by
    rw [causalityKey, AuthorizedPersistRequest.write, Dict.lookup_insert_eq, if_pos rfl]
    rfl

theorem WriteOf.of_same {left right : AuthorizedPersistRequest N} {write : HazelWrite N}
    (h : WriteOf left write) (hsame : SameContent left right)
    (hkey : left.idempotencyKey = right.idempotencyKey) : WriteOf right write where
  runId := h.runId.trans hsame.runId
  ocs := h.ocs.trans hsame.ocs
  stateVersion := h.stateVersion.trans hsame.stateVersion
  state name hname := (h.state name hname).trans (hsame.state name)
  key := by
    rw [h.key, hkey]

variable {call : PersistCall N}

theorem Backed.grow {hazel : Hazel N} (h : Backed hazel call)
    (more : List (HazelWrite N)) : Backed (hazel ++ more) call := by
  obtain ⟨before, write, after, rfl, hwrite⟩ := h
  refine ⟨before, write, after ++ more, ?_, hwrite⟩
  rw [List.append_assoc, List.cons_append]

theorem Backed.of_same {hazel : Hazel N} {previous : PersistCall N}
    (h : Backed hazel previous) (hsame : SameContent previous.request call.request)
    (hkey : previous.request.idempotencyKey = call.request.idempotencyKey)
    (hexpected : call.request.stateVersion = call.decision.expectedStateVersion + 1) :
    Backed hazel call := by
  obtain ⟨before, write, after, hsplit, hwrite, hversion, hnext⟩ := h
  have hmine := hwrite.of_same hsame hkey
  have hstated := hmine.stateVersion
  refine ⟨before, write, after, hsplit, hmine, ?_, ?_⟩
  · rw [hversion]
    omega
  · omega

theorem backed_of_accepts {hazel : Hazel N}
    (haccepts : hazel.Accepts library (call.request.write library call.decision))
    (hexpected : call.request.stateVersion = call.decision.expectedStateVersion + 1) :
    Backed (hazel ++ [call.request.write library call.decision]) call := by
  have hstated : (call.request.write library call.decision).stateVersion =
      call.request.stateVersion := rfl
  have hnext := haccepts.1
  refine ⟨hazel, _, [], rfl, writeOf_write library call.decision call.request, ?_, ?_⟩
  · omega
  · omega

namespace Continuity

/-- What has been reported as persisted has been accepted by Hazel as requested and
expected, and no key was reported with two contents. -/
def Sound (world : Continuity N) : Prop :=
  ∀ earlier call later, world.proven = earlier ++ call :: later →
    Backed world.hazel call ∧ ∀ previous ∈ earlier,
      previous.request.idempotencyKey = call.request.idempotencyKey →
        SameContent previous.request call.request

/-- A call that is authorized and bound asks for the version after the one its decision
expects, and repeats a proven key only with the content proven for it. -/
def Allowed (world : Continuity N) (call : PersistCall N) : Prop :=
  call.decision.authorized = true → validateBinding call.decision call.request = .ok () →
    call.request.stateVersion = call.decision.expectedStateVersion + 1 ∧
      ∀ previous ∈ world.proven,
        previous.request.idempotencyKey = call.request.idempotencyKey →
          SameContent previous.request call.request

/-- Recorded keys are keys of proven calls. -/
structure Grounded (world : Continuity N) : Prop where
  sound : world.Sound
  recorded : ∀ key readback, world.recorded.lookup key = some readback →
    ∃ call ∈ world.proven, call.request.idempotencyKey = key

theorem grounded_empty : (empty : Continuity N).Grounded where
  sound earlier call later h := by
    have hlength := congrArg List.length h
    simp [empty] at hlength
  recorded key readback h := by
    cases h

variable {world : Continuity N}

theorem Grounded.grow (h : world.Grounded)
    (more own : List (HazelWrite N)) :
    (⟨world.hazel ++ more, world.recorded, own, world.proven⟩ : Continuity N).Grounded where
  sound earlier call later hsplit :=
    ⟨(h.sound earlier call later hsplit).1.grow more,
      (h.sound earlier call later hsplit).2⟩
  recorded := h.recorded

theorem Grounded.others {world : Continuity N} (h : world.Grounded)
    (writes : List (HazelWrite N)) : (world.others library writes).Grounded := by
  obtain ⟨more, hmore⟩ := @Hazel.exists_submitAll N library world.hazel writes
  rw [Continuity.others, hmore]
  exact h.grow more world.own

theorem Grounded.prove (h : world.Grounded) {call : PersistCall N}
    (hbacked : Backed world.hazel call)
    (hsame : ∀ previous ∈ world.proven,
      previous.request.idempotencyKey = call.request.idempotencyKey →
        SameContent previous.request call.request)
    {recorded : Dict String HazelPersistReadback}
    (hrecorded : ∀ key readback, recorded.lookup key = some readback →
      key = call.request.idempotencyKey ∨ world.recorded.lookup key = some readback) :
    (⟨world.hazel, recorded, world.own, world.proven ++ [call]⟩ : Continuity N).Grounded := by
  constructor
  · intro earlier other later hsplit
    rcases List.eq_nil_or_concat later with rfl | ⟨later, final, rfl⟩
    · obtain ⟨rfl, hlast⟩ := List.append_inj' hsplit rfl
      cases hlast
      exact ⟨hbacked, hsame⟩
    · have hshift : earlier ++ other :: (later ++ [final]) =
          (earlier ++ other :: later) ++ [final] := by simp
      rw [List.concat_eq_append, hshift] at hsplit
      exact h.sound earlier other later (List.append_inj' hsplit rfl).1
  · intro key readback hlookup
    rcases hrecorded key readback hlookup with rfl | hold
    · exact ⟨call, List.mem_append_right _ List.mem_cons_self, rfl⟩
    · obtain ⟨previous, hmem, hkey⟩ := h.recorded key readback hold
      exact ⟨previous, List.mem_append_left _ hmem, hkey⟩

theorem Grounded.taken {world : Continuity N} (h : world.Grounded) (call : PersistCall N)
    (before after : List (HazelWrite N)) :
    (world.taken library call before after).Grounded := by
  obtain ⟨first, hfirst⟩ := @Hazel.exists_submitAll N library world.hazel before
  obtain ⟨last, hlast⟩ := @Hazel.exists_submitAll N library
    (world.hazel.submitAll library before ++ [call.request.write library call.decision]) after
  rw [Continuity.taken, hlast, hfirst, List.append_assoc, List.append_assoc]
  exact h.grow _ _

theorem Grounded.step (h : world.Grounded) {call : PersistCall N}
    (hallowed : world.Allowed call) : (world.step library call).Grounded := by
  have houtcome := outcome_persist library world call
  rw [Continuity.step]
  generalize persist library world call = result at houtcome
  cases houtcome with
  | unauthorized writes hauthorized => exact h.others writes
  | stopped writes error => exact h.others writes
  | unproven before after error hfresh haccepts => exact h.taken call before after
  | replayed writes previous hauthorized hbound hrecorded =>
    have hothers := @Grounded.others N library world h writes
    obtain ⟨hexpected, hsame⟩ := hallowed hauthorized hbound
    obtain ⟨proven, hmem, hkey⟩ := h.recorded _ _ hrecorded
    obtain ⟨earlier, later, hsplit⟩ := List.append_of_mem hmem
    have hbacked := (hothers.sound earlier proven later hsplit).1
    by_cases hpersisted : previous.persisted = true
    · simp only [if_pos hpersisted]
      exact hothers.prove (hbacked.of_same (hsame proven hmem hkey) hkey hexpected) hsame
        fun key readback hlookup => Or.inr hlookup
    · simp only [if_neg hpersisted]
      exact hothers
  | proven before after receipt hfresh haccepts =>
    have htaken := @Grounded.taken N library world h call before after
    obtain ⟨hexpected, hsame⟩ := hallowed hfresh.authorized hfresh.bound
    obtain ⟨last, hlast⟩ := @Hazel.exists_submitAll N library
      (world.hazel.submitAll library before ++
        [call.request.write library call.decision]) after
    have hbacked : Backed (world.taken library call before after).hazel call := by
      have hgrown := (backed_of_accepts haccepts hexpected).grow last
      rw [← hlast] at hgrown
      exact hgrown
    apply htaken.prove hbacked hsame
    intro key readback hlookup
    rw [Dict.lookup_insert_eq] at hlookup
    by_cases hkey : key = call.request.idempotencyKey
    · exact Or.inl hkey
    · rw [if_neg hkey] at hlookup
      exact Or.inr hlookup

/-- In every run whose calls ask for the version their decisions expect and repeat
proven keys with the proven content, what is reported as persisted is sound. -/
theorem persisted_sound_of_admissible {calls : List (PersistCall N)}
    (h : Admissible (step library) Allowed empty calls) :
    ∀ before, before <+: calls → (run (step library) empty before).Sound := by
  intro before hbefore
  have hgrounded := run_invariant_of_admissible Grounded (fun _ _ hworld hallowed =>
    hworld.step hallowed) grounded_empty (h.of_prefix hbefore)
  exact hgrounded.sound

theorem persisted_sound_initialCall :
    (run (step versionedHazel) empty [initialCall ∅ quiet]).Sound :=
  @persisted_sound_of_admissible _ _ [initialCall ∅ quiet]
    ⟨fun _ _ => ⟨by decide, fun _ h => nomatch h⟩, trivial⟩ _ (List.prefix_refl _)

/-! ## A reused key and an unexpected version -/

/-- A second state with the key of the first write. -/
def reusedCall : PersistCall ℤ := initialCall (Dict.insertAll ∅ [("x", .null)]) quiet

/-- A first write whose decision expects version 41. -/
def unexpectedCall : PersistCall ℤ :=
  { initialCall ∅ quiet with decision := ⟨.allow, true, "s", 41, "k", "c", none, "t", "a"⟩ }

theorem reused_key_not_sound :
    ¬(run (step versionedHazel) empty [initialCall ∅ quiet, reusedCall]).Sound ∧
      ¬(run (step versionedHazel) empty [unexpectedCall]).Sound := by
  constructor
  · intro h
    have hcontent := (h [initialCall ∅ quiet] reusedCall [] (by rfl)).2 _
      List.mem_cons_self rfl
    have hstate : none = some (Json.null : Json ℤ) := hcontent.state "x"
    cases hstate
  · intro h
    obtain ⟨before, write, after, hsplit, hwrite, hversion, hnext⟩ :=
      (h [] unexpectedCall [] (by rfl)).1
    have hstated : write.stateVersion = 1 := hwrite.stateVersion
    have hexpected : write.stateVersion = 42 := hnext
    omega

end Continuity

end ReisOs.Command
