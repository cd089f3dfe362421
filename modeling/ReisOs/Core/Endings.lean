import ReisOs.Core.Scripts

/-!
# How a script ends

A script that runs by itself ends with an answer or with an error; `Ends` says what holds
in the one case and in the other.  The rules follow the way scripts are built.
-/

namespace ReisOs.Core.Script

variable {W E A B : Type}

/-- Run from the world, the script ends with an answer as `Good` says, or with an error as
`Bad` says. -/
def Ends (script : Script W E A) (world : W) (Good : A → W → Prop) (Bad : E → W → Prop) :
    Prop :=
  match script.exec world with
  | (after, .ok value) => Good value after
  | (after, .error error) => Bad error after

variable {script : Script W E A} {world after : W} {Good Good' : A → W → Prop}
  {Bad Bad' : E → W → Prop} {Final : B → W → Prop}

variable {value : A}

theorem ends_of_ok (hexec : script.exec world = (after, .ok value)) :
    script.Ends world Good Bad ↔ Good value after := by
  rw [Ends, hexec]

theorem ends_of_error {error : E} (hexec : script.exec world = (after, .error error)) :
    script.Ends world Good Bad ↔ Bad error after := by
  rw [Ends, hexec]

theorem ends_congr {other : Script W E A} {world' : W}
    (hexec : script.exec world = other.exec world') :
    script.Ends world Good Bad ↔ other.Ends world' Good Bad := by
  rw [Ends, Ends, hexec]

theorem ends_trivial (script : Script W E A) (world : W) :
    script.Ends world (fun _ _ => True) fun _ _ => True := by
  unfold Ends
  split <;> trivial

theorem ends_pure (h : Good value world) :
    (pure value : Script W E A).Ends world Good Bad := h

theorem ends_act {f : W → W × Except E A}
    (hgood : ∀ value, (f world).2 = .ok value → Good value (f world).1)
    (hbad : ∀ error, (f world).2 = .error error → Bad error (f world).1) :
    (act f).Ends world Good Bad := by
  cases hanswer : (f world).2 with
  | ok value =>
    rw [ends_of_ok (show (act f).exec world = ((f world).1, .ok value) from
      Prod.ext rfl hanswer)]
    exact hgood value hanswer
  | error error =>
    rw [ends_of_error (show (act f).exec world = ((f world).1, .error error) from
      Prod.ext rfl hanswer)]
    exact hbad error hanswer

theorem Ends.imp (h : script.Ends world Good Bad)
    (hgood : ∀ value now, Good value now → Good' value now)
    (hbad : ∀ error now, Bad error now → Bad' error now) :
    script.Ends world Good' Bad' := by
  unfold Ends at h ⊢
  split
  · next after value hexec =>
      rw [hexec] at h
      exact hgood value after h
  · next after error hexec =>
      rw [hexec] at h
      exact hbad error after h

variable {rest : A → Script W E B}

theorem Ends.bind (h : script.Ends world Good Bad)
    (hrest : ∀ value now, Good value now → (rest value).Ends now Final Bad) :
    (script >>= rest).Ends world Final Bad := by
  cases hexec : script.exec world with
  | mk after answer =>
    cases answer with
    | ok value =>
      rw [Ends, exec_bind_ok hexec]
      exact hrest value after ((ends_of_ok hexec).mp h)
    | error error =>
      rw [Ends, exec_bind_error hexec]
      exact (ends_of_error hexec).mp h

theorem Ends.handle {handler : E → Script W E A} (h : script.Ends world Good Bad)
    (hhandler : ∀ error now, Bad error now → (handler error).Ends now Good Bad') :
    (script.handle fun error => some (handler error)).Ends world Good Bad' := by
  rw [Ends, exec_handle]
  cases hexec : script.exec world with
  | mk after answer =>
    cases answer with
    | ok value => exact (ends_of_ok hexec).mp h
    | error error => exact hhandler error after ((ends_of_error hexec).mp h)

/-! ## Scripts that answer -/

/-- Run from the world, the script ends with an answer as `Good` says. -/
def Answers (script : Script W E A) (world : W) (Good : A → W → Prop) : Prop :=
  ∃ value after, script.exec world = (after, .ok value) ∧ Good value after

theorem answers_of_exec (hexec : script.exec world = (after, .ok value))
    (h : Good value after) : script.Answers world Good :=
  ⟨value, after, hexec, h⟩

theorem answers_pure (h : Good value world) :
    (pure value : Script W E A).Answers world Good :=
  answers_of_exec rfl h

theorem Answers.bind (h : script.Answers world Good)
    (hrest : ∀ value now, Good value now → (rest value).Answers now Final) :
    (script >>= rest).Answers world Final := by
  obtain ⟨value, after, hexec, hvalue⟩ := h
  obtain ⟨last, final, hfinal, hlast⟩ := hrest value after hvalue
  exact ⟨last, final, (exec_bind_ok hexec).trans hfinal, hlast⟩

theorem answers_bind_of_exec
    (hexec : script.exec world = (after, .ok value))
    (hrest : (rest value).Answers after Final) : (script >>= rest).Answers world Final := by
  obtain ⟨last, final, hfinal, hlast⟩ := hrest
  exact ⟨last, final, (exec_bind_ok hexec).trans hfinal, hlast⟩

theorem answers_raiseIf_bind {condition : Prop} [Decidable condition] {error : E}
    {rest : Unit → Script W E B} (h : ¬ condition)
    (hrest : (rest ()).Answers world Final) :
    (raiseIf condition error >>= rest).Answers world Final := by
  apply answers_bind_of_exec _ hrest
  rw [raiseIf, if_neg h]
  rfl

end ReisOs.Core.Script
