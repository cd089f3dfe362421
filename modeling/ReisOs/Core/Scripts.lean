import Mathlib.Data.Nat.Notation
import Mathlib.Tactic.TypeStar

/-!
# Procedures in atomic steps

A `Script` touches a shared world in atomic steps, each of which reads the world it
finds, and ends with an answer or an error.  It can run to its end, stop after any
number of steps as a crash leaves it, or run while others change the world between
its steps.
-/

namespace ReisOs.Core

/-- `step effect next`: one atomic step, whose continuation depends on the world
before it. -/
inductive Script (W E A : Type) where
  | done (answer : Except E A)
  | step (effect : W → W) (next : W → Script W E A)

/-- A part of a world that can be read and replaced. -/
structure Lens (W S : Type) where
  get : W → S
  set : W → S → W
  get_set : ∀ world state, get (set world state) = state
  set_set : ∀ world state later, set (set world state) later = set world later
  set_get : ∀ world, set world (get world) = world

namespace Script

variable {W E A B : Type}

/-! ## Building scripts -/

def bind : Script W E A → (A → Script W E B) → Script W E B
  | done (.error error), _ => done (.error error)
  | done (.ok value), rest => rest value
  | step effect next, rest => step effect fun world => (next world).bind rest

/-- Run the handler on the errors for which there is one. -/
def handle : Script W E A → (E → Option (Script W E A)) → Script W E A
  | done (.error error), handler => (handler error).getD (done (.error error))
  | done (.ok value), _ => done (.ok value)
  | step effect next, handler => step effect fun world => (next world).handle handler

instance : Monad (Script W E) where
  pure value := done (.ok value)
  bind := bind

def raise (error : E) : Script W E A := done (.error error)

/-- Raise the error if the condition holds. -/
def raiseIf (condition : Prop) [Decidable condition] (error : E) : Script W E Unit :=
  if condition then raise error else pure ()

def read (f : W → A) : Script W E A := step id fun world => pure (f world)

/-- One atomic step that may fail. -/
def act (f : W → W × Except E A) : Script W E A :=
  step (fun world => (f world).1) fun world => done (f world).2

/-! ## Running to the end -/

def exec : Script W E A → W → W × Except E A
  | done answer, world => (world, answer)
  | step effect next, world => (next world).exec (effect world)

@[simp]
theorem exec_pure (value : A) (world : W) :
    (pure value : Script W E A).exec world = (world, .ok value) := rfl

@[simp]
theorem exec_raise (error : E) (world : W) :
    (raise error : Script W E A).exec world = (world, .error error) := rfl

@[simp]
theorem exec_read (f : W → A) (world : W) :
    (read f : Script W E A).exec world = (world, .ok (f world)) := rfl

@[simp]
theorem exec_act (f : W → W × Except E A) (world : W) : (act f).exec world = f world := rfl

theorem exec_bind (script : Script W E A) (rest : A → Script W E B) (world : W) :
    (script >>= rest).exec world =
      match script.exec world with
      | (after, .ok value) => (rest value).exec after
      | (after, .error error) => (after, .error error) := by
  change (script.bind rest).exec world = _
  induction script generalizing world with
  | done answer =>
    cases answer with
    | ok value => rfl
    | error error => rfl
  | step effect next ih => exact ih world (effect world)

variable {script : Script W E A} {rest : A → Script W E B} {world : W}

theorem exec_bind_ok {after : W}
    {value : A} (h : script.exec world = (after, .ok value)) :
    (script >>= rest).exec world = (rest value).exec after := by
  rw [exec_bind, h]

theorem exec_bind_error
    {after : W} {error : E} (h : script.exec world = (after, .error error)) :
    (script >>= rest).exec world = (after, .error error) := by
  rw [exec_bind, h]

theorem exec_bind_eq_ok {final : W}
    {value : B} (h : (script >>= rest).exec world = (final, .ok value)) :
    ∃ middle first, script.exec world = (middle, .ok first) ∧
      (rest first).exec middle = (final, .ok value) := by
  rw [exec_bind] at h
  cases hscript : script.exec world with
  | mk middle answer =>
    rw [hscript] at h
    cases answer with
    | error error => cases h
    | ok first => exact ⟨middle, first, rfl, h⟩

theorem exec_ok_of_map {f : A → B} {value : B}
    (h : (script.exec world).2.toOption.map f = some value) :
    ∃ answer, script.exec world = ((script.exec world).1, .ok answer) ∧
      f answer = value := by
  cases hanswer : (script.exec world).2 with
  | error error =>
    rw [hanswer] at h
    cases h
  | ok answer =>
    rw [hanswer] at h
    exact ⟨answer, Prod.ext rfl hanswer, Option.some.inj h⟩

@[simp]
theorem exec_raiseIf_bind (condition : Prop) [Decidable condition] (error : E)
    (rest : Unit → Script W E A) (world : W) :
    (raiseIf condition error >>= rest).exec world =
      if condition then (world, .error error) else (rest ()).exec world := by
  unfold raiseIf
  split <;> rfl

@[simp]
theorem exec_read_bind (f : W → A) (rest : A → Script W E B) (world : W) :
    (read f >>= rest).exec world = (rest (f world)).exec world := rfl

theorem exec_handle (script : Script W E A) (handler : E → Option (Script W E A))
    (world : W) :
    (script.handle handler).exec world =
      match script.exec world with
      | (after, .ok value) => (after, .ok value)
      | (after, .error error) =>
        match handler error with
        | none => (after, .error error)
        | some other => other.exec after := by
  induction script generalizing world with
  | done answer =>
    cases answer with
    | ok value => rfl
    | error error => cases hhandler : handler error <;> simp [handle, exec, hhandler]
  | step effect next ih => exact ih world (effect world)

/-! ## Crashing -/

/-- The world that a crash after the given number of steps leaves. -/
def crashed : ℕ → Script W E A → W → W
  | 0, _, world => world
  | _ + 1, done _, world => world
  | count + 1, step effect next, world => (next world).crashed count (effect world)

/-- Wherever the script crashes, the property holds of the world left behind. -/
def Leaves (C : W → Prop) (script : Script W E A) (world : W) : Prop :=
  ∀ count, C (script.crashed count world)

variable {C : W → Prop}

theorem leaves_done {answer : Except E A} (h : C world) :
    (done answer).Leaves C world := by
  intro count
  cases count with
  | zero => exact h
  | succ count => exact h

theorem leaves_step {effect : W → W} {next : W → Script W E A}
    (h : C world) (hnext : (next world).Leaves C (effect world)) :
    (step effect next).Leaves C world := by
  intro count
  cases count with
  | zero => exact h
  | succ count => exact hnext count

theorem leaves_bind (h : script.Leaves C world)
    (hrest : ∀ after value, script.exec world = (after, .ok value) →
      (rest value).Leaves C after) :
    (script >>= rest).Leaves C world := by
  change (script.bind rest).Leaves C world
  induction script generalizing world with
  | done answer =>
    cases answer with
    | ok value => exact hrest world value rfl
    | error error => exact leaves_done (h 0)
  | step effect next ih =>
    apply leaves_step (h 0)
    exact ih world (fun count => h (count + 1)) hrest

theorem leaves_act {f : W → W × Except E A} (h : C world)
    (hafter : C (f world).1) : (act f).Leaves C world :=
  leaves_step h (leaves_done hafter)

theorem leaves_read {f : W → A} (h : C world) :
    (read f : Script W E A).Leaves C world :=
  leaves_step h (leaves_done h)

/-- The script leaves either the world it found or the one it ends in. -/
def Atomic (script : Script W E A) : Prop :=
  ∀ world, script.Leaves (fun left => left = world ∨ left = (script.exec world).1) world

theorem Atomic.leaves (h : script.Atomic) (hbefore : C world) (hafter : C (script.exec world).1) :
    script.Leaves C world := by
  intro count
  rcases h world count with hleft | hleft
  · rw [hleft]
    exact hbefore
  · rw [hleft]
    exact hafter

/-- The script changes nothing. -/
def Reads : Script W E A → Prop
  | done _ => True
  | step effect next => effect = id ∧ ∀ world, (next world).Reads

theorem reads_read (f : W → A) : (read f : Script W E A).Reads := ⟨rfl, fun _ => trivial⟩

theorem reads_pure (value : A) : (pure value : Script W E A).Reads := trivial

theorem reads_raise (error : E) : (raise error : Script W E A).Reads := trivial

theorem reads_raiseIf (condition : Prop) [Decidable condition] (error : E) :
    (raiseIf condition error : Script W E Unit).Reads := by
  unfold raiseIf
  split <;> trivial

theorem Reads.bind (h : script.Reads)
    (hrest : ∀ value, (rest value).Reads) : (script >>= rest).Reads := by
  change (script.bind rest).Reads
  induction script with
  | done answer =>
    cases answer with
    | error error => trivial
    | ok value => exact hrest value
  | step effect next ih => exact ⟨h.1, fun world => ih world (h.2 world)⟩

theorem Reads.exec (h : script.Reads) (world : W) :
    (script.exec world).1 = world := by
  induction script with
  | done answer => rfl
  | step effect next ih =>
    rw [Script.exec, h.1]
    exact ih world (h.2 world)

theorem Reads.crashed (h : script.Reads) (world : W) (count : ℕ) :
    script.crashed count world = world := by
  induction script generalizing count with
  | done answer => cases count <;> rfl
  | step effect next ih =>
    cases count with
    | zero => rfl
    | succ count =>
      rw [Script.crashed, h.1]
      exact ih world (h.2 world) count

theorem Reads.atomic (h : script.Reads) : script.Atomic :=
  fun world count => .inl (h.crashed world count)

theorem atomic_act (f : W → W × Except E A) : (act f).Atomic :=
  fun _ => leaves_act (.inl rfl) (.inr rfl)

theorem Reads.bind_atomic
    (h : script.Reads) (hrest : ∀ value, (rest value).Atomic) :
    (script >>= rest).Atomic := by
  change (script.bind rest).Atomic
  induction script with
  | done answer =>
    cases answer with
    | error error => exact fun world => leaves_done (.inl rfl)
    | ok value => exact hrest value
  | step effect next ih =>
    intro world
    obtain ⟨rfl, hnext⟩ := h
    exact leaves_step (.inl rfl) (ih world (hnext world) world)

theorem Atomic.bind_reads
    (h : script.Atomic) (hrest : ∀ value, (rest value).Reads) :
    (script >>= rest).Atomic := by
  intro world
  have hend : ((script >>= rest).exec world).1 = (script.exec world).1 := by
    rw [exec_bind]
    cases hscript : script.exec world with
    | mk after answer =>
      cases answer with
      | error error => rfl
      | ok value => exact (hrest value).exec after
  rw [hend]
  apply leaves_bind (h world)
  intro after value hvalue count
  right
  rw [(hrest value).crashed, hvalue]

/-! ## Interference -/

/-- Run while the others change the world before each step, from the step of the given
number on.  A crash stops the script before one of its steps and leaves no answer. -/
def amid (others : ℕ → W → W) (stop : Option ℕ) :
    ℕ → Script W E A → W → W × Option (Except E A)
  | _, done answer, world => (world, some answer)
  | index, step effect next, world =>
    if stop = some index then (others index world, none)
    else
      (next (others index world)).amid others stop (index + 1)
        (effect (others index world))

theorem amid_act_bind (others : ℕ → W → W) (stop : Option ℕ) (index : ℕ)
    (f : W → W × Except E A) (rest : A → Script W E B) (world : W) :
    (act f >>= rest).amid others stop index world =
      if stop = some index then (others index world, none)
      else
        match f (others index world) with
        | (after, .ok value) => (rest value).amid others stop (index + 1) after
        | (after, .error error) => (after, some (.error error)) := by
  change ((act f).bind rest).amid others stop index world = _
  simp only [act, bind, amid]
  split
  · rfl
  · cases hf : f (others index world) with
    | mk after answer =>
      cases answer with
      | ok value => simp only [bind]
      | error error => simp only [bind, amid]

theorem amid_alone (script : Script W E A) (index : ℕ) (world : W) :
    script.amid (fun _ => id) none index world =
      ((script.exec world).1, some (script.exec world).2) := by
  induction script generalizing index world with
  | done answer => rfl
  | step effect next ih => exact ih world (index + 1) (effect world)

theorem exec_of_amid {stop : Option ℕ} {index : ℕ}
    {after : W} {answer : Except E A}
    (h : script.amid (fun _ => id) stop index world = (after, some answer)) :
    script.exec world = (after, answer) := by
  induction script generalizing index world with
  | done final =>
    cases h
    rfl
  | step effect next ih =>
    rw [amid] at h
    by_cases hstop : stop = some index
    · rw [if_pos hstop] at h
      cases h
    · rw [if_neg hstop] at h
      exact ih world h

/-! ## Transactions in statements -/

/-- Run the statements on a working copy of the world, which is kept if they return a
value.  The statement of the given number fails; it leaves no answer. -/
def transact (statements : Script W E A) (failing : Option ℕ) (world : W) :
    W × Option (Except E A) :=
  match statements.amid (fun _ => id) failing 0 world with
  | (working, some (.ok value)) => (working, some (.ok value))
  | (_, outcome) => (world, outcome)

theorem transact_cases (statements : Script W E A) (failing : Option ℕ) (world : W) :
    (∃ after value, statements.exec world = (after, .ok value) ∧
        statements.transact failing world = (after, some (.ok value))) ∨
      (statements.transact failing world).1 = world ∧
        ∀ value, (statements.transact failing world).2 ≠ some (.ok value) := by
  unfold transact
  cases hrun : statements.amid (fun _ => id) failing 0 world with
  | mk working outcome =>
    cases outcome with
    | none => exact .inr ⟨rfl, fun value => by simp⟩
    | some answer =>
      cases answer with
      | error error => exact .inr ⟨rfl, fun value => by simp⟩
      | ok value => exact .inl ⟨working, value, exec_of_amid hrun, rfl⟩

theorem transact_alone (statements : Script W E A) (world : W) :
    (statements.transact none world).2 = some (statements.exec world).2 := by
  rw [transact, amid_alone]
  cases (statements.exec world).2 with
  | error error => rfl
  | ok value => rfl

/-! ## Parts of a world -/

variable {S : Type}

/-- A script over a part of the world, as a script over the world. -/
def on (part : Lens W S) : Script S E A → Script W E A
  | done answer => done answer
  | step effect next =>
    step (fun world => part.set world (effect (part.get world)))
      fun world => (next (part.get world)).on part

@[simp]
theorem on_pure (part : Lens W S) (value : A) :
    (pure value : Script S E A).on part = pure value := rfl

@[simp]
theorem on_raise (part : Lens W S) (error : E) :
    (raise error : Script S E A).on part = raise error := rfl

@[simp]
theorem on_raiseIf (part : Lens W S) (condition : Prop) [Decidable condition] (error : E) :
    (raiseIf condition error).on part = raiseIf condition error := by
  unfold raiseIf
  split <;> rfl

@[simp]
theorem on_read (part : Lens W S) (f : S → A) :
    (read f : Script S E A).on part = read fun world => f (part.get world) := by
  have hid : (fun world => part.set world (part.get world)) = id := by
    funext world
    exact part.set_get world
  change step (fun world => part.set world (part.get world)) _ = _
  rw [hid]
  rfl

@[simp]
theorem on_act (part : Lens W S) (f : S → S × Except E A) :
    (act f).on part =
      act fun world => (part.set world (f (part.get world)).1, (f (part.get world)).2) :=
  rfl

@[simp]
theorem on_bind (part : Lens W S) (script : Script S E A) (rest : A → Script S E B) :
    (script >>= rest).on part = script.on part >>= fun value => (rest value).on part := by
  change (script.bind rest).on part = (script.on part).bind fun value => (rest value).on part
  induction script with
  | done answer => cases answer <;> rfl
  | step effect next ih =>
    change step _ _ = step _ _
    congr 1
    funext world
    exact ih (part.get world)

@[simp]
theorem exec_on (part : Lens W S) (script : Script S E A) (world : W) :
    (script.on part).exec world =
      (part.set world (script.exec (part.get world)).1,
        (script.exec (part.get world)).2) := by
  induction script generalizing world with
  | done answer => simp [on, exec, part.set_get]
  | step effect next ih => simp [on, exec, ih, part.get_set, part.set_set]

end Script

end ReisOs.Core
