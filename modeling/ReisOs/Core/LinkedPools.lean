import ReisOs.Core.Interleaving

/-!
# Pools whose processes know of the common part

A process may keep facts that tie what is its own to the common part, as long as the
growth of the common part leaves them true.  What others do to the process's own part
between two of its steps is a relation of the rule.
-/

namespace ReisOs.Core

open Function

namespace Script

variable {W E A B : Type} {rule : Discipline W} {Post : B → W → Prop} {world : W}

theorem safe_act_bind {f : W → W × Except E A} {rest : A → Script W E B}
    (h : ∀ now, rule.Inv now → rule.Others world now →
      rule.Inv (f now).1 ∧ rule.Grows now (f now).1 ∧
        ∀ value, (f now).2 = .ok value → Safe rule Post (rest value) (f now).1) :
    Safe rule Post (act f >>= rest) world := by
  intro now hnow hothers
  obtain ⟨hkeeps, hstep, hrest⟩ := h now hnow hothers
  refine ⟨hkeeps, hstep, ?_⟩
  change Safe rule Post ((done (f now).2).bind rest) (f now).1
  cases hanswer : (f now).2 with
  | error error => trivial
  | ok value => exact hrest value hanswer

theorem safe_look_bind {f : W → Except E A} {rest : A → Script W E B}
    (h : ∀ now, rule.Inv now → rule.Others world now → ∀ value, f now = .ok value →
      Safe rule Post (rest value) now) :
    Safe rule Post (act (fun world => (world, f world)) >>= rest) world := by
  apply safe_act_bind
  intro now hnow hothers
  exact ⟨hnow, rule.refl now, h now hnow hothers⟩

end Script

/-- What a pool keeps of the common part, what each process keeps of both parts, how the
common part may grow and how a process's own part may be altered from outside. -/
structure LinkRule (G L : Type) where
  Common : G → Prop
  Own : ℕ → G → L → Prop
  Grows : G → G → Prop
  Alters : L → L → Prop
  refl : ∀ common, Grows common common
  trans : ∀ {first middle last}, Grows first middle → Grows middle last → Grows first last
  idle : ∀ mine, Alters mine mine
  again : ∀ {first middle last}, Alters first middle → Alters middle last →
    Alters first last
  grown : ∀ {process common now mine}, Own process common mine → Grows common now →
    Own process now mine
  altered : ∀ {process common mine now}, Own process common mine → Alters mine now →
    Own process common now

namespace LinkRule

variable {W E G L : Type}

/-- The discipline of one of the processes. -/
def discipline (rule : LinkRule G L) (parts : Parts W G L) (process : ℕ) :
    Discipline W where
  Inv world := rule.Common (parts.shared world) ∧
    rule.Own process (parts.shared world) (parts.own world)
  Grows world now := rule.Grows (parts.shared world) (parts.shared now)
  Others world now := rule.Grows (parts.shared world) (parts.shared now) ∧
    rule.Alters (parts.own world) (parts.own now)
  refl world := rule.refl (parts.shared world)
  trans := rule.trans
  idle world := ⟨rule.refl (parts.shared world), rule.idle (parts.own world)⟩
  others h := h.1

variable (rule : LinkRule G L) (parts : Parts W G L)

/-- The turns that a rule allows. -/
def Allowed : Turn W E L → Prop
  | .start process script => ∀ world, (rule.discipline parts process).Inv world →
      script.Safe (rule.discipline parts process) (fun _ _ => True) world
  | .alter _ change => ∀ mine, rule.Alters mine (change mine)
  | .advance _ | .crash _ => True

/-- The script is safe from some world that both parts have come out of. -/
def Pending (process : ℕ) (common : G) (mine : L) (script : Script W E Unit) : Prop :=
  ∃ world, script.Safe (rule.discipline parts process) (fun _ _ => True) world ∧
    rule.Grows (parts.shared world) common ∧ rule.Alters (parts.own world) mine

/-- A pool in order: its invariants hold, and what runs in it is safe. -/
structure Orderly (pool : Pool W E G L) : Prop where
  common : rule.Common pool.common
  own : ∀ process, rule.Own process pool.common (pool.own process)
  running : ∀ process, ∀ script ∈ pool.running process,
    rule.Pending parts process pool.common (pool.own process) script

variable {rule parts} {pool : Pool W E G L}

theorem Orderly.seenBy (h : rule.Orderly parts pool) (process : ℕ) :
    (rule.discipline parts process).Inv (pool.seenBy parts process) := by
  change rule.Common _ ∧ rule.Own process _ _
  rw [Pool.seenBy, parts.shared_join, parts.own_join]
  exact ⟨h.common, h.own process⟩

theorem Orderly.withRunning (h : rule.Orderly parts pool) (process : ℕ)
    {script : Option (Script W E Unit)}
    (hscript : ∀ started ∈ script,
      rule.Pending parts process pool.common (pool.own process) started) :
    rule.Orderly parts
      { pool with running := update pool.running process script } := by
  refine ⟨h.common, h.own, ?_⟩
  intro other started hstarted
  by_cases hsame : other = process
  · subst hsame
    simp only [update_self] at hstarted
    exact hscript started hstarted
  · simp only [update_of_ne hsame] at hstarted
    exact h.running other started hstarted

theorem Orderly.stepped (h : rule.Orderly parts pool) {process : ℕ}
    {effect : W → W} {next : W → Script W E Unit}
    (hrunning : pool.running process = some (.step effect next)) :
    (rule.discipline parts process).Inv (effect (pool.seenBy parts process)) ∧
      rule.Grows pool.common (parts.shared (effect (pool.seenBy parts process))) ∧
      (next (pool.seenBy parts process)).Safe (rule.discipline parts process)
        (fun _ _ => True) (effect (pool.seenBy parts process)) := by
  obtain ⟨world, hsafe, hgrows, halters⟩ := h.running process _ hrunning
  have hothers : (rule.discipline parts process).Others world
      (pool.seenBy parts process) := by
    change rule.Grows _ _ ∧ rule.Alters _ _
    rw [Pool.seenBy, parts.shared_join, parts.own_join]
    exact ⟨hgrows, halters⟩
  obtain ⟨hkeeps, hstep, hnext⟩ := hsafe _ (h.seenBy process) hothers
  refine ⟨hkeeps, ?_, hnext⟩
  change rule.Grows (parts.shared (pool.seenBy parts process)) _ at hstep
  rw [Pool.seenBy, parts.shared_join] at hstep
  exact hstep

/-- One step of one process keeps the pool in order. -/
theorem Orderly.advance (h : rule.Orderly parts pool) (process : ℕ) :
    rule.Orderly parts (pool.advance parts process) := by
  unfold Pool.advance
  cases hrunning : pool.running process with
  | none => exact h
  | some script =>
    cases script with
    | done answer => exact h.withRunning process (by simp)
    | step effect next =>
      obtain ⟨hkeeps, hcommon, hnext⟩ := h.stepped hrunning
      refine ⟨hkeeps.1, ?_, ?_⟩
      · intro other
        by_cases hsame : other = process
        · subst hsame
          simp only [update_self]
          exact hkeeps.2
        · simp only [update_of_ne hsame]
          exact rule.grown (h.own other) hcommon
      · intro other script hscript
        by_cases hsame : other = process
        · subst hsame
          simp only [update_self] at hscript ⊢
          cases hscript
          exact ⟨_, hnext, rule.refl _, rule.idle _⟩
        · simp only [update_of_ne hsame] at hscript ⊢
          obtain ⟨earlier, hsafe, hgrown, halters⟩ := h.running other script hscript
          exact ⟨earlier, hsafe, rule.trans hgrown hcommon, halters⟩

theorem Orderly.turn (h : rule.Orderly parts pool) (next : Turn W E L)
    (hnext : rule.Allowed parts next) : rule.Orderly parts (pool.turn parts next) := by
  cases next with
  | start process script =>
    simp only [Pool.turn]
    cases hrunning : pool.running process with
    | none =>
      apply h.withRunning process
      intro started hstarted
      cases hstarted
      refine ⟨_, hnext _ (h.seenBy process), ?_⟩
      rw [Pool.seenBy, parts.shared_join, parts.own_join]
      exact ⟨rule.refl _, rule.idle _⟩
    | some other => exact h
  | advance process => exact h.advance process
  | crash process => exact h.withRunning process (by simp)
  | alter process change =>
    refine ⟨h.common, ?_, ?_⟩
    · intro other
      by_cases hsame : other = process
      · subst hsame
        simp only [Pool.turn, update_self]
        exact rule.altered (h.own other) (hnext _)
      · simp only [Pool.turn, update_of_ne hsame]
        exact h.own other
    · intro other script hscript
      obtain ⟨earlier, hsafe, hgrown, halters⟩ := h.running other script hscript
      refine ⟨earlier, hsafe, hgrown, ?_⟩
      by_cases hsame : other = process
      · subst hsame
        simp only [Pool.turn, update_self]
        exact rule.again halters (hnext _)
      · simp only [Pool.turn, update_of_ne hsame]
        exact halters

theorem Orderly.run (h : rule.Orderly parts pool) {turns : List (Turn W E L)}
    (hturns : ∀ next ∈ turns, rule.Allowed parts next) :
    rule.Orderly parts (Core.run (Pool.turn parts) pool turns) := by
  apply run_invariant_of_admissible (rule.Orderly parts) _ h (Admissible.of_forall hturns)
  intro pool next hpool hnext
  exact hpool.turn next hnext

end LinkRule

end ReisOs.Core
