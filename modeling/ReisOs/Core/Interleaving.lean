import Mathlib.Logic.Function.Basic
import ReisOs.Core.Runs
import ReisOs.Core.Scripts

/-!
# Scripts that run side by side

Between two steps of a script others may change the world.  A `Discipline` says what
every step keeps and how it may change the world, and what the others may do meanwhile;
a script is `Safe` if each of its steps obeys it whatever the others have done before.
A pool of processes with safe scripts keeps the invariant however their steps are
ordered and wherever they crash.
-/

namespace ReisOs.Core

/-- What every step keeps, in which order the states of the world follow, and what
others may do between two steps. -/
structure Discipline (W : Type) where
  Inv : W → Prop
  Grows : W → W → Prop
  Others : W → W → Prop
  refl : ∀ world, Grows world world
  trans : ∀ {first middle last}, Grows first middle → Grows middle last → Grows first last
  idle : ∀ world, Others world world
  others : ∀ {world now}, Others world now → Grows world now

/-- The discipline of a process that is alone in the world. -/
def Discipline.alone {W : Type} (Inv : W → Prop) (Grows : W → W → Prop)
    (refl : ∀ world, Grows world world)
    (trans : ∀ {first middle last}, Grows first middle → Grows middle last →
      Grows first last) : Discipline W where
  Inv := Inv
  Grows := Grows
  Others := Eq
  refl := refl
  trans := trans
  idle _ := rfl
  others h := h ▸ refl _

/-- Two disciplines at once. -/
def Discipline.both {W : Type} (left right : Discipline W) : Discipline W where
  Inv world := left.Inv world ∧ right.Inv world
  Grows world now := left.Grows world now ∧ right.Grows world now
  Others world now := left.Others world now ∧ right.Others world now
  refl world := ⟨left.refl world, right.refl world⟩
  trans h hnext := ⟨left.trans h.1 hnext.1, right.trans h.2 hnext.2⟩
  idle world := ⟨left.idle world, right.idle world⟩
  others h := ⟨left.others h.1, right.others h.2⟩

namespace Script

variable {W E A B : Type} {rule : Discipline W}

/-- Every step obeys the discipline in whatever world it finds, and an answer comes
with its postcondition. -/
def Safe (rule : Discipline W) (Post : A → W → Prop) : Script W E A → W → Prop
  | done (.ok value), world => Post value world
  | done (.error _), _ => True
  | step effect next, world =>
    ∀ now, rule.Inv now → rule.Others world now →
      rule.Inv (effect now) ∧ rule.Grows now (effect now) ∧
        Safe rule Post (next now) (effect now)

variable {Post : A → W → Prop} {Post' : B → W → Prop} {world : W}

theorem safe_pure {value : A} (h : Post value world) :
    Safe rule Post (pure value : Script W E A) world := h

theorem safe_raise {error : E} : Safe rule Post (raise error : Script W E A) world :=
  trivial

theorem safe_raiseIf {condition : Prop} [Decidable condition] {error : E}
    {Post : Unit → W → Prop} (h : ¬ condition → Post () world) :
    Safe rule Post (raiseIf condition error) world := by
  unfold raiseIf
  split
  · exact safe_raise
  · rename_i hpassed
    exact safe_pure (h hpassed)

theorem safe_act {f : W → W × Except E A}
    (h : ∀ now, rule.Inv now → rule.Others world now →
      rule.Inv (f now).1 ∧ rule.Grows now (f now).1 ∧
        ∀ value, (f now).2 = .ok value → Post value (f now).1) :
    Safe rule Post (act f) world := by
  intro now hinv hgrows
  obtain ⟨hkeeps, hstep, hanswer⟩ := h now hinv hgrows
  refine ⟨hkeeps, hstep, ?_⟩
  change Safe rule Post (done (f now).2) (f now).1
  cases hresult : (f now).2 with
  | error error => trivial
  | ok value => exact hanswer value hresult

theorem safe_read {f : W → A}
    (h : ∀ now, rule.Inv now → rule.Others world now → Post (f now) now) :
    Safe rule Post (read f : Script W E A) world := by
  intro now hinv hgrows
  exact ⟨hinv, rule.refl now, h now hinv hgrows⟩

variable {script : Script W E A}

theorem Safe.mono {weaker : A → W → Prop}
    (h : Safe rule Post script world)
    (hweaker : ∀ value world, Post value world → weaker value world) :
    Safe rule weaker script world := by
  induction script generalizing world with
  | done answer =>
    cases answer with
    | error error => trivial
    | ok value => exact hweaker value world h
  | step effect next ih =>
    intro now hinv hgrows
    obtain ⟨hkeeps, hstep, hnext⟩ := h now hinv hgrows
    exact ⟨hkeeps, hstep, ih now hnext⟩

theorem Safe.since (h : Safe rule Post script world) {start : W}
    (hstart : rule.Grows start world) :
    Safe rule (fun value now => Post value now ∧ rule.Grows start now) script world := by
  induction script generalizing world with
  | done answer =>
    cases answer with
    | error error => trivial
    | ok value => exact ⟨h, hstart⟩
  | step effect next ih =>
    intro now hnow hgrows
    obtain ⟨hkeeps, hstep, hnext⟩ := h now hnow hgrows
    exact ⟨hkeeps, hstep,
      ih now hnext (rule.trans hstart (rule.trans (rule.others hgrows) hstep))⟩

variable {rest : A → Script W E B}

theorem Safe.bind
    (h : Safe rule Post script world) (hinv : rule.Inv world)
    (hrest : ∀ value now, rule.Inv now → rule.Grows world now → Post value now →
      Safe rule Post' (rest value) now) :
    Safe rule Post' (script >>= rest) world := by
  change Safe rule Post' (script.bind rest) world
  induction script generalizing world with
  | done answer =>
    cases answer with
    | error error => trivial
    | ok value => exact hrest value world hinv (rule.refl world) h
  | step effect next ih =>
    intro now hnow hgrows
    obtain ⟨hkeeps, hstep, hnext⟩ := h now hnow hgrows
    refine ⟨hkeeps, hstep, ih now hnext hkeeps ?_⟩
    intro value later hlater hgrown hpost
    exact hrest value later hlater
      (rule.trans (rule.others hgrows) (rule.trans hstep hgrown)) hpost

theorem safe_raiseIf_bind {condition : Prop} [Decidable condition] {error : E}
    {rest : Unit → Script W E B} (h : ¬ condition → Safe rule Post' (rest ()) world) :
    Safe rule Post' (raiseIf condition error >>= rest) world := by
  unfold raiseIf
  split
  · exact safe_raise
  · rename_i hpassed
    exact h hpassed

theorem safe_read_bind {f : W → A}
    (h : ∀ now, rule.Inv now → rule.Others world now → Safe rule Post' (rest (f now)) now) :
    Safe rule Post' (read f >>= rest) world := by
  intro now hinv hgrows
  exact ⟨hinv, rule.refl now, h now hinv hgrows⟩

theorem Safe.handle {handler : E → Option (Script W E A)}
    (h : Safe rule Post script world) (hinv : rule.Inv world)
    (hhandler : ∀ error other now, handler error = some other → rule.Inv now →
      rule.Grows world now → Safe rule Post other now) :
    Safe rule Post (script.handle handler) world := by
  induction script generalizing world with
  | done answer =>
    cases answer with
    | ok value => exact h
    | error error =>
      simp only [Script.handle]
      cases hother : handler error with
      | none => trivial
      | some other => exact hhandler error other world hother hinv (rule.refl world)
  | step effect next ih =>
    intro now hnow hgrows
    obtain ⟨hkeeps, hstep, hnext⟩ := h now hnow hgrows
    refine ⟨hkeeps, hstep, ih now hnext hkeeps ?_⟩
    intro error other later hother hlater hgrown
    exact hhandler error other later hother hlater
      (rule.trans (rule.others hgrows) (rule.trans hstep hgrown))

/-- Every step obeys the discipline, from every world that keeps its invariant. -/
structure Obeys (rule : Discipline W) (script : Script W E A) : Prop where
  safe : ∀ world, rule.Inv world → Safe rule (fun _ _ => True) script world

theorem obeys_pure (value : A) : Obeys rule (pure value : Script W E A) :=
  ⟨fun _ _ => trivial⟩

theorem obeys_raise (error : E) : Obeys rule (raise error : Script W E A) :=
  ⟨fun _ _ => trivial⟩

theorem obeys_raiseIf (condition : Prop) [Decidable condition] (error : E) :
    Obeys rule (raiseIf condition error) := ⟨fun _ _ => safe_raiseIf fun _ => trivial⟩

theorem obeys_read (f : W → A) : Obeys rule (read f : Script W E A) :=
  ⟨fun _ _ => safe_read fun _ _ _ => trivial⟩

theorem obeys_act {f : W → W × Except E A}
    (h : ∀ now, rule.Inv now → rule.Inv (f now).1 ∧ rule.Grows now (f now).1) :
    Obeys rule (act f) := by
  constructor
  intro world _
  apply safe_act
  intro now hnow _
  exact ⟨(h now hnow).1, (h now hnow).2, fun _ _ => trivial⟩

theorem Obeys.both {left right : Discipline W}
    (h : Obeys left script) (hright : Obeys right script) :
    Obeys (left.both right) script := by
  have hsafe (script : Script W E A) (world : W)
      (h : Safe left (fun _ _ => True) script world)
      (hright : Safe right (fun _ _ => True) script world) :
      Safe (left.both right) (fun _ _ => True) script world := by
    induction script generalizing world with
    | done answer => cases answer <;> trivial
    | step effect next ih =>
      intro now hnow hothers
      obtain ⟨hkeeps, hstep, hnext⟩ := h now hnow.1 hothers.1
      obtain ⟨hkept, hmove, hrest⟩ := hright now hnow.2 hothers.2
      exact ⟨⟨hkeeps, hkept⟩, ⟨hstep, hmove⟩, ih now _ hnext hrest⟩
  constructor
  intro world hworld
  exact hsafe script world (h.safe world hworld.1) (hright.safe world hworld.2)

theorem Obeys.bind
    (h : Obeys rule script) (hrest : ∀ value, Obeys rule (rest value)) :
    Obeys rule (script >>= rest) := by
  constructor
  intro world hworld
  apply (h.safe world hworld).bind hworld
  intro value now hnow _ _
  exact (hrest value).safe now hnow

theorem Obeys.handle {handler : E → Option (Script W E A)}
    (h : Obeys rule script)
    (hhandler : ∀ error other, handler error = some other → Obeys rule other) :
    Obeys rule (script.handle handler) := by
  constructor
  intro world hworld
  apply (h.safe world hworld).handle hworld
  intro error other now hother hnow _
  exact (hhandler error other hother).safe now hnow

/-! ## Parts of a world -/

/-- A script over a part of the world, when the discipline of the part is enough for
that of the world. -/
theorem Safe.on {S : Type} {inner : Discipline S} {part : Lens W S} {Post : A → S → Prop}
    {script : Script S E A} (h : Safe inner Post script (part.get world))
    (hpart : ∀ world, rule.Inv world → inner.Inv (part.get world))
    (hothers : ∀ world now, rule.Others world now →
      inner.Others (part.get world) (part.get now))
    (hset : ∀ world state, rule.Inv world → inner.Inv state →
      inner.Grows (part.get world) state →
        rule.Inv (part.set world state) ∧ rule.Grows world (part.set world state)) :
    Safe rule (fun value now => Post value (part.get now)) (script.on part) world := by
  induction script generalizing world with
  | done answer =>
    cases answer with
    | error error => trivial
    | ok value => exact h
  | step effect next ih =>
    intro now hnow hworld
    obtain ⟨hkeeps, hstep, hnext⟩ :=
      h (part.get now) (hpart now hnow) (hothers world now hworld)
    obtain ⟨hinv, hgrows⟩ := hset now _ hnow hkeeps hstep
    refine ⟨hinv, hgrows, ih _ ?_⟩
    rw [part.get_set]
    exact hnext

theorem Obeys.on {S : Type} {inner : Discipline S} {part : Lens W S}
    (hpart : ∀ world, rule.Inv world → inner.Inv (part.get world))
    (hothers : ∀ world now, rule.Others world now →
      inner.Others (part.get world) (part.get now))
    (hset : ∀ world state, rule.Inv world → inner.Inv state →
      inner.Grows (part.get world) state →
        rule.Inv (part.set world state) ∧ rule.Grows world (part.set world state))
    {script : Script S E A} (h : Obeys inner script) : Obeys rule (script.on part) := by
  constructor
  intro world hworld
  exact (h.safe (part.get world) (hpart world hworld)).on hpart hothers hset

theorem Safe.weaken {other : Discipline W} (hinv : ∀ world, other.Inv world ↔ rule.Inv world)
    (hothers : ∀ world now, other.Others world now → rule.Others world now)
    (hgrows : ∀ world now, rule.Grows world now → other.Grows world now) (h : Safe rule Post script world) :
    Safe other Post script world := by
  induction script generalizing world with
  | done answer => cases answer <;> exact h
  | step effect next ih =>
    intro now hnow hworld
    obtain ⟨hkeeps, hstep, hnext⟩ := h now ((hinv now).mp hnow) (hothers world now hworld)
    exact ⟨(hinv _).mpr hkeeps, hgrows _ _ hstep, ih now hnext⟩

/-! ## Alone in the world -/

theorem Safe.exec (h : Safe rule Post script world)
    (hinv : rule.Inv world) :
    rule.Inv (script.exec world).1 ∧ rule.Grows world (script.exec world).1 := by
  induction script generalizing world with
  | done answer => exact ⟨hinv, rule.refl world⟩
  | step effect next ih =>
    obtain ⟨hkeeps, hstep, hnext⟩ := h world hinv (rule.idle world)
    obtain ⟨hend, hgrows⟩ := ih world hnext hkeeps
    exact ⟨hend, rule.trans hstep hgrows⟩

theorem Safe.crashed (h : Safe rule Post script world)
    (hinv : rule.Inv world) (count : ℕ) :
    rule.Inv (script.crashed count world) ∧ rule.Grows world (script.crashed count world) := by
  induction script generalizing world count with
  | done answer =>
    cases count with
    | zero => exact ⟨hinv, rule.refl world⟩
    | succ count => exact ⟨hinv, rule.refl world⟩
  | step effect next ih =>
    cases count with
    | zero => exact ⟨hinv, rule.refl world⟩
    | succ count =>
      obtain ⟨hkeeps, hstep, hnext⟩ := h world hinv (rule.idle world)
      obtain ⟨hend, hgrows⟩ := ih world hnext hkeeps count
      exact ⟨hend, rule.trans hstep hgrows⟩

theorem Obeys.exec (h : Obeys rule script) (hinv : rule.Inv world) :
    rule.Inv (script.exec world).1 ∧ rule.Grows world (script.exec world).1 :=
  (h.safe world hinv).exec hinv

theorem Obeys.ends {after : W} {answer : Except E A}
    (h : Obeys rule script) (hinv : rule.Inv world)
    (hexec : script.exec world = (after, answer)) :
    rule.Inv after ∧ rule.Grows world after := by
  have hend := h.exec hinv
  rw [hexec] at hend
  exact hend

theorem Obeys.crashed (h : Obeys rule script)
    (hinv : rule.Inv world) (count : ℕ) :
    rule.Inv (script.crashed count world) ∧ rule.Grows world (script.crashed count world) :=
  (h.safe world hinv).crashed hinv count

theorem obeys_of_leaves {Inv : W → Prop}
    (h : ∀ world, Inv world → script.Leaves Inv world) :
    Obeys (.alone Inv (fun _ _ => True) (fun _ => trivial) fun _ _ => trivial) script := by
  have hsafe (script : Script W E A) (world : W) (h : script.Leaves Inv world) :
      Safe (.alone Inv (fun _ _ => True) (fun _ => trivial) fun _ _ => trivial)
        (fun _ _ => True) script world := by
    induction script generalizing world with
    | done answer => cases answer <;> trivial
    | step effect next ih =>
      rintro now - rfl
      have hnext : (next world).Leaves Inv (effect world) := fun count => h (count + 1)
      exact ⟨hnext 0, trivial, ih world _ hnext⟩
  exact ⟨fun world hworld => hsafe script world (h world hworld)⟩

end Script

/-! ## Pools of processes -/

/-- A world is a part that all processes share and a part of the process's own. -/
structure Parts (W G L : Type) where
  join : G → L → W
  shared : W → G
  own : W → L
  shared_join : ∀ common mine, shared (join common mine) = common
  own_join : ∀ common mine, own (join common mine) = mine

/-- What a pool keeps of the common part and of each process's own, and how the common
part may change. -/
structure PoolRule (G L : Type) where
  Common : G → Prop
  Own : L → Prop
  Grows : G → G → Prop
  refl : ∀ common, Grows common common
  trans : ∀ {first middle last}, Grows first middle → Grows middle last → Grows first last

def PoolRule.discipline {W G L : Type} (rule : PoolRule G L) (parts : Parts W G L) :
    Discipline W where
  Inv world := rule.Common (parts.shared world) ∧ rule.Own (parts.own world)
  Grows world now := rule.Grows (parts.shared world) (parts.shared now)
  Others world now := rule.Grows (parts.shared world) (parts.shared now)
  refl world := rule.refl (parts.shared world)
  trans := rule.trans
  idle world := rule.refl (parts.shared world)
  others := id

/-- Any number of processes, each with a script that it is running or none. -/
structure Pool (W E G L : Type) where
  common : G
  own : ℕ → L
  running : ℕ → Option (Script W E Unit)

/-- What can happen next in a pool. -/
inductive Turn (W E L : Type) where
  | start (process : ℕ) (script : Script W E Unit)
  | advance (process : ℕ)
  /-- The process stops where it is and keeps what is its own. -/
  | crash (process : ℕ)
  /-- Something else changes what is the process's own. -/
  | alter (process : ℕ) (change : L → L)

namespace Pool

variable {W E G L : Type} (parts : Parts W G L)

/-- The world that a process sees. -/
def seenBy (pool : Pool W E G L) (process : ℕ) : W :=
  parts.join pool.common (pool.own process)

/-- One step of the script that the process is running. -/
def advance (pool : Pool W E G L) (process : ℕ) : Pool W E G L :=
  match pool.running process with
  | none => pool
  | some (.done _) => { pool with running := Function.update pool.running process none }
  | some (.step effect next) =>
    let found := pool.seenBy parts process
    { common := parts.shared (effect found)
      own := Function.update pool.own process (parts.own (effect found))
      running := Function.update pool.running process (some (next found)) }

def turn (pool : Pool W E G L) : Turn W E L → Pool W E G L
  | .start process script =>
    match pool.running process with
    | none => { pool with running := Function.update pool.running process (some script) }
    | some _ => pool
  | .advance process => pool.advance parts process
  | .crash process => { pool with running := Function.update pool.running process none }
  | .alter process change =>
    { pool with own := Function.update pool.own process (change (pool.own process)) }

variable {parts} {rule : PoolRule G L}

/-- The turns that a rule allows. -/
def Allowed (parts : Parts W G L) (rule : PoolRule G L) : Turn W E L → Prop
  | .start _ script => ∀ world, (rule.discipline parts).Inv world →
      script.Safe (rule.discipline parts) (fun _ _ => True) world
  | .alter _ change => ∀ mine, rule.Own mine → rule.Own (change mine)
  | .advance _ | .crash _ => True

/-- The script is safe from some world that the common part has grown out of. -/
def Pending (parts : Parts W G L) (rule : PoolRule G L) (common : G)
    (script : Script W E Unit) : Prop :=
  ∃ world, script.Safe (rule.discipline parts) (fun _ _ => True) world ∧
    rule.Grows (parts.shared world) common

/-- A pool in order: its invariants hold, and what runs in it is safe. -/
structure Orderly (parts : Parts W G L) (rule : PoolRule G L) (pool : Pool W E G L) :
    Prop where
  common : rule.Common pool.common
  own : ∀ process, rule.Own (pool.own process)
  running : ∀ process, ∀ script ∈ pool.running process,
    Pending parts rule pool.common script

variable {pool : Pool W E G L}

theorem Orderly.seenBy (h : pool.Orderly parts rule) (process : ℕ) :
    (rule.discipline parts).Inv (pool.seenBy parts process) := by
  constructor
  · rw [Pool.seenBy, parts.shared_join]
    exact h.common
  · rw [Pool.seenBy, parts.own_join]
    exact h.own process

theorem forall_update {A : Type} {Q : A → Prop} {f : ℕ → A} (h : ∀ process, Q (f process))
    (process : ℕ) {value : A} (hvalue : Q value) (other : ℕ) :
    Q (Function.update f process value other) := by
  by_cases hsame : other = process
  · rw [hsame, Function.update_self]
    exact hvalue
  · rw [Function.update_of_ne hsame]
    exact h other

theorem Orderly.withRunning (h : pool.Orderly parts rule)
    (process : ℕ) {script : Option (Script W E Unit)}
    (hscript : ∀ started ∈ script, Pending parts rule pool.common started) :
    Orderly parts rule
      { pool with running := Function.update pool.running process script } where
  common := h.common
  own := h.own
  running := forall_update
    (Q := fun running => ∀ script ∈ running, Pending parts rule pool.common script)
    h.running process hscript

theorem Orderly.started (h : pool.Orderly parts rule)
    (process : ℕ) {script : Script W E Unit}
    (hscript : Allowed parts rule (.start process script)) :
    Pending parts rule pool.common script := by
  refine ⟨pool.seenBy parts process, hscript _ (h.seenBy process), ?_⟩
  rw [Pool.seenBy, parts.shared_join]
  exact rule.refl pool.common

theorem Orderly.stepped (h : pool.Orderly parts rule) {process : ℕ}
    {effect : W → W} {next : W → Script W E Unit}
    (hrunning : pool.running process = some (.step effect next)) :
    (rule.discipline parts).Inv (effect (pool.seenBy parts process)) ∧
      rule.Grows pool.common (parts.shared (effect (pool.seenBy parts process))) ∧
      (next (pool.seenBy parts process)).Safe (rule.discipline parts) (fun _ _ => True)
        (effect (pool.seenBy parts process)) := by
  obtain ⟨world, hsafe, hgrows⟩ := h.running process _ hrunning
  have hnow : (rule.discipline parts).Others world (pool.seenBy parts process) := by
    change rule.Grows _ (parts.shared (pool.seenBy parts process))
    rw [Pool.seenBy, parts.shared_join]
    exact hgrows
  obtain ⟨hkeeps, hstep, hnext⟩ := hsafe _ (h.seenBy process) hnow
  refine ⟨hkeeps, ?_, hnext⟩
  change rule.Grows (parts.shared (pool.seenBy parts process)) _ at hstep
  rw [Pool.seenBy, parts.shared_join] at hstep
  exact hstep

/-- One step of one process keeps the pool in order. -/
theorem Orderly.advance (h : pool.Orderly parts rule)
    (process : ℕ) : (pool.advance parts process).Orderly parts rule := by
  unfold Pool.advance
  cases hrunning : pool.running process with
  | none => exact h
  | some script =>
    cases script with
    | done answer => exact h.withRunning process (by simp)
    | step effect next =>
      obtain ⟨hkeeps, hcommon, hnext⟩ := h.stepped hrunning
      have hothers (other : ℕ) : ∀ script ∈ pool.running other,
          Pending parts rule (parts.shared (effect (pool.seenBy parts process)))
            script := by
        intro script hscript
        obtain ⟨earlier, hother, hgrown⟩ := h.running other script hscript
        exact ⟨earlier, hother, rule.trans hgrown hcommon⟩
      have hmine : ∀ script ∈ some (next (pool.seenBy parts process)),
          Pending parts rule (parts.shared (effect (pool.seenBy parts process)))
            script := by
        intro script hscript
        cases hscript
        exact ⟨_, hnext, rule.refl _⟩
      exact ⟨hkeeps.1, forall_update h.own process hkeeps.2,
        forall_update (Q := fun running => ∀ script ∈ running, Pending parts rule
          (parts.shared (effect (pool.seenBy parts process))) script)
          hothers process hmine⟩

theorem Orderly.grows (h : pool.Orderly parts rule)
    (next : Turn W E L) : rule.Grows pool.common (pool.turn parts next).common := by
  cases next with
  | start process script =>
    simp only [Pool.turn]
    cases pool.running process <;> exact rule.refl _
  | advance process =>
    simp only [Pool.turn]
    unfold Pool.advance
    cases hrunning : pool.running process with
    | none => exact rule.refl _
    | some script =>
      cases script with
      | done answer => exact rule.refl _
      | step effect next => exact (h.stepped hrunning).2.1
  | crash process => exact rule.refl _
  | alter process change => exact rule.refl _

theorem Orderly.turn (h : pool.Orderly parts rule)
    (next : Turn W E L) (hnext : Allowed parts rule next) :
    (pool.turn parts next).Orderly parts rule := by
  cases next with
  | start process script =>
    simp only [Pool.turn]
    cases hrunning : pool.running process with
    | none =>
      apply h.withRunning process
      intro started hstarted
      cases hstarted
      exact h.started process hnext
    | some other => exact h
  | advance process => exact h.advance process
  | crash process => exact h.withRunning process (by simp)
  | alter process change =>
    exact ⟨h.common, forall_update h.own process (hnext _ (h.own process)), h.running⟩

theorem Orderly.run (h : pool.Orderly parts rule)
    {turns : List (Turn W E L)} (hturns : ∀ next ∈ turns, Allowed parts rule next) :
    (Core.run (Pool.turn parts) pool turns).Orderly parts rule :=
  run_invariant_of_admissible (Orderly parts rule)
    (fun _ next hpool hnext => Orderly.turn hpool next hnext) h
    (Admissible.of_forall hturns)

theorem Orderly.grows_run (h : pool.Orderly parts rule)
    {turns : List (Turn W E L)} (hturns : ∀ next ∈ turns, Allowed parts rule next) :
    rule.Grows pool.common (Core.run (Pool.turn parts) pool turns).common := by
  induction turns generalizing pool with
  | nil => exact rule.refl _
  | cons next turns ih =>
    rw [List.forall_mem_cons] at hturns
    have hnext : (pool.turn parts next).Orderly parts rule := Orderly.turn h next hturns.1
    exact rule.trans (h.grows next) (ih hnext hturns.2)

end Pool

end ReisOs.Core
