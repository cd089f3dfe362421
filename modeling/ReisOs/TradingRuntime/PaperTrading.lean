import ReisOs.Core.BoundedPaths
import Mathlib.Data.Rat.Cast.Order

/-!
# Paper trading

A signal is simulated against later candles, of which only the ends and the extremes are
known.  The first candle that contains the entry price is treated like any later one, and a
level is booked at its own price; the outcomes that every price path bears out are stated
exactly.
-/

namespace ReisOs.TradingRuntime.Paper

open ReisOs.Core

inductive Direction where
  | buy | sell | hold
  deriving DecidableEq, Repr

inductive HoldReason where
  | noEdge | data | risk
  deriving DecidableEq, Repr

structure Signal where
  direction : Direction
  entryPrice : Option ℚ
  targetPrice : Option ℚ
  stopPrice : Option ℚ
  grossExpectedReturnPct : Option ℚ
  estimatedTradingCostPct : ℚ
  netExpectedReturnPct : Option ℚ
  positionSize : ℚ
  accountRiskPct : ℚ
  holdReason : Option HoldReason
  deriving DecidableEq, Repr

structure Candle where
  openPrice : ℚ
  high : ℚ
  low : ℚ
  close : ℚ
  deriving DecidableEq, Repr

inductive PaperResult where
  | target | stop | timeout | ambiguous | notEntered
  deriving DecidableEq, Repr

structure PaperOutcome where
  result : PaperResult
  exitPrice : Option ℚ
  candlesObserved : ℕ
  deriving DecidableEq, Repr

/-! ## Signals -/

structure RiskPolicy where
  maxCapitalAtRiskPerTradePct : ℚ := 1
  absoluteMaxStopDistancePct : ℚ := 25

/-- `position_size`; `none` is the `ValueError`. -/
def RiskPolicy.positionSize (policy : RiskPolicy) (capital entry stop : ℚ) : Option (ℚ × ℚ) :=
  if capital ≤ 0 ∨ entry ≤ 0 ∨ stop ≤ 0 then none
  else
    let stopDistancePct := |entry - stop| / entry * 100
    if stopDistancePct ≤ 0 ∨ policy.absoluteMaxStopDistancePct < stopDistancePct then none
    else
      let riskAmount := capital * (policy.maxCapitalAtRiskPerTradePct / 100)
      let units := riskAmount / |entry - stop|
      some (units * entry, policy.maxCapitalAtRiskPerTradePct)

/-- `TradingRuntime`, with the built-in `round`. -/
structure Runtime where
  riskPolicy : RiskPolicy := {}
  maxDataAgeSeconds : ℚ := 120
  assumedTradingCostPct : ℚ := 1 / 5
  round : ℚ → ℕ → ℚ

namespace Runtime

variable (runtime : Runtime)

/-- `_hold`. -/
def hold (reason : HoldReason) : Signal where
  direction := .hold
  entryPrice := none
  targetPrice := none
  stopPrice := none
  grossExpectedReturnPct := none
  estimatedTradingCostPct := runtime.assumedTradingCostPct
  netExpectedReturnPct := none
  positionSize := 0
  accountRiskPct := 0
  holdReason := some reason

/-- The signal of a direction that has been chosen. -/
def propose (direction : Direction) (capital entry stop target gross : ℚ) : Signal :=
  match runtime.riskPolicy.positionSize capital entry stop with
  | none => runtime.hold .risk
  | some (positionSize, accountRiskPct) =>
    let net := gross - runtime.assumedTradingCostPct
    if net ≤ 0 then runtime.hold .noEdge
    else
      { direction := direction
        entryPrice := some entry
        targetPrice := some target
        stopPrice := some stop
        grossExpectedReturnPct := some (runtime.round gross 4)
        estimatedTradingCostPct := runtime.assumedTradingCostPct
        netExpectedReturnPct := some (runtime.round net 4)
        positionSize := runtime.round positionSize 8
        accountRiskPct := accountRiskPct
        holdReason := none }

/-- `evaluate`, for market data of the given age in seconds. -/
def evaluate (age price capital : ℚ) (technicalStopPrice targetPrice : Option ℚ) : Signal :=
  if age < 0 ∨ runtime.maxDataAgeSeconds < age then runtime.hold .data
  else
    match technicalStopPrice, targetPrice with
    | some stop, some target =>
      let entry := price
      if entry ≤ 0 then runtime.hold .data
      else if entry < target ∧ stop < entry then
        runtime.propose .buy capital entry stop target ((target - entry) / entry * 100)
      else if target < entry ∧ entry < stop then
        runtime.propose .sell capital entry stop target ((entry - target) / entry * 100)
      else runtime.hold .noEdge
    | _, _ => runtime.hold .noEdge

end Runtime

/-! ## The simulation -/

/-- The range of the candle has the price. -/
def Candle.contains (candle : Candle) (price : ℚ) : Bool :=
  candle.low ≤ price && price ≤ candle.high

def hitTarget (direction : Direction) (target : ℚ) (candle : Candle) : Bool :=
  if direction = .buy then candle.high ≥ target else candle.low ≤ target

def hitStop (direction : Direction) (stop : ℚ) (candle : Candle) : Bool :=
  if direction = .buy then candle.low ≤ stop else candle.high ≥ stop

/-- What the loop returns in a candle, if it does. -/
def verdict (direction : Direction) (target stop : ℚ) (candle : Candle) (index : ℕ) :
    Option PaperOutcome :=
  if hitTarget direction target candle && hitStop direction stop candle then
    some ⟨.ambiguous, none, index⟩
  else if hitStop direction stop candle then some ⟨.stop, some stop, index⟩
  else if hitTarget direction target candle then some ⟨.target, some target, index⟩
  else none

/-- The loop from a candle on: an outcome that it returns, or whether the price has been
entered. -/
def scan (direction : Direction) (entry target stop : ℚ) :
    Bool → ℕ → List Candle → Except PaperOutcome Bool
  | entered, _, [] => .ok entered
  | entered, index, candle :: rest =>
    if ¬ entered ∧ ¬ candle.contains entry then
      scan direction entry target stop false (index + 1) rest
    else
      match verdict direction target stop candle index with
      | some outcome => .error outcome
      | none => scan direction entry target stop true (index + 1) rest

def simulate (signal : Signal) (futureCandles : List Candle) : PaperOutcome :=
  match signal.direction, signal.entryPrice with
  | .hold, _ => ⟨.notEntered, none, 0⟩
  | _, none => ⟨.notEntered, none, 0⟩
  | direction, some entry =>
    match signal.targetPrice, signal.stopPrice with
    | some target, some stop =>
      match scan direction entry target stop false 1 futureCandles with
      | .error outcome => outcome
      | .ok false => ⟨.notEntered, none, futureCandles.length⟩
      | .ok true =>
        ⟨.timeout, futureCandles.getLast?.map (·.close), futureCandles.length⟩
    | _, _ => ⟨.notEntered, none, 0⟩

/-! ## Statement -/

/-- A signal with its prices in order. -/
structure Ordered (signal : Signal) (entry target stop : ℚ) : Prop where
  entryPrice : signal.entryPrice = some entry
  targetPrice : signal.targetPrice = some target
  stopPrice : signal.stopPrice = some stop
  aligned : signal.direction = .buy ∧ stop < entry ∧ entry < target ∨
    signal.direction = .sell ∧ target < entry ∧ entry < stop

structure Candle.Formed (candle : Candle) : Prop where
  low : candle.low ≤ min candle.openPrice candle.close
  high : max candle.openPrice candle.close ≤ candle.high

/-- A price at which a trade is closed, above or below the entry. -/
structure Level where
  price : ℚ
  above : Bool

namespace Level

def hits (level : Level) (candle : Candle) : Bool :=
  if level.above then level.price ≤ candle.high else candle.low ≤ level.price

def reachedBy (level : Level) (price : ℝ) : Prop :=
  if level.above then (level.price : ℝ) ≤ price else price ≤ level.price

/-- The candle opens at the entry or on the other side of it. -/
def opensBefore (level : Level) (entry : ℚ) (candle : Candle) : Bool :=
  if level.above then candle.openPrice ≤ entry else entry ≤ candle.openPrice

def closesBeyond (level : Level) (candle : Candle) : Bool :=
  if level.above then level.price ≤ candle.close else candle.close ≤ level.price

end Level

def targetLevel (signal : Signal) (target : ℚ) : Level where
  price := target
  above := signal.direction = .buy

def stopLevel (signal : Signal) (stop : ℚ) : Level where
  price := stop
  above := signal.direction ≠ .buy

/-- One price path for each candle, from its open to its close and with its extremes. -/
def Moves (candles : List Candle) (paths : ℕ → ℝ → ℝ) : Prop :=
  ∀ (index : ℕ) (candle : Candle), candles[index]? = some candle →
    Spans (paths index) candle.openPrice candle.close candle.low candle.high

/-- A moment inside a candle. -/
structure Moment (candles : List Candle) where
  index : ℕ
  time : ℝ
  listed : index < candles.length
  inside : time ∈ Set.Icc (0 : ℝ) 1

def Moment.upTo {candles : List Candle} (first last : Moment candles) : Prop :=
  first.index < last.index ∨ first.index = last.index ∧ first.time ≤ last.time

/-- From the moment the price first touches the entry, the level is reached before the other
one, and first in the candle that is reported. -/
structure Reaches (entry : ℚ) (won other : Level) (candlesObserved : ℕ)
    {candles : List Candle} (paths : ℕ → ℝ → ℝ) (entered reached : Moment candles) : Prop where
  touches : paths entered.index entered.time = entry
  first : ∀ earlier : Moment candles, ¬ entered.upTo earlier →
    paths earlier.index earlier.time ≠ entry
  ordered : entered.upTo reached
  reported : reached.index + 1 = candlesObserved
  reaches : won.reachedBy (paths reached.index reached.time)
  before : ∀ moment : Moment candles, entered.upTo moment → moment.upTo reached →
    ¬ other.reachedBy (paths moment.index moment.time)
  earliest : ∀ moment : Moment candles, entered.upTo moment →
    won.reachedBy (paths moment.index moment.time) → reached.index ≤ moment.index

/-- An outcome at a level is borne out by every price path, and its price is one of the candle
it reports. -/
structure Justified (entry : ℚ) (won other : Level) (candles : List Candle)
    (outcome : PaperOutcome) : Prop where
  reached : ∀ paths, Moves candles paths → ∃ entered reached : Moment candles,
    Reaches entry won other outcome.candlesObserved paths entered reached
  within : ∃ (candle : Candle) (price : ℚ),
    candles[outcome.candlesObserved - 1]? = some candle ∧ outcome.exitPrice = some price ∧
      candle.contains price = true

structure Faithful (signal : Signal) (entry target stop : ℚ) (candles : List Candle) : Prop where
  atTarget : (simulate signal candles).result = .target →
    Justified entry (targetLevel signal target) (stopLevel signal stop) candles
      (simulate signal candles)
  atStop : (simulate signal candles).result = .stop →
    Justified entry (stopLevel signal stop) (targetLevel signal target) candles
      (simulate signal candles)
  stable : ∀ more, (simulate signal candles).result ∈ [.target, .stop, .ambiguous] →
    simulate signal (candles ++ more) = simulate signal candles

/-- The candle closes the trade at a level: the first candle that contains the entry begins
the quiet ones, which have neither level, or is this one. -/
structure Closes (entry : ℚ) (won other : Level) (candles skipped quiet : List Candle)
    (candle : Candle) (back : List Candle) : Prop where
  split : candles = skipped ++ (quiet ++ candle :: back)
  absent : ∀ early ∈ skipped, early.contains entry = false
  enters : ∀ first, (quiet ++ [candle]).head? = some first → first.contains entry = true
  quiet : ∀ early ∈ quiet, won.hits early = false ∧ other.hits early = false
  won : won.hits candle = true
  other : other.hits candle = false

/-- The entry candle shows that the level came after the entry, and a later one has the
level. -/
def Shown (entry : ℚ) (won other : Level) (candles : List Candle) : Prop :=
  ∀ skipped quiet candle back, Closes entry won other candles skipped quiet candle back →
    if quiet = [] then won.opensBefore entry candle ∨ won.closesBeyond candle
    else candle.contains won.price

/-! ## Signals that are not held -/

/-- The signal stakes the policy's share of the capital on its stop, which is near enough, and
earns more than its costs at its target. -/
structure Runtime.Sized (runtime : Runtime) (capital : ℚ) (signal : Signal)
    (entry stop gross : ℚ) : Prop where
  staked : ∃ value, signal.positionSize = runtime.round value 8 ∧
    value / entry * |entry - stop| = capital * (signal.accountRiskPct / 100)
  near : |entry - stop| / entry * 100 ≤ runtime.riskPolicy.absoluteMaxStopDistancePct
  earns : runtime.assumedTradingCostPct < gross

theorem RiskPolicy.positionSize_eq_some {policy : RiskPolicy}
    {capital entry stop value riskPct : ℚ}
    (sized : policy.positionSize capital entry stop = some (value, riskPct)) :
    value / entry * |entry - stop| = capital * (riskPct / 100) ∧
      |entry - stop| / entry * 100 ≤ policy.absoluteMaxStopDistancePct := by
  simp only [RiskPolicy.positionSize] at sized
  split_ifs at sized with bad far
  rw [not_or] at bad far
  have distance : |entry - stop| ≠ 0 := by
    intro none
    simp [none] at far
  have positive : entry ≠ 0 := by
    intro none
    simp [none] at bad
  obtain ⟨rfl, rfl⟩ := Prod.mk.inj (Option.some.inj sized)
  exact ⟨by field_simp, not_lt.mp far.2⟩

theorem Runtime.propose_eq {runtime : Runtime} {direction : Direction}
    {capital entry stop target gross : ℚ} {signal : Signal}
    (made : runtime.propose direction capital entry stop target gross = signal) :
    signal.direction = .hold ∨
      signal.direction = direction ∧ signal.entryPrice = some entry ∧
      signal.targetPrice = some target ∧ signal.stopPrice = some stop ∧
      runtime.Sized capital signal entry stop gross := by
  rw [Runtime.propose] at made
  split at made
  · exact .inl (made ▸ rfl)
  · rename_i value riskPct sized
    dsimp only at made
    split_ifs at made with cheap
    · exact .inl (made ▸ rfl)
    · have ⟨staked, near⟩ := RiskPolicy.positionSize_eq_some sized
      rw [← made]
      exact .inr ⟨rfl, rfl, rfl, rfl, ⟨value, rfl, staked⟩, near, by linarith⟩

section Scan

variable {direction : Direction} {entry target stop : ℚ}

theorem scan_append (entered : Bool) (index : ℕ) (front back : List Candle) :
    scan direction entry target stop entered index (front ++ back) =
      match scan direction entry target stop entered index front with
      | .error outcome => .error outcome
      | .ok later => scan direction entry target stop later (index + front.length) back := by
  induction front generalizing entered index with
  | nil => simp [scan]
  | cons candle rest inductionHypothesis =>
    have moved : index + 1 + rest.length = index + (candle :: rest).length := by
      simp only [List.length_cons]
      omega
    rw [List.cons_append, scan, scan]
    split
    · rw [inductionHypothesis, moved]
    · split
      · rfl
      · rw [inductionHypothesis, moved]

variable {index : ℕ}

theorem scan_entered {entered : Bool} {candle : Candle} {rest : List Candle}
    (inside : entered = true ∨ candle.contains entry = true) :
    scan direction entry target stop entered index (candle :: rest) =
      match verdict direction target stop candle index with
      | some outcome => .error outcome
      | none => scan direction entry target stop true (index + 1) rest := by
  rw [scan, if_neg]
  rintro ⟨outside, apart⟩
  cases inside with
  | inl already => exact outside already
  | inr contained => exact apart contained

theorem scan_absent {front : List Candle}
    (absent : ∀ early ∈ front, early.contains entry = false) :
    scan direction entry target stop false index front = .ok false := by
  induction front generalizing index with
  | nil => rfl
  | cons candle rest inductionHypothesis =>
    have apart : candle.contains entry = false := absent candle (by simp)
    rw [scan, if_pos ⟨by simp, by simp [apart]⟩]
    exact inductionHypothesis fun early member => absent early (by simp [member])

theorem scan_quiet {front : List Candle}
    (quiet : ∀ early ∈ front, ∀ position, verdict direction target stop early position = none) :
    scan direction entry target stop true index front = .ok true := by
  induction front generalizing index with
  | nil => rfl
  | cons candle rest inductionHypothesis =>
    rw [scan_entered (.inl rfl), quiet candle (by simp)]
    exact inductionHypothesis fun early member => quiet early (by simp [member])

theorem scan_entered_error {candles : List Candle} {outcome : PaperOutcome}
    (ended : scan direction entry target stop true index candles = .error outcome) :
    ∃ quiet candle back, candles = quiet ++ candle :: back ∧
      (∀ early ∈ quiet, ∃ position, verdict direction target stop early position = none) ∧
      verdict direction target stop candle (index + quiet.length) = some outcome := by
  induction candles generalizing index with
  | nil => contradiction
  | cons candle rest inductionHypothesis =>
    rw [scan_entered (.inl rfl)] at ended
    cases here : verdict direction target stop candle index with
    | some found =>
      rw [here] at ended
      cases ended
      exact ⟨[], candle, rest, rfl, by simp, by simpa using here⟩
    | none =>
      rw [here] at ended
      have ⟨quiet, last, back, split, silent, decided⟩ := inductionHypothesis ended
      refine ⟨candle :: quiet, last, back, by simp [split], ?_, ?_⟩
      · intro early member
        cases List.mem_cons.mp member with
        | inl same => exact ⟨index, same ▸ here⟩
        | inr later => exact silent early later
      · rw [← decided, List.length_cons]
        congr 1
        omega

theorem scan_error {candles : List Candle} {outcome : PaperOutcome}
    (ended : scan direction entry target stop false index candles = .error outcome) :
    ∃ skipped quiet candle back, candles = skipped ++ (quiet ++ candle :: back) ∧
      (∀ early ∈ skipped, early.contains entry = false) ∧
      (∀ first, (quiet ++ [candle]).head? = some first → first.contains entry = true) ∧
      (∀ early ∈ quiet, ∃ position, verdict direction target stop early position = none) ∧
      verdict direction target stop candle (index + skipped.length + quiet.length) =
        some outcome := by
  induction candles generalizing index with
  | nil => contradiction
  | cons candle rest inductionHypothesis =>
    cases contained : candle.contains entry with
    | true =>
      have entered : scan direction entry target stop true index (candle :: rest) =
          .error outcome := by
        rw [scan_entered (.inl rfl), ← ended, scan_entered (.inr contained)]
      have ⟨quiet, last, back, split, silent, decided⟩ := scan_entered_error entered
      refine ⟨[], quiet, last, back, split, by simp, ?_, silent, decided⟩
      intro first begins
      have same : candle = first := by
        cases quiet with
        | nil =>
          have ⟨head, _⟩ := List.cons.inj split
          simpa [head] using begins
        | cons next more =>
          have ⟨head, _⟩ := List.cons.inj split
          simpa [head] using begins
      exact same ▸ contained
    | false =>
      rw [scan, if_pos ⟨by simp, by simp [contained]⟩] at ended
      have ⟨skipped, quiet, last, back, split, absent, enters, silent, decided⟩ :=
        inductionHypothesis ended
      refine ⟨candle :: skipped, quiet, last, back, by simp [split], ?_, enters, silent, ?_⟩
      · intro early member
        cases List.mem_cons.mp member with
        | inl same => exact same ▸ contained
        | inr later => exact absent early later
      · rw [← decided, List.length_cons]
        congr 1
        omega

end Scan

/-! ## Levels and paths -/

section Levels

variable {signal : Signal} {target stop : ℚ} {candle : Candle}

theorem hitTarget_eq :
    hitTarget signal.direction target candle = (targetLevel signal target).hits candle := by
  by_cases up : signal.direction = .buy
  · simp [hitTarget, Level.hits, targetLevel, up]
  · simp [hitTarget, Level.hits, targetLevel, up]

theorem hitStop_eq :
    hitStop signal.direction stop candle = (stopLevel signal stop).hits candle := by
  by_cases up : signal.direction = .buy
  · simp [hitStop, Level.hits, stopLevel, up]
  · simp [hitStop, Level.hits, stopLevel, up]

/-- The level is on its side of the entry. -/
def Level.beyond (level : Level) (entry : ℚ) : Prop :=
  if level.above then entry < level.price else level.price < entry

theorem Ordered.beyond {entry : ℚ} (ordered : Ordered signal entry target stop) :
    (targetLevel signal target).beyond entry ∧ (stopLevel signal stop).beyond entry := by
  cases ordered.aligned with
  | inl up => simp [Level.beyond, targetLevel, stopLevel, up]
  | inr down => simp [Level.beyond, targetLevel, stopLevel, down]

end Levels

section Paths

variable {level : Level} {candle : Candle} {entry : ℚ} {path : ℝ → ℝ}

theorem Candle.contains_iff {price : ℚ} :
    candle.contains price = true ↔ (candle.low : ℝ) ≤ price ∧ (price : ℝ) ≤ candle.high := by
  simp [Candle.contains]

theorem Candle.contains_of_touch {time : ℝ}
    (spans : Spans path candle.openPrice candle.close candle.low candle.high)
    (inside : time ∈ Set.Icc (0 : ℝ) 1) (touched : path time = entry) :
    candle.contains entry = true := by
  rw [Candle.contains_iff, ← touched]
  exact ⟨spans.above time inside, spans.below time inside⟩

theorem Level.hits_of_reached {time : ℝ}
    (spans : Spans path candle.openPrice candle.close candle.low candle.high)
    (inside : time ∈ Set.Icc (0 : ℝ) 1) (reached : level.reachedBy (path time)) :
    level.hits candle = true := by
  have least := spans.above time inside
  have most := spans.below time inside
  cases side : level.above with
  | true =>
    simp only [Level.reachedBy, side, if_true] at reached
    simpa [Level.hits, side] using le_trans reached most
  | false =>
    simp only [Level.reachedBy, side] at reached
    simpa [Level.hits, side] using le_trans least reached

theorem Level.reached_of_hits
    (spans : Spans path candle.openPrice candle.close candle.low candle.high)
    (hit : level.hits candle = true) :
    ∃ time ∈ Set.Icc (0 : ℝ) 1, level.reachedBy (path time) := by
  cases side : level.above with
  | true =>
    have ⟨time, inside, top⟩ := spans.highest
    refine ⟨time, inside, ?_⟩
    simpa [Level.reachedBy, Level.hits, side, top] using hit
  | false =>
    have ⟨time, inside, bottom⟩ := spans.lowest
    refine ⟨time, inside, ?_⟩
    simpa [Level.reachedBy, Level.hits, side, bottom] using hit

/-- Where the ends of a candle show it, the level comes after the entry. -/
theorem Level.reached_after {time : ℝ}
    (spans : Spans path candle.openPrice candle.close candle.low candle.high)
    (beyond : level.beyond entry) (hit : level.hits candle = true)
    (inside : time ∈ Set.Icc (0 : ℝ) 1)
    (first : ∀ earlier ∈ Set.Icc (0 : ℝ) 1, earlier < time → path earlier ≠ entry)
    (shown : level.opensBefore entry candle = true ∨ level.closesBeyond candle = true) :
    ∃ later ∈ Set.Icc (0 : ℝ) 1, time ≤ later ∧ level.reachedBy (path later) := by
  cases side : level.above with
  | true =>
    have higher : (entry : ℝ) < level.price := by simpa [Level.beyond, side] using beyond
    have top : (level.price : ℝ) ≤ candle.high := by simpa [Level.hits, side] using hit
    have ends : (candle.openPrice : ℝ) ≤ entry ∨ (level.price : ℝ) ≤ candle.close := by
      simpa [Level.opensBefore, Level.closesBeyond, side] using shown
    have ⟨later, listed, after, reached⟩ := spans.rises_after higher top inside first ends
    exact ⟨later, listed, after, by simpa [Level.reachedBy, side] using reached⟩
  | false =>
    have lower : -(entry : ℝ) < -level.price := by simpa [Level.beyond, side] using beyond
    have bottom : -(level.price : ℝ) ≤ -candle.low := by simpa [Level.hits, side] using hit
    have ends : -(candle.openPrice : ℝ) ≤ -entry ∨ -(level.price : ℝ) ≤ -candle.close := by
      simpa [Level.opensBefore, Level.closesBeyond, side] using shown
    have mirrored : ∀ earlier ∈ Set.Icc (0 : ℝ) 1, earlier < time →
        -path earlier ≠ -(entry : ℝ) :=
      fun earlier early before same => first earlier early before (neg_injective same)
    have ⟨later, listed, after, reached⟩ :=
      spans.neg.rises_after lower bottom inside mirrored ends
    refine ⟨later, listed, after, ?_⟩
    simpa [Level.reachedBy, side] using reached

/-- A path of the candle that goes to its extreme on the side of the level first. -/
noncomputable def Level.dodge (level : Level) (candle : Candle) (time : ℝ) : ℝ :=
  if level.above then zigzag candle.openPrice candle.high candle.low candle.close time
  else -zigzag (-candle.openPrice) (-candle.low) (-candle.high) (-candle.close) time

theorem Candle.Formed.bounds (formed : candle.Formed) :
    ((candle.low : ℝ) ≤ candle.openPrice ∧ (candle.low : ℝ) ≤ candle.close) ∧
      (candle.openPrice : ℝ) ≤ candle.high ∧ (candle.close : ℝ) ≤ candle.high := by
  have low := le_min_iff.mp formed.low
  have high := max_le_iff.mp formed.high
  have bounds := And.intro low high
  exact_mod_cast bounds

theorem Level.dodge_spans (formed : candle.Formed) :
    Spans (level.dodge candle) candle.openPrice candle.close candle.low candle.high := by
  have ⟨⟨lowOpen, lowClose⟩, highOpen, highClose⟩ := formed.bounds
  cases side : level.above with
  | true =>
    have same : level.dodge candle =
        zigzag candle.openPrice candle.high candle.low candle.close := by
      ext time
      simp [Level.dodge, side]
    rw [same]
    exact zigzag_spans (le_min lowOpen lowClose) (max_le highOpen highClose)
  | false =>
    have same : level.dodge candle = fun time =>
        -zigzag (-candle.openPrice) (-candle.low) (-candle.high) (-candle.close) time := by
      ext time
      simp [Level.dodge, side]
    rw [same]
    have mirrored := (zigzag_spans (le_min (neg_le_neg highOpen) (neg_le_neg highClose))
      (max_le (neg_le_neg lowOpen) (neg_le_neg lowClose))).neg
    simpa using mirrored

/-- After the entry that path misses the level when the ends do not show it. -/
theorem Level.dodge_misses (formed : candle.Formed) (contained : candle.contains entry = true)
    (beyond : level.beyond entry) (opens : level.opensBefore entry candle = false)
    (closes : level.closesBeyond candle = false) {time later : ℝ} (begun : 0 ≤ time)
    (touched : level.dodge candle time = entry) (after : time ≤ later) (ended : later ≤ 1) :
    ¬ level.reachedBy (level.dodge candle later) := by
  have ⟨⟨lowOpen, _⟩, highOpen, _⟩ := formed.bounds
  have ⟨least, most⟩ := Candle.contains_iff.mp contained
  cases side : level.above with
  | true =>
    have higher : (entry : ℝ) < level.price := by simpa [Level.beyond, side] using beyond
    have above : (entry : ℝ) < candle.openPrice := by
      simpa [Level.opensBefore, side] using opens
    have below : (candle.close : ℝ) < level.price := by
      simpa [Level.closesBeyond, side] using closes
    simp only [Level.dodge, side, if_true] at touched
    have stays := zigzag_stays above highOpen least higher below begun touched after ended
    simpa [Level.reachedBy, Level.dodge, side] using stays
  | false =>
    have lower : -(entry : ℝ) < -level.price := by simpa [Level.beyond, side] using beyond
    have above : -(entry : ℝ) < -candle.openPrice := by
      simpa [Level.opensBefore, side] using opens
    have below : -(candle.close : ℝ) < -level.price := by
      simpa [Level.closesBeyond, side] using closes
    have mirrored : zigzag (-candle.openPrice) (-candle.low) (-candle.high) (-candle.close)
        time = -(entry : ℝ) := by
      simp only [Level.dodge, side] at touched
      rw [← touched]
      simp
    have stays := zigzag_stays above (neg_le_neg lowOpen) (neg_le_neg most) lower below begun
      mirrored after ended
    simpa [Level.reachedBy, Level.dodge, side, neg_le] using stays

end Paths

/-! ## The candles before an outcome -/

theorem Moment.candle {candles : List Candle} (moment : Moment candles) :
    ∃ candle, candles[moment.index]? = some candle :=
  ⟨_, List.getElem?_eq_getElem moment.listed⟩

namespace Closes

variable {entry : ℚ} {won other : Level} {candles skipped quiet back : List Candle}
  {candle : Candle}

theorem skipped_at (closes : Closes entry won other candles skipped quiet candle back)
    {index : ℕ} {early : Candle} (listed : candles[index]? = some early)
    (before : index < skipped.length) : early.contains entry = false := by
  rw [closes.split, List.getElem?_append_left before] at listed
  exact closes.absent early (List.mem_of_getElem? listed)

theorem quiet_at (closes : Closes entry won other candles skipped quiet candle back)
    {index : ℕ} {early : Candle} (listed : candles[index]? = some early)
    (after : skipped.length ≤ index) (before : index < skipped.length + quiet.length) :
    won.hits early = false ∧ other.hits early = false := by
  rw [closes.split, List.getElem?_append_right after,
    List.getElem?_append_left (by omega)] at listed
  exact closes.quiet early (List.mem_of_getElem? listed)

theorem candle_at (closes : Closes entry won other candles skipped quiet candle back) :
    candles[skipped.length + quiet.length]? = some candle := by
  rw [closes.split, List.getElem?_append_right (by omega),
    List.getElem?_append_right (by omega)]
  simp

theorem entry_at (closes : Closes entry won other candles skipped quiet candle back) :
    ∃ first, candles[skipped.length]? = some first ∧ first.contains entry = true := by
  cases begins : quiet with
  | nil =>
    refine ⟨candle, ?_, closes.enters candle (by simp [begins])⟩
    simpa [begins] using closes.candle_at
  | cons first rest =>
    refine ⟨first, ?_, closes.enters first (by simp [begins])⟩
    rw [closes.split, List.getElem?_append_right (le_refl _), begins]
    simp

/-- Where the candles show it, every price path bears the outcome out. -/
theorem reaches (closes : Closes entry won other candles skipped quiet candle back)
    (beyond : won.beyond entry)
    (shown : quiet = [] → won.opensBefore entry candle = true ∨ won.closesBeyond candle = true)
    {paths : ℕ → ℝ → ℝ} (moves : Moves candles paths) :
    ∃ entered reached : Moment candles,
      Reaches entry won other (skipped.length + quiet.length + 1) paths entered reached := by
  have ⟨first, begins, contained⟩ := closes.entry_at
  have ⟨low, high⟩ := Candle.contains_iff.mp contained
  have spans := moves _ _ begins
  have ⟨time, inside, touched, earliest⟩ := spans.first_touch low high
  have ends := closes.candle_at
  -- the level is reached in the closing candle, after the entry
  have reached : ∃ later ∈ Set.Icc (0 : ℝ) 1, (quiet = [] → time ≤ later) ∧
      won.reachedBy (paths (skipped.length + quiet.length) later) := by
    by_cases empty : quiet = []
    · have same : first = candle := by
        rw [empty, List.length_nil, Nat.add_zero, begins] at ends
        exact Option.some.inj ends
      have hit : won.hits first = true := same ▸ closes.won
      have ⟨later, late, after, found⟩ :=
        Level.reached_after spans beyond hit inside earliest (same ▸ shown empty)
      exact ⟨later, late, fun _ => after, by simpa [empty] using found⟩
    · have ⟨later, late, found⟩ := Level.reached_of_hits (moves _ _ ends) closes.won
      exact ⟨later, late, fun none => absurd none empty, found⟩
  have ⟨later, late, after, found⟩ := reached
  refine ⟨⟨skipped.length, time, (List.getElem?_eq_some_iff.mp begins).1, inside⟩,
    ⟨skipped.length + quiet.length, later, (List.getElem?_eq_some_iff.mp ends).1, late⟩,
    touched, ?_, ?_, rfl, found, ?_, ?_⟩
  · intro earlier before same
    have ⟨outside, listed⟩ := earlier.candle
    have position : earlier.index ≤ skipped.length := by
      apply Nat.le_of_not_lt
      exact fun far => before (.inl far)
    cases Nat.lt_or_eq_of_le position with
    | inl skippedIndex =>
      have there := Candle.contains_of_touch (moves _ _ listed) earlier.inside same
      rw [closes.skipped_at listed skippedIndex] at there
      contradiction
    | inr here =>
      rw [here] at same
      apply earliest earlier.time earlier.inside ?_ same
      exact lt_of_not_ge fun ordered => before (.inr ⟨here.symm, ordered⟩)
  · by_cases empty : quiet = []
    · exact .inr ⟨by simp [empty], after empty⟩
    · have some_ := List.length_pos_of_ne_nil empty
      exact .inl (by simpa using some_)
  · intro moment begun ended hit
    have ⟨early, listed⟩ := moment.candle
    have hitThere := Level.hits_of_reached (moves _ _ listed) moment.inside hit
    have least : skipped.length ≤ moment.index := by
      cases begun with
      | inl far => exact le_of_lt far
      | inr here => exact le_of_eq here.1
    have most : moment.index ≤ skipped.length + quiet.length := by
      cases ended with
      | inl far => exact le_of_lt far
      | inr here => exact le_of_eq here.1
    cases Nat.lt_or_eq_of_le most with
    | inl sooner =>
      rw [(closes.quiet_at listed least sooner).2] at hitThere
      contradiction
    | inr last =>
      rw [last, ends] at listed
      rw [← Option.some.inj listed, closes.other] at hitThere
      contradiction
  · intro moment begun hit
    have ⟨early, listed⟩ := moment.candle
    have hitThere := Level.hits_of_reached (moves _ _ listed) moment.inside hit
    have least : skipped.length ≤ moment.index := by
      cases begun with
      | inl far => exact le_of_lt far
      | inr here => exact le_of_eq here.1
    apply Nat.le_of_not_lt
    intro sooner
    rw [(closes.quiet_at listed least sooner).1] at hitThere
    contradiction

/-- Paths that miss the level in an entry candle whose ends do not show it. -/
theorem shown_of_reaches (closes : Closes entry won other candles skipped [] candle back)
    (formed : ∀ candle ∈ candles, candle.Formed) (beyond : won.beyond entry)
    (reached : ∀ paths, Moves candles paths → ∃ entered reached : Moment candles,
      Reaches entry won other (skipped.length + 1) paths entered reached) :
    won.opensBefore entry candle = true ∨ won.closesBeyond candle = true := by
  by_contra hidden
  have ⟨opens, shuts⟩ : won.opensBefore entry candle = false ∧ won.closesBeyond candle = false := by
    simpa using hidden
  have moves : Moves candles fun index => (candles[index]?.map won.dodge).getD fun _ => 0 := by
    intro index early listed
    simpa [listed] using Level.dodge_spans (formed early (List.mem_of_getElem? listed))
  have ⟨entered, last, found⟩ := reached _ moves
  have ends : candles[skipped.length]? = some candle := by simpa using closes.candle_at
  have lastIndex : last.index = skipped.length := by
    have := found.reported
    omega
  have ⟨begun, listed⟩ := entered.candle
  have contained := Candle.contains_of_touch (moves _ _ listed) entered.inside found.touches
  have enteredIndex : entered.index = skipped.length := by
    apply Nat.le_antisymm
    · cases found.ordered with
      | inl far => omega
      | inr here => omega
    · apply Nat.le_of_not_lt
      intro before
      rw [closes.skipped_at listed before] at contained
      contradiction
  have after : entered.time ≤ last.time := by
    cases found.ordered with
    | inl far => omega
    | inr here => exact here.2
  have touched : won.dodge candle entered.time = entry := by
    simpa [enteredIndex, ends] using found.touches
  have hit : won.reachedBy (won.dodge candle last.time) := by
    simpa [lastIndex, ends] using found.reaches
  apply Level.dodge_misses (formed candle (List.mem_of_getElem? ends))
    (closes.enters candle rfl) beyond opens shuts entered.inside.1 touched after last.inside.2
  exact hit

theorem contains_of_entry (closes : Closes entry won other candles skipped [] candle back)
    (beyond : won.beyond entry) : candle.contains won.price = true := by
  have contained := closes.enters candle rfl
  have hit := closes.won
  cases side : won.above with
  | true =>
    have higher : entry < won.price := by simpa [Level.beyond, side] using beyond
    simp only [Candle.contains, Bool.and_eq_true, decide_eq_true_eq] at contained
    have least : candle.low ≤ won.price := le_trans contained.1 (le_of_lt higher)
    simpa [Candle.contains, Level.hits, side, least] using hit
  | false =>
    have lower : won.price < entry := by simpa [Level.beyond, side] using beyond
    simp only [Candle.contains, Bool.and_eq_true, decide_eq_true_eq] at contained
    have most : won.price ≤ candle.high := le_trans (le_of_lt lower) contained.2
    simpa [Candle.contains, Level.hits, side, most] using hit

/-- The outcome of a closing candle is justified exactly when the candle shows it. -/
theorem justified_iff (closes : Closes entry won other candles skipped quiet candle back)
    (formed : ∀ candle ∈ candles, candle.Formed) (beyond : won.beyond entry)
    {result : PaperResult} :
    Justified entry won other candles
        ⟨result, some won.price, skipped.length + quiet.length + 1⟩ ↔
      if quiet = [] then won.opensBefore entry candle ∨ won.closesBeyond candle
      else candle.contains won.price := by
  constructor
  · intro justified
    split_ifs with empty
    · subst empty
      exact closes.shown_of_reaches formed beyond justified.reached
    · have ⟨found, price, listed, booked, within⟩ := justified.within
      rw [Nat.add_sub_cancel, closes.candle_at] at listed
      rw [Option.some.inj listed, Option.some.inj booked]
      exact within
  · intro shown
    constructor
    · intro paths moves
      apply closes.reaches beyond ?_ moves
      intro empty
      simpa [empty] using shown
    · refine ⟨candle, won.price, ?_, rfl, ?_⟩
      · rw [Nat.add_sub_cancel]
        exact closes.candle_at
      · by_cases empty : quiet = []
        · subst empty
          exact closes.contains_of_entry beyond
        · simpa [empty] using shown

end Closes

/-! ## The outcomes that every price path bears out -/

section Outcomes

variable {signal : Signal} {entry target stop : ℚ} {candles skipped quiet back : List Candle}
  {candle : Candle}

theorem simulate_eq (ordered : Ordered signal entry target stop) :
    simulate signal candles =
      match scan signal.direction entry target stop false 1 candles with
      | .error outcome => outcome
      | .ok false => ⟨.notEntered, none, candles.length⟩
      | .ok true => ⟨.timeout, candles.getLast?.map (·.close), candles.length⟩ := by
  have ⟨entered, aimed, stopped, aligned⟩ := ordered
  cases aligned with
  | inl up => simp [simulate, entered, aimed, stopped, up.1]
  | inr down => simp [simulate, entered, aimed, stopped, down.1]

theorem verdict_none_iff {index : ℕ} :
    verdict signal.direction target stop candle index = none ↔
      (targetLevel signal target).hits candle = false ∧
        (stopLevel signal stop).hits candle = false := by
  simp only [verdict, hitTarget_eq, hitStop_eq]
  cases (targetLevel signal target).hits candle <;>
    cases (stopLevel signal stop).hits candle <;> simp

theorem verdict_some {index : ℕ} {outcome : PaperOutcome}
    (decided : verdict signal.direction target stop candle index = some outcome) :
    outcome.result = .ambiguous ∨
      (outcome = ⟨.target, some target, index⟩ ∧
        (targetLevel signal target).hits candle = true ∧
          (stopLevel signal stop).hits candle = false) ∨
      (outcome = ⟨.stop, some stop, index⟩ ∧ (stopLevel signal stop).hits candle = true ∧
        (targetLevel signal target).hits candle = false) := by
  simp only [verdict, hitTarget_eq, hitStop_eq] at decided
  cases up : (targetLevel signal target).hits candle <;>
    cases down : (stopLevel signal stop).hits candle <;>
      simp [up, down] at decided <;> simp [← decided]

/-- The loop ends at the candle that closes the trade. -/
theorem scan_closes
    (absent : ∀ early ∈ skipped, early.contains entry = false)
    (enters : ∀ first, (quiet ++ [candle]).head? = some first → first.contains entry = true)
    (silent : ∀ early ∈ quiet, (targetLevel signal target).hits early = false ∧
      (stopLevel signal stop).hits early = false) {outcome : PaperOutcome}
    (decided : verdict signal.direction target stop candle
      (skipped.length + quiet.length + 1) = some outcome) :
    scan signal.direction entry target stop false 1 (skipped ++ (quiet ++ candle :: back)) =
      .error outcome := by
  rw [scan_append, scan_absent absent]
  have ended : verdict signal.direction target stop candle
      (1 + skipped.length + quiet.length) = some outcome := by
    rw [← decided]
    congr 1
    omega
  cases begins : quiet with
  | nil =>
    have contained := enters candle (by simp [begins])
    rw [begins, List.length_nil, Nat.add_zero] at ended
    simp only [List.nil_append]
    rw [scan_entered (.inr contained), ended]
  | cons first rest =>
    have contained := enters first (by simp [begins])
    have entered : scan signal.direction entry target stop false (1 + skipped.length)
        (first :: rest ++ candle :: back) =
          scan signal.direction entry target stop true (1 + skipped.length)
            (first :: rest ++ candle :: back) := by
      rw [List.cons_append, scan_entered (.inr contained), scan_entered (.inl rfl)]
    have calm : ∀ early ∈ first :: rest, ∀ position,
        verdict signal.direction target stop early position = none :=
      fun early member position => verdict_none_iff.mpr (silent early (begins ▸ member))
    simp only
    rw [entered, scan_append, scan_quiet calm]
    simp only
    rw [scan_entered (.inl rfl), ← begins, ended]

theorem simulate_of_target (ordered : Ordered signal entry target stop)
    (closes : Closes entry (targetLevel signal target) (stopLevel signal stop) candles skipped
      quiet candle back) :
    simulate signal candles =
      ⟨.target, some target, skipped.length + quiet.length + 1⟩ := by
  rw [simulate_eq ordered, closes.split, scan_closes closes.absent closes.enters closes.quiet]
  simp [verdict, hitTarget_eq, hitStop_eq, closes.won, closes.other]

theorem simulate_of_stop (ordered : Ordered signal entry target stop)
    (closes : Closes entry (stopLevel signal stop) (targetLevel signal target) candles skipped
      quiet candle back) :
    simulate signal candles = ⟨.stop, some stop, skipped.length + quiet.length + 1⟩ := by
  rw [simulate_eq ordered, closes.split, scan_closes closes.absent closes.enters
    fun early member => (closes.quiet early member).symm]
  simp [verdict, hitTarget_eq, hitStop_eq, closes.won, closes.other]

theorem closes_of_simulate (ordered : Ordered signal entry target stop)
    (ended : (simulate signal candles).result ∈
      [PaperResult.target, PaperResult.stop, PaperResult.ambiguous]) :
    scan signal.direction entry target stop false 1 candles =
        .error (simulate signal candles) ∧
      ∃ skipped quiet candle back, candles = skipped ++ (quiet ++ candle :: back) ∧
        (∀ early ∈ skipped, early.contains entry = false) ∧
        (∀ first, (quiet ++ [candle]).head? = some first → first.contains entry = true) ∧
        (∀ early ∈ quiet, (targetLevel signal target).hits early = false ∧
          (stopLevel signal stop).hits early = false) ∧
        verdict signal.direction target stop candle (skipped.length + quiet.length + 1) =
          some (simulate signal candles) := by
  cases scanned : scan signal.direction entry target stop false 1 candles with
  | ok entered => cases entered <;> simp [simulate_eq ordered, scanned] at ended
  | error outcome =>
    have same : simulate signal candles = outcome := by rw [simulate_eq ordered, scanned]
    rw [same]
    have ⟨skipped, quiet, candle, back, split, absent, enters, silent, decided⟩ :=
      scan_error scanned
    refine ⟨rfl, skipped, quiet, candle, back, split, absent, enters, ?_, ?_⟩
    · intro early member
      have ⟨position, none_⟩ := silent early member
      exact verdict_none_iff.mp none_
    · rw [← decided]
      congr 1
      omega

theorem simulate_stable (ordered : Ordered signal entry target stop) (more : List Candle)
    (ended : (simulate signal candles).result ∈
      [PaperResult.target, PaperResult.stop, PaperResult.ambiguous]) :
    simulate signal (candles ++ more) = simulate signal candles := by
  rw [simulate_eq ordered, scan_append, (closes_of_simulate ordered ended).1]

/-- The outcomes of a signal are borne out by every price path exactly when the candles show
both levels. -/
theorem faithful_iff (ordered : Ordered signal entry target stop)
    (formed : ∀ candle ∈ candles, candle.Formed) :
    Faithful signal entry target stop candles ↔
      Shown entry (targetLevel signal target) (stopLevel signal stop) candles ∧
        Shown entry (stopLevel signal stop) (targetLevel signal target) candles := by
  have ⟨aim, guard⟩ := ordered.beyond
  constructor
  · intro faithful
    constructor
    · intro skipped quiet candle back closes
      have outcome := simulate_of_target ordered closes
      apply (closes.justified_iff formed aim).mp
      have justified := faithful.atTarget (by rw [outcome])
      rwa [outcome] at justified
    · intro skipped quiet candle back closes
      have outcome := simulate_of_stop ordered closes
      apply (closes.justified_iff formed guard).mp
      have justified := faithful.atStop (by rw [outcome])
      rwa [outcome] at justified
  · rintro ⟨shownTarget, shownStop⟩
    refine ⟨fun ended => ?_, fun ended => ?_, fun more ended => simulate_stable ordered more ended⟩
    · have closed : (simulate signal candles).result ∈
          [PaperResult.target, PaperResult.stop, PaperResult.ambiguous] := by simp [ended]
      have ⟨_, skipped, quiet, candle, back, split, absent, enters, silent, decided⟩ :=
        closes_of_simulate ordered closed
      cases verdict_some decided with
      | inl unclear => simp [ended] at unclear
      | inr clear =>
        cases clear with
        | inl up =>
          have closes : Closes entry (targetLevel signal target) (stopLevel signal stop)
              candles skipped quiet candle back :=
            ⟨split, absent, enters, silent, up.2.1, up.2.2⟩
          rw [up.1]
          exact (closes.justified_iff formed aim).mpr (shownTarget _ _ _ _ closes)
        | inr down => simp [down.1] at ended
    · have closed : (simulate signal candles).result ∈
          [PaperResult.target, PaperResult.stop, PaperResult.ambiguous] := by simp [ended]
      have ⟨_, skipped, quiet, candle, back, split, absent, enters, silent, decided⟩ :=
        closes_of_simulate ordered closed
      cases verdict_some decided with
      | inl unclear => simp [ended] at unclear
      | inr clear =>
        cases clear with
        | inl up => simp [up.1] at ended
        | inr down =>
          have closes : Closes entry (stopLevel signal stop) (targetLevel signal target)
              candles skipped quiet candle back :=
            ⟨split, absent, enters, fun early member => (silent early member).symm,
              down.2.1, down.2.2⟩
          rw [down.1]
          exact (closes.justified_iff formed guard).mpr (shownStop _ _ _ _ closes)

end Outcomes

/-! ## A target before the entry -/

private def buySignal : Signal where
  direction := .buy
  entryPrice := some 100
  targetPrice := some 104
  stopPrice := some 98
  grossExpectedReturnPct := some 4
  estimatedTradingCostPct := 1 / 5
  netExpectedReturnPct := some (19 / 5)
  positionSize := 500
  accountRiskPct := 1
  holdReason := none

private theorem buySignal_ordered : Ordered buySignal 100 104 98 where
  entryPrice := rfl
  targetPrice := rfl
  stopPrice := rfl
  aligned := .inl ⟨rfl, by decide +kernel⟩

private def fallingCandle : Candle where
  openPrice := 103
  high := 105
  low := 99
  close := 100

private theorem fallingCandle_formed : fallingCandle.Formed where
  low := by decide +kernel
  high := by decide +kernel

theorem faithful_iff_falling :
    Ordered buySignal 100 104 98 ∧ (∀ candle ∈ [fallingCandle], candle.Formed) ∧
      (Faithful buySignal 100 104 98 [fallingCandle] ↔
        Shown 100 (targetLevel buySignal 104) (stopLevel buySignal 98) [fallingCandle] ∧
          Shown 100 (stopLevel buySignal 98) (targetLevel buySignal 104) [fallingCandle]) := by
  have formed : ∀ candle ∈ [fallingCandle], candle.Formed := by
    simpa using fallingCandle_formed
  exact ⟨buySignal_ordered, formed, faithful_iff buySignal_ordered formed⟩

/-- The candle opens above the entry and has its maximum before it comes down to the entry. -/
theorem fallingCandle_not_faithful :
    Ordered buySignal 100 104 98 ∧ fallingCandle.Formed ∧
      ¬ Faithful buySignal 100 104 98 [fallingCandle] := by
  refine ⟨buySignal_ordered, fallingCandle_formed, fun faithful => ?_⟩
  have closes : Closes 100 (targetLevel buySignal 104) (stopLevel buySignal 98)
      [fallingCandle] [] [] fallingCandle [] := by
    refine ⟨rfl, by simp, ?_, by simp, by decide +kernel, by decide +kernel⟩
    intro first begins
    cases begins
    decide +kernel
  have outcome := simulate_of_target buySignal_ordered closes
  have justified := faithful.atTarget (by rw [outcome])
  rw [outcome] at justified
  have shown := (closes.justified_iff (by simpa using fallingCandle_formed)
    buySignal_ordered.beyond.1).mp justified
  have hidden : ¬ ((targetLevel buySignal 104).opensBefore 100 fallingCandle = true ∨
      (targetLevel buySignal 104).closesBeyond fallingCandle = true) := by decide +kernel
  exact hidden (by simpa using shown)

end ReisOs.TradingRuntime.Paper
