import Mathlib.Data.Int.Order.Basic
import Mathlib.Tactic.Linarith

set_option autoImplicit false

namespace XTransmit.Streams

structure GenerateConfig where
  numMessages : Int32 := -1
  duration : Int32 := 0
  messageSize : Int32 := 1316
  deriving DecidableEq, Repr

-- One pass: the flag as the loop loads it, the clock for the duration, the write, the clock behind it.
structure Round where
  forceBreak : Bool := false
  checkedAt : Int := 0
  written : Bool := true
  tnow : Int
  deriving DecidableEq, Repr

structure GenerateLoop where
  i : Int := 0
  prevI : Int := 0
  statTime : Int
  kbps : List Int := []
  deriving DecidableEq, Repr

-- The value of an `int` expression; an overflow has no defined behaviour.
def intExpr (value : Int) : Option Int :=
  if -2147483648 ≤ value ∧ value ≤ 2147483647 then some value else none

namespace GenerateConfig

variable (config : GenerateConfig)

def messageLimit : Int := if config.duration.toInt > 0 then -1 else config.numMessages.toInt

def continues (i : Int) (round : Round) : Bool :=
  (config.messageLimit < 0 || i < config.messageLimit) && !round.forceBreak

def expired (startTime : Int) (round : Round) : Bool :=
  config.duration.toInt > 0 && round.checkedAt - startTime > 1000000000 * config.duration.toInt

def logRate (loop : GenerateLoop) (tnow : Int) : Option GenerateLoop :=
  if tnow > loop.statTime + 1000000000 then do
    let n ← intExpr (loop.i - loop.prevI)
    let octets ← intExpr (8 * n)
    let bits ← intExpr (octets * config.messageSize.toInt)
    let elapsedMs := (tnow - loop.statTime).tdiv 1000000
    -- The quotient and `bps` are `long long`. A zero divisor is undefined as well.
    if elapsedMs = 0 then none
    else
      let bps := bits.tdiv elapsedMs * 1000
      some { loop with statTime := tnow, prevI := loop.i, kbps := loop.kbps ++ [bps.tdiv 1000] }
  else some loop

-- A write that throws ends the loop like its own exits do.
def run (startTime : Int) : GenerateLoop → List Round → Option GenerateLoop
  | loop, [] => some loop
  | loop, round :: later =>
      if !config.continues loop.i round then some loop
      else if config.expired startTime round then some loop
      else if !round.written then some loop
      else do
        let loop ← config.logRate loop round.tnow
        let i ← intExpr (loop.i + 1)
        run startTime { loop with i := i } later

-- The clock behind every message that is written, for a count without bounds.
def sendTimes (startTime : Int) : Nat → List Round → List Int
  | _, [] => []
  | sent, round :: later =>
      if !config.continues sent round || config.expired startTime round || !round.written then []
      else round.tnow :: sendTimes startTime (sent + 1) later

end GenerateConfig

structure Interval where
  n : Nat
  elapsed : Int
  deriving DecidableEq, Repr

def intervals : Nat → Nat → Int → List Int → List Interval
  | _, _, _, [] => []
  | index, previous, statTime, tnow :: later =>
      if tnow > statTime + 1000000000 then
        { n := index - previous, elapsed := tnow - statTime } :: intervals (index + 1) index tnow later
      else intervals (index + 1) previous statTime later

def Interval.elapsedMs (interval : Interval) : Int := interval.elapsed / 1000000

def Interval.rate (interval : Interval) (messageSize : Int32) : Int :=
  8 * interval.n * messageSize.toInt / interval.elapsedMs

def GenerateConfig.reports (config : GenerateConfig) (startTime statTime : Int) (rounds : List Round) : List Interval :=
  intervals 0 0 statTime (config.sendTimes startTime 0 rounds)

def ArithmeticSafe (config : GenerateConfig) (startTime statTime : Int) (rounds : List Round) : Prop :=
  ∃ final, config.run startTime { statTime := statTime } rounds = some final ∧
    final.kbps = (config.reports startTime statTime rounds).map (·.rate config.messageSize) ∧
    ∀ interval ∈ config.reports startTime statTime rounds, interval.elapsedMs ≠ 0

def Fits (messageSize : Int32) (interval : Interval) : Prop := 8 * interval.n * messageSize.toInt ≤ 2147483647

instance (messageSize : Int32) : DecidablePred (Fits messageSize) := fun _ => inferInstanceAs (Decidable (_ ≤ _))

section Loop

variable {config : GenerateConfig} {loop : GenerateLoop} {startTime tnow : Int} {index previous : Nat}

theorem intExpr_some {value : Int} (low : 0 ≤ value) (high : value ≤ 2147483647) : intExpr value = some value :=
  if_pos ⟨by omega, high⟩

theorem intExpr_none {value : Int} (high : 2147483647 < value) : intExpr value = none :=
  if_neg (by omega)

theorem intExpr_eq_some {value result : Int} (fits : intExpr value = some result) :
    result = value ∧ value ≤ 2147483647 := by
  obtain ⟨bounds, same⟩ := Option.ite_none_right_eq_some.mp fits
  exact ⟨(Option.some.inj same).symm, bounds.2⟩

theorem elapsedMs_ge {interval : Interval} (late : 1000000000 < interval.elapsed) : 1000 ≤ interval.elapsedMs := by
  unfold Interval.elapsedMs
  omega

theorem intervals_elapsed (index previous : Nat) (statTime : Int) (times : List Int) :
    ∀ interval ∈ intervals index previous statTime times, 1000000000 < interval.elapsed := by
  induction times generalizing index previous statTime with
  | nil => simp [intervals]
  | cons tnow later ih =>
      rw [intervals]
      split
      next due =>
        intro interval member
        rcases List.mem_cons.mp member with same | rest
        · rw [same]
          exact Int.lt_sub_left_of_add_lt due
        · exact ih _ _ _ interval rest
      next => exact ih _ _ _

-- The product is evaluated from the left; with a size of at least one, 8 * n fits when it does.
theorem product_eq {interval : Interval} {messageSize : Int32} (positive : 1 ≤ messageSize.toInt) :
    ((intExpr (8 * interval.n)).bind fun octets => intExpr (octets * messageSize.toInt)) =
      if Fits messageSize interval then some (8 * interval.n * messageSize.toInt) else none := by
  have octets : 8 * (interval.n : Int) ≤ 8 * interval.n * messageSize.toInt :=
    le_mul_of_one_le_right (by omega) positive
  split
  next fits =>
    rw [intExpr_some (by omega) (octets.trans fits), Option.bind_some, intExpr_some (by omega) fits]
  next exceeds =>
    have overflow : 2147483647 < 8 * (interval.n : Int) * messageSize.toInt := not_le.mp exceeds
    by_cases small : 8 * (interval.n : Int) ≤ 2147483647
    next => rw [intExpr_some (by omega) small, Option.bind_some, intExpr_none overflow]
    next => rw [intExpr_none (by omega), Option.bind_none]

theorem logRate_due (positive : 1 ≤ config.messageSize.toInt) (counts : loop.i = index) (last : loop.prevI = previous)
    (ordered : previous ≤ index) (inside : index ≤ 2147483647) (due : tnow > loop.statTime + 1000000000) :
    let interval : Interval := { n := index - previous, elapsed := tnow - loop.statTime }
    config.logRate loop tnow =
      if Fits config.messageSize interval then
        some { loop with
          statTime := tnow
          prevI := loop.i
          kbps := loop.kbps ++ [interval.rate config.messageSize] }
      else none := by
  intro interval
  have gap : intExpr (loop.i - loop.prevI) = some (interval.n : Int) := by
    have same : loop.i - loop.prevI = interval.n := by
      simp only [counts, last, interval]
      omega
    rw [same]
    exact intExpr_some (by omega) (by simp only [interval]; omega)
  have nonneg : 0 ≤ 8 * (interval.n : Int) * config.messageSize.toInt := by positivity
  have divisor : (tnow - loop.statTime).tdiv 1000000 = interval.elapsedMs :=
    Int.tdiv_eq_ediv_of_nonneg (by omega)
  have late : 1000 ≤ interval.elapsedMs := elapsedMs_ge (show 1000000000 < tnow - loop.statTime by omega)
  simp only [GenerateConfig.logRate, if_pos due, gap, Option.bind_eq_bind, Option.bind_some, divisor]
  rw [← Option.bind_assoc, product_eq positive]
  by_cases fits : Fits config.messageSize interval
  next =>
    rw [if_pos fits, if_pos fits, Option.bind_some, if_neg (by omega), Int.mul_tdiv_cancel _ (by decide),
      Int.tdiv_eq_ediv_of_nonneg nonneg]
    rfl
  next => rw [if_neg fits, if_neg fits, Option.bind_none]

theorem logRate_early (early : ¬tnow > loop.statTime + 1000000000) : config.logRate loop tnow = some loop :=
  if_neg early

def ends (config : GenerateConfig) (startTime i : Int) (round : Round) : Bool :=
  !config.continues i round || config.expired startTime round || !round.written

theorem run_ends {round : Round} (last : ends config startTime loop.i round) (later : List Round) :
    config.run startTime loop (round :: later) = some loop := by
  simp only [ends, Bool.or_eq_true] at last
  rw [GenerateConfig.run]
  split_ifs <;> simp_all

theorem run_goes_on {round : Round} (goes : ¬ends config startTime loop.i round) (later : List Round) :
    config.run startTime loop (round :: later) = (config.logRate loop round.tnow).bind fun loop =>
      (intExpr (loop.i + 1)).bind fun i => config.run startTime { loop with i := i } later := by
  simp only [ends, Bool.or_eq_true, not_or] at goes
  rw [GenerateConfig.run, if_neg goes.1.1, if_neg goes.1.2, if_neg goes.2]
  rfl

theorem sendTimes_goes_on {round : Round} (goes : ¬ends config startTime index round) (later : List Round) :
    config.sendTimes startTime index (round :: later) = round.tnow :: config.sendTimes startTime (index + 1) later :=
  if_neg goes

theorem run_defined (positive : 1 ≤ config.messageSize.toInt) (counts : loop.i = index) (last : loop.prevI = previous)
    (ordered : previous ≤ index) (rounds : List Round)
    (inside : index + (config.sendTimes startTime index rounds).length ≤ 2147483647)
    (fits : ∀ interval ∈ intervals index previous loop.statTime (config.sendTimes startTime index rounds),
      Fits config.messageSize interval) :
    ∃ final, config.run startTime loop rounds = some final ∧ final.kbps = loop.kbps ++
      (intervals index previous loop.statTime (config.sendTimes startTime index rounds)).map
        (·.rate config.messageSize) := by
  induction rounds generalizing loop index previous with
  | nil => exact ⟨loop, rfl, by simp [GenerateConfig.sendTimes, intervals]⟩
  | cons round later ih =>
      by_cases stop : ends config startTime index round
      next =>
        have none : config.sendTimes startTime index (round :: later) = [] := if_pos stop
        exact ⟨loop, run_ends (counts ▸ stop) later, by simp [none, intervals]⟩
      next =>
        rw [sendTimes_goes_on stop] at inside fits ⊢
        rw [List.length_cons] at inside
        have advance : intExpr (loop.i + 1) = some ((index + 1 : Nat) : Int) := by
          rw [counts]
          exact intExpr_some (by omega) (by omega)
        rw [run_goes_on (counts ▸ stop)]
        by_cases due : round.tnow > loop.statTime + 1000000000
        next =>
          rw [intervals, if_pos due] at fits ⊢
          obtain ⟨here, rest⟩ := List.forall_mem_cons.mp fits
          rw [logRate_due positive counts last ordered (by omega) due, if_pos here, Option.bind_some, advance,
            Option.bind_some]
          obtain ⟨final, taken, logged⟩ := @ih { loop with
            i := ((index + 1 : Nat) : Int)
            statTime := round.tnow
            prevI := loop.i
            kbps := loop.kbps ++ [_] } (index + 1) index rfl counts (by omega) (by omega) rest
          exact ⟨final, taken, by simpa using logged⟩
        next =>
          rw [intervals, if_neg due] at fits ⊢
          rw [logRate_early due, Option.bind_some, advance, Option.bind_some]
          exact @ih { loop with i := ((index + 1 : Nat) : Int) } (index + 1) previous rfl last (by omega) (by omega) fits

theorem run_fits (positive : 1 ≤ config.messageSize.toInt) (counts : loop.i = index) (last : loop.prevI = previous)
    (ordered : previous ≤ index) (start : index ≤ 2147483647) (rounds : List Round) {final : GenerateLoop}
    (taken : config.run startTime loop rounds = some final) :
    index + (config.sendTimes startTime index rounds).length ≤ 2147483647 ∧
      ∀ interval ∈ intervals index previous loop.statTime (config.sendTimes startTime index rounds),
        Fits config.messageSize interval := by
  induction rounds generalizing loop index previous with
  | nil => simp [GenerateConfig.sendTimes, intervals, start]
  | cons round later ih =>
      by_cases stop : ends config startTime index round
      next =>
        have none : config.sendTimes startTime index (round :: later) = [] := if_pos stop
        simp [none, intervals, start]
      next =>
        rw [run_goes_on (counts ▸ stop)] at taken
        obtain ⟨reported, logging, continued⟩ := Option.bind_eq_some_iff.mp taken
        obtain ⟨i, advance, continued⟩ := Option.bind_eq_some_iff.mp continued
        rw [sendTimes_goes_on stop, List.length_cons]
        by_cases due : round.tnow > loop.statTime + 1000000000
        next =>
          rw [logRate_due positive counts last ordered start due] at logging
          obtain ⟨here, logged⟩ := Option.ite_none_right_eq_some.mp logging
          cases Option.some.inj logged
          obtain ⟨next, high⟩ := intExpr_eq_some (show intExpr (loop.i + 1) = some i from advance)
          have later := @ih { loop with i := i, statTime := _, prevI := _, kbps := _ } (index + 1) index
            (show i = ((index + 1 : Nat) : Int) by omega) counts (by omega) (by omega) continued
          rw [intervals, if_pos due, List.forall_mem_cons]
          exact ⟨by omega, here, later.2⟩
        next =>
          rw [logRate_early due] at logging
          cases Option.some.inj logging
          obtain ⟨next, high⟩ := intExpr_eq_some advance
          have later := @ih { loop with i := i } (index + 1) previous
            (show i = ((index + 1 : Nat) : Int) by omega) last (by omega) (by omega) continued
          rw [intervals, if_neg due]
          exact ⟨by omega, later.2⟩

end Loop

theorem generator_arithmetic_safe_iff (config : GenerateConfig) (positive : 1 ≤ config.messageSize.toInt)
    (startTime statTime : Int) (rounds : List Round) :
    ArithmeticSafe config startTime statTime rounds ↔
      (config.sendTimes startTime 0 rounds).length ≤ 2147483647 ∧
        ∀ interval ∈ config.reports startTime statTime rounds, Fits config.messageSize interval := by
  constructor
  · rintro ⟨final, taken, -⟩
    have bounds := @run_fits config { statTime := statTime } startTime 0 0 positive rfl rfl (by omega) (by omega)
      rounds final taken
    simpa [GenerateConfig.reports] using bounds
  · rintro ⟨inside, fits⟩
    obtain ⟨final, taken, logged⟩ := @run_defined config { statTime := statTime } startTime 0 0 positive rfl rfl
      (by omega) rounds (by simpa using inside) fits
    refine ⟨final, taken, by simpa [GenerateConfig.reports] using logged, fun interval member => ?_⟩
    have divisor := elapsedMs_ge (intervals_elapsed _ _ _ _ interval member)
    omega

def largeMessages : GenerateConfig := { messageSize := 8388608 }

def steadyRounds (count : Nat) : List Round :=
  (List.range count).map fun (index : Nat) => { tnow := 32000000 * index }

theorem generator_arithmetic_safe_one_report :
    let config : GenerateConfig := { messageSize := 4194304 }
    config.reports 0 0 (steadyRounds 33) = [{ n := 32, elapsed := 1024000000 }] ∧
      (config.run 0 { statTime := 0 } (steadyRounds 33)).map (·.kbps) = some [1048576] ∧
      ArithmeticSafe config 0 0 (steadyRounds 33) :=
  ⟨by decide, by decide, (generator_arithmetic_safe_iff _ (by decide) 0 0 (steadyRounds 33)).mpr (by decide)⟩

-- The report of the 33rd message multiplies 8 by 32 messages by 2^23 bytes.
theorem generator_overflows_at_eight_mebibytes : ¬ArithmeticSafe largeMessages 0 0 (steadyRounds 33) := by
  have undefined : largeMessages.run 0 { statTime := 0 } (steadyRounds 33) = none := by decide
  rintro ⟨final, taken, -⟩
  rw [undefined] at taken
  cases taken

end XTransmit.Streams
