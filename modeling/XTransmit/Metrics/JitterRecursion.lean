import XTransmit.Metrics.LatencyPeriods
import Mathlib.Tactic.Linarith

set_option autoImplicit false

namespace XTransmit.Metrics

structure Sample where
  timestamp : Int64
  arrivalTime : Int64

def Sample.delay (sample : Sample) : Int64 := sample.arrivalTime - sample.timestamp

def Sample.shift (offset : Int64) (sample : Sample) : Sample :=
  { sample with arrivalTime := sample.arrivalTime + offset }

def relativeTransitTime (previous delay : Int64) : Int := (durationCastMicroseconds (delay - previous)).toInt

def Jitter.after (samples : Nat → Sample) : Nat → Jitter
  | 0 => {}
  | count + 1 => (Jitter.after samples count).submitSample (samples count).timestamp (samples count).arrivalTime

def rfc3550 (delay : Nat → Int64) : Nat → ℚ
  | 0 | 1 => 0
  | count + 2 => (15 * rfc3550 delay (count + 1) + (relativeTransitTime (delay count) (delay (count + 1))).natAbs) / 16

def FollowsRfc3550 (samples : Nat → Sample) (offset : Int64) (count : Nat) : Prop :=
  ∀ k ≤ count, (Jitter.after samples k).jitter = rfc3550 (fun i => (samples i).delay) k ∧
    (Jitter.after (fun i => (samples i).shift offset) k).jitter = (Jitter.after samples k).jitter

/-- A delay of zero is followed only by a difference that leaves the estimate where it is. -/
def ZeroHarmless (delay : Nat → Int64) (count : Nat) : Prop :=
  ∀ k, k + 2 ≤ count → delay k = 0 →
    ((relativeTransitTime 0 (delay (k + 1))).natAbs : ℚ) = rfc3550 delay (k + 1)

theorem relativeTransitTime_exact {previous delay : Int64}
    (fits : -2 ^ 63 ≤ delay.toInt - previous.toInt ∧ delay.toInt - previous.toInt < 2 ^ 63) :
    relativeTransitTime previous delay = (delay.toInt - previous.toInt).tdiv 1000 :=
  sampleDelay_exact fits

@[simp] theorem shift_delay (offset : Int64) (sample : Sample) :
    (sample.shift offset).delay = sample.delay + offset := by
  simp only [Sample.delay, Sample.shift]
  grind

@[simp] theorem relativeTransitTime_shift (previous delay offset : Int64) :
    relativeTransitTime (previous + offset) (delay + offset) = relativeTransitTime previous delay := by
  have cancelled : delay + offset - (previous + offset) = delay - previous := by grind
  rw [relativeTransitTime, cancelled, relativeTransitTime]

section Recursion

variable (samples : Nat → Sample)

@[simp] theorem after_prevDelay (count : Nat) : (Jitter.after samples (count + 1)).prevDelay = (samples count).delay :=
  rfl

theorem after_jitter (count : Nat) :
    (Jitter.after samples (count + 2)).jitter =
      if (samples count).delay ≠ 0 then
        (15 * (Jitter.after samples (count + 1)).jitter +
          (relativeTransitTime (samples count).delay (samples (count + 1)).delay).natAbs) / 16
      else (Jitter.after samples (count + 1)).jitter := by
  rw [mul_comm]
  rfl

theorem rfc3550_shift (delay : Nat → Int64) (offset : Int64) (count : Nat) :
    rfc3550 (fun i => delay i + offset) count = rfc3550 delay count := by
  induction count with
  | zero => rfl
  | succ count ih =>
      cases count with
      | zero => rfl
      | succ count => rw [rfc3550, rfc3550, ih, relativeTransitTime_shift]

theorem jitter_eq_rfc3550_iff (count : Nat) :
    (∀ k ≤ count, (Jitter.after samples k).jitter = rfc3550 (fun i => (samples i).delay) k) ↔
      ZeroHarmless (fun i => (samples i).delay) count := by
  constructor
  · intro follows k inside zero
    have before := follows (k + 1) (by omega)
    have after := follows (k + 2) inside
    simp only at zero
    rw [after_jitter, if_neg (by simp [zero]), before, rfc3550, zero] at after
    linarith
  · intro harmless k inside
    induction k with
    | zero => rfl
    | succ k ih =>
        cases k with
        | zero => rfl
        | succ k =>
            have before := ih (by omega)
            rw [after_jitter, rfc3550, before]
            split
            next => rfl
            next zero =>
              have zero : (samples k).delay = 0 := not_not.mp zero
              have still := harmless k inside zero
              simp only at still
              rw [zero, still]
              linarith

end Recursion

theorem jitter_follows_rfc3550_iff (samples : Nat → Sample) (offset : Int64) (count : Nat) :
    FollowsRfc3550 samples offset count ↔
      ZeroHarmless (fun i => (samples i).delay) count ∧ ZeroHarmless (fun i => (samples i).delay + offset) count := by
  have plain := jitter_eq_rfc3550_iff samples count
  have shifted := jitter_eq_rfc3550_iff (fun i => (samples i).shift offset) count
  simp only [shift_delay, rfc3550_shift (fun i => (samples i).delay)] at shifted
  rw [← plain, ← shifted]
  constructor
  · intro follows
    exact ⟨fun k inside => (follows k inside).1, fun k inside => (follows k inside).2.trans (follows k inside).1⟩
  · intro follows k inside
    exact ⟨follows.1 k inside, (follows.2 k inside).trans (follows.1 k inside).symm⟩

-- Delays of 0 and 1000 nanoseconds, and the same with an origin one nanosecond earlier.
theorem zero_delay_skips_difference :
    ¬ FollowsRfc3550 (fun i => ⟨0, if i = 0 then 0 else 1000⟩) 1 2 ∧
      (Jitter.after (fun i => ⟨0, if i = 0 then 0 else 1000⟩) 2).jitter = 0 ∧
      rfc3550 (fun i => if i = 0 then 0 else 1000) 2 = 1 / 16 ∧
      (Jitter.after (fun i => Sample.shift 1 ⟨0, if i = 0 then 0 else 1000⟩) 2).jitter = 1 / 16 := by
  have estimate : (Jitter.after (fun i => ⟨0, if i = 0 then 0 else 1000⟩) 2).jitter = 0 := by decide +kernel
  have shifted : (Jitter.after (fun i => Sample.shift 1 ⟨0, if i = 0 then 0 else 1000⟩) 2).jitter = 1 / 16 := by
    decide +kernel
  refine ⟨?_, estimate, by decide +kernel, shifted⟩
  intro follows
  have same := (follows 2 (Nat.le_refl 2)).2
  rw [estimate, shifted] at same
  norm_num at same

end XTransmit.Metrics
