import XTransmit.Pacing.Pacer

set_option autoImplicit false

namespace XTransmit.Pacing

open Transition

section Intervals

variable {messageSize : Int32} {lower higher : Int32}

def NotFaster (messageSize lower higher : Int32) : Prop :=
  calcMsgIntervalUs higher messageSize ≤ calcMsgIntervalUs lower messageSize ∧
    ∀ (spinWait : Bool) (lastSndTime timedevUs : Int),
      Pacer.nextTime ⟨spinWait, calcMsgIntervalUs higher messageSize, lastSndTime, timedevUs⟩ ≤
        Pacer.nextTime ⟨spinWait, calcMsgIntervalUs lower messageSize, lastSndTime, timedevUs⟩

theorem msgsPer10s_eq {rate : Int32} (positive : 0 < rate.toInt) :
    msgsPer10s rate messageSize = rate.toInt / 8 * 10 / messageSize.toInt := by
  have bytes : rate.toInt.tdiv 8 = rate.toInt / 8 := Int.tdiv_eq_ediv_of_nonneg (by omega)
  rw [msgsPer10s, bytes, Int.tdiv_eq_ediv_of_nonneg (by omega)]

theorem calcMsgIntervalUs_eq {rate : Int32} (positive : 0 < rate.toInt) :
    calcMsgIntervalUs rate messageSize =
      if rate.toInt / 8 * 10 < messageSize.toInt then 0
      else 10000000 / (rate.toInt / 8 * 10 / messageSize.toInt) := by
  rw [calcMsgIntervalUs, msgsPer10s_eq positive, Int.tdiv_eq_ediv_of_nonneg (by decide)]
  split
  next some =>
    rw [if_neg]
    intro few
    exact some (Int.ediv_eq_zero_of_lt (by omega) few)
  next none =>
    split
    next => rfl
    next => rw [not_not.mp none, Int.ediv_zero]

theorem nextTime_mono {spinWait : Bool} {shorter longer lastSndTime timedevUs : Int} (ordered : shorter ≤ longer) :
    Pacer.nextTime ⟨spinWait, shorter, lastSndTime, timedevUs⟩ ≤
      Pacer.nextTime ⟨spinWait, longer, lastSndTime, timedevUs⟩ := by
  simp only [Pacer.nextTime, Pacer.interSendUs]
  split <;> split <;> omega

theorem interval_antitone {fewer more : Int} (some : 0 < fewer) (ordered : fewer ≤ more) :
    10000000 / more ≤ 10000000 / fewer := by
  have positive : 0 ≤ 10000000 / more := Int.ediv_nonneg (by decide) (by omega)
  rw [Int.le_ediv_iff_mul_le some]
  calc 10000000 / more * fewer
      ≤ 10000000 / more * more := Int.mul_le_mul_of_nonneg_left ordered positive
    _ ≤ 10000000 := Int.ediv_mul_le _ (by omega)

theorem interval_nonpos_iff {messages : Int} (some : 0 < messages) :
    10000000 / messages ≤ 0 ↔ 10000000 < messages := by
  rw [← Int.lt_add_one_iff, Int.ediv_lt_iff_lt_mul some, Int.zero_add, Int.one_mul]

theorem messages_pos {bytes size : Int} (sized : 1 ≤ size) (enough : size ≤ bytes) : 0 < bytes / size := by
  rw [← Int.add_one_le_iff, Int.le_ediv_iff_mul_le (by omega)]
  omega

theorem interval_monotone_iff (messageSize lower higher : Int32) (sized : 1 ≤ messageSize.toInt)
    (positive : 0 < lower.toInt) (ordered : lower.toInt ≤ higher.toInt) :
    NotFaster messageSize lower higher ↔
      messageSize.toInt ≤ lower.toInt / 8 * 10 ∨ higher.toInt / 8 * 10 < messageSize.toInt ∨
        10000001 * messageSize.toInt ≤ higher.toInt / 8 * 10 := by
  have intervals : NotFaster messageSize lower higher ↔
      calcMsgIntervalUs higher messageSize ≤ calcMsgIntervalUs lower messageSize :=
    ⟨And.left, fun ordered => ⟨ordered, fun _ _ _ => nextTime_mono ordered⟩⟩
  have bytes : lower.toInt / 8 * 10 ≤ higher.toInt / 8 * 10 := by omega
  rw [intervals, calcMsgIntervalUs_eq positive, calcMsgIntervalUs_eq (by omega)]
  by_cases few : lower.toInt / 8 * 10 < messageSize.toInt
  · rw [if_pos few]
    by_cases none : higher.toInt / 8 * 10 < messageSize.toInt
    · simp [none]
    · have some := messages_pos sized (Int.not_lt.mp none)
      rw [if_neg none, interval_nonpos_iff some, ← Int.add_one_le_iff, Int.le_ediv_iff_mul_le (by omega)]
      omega
  · have some := messages_pos sized (Int.not_lt.mp few)
    rw [if_neg few, if_neg (by omega)]
    have ordered := interval_antitone some (Int.ediv_le_ediv (by omega) bytes)
    simp only [ordered, true_iff]
    omega

theorem interval_monotone_iff_plain :
    NotFaster 1316 1000000 2000000 :=
  (interval_monotone_iff 1316 1000000 2000000 (by decide) (by decide) (by decide)).mpr (by decide)

-- At 1000 bit/s a message of 1316 bytes takes more than ten seconds, and is sent with no interval.
theorem low_rate_sends_without_interval :
    ¬ NotFaster 1316 1000 1000000 ∧ calcMsgIntervalUs 1000 1316 = 0 ∧ calcMsgIntervalUs 1000000 1316 = 10537 := by
  refine ⟨fun notFaster => absurd notFaster.1 (by decide), by decide, by decide⟩

end Intervals

section Drift

def Punctual (run : Run) (call : Call) : Prop :=
  Undisturbed run call ∧
    ∀ timeNow ∈ run.pacer.timeNow call.polls, timeNow ≤ run.pacer.nextTime + 1000 * run.pacer.msgIntervalUs

def WholeMicroseconds (run : Run) (call : Call) : Prop :=
  ∀ timeNow ∈ run.pacer.timeNow call.polls, 1000 ∣ timeNow - run.pacer.lastSndTime

instance (run : Run) (call : Call) : Decidable (Punctual run call) := inferInstanceAs (Decidable (_ ∧ _))

instance (run : Run) (call : Call) : Decidable (WholeMicroseconds run call) :=
  inferInstanceAs (Decidable (∀ _ ∈ _, _))

def OnTarget (interval start : Int) (run : Run) : Prop :=
  run.pacer.nextTime = start + 1000 * ((run.returns.length + 1) * interval)

def drift (interval start : Int) (run : Run) : Int :=
  run.pacer.nextTime - (start + 1000 * ((run.returns.length + 1) * interval))

structure InStep (interval : Int) (run : Run) : Prop where
  spins : run.pacer.spinWait = true
  rate : run.pacer.msgIntervalUs = interval
  caught : run.pacer.timedevUs ≤ interval

variable {interval : Int}

theorem InStep.nextTime_eq {run : Run} (inStep : InStep interval run) :
    run.pacer.nextTime = run.pacer.lastSndTime + 1000 * (interval - run.pacer.timedevUs) := by
  simp only [Pacer.nextTime, Pacer.interSendUs, inStep.rate]
  rw [if_neg (Int.not_lt.mpr inStep.caught)]

theorem InStep.call {run next : Run} {label : Call} (inStep : InStep interval run) (punctual : Punctual run label)
    (taken : call run label = some next) (start : Int) :
    InStep interval next ∧ ∃ timeNow ∈ run.pacer.timeNow label.polls,
      drift interval start next = drift interval start run + (timeNow - run.pacer.lastSndTime) % 1000 := by
  obtain ⟨pacer, waited, rfl⟩ := Option.map_eq_some_iff.mp taken
  obtain ⟨timeNow, read, rfl⟩ := Option.map_eq_some_iff.mp waited
  have order := undisturbed_reading punctual.1 read
  have late := punctual.2 timeNow read
  rw [inStep.nextTime_eq, inStep.rate] at late
  have truncated : (timeNow - run.pacer.lastSndTime).tdiv 1000 = (timeNow - run.pacer.lastSndTime) / 1000 :=
    Int.tdiv_eq_ediv_of_nonneg (by omega)
  have kept : InStep interval
      { pacer := run.pacer.record timeNow, returns := run.returns ++ [label.returned] } := by
    refine ⟨inStep.spins, inStep.rate, ?_⟩
    simp only [Pacer.record, truncated, inStep.rate]
    omega
  refine ⟨kept, timeNow, read, ?_⟩
  rw [drift, drift, kept.nextTime_eq, inStep.nextTime_eq]
  simp only [Pacer.record, truncated, inStep.rate, List.length_append, List.length_singleton, Nat.cast_add, Nat.cast_one]
  have fraction := Int.emod_add_mul_ediv (timeNow - run.pacer.lastSndTime) 1000
  linarith

theorem drift_kept_iff (start : Int) (calls : List Call) {run final : Run} (inStep : InStep interval run)
    (punctual : AllowedRun call Punctual run calls) (ran : Transition.run call run calls = some final) :
    (∀ count state, Transition.run call run (calls.take count) = some state →
        drift interval start state = drift interval start run) ↔
      AllowedRun call WholeMicroseconds run calls := by
  induction calls generalizing run with
  | nil =>
      refine ⟨fun _ => trivial, ?_⟩
      intro _ count state same
      rw [List.take_nil] at same
      cases same
      rfl
  | cons label rest ih =>
      obtain ⟨next, taken, continued⟩ := Option.bind_eq_some_iff.mp ran
      obtain ⟨kept, timeNow, read, lost⟩ := inStep.call punctual.1 taken start
      have whole : WholeMicroseconds run label ↔ drift interval start next = drift interval start run := by
        rw [WholeMicroseconds, read, lost]
        simp only [Option.mem_some_iff, forall_eq']
        omega
      have later := ih kept (punctual.2 next taken) continued
      constructor
      · intro same
        have first := same 1 next (by simp [Transition.run, taken])
        refine ⟨whole.mpr first, fun other reached => ?_⟩
        cases taken.symm.trans reached
        refine later.mp fun count state reached => ?_
        exact (same (count + 1) state (by simpa [Transition.run, taken] using reached)).trans first.symm
      · rintro ⟨here, others⟩ count state reached
        cases count with
        | zero =>
            cases reached
            rfl
        | succ count =>
            have reached : Transition.run call next (rest.take count) = some state := by
              simpa [Transition.run, taken] using reached
            exact (later.mpr (others next taken) count state reached).trans (whole.mp here)

theorem targets_on_schedule_iff (interval start : Int) (positive : 0 < interval) (calls : List Call) (final : Run)
    (punctual : AllowedRun call Punctual (Run.begin true interval start) calls)
    (ran : run call (Run.begin true interval start) calls = some final) :
    (∀ count state, run call (Run.begin true interval start) (calls.take count) = some state →
        OnTarget interval start state) ↔
      AllowedRun call WholeMicroseconds (Run.begin true interval start) calls := by
  have inStep : InStep interval (Run.begin true interval start) := ⟨rfl, rfl, Int.le_of_lt positive⟩
  have none : drift interval start (Run.begin true interval start) = 0 := by
    rw [drift, inStep.nextTime_eq]
    simp [Run.begin]
  have target (state : Run) : OnTarget interval start state ↔ drift interval start state = 0 := by
    rw [OnTarget, drift, Int.sub_eq_zero]
  rw [← drift_kept_iff start calls inStep punctual ran, none]
  simp only [target]

theorem targets_on_schedule_iff_overshoot :
    OnTarget 10 0 { pacer := ⟨true, 10, 20000, 0⟩, returns := [12000, 20100] } :=
  (targets_on_schedule_iff 10 0 (by decide)
    [⟨[⟨9000, false⟩, ⟨12000, false⟩], 12000⟩, ⟨[⟨20000, false⟩], 20100⟩]
    { pacer := ⟨true, 10, 20000, 0⟩, returns := [12000, 20100] } (by decide) (by decide)).mpr (by decide) 2 _
    (by decide)

-- A wait that ends half a microsecond late moves every later target.
theorem half_microsecond_is_lost :
    ∃ state, Reachable call Punctual (Run.begin true 10 0) state ∧ state.pacer.nextTime = 20500 ∧
      ¬ OnTarget 10 0 state := by
  refine ⟨{ pacer := ⟨true, 10, 10500, 0⟩, returns := [10500] },
    Reachable.initial.run [⟨[⟨10500, false⟩], 10500⟩] (by decide) (by decide), by decide, ?_⟩
  simp [OnTarget, Pacer.nextTime, Pacer.interSendUs]

end Drift

end XTransmit.Pacing
