import XTransmit.Shared.Transition
import Mathlib.Data.Int.Order.Basic
import Mathlib.Data.List.Count
import Mathlib.Tactic.Linarith

set_option autoImplicit false

namespace XTransmit.Pacing

open Transition

-- Times are nanoseconds of the steady clock, the interval and the deviation whole microseconds.
structure Pacer where
  spinWait : Bool
  msgIntervalUs : Int
  lastSndTime : Int
  timedevUs : Int := 0
  deriving DecidableEq, Repr

structure Poll where
  now : Int
  forceBreak : Bool := false
  deriving DecidableEq, Repr

-- Messages in ten seconds at a rate. The product fits 64 bits for every rate of 32 bits.
def msgsPer10s (sendrateBps messageSize : Int32) : Int := (sendrateBps.toInt.tdiv 8 * 10).tdiv messageSize.toInt

def calcMsgIntervalUs (sendrateBps messageSize : Int32) : Int :=
  if msgsPer10s sendrateBps messageSize ≠ 0 then (10000000 : Int).tdiv (msgsPer10s sendrateBps messageSize) else 0

def Pacer.create (sendrateBps messageSize : Int32) (spinWait : Bool) (now : Int) : Pacer where
  spinWait := spinWait
  msgIntervalUs := calcMsgIntervalUs sendrateBps messageSize
  lastSndTime := now

def Pacer.interSendUs (pacer : Pacer) : Int :=
  if pacer.timedevUs > pacer.msgIntervalUs then 0 else pacer.msgIntervalUs - pacer.timedevUs

def Pacer.nextTime (pacer : Pacer) : Int := pacer.lastSndTime + 1000 * pacer.interSendUs

-- The loop has no bound of its own: `none` when the readings end before it does.
def spin (nextTime : Int) : List Poll → Option Int
  | [] => none
  | poll :: later =>
      if poll.now ≥ nextTime then some poll.now
      else if poll.forceBreak then some poll.now
      else spin nextTime later

-- A sleeping pacer reads the clock once, before it sleeps.
def Pacer.timeNow (pacer : Pacer) (polls : List Poll) : Option Int :=
  if !pacer.spinWait then polls.head?.map (·.now) else spin pacer.nextTime polls

def Pacer.sleeps (pacer : Pacer) (timeNow : Int) : Bool := !pacer.spinWait && timeNow < pacer.nextTime

def Pacer.record (pacer : Pacer) (timeNow : Int) : Pacer :=
  { pacer with
    timedevUs := pacer.timedevUs + ((timeNow - pacer.lastSndTime).tdiv 1000 - pacer.msgIntervalUs)
    lastSndTime := timeNow }

def Pacer.wait (pacer : Pacer) (polls : List Poll) : Option Pacer :=
  (pacer.timeNow polls).map pacer.record

section Targets

variable {nextTime : Int} {polls : List Poll}

theorem spin_isSome_iff :
    (spin nextTime polls).isSome ↔ ∃ poll ∈ polls, nextTime ≤ poll.now ∨ poll.forceBreak = true := by
  induction polls with
  | nil => simp [spin]
  | cons poll later ih =>
      simp only [spin, List.exists_mem_cons_iff, ← ih]
      split
      next reached => simp [reached]
      next early =>
        split
        next forced => simp [forced]
        next unforced => simp [early, unforced]

theorem wait_isSome_iff {pacer : Pacer} :
    (pacer.wait polls).isSome ↔
      if pacer.spinWait then ∃ poll ∈ polls, pacer.nextTime ≤ poll.now ∨ poll.forceBreak = true else polls ≠ [] := by
  cases mode : pacer.spinWait <;> simp [Pacer.wait, Pacer.timeNow, mode, spin_isSome_iff]

theorem spin_mem {now : Int} (ended : spin nextTime polls = some now) : ∃ poll ∈ polls, poll.now = now := by
  induction polls with
  | nil => cases ended
  | cons poll later ih =>
      simp only [spin] at ended
      split at ended
      next => exact ⟨poll, List.mem_cons_self, Option.some.inj ended⟩
      next =>
        split at ended
        next => exact ⟨poll, List.mem_cons_self, Option.some.inj ended⟩
        next =>
          obtain ⟨found, member, same⟩ := ih ended
          exact ⟨found, List.mem_cons_of_mem _ member, same⟩

theorem spin_reached {now : Int} (unforced : ∀ poll ∈ polls, poll.forceBreak = false)
    (ended : spin nextTime polls = some now) : nextTime ≤ now := by
  induction polls with
  | nil => cases ended
  | cons poll later ih =>
      rw [List.forall_mem_cons] at unforced
      simp only [spin, unforced.1, Bool.false_eq_true, if_false] at ended
      split at ended
      next reached => exact Option.some.inj ended ▸ reached
      next => exact ih unforced.2 ended

theorem timeNow_mem {pacer : Pacer} {now : Int} (read : pacer.timeNow polls = some now) :
    ∃ poll ∈ polls, poll.now = now := by
  unfold Pacer.timeNow at read
  split at read
  next =>
    obtain ⟨poll, first, same⟩ := Option.map_eq_some_iff.mp read
    exact ⟨poll, List.mem_of_head? first, same⟩
  next => exact spin_mem read

end Targets

section Runs

structure Call where
  polls : List Poll
  returned : Int

structure Run where
  pacer : Pacer
  returns : List Int := []
  deriving DecidableEq

def Run.begin (spinWait : Bool) (msgIntervalUs start : Int) : Run :=
  { pacer := { spinWait := spinWait, msgIntervalUs := msgIntervalUs, lastSndTime := start } }

def call (run : Run) (call : Call) : Option Run :=
  (run.pacer.wait call.polls).map fun pacer =>
    { pacer := pacer, returns := run.returns ++ [call.returned] }

/-- The clock does not go back from one reading to the next, the flag is not raised, and `sleep_until` does
not return before the time it was given. Any time may pass before a call. -/
def Undisturbed (run : Run) (call : Call) : Prop :=
  (run.pacer.lastSndTime :: call.polls.map (·.now) ++ [call.returned]).Pairwise (· ≤ ·) ∧
    (∀ poll ∈ call.polls, poll.forceBreak = false) ∧
    ∀ timeNow ∈ run.pacer.timeNow call.polls, run.pacer.sleeps timeNow = true →
      run.pacer.nextTime ≤ call.returned

instance (run : Run) (call : Call) : Decidable (Undisturbed run call) :=
  inferInstanceAs (Decidable (_ ∧ _ ∧ _))

structure OnSchedule (interval start : Int) (run : Run) : Prop where
  rate : run.pacer.msgIntervalUs = interval
  deviation : 1000 * (run.pacer.timedevUs + run.returns.length * interval) ≤ run.pacer.lastSndTime - start
  returned : ∀ (k : Nat) (time : Int), run.returns[k]? = some time → start + 1000 * ((k + 1) * interval) ≤ time

theorem begin_onSchedule (spinWait : Bool) (interval start : Int) :
    OnSchedule interval start (Run.begin spinWait interval start) where
  rate := rfl
  deviation := by simp [Run.begin]
  returned := by simp [Run.begin]

theorem nextTime_onSchedule {interval start : Int} {run : Run} (inv : OnSchedule interval start run) :
    start + 1000 * ((run.returns.length + 1) * interval) ≤ run.pacer.nextTime := by
  have deviation := inv.deviation
  simp only [Pacer.nextTime, Pacer.interSendUs, inv.rate]
  split <;> linarith

theorem undisturbed_reading {run : Run} {call : Call} {now : Int} (undisturbed : Undisturbed run call)
    (read : run.pacer.timeNow call.polls = some now) : run.pacer.lastSndTime ≤ now ∧ now ≤ call.returned := by
  obtain ⟨poll, member, rfl⟩ := timeNow_mem read
  have sorted := undisturbed.1
  simp only [List.cons_append, List.pairwise_cons, List.pairwise_append, List.mem_append, List.mem_map] at sorted
  exact ⟨sorted.1 poll.now (.inl ⟨poll, member, rfl⟩),
    sorted.2.2.2 poll.now ⟨poll, member, rfl⟩ call.returned (by simp)⟩

theorem undisturbed_target {run : Run} {call : Call} {now : Int} (undisturbed : Undisturbed run call)
    (read : run.pacer.timeNow call.polls = some now) : run.pacer.nextTime ≤ call.returned := by
  have notBefore := (undisturbed_reading undisturbed read).2
  cases asleep : run.pacer.sleeps now with
  | true => exact undisturbed.2.2 now read asleep
  | false =>
      have reached : run.pacer.nextTime ≤ now := by
        cases mode : run.pacer.spinWait with
        | true =>
            simp only [Pacer.timeNow, mode, Bool.not_true, Bool.false_eq_true, if_false] at read
            exact spin_reached undisturbed.2.1 read
        | false => simpa [Pacer.sleeps, mode] using asleep
      exact Int.le_trans reached notBefore

theorem OnSchedule.call {interval start : Int} {run next : Run} {label : Call} (inv : OnSchedule interval start run)
    (undisturbed : Undisturbed run label) (taken : call run label = some next) : OnSchedule interval start next := by
  obtain ⟨pacer, waited, rfl⟩ := Option.map_eq_some_iff.mp taken
  obtain ⟨now, read, rfl⟩ := Option.map_eq_some_iff.mp waited
  have order := undisturbed_reading undisturbed read
  have target := undisturbed_target undisturbed read
  have due := nextTime_onSchedule inv
  refine ⟨inv.rate, ?_, ?_⟩
  · have before := inv.deviation
    have passed : 0 ≤ now - run.pacer.lastSndTime := Int.sub_nonneg_of_le order.1
    have truncated : 1000 * (now - run.pacer.lastSndTime).tdiv 1000 ≤ now - run.pacer.lastSndTime := by
      rw [Int.tdiv_eq_ediv_of_nonneg passed]
      omega
    simp only [Pacer.record, inv.rate, List.length_append, List.length_singleton, Nat.cast_add, Nat.cast_one]
    linarith
  · intro k time found
    rcases Nat.lt_trichotomy k run.returns.length with earlier | last | later
    · rw [List.getElem?_append_left earlier] at found
      exact inv.returned k time found
    · subst last
      rw [List.getElem?_concat_length] at found
      cases found
      exact Int.le_trans due target
    · rw [List.getElem?_eq_none (by simpa using Nat.succ_le_of_lt later)] at found
      cases found

theorem onSchedule_of_reachable {spinWait : Bool} {interval start : Int} {run : Run}
    (reached : Reachable call Undisturbed (Run.begin spinWait interval start) run) : OnSchedule interval start run :=
  reached.invariant (OnSchedule interval start) (begin_onSchedule spinWait interval start)
    fun _ _ _ inv undisturbed taken => inv.call undisturbed taken

theorem countP_le_of_index {α : Type} {holds : α → Bool} {values : List α} {bound : Nat}
    (early : ∀ k value, values[k]? = some value → holds value = true → k < bound) : values.countP holds ≤ bound := by
  have none : (values.drop bound).countP holds = 0 := by
    rw [List.countP_eq_zero]
    intro value member held
    obtain ⟨k, found⟩ := List.mem_iff_getElem?.mp member
    rw [List.getElem?_drop] at found
    have := early (bound + k) value found held
    omega
  calc values.countP holds
      = (values.take bound).countP holds + (values.drop bound).countP holds := by
        rw [← List.countP_append, List.take_append_drop]
    _ ≤ (values.take bound).length + 0 := by
        rw [none]
        exact Nat.add_le_add_right List.countP_le_length 0
    _ ≤ bound := by simp

theorem wait_never_ahead_of_schedule (spinWait : Bool) (interval start : Int) (run : Run)
    (reached : Reachable call Undisturbed (Run.begin spinWait interval start) run) :
    (∀ (k : Nat) (time : Int), run.returns[k]? = some time → start + 1000 * ((k + 1) * interval) ≤ time) ∧
      (0 < interval → ∀ time : Int,
        run.returns.countP (· ≤ time) ≤ ((time - start) / (1000 * interval)).toNat) := by
  have returned := (onSchedule_of_reachable reached).returned
  refine ⟨returned, fun positive time => countP_le_of_index fun k released found early => ?_⟩
  have scheduled := returned k released found
  have early : released ≤ time := of_decide_eq_true early
  have quotient : (k + 1 : Int) ≤ (time - start) / (1000 * interval) := by
    rw [Int.le_ediv_iff_mul_le (by linarith)]
    linarith
  omega

theorem wait_never_ahead_of_schedule_stall :
    [(12000 : Int), 50600, 50700].countP (· ≤ 50650) ≤ 5 := by
  have reached : Reachable call Undisturbed (Run.begin false 10 0)
      { pacer := ⟨false, 10, 50700, 20⟩, returns := [12000, 50600, 50700] } :=
    Reachable.initial.run [⟨[⟨3000, false⟩], 12000⟩, ⟨[⟨50500, false⟩], 50600⟩, ⟨[⟨50700, false⟩], 50700⟩]
      (by decide) (by decide)
  exact (wait_never_ahead_of_schedule false 10 0 _ reached).2 (by decide) 50650

end Runs

end XTransmit.Pacing
