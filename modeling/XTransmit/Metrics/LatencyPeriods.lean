import XTransmit.Metrics.Validator
import Mathlib.Data.Int.Order.Basic
import Mathlib.Data.List.Induction

set_option autoImplicit false

namespace XTransmit.Metrics

inductive LatencyEvent where
  | sample (timestamp arrivalTime : Int64)
  | report

def sampleDelay (timestamp arrivalTime : Int64) : Int :=
  (durationCastMicroseconds (arrivalTime - timestamp)).toInt

def Latency.on (latency : Latency) : LatencyEvent → Latency
  | .sample timestamp arrivalTime => latency.submitSample timestamp arrivalTime
  | .report => latency.reset

def Latency.after (events : List LatencyEvent) : Latency := events.foldl Latency.on {}

def allDelays (events : List LatencyEvent) : List Int :=
  events.foldl (fun delays event =>
    match event with
    | .sample timestamp arrivalTime => delays ++ [sampleDelay timestamp arrivalTime]
    | .report => delays) []

def periodDelays (events : List LatencyEvent) : List Int :=
  events.foldl (fun delays event =>
    match event with
    | .sample timestamp arrivalTime => delays ++ [sampleDelay timestamp arrivalTime]
    | .report => []) []

section Machine

theorem toInt_durationCast (nanoseconds : Int64) :
    (durationCastMicroseconds nanoseconds).toInt = nanoseconds.toInt.tdiv 1000 :=
  Int64.toInt_div_of_ne_right nanoseconds 1000 (by decide)

theorem sampleDelay_exact {timestamp arrivalTime : Int64}
    (fits : -2 ^ 63 ≤ arrivalTime.toInt - timestamp.toInt ∧ arrivalTime.toInt - timestamp.toInt < 2 ^ 63) :
    sampleDelay timestamp arrivalTime = (arrivalTime.toInt - timestamp.toInt).tdiv 1000 := by
  rw [sampleDelay, toInt_durationCast, Int64.toInt_sub, Int.bmod_eq_of_le (by omega) (by omega)]

-- A nanosecond count of 64 bits has few microseconds, so that no later operation overflows.
def Small (value : Int) : Prop := -2 ^ 58 < value ∧ value < 2 ^ 58

theorem sampleDelay_small (timestamp arrivalTime : Int64) : Small (sampleDelay timestamp arrivalTime) := by
  have upper := (arrivalTime - timestamp).toInt_lt
  have lower := (arrivalTime - timestamp).le_toInt
  rw [sampleDelay, toInt_durationCast, Int.tdiv_eq_ediv, show Int.sign 1000 = 1 from rfl]
  unfold Small
  split <;> omega

theorem toInt_min (left right : Int64) : (min left right).toInt = min left.toInt right.toInt := by
  change (if left ≤ right then left else right).toInt = _
  split
  next below => rw [Int.min_eq_left (Int64.le_iff_toInt_le.mp below)]
  next above =>
    rw [Int64.le_iff_toInt_le] at above
    rw [Int.min_eq_right (by omega)]

theorem toInt_max (left right : Int64) : (max left right).toInt = max left.toInt right.toInt := by
  change (if left ≤ right then right else left).toInt = _
  split
  next below => rw [Int.max_eq_right (Int64.le_iff_toInt_le.mp below)]
  next above =>
    rw [Int64.le_iff_toInt_le] at above
    rw [Int.max_eq_left (by omega)]

def smooth (average delay : Int) : Int := (15 * average + delay).tdiv 16

theorem smooth_between {low high average delay : Int} (inside : low ≤ average ∧ average ≤ high)
    (sampled : low ≤ delay ∧ delay ≤ high) : low ≤ smooth average delay ∧ smooth average delay ≤ high := by
  rw [smooth, Int.tdiv_eq_ediv, show Int.sign 16 = 1 from rfl]
  split <;> omega

theorem toInt_smooth {average delay : Int64} (smallAverage : Small average.toInt) (smallDelay : Small delay.toInt) :
    ((average * 15 + delay) / 16).toInt = smooth average.toInt delay.toInt := by
  unfold Small at smallAverage smallDelay
  have product : (average * 15).toInt = average.toInt * 15 := by
    rw [Int64.toInt_mul]
    apply Int.bmod_eq_of_le <;> simp <;> omega
  have sum : (average * 15 + delay).toInt = 15 * average.toInt + delay.toInt := by
    rw [Int64.toInt_add, product, Int.bmod_eq_of_le (by omega) (by omega)]
    omega
  rw [Int64.toInt_div_of_ne_right _ _ (by decide), sum]
  rfl

end Machine

section Runs

variable (events : List LatencyEvent) (timestamp arrivalTime : Int64)

@[simp] theorem after_sample : Latency.after (events ++ [.sample timestamp arrivalTime]) =
    (Latency.after events).submitSample timestamp arrivalTime := by
  simp [Latency.after, Latency.on]

@[simp] theorem after_report : Latency.after (events ++ [.report]) = (Latency.after events).reset := by
  simp [Latency.after, Latency.on]

@[simp] theorem allDelays_sample : allDelays (events ++ [.sample timestamp arrivalTime]) =
    allDelays events ++ [sampleDelay timestamp arrivalTime] := by
  simp [allDelays]

@[simp] theorem allDelays_report : allDelays (events ++ [.report]) = allDelays events := by
  simp [allDelays]

@[simp] theorem periodDelays_sample : periodDelays (events ++ [.sample timestamp arrivalTime]) =
    periodDelays events ++ [sampleDelay timestamp arrivalTime] := by
  simp [periodDelays]

@[simp] theorem periodDelays_report : periodDelays (events ++ [.report]) = [] := by
  simp [periodDelays]

theorem after_extremes :
    (Latency.after events).latencyMin.toInt = (periodDelays events).foldl min Int64.maxValue.toInt ∧
      (Latency.after events).latencyMax.toInt = (periodDelays events).foldl max Int64.minValue.toInt := by
  induction events using List.reverseRecOn with
  | nil => exact ⟨rfl, rfl⟩
  | append_singleton events event ih =>
      cases event with
      | sample timestamp arrivalTime =>
          rw [after_sample, periodDelays_sample, List.foldl_append, List.foldl_append, ← ih.1, ← ih.2]
          exact ⟨toInt_min _ _, toInt_max _ _⟩
      | report =>
          rw [after_report, periodDelays_report]
          exact ⟨rfl, rfl⟩

theorem submitSample_average {latency : Latency} (small : Small latency.latencyAvg.toInt) :
    (latency.submitSample timestamp arrivalTime).latencyAvg.toInt =
      if latency.latencyAvg = -1 then sampleDelay timestamp arrivalTime
      else smooth latency.latencyAvg.toInt (sampleDelay timestamp arrivalTime) := by
  simp only [Latency.submitSample, ne_eq, ite_not]
  split
  next => rfl
  next => exact toInt_smooth small (sampleDelay_small timestamp arrivalTime)

theorem allDelays_small : ∀ delay ∈ allDelays events, Small delay := by
  induction events using List.reverseRecOn with
  | nil => simp [allDelays]
  | append_singleton events event ih =>
      cases event with
      | sample timestamp arrivalTime =>
          intro delay member
          rw [allDelays_sample, List.mem_append, List.mem_singleton] at member
          rcases member with earlier | last
          · exact ih delay earlier
          · rw [last]
            exact sampleDelay_small timestamp arrivalTime
      | report =>
          rw [allDelays_report]
          exact ih

structure Averages (delays : List Int) (average : Int) : Prop where
  absent : delays = [] → average = -1
  hull : delays ≠ [] → ∀ low high : Int, (∀ delay ∈ delays, low ≤ delay ∧ delay ≤ high) →
    low ≤ average ∧ average ≤ high

variable {events} in
theorem Averages.small {average : Int} (averages : Averages (allDelays events) average) : Small average := by
  by_cases started : allDelays events = []
  · rw [averages.absent started]
    unfold Small
    omega
  · have inside := averages.hull started (-2 ^ 58 + 1) (2 ^ 58 - 1) fun delay member => by
      have small := allDelays_small events delay member
      unfold Small at small
      omega
    unfold Small
    omega

theorem after_averages : Averages (allDelays events) (Latency.after events).latencyAvg.toInt := by
  induction events using List.reverseRecOn with
  | nil => exact ⟨fun _ => rfl, fun started => absurd rfl started⟩
  | append_singleton events event ih =>
      cases event with
      | report =>
          rw [after_report, allDelays_report]
          exact ih
      | sample timestamp arrivalTime =>
          rw [after_sample, allDelays_sample, submitSample_average _ _ ih.small]
          refine ⟨by simp, ?_⟩
          intro _ low high inside
          have sampled := inside (sampleDelay timestamp arrivalTime) (by simp)
          split
          next => exact sampled
          next present =>
            have started : allDelays events ≠ [] := by
              intro empty
              exact present (Int64.toInt_inj.mp (ih.absent empty))
            exact smooth_between (ih.hull started low high fun delay member => inside delay (by simp [member])) sampled

end Runs

section Reports

def missingTexts : List String := ["n/a", ""]

theorem toString_ne_missing (value : Int) : toString value ∉ missingTexts := by
  have digits (number : Nat) : number.repr ≠ "n/a" ∧ number.repr ≠ "" := by
    refine ⟨?_, Nat.repr_ne_empty⟩
    intro same
    have letter : 'n' ∈ number.repr.toList := by
      rw [same]
      decide
    rw [Nat.toList_repr] at letter
    exact absurd (Nat.isDigit_of_mem_toDigits (by decide) (by decide) letter) (by decide)
  rw [Int.toString_eq_repr, Int.repr_eq_if]
  split
  next => simp [missingTexts, digits]
  next =>
    have sign : ("-" ++ (-value).toNat.repr).toList.head? = some '-' := by simp
    intro member
    rcases List.mem_cons.mp member with same | rest
    · rw [same] at sign
      exact absurd sign (by decide)
    · rw [List.mem_singleton.mp rest] at sign
      exact absurd sign (by decide)

theorem latencyStr_present (missing : String) {value notAvailable : Int64} (present : value ≠ notAvailable) :
    latencyStr missing value notAvailable = toString value.toInt := by
  rw [latencyStr, if_neg present]
  rfl

theorem latencyStr_absent (missing : String) (value : Int64) : latencyStr missing value value = missing :=
  if_pos rfl

theorem latencyStr_eq_missing_iff {missing : String} (text : missing ∈ missingTexts) (value notAvailable : Int64) :
    latencyStr missing value notAvailable = missing ↔ value = notAvailable := by
  constructor
  · intro printed
    by_contra present
    rw [latencyStr_present missing present] at printed
    exact toString_ne_missing value.toInt (printed ▸ text)
  · intro same
    rw [same, latencyStr_absent]

theorem foldl_min_eq {delays : List Int} {limit lowest : Int} (bounded : ∀ delay ∈ delays, delay ≤ limit)
    (least : delays.min? = some lowest) : delays.foldl min limit = lowest := by
  cases delays with
  | nil => cases least
  | cons first rest =>
      rw [List.min?_cons'] at least
      rw [List.foldl_cons, Int.min_eq_right (bounded first (by simp))]
      exact Option.some.inj least

theorem foldl_max_eq {delays : List Int} {limit highest : Int} (bounded : ∀ delay ∈ delays, limit ≤ delay)
    (greatest : delays.max? = some highest) : delays.foldl max limit = highest := by
  cases delays with
  | nil => cases greatest
  | cons first rest =>
      rw [List.max?_cons'] at greatest
      rw [List.foldl_cons, Int.max_eq_right (bounded first (by simp))]
      exact Option.some.inj greatest

theorem periodDelays_suffix (events : List LatencyEvent) : periodDelays events <:+ allDelays events := by
  induction events using List.reverseRecOn with
  | nil => exact List.suffix_rfl
  | append_singleton events event ih =>
      cases event with
      | sample timestamp arrivalTime =>
          obtain ⟨before, split⟩ := ih
          rw [periodDelays_sample, allDelays_sample]
          exact ⟨before, by rw [← split, List.append_assoc]⟩
      | report =>
          rw [periodDelays_report]
          exact List.nil_suffix

theorem periodDelays_small (events : List LatencyEvent) : ∀ delay ∈ periodDelays events, Small delay :=
  fun delay member => allDelays_small events delay ((periodDelays_suffix events).subset member)

theorem latencyMin_eq {events : List LatencyEvent} {lowest : Int} (least : (periodDelays events).min? = some lowest) :
    (Latency.after events).latencyMin.toInt = lowest := by
  rw [(after_extremes events).1]
  apply foldl_min_eq _ least
  intro delay member
  have small := periodDelays_small events delay member
  rw [Int64.toInt_maxValue]
  unfold Small at small
  omega

theorem latencyMax_eq {events : List LatencyEvent} {highest : Int}
    (greatest : (periodDelays events).max? = some highest) : (Latency.after events).latencyMax.toInt = highest := by
  rw [(after_extremes events).2]
  apply foldl_max_eq _ greatest
  intro delay member
  have small := periodDelays_small events delay member
  rw [Int64.toInt_minValue]
  unfold Small at small
  omega

theorem sentinel_iff {value sentinel : Int64} {delays : List Int} (start : delays = [] → value.toInt = sentinel.toInt)
    (sampled : delays ≠ [] → value.toInt ∈ delays) (outside : sentinel.toInt ∉ delays) :
    value = sentinel ↔ delays = [] := by
  constructor
  · intro absent
    by_contra started
    exact outside (absent ▸ sampled started)
  · intro empty
    exact Int64.toInt_inj.mp (start empty)

theorem latencyMin_absent_iff (events : List LatencyEvent) :
    (Latency.after events).latencyMin = Int64.maxValue ↔ periodDelays events = [] := by
  apply sentinel_iff
  · intro empty
    rw [(after_extremes events).1, empty]
    rfl
  · intro started
    obtain ⟨lowest, least⟩ := Option.ne_none_iff_exists'.mp (mt List.min?_eq_none_iff.mp started)
    exact latencyMin_eq least ▸ List.min?_mem least
  · intro taken
    have small := periodDelays_small events _ taken
    rw [Int64.toInt_maxValue] at small
    unfold Small at small
    omega

theorem latencyMax_absent_iff (events : List LatencyEvent) :
    (Latency.after events).latencyMax = Int64.minValue ↔ periodDelays events = [] := by
  apply sentinel_iff
  · intro empty
    rw [(after_extremes events).2, empty]
    rfl
  · intro started
    obtain ⟨highest, greatest⟩ := Option.ne_none_iff_exists'.mp (mt List.max?_eq_none_iff.mp started)
    exact latencyMax_eq greatest ▸ List.max?_mem greatest
  · intro taken
    have small := periodDelays_small events _ taken
    rw [Int64.toInt_minValue] at small
    unfold Small at small
    omega

theorem latency_reports (events : List LatencyEvent) :
    let latency := Latency.after events
    (∀ lowest, (periodDelays events).min? = some lowest → latency.latencyMin.toInt = lowest) ∧
    (∀ highest, (periodDelays events).max? = some highest → latency.latencyMax.toInt = highest) ∧
    (∀ missing ∈ missingTexts,
      (latencyStr missing latency.latencyMin Int64.maxValue = missing ↔ periodDelays events = []) ∧
      (latencyStr missing latency.latencyMax Int64.minValue = missing ↔ periodDelays events = [])) ∧
    (Latency.after (events ++ [.report])).latencyAvg = latency.latencyAvg ∧
    (∀ lowest highest, (allDelays events).min? = some lowest → (allDelays events).max? = some highest →
      lowest ≤ latency.latencyAvg.toInt ∧ latency.latencyAvg.toInt ≤ highest) := by
  intro latency
  refine ⟨fun _ => latencyMin_eq, fun _ => latencyMax_eq, ?_, by rw [after_report]; rfl, ?_⟩
  · intro missing text
    rw [latencyStr_eq_missing_iff text, latencyStr_eq_missing_iff text]
    exact ⟨latencyMin_absent_iff events, latencyMax_absent_iff events⟩
  · intro lowest highest least greatest
    have started : allDelays events ≠ [] := by
      intro empty
      rw [empty] at least
      cases least
    apply (after_averages events).hull started
    intro delay member
    exact ⟨(List.min?_eq_some_iff.mp least).2 delay member, (List.max?_eq_some_iff.mp greatest).2 delay member⟩

end Reports

section MovingAverage

def movingAverage (delays : List Int) : Option Int :=
  delays.foldl (fun average delay => some (average.elim delay (smooth · delay))) none

def FollowsRecursion (events : List LatencyEvent) : Prop :=
  ∀ count average, movingAverage (allDelays (events.take count)) = some average →
    (Latency.after (events.take count)).latencyAvg.toInt = average ∧
      ∀ missing ∈ missingTexts,
        latencyStr missing (Latency.after (events.take count)).latencyAvg (-1) = toString average

def AvoidsSentinel (events : List LatencyEvent) : Prop :=
  ∀ count, movingAverage (allDelays (events.take count)) ≠ some (-1)

theorem movingAverage_snoc (delays : List Int) (delay : Int) :
    movingAverage (delays ++ [delay]) = some ((movingAverage delays).elim delay (smooth · delay)) := by
  simp [movingAverage]

theorem latencyAvg_eq_movingAverage (events : List LatencyEvent) (count : Nat)
    (avoids : ∀ earlier < count, movingAverage (allDelays (events.take earlier)) ≠ some (-1)) :
    (Latency.after (events.take count)).latencyAvg.toInt = (movingAverage (allDelays (events.take count))).getD (-1) := by
  induction count with
  | zero => rfl
  | succ count ih =>
      have before := ih fun earlier below => avoids earlier (by omega)
      have small := (after_averages (events.take count)).small
      rw [List.take_add_one]
      cases events[count]? with
      | none => simpa using before
      | some event =>
          rw [Option.toList_some]
          cases event with
          | report =>
              rw [after_report, allDelays_report]
              exact before
          | sample timestamp arrivalTime =>
              rw [after_sample, allDelays_sample, submitSample_average _ _ small, movingAverage_snoc, Option.getD_some]
              have here := avoids count (by omega)
              cases reached : movingAverage (allDelays (events.take count)) with
              | none =>
                  rw [reached] at before
                  rw [if_pos (Int64.toInt_inj.mp before)]
                  rfl
              | some average =>
                  rw [reached] at before here
                  have present : (Latency.after (events.take count)).latencyAvg ≠ -1 := by
                    intro sentinel
                    rw [sentinel] at before
                    exact here (congrArg some before.symm)
                  rw [if_neg present, before]
                  rfl

theorem average_follows_recursion_iff (events : List LatencyEvent) :
    FollowsRecursion events ↔ AvoidsSentinel events := by
  constructor
  · -- The sentinel itself cannot be printed.
    intro follows count reached
    obtain ⟨value, printed⟩ := follows count (-1) reached
    have text := printed "n/a" (by simp [missingTexts])
    rw [Int64.toInt_inj.mp (value.trans rfl : _ = (-1 : Int64).toInt), latencyStr_absent] at text
    exact absurd text (by decide)
  · intro avoids count average reached
    have value := latencyAvg_eq_movingAverage events count fun earlier _ => avoids earlier
    rw [reached, Option.getD_some] at value
    refine ⟨value, ?_⟩
    intro missing _
    have present : (Latency.after (events.take count)).latencyAvg ≠ -1 := by
      intro sentinel
      rw [sentinel] at value
      exact avoids count (reached.trans (congrArg some value.symm))
    rw [latencyStr_present missing present, value]

-- Delays of -1 and 100 microseconds: the second replaces an average that looks uninitialised.
theorem average_restarts_at_sentinel :
    ¬ FollowsRecursion [.sample 1000 0, .sample 0 100000] ∧
      movingAverage (allDelays [.sample 1000 0, .sample 0 100000]) = some 5 ∧
      (Latency.after [.sample 1000 0, .sample 0 100000]).latencyAvg = 100 := by
  refine ⟨?_, by decide, by decide⟩
  intro follows
  have second := (follows 2 5 (by decide)).1
  revert second
  decide

end MovingAverage

end XTransmit.Metrics
