import XTransmit.Connections.Exits

set_option autoImplicit false

namespace XTransmit.Connections

open Transition

-- Clock readings are nanoseconds.
def second : Int := 1000000000

structure Attempt where
  time : Int
  pauses : Nat
  deriving DecidableEq

structure TimedState where
  base : State := {}
  clock : Int
  tstart : Int
  nextReconnect : Int
  pauses : Nat := 0
  attempts : List Attempt := []
  deriving DecidableEq

def TimedState.start (now : Int) : TimedState := { clock := now, tstart := now, nextReconnect := now }

inductive TimedLabel where
  | attempt (result : Option ConnId) (tstart now : Int)
  | main
  | pipeExit (thread : Nat)
  | raiseBreak
  deriving DecidableEq

-- The end of the wait for a free stream; a pass that ends with `continue` does not come here.
def slowsDown (before after : MainPc) : Bool :=
  (before = .checkBreak || before = .checkFull) && after = .loopCondition

def TimedState.advance (state : TimedState) (base : State) : TimedState :=
  if slowsDown state.base.pc base.pc then
    { state with base := base, nextReconnect := state.tstart + second, pauses := state.pauses + 1 }
  else { state with base := base }

def timedStep (config : ConnConfig) (state : TimedState) : TimedLabel → Option TimedState
  | .attempt result tstart now =>
      (step config state.base (.createConnection result)).map fun base => { state with
        base := base
        tstart := tstart
        clock := now
        attempts := { time := now, pauses := state.pauses } :: state.attempts }
  | .main => (step config state.base .main).map state.advance
  | .pipeExit thread => (step config state.base (.pipeExit thread)).map state.advance
  | .raiseBreak => (step config state.base .raiseBreak).map state.advance

-- The clock does not go back, and `sleep_until` does not return early.
def Clocked (state : TimedState) : TimedLabel → Prop
  | .attempt _ tstart now =>
      state.clock ≤ tstart ∧ tstart ≤ now ∧ (tstart < state.nextReconnect → state.nextReconnect ≤ now)
  | _ => True

instance (state : TimedState) : (label : TimedLabel) → Decidable (Clocked state label)
  | .attempt _ _ _ => inferInstanceAs (Decidable (_ ∧ _ ∧ _))
  | .main => .isTrue trivial
  | .pipeExit _ => .isTrue trivial
  | .raiseBreak => .isTrue trivial

def MainPc.inRound : MainPc → Bool
  | .registering _ => true
  | .joining _ => true
  | .added => true
  | .checkStreams => true
  | .checkReconnect => true
  | .checkBreak => true
  | .checkFull => true
  | .enterWait site => site = .reconnecting
  | .blocked site => site = .reconnecting
  | .woken site => site = .reconnecting
  | .connecting => false
  | .loopCondition => false
  | .closing => false
  | .finished => false

theorem inRound_move {config : ConnConfig} {state next : State} {label : Label} (move : Move config state label next)
    (waits : ∀ result, label ≠ .createConnection result) (inside : next.pc.inRound = true) :
    state.pc.inRound = true := by
  cases move with
  | noConnection | connected => exact absurd rfl (waits _)
  | collided _ _ here | registered _ _ here | joined _ here => simp [here, MainPc.inRound]
  | advanced pc move =>
      cases move with
      | block site here => simpa [here, MainPc.inRound] using inside
      | limitReached | streamsLeft | stopped | breakSeen | notFull | leave | again | drain | finish => cases inside
      | belowLimit here | streamsFull here | reconnecting here | breakUnset here | full here =>
          simp [here, MainPc.inRound]
  | cleared site here =>
      cases site with
      | reconnecting => simp [here, MainPc.inRound]
      | closing => cases inside
  | exited thread connId => rwa [notify_congr MainPc.inRound (fun _ => rfl)] at inside
  | broke => exact inside

theorem slowsDown_inRound {before after : MainPc} (slow : slowsDown before after = true) :
    before.inRound = true ∧ after.inRound = false := by
  simp only [slowsDown, Bool.and_eq_true, Bool.or_eq_true, decide_eq_true_eq] at slow
  obtain ⟨here | here, there⟩ := slow <;> simp [here, there, MainPc.inRound]

def After (attempt : Attempt) (count : Nat) (time : Int) : Prop := attempt.time + second * (count / 2 : Nat) ≤ time

theorem After.mono {attempt : Attempt} {count fewer : Nat} {time later : Int} (after : After attempt count time)
    (less : fewer ≤ count) (notBefore : time ≤ later) : After attempt fewer later := by
  have halves : fewer / 2 ≤ count / 2 := Nat.div_le_div_right less
  simp only [After, second] at after ⊢
  omega

structure Paced (state : TimedState) : Prop where
  counted : ∀ attempt ∈ state.attempts, attempt.pauses ≤ state.pauses
  clock : ∀ attempt ∈ state.attempts, After attempt (state.pauses - attempt.pauses - 1) state.clock
  next : ∀ attempt ∈ state.attempts, attempt.pauses + 2 ≤ state.pauses →
    After attempt (state.pauses - attempt.pauses) state.nextReconnect
  round : ∀ last earlier, state.attempts = last :: earlier → ∀ attempt ∈ earlier,
    After attempt (last.pauses - attempt.pauses - 1) state.tstart
  current : state.base.pc.inRound = true → ∃ last earlier, state.attempts = last :: earlier ∧ last.pauses = state.pauses
  apart : state.attempts.Pairwise fun later earlier => After earlier (later.pauses - earlier.pauses) later.time

theorem start_paced (now : Int) : Paced (TimedState.start now) where
  counted := by simp [TimedState.start]
  clock := by simp [TimedState.start]
  next := by simp [TimedState.start]
  round := by simp [TimedState.start]
  current := by simp [TimedState.start, MainPc.inRound]
  apart := by simp [TimedState.start]

section Steps

variable {state : TimedState} {base : State}

theorem Paced.attempt (paced : Paced state) {result : Option ConnId} {tstart now : Int}
    (clocked : Clocked state (.attempt result tstart now)) (base : State) :
    Paced { state with
      base := base
      tstart := tstart
      clock := now
      attempts := { time := now, pauses := state.pauses } :: state.attempts } := by
  obtain ⟨started, slept, awake⟩ := clocked
  have reached : state.nextReconnect ≤ now := by
    by_cases early : tstart < state.nextReconnect
    · exact awake early
    · exact Int.le_trans (Int.not_lt.mp early) slept
  have passed : state.clock ≤ now := Int.le_trans started slept
  constructor
  · exact List.forall_mem_cons.mpr ⟨Nat.le_refl _, paced.counted⟩
  · refine List.forall_mem_cons.mpr ⟨by simp [After], fun attempt member => ?_⟩
    exact (paced.clock attempt member).mono (Nat.le_refl _) passed
  · refine List.forall_mem_cons.mpr ⟨fun older => absurd older (by simp), paced.next⟩
  · rintro last earlier same attempt member
    cases same
    exact (paced.clock attempt member).mono (Nat.le_refl _) started
  · exact fun _ => ⟨_, _, rfl, rfl⟩
  · refine List.pairwise_cons.mpr ⟨fun attempt member => ?_, paced.apart⟩
    by_cases older : attempt.pauses + 2 ≤ state.pauses
    · exact (paced.next attempt member older).mono (Nat.le_refl _) reached
    · have young : (state.pauses - attempt.pauses) / 2 = 0 := by omega
      have before := (paced.clock attempt member).mono (Nat.zero_le _) passed
      simpa [After, young] using before

theorem Paced.quiet (paced : Paced state) (inside : base.pc.inRound = true → state.base.pc.inRound = true) :
    Paced { state with base := base } :=
  ⟨paced.counted, paced.clock, paced.next, paced.round, fun here => paced.current (inside here), paced.apart⟩

theorem Paced.pause (paced : Paced state) (inside : state.base.pc.inRound = true) (left : base.pc.inRound = false) :
    Paced { state with base := base, nextReconnect := state.tstart + second, pauses := state.pauses + 1 } := by
  obtain ⟨last, earlier, listed, counts⟩ := paced.current inside
  have behind : ∀ attempt ∈ state.attempts, After attempt (state.pauses - attempt.pauses) state.clock := by
    have now := paced.clock last (by simp [listed])
    intro attempt member
    rw [listed] at member
    rcases List.mem_cons.mp member with same | older
    · rw [same, counts]
      exact now.mono (by omega) (Int.le_refl _)
    · have apart := paced.apart
      rw [listed] at apart
      have times := List.rel_of_pairwise_cons apart older
      rw [counts] at times
      have reached : last.time ≤ state.clock := by
        simpa [After] using now.mono (Nat.zero_le _) (Int.le_refl _)
      exact times.mono (Nat.le_refl _) reached
  constructor
  · exact fun attempt member => Nat.le_succ_of_le (paced.counted attempt member)
  · intro attempt member
    exact (behind attempt member).mono (by simp; omega) (Int.le_refl _)
  · intro attempt member older
    rw [listed] at member
    rcases List.mem_cons.mp member with same | before
    · simp only [same, counts] at older
      omega
    · have started := paced.round last earlier listed attempt before
      rw [counts] at started
      have halves : (state.pauses + 1 - attempt.pauses) / 2 = (state.pauses - attempt.pauses - 1) / 2 + 1 := by
        simp only at older
        omega
      simp only [After, second] at started ⊢
      rw [halves]
      omega
  · exact paced.round
  · simp [left]
  · exact paced.apart

end Steps

theorem Paced.advance {config : ConnConfig} {state : TimedState} {base : State} {label : Label} (paced : Paced state)
    (waits : ∀ result, label ≠ .createConnection result) (taken : step config state.base label = some base) :
    Paced (state.advance base) := by
  unfold TimedState.advance
  split
  next slow => exact paced.pause (slowsDown_inRound slow).1 (slowsDown_inRound slow).2
  next => exact paced.quiet (inRound_move (step_move taken) waits)

theorem paced_of_reachable {config : ConnConfig} {now : Int} {state : TimedState}
    (reached : Reachable (timedStep config) Clocked (TimedState.start now) state) : Paced state := by
  refine reached.invariant Paced (start_paced now) ?_
  intro state label next paced clocked taken
  cases label with
  | attempt result tstart now =>
      obtain ⟨base, -, rfl⟩ := Option.map_eq_some_iff.mp taken
      exact paced.attempt clocked base
  | main | pipeExit =>
      obtain ⟨base, moved, rfl⟩ := Option.map_eq_some_iff.mp taken
      exact paced.advance (by simp) moved
  | raiseBreak =>
      have raised : step config state.base .raiseBreak = some { state.base with breakToken := true } := rfl
      simp only [timedStep, raised, Option.map_some, Option.some.injEq] at taken
      rw [← taken]
      exact paced.advance (by simp) raised

theorem two_pauses_take_a_second (config : ConnConfig) (now : Int) (state : TimedState)
    (reached : Reachable (timedStep config) Clocked (TimedState.start now) state) :
    state.attempts.Pairwise fun later earlier =>
      earlier.time + second * ((later.pauses - earlier.pauses) / 2 : Nat) ≤ later.time :=
  (paced_of_reachable reached).apart

theorem two_pauses_take_a_second_bursts :
    ∃ state : TimedState, state.attempts.map (·.time) = [1000000002, 1000000001, 0] ∧
      state.attempts.Pairwise fun later earlier =>
        earlier.time + second * ((later.pauses - earlier.pauses) / 2 : Nat) ≤ later.time := by
  let config : ConnConfig := { reconnect := true, maxConns := -1 }
  let round (connId : ConnId) (thread : Nat) (tstart now : Int) : List TimedLabel :=
    [.attempt (some connId) tstart now, .main, .main, .main, .main, .main, .main, .main, .pipeExit thread, .main,
      .main, .main, .main]
  have reached : Reachable (timedStep config) Clocked (TimedState.start 0)
      { base := { pc := .registering 2, threads := [⟨7, true⟩, ⟨8, true⟩, ⟨9, false⟩], connsCnt := 2 }
        clock := 1000000002, tstart := 1000000002, nextReconnect := 1000000002, pauses := 2
        attempts := [⟨1000000002, 2⟩, ⟨1000000001, 1⟩, ⟨0, 0⟩] } :=
    Reachable.initial.run (round 7 0 0 0 ++ round 8 1 2 1000000001 ++ [.attempt (some 9) 1000000002 1000000002])
      (by decide) (by decide)
  exact ⟨_, rfl, two_pauses_take_a_second config 0 _ reached⟩

end XTransmit.Connections
