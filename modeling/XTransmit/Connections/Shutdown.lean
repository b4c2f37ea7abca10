import XTransmit.Connections.Exits

set_option autoImplicit false

namespace XTransmit.Connections

open Transition ConcurrentPipes

structure Tracked (state : State) : Prop where
  live : Live state
  waits : Waiting state.pc → SomeoneRuns state
  joins : ∀ thread, state.pc = .joining thread → ∃ pipe, state.threads[thread]? = some pipe

theorem joins_move {config : ConnConfig} {state next : State} {label : Label} (move : Move config state label next)
    (joins : ∀ thread, state.pc = .joining thread → ∃ pipe, state.threads[thread]? = some pipe) (thread : Nat)
    (here : next.pc = .joining thread) : ∃ pipe, next.threads[thread]? = some pipe := by
  cases move with
  | noConnection | connected | registered | joined => cases here
  | collided other pipe _ started =>
      cases here
      exact ⟨pipe, started⟩
  | advanced pc move => cases move <;> cases here
  | cleared site => cases site <;> cases here
  | exited other connId running =>
      have before : state.pc = .joining thread := by
        have same := notify_congr (· = MainPc.joining thread) (by simp) state.pc
          (connId ∈ state.registry.registered)
        exact same ▸ here
      obtain ⟨pipe, started⟩ := joins thread before
      rw [getElem?_exit running]
      split
      next => exact ⟨_, rfl⟩
      next => exact ⟨pipe, started⟩
  | broke => exact joins thread here

theorem tracked_of_reachable {config : ConnConfig} {state : State}
    (reached : Reachable (step config) ExitObserved {} state) : Tracked state := by
  refine reached.invariant Tracked ⟨initial_live, by simp [Waiting], by simp⟩ ?_
  intro current label next tracked permitted taken
  have move := step_move taken
  exact ⟨tracked.live.move permitted.1 move, someoneRuns_move tracked.live tracked.waits permitted move,
    joins_move move tracked.joins⟩

section Progress

variable {config : ConnConfig} {state : State}

theorem runs_of_not_joinable (consistent : Consistent state) (waits : state.joinable = false) :
    ∃ thread, Runs state thread := by
  simp only [State.joinable, List.all_eq_false, Bool.or_eq_true, decide_eq_true_eq, not_or] at waits
  obtain ⟨⟨connId, thread⟩, member, -, unfinished⟩ := waits
  obtain ⟨⟨other, exited⟩, started, -⟩ := consistent.owned connId thread member
  cases exited with
  | false => exact ⟨thread, other, started⟩
  | true => simp [started] at unfinished

theorem main_moves_or_pipe_runs (tracked : Tracked state) (goesOn : state.pc ≠ .finished)
    (connected : state.pc ≠ .connecting) : (∃ next, mainStep config state = some next) ∨ ∃ thread, Runs state thread := by
  cases here : state.pc with
  | connecting => exact absurd here connected
  | finished => exact absurd here goesOn
  | registering thread => exact .inr ⟨thread, tracked.live.pending thread here⟩
  | joining thread =>
      obtain ⟨⟨connId, exited⟩, started⟩ := tracked.joins thread here
      cases exited with
      | false => exact .inr ⟨thread, connId, started⟩
      | true => exact .inl (by simp [mainStep, here, started])
  | blocked site =>
      obtain ⟨pipe, -, runs⟩ := tracked.waits ⟨site, .inr here⟩
      exact .inr ⟨pipe.2, runs⟩
  | woken site =>
      cases joined : state.joinable with
      | true => exact .inl (by simp [mainStep, here, joined])
      | false => exact .inr (runs_of_not_joinable tracked.live.consistent joined)
  | added | checkStreams | checkReconnect | checkBreak | checkFull | enterWait | loopCondition | closing =>
      refine .inl ?_
      simp only [mainStep, here]
      first
        | exact ⟨_, rfl⟩
        | split <;> exact ⟨_, rfl⟩

end Progress

section Shutdown

variable {config : ConnConfig} {state next : State}

structure Quiescent (state : State) : Prop where
  tracked : Tracked state
  broken : state.breakToken = true
  exited : ∀ pipe ∈ state.threads, pipe.exited = true

theorem Quiescent.nobody (quiescent : Quiescent state) (thread : Nat) : ¬ Runs state thread := by
  rintro ⟨connId, started⟩
  cases quiescent.exited _ (List.mem_of_getElem? started)

theorem Quiescent.size_eq_zero (quiescent : Quiescent state) : state.registry.size = 0 := by
  rw [size_eq_active quiescent.tracked.live.consistent.wellFormed, List.length_eq_zero_iff,
    List.eq_nil_iff_forall_not_mem]
  intro pipe member
  exact quiescent.nobody pipe.2 (quiescent.tracked.live.active pipe member)

theorem main_frame (move : Move config state .main next) :
    next.threads = state.threads ∧ next.breakToken = state.breakToken := by
  cases move <;> exact ⟨rfl, rfl⟩

def MainPc.distance : MainPc → Nat
  | .finished => 0
  | .closing => 1
  | .loopCondition => 2
  | .checkReconnect => 2
  | .woken .closing => 2
  | .checkStreams => 3
  | .checkBreak => 3
  | .checkFull => 3
  | .added => 4
  | .woken .reconnecting => 4
  | .joining _ => 5
  | .connecting | .registering _ | .enterWait _ | .blocked _ => 6

theorem Quiescent.main (quiescent : Quiescent state) (goesOn : state.pc ≠ .finished) (connected : state.pc ≠ .connecting) :
    ∃ next, mainStep config state = some next ∧ Quiescent next ∧ next.pc ≠ .connecting ∧
      next.pc.distance < state.pc.distance := by
  obtain ⟨next, taken⟩ :=
    (main_moves_or_pipe_runs quiescent.tracked goesOn connected).resolve_right fun ⟨thread, runs⟩ =>
      quiescent.nobody thread runs
  have move : Move config state .main next := mainStep_move taken
  have zero := quiescent.size_eq_zero
  have broken := quiescent.broken
  have limit := streamLimit_pos config
  refine ⟨next, taken, ⟨?_, ?_, ?_⟩, ?_, ?_⟩
  · have observed : ExitObserved state .main := ⟨by simp [RegisteredFirst], by simp⟩
    exact ⟨quiescent.tracked.live.move observed.1 move,
      someoneRuns_move quiescent.tracked.live quiescent.tracked.waits observed move,
      joins_move move quiescent.tracked.joins⟩
  · rw [(main_frame move).2, broken]
  · rw [(main_frame move).1]
    exact quiescent.exited
  · cases move with
    | advanced pc move =>
        cases move with
        | again _ unset => simp [broken] at unset
        | limitReached | belowLimit | streamsLeft | streamsFull | stopped | reconnecting | breakSeen | breakUnset
          | full | notFull | block | leave | drain | finish => simp
    | cleared site => cases site <;> simp [MainPc.resume]
    | collided | registered | joined => simp
  · cases here : state.pc with
    | connecting => exact absurd here connected
    | finished => exact absurd here goesOn
    | registering thread => exact absurd (quiescent.tracked.live.pending thread here) (quiescent.nobody thread)
    | blocked site | enterWait site =>
        obtain ⟨pipe, -, runs⟩ := quiescent.tracked.waits ⟨site, by simp [here]⟩
        exact absurd runs (quiescent.nobody pipe.2)
    | joining thread =>
        simp only [mainStep, here] at taken
        split at taken <;> cases taken
        simp [MainPc.distance]
    | added =>
        simp only [mainStep, here] at taken
        split at taken <;> cases taken <;> simp [MainPc.distance]
    | checkStreams | checkFull =>
        have free : ¬ config.streamLimit ≤ 0 := Nat.not_le.mpr limit
        simp only [mainStep, here, zero, limit, free, if_true, if_false] at taken
        cases taken
        simp [MainPc.distance]
    | checkReconnect | checkBreak | loopCondition =>
        simp only [mainStep, here, broken, Bool.or_true, if_true] at taken
        cases taken
        simp [MainPc.distance]
    | woken site =>
        simp only [mainStep, here] at taken
        split at taken <;> cases taken
        cases site <;> simp [MainPc.resume, MainPc.distance]
    | closing =>
        simp only [mainStep, here, zero, Nat.lt_irrefl, if_false] at taken
        cases taken
        simp [MainPc.distance]

theorem Quiescent.finishes (quiescent : Quiescent state) (connected : state.pc ≠ .connecting) (bound : Nat)
    (near : state.pc.distance ≤ bound) :
    ∃ count ≤ bound, ∃ final, run (step config) state (List.replicate count .main) = some final ∧
      final.pc = .finished := by
  induction bound generalizing state with
  | zero =>
      by_cases past : state.pc = .finished
      next => exact ⟨0, Nat.le_refl _, state, rfl, past⟩
      next =>
        obtain ⟨next, -, -, -, closer⟩ := @Quiescent.main config state quiescent past connected
        omega
  | succ bound ih =>
      by_cases past : state.pc = .finished
      next => exact ⟨0, Nat.zero_le _, state, rfl, past⟩
      next =>
        obtain ⟨next, taken, still, connected, closer⟩ := @Quiescent.main config state quiescent past connected
        obtain ⟨count, few, final, continued, finished⟩ := ih still connected (by omega)
        refine ⟨count + 1, by omega, final, ?_, finished⟩
        rw [List.replicate_succ, run, step, taken, Option.bind_some, continued]

end Shutdown

theorem main_thread_gets_to_the_end (config : ConnConfig) (state : State)
    (reached : Reachable (step config) ExitObserved {} state) (connected : state.pc ≠ .connecting) :
    (state.pc = .finished ∨ (∃ next, mainStep config state = some next) ∨ ∃ thread, Runs state thread) ∧
      (state.breakToken = true → (∀ pipe ∈ state.threads, pipe.exited = true) →
        ∃ count ≤ 5, ∃ final, run (step config) state (List.replicate count .main) = some final ∧
          final.pc = .finished) := by
  have tracked := tracked_of_reachable reached
  constructor
  · by_cases past : state.pc = .finished
    · exact .inl past
    · exact .inr (main_moves_or_pipe_runs tracked past connected)
  · intro broken exited
    have quiescent : Quiescent state := ⟨tracked, broken, exited⟩
    refine quiescent.finishes connected 5 ?_
    -- The positions further away wait for a pipe.
    cases here : state.pc with
    | connecting => exact absurd here connected
    | registering thread => exact absurd (tracked.live.pending thread here) (quiescent.nobody thread)
    | blocked site | enterWait site =>
        obtain ⟨pipe, -, runs⟩ := tracked.waits ⟨site, by simp [here]⟩
        exact absurd runs (quiescent.nobody pipe.2)
    | woken site => cases site <;> simp [MainPc.distance]
    | joining | added | checkStreams | checkReconnect | checkBreak | checkFull | loopCondition | closing | finished =>
        simp [MainPc.distance]

theorem main_thread_gets_to_the_end_woken :
    ∃ count ≤ 5, ∃ final, run (step { reconnect := true, maxConns := -1 })
      { pc := .woken .reconnecting, registry := ⟨[(7, 0)], {7}⟩, threads := [⟨7, true⟩], connsCnt := 1,
        breakToken := true } (List.replicate count .main) = some final ∧ final.pc = .finished := by
  have blocked : Reachable (step { reconnect := true, maxConns := -1 }) ExitObserved {}
      { pc := .blocked .reconnecting, registry := ⟨[(7, 0)], ∅⟩, threads := [⟨7, false⟩], connsCnt := 1,
        breakToken := true } :=
    Reachable.initial.run [.createConnection (some 7), .main, .main, .main, .main, .main, .main, .main, .raiseBreak]
      (allowedRun_of_forall (by simp [ExitObserved, RegisteredFirst]) _) (by decide)
  have woken := Reachable.step (.pipeExit 0) blocked (by simp [ExitObserved, RegisteredFirst]) rfl
  exact (main_thread_gets_to_the_end _ _ woken (by decide)).2 rfl (by decide)

end XTransmit.Connections
