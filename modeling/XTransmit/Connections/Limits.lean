import XTransmit.Connections.Accounting

set_option autoImplicit false

namespace XTransmit.Connections

open Transition ConcurrentPipes

def streamReserve (state : State) : Nat :=
  match state.pc with
  | .connecting => 1
  | .loopCondition => if state.breakToken then 0 else 1
  | _ => 0

def connReserve : MainPc → Nat
  | .connecting | .checkStreams | .checkReconnect | .checkBreak | .checkFull | .loopCondition => 1
  | .enterWait site | .blocked site | .woken site => if site = .reconnecting then 1 else 0
  | .registering _ | .joining _ | .added | .closing | .finished => 0

structure WithinLimits (config : ConnConfig) (state : State) : Prop where
  distinct : Distinct state
  covered : running state ≤ state.registry.active.length + pendingCount state.pc
  streams : running state + streamReserve state ≤ config.streamLimit
  counted : 0 < config.maxConns.toInt → state.connsCnt.toInt + pendingCount state.pc = state.threads.length
  conns : 0 < config.maxConns.toInt → state.threads.length + connReserve state.pc ≤ config.maxConns.toInt

theorem initial_withinLimits (config : ConnConfig) : WithinLimits config {} where
  distinct := initial_distinct
  covered := by simp [running]
  streams := by
    have positive := streamLimit_pos config
    simp only [running, streamReserve, List.countP_nil]
    omega
  counted := by simp [pendingCount]
  conns := by
    intro positive
    simp only [connReserve, List.length_nil]
    omega

theorem streamReserve_notify (state : State) (found : Prop) [Decidable found] :
    streamReserve { state with pc := if found then state.pc.notify else state.pc } = streamReserve state :=
  notify_congr (fun pc => streamReserve { state with pc := pc }) (fun _ => rfl) state.pc found

-- Only a passed `size()` test makes room for another stream.
theorem streamReserve_advance {config : ConnConfig} {state : State} {pc : MainPc}
    (move : Advance config state pc) :
    streamReserve { state with pc := pc } ≤ streamReserve state ∨
      state.registry.size < config.streamLimit ∧ streamReserve { state with pc := pc } ≤ 1 := by
  cases move with
  | streamsLeft here left | notFull here left =>
      refine .inr ⟨left, ?_⟩
      simp only [streamReserve]
      split <;> simp
  | breakSeen here raised => simp [streamReserve, raised]
  | again here unset => simp [streamReserve, here, unset]
  | limitReached | belowLimit | streamsFull | stopped | reconnecting | breakUnset | full | block | leave
    | drain | finish => simp [streamReserve]

theorem connReserve_advance {config : ConnConfig} {state : State} {pc : MainPc}
    (move : Advance config state pc) :
    connReserve pc ≤ connReserve state.pc ∨
      connReserve pc = 1 ∧ ¬ (0 < config.maxConns ∧ config.maxConns ≤ state.connsCnt) := by
  cases move with
  | belowLimit here below => exact .inr ⟨rfl, below⟩
  | limitReached here | streamsLeft here | streamsFull here | stopped here | reconnecting here
    | breakSeen here | breakUnset here | full here | notFull here | block site here | leave here
    | again here | drain here | finish here => exact .inl (by simp [here, connReserve])

theorem running_covered {config : ConnConfig} {state next : State} {label : Label}
    (distinct : Distinct state) (move : Move config state label next)
    (covered : running state ≤ state.registry.active.length + pendingCount state.pc) :
    running next ≤ next.registry.active.length + pendingCount next.pc := by
  have booked := move_account distinct move
  omega

theorem streams_move {config : ConnConfig} {state next : State} {label : Label}
    (limits : WithinLimits config state) (move : Move config state label next) :
    running next + streamReserve next ≤ config.streamLimit := by
  have room := limits.streams
  cases move with
  | noConnection | collided | registered | joined => exact Nat.le_trans (Nat.le_add_right _ _) room
  | connected connId here =>
      have spent : streamReserve state = 1 := by simp [streamReserve, here]
      have started : running { state with
          threads := state.threads ++ [{ connId := connId }]
          pc := .registering state.threads.length } = running state + 1 := by
        simp [running, List.countP_append]
      rw [spent] at room
      rw [started]
      exact room
  | cleared site here => cases site <;> exact Nat.le_trans (Nat.le_add_right _ _) room
  | broke =>
      have fewer : streamReserve { state with breakToken := true } ≤ streamReserve state := by
        cases here : state.pc <;> simp [streamReserve, here]
      exact Nat.le_trans (Nat.add_le_add_left fewer _) room
  | exited thread connId alive =>
      have dropped := running_exit alive
      have same := streamReserve_notify state (connId ∈ state.registry.registered)
      simp only [streamReserve, running] at same dropped room ⊢
      omega
  | advanced pc move =>
      rcases streamReserve_advance move with kept | ⟨passed, one⟩
      · exact Nat.le_trans (Nat.add_le_add_left kept _) room
      · have covered := limits.covered
        rw [size_eq_active limits.distinct.consistent.wellFormed] at passed
        rw [(pendingCount_advance move).2] at covered
        have below : running state < config.streamLimit := by omega
        exact Nat.le_trans (Nat.add_le_add_left one _) below

theorem connsCnt_step {connsCnt : Int32} (bound : connsCnt.toInt + 1 ≤ 2 ^ 31 - 1)
    (lower : 0 ≤ connsCnt.toInt) : (connsCnt + 1).toInt = connsCnt.toInt + 1 := by
  rw [Int32.toInt_add]
  have one : (1 : Int32).toInt = 1 := rfl
  rw [one, Int.bmod_eq_of_le] <;> omega

theorem conns_move {config : ConnConfig} {state next : State} {label : Label}
    (limits : WithinLimits config state) (move : Move config state label next)
    (positive : 0 < config.maxConns.toInt) :
    next.connsCnt.toInt + pendingCount next.pc = next.threads.length ∧
      next.threads.length + connReserve next.pc ≤ config.maxConns.toInt := by
  have counted := limits.counted positive
  have room := limits.conns positive
  cases move with
  | noConnection here =>
      simp only [here, pendingCount, connReserve] at counted room ⊢
      omega
  | connected connId here =>
      simp only [here, pendingCount, connReserve, List.length_append, List.length_singleton] at counted room ⊢
      omega
  | collided thread pipe here started taken => exact absurd taken (limits.distinct.fresh here started)
  | registered thread pipe here started fresh =>
      simp only [here, pendingCount, connReserve] at counted room ⊢
      have inside := (List.getElem?_eq_some_iff.mp started).1
      have top := config.maxConns.toInt_lt
      rw [connsCnt_step (by omega) (by omega)]
      omega
  | joined thread here => exact absurd here (limits.distinct.notJoining thread)
  | advanced pc move =>
      obtain ⟨after, before⟩ := pendingCount_advance move
      simp only [after, before] at counted ⊢
      refine ⟨counted, ?_⟩
      rcases connReserve_advance move with kept | ⟨one, below⟩
      · omega
      · have left : state.connsCnt.toInt < config.maxConns.toInt := by
          rw [Int32.lt_iff_toInt_lt, Int32.le_iff_toInt_le] at below
          by_contra reached
          exact below ⟨positive, not_lt.mp reached⟩
        simp only [one]
        omega
  | cleared site here =>
      rw [here] at counted room
      cases site <;> exact ⟨counted, room⟩
  | broke => exact ⟨counted, room⟩
  | exited thread connId alive =>
      rw [notify_congr pendingCount (fun _ => rfl), notify_congr connReserve (fun _ => rfl), List.length_set]
      exact ⟨counted, room⟩

theorem WithinLimits.move {config : ConnConfig} {state next : State} {label : Label}
    (limits : WithinLimits config state) (allowed : FreshConnection state label)
    (move : Move config state label next) : WithinLimits config next where
  distinct := limits.distinct.move allowed move
  covered := running_covered limits.distinct move limits.covered
  streams := streams_move limits move
  counted := fun positive => (conns_move limits move positive).1
  conns := fun positive => (conns_move limits move positive).2

theorem streamLimit_toInt (config : ConnConfig) : (config.streamLimit : Int) = config.concurrentStreams.toInt := by
  have positive := config.streamsPositive
  have bound := config.concurrentStreams.toInt_lt
  rw [ConnConfig.streamLimit]
  omega

theorem connection_limits_hold (config : ConnConfig) (state : State)
    (reached : Reachable (step config) FreshConnection {} state) :
    (running state : Int) ≤ config.concurrentStreams.toInt ∧
      (0 < config.maxConns.toInt → (state.threads.length : Int) ≤ config.maxConns.toInt) := by
  have limits : WithinLimits config state :=
    reached.invariant (WithinLimits config) (initial_withinLimits config)
      fun _ _ _ limits permitted taken => limits.move permitted (step_move taken)
  constructor
  · have room := limits.streams
    rw [← streamLimit_toInt]
    omega
  · intro positive
    have room := limits.conns positive
    omega

theorem connection_limits_hold_two_streams :
    ([(⟨7, true⟩ : PipeThread), ⟨8, false⟩].countP (!·.exited) : Int) ≤ 2 ∧
      (0 < (3 : Int) → ([(⟨7, true⟩ : PipeThread), ⟨8, false⟩].length : Int) ≤ 3) := by
  have started : Reachable (step { maxConns := 3, concurrentStreams := 2 }) FreshConnection {}
      { pc := .registering 0, threads := [⟨7, false⟩] } :=
    .step (.createConnection (some 7)) .initial (by simp [FreshConnection, registered]) (by decide)
  have again : Reachable (step { maxConns := 3, concurrentStreams := 2 }) FreshConnection {}
      { pc := .connecting, registry := ⟨[(7, 0)], {7}⟩, threads := [⟨7, true⟩], connsCnt := 1 } :=
    started.run [.main, .main, .pipeExit 0, .main, .main]
      (allowedRun_of_forall (by simp [FreshConnection]) _) (by decide)
  have second := Reachable.step (.createConnection (some 8)) again
    (by simp [FreshConnection, registered]) rfl
  exact connection_limits_hold { maxConns := 3, concurrentStreams := 2 } _ second

end XTransmit.Connections
