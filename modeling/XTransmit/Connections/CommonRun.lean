import XTransmit.Connections.Pipes
import XTransmit.Shared.Transition

set_option autoImplicit false

namespace XTransmit.Connections

structure ConnConfig where
  reconnect : Bool := false
  maxConns : Int32 := 1
  concurrentStreams : Int32 := 1
  streamsPositive : 0 < concurrentStreams.toInt := by decide

-- `concurrent_streams` as the `size_t` that `size()` is compared with.
def ConnConfig.streamLimit (config : ConnConfig) : Nat := (config.concurrentStreams.toInt % 2 ^ 64).toNat

inductive WaitSite where
  | reconnecting
  | closing
deriving DecidableEq

-- A step is a critical section under `m_mtx`, the release-and-block of the condition variable, a read of the
-- break token, or the insertion of a started pipe.
inductive MainPc where
  | connecting
  | registering (thread : Nat)
  -- `emplace` did not take the future: its destructor joins the thread.
  | joining (thread : Nat)
  | added
  | checkStreams
  | checkReconnect
  | checkBreak
  | checkFull
  | enterWait (site : WaitSite)
  | blocked (site : WaitSite)
  | woken (site : WaitSite)
  | loopCondition
  | closing
  | finished
deriving DecidableEq

structure PipeThread where
  connId : ConnId
  exited : Bool := false
deriving DecidableEq

structure State where
  pc : MainPc := .connecting
  registry : ConcurrentPipes := {}
  threads : List PipeThread := []
  connsCnt : Int32 := 0
  breakToken : Bool := false
deriving DecidableEq

inductive Label where
  -- No connection: an exception or a null pointer.
  | createConnection (result : Option ConnId)
  | main
  | pipeExit (thread : Nat)
  | raiseBreak
deriving DecidableEq

-- `notify_all` reaches the main thread only while it is blocked.
def MainPc.notify : MainPc → MainPc
  | .blocked site => .woken site
  | pc => pc

def MainPc.resume : WaitSite → MainPc
  | .reconnecting => .checkBreak
  | .closing => .closing

-- Erasing a future joins its thread.
def State.joinable (state : State) : Bool :=
  state.registry.pipes.all fun pipe =>
    pipe.1 ∉ state.registry.toClose || (state.threads[pipe.2]?.map (·.exited)) = some true

def mainStep (config : ConnConfig) (state : State) : Option State :=
  match state.pc with
  | .connecting => none
  | .registering thread =>
      state.threads[thread]?.map fun pipe =>
        if pipe.connId ∈ state.registry.registered then { state with pc := .joining thread }
        else { state with
          registry := state.registry.emplace pipe.connId thread
          connsCnt := state.connsCnt + 1
          pc := .added }
  | .joining thread =>
      if (state.threads[thread]?.map (·.exited)) = some true then
        some { state with connsCnt := state.connsCnt + 1, pc := .added }
      else none
  | .added =>
      if 0 < config.maxConns ∧ config.maxConns ≤ state.connsCnt then some { state with pc := .closing }
      else some { state with pc := .checkStreams }
  | .checkStreams =>
      if state.registry.size < config.streamLimit then some { state with pc := .loopCondition }
      else some { state with pc := .checkReconnect }
  | .checkReconnect =>
      if !config.reconnect || state.breakToken then some { state with pc := .closing }
      else some { state with pc := .checkBreak }
  | .checkBreak =>
      if state.breakToken then some { state with pc := .loopCondition }
      else some { state with pc := .checkFull }
  | .checkFull =>
      if config.streamLimit ≤ state.registry.size then some { state with pc := .enterWait .reconnecting }
      else some { state with pc := .loopCondition }
  | .enterWait site => some { state with pc := .blocked site }
  | .blocked _ => none
  | .woken site =>
      if state.joinable then
        some { state with registry := state.registry.clear, pc := MainPc.resume site }
      else none
  | .loopCondition =>
      if state.breakToken then some { state with pc := .closing }
      else some { state with pc := .connecting }
  | .closing =>
      if 0 < state.registry.size then some { state with pc := .enterWait .closing }
      else some { state with pc := .finished }
  | .finished => none

def exitStep (state : State) (thread : Nat) : Option State :=
  match state.threads[thread]? with
  | some ⟨connId, false⟩ =>
      let critical := state.registry.onPipeExit connId
      some { state with
        registry := critical.1
        threads := state.threads.set thread ⟨connId, true⟩
        pc := if critical.2 then state.pc.notify else state.pc }
  | _ => none

def step (config : ConnConfig) (state : State) : Label → Option State
  | .createConnection result =>
      if state.pc = .connecting then
        match result with
        | none => some { state with pc := .closing }
        | some connId => some { state with
            threads := state.threads ++ [{ connId := connId }]
            pc := .registering state.threads.length }
      else none
  | .main => mainStep config state
  | .pipeExit thread => exitStep state thread
  | .raiseBreak => some { state with breakToken := true }

def running (state : State) : Nat := state.threads.countP (!·.exited)

inductive Advance (config : ConnConfig) (state : State) : MainPc → Prop
  | limitReached (here : state.pc = .added)
      (reached : 0 < config.maxConns ∧ config.maxConns ≤ state.connsCnt) : Advance config state .closing
  | belowLimit (here : state.pc = .added)
      (below : ¬ (0 < config.maxConns ∧ config.maxConns ≤ state.connsCnt)) :
      Advance config state .checkStreams
  | streamsLeft (here : state.pc = .checkStreams)
      (left : state.registry.size < config.streamLimit) : Advance config state .loopCondition
  | streamsFull (here : state.pc = .checkStreams) : Advance config state .checkReconnect
  | stopped (here : state.pc = .checkReconnect) : Advance config state .closing
  | reconnecting (here : state.pc = .checkReconnect) : Advance config state .checkBreak
  | breakSeen (here : state.pc = .checkBreak) (raised : state.breakToken = true) :
      Advance config state .loopCondition
  | breakUnset (here : state.pc = .checkBreak) : Advance config state .checkFull
  | full (here : state.pc = .checkFull) (atLimit : config.streamLimit ≤ state.registry.size) :
      Advance config state (.enterWait .reconnecting)
  | notFull (here : state.pc = .checkFull) (left : state.registry.size < config.streamLimit) :
      Advance config state .loopCondition
  | block (site : WaitSite) (here : state.pc = .enterWait site) : Advance config state (.blocked site)
  | leave (here : state.pc = .loopCondition) : Advance config state .closing
  | again (here : state.pc = .loopCondition) (unset : state.breakToken = false) :
      Advance config state .connecting
  | drain (here : state.pc = .closing) (left : 0 < state.registry.size) :
      Advance config state (.enterWait .closing)
  | finish (here : state.pc = .closing) : Advance config state .finished

inductive Move (config : ConnConfig) (state : State) : Label → State → Prop
  | noConnection (here : state.pc = .connecting) :
      Move config state (.createConnection none) { state with pc := .closing }
  | connected (connId : ConnId) (here : state.pc = .connecting) :
      Move config state (.createConnection (some connId)) { state with
        threads := state.threads ++ [{ connId := connId }]
        pc := .registering state.threads.length }
  | collided (thread : Nat) (pipe : PipeThread) (here : state.pc = .registering thread)
      (started : state.threads[thread]? = some pipe) (taken : pipe.connId ∈ state.registry.registered) :
      Move config state .main { state with pc := .joining thread }
  | registered (thread : Nat) (pipe : PipeThread) (here : state.pc = .registering thread)
      (started : state.threads[thread]? = some pipe) (fresh : pipe.connId ∉ state.registry.registered) :
      Move config state .main { state with
        registry := state.registry.emplace pipe.connId thread
        connsCnt := state.connsCnt + 1
        pc := .added }
  | joined (thread : Nat) (here : state.pc = .joining thread) :
      Move config state .main { state with connsCnt := state.connsCnt + 1, pc := .added }
  | advanced (pc : MainPc) (move : Advance config state pc) :
      Move config state .main { state with pc := pc }
  | cleared (site : WaitSite) (here : state.pc = .woken site) :
      Move config state .main { state with
        registry := state.registry.clear
        pc := MainPc.resume site }
  | exited (thread : Nat) (connId : ConnId) (running : state.threads[thread]? = some ⟨connId, false⟩) :
      Move config state (.pipeExit thread) { state with
        registry := (state.registry.onPipeExit connId).1
        threads := state.threads.set thread ⟨connId, true⟩
        pc := if connId ∈ state.registry.registered then state.pc.notify else state.pc }
  | broke : Move config state .raiseBreak { state with breakToken := true }

theorem mainStep_move {config : ConnConfig} {state next : State}
    (taken : mainStep config state = some next) : Move config state .main next := by
  unfold mainStep at taken
  cases here : state.pc with
  | connecting | blocked | finished => simp [here] at taken
  | registering thread =>
      simp only [here] at taken
      obtain ⟨pipe, started, rfl⟩ := Option.map_eq_some_iff.mp taken
      split
      next occupied => exact .collided thread pipe here started occupied
      next fresh => exact .registered thread pipe here started fresh
  | joining thread =>
      simp only [here] at taken
      split at taken
      next =>
        cases taken
        exact .joined thread here
      next => cases taken
  | added =>
      simp only [here] at taken
      split at taken <;> cases taken
      next reached => exact .advanced _ (.limitReached here reached)
      next below => exact .advanced _ (.belowLimit here below)
  | checkStreams =>
      simp only [here] at taken
      split at taken <;> cases taken
      next left => exact .advanced _ (.streamsLeft here left)
      next => exact .advanced _ (.streamsFull here)
  | checkReconnect =>
      simp only [here] at taken
      split at taken <;> cases taken
      next => exact .advanced _ (.stopped here)
      next => exact .advanced _ (.reconnecting here)
  | checkBreak =>
      simp only [here] at taken
      split at taken <;> cases taken
      next raised => exact .advanced _ (.breakSeen here raised)
      next => exact .advanced _ (.breakUnset here)
  | checkFull =>
      simp only [here] at taken
      split at taken <;> cases taken
      next atLimit => exact .advanced _ (.full here atLimit)
      next left => exact .advanced _ (.notFull here (Nat.lt_of_not_le left))
  | enterWait site =>
      simp only [here] at taken
      cases taken
      exact .advanced _ (.block site here)
  | woken site =>
      simp only [here] at taken
      split at taken
      next =>
        cases taken
        exact .cleared site here
      next => cases taken
  | loopCondition =>
      simp only [here] at taken
      split at taken <;> cases taken
      next => exact .advanced _ (.leave here)
      next unset => exact .advanced _ (.again here (by simpa using unset))
  | closing =>
      simp only [here] at taken
      split at taken <;> cases taken
      next left => exact .advanced _ (.drain here left)
      next => exact .advanced _ (.finish here)

theorem step_move {config : ConnConfig} {state next : State} {label : Label}
    (taken : step config state label = some next) : Move config state label next := by
  cases label with
  | createConnection result =>
      simp only [step] at taken
      split at taken
      next here =>
        cases result with
        | none =>
            cases taken
            exact .noConnection here
        | some connId =>
            cases taken
            exact .connected connId here
      next => cases taken
  | main => exact mainStep_move taken
  | pipeExit thread =>
      simp only [step, exitStep] at taken
      split at taken
      next connId running =>
        have notified : (state.registry.onPipeExit connId).2 =
            decide (connId ∈ state.registry.registered) := by
          unfold ConcurrentPipes.onPipeExit
          split <;> simp_all
        cases taken
        have move : Move config state (.pipeExit thread) _ := .exited thread connId running
        simpa [notified] using move
      next => cases taken
  | raiseBreak =>
      cases taken
      exact .broke

end XTransmit.Connections
