import XTransmit.Connections.CommonRun

set_option autoImplicit false

namespace XTransmit.Connections

open Transition ConcurrentPipes

theorem getElem?_exit {threads : List PipeThread} {thread : Nat} {connId : ConnId}
    (running : threads[thread]? = some ⟨connId, false⟩) (other : Nat) :
    (threads.set thread ⟨connId, true⟩)[other]? =
      if other = thread then some ⟨connId, true⟩ else threads[other]? := by
  obtain ⟨inside, -⟩ := List.getElem?_eq_some_iff.mp running
  rw [List.getElem?_set]
  by_cases same : other = thread
  · simp [same, inside]
  · simp [same, Ne.symm same]

theorem getElem?_connected {threads : List PipeThread} {thread : Nat} {pipe : PipeThread}
    (started : threads[thread]? = some pipe) (connId : ConnId) :
    (threads ++ [{ connId := connId }])[thread]? = some pipe := by
  obtain ⟨inside, -⟩ := List.getElem?_eq_some_iff.mp started
  rw [List.getElem?_append_left inside, started]

theorem notify_congr {α : Sort _} (property : MainPc → α)
    (same : ∀ site, property (.woken site) = property (.blocked site)) (pc : MainPc) (found : Prop)
    [Decidable found] : property (if found then pc.notify else pc) = property pc := by
  split
  next =>
    cases pc with
    | blocked site => exact same site
    | connecting | registering | joining | added | checkStreams | checkReconnect | checkBreak | checkFull
      | enterWait | woken | loopCondition | closing | finished => rfl
  next => rfl

theorem exit_registering (pc : MainPc) (found : Prop) [Decidable found] (thread : Nat) :
    (if found then pc.notify else pc) = .registering thread ↔ pc = .registering thread :=
  iff_of_eq (notify_congr (· = .registering thread) (by simp) pc found)

theorem resume_registering (site : WaitSite) (thread : Nat) :
    MainPc.resume site ≠ .registering thread := by
  cases site <;> simp [MainPc.resume]

theorem advance_registering {config : ConnConfig} {state : State} {pc : MainPc}
    (move : Advance config state pc) (thread : Nat) : pc ≠ .registering thread := by
  cases move <;> simp

structure Consistent (state : State) : Prop where
  wellFormed : state.registry.WellFormed
  owned : ∀ connId thread, (connId, thread) ∈ state.registry.pipes →
    ∃ pipe, state.threads[thread]? = some pipe ∧ pipe.connId = connId

theorem initial_consistent : Consistent {} where
  wellFormed := empty_wellFormed
  owned := by simp

theorem Consistent.owner {state : State} (consistent : Consistent state) {other connId : ConnId}
    {thread : Nat} {exited : Bool} (member : (other, thread) ∈ state.registry.pipes)
    (started : state.threads[thread]? = some ⟨connId, exited⟩) : other = connId := by
  obtain ⟨pipe, found, same⟩ := consistent.owned other thread member
  rw [started] at found
  cases found
  exact same.symm

theorem Consistent.move {config : ConnConfig} {state next : State} {label : Label}
    (consistent : Consistent state) (move : Move config state label next) : Consistent next := by
  have ⟨wellFormed, owned⟩ := consistent
  cases move with
  | noConnection | collided | joined | advanced | broke => exact ⟨wellFormed, owned⟩
  | connected connId here =>
      refine ⟨wellFormed, ?_⟩
      intro other thread member
      obtain ⟨pipe, started, same⟩ := owned other thread member
      exact ⟨pipe, getElem?_connected started connId, same⟩
  | registered thread pipe here started fresh =>
      refine ⟨emplace_wellFormed wellFormed _ _, ?_⟩
      intro connId other member
      simp only [emplace, fresh, if_false, List.mem_append, List.mem_singleton, Prod.mk.injEq] at member
      rcases member with earlier | ⟨sameId, sameThread⟩
      · exact owned connId other earlier
      · exact ⟨pipe, sameThread ▸ started, sameId.symm⟩
  | cleared site here =>
      refine ⟨clear_wellFormed wellFormed, ?_⟩
      intro connId thread member
      exact owned connId thread (List.mem_filter.mp member).1
  | exited thread connId running =>
      refine ⟨onPipeExit_wellFormed wellFormed connId, ?_⟩
      intro other owner member
      rw [onPipeExit_pipes] at member
      simp only [getElem?_exit running]
      by_cases exiting : owner = thread
      · exact ⟨_, if_pos exiting, (consistent.owner (exiting ▸ member) running).symm⟩
      · obtain ⟨pipe, started, same⟩ := owned other owner member
        exact ⟨pipe, (if_neg exiting).trans started, same⟩

def RegisteredFirst (state : State) (label : Label) : Prop :=
  ∀ thread, label = .pipeExit thread → state.pc ≠ .registering thread

def Runs (state : State) (thread : Nat) : Prop :=
  ∃ connId, state.threads[thread]? = some ⟨connId, false⟩

structure Live (state : State) : Prop where
  consistent : Consistent state
  active : ∀ pipe ∈ state.registry.active, Runs state pipe.2
  pending : ∀ thread, state.pc = .registering thread → Runs state thread

theorem initial_live : Live {} where
  consistent := initial_consistent
  active := by simp [ConcurrentPipes.active]
  pending := by simp

theorem Live.exit {state : State} (live : Live state) {thread : Nat} {connId : ConnId}
    (running : state.threads[thread]? = some ⟨connId, false⟩) (registered : state.pc ≠ .registering thread)
    (consistent : Consistent { state with
      registry := (state.registry.onPipeExit connId).1
      threads := state.threads.set thread ⟨connId, true⟩
      pc := if connId ∈ state.registry.registered then state.pc.notify else state.pc }) :
    Live { state with
      registry := (state.registry.onPipeExit connId).1
      threads := state.threads.set thread ⟨connId, true⟩
      pc := if connId ∈ state.registry.registered then state.pc.notify else state.pc } := by
  obtain ⟨before, active, pending⟩ := live
  refine ⟨consistent, ?_, ?_⟩
  · rintro ⟨identifier, owner⟩ member
    obtain ⟨listed, unmarked⟩ := mem_active.mp member
    rw [onPipeExit_pipes] at listed
    rw [mem_onPipeExit_toClose, not_or] at unmarked
    obtain ⟨other, stillRunning⟩ := active _ (mem_active.mpr ⟨listed, unmarked.1⟩)
    have different : owner ≠ thread := by
      intro exiting
      have same := before.owner (exiting ▸ listed) running
      exact unmarked.2 ⟨same, same ▸ mem_registered.mpr ⟨owner, listed⟩⟩
    refine ⟨other, ?_⟩
    rw [getElem?_exit running, if_neg different, stillRunning]
  · intro other registering
    have here := (exit_registering _ _ _).mp registering
    have different : other ≠ thread := fun same => registered (same ▸ here)
    obtain ⟨identifier, stillRunning⟩ := pending other here
    refine ⟨identifier, ?_⟩
    rw [getElem?_exit running, if_neg different, stillRunning]

theorem Live.move {config : ConnConfig} {state next : State} {label : Label}
    (live : Live state) (allowed : RegisteredFirst state label)
    (move : Move config state label next) : Live next := by
  have consistent := live.consistent.move move
  obtain ⟨before, active, pending⟩ := live
  cases move with
  | noConnection | collided | joined => exact ⟨consistent, active, by simp⟩
  | broke => exact ⟨consistent, active, pending⟩
  | advanced pc move =>
      exact ⟨consistent, active, fun thread here => absurd here (advance_registering move thread)⟩
  | connected connId here =>
      refine ⟨consistent, ?_, ?_⟩
      · intro pipe member
        obtain ⟨other, running⟩ := active pipe member
        exact ⟨other, getElem?_connected running connId⟩
      · intro thread registering
        cases registering
        exact ⟨connId, by simp⟩
  | registered thread pipe here started fresh =>
      refine ⟨consistent, ?_, by simp⟩
      intro entry member
      rw [mem_active] at member
      simp only [emplace, fresh, if_false, List.mem_append, List.mem_singleton] at member
      obtain ⟨earlier | rfl, unmarked⟩ := member
      · exact active entry (mem_active.mpr ⟨earlier, unmarked⟩)
      · exact pending thread here
  | cleared site here =>
      refine ⟨consistent, ?_, fun thread registering =>
        absurd registering (resume_registering site thread)⟩
      intro pipe member
      rw [active_clear] at member
      exact active pipe member
  | exited thread connId running =>
      exact Live.exit ⟨before, active, pending⟩ running (allowed thread rfl) consistent

theorem live_of_reachable {config : ConnConfig} {allowed : State → Label → Prop}
    (registeredFirst : ∀ state label, allowed state label → RegisteredFirst state label)
    {state : State} (reached : Reachable (step config) allowed {} state) : Live state :=
  reached.invariant Live initial_live fun state label _ live permitted taken =>
    live.move (registeredFirst state label permitted) (step_move taken)

def SomeoneRuns (state : State) : Prop := ∃ pipe ∈ state.registry.pipes, Runs state pipe.2

-- No exit that takes the last registered pipe falls between a `size()` test and the block.
def ExitObserved (state : State) (label : Label) : Prop :=
  RegisteredFirst state label ∧
    ∀ thread site, label = .pipeExit thread → state.pc = .enterWait site →
      ∃ pipe ∈ state.registry.pipes, pipe.2 ≠ thread ∧ Runs state pipe.2

def Waiting (pc : MainPc) : Prop := ∃ site, pc = .enterWait site ∨ pc = .blocked site

theorem someoneRuns_of_size {state : State} (live : Live state) (left : 0 < state.registry.size) :
    SomeoneRuns state := by
  rw [size_eq_active live.consistent.wellFormed] at left
  obtain ⟨pipe, member⟩ := List.exists_mem_of_length_pos left
  exact ⟨pipe, (mem_active.mp member).1, live.active pipe member⟩

theorem waiting_resume (site : WaitSite) : ¬ Waiting (MainPc.resume site) := by
  cases site <;> simp [Waiting, MainPc.resume]

theorem streamLimit_pos (config : ConnConfig) : 0 < config.streamLimit := by
  have positive := config.streamsPositive
  have bound := config.concurrentStreams.toInt_lt
  rw [ConnConfig.streamLimit]
  omega

-- Entering the window needs a counted pipe; inside it the guard and the notification help.
theorem someoneRuns_move {config : ConnConfig} {state next : State} {label : Label}
    (live : Live state) (waits : Waiting state.pc → SomeoneRuns state)
    (allowed : ExitObserved state label) (move : Move config state label next) :
    Waiting next.pc → SomeoneRuns next := by
  cases move with
  | noConnection | connected | collided | registered | joined => simp [Waiting]
  | broke => exact waits
  | cleared site here => exact fun waiting => absurd waiting (waiting_resume site)
  | advanced pc move =>
      cases move with
      | full here atLimit =>
          have left := Nat.lt_of_lt_of_le (streamLimit_pos config) atLimit
          exact fun _ => (someoneRuns_of_size live left : SomeoneRuns state)
      | drain here left => exact fun _ => (someoneRuns_of_size live left : SomeoneRuns state)
      | block site here => exact fun _ => waits ⟨site, .inl here⟩
      | limitReached | belowLimit | streamsLeft | streamsFull | stopped | reconnecting | breakSeen
        | breakUnset | notFull | leave | again | finish => simp [Waiting]
  | exited thread connId running =>
      rintro ⟨site, position⟩
      have survivor : ∃ pipe ∈ state.registry.pipes, pipe.2 ≠ thread ∧ Runs state pipe.2 := by
        simp only at position
        split at position
        next found =>
          -- A blocked thread was notified, so only the window is left.
          have window : state.pc = .enterWait site := by
            cases here : state.pc <;> simp_all [MainPc.notify]
          exact allowed.2 thread site rfl window
        next unknown =>
          obtain ⟨⟨identifier, owner⟩, member, runs⟩ := waits ⟨site, position⟩
          refine ⟨_, member, fun (exiting : owner = thread) => ?_, runs⟩
          have same := live.consistent.owner (exiting ▸ member) running
          exact unknown (same ▸ mem_registered.mpr ⟨owner, member⟩)
      obtain ⟨pipe, member, other, identifier, stillRunning⟩ := survivor
      refine ⟨pipe, by rw [onPipeExit_pipes]; exact member, identifier, ?_⟩
      rw [getElem?_exit running, if_neg other, stillRunning]

theorem blocked_wait_has_running_pipe (config : ConnConfig) (state : State)
    (reached : Reachable (step config) ExitObserved {} state) (site : WaitSite)
    (blocked : state.pc = .blocked site) :
    ∃ connId thread pipe, (connId, thread) ∈ state.registry.pipes ∧
      state.threads[thread]? = some pipe ∧ pipe.exited = false := by
  have waits : Live state ∧ (Waiting state.pc → SomeoneRuns state) := by
    refine reached.invariant (fun state => Live state ∧ (Waiting state.pc → SomeoneRuns state))
      ⟨initial_live, by simp [Waiting]⟩ ?_
    rintro current label next ⟨live, waits⟩ permitted taken
    exact ⟨live.move permitted.1 (step_move taken),
      someoneRuns_move live waits permitted (step_move taken)⟩
  obtain ⟨⟨connId, thread⟩, member, identifier, running⟩ := waits.2 ⟨site, .inr blocked⟩
  exact ⟨connId, thread, _, member, running, rfl⟩

theorem blocked_wait_has_running_pipe_two :
    ∃ connId thread pipe, (connId, thread) ∈ [((7 : ConnId), 0), (8, 1)] ∧
      [(⟨7, true⟩ : PipeThread), ⟨8, false⟩][thread]? = some pipe ∧ pipe.exited = false := by
  let config : ConnConfig := { maxConns := 2, concurrentStreams := 2 }
  let before : State :=
    { pc := .enterWait .closing, registry := ⟨[(7, 0), (8, 1)], ∅⟩, threads := [⟨7, false⟩, ⟨8, false⟩], connsCnt := 2 }
  have reached : Reachable (step config) ExitObserved {} before :=
    Reachable.initial.run
      [.createConnection (some 7), .main, .main, .main, .main, .createConnection (some 8), .main, .main, .main]
      (allowedRun_of_forall (by simp [ExitObserved, RegisteredFirst]) _) (by decide)
  have observed : ExitObserved before (.pipeExit 0) := by
    refine ⟨by simp [RegisteredFirst, before], ?_⟩
    intro thread site exit _
    cases exit
    exact ⟨(8, 1), by simp [before], by simp, 8, rfl⟩
  exact blocked_wait_has_running_pipe config
    { pc := .blocked .closing, registry := ⟨[(7, 0), (8, 1)], {7}⟩, threads := [⟨7, true⟩, ⟨8, false⟩], connsCnt := 2 }
    ((reached.step (.pipeExit 0) observed rfl).step .main (by simp [ExitObserved, RegisteredFirst]) (by decide))
    .closing rfl

-- The only pipe exits after the closing loop has seen it and before the main thread blocks.
theorem last_exit_before_block_is_lost :
    ∃ state, Reachable (step {}) Unrestricted {} state ∧ state.pc = .blocked .closing ∧
      ¬ ∃ connId thread pipe, (connId, thread) ∈ state.registry.pipes ∧
        state.threads[thread]? = some pipe ∧ pipe.exited = false := by
  refine ⟨{ pc := .blocked .closing, registry := ⟨[(7, 0)], {7}⟩, threads := [⟨7, true⟩], connsCnt := 1 },
    Reachable.initial.run [.createConnection (some 7), .main, .main, .main, .pipeExit 0, .main]
      (allowedRun_of_forall (fun _ _ _ => trivial) _) (by decide), rfl, ?_⟩
  rintro ⟨connId, thread, pipe, member, started, running⟩
  simp only [List.mem_singleton, Prod.mk.injEq] at member
  rw [member.2] at started
  cases started
  cases running

end XTransmit.Connections
