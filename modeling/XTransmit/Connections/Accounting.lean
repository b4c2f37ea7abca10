import XTransmit.Connections.Exits

set_option autoImplicit false

namespace XTransmit.Connections

open Transition ConcurrentPipes

-- A new connection does not reuse the identifier of a pipe still in `m_pipes`.
def FreshConnection (state : State) (label : Label) : Prop :=
  ∀ connId, label = .createConnection (some connId) → connId ∉ state.registry.registered

structure Distinct (state : State) : Prop where
  consistent : Consistent state
  counted : ∀ thread connId, state.threads[thread]? = some ⟨connId, false⟩ →
    state.pc = .registering thread ∨ (connId, thread) ∈ state.registry.active
  pending : ∀ thread, state.pc = .registering thread →
    ∃ pipe, state.threads[thread]? = some pipe ∧ pipe.connId ∉ state.registry.registered
  notJoining : ∀ thread, state.pc ≠ .joining thread

theorem initial_distinct : Distinct {} where
  consistent := initial_consistent
  counted := by simp
  pending := by simp
  notJoining := by simp

theorem advance_joining {config : ConnConfig} {state : State} {pc : MainPc}
    (move : Advance config state pc) (thread : Nat) : pc ≠ .joining thread := by
  cases move <;> simp

theorem advance_from_registering {config : ConnConfig} {state : State} {pc : MainPc}
    (move : Advance config state pc) (thread : Nat) : state.pc ≠ .registering thread := by
  cases move <;> simp_all

theorem Distinct.active {state : State} (distinct : Distinct state) {thread : Nat} {connId : ConnId}
    (running : state.threads[thread]? = some ⟨connId, false⟩) (elsewhere : state.pc ≠ .registering thread) :
    (connId, thread) ∈ state.registry.active :=
  (distinct.counted thread connId running).resolve_left elsewhere

theorem Distinct.fresh {state : State} (distinct : Distinct state) {thread : Nat} {pipe : PipeThread}
    (here : state.pc = .registering thread) (started : state.threads[thread]? = some pipe) :
    pipe.connId ∉ state.registry.registered := by
  obtain ⟨other, found, fresh⟩ := distinct.pending thread here
  rw [started] at found
  cases found
  exact fresh

theorem Distinct.active_exit {state : State} (distinct : Distinct state) {thread other : Nat} {connId identifier : ConnId}
    (running : state.threads[thread]? = some ⟨connId, false⟩) (different : other ≠ thread)
    (counted : (identifier, other) ∈ state.registry.active) :
    (identifier, other) ∈ (state.registry.onPipeExit connId).1.active := by
  obtain ⟨registered, unmarked⟩ := mem_active.mp counted
  rw [mem_active, onPipeExit_pipes, mem_onPipeExit_toClose, not_or]
  refine ⟨registered, unmarked, ?_⟩
  rintro ⟨same, found⟩
  rcases distinct.counted thread connId running with here | own
  · exact distinct.fresh here running found
  · exact different (distinct.consistent.wellFormed.unique (same ▸ registered) (mem_active.mp own).1)

theorem Distinct.connect {state : State} (distinct : Distinct state) (here : state.pc = .connecting) {connId : ConnId}
    (unused : connId ∉ state.registry.registered)
    (consistent : Consistent { state with
      threads := state.threads ++ [{ connId := connId }]
      pc := .registering state.threads.length }) :
    Distinct { state with
      threads := state.threads ++ [{ connId := connId }]
      pc := .registering state.threads.length } := by
  refine ⟨consistent, ?_, ?_, by simp⟩
  · intro thread identifier running
    by_cases old : thread < state.threads.length
    · rw [List.getElem?_append_left old] at running
      exact .inr (distinct.active running (by simp [here]))
    · have last : thread = state.threads.length := by
        have inside := (List.getElem?_eq_some_iff.mp running).1
        simp only [List.length_append, List.length_singleton] at inside
        omega
      exact .inl (by rw [last])
  · intro thread registering
    cases registering
    exact ⟨_, List.getElem?_concat_length, unused⟩

theorem Distinct.active_emplace {state : State} (distinct : Distinct state) {thread other : Nat} {pipe : PipeThread}
    {identifier : ConnId} (here : state.pc = .registering thread) (started : state.threads[thread]? = some pipe)
    (fresh : pipe.connId ∉ state.registry.registered) (running : state.threads[other]? = some ⟨identifier, false⟩) :
    (identifier, other) ∈ (state.registry.emplace pipe.connId thread).active := by
  rw [mem_active]
  simp only [emplace, fresh, if_false, List.mem_append, List.mem_singleton]
  by_cases same : other = thread
  · rw [same, started] at running
    cases running
    exact ⟨.inr (by rw [same]), fun marked => fresh (distinct.consistent.wellFormed.closing _ marked)⟩
  · have registered := mem_active.mp (distinct.active running (by rw [here]; simpa using Ne.symm same))
    exact ⟨.inl registered.1, registered.2⟩

theorem Distinct.exit {state : State} (distinct : Distinct state) {thread : Nat} {connId : ConnId}
    (running : state.threads[thread]? = some ⟨connId, false⟩)
    (consistent : Consistent { state with
      registry := (state.registry.onPipeExit connId).1
      threads := state.threads.set thread ⟨connId, true⟩
      pc := if connId ∈ state.registry.registered then state.pc.notify else state.pc }) :
    Distinct { state with
      registry := (state.registry.onPipeExit connId).1
      threads := state.threads.set thread ⟨connId, true⟩
      pc := if connId ∈ state.registry.registered then state.pc.notify else state.pc } := by
  refine ⟨consistent, ?_, ?_, ?_⟩
  · intro other identifier stillRunning
    rw [getElem?_exit running] at stillRunning
    split at stillRunning
    next => cases stillRunning
    next different =>
      rcases distinct.counted other identifier stillRunning with here | counted
      · exact .inl ((exit_registering _ _ _).mpr here)
      · exact .inr (distinct.active_exit running different counted)
  · intro other registering
    obtain ⟨pipe, started, fresh⟩ := distinct.pending other ((exit_registering _ _ _).mp registering)
    simp only [getElem?_exit running, onPipeExit_registered]
    by_cases exiting : other = thread
    · rw [exiting, running] at started
      cases started
      exact ⟨_, if_pos exiting, fresh⟩
    · exact ⟨pipe, (if_neg exiting).trans started, fresh⟩
  · intro other joining
    rw [notify_congr (· = .joining other) (by simp)] at joining
    exact distinct.notJoining other joining

theorem Distinct.move {config : ConnConfig} {state next : State} {label : Label}
    (distinct : Distinct state) (allowed : FreshConnection state label)
    (move : Move config state label next) : Distinct next := by
  have consistent := distinct.consistent.move move
  cases move with
  | noConnection here =>
      exact ⟨consistent, fun _ _ running => .inr (distinct.active running (by simp [here])), by simp, by simp⟩
  | connected connId here => exact distinct.connect here (allowed connId rfl) consistent
  | collided thread pipe here started taken => exact absurd taken (distinct.fresh here started)
  | registered thread pipe here started fresh =>
      exact ⟨consistent, fun _ _ running => .inr (distinct.active_emplace here started fresh running), by simp, by simp⟩
  | joined thread here => exact absurd here (distinct.notJoining thread)
  | advanced pc move =>
      refine ⟨consistent, ?_, ?_, advance_joining move⟩
      · exact fun thread _ running => .inr (distinct.active running (advance_from_registering move thread))
      · exact fun thread registering => absurd registering (advance_registering move thread)
  | cleared site here =>
      refine ⟨consistent, ?_, fun thread registering => absurd registering (resume_registering site thread), ?_⟩
      · intro thread identifier running
        rw [active_clear]
        exact .inr (distinct.active running (by simp [here]))
      · cases site <;> simp [MainPc.resume]
  | broke => exact ⟨consistent, distinct.counted, distinct.pending, distinct.notJoining⟩
  | exited thread connId running => exact distinct.exit running consistent

def pendingCount : MainPc → Nat
  | .registering _ => 1
  | _ => 0

def earlyExit (state : State) : Label → Nat
  | .pipeExit thread => if state.pc = .registering thread then 1 else 0
  | _ => 0

theorem pendingCount_advance {config : ConnConfig} {state : State} {pc : MainPc}
    (move : Advance config state pc) : pendingCount pc = 0 ∧ pendingCount state.pc = 0 := by
  cases move <;> simp_all [pendingCount]

theorem running_exit {threads : List PipeThread} {thread : Nat} {connId : ConnId}
    (running : threads[thread]? = some ⟨connId, false⟩) :
    (threads.set thread ⟨connId, true⟩).countP (!·.exited) + 1 = threads.countP (!·.exited) := by
  obtain ⟨inside, found⟩ := List.getElem?_eq_some_iff.mp running
  have positive : 0 < threads.countP (!·.exited) :=
    List.countP_pos_iff.mpr ⟨_, List.getElem_mem inside, by simp [found]⟩
  rw [List.countP_set inside, found]
  simp only [Bool.not_false, Bool.not_true, if_true, Bool.false_eq_true, if_false]
  omega

theorem move_account {config : ConnConfig} {state next : State} {label : Label}
    (distinct : Distinct state) (move : Move config state label next) :
    next.registry.active.length + pendingCount next.pc + running state =
      state.registry.active.length + pendingCount state.pc + running next + earlyExit state label := by
  cases move with
  | noConnection here => simp [pendingCount, here, earlyExit, running]
  | connected connId here =>
      simp [pendingCount, here, earlyExit, running, List.countP_append]
      omega
  | collided thread pipe here started taken => exact absurd taken (distinct.fresh here started)
  | registered thread pipe here started fresh =>
      rw [active_emplace distinct.consistent.wellFormed _ _ fresh]
      simp [pendingCount, here, earlyExit, running]
  | joined thread here => exact absurd here (distinct.notJoining thread)
  | advanced pc move =>
      obtain ⟨after, before⟩ := pendingCount_advance move
      simp [after, before, earlyExit, running]
  | cleared site here =>
      rw [active_clear]
      cases site <;> simp [MainPc.resume, pendingCount, here, earlyExit, running]
  | broke => simp [earlyExit, running]
  | exited thread connId alive =>
      have dropped := running_exit alive
      rw [notify_congr pendingCount (fun _ => rfl)]
      simp only [running, earlyExit]
      by_cases early : state.pc = .registering thread
      · rw [onPipeExit_unknown connId (distinct.fresh early alive), if_pos early]
        dsimp only
        omega
      · obtain ⟨registered, unmarked⟩ := mem_active.mp (distinct.active alive early)
        have booked := active_onPipeExit distinct.consistent.wellFormed connId
          (mem_registered.mpr ⟨thread, registered⟩) unmarked
        rw [if_neg early]
        omega

theorem distinct_of_reachable {config : ConnConfig} {allowed : State → Label → Prop}
    (freshConnection : ∀ state label, allowed state label → FreshConnection state label)
    {state : State} (reached : Reachable (step config) allowed {} state) : Distinct state :=
  reached.invariant Distinct initial_distinct fun state label _ distinct permitted taken =>
    distinct.move (freshConnection state label permitted) (step_move taken)

def ExitsAccounted (state : State) (label : Label) : Prop :=
  FreshConnection state label ∧ RegisteredFirst state label

theorem earlyExit_registeredFirst {state : State} {label : Label} (allowed : RegisteredFirst state label) :
    earlyExit state label = 0 := by
  cases label with
  | createConnection | main | raiseBreak => rfl
  | pipeExit thread => exact if_neg (allowed thread rfl)

theorem running_eq_active {config : ConnConfig} {state : State}
    (reached : Reachable (step config) ExitsAccounted {} state) :
    running state = state.registry.active.length + pendingCount state.pc := by
  have account : Distinct state ∧ running state = state.registry.active.length + pendingCount state.pc := by
    refine reached.invariant
      (fun state => Distinct state ∧ running state = state.registry.active.length + pendingCount state.pc)
      ⟨initial_distinct, by simp [running, ConcurrentPipes.active, pendingCount]⟩ ?_
    rintro current label next ⟨distinct, balanced⟩ permitted taken
    have move := step_move taken
    have booked := move_account distinct move
    rw [earlyExit_registeredFirst permitted.2] at booked
    exact ⟨distinct.move permitted.1 move, by omega⟩
  exact account.2

def AddInProgress (pc : MainPc) (thread : Nat) : Prop := pc = .registering thread ∨ pc = .joining thread

theorem exits_are_accounted (config : ConnConfig) (state : State)
    (reached : Reachable (step config) ExitsAccounted {} state) :
    (∀ thread pipe, state.threads[thread]? = some pipe → pipe.exited = true →
      ¬ AddInProgress state.pc thread →
        pipe.connId ∈ state.registry.toClose ∨ (pipe.connId, thread) ∉ state.registry.pipes) ∧
    ((∀ thread, ¬ AddInProgress state.pc thread) → state.registry.size = running state) := by
  constructor
  · intro thread pipe started exited _
    have live : Live state := live_of_reachable (fun _ _ permitted => permitted.2) reached
    by_contra lost
    obtain ⟨unmarked, registered⟩ := not_or.mp lost
    obtain ⟨connId, runs⟩ := live.active _ (mem_active.mpr ⟨not_not.mp registered, unmarked⟩)
    rw [started] at runs
    cases runs
    cases exited
  · intro returned
    have distinct : Distinct state := distinct_of_reachable (fun _ _ permitted => permitted.1) reached
    have settled : pendingCount state.pc = 0 := by
      cases here : state.pc <;> simp_all [AddInProgress, pendingCount]
    rw [size_eq_active distinct.consistent.wellFormed, running_eq_active reached, settled, Nat.add_zero]

theorem exits_are_accounted_single_pipe :
    (7 : ConnId) ∈ ({7} : Finset ConnId) ∧ (⟨[(7, 0)], {7}⟩ : ConcurrentPipes).size = 0 := by
  let state : State :=
    { pc := .added, registry := ⟨[(7, 0)], {7}⟩, threads := [⟨7, true⟩], connsCnt := 1 }
  have started : Reachable (step {}) ExitsAccounted {} { pc := .registering 0, threads := [⟨7, false⟩] } :=
    .step (.createConnection (some 7)) .initial
      ⟨by simp [FreshConnection, registered], by simp [RegisteredFirst]⟩ (by decide)
  have reached : Reachable (step {}) ExitsAccounted {} state := by
    refine started.run [.main, .pipeExit 0] ?_ (by decide)
    refine ⟨⟨by simp [FreshConnection], by simp [RegisteredFirst]⟩, fun next taken => ?_⟩
    cases taken
    exact ⟨⟨by simp [FreshConnection], by simp [RegisteredFirst, registered]⟩, fun _ _ => trivial⟩
  have accounted := exits_are_accounted {} state reached
  refine ⟨?_, accounted.2 (by simp [AddInProgress, state])⟩
  exact (accounted.1 0 ⟨7, true⟩ rfl rfl (by simp [AddInProgress, state])).resolve_right (by simp [state])

-- The pipe exits between its start and its insertion.
theorem exit_before_registration_is_lost :
    ∃ state, Reachable (step {}) FreshConnection {} state ∧
      (∀ thread, ¬ AddInProgress state.pc thread) ∧
      state.threads[0]? = some ⟨7, true⟩ ∧
      (7 ∉ state.registry.toClose ∧ (7, 0) ∈ state.registry.pipes) ∧
      state.registry.size = 1 ∧ running state = 0 := by
  refine ⟨{ pc := .added, registry := ⟨[(7, 0)], ∅⟩, threads := [⟨7, true⟩], connsCnt := 1 },
    Reachable.initial.run [.createConnection (some 7), .pipeExit 0, .main] ?_ (by decide),
    by simp [AddInProgress], by decide, by decide, by decide, by decide⟩
  refine ⟨by simp [FreshConnection, registered], fun _ _ => ?_⟩
  exact allowedRun_of_forall (by simp [FreshConnection]) _

end XTransmit.Connections
