import XTransmit.Connections.Limits

set_option autoImplicit false

namespace XTransmit.Connections

open Transition ConcurrentPipes

def connectionLoop : MainPc → Bool
  | .connecting | .registering _ | .joining _ | .added | .checkStreams | .checkReconnect | .loopCondition => true
  | .checkBreak | .checkFull | .enterWait _ | .blocked _ | .woken _ | .closing | .finished => false

def draining : MainPc → Bool
  | .closing | .finished => true
  | .enterWait site | .blocked site | .woken site => site = .closing
  | _ => false

def loopReserve : MainPc → Nat
  | .connecting | .loopCondition => 1
  | _ => 0

def addPending : MainPc → Nat
  | .registering _ | .joining _ => 1
  | _ => 0

/-- When the loop compares `size()` with the number of streams and has made as many connections, no exit has
been recorded yet. -/
def LimitSeenBeforeExit (config : ConnConfig) (state : State) (label : Label) : Prop :=
  label = .main → state.pc = .checkStreams → config.streamLimit ≤ state.threads.length →
    state.registry.toClose = ∅

instance (config : ConnConfig) (state : State) (label : Label) : Decidable (LimitSeenBeforeExit config state label) :=
  inferInstanceAs (Decidable (_ → _ → _ → _))

structure Unreplaced (config : ConnConfig) (state : State) : Prop where
  wellFormed : state.registry.WellFormed
  position : connectionLoop state.pc = true ∨ draining state.pc = true
  budget : state.threads.length + loopReserve state.pc ≤ config.streamLimit
  booked : connectionLoop state.pc = true → state.registry.toClose = ∅ →
    state.registry.pipes.length + addPending state.pc = state.threads.length
  recorded : ∀ thread connId, AddInProgress state.pc thread → state.threads[thread]? = some ⟨connId, true⟩ →
    connId ∈ state.registry.registered → connId ∈ state.registry.toClose
  taken : ∀ thread pipe, state.pc = .joining thread → state.threads[thread]? = some pipe →
    pipe.connId ∈ state.registry.registered

theorem initial_unreplaced (config : ConnConfig) : Unreplaced config {} where
  wellFormed := empty_wellFormed
  position := .inl rfl
  budget := by
    have positive := streamLimit_pos config
    simp only [loopReserve, List.length_nil]
    omega
  booked := by simp [addPending]
  recorded := by simp
  taken := by simp

theorem reconnect_of_checkBreak {config : ConnConfig} {state : State} (here : state.pc = .checkReconnect)
    (taken : mainStep config state = some { state with pc := .checkBreak }) : config.reconnect = true := by
  simp only [mainStep, here] at taken
  split at taken
  next => simp at taken
  next continues =>
    simp only [Bool.or_eq_true, Bool.not_eq_eq_eq_not, Bool.not_true, not_or, Bool.not_eq_false] at continues
    exact continues.1

theorem exited_of_joined {config : ConnConfig} {state next : State} {thread : Nat} (here : state.pc = .joining thread)
    (taken : mainStep config state = some next) : ∃ connId, state.threads[thread]? = some ⟨connId, true⟩ := by
  simp only [mainStep, here] at taken
  split at taken
  next ended =>
    obtain ⟨⟨connId, exited⟩, started, same⟩ := Option.map_eq_some_iff.mp ended
    cases same
    exact ⟨connId, started⟩
  next => cases taken

theorem position_advance {config : ConnConfig} (noReconnect : config.reconnect = false) {state : State} {pc : MainPc}
    (position : connectionLoop state.pc = true ∨ draining state.pc = true) (move : Advance config state pc)
    (taken : mainStep config state = some { state with pc := pc }) :
    connectionLoop pc = true ∨ draining pc = true := by
  cases move with
  | reconnecting here =>
      rw [reconnect_of_checkBreak here taken] at noReconnect
      cases noReconnect
  | breakSeen here | breakUnset here | full here | notFull here => simp [here, connectionLoop, draining] at position
  | block site here => simpa [here, connectionLoop, draining] using position
  | limitReached | stopped | leave | drain | finish => exact .inr rfl
  | belowLimit | streamsLeft | streamsFull | again => exact .inl rfl

theorem addPending_advance {config : ConnConfig} {state : State} {pc : MainPc} (move : Advance config state pc) :
    addPending pc = 0 ∧ addPending state.pc = 0 ∧ ∀ thread, ¬ AddInProgress pc thread := by
  cases move <;> simp_all [addPending, AddInProgress]

theorem connectionLoop_advance {config : ConnConfig} {state : State} {pc : MainPc} (move : Advance config state pc)
    (looping : connectionLoop pc = true) (position : connectionLoop state.pc = true ∨ draining state.pc = true) :
    connectionLoop state.pc = true := by
  cases move <;> simp_all [connectionLoop, draining]

theorem loopReserve_advance {config : ConnConfig} {state : State} {pc : MainPc} (inv : Unreplaced config state)
    (allowed : LimitSeenBeforeExit config state .main) (move : Advance config state pc) :
    state.threads.length + loopReserve pc ≤ config.streamLimit := by
  have budget := inv.budget
  cases move with
  | streamsLeft here left =>
      by_contra full
      simp only [loopReserve] at full
      have full : config.streamLimit ≤ state.threads.length := by omega
      have unmarked := allowed rfl here full
      have booked := inv.booked (by rw [here]; rfl) unmarked
      have total := active_add_closing inv.wellFormed
      rw [size_eq_active inv.wellFormed] at left
      simp only [here, addPending, unmarked, Finset.card_empty] at booked total
      omega
  | again here => simpa [here, loopReserve] using budget
  | breakSeen here | notFull here =>
      have position := inv.position
      simp [here, connectionLoop, draining] at position
  | limitReached | belowLimit | streamsFull | stopped | reconnecting | breakUnset | full | block | leave | drain
    | finish => exact Nat.le_trans (Nat.le_add_right _ _) budget

theorem Unreplaced.connect {config : ConnConfig} {state : State} (inv : Unreplaced config state)
    (here : state.pc = .connecting) (connId : ConnId) :
    Unreplaced config { state with
      threads := state.threads ++ [{ connId := connId }]
      pc := .registering state.threads.length } := by
  refine ⟨inv.wellFormed, .inl rfl, ?_, ?_, ?_, by simp⟩
  · simpa [here, loopReserve] using inv.budget
  · intro _ unmarked
    have booked := inv.booked (by rw [here]; rfl) unmarked
    simpa [here, addPending] using booked
  · rintro thread other (registering | joining) started
    · cases registering
      rw [List.getElem?_concat_length] at started
      cases started
    · cases joining

theorem Unreplaced.exit {config : ConnConfig} {state : State} (inv : Unreplaced config state) {thread : Nat}
    {connId : ConnId} (running : state.threads[thread]? = some ⟨connId, false⟩) :
    Unreplaced config { state with
      registry := (state.registry.onPipeExit connId).1
      threads := state.threads.set thread ⟨connId, true⟩
      pc := if connId ∈ state.registry.registered then state.pc.notify else state.pc } := by
  refine ⟨onPipeExit_wellFormed inv.wellFormed connId, ?_, ?_, ?_, ?_, ?_⟩
  · simp only [notify_congr connectionLoop (fun _ => rfl), notify_congr draining (fun _ => rfl)]
    exact inv.position
  · simp only [notify_congr loopReserve (fun _ => rfl), List.length_set]
    exact inv.budget
  · simp only [notify_congr connectionLoop (fun _ => rfl), notify_congr addPending (fun _ => rfl), List.length_set,
      onPipeExit_pipes]
    intro looping unmarked
    apply inv.booked looping
    rw [Finset.eq_empty_iff_forall_notMem] at unmarked ⊢
    intro other marked
    exact unmarked other ((mem_onPipeExit_toClose connId other).mpr (.inl marked))
  · simp only [onPipeExit_registered, getElem?_exit running]
    intro other identifier adding exited found
    rw [notify_congr (AddInProgress · other) (by simp [AddInProgress])] at adding
    rw [mem_onPipeExit_toClose]
    split at exited
    next =>
      cases exited
      exact .inr ⟨rfl, found⟩
    next => exact .inl (inv.recorded other identifier adding exited found)
  · simp only [onPipeExit_registered, getElem?_exit running]
    intro other pipe joining started
    rw [notify_congr (· = .joining other) (by simp)] at joining
    split at started
    next same =>
      cases started
      exact inv.taken other ⟨connId, false⟩ joining (same ▸ running)
    next => exact inv.taken other pipe joining started

theorem Unreplaced.step {config : ConnConfig} (noReconnect : config.reconnect = false) {state next : State}
    {label : Label} (inv : Unreplaced config state) (allowed : LimitSeenBeforeExit config state label)
    (taken : step config state label = some next) : Unreplaced config next := by
  have budget := inv.budget
  cases step_move taken with
  | noConnection here =>
      exact ⟨inv.wellFormed, .inr rfl, Nat.le_trans (Nat.le_add_right _ _) budget, by simp [connectionLoop],
        by simp [AddInProgress], by simp⟩
  | connected connId here => exact inv.connect here connId
  | collided thread pipe here started occupied =>
      refine ⟨inv.wellFormed, .inl rfl, Nat.le_trans (Nat.le_add_right _ _) budget, ?_, ?_, ?_⟩
      · intro _ unmarked
        simpa [here, addPending] using inv.booked (by rw [here]; rfl) unmarked
      · rintro other connId (registering | joining) exited
        · cases registering
        · cases joining
          exact inv.recorded thread connId (.inl here) exited
      · intro other found joining started'
        cases joining
        rw [started] at started'
        cases started'
        exact occupied
  | registered thread pipe here started fresh =>
      refine ⟨emplace_wellFormed inv.wellFormed _ _, .inl rfl, Nat.le_trans (Nat.le_add_right _ _) budget, ?_,
        by simp [AddInProgress], by simp⟩
      intro _ unmarked
      have kept : (state.registry.emplace pipe.connId thread).toClose = state.registry.toClose := by
        simp [emplace, fresh]
      have booked := inv.booked (by rw [here]; rfl) (kept ▸ unmarked)
      simpa [here, addPending, emplace, fresh] using booked
  | joined thread here =>
      refine ⟨inv.wellFormed, .inl rfl, Nat.le_trans (Nat.le_add_right _ _) budget, ?_, by simp [AddInProgress], by simp⟩
      intro _ unmarked
      obtain ⟨connId, exited⟩ := exited_of_joined here taken
      have marked := inv.recorded thread connId (.inr here) exited (inv.taken thread _ here exited)
      simp only at unmarked
      rw [unmarked] at marked
      cases marked
  | advanced pc move =>
      obtain ⟨after, before, added⟩ := addPending_advance move
      refine ⟨inv.wellFormed, position_advance noReconnect inv.position move taken, ?_, ?_,
        fun thread _ adding => absurd adding (added thread), fun thread _ joining => absurd (.inr joining) (added thread)⟩
      · have room := loopReserve_advance inv allowed move
        exact room
      · intro looping unmarked
        have booked := inv.booked (connectionLoop_advance move looping inv.position) unmarked
        rw [before] at booked
        simpa [after] using booked
  | cleared site here =>
      have closing : site = .closing := by simpa [here, connectionLoop, draining] using inv.position
      subst closing
      exact ⟨clear_wellFormed inv.wellFormed, .inr rfl, Nat.le_trans (Nat.le_add_right _ _) budget,
        by simp [MainPc.resume, connectionLoop], by simp [MainPc.resume, AddInProgress], by simp [MainPc.resume]⟩
  | broke => exact ⟨inv.wellFormed, inv.position, inv.budget, inv.booked, inv.recorded, inv.taken⟩
  | exited thread connId running => exact inv.exit running

theorem no_replacement_without_reconnect (config : ConnConfig) (noReconnect : config.reconnect = false) (state : State)
    (reached : Reachable (step config) (LimitSeenBeforeExit config) {} state) :
    (state.threads.length : Int) ≤ config.concurrentStreams.toInt := by
  have unreplaced : Unreplaced config state :=
    reached.invariant (Unreplaced config) (initial_unreplaced config)
      fun _ _ _ inv permitted taken => inv.step noReconnect permitted taken
  have budget := unreplaced.budget
  rw [← streamLimit_toInt]
  omega

theorem no_replacement_without_reconnect_single_stream :
    ([(⟨7, true⟩ : PipeThread)].length : Int) ≤ 1 := by
  have exited : Reachable (step { maxConns := 2 }) (LimitSeenBeforeExit { maxConns := 2 }) {}
      { pc := .closing, registry := ⟨[(7, 0)], {7}⟩, threads := [⟨7, true⟩], connsCnt := 1 } :=
    Reachable.initial.run [.createConnection (some 7), .main, .main, .main, .pipeExit 0, .main]
      (by decide) (by decide)
  exact no_replacement_without_reconnect { maxConns := 2 } rfl _ exited

-- One stream and two connections allowed: the pipe exits before the test of `size()`.
theorem ended_connection_is_replaced :
    ∃ state, Reachable (step { maxConns := 2 }) Unrestricted {} state ∧
      state.threads = [⟨7, true⟩, ⟨8, false⟩] ∧
      ¬ ((state.threads.length : Int) ≤ (1 : Int32).toInt) := by
  refine ⟨{ pc := .registering 1, registry := ⟨[(7, 0)], {7}⟩, threads := [⟨7, true⟩, ⟨8, false⟩], connsCnt := 1 },
    Reachable.initial.run [.createConnection (some 7), .main, .main, .pipeExit 0, .main, .main,
      .createConnection (some 8)] ?_ (by decide), rfl, by decide⟩
  exact allowedRun_of_forall (by simp [Unrestricted]) _

end XTransmit.Connections
