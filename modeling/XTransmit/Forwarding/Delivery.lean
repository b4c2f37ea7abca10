import XTransmit.Forwarding.Routes

set_option autoImplicit false

namespace XTransmit.Forwarding

open Transition

variable {messageSize : Nat}

def Failure.loses : Failure → Bool
  | .receiving _ _ => false
  | .exceeds _ => true
  | .sending _ => true

def Position.leaving : Position → Bool
  | .closingSrc => true
  | .closingDst => true
  | .ended => true
  | _ => false

/-- `srt_sendmsg` takes a message whole or not at all. -/
def WholeMessages (state : Forwarder) : Label → Prop
  | .route direction (.send sendRes) => ∀ message, (state.routes direction).position = .forwarding message →
      sendRes ≤ 0 ∨ sendRes = message.length
  | _ => True

section Accounting

-- What was received is sent, or in hand, or reported as lost by a direction that is over.
inductive Accounted (route : Route) : Prop
  | even (idle : ∀ message, route.position ≠ .forwarding message) (same : route.received = route.sent)
  | held (message : Message) (here : route.position = .forwarding message)
      (same : route.received = route.sent ++ [message])
  | lost (message : Message) (failure : Failure) (left : route.position.leaving = true)
      (reported : route.failure = some failure) (loses : failure.loses = true)
      (same : route.received = route.sent ++ [message])

variable {stopAccept : Bool} {route next : Route} {event : RouteEvent}

theorem Accounted.even_of (accounted : Accounted route) (idle : ∀ message, route.position ≠ .forwarding message)
    (inside : route.position.leaving = false) : route.received = route.sent := by
  cases accounted with
  | even _ same => exact same
  | held message here => exact absurd here (idle message)
  | lost _ _ left => simp [inside] at left

theorem Accounted.held_of (accounted : Accounted route) {message : Message}
    (here : route.position = .forwarding message) : route.received = route.sent ++ [message] := by
  cases accounted with
  | even idle => exact absurd here (idle message)
  | held other there same =>
      cases here.symm.trans there
      exact same
  | lost _ _ left => simp [here, Position.leaving] at left

theorem Accounted.close (accounted : Accounted route) (left : route.position.leaving = true) {position : Position}
    (later : position.leaving = true) : Accounted { route with position := position } := by
  have idle : ∀ message, position ≠ .forwarding message := by
    rintro message rfl
    cases later
  cases accounted with
  | even _ same => exact .even idle same
  | held message here => simp [here, Position.leaving] at left
  | lost message failure _ reported loses same => exact .lost message failure later reported loses same

theorem Accounted.move (accounted : Accounted route) (moved : RouteMove stopAccept route event next)
    (whole : ∀ sendRes, event = .send sendRes → ∀ message, route.position = .forwarding message →
      sendRes ≤ 0 ∨ sendRes = message.length) : Accounted next := by
  cases moved with
  | broke here | entered here | stopped here | running here | timedOut _ here | broken _ _ here =>
      exact .even (by simp) (accounted.even_of (by simp [here]) (by simp [here, Position.leaving]))
  | closedSrc here | closedDst here => exact accounted.close (by simp [here, Position.leaving]) rfl
  | exceeded answer message recvRes here =>
      have same := accounted.even_of (by simp [here]) (by simp [here, Position.leaving])
      exact .lost message _ rfl rfl rfl (by simp [same])
  | took answer message here =>
      have same := accounted.even_of (by simp [here]) (by simp [here, Position.leaving])
      exact .held message rfl (by simp [same])
  | refused sendRes message here => exact .lost message _ rfl rfl rfl (accounted.held_of here)
  | forwarded sendRes message here accepted =>
      have full : sendRes = message.length := (whole sendRes rfl message here).resolve_left (not_le.mpr accepted)
      refine .even (by simp) ?_
      simp [accounted.held_of here, full]

end Accounting

theorem accounted_of_reachable {state : Forwarder} (reached : Reachable (step messageSize) WholeMessages {} state)
    (direction : Direction) : Accounted (state.routes direction) := by
  refine reached.invariant (fun state => ∀ direction, Accounted (state.routes direction)) ?_ ?_ direction
  · intro direction
    exact .even (by simp) rfl
  · intro state label next accounted allowed taken direction
    rcases step_route taken direction with ⟨-, same⟩ | ⟨event, rfl, moved⟩
    · rw [same]
      exact accounted direction
    · refine (accounted direction).move moved ?_
      rintro sendRes rfl
      exact allowed

theorem messages_forwarded_in_order (messageSize : Nat) (state : Forwarder)
    (reached : Reachable (step messageSize) WholeMessages {} state) (direction : Direction) :
    ∃ unsent, (state.routes direction).received = (state.routes direction).sent ++ unsent ∧ unsent.length ≤ 1 ∧
      (unsent ≠ [] →
        (∃ message, unsent = [message] ∧ (state.routes direction).position = .forwarding message) ∨
        ((state.routes direction).position.leaving = true ∧
          ∃ failure, (state.routes direction).failure = some failure ∧ failure.loses = true)) := by
  cases accounted_of_reachable reached direction with
  | even _ same => exact ⟨[], by simp [same], by simp, by simp⟩
  | held message here same => exact ⟨[message], same, by simp, fun _ => .inl ⟨message, rfl, here⟩⟩
  | lost message failure left reported loses same =>
      exact ⟨[message], same, by simp, fun _ => .inr ⟨left, failure, reported, loses⟩⟩

theorem messages_forwarded_in_order_refused :
    ∃ (state : Forwarder) (unsent : List Message), (state.routes .srcToDst).sent = [[1, 2]] ∧
      (state.routes .srcToDst).received = [[1, 2]] ++ unsent ∧ unsent.length ≤ 1 := by
  let arrival (message : Message) : RouteEvent :=
    .poll { epollRes := 1, sock := 5, recvRes := message.length, message := message }
  let events := [.check, .check, arrival [1, 2], .send 2, .check, .check, arrival [3], .send (-1)]
  have reached : Reachable (step 1456) WholeMessages {} _ :=
    Reachable.initial.run (events.map (Label.route .srcToDst)) (by
      simp [events, arrival, AllowedRun, WholeMessages, step, routeStep, receivePass, Route.receive]) rfl
  obtain ⟨unsent, same, few, -⟩ := messages_forwarded_in_order 1456 _ reached .srcToDst
  exact ⟨_, unsent, rfl, same, few⟩

section Ending

variable {state next : Forwarder} {label : Label} {stopAccept : Bool} {route after : Route} {event : RouteEvent}

structure StopsBoth (state : Forwarder) : Prop where
  first : ∀ direction, (state.routes direction).position = .closingDst → state.stopAccept direction = true
  both : ∀ direction, (state.routes direction).position = .ended → ∀ node, state.stopAccept node = true

theorem direction_eq_or (node direction : Direction) : node = direction ∨ node = direction.opposite := by
  cases node <;> cases direction <;> simp [Direction.opposite]

theorem StopsBoth.step (stops : StopsBoth state) (taken : step messageSize state label = some next) :
    StopsBoth next := by
  have closes {direction : Direction} {event : RouteEvent} (moving : label = .route direction event) :
      next.stopAccept = state.closed direction := by
    subst moving
    obtain ⟨route, -, rfl⟩ := Option.map_eq_some_iff.mp taken
    rfl
  constructor
  · intro direction here
    rcases step_route taken direction with ⟨-, same⟩ | ⟨event, moving, moved⟩
    · exact step_stays_stopped taken (stops.first direction (same ▸ here))
    · generalize next.routes direction = route at here moved
      cases moved with
      | closedSrc before => simp [closes moving, Forwarder.closed, before]
      | broke | entered | stopped | running | closedDst | timedOut | broken | exceeded | took | refused
        | forwarded => cases here
  · intro direction here node
    rcases step_route taken direction with ⟨-, same⟩ | ⟨event, moving, moved⟩
    · exact step_stays_stopped taken (stops.both direction (same ▸ here) node)
    · generalize next.routes direction = route at here moved
      cases moved with
      | closedDst before =>
          rcases direction_eq_or node direction with same | other
          · exact step_stays_stopped taken (same ▸ stops.first direction before)
          · simp [closes moving, Forwarder.closed, before, other]
      | broke | entered | stopped | running | closedSrc | timedOut | broken | exceeded | took | refused
        | forwarded => cases here

theorem stopsBoth_of_reachable {allowed : Forwarder → Label → Prop}
    (reached : Reachable (step messageSize) allowed {} state) : StopsBoth state :=
  reached.invariant StopsBoth ⟨by simp, by simp⟩ fun _ _ _ stops _ taken => stops.step taken

def Position.rank : Position → Nat
  | .ended => 0
  | .closingDst => 1
  | .closingSrc => 2
  | .stopCheck => 3
  | .condition => 4
  | .forwarding _ => 5
  | .polling => 6

def Position.mayReceive : Position → Nat
  | .polling => 1
  | _ => 0

theorem rank_le (position : Position) : position.rank ≤ 6 := by
  cases position <;> simp [Position.rank]

theorem move_stopped (moved : RouteMove true route event after) :
    after.position.rank < route.position.rank ∧
      after.received.length + after.position.mayReceive ≤ route.received.length + route.position.mayReceive := by
  cases moved with
  | running _ unset => cases unset
  | broke here | entered here | stopped here | closedSrc here | closedDst here | timedOut _ here | broken _ _ here
    | exceeded _ _ _ here | took _ _ here | refused _ _ here | forwarded _ _ here =>
      simp [here, Position.rank, Position.mayReceive]

def Label.isOf (direction : Direction) : Label → Bool
  | .raiseBreak => false
  | .route moving _ => moving = direction

theorem steps_left {direction : Direction} (stopped : state.stopAccept direction = true) (later : List Label)
    {final : Forwarder} (taken : run (step messageSize) state later = some final) :
    later.countP (Label.isOf direction) ≤ 6 := by
  have bounded := run_reaches later (fun _ => False) (fun state => state.stopAccept direction = true)
    (Label.isOf direction) (fun state : Forwarder => (state.routes direction).position.rank) (fun _ _ _ _ => False.elim)
    (fun state label _ next stopped taken => by
      refine .inr ⟨step_stays_stopped taken stopped, ?_⟩
      rcases step_route taken direction with ⟨others, same⟩ | ⟨event, rfl, moved⟩
      · have uncounted : Label.isOf direction label = false := by
          cases label with
          | raiseBreak => rfl
          | route moving event =>
              have different : moving ≠ direction := fun equal => others event (equal ▸ rfl)
              simp [Label.isOf, different]
        simp [uncounted, same]
      · rw [stopped] at moved
        have decreased := (move_stopped moved).1
        simpa [Label.isOf, Nat.succ_le_iff] using decreased)
    stopped taken
  obtain ⟨-, counted⟩ := bounded.resolve_left id
  have most := rank_le (state.routes direction).position
  omega

theorem receives_left {direction : Direction} (stopped : state.stopAccept direction = true) (later : List Label)
    {final : Forwarder} (taken : run (step messageSize) state later = some final) :
    (final.routes direction).received.length ≤ (state.routes direction).received.length + 1 := by
  have bounded := run_invariant later
    (fun now : Forwarder => now.stopAccept direction = true ∧
      (now.routes direction).received.length + (now.routes direction).position.mayReceive ≤
        (state.routes direction).received.length + (state.routes direction).position.mayReceive)
    (fun now label _ next inv taken => by
      refine ⟨step_stays_stopped taken inv.1, ?_⟩
      rcases step_route taken direction with ⟨-, same⟩ | ⟨event, -, moved⟩
      · rw [same]
        exact inv.2
      · rw [inv.1] at moved
        exact Nat.le_trans (move_stopped moved).2 inv.2)
    ⟨stopped, Nat.le_refl _⟩ taken
  have single : (state.routes direction).position.mayReceive ≤ 1 := by
    cases (state.routes direction).position <;> simp [Position.mayReceive]
  omega

theorem routeStep_enabled (messageSize : Nat) (forceBreak stopAccept : Bool) (route : Route)
    (goesOn : route.position ≠ .ended) :
    ∃ event after, routeStep messageSize forceBreak stopAccept route event = some after := by
  cases here : route.position with
  | condition | stopCheck | closingSrc | closingDst => exact ⟨.check, by simp [routeStep, here]⟩
  | polling => exact ⟨.poll { epollRes := 0 }, by simp [routeStep, here, receivePass]⟩
  | forwarding message => exact ⟨.send 0, by simp [routeStep, here]⟩
  | ended => exact absurd here goesOn

end Ending

theorem end_of_one_direction_ends_both (messageSize : Nat) (state : Forwarder)
    (reached : Reachable (step messageSize) Unrestricted {} state) (direction : Direction)
    (ended : (state.routes direction).position = .ended) :
    (∀ node, state.stopAccept node = true) ∧
      (∀ later final, run (step messageSize) state later = some final →
        later.countP (Label.isOf direction.opposite) ≤ 6 ∧
          (final.routes direction.opposite).received.length ≤
            (state.routes direction.opposite).received.length + 1) ∧
      ((state.routes direction.opposite).position ≠ .ended →
        ∃ event next, step messageSize state (.route direction.opposite event) = some next) := by
  have stopped := (stopsBoth_of_reachable reached).both direction ended
  refine ⟨stopped, ?_, ?_⟩
  · intro later final taken
    exact ⟨steps_left (stopped _) later taken, receives_left (stopped _) later taken⟩
  · intro goesOn
    obtain ⟨event, after, moved⟩ := routeStep_enabled messageSize state.forceBreak _ _ goesOn
    exact ⟨event, _, by rw [step, moved, Option.map_some]⟩

theorem end_of_one_direction_ends_both_lost :
    ∃ state : Forwarder, (state.routes .dstToSrc).position = .polling ∧ (∀ node, state.stopAccept node = true) ∧
      ∃ event next, step 1456 state (.route .dstToSrc event) = some next := by
  let lost : RouteEvent := .poll { epollRes := 1, sock := 5, recvRes := -1, error := .econnlost }
  have reached : Reachable (step 1456) Unrestricted {} _ :=
    Reachable.initial.run ([.check, .check].map (Label.route .dstToSrc) ++
      [.check, .check, lost, .check, .check].map (Label.route .srcToDst))
      (allowedRun_of_forall (by simp [Unrestricted]) _) rfl
  obtain ⟨stopped, -, goesOn⟩ := end_of_one_direction_ends_both 1456 _ reached .srcToDst rfl
  exact ⟨_, rfl, stopped, goesOn (by decide)⟩

section Idle

def Position.insideReceive : Position → Bool
  | .stopCheck => true
  | .polling => true
  | _ => false

def Label.quiet : Label → Bool
  | .raiseBreak => true
  | .route _ .check => true
  | .route _ (.poll answer) => answer.epollRes ≤ 0
  | .route _ (.send _) => false

def Position.closed : Position → Bool
  | .closingDst => true
  | .ended => true
  | _ => false

theorem move_closed {stopAccept : Bool} {route next : Route} {event : RouteEvent}
    (moved : RouteMove stopAccept route event next)
    (closing : route.position = .closingSrc ∨ route.position.closed = true) : next.position.closed = true := by
  cases moved with
  | closedSrc | closedDst => rfl
  | broke here | entered here | stopped here | running here | timedOut _ here | broken _ _ here | exceeded _ _ _ here
    | took _ _ here | refused _ _ here | forwarded _ _ here => simp [here, Position.closed] at closing

theorem step_closed {state next : Forwarder} {label : Label} (taken : step messageSize state label = some next)
    {direction : Direction} (closed : (state.routes direction).position.closed = true) :
    (next.routes direction).position.closed = true := by
  rcases step_route taken direction with ⟨-, same⟩ | ⟨event, -, moved⟩
  · rw [same]
    exact closed
  · exact move_closed moved (.inr closed)

theorem stopped_by_closed {allowed : Forwarder → Label → Prop} {state : Forwarder}
    (reached : Reachable (step messageSize) allowed {} state) {node : Direction}
    (stopped : state.stopAccept node = true) : ∃ direction, (state.routes direction).position.closed = true := by
  refine reached.invariant (fun state => ∀ node, state.stopAccept node = true →
    ∃ direction, (state.routes direction).position.closed = true) (by simp) ?_ node stopped
  intro state label next blamed _ taken node stopped
  have kept (earlier : state.stopAccept node = true) :
      ∃ direction, (next.routes direction).position.closed = true := by
    obtain ⟨direction, closed⟩ := blamed node earlier
    exact ⟨direction, step_closed taken closed⟩
  rcases step_stopAccept taken with same | ⟨direction, event, rfl, same⟩
  · exact kept (same ▸ stopped)
  · have closes (closing : (state.routes direction).position = .closingSrc ∨
        (state.routes direction).position.closed = true) : (next.routes direction).position.closed = true := by
      rcases step_route taken direction with ⟨others, -⟩ | ⟨_, -, moved⟩
      · exact absurd rfl (others event)
      · exact move_closed moved closing
    rw [same, Forwarder.closed] at stopped
    split at stopped
    next here => exact ⟨direction, closes (.inl here)⟩
    next here => exact ⟨direction, closes (.inr (by rw [here]; rfl))⟩
    next => exact kept stopped

structure Idle (state : Forwarder) : Prop where
  inside : ∀ direction, (state.routes direction).position.insideReceive = true
  opened : ∀ node, state.stopAccept node = false

theorem idle_of_inside {allowed : Forwarder → Label → Prop} {state : Forwarder}
    (reached : Reachable (step messageSize) allowed {} state)
    (inside : ∀ direction, (state.routes direction).position.insideReceive = true) : Idle state := by
  refine ⟨inside, fun node => Bool.eq_false_iff.mpr fun stopped => ?_⟩
  obtain ⟨direction, closed⟩ := stopped_by_closed reached stopped
  have here := inside direction
  cases position : (state.routes direction).position <;>
    simp [position, Position.closed, Position.insideReceive] at closed here

theorem idle_step {state next : Forwarder} {label : Label} (idle : Idle state) (quiet : label.quiet = true)
    (taken : step messageSize state label = some next) : Idle next := by
  constructor
  · intro direction
    rcases step_route taken direction with ⟨-, same⟩ | ⟨event, rfl, moved⟩
    · rw [same]
      exact idle.inside direction
    · have inside := idle.inside direction
      have opened := idle.opened direction
      generalize next.routes direction = route at moved
      cases moved with
      | running | timedOut => rfl
      | stopped here set => simp [opened] at set
      | broke here | entered here | closedSrc here | closedDst here | refused _ _ here | forwarded _ _ here =>
          simp [here, Position.insideReceive] at inside
      | broken _ _ _ awake | exceeded _ _ _ _ awake | took _ _ _ awake =>
          exact absurd (of_decide_eq_true quiet) (not_le.mpr awake)
  · intro node
    rcases step_stopAccept taken with same | ⟨direction, -, -, same⟩
    · rw [same]
      exact idle.opened node
    · have inside := idle.inside direction
      rw [same, Forwarder.closed]
      split
      next here => simp [here, Position.insideReceive] at inside
      next here => simp [here, Position.insideReceive] at inside
      next => exact idle.opened node

theorem idle_goesOn {state : Forwarder} (idle : Idle state) (direction : Direction) :
    ∃ event next, (Label.route direction event).quiet = true ∧
      step messageSize state (.route direction event) = some next := by
  have inside := idle.inside direction
  cases here : (state.routes direction).position with
  | stopCheck => exact ⟨.check, by simp [Label.quiet, step, routeStep, here]⟩
  | polling => exact ⟨.poll { epollRes := 0 }, by simp [Label.quiet, step, routeStep, here, receivePass]⟩
  | condition | forwarding | closingSrc | closingDst | ended => simp [here, Position.insideReceive] at inside

end Idle

theorem break_not_seen_while_idle (messageSize : Nat) (state : Forwarder)
    (reached : Reachable (step messageSize) Unrestricted {} state)
    (inside : ∀ direction, (state.routes direction).position.insideReceive = true) (later : List Label)
    (quiet : ∀ label ∈ later, label.quiet = true) (final : Forwarder)
    (taken : run (step messageSize) state later = some final) (direction : Direction) :
    (final.routes direction).position.insideReceive = true ∧
      ∃ event next, (Label.route direction event).quiet = true ∧
        step messageSize final (.route direction event) = some next := by
  have still : Idle final :=
    run_invariant later Idle (fun _ label member _ idle taken => idle_step idle (quiet label member) taken)
      (idle_of_inside reached inside) taken
  exact ⟨still.inside direction, idle_goesOn still direction⟩

theorem break_not_seen_while_idle_raised :
    ∃ state : Forwarder, state.forceBreak = true ∧ (state.routes .srcToDst).position.insideReceive = true := by
  let waits (direction : Direction) : List Label := [.route direction .check, .route direction .check]
  have reached : Reachable (step 1456) Unrestricted {} _ :=
    Reachable.initial.run (waits .srcToDst ++ waits .dstToSrc) (allowedRun_of_forall (by simp [Unrestricted]) _) rfl
  let poll : RouteEvent := .poll { epollRes := 0 }
  obtain ⟨inside, -⟩ := break_not_seen_while_idle 1456 _ reached (by intro direction; cases direction <;> rfl)
    [.raiseBreak, .route .srcToDst poll, .route .dstToSrc poll, .route .srcToDst .check, .route .dstToSrc .check]
    (by decide) _ rfl .srcToDst
  exact ⟨_, rfl, inside⟩

end XTransmit.Forwarding
