import XTransmit.Forwarding.Node
import XTransmit.Shared.Transition
import Mathlib.Logic.Function.Basic

set_option autoImplicit false

namespace XTransmit.Forwarding

open Transition

inductive Direction where
  | srcToDst
  | dstToSrc
  deriving DecidableEq, Repr

def Direction.opposite : Direction → Direction
  | .srcToDst => .dstToSrc
  | .dstToSrc => .srcToDst

inductive Position where
  | condition
  -- `while (!m_stop_accept)` of `Receive`; the break token is not looked at here.
  | stopCheck
  | polling
  | forwarding (message : Message)
  | closingSrc
  | closingDst
  | ended
  deriving DecidableEq, Repr

inductive Failure where
  | receiving (recvRes : Int) (connectionId : SrtSocket)
  | exceeds (recvRes : Int)
  | sending (sendRes : Int)
  deriving DecidableEq, Repr

structure Route where
  position : Position := .condition
  received : List Message := []
  sent : List Message := []
  failure : Option Failure := none
  deriving DecidableEq, Repr

inductive RouteEvent where
  | check
  | poll (answer : EpollAnswer)
  | send (sendRes : Int)
  deriving DecidableEq, Repr

def Route.receive (messageSize : Nat) (route : Route) (result : Received) : Route :=
  if result.recvRes ≤ 0 then
    if result.recvRes = 0 ∧ result.connectionId = 0 then { route with position := .closingSrc }
    else { route with
      failure := some (.receiving result.recvRes result.connectionId)
      position := .closingSrc }
  else if result.recvRes > messageSize then
    { route with
      received := route.received ++ [result.message]
      failure := some (.exceeds result.recvRes)
      position := .closingSrc }
  else { route with
    received := route.received ++ [result.message]
    position := .forwarding result.message }

-- A step is a load or a store of a flag, a pass of `Receive`, or a `Send`.
def routeStep (messageSize : Nat) (forceBreak stopAccept : Bool) (route : Route) : RouteEvent → Option Route
  | .check =>
      match route.position with
      | .condition => some { route with position := if forceBreak then .closingSrc else .stopCheck }
      | .stopCheck => some { route with position := if stopAccept then .closingSrc else .polling }
      | .closingSrc => some { route with position := .closingDst }
      | .closingDst => some { route with position := .ended }
      | .polling | .forwarding _ | .ended => none
  | .poll answer =>
      if route.position = .polling then
        match receivePass answer with
        | none => some { route with position := .stopCheck }
        | some result => some (route.receive messageSize result)
      else none
  | .send sendRes =>
      match route.position with
      | .forwarding message =>
          if sendRes ≤ 0 then
            some { route with failure := some (.sending sendRes), position := .closingSrc }
          else some { route with sent := route.sent ++ [message.take sendRes.toNat], position := .condition }
      | _ => none

-- A node is named by the direction that receives from it.
structure Forwarder where
  forceBreak : Bool := false
  stopAccept : Direction → Bool := fun _ => false
  routes : Direction → Route := fun _ => {}

inductive Label where
  | raiseBreak
  | route (direction : Direction) (event : RouteEvent)
  deriving DecidableEq, Repr

def Forwarder.closed (state : Forwarder) (direction node : Direction) : Bool :=
  match (state.routes direction).position with
  | .closingSrc => node = direction || state.stopAccept node
  | .closingDst => node = direction.opposite || state.stopAccept node
  | _ => state.stopAccept node

def step (messageSize : Nat) (state : Forwarder) : Label → Option Forwarder
  | .raiseBreak => some { state with forceBreak := true }
  | .route direction event =>
      (routeStep messageSize state.forceBreak (state.stopAccept direction) (state.routes direction) event).map
        fun route => { state with
          stopAccept := state.closed direction
          routes := Function.update state.routes direction route }

section Moves

variable {messageSize : Nat} {forceBreak stopAccept : Bool} {route next : Route} {event : RouteEvent}

inductive RouteMove (stopAccept : Bool) (route : Route) : RouteEvent → Route → Prop
  | broke (here : route.position = .condition) : RouteMove stopAccept route .check { route with position := .closingSrc }
  | entered (here : route.position = .condition) : RouteMove stopAccept route .check { route with position := .stopCheck }
  | stopped (here : route.position = .stopCheck) (set : stopAccept = true) :
      RouteMove stopAccept route .check { route with position := .closingSrc }
  | running (here : route.position = .stopCheck) (unset : stopAccept = false) :
      RouteMove stopAccept route .check { route with position := .polling }
  | closedSrc (here : route.position = .closingSrc) :
      RouteMove stopAccept route .check { route with position := .closingDst }
  | closedDst (here : route.position = .closingDst) : RouteMove stopAccept route .check { route with position := .ended }
  | timedOut (answer : EpollAnswer) (here : route.position = .polling) :
      RouteMove stopAccept route (.poll answer) { route with position := .stopCheck }
  | broken (answer : EpollAnswer) (failure : Option Failure) (here : route.position = .polling)
      (awake : 0 < answer.epollRes) :
      RouteMove stopAccept route (.poll answer) { route with failure := failure, position := .closingSrc }
  | exceeded (answer : EpollAnswer) (message : Message) (recvRes : Int) (here : route.position = .polling)
      (awake : 0 < answer.epollRes) :
      RouteMove stopAccept route (.poll answer) { route with
        received := route.received ++ [message]
        failure := some (.exceeds recvRes)
        position := .closingSrc }
  | took (answer : EpollAnswer) (message : Message) (here : route.position = .polling) (awake : 0 < answer.epollRes) :
      RouteMove stopAccept route (.poll answer) { route with
        received := route.received ++ [message]
        position := .forwarding message }
  | refused (sendRes : Int) (message : Message) (here : route.position = .forwarding message) :
      RouteMove stopAccept route (.send sendRes) { route with
        failure := some (.sending sendRes)
        position := .closingSrc }
  | forwarded (sendRes : Int) (message : Message) (here : route.position = .forwarding message)
      (accepted : 0 < sendRes) :
      RouteMove stopAccept route (.send sendRes) { route with
        sent := route.sent ++ [message.take sendRes.toNat]
        position := .condition }

theorem receive_move {answer : EpollAnswer} (here : route.position = .polling) (awake : 0 < answer.epollRes)
    (result : Received) : RouteMove stopAccept route (.poll answer) (route.receive messageSize result) := by
  unfold Route.receive
  split
  next =>
    split
    next => exact .broken answer route.failure here awake
    next => exact .broken answer _ here awake
  next =>
    split
    next => exact .exceeded answer _ _ here awake
    next => exact .took answer _ here awake

theorem receivePass_awake {answer : EpollAnswer} {result : Received} (returned : receivePass answer = some result) :
    0 < answer.epollRes := by
  unfold receivePass at returned
  split at returned
  next => cases returned
  next awake => exact not_le.mp awake

theorem routeStep_move (taken : routeStep messageSize forceBreak stopAccept route event = some next) :
    RouteMove stopAccept route event next := by
  cases event with
  | check =>
      cases here : route.position with
      | condition =>
          simp only [routeStep, here] at taken
          cases taken
          split
          next => exact .broke here
          next => exact .entered here
      | stopCheck =>
          simp only [routeStep, here] at taken
          cases taken
          split
          next set => exact .stopped here set
          next unset => exact .running here (by simpa using unset)
      | closingSrc =>
          simp only [routeStep, here] at taken
          cases taken
          exact .closedSrc here
      | closingDst =>
          simp only [routeStep, here] at taken
          cases taken
          exact .closedDst here
      | polling | forwarding | ended => simp [routeStep, here] at taken
  | poll answer =>
      simp only [routeStep] at taken
      split at taken
      next here =>
        split at taken <;> cases taken
        next => exact .timedOut answer here
        next result returned => exact receive_move here (receivePass_awake returned) result
      next => cases taken
  | send sendRes =>
      simp only [routeStep] at taken
      split at taken
      next message here =>
        split at taken <;> cases taken
        next => exact .refused sendRes message here
        next accepted => exact .forwarded sendRes message here (not_le.mp accepted)
      next => cases taken

end Moves

section Steps

variable {messageSize : Nat} {state next : Forwarder} {label : Label}

theorem step_route (taken : step messageSize state label = some next) (direction : Direction) :
    ((∀ event, label ≠ .route direction event) ∧ next.routes direction = state.routes direction) ∨
      ∃ event, label = .route direction event ∧
        RouteMove (state.stopAccept direction) (state.routes direction) event (next.routes direction) := by
  cases label with
  | raiseBreak =>
      cases taken
      exact .inl ⟨by simp, rfl⟩
  | route moving event =>
      obtain ⟨route, moved, rfl⟩ := Option.map_eq_some_iff.mp taken
      by_cases same : direction = moving
      next =>
        subst same
        exact .inr ⟨event, rfl, by simpa using routeStep_move moved⟩
      next => exact .inl ⟨by simp [Ne.symm same], Function.update_of_ne same _ _⟩

theorem step_stopAccept (taken : step messageSize state label = some next) :
    next.stopAccept = state.stopAccept ∨
      ∃ direction event, label = .route direction event ∧ next.stopAccept = state.closed direction := by
  cases label with
  | raiseBreak =>
      cases taken
      exact .inl rfl
  | route direction event =>
      obtain ⟨route, -, rfl⟩ := Option.map_eq_some_iff.mp taken
      exact .inr ⟨direction, event, rfl, rfl⟩

theorem step_stays_stopped (taken : step messageSize state label = some next) {node : Direction}
    (stopped : state.stopAccept node = true) : next.stopAccept node = true := by
  rcases step_stopAccept taken with same | ⟨direction, -, -, same⟩
  · rw [same, stopped]
  · rw [same, Forwarder.closed]
    split <;> simp [stopped]

end Steps

end XTransmit.Forwarding
