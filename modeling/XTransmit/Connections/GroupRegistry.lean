import XTransmit.Connections.TimerLoop
import Mathlib.Data.Finset.Basic

set_option autoImplicit false

namespace XTransmit.Connections

open Transition

variable {Sockaddr : Type}

abbrev Address := Nat

abbrev SrtSocket := Int32

structure GroupTarget (Sockaddr : Type) where
  srcaddr : Sockaddr
  peeraddr : Sockaddr
  weight : UInt16 := 0
  token : Int := -1
  deriving DecidableEq, Repr

inductive GroupTask (Sockaddr : Type) where
  | printMemberSocket (sock : SrtSocket)
  | connfn (group : SrtSocket) (target : GroupTarget Sockaddr)
  deriving DecidableEq, Repr

inductive Callback where
  | listen (sock : SrtSocket)
  | connect (sock : SrtSocket) (error token : Int)
  deriving DecidableEq, Repr

-- A callback that got through, and what it found. The loop that looks for the member leaves the
-- address of its own copy behind: `leftover` is what is read there when the loop has ended.
structure Heard (Sockaddr : Type) where
  callback : Callback
  bindSocket : SrtSocket
  targets : List (GroupTarget Sockaddr)
  leftover : GroupTarget Sockaddr
  deriving DecidableEq, Repr

-- The delay in microseconds and the task that `on_listen_callback` and `on_connect_callback` schedule.
def Heard.request (heard : Heard Sockaddr) : Option (Int × GroupTask Sockaddr) :=
  match heard.callback with
  | .listen sock => some (20, .printMemberSocket sock)
  | .connect _ error token =>
      if error = 0 then none
      else if heard.targets.any fun target => target.token = token then
        some (1000000, .connfn heard.bindSocket heard.leftover)
      else none

inductive GroupPhase where
  | constructing
  | registered
  | stopped
  | unregistered
  | released
  deriving DecidableEq, Repr

def GroupPhase.isOpen : GroupPhase → Bool
  | .registered | .stopped => true
  | .constructing | .unregistered | .released => false

def GroupPhase.isClosing : GroupPhase → Bool
  | .stopped | .unregistered | .released => true
  | .constructing | .registered => false

structure SrtGroup (Sockaddr : Type) where
  bindSocket : SrtSocket
  targets : List (GroupTarget Sockaddr)
  phase : GroupPhase := .constructing
  timer : Timer Int (GroupTask Sockaddr) := {}
  heard : List (Heard Sockaddr) := []

inductive GroupEvent (Sockaddr : Type) where
  | assign (index : Nat) (token : Int)
  | stop
  | release
  | timer (event : TimerEvent Int (GroupTask Sockaddr))
  deriving DecidableEq, Repr

namespace SrtGroup

variable (group : SrtGroup Sockaddr)

def tasks : List (GroupTask Sockaddr) := (group.timer.executed ++ group.timer.pending).map fun entry => entry.2.f

-- `m_scheduler` is destroyed behind the body of the destructor, or by a constructor that throws.
def mayTake : TimerEvent Int (GroupTask Sockaddr) → Bool
  | .timer _ | .spurious => true
  | .destroy | .notify | .join => group.phase = .constructing || group.phase = .released
  | .scheduleOn _ _ | .stop => false

def own : GroupEvent Sockaddr → Option (SrtGroup Sockaddr)
  | .assign index token =>
      if group.phase = .registered then
        some { group with targets := group.targets.modify index fun target => { target with token := token } }
      else none
  | .stop =>
      if group.phase = .registered then
        some { group with phase := .stopped, timer := { group.timer with done := true } }
      else none
  | .release => if group.phase = .unregistered then some { group with phase := .released, targets := [] } else none
  | .timer event =>
      if group.mayTake event then (group.timer.step event).map fun timer => { group with timer := timer } else none

def hears (callback : Callback) (leftover : GroupTarget Sockaddr) : Heard Sockaddr :=
  { callback := callback, bindSocket := group.bindSocket, targets := group.targets, leftover := leftover }

-- The body of a callback. `none` where it would use what is not constructed yet or given up already.
def onCallback (now : Int) (callback : Callback) (leftover : GroupTarget Sockaddr) : Option (SrtGroup Sockaddr) :=
  let heard := group.hears callback leftover
  if group.phase.isOpen then
    match heard.request with
    | none => some { group with heard := group.heard ++ [heard] }
    | some (delay, task) =>
        (group.timer.step (.scheduleOn (now + delay) task)).map fun timer =>
          { group with timer := timer, heard := group.heard ++ [heard] }
  else none

end SrtGroup

structure Visit where
  opaq : Address
  callback : Callback
  answered : Bool := false
  deriving DecidableEq, Repr

structure Groups (Sockaddr : Type) where
  heap : Address → Option (SrtGroup Sockaddr) := fun _ => none
  registry : Finset Address := ∅
  visit : Option Visit := none
  fault : Bool := false

inductive GroupsEvent (Sockaddr : Type) where
  | construct (address : Address) (bindSocket : SrtSocket) (targets : List (GroupTarget Sockaddr))
  | own (address : Address) (event : GroupEvent Sockaddr)
  | add (address : Address)
  | remove (address : Address)
  | free (address : Address)
  | enter (opaq : Address) (callback : Callback)
  | answer (now : Int) (leftover : GroupTarget Sockaddr)
  | leave
  deriving DecidableEq, Repr

namespace Groups

variable (groups : Groups Sockaddr)

def put (address : Address) (group : SrtGroup Sockaddr) : Groups Sockaddr :=
  { groups with heap := Function.update groups.heap address (some group) }

-- `add` and `remove` hold the lock for one operation, `scoped_lock` until the callback returns.
def step : GroupsEvent Sockaddr → Option (Groups Sockaddr)
  | .construct address bindSocket targets =>
      if address ≠ 0 ∧ (groups.heap address).isNone then
        some (groups.put address { bindSocket := bindSocket, targets := targets })
      else none
  | .own address event => do
      let group ← groups.heap address
      let next ← group.own event
      return groups.put address next
  | .add address => do
      let group ← groups.heap address
      if groups.visit.isNone ∧ group.phase = .constructing ∧ group.timer.destructor = .outside then
        return { groups.put address { group with phase := .registered } with registry := insert address groups.registry }
      else none
  | .remove address => do
      let group ← groups.heap address
      if groups.visit.isNone ∧ group.phase = .stopped then
        return { groups.put address { group with phase := .unregistered } with registry := groups.registry.erase address }
      else none
  | .free address => do
      let group ← groups.heap address
      if group.timer.destructor = .joined then
        return { groups with heap := Function.update groups.heap address none }
      else none
  | .enter opaq callback =>
      if opaq = 0 then some groups
      else if groups.visit.isSome then none
      else if opaq ∈ groups.registry then some { groups with visit := some { opaq := opaq, callback := callback } }
      else some groups
  | .answer now leftover => do
      let visit ← groups.visit
      if visit.answered then none
      else
        match (groups.heap visit.opaq).bind fun group => group.onCallback now visit.callback leftover with
        | some group => return { groups.put visit.opaq group with visit := some { visit with answered := true } }
        | none => return { groups with fault := true, visit := some { visit with answered := true } }
  | .leave => do
      let visit ← groups.visit
      if visit.answered then return { groups with visit := none } else none

end Groups

section Moves

variable {group later : SrtGroup Sockaddr} {groups next : Groups Sockaddr}

inductive OwnMove (group : SrtGroup Sockaddr) (event : GroupEvent Sockaddr) (later : SrtGroup Sockaddr) : Prop
  | assigned (targets : List (GroupTarget Sockaddr)) (same : later = { group with targets := targets })
  | stopped (here : group.phase = .registered)
      (same : later = { group with phase := .stopped, timer := { group.timer with done := true } })
  | released (here : group.phase = .unregistered) (same : later = { group with phase := .released, targets := [] })
  | timed (action : TimerEvent Int (GroupTask Sockaddr)) (timer : Timer Int (GroupTask Sockaddr))
      (may : group.mayTake action = true) (taken : group.timer.step action = some timer)
      (same : later = { group with timer := timer })

theorem own_move {event : GroupEvent Sockaddr} (taken : group.own event = some later) : OwnMove group event later := by
  cases event with
  | assign index token =>
      simp only [SrtGroup.own] at taken
      split at taken <;> cases taken
      exact .assigned _ rfl
  | stop =>
      simp only [SrtGroup.own] at taken
      split at taken
      next here =>
        cases taken
        exact .stopped here rfl
      next => cases taken
  | release =>
      simp only [SrtGroup.own] at taken
      split at taken
      next here =>
        cases taken
        exact .released here rfl
      next => cases taken
  | timer action =>
      simp only [SrtGroup.own] at taken
      split at taken
      next may =>
        obtain ⟨timer, stepped, rfl⟩ := Option.map_eq_some_iff.mp taken
        exact .timed action timer may stepped rfl
      next => cases taken

inductive Answer (group : SrtGroup Sockaddr) (now : Int) (heard : Heard Sockaddr) (later : SrtGroup Sockaddr) : Prop
  | nothing (quiet : heard.request = none) (same : later = { group with heard := group.heard ++ [heard] })
  | scheduled (delay : Int) (task : GroupTask Sockaddr) (asked : heard.request = some (delay, task))
      (outside : group.timer.destructor = .outside)
      (same : later = { group with
        timer := group.timer.scheduleOn (now + delay) task
        heard := group.heard ++ [heard] })

theorem onCallback_eq (now : Int) (callback : Callback) (leftover : GroupTarget Sockaddr)
    (here : group.phase.isOpen = true) (outside : group.timer.destructor = .outside) :
    ∃ later, group.onCallback now callback leftover = some later ∧
      Answer group now (group.hears callback leftover) later := by
  unfold SrtGroup.onCallback
  simp only [here, if_true]
  split
  next quiet => exact ⟨_, rfl, .nothing quiet rfl⟩
  next delay task asked =>
    simp only [Timer.step, outside, if_true, Option.map_some]
    exact ⟨_, rfl, .scheduled delay task asked outside rfl⟩

inductive GroupsMove (groups : Groups Sockaddr) (event : GroupsEvent Sockaddr) (next : Groups Sockaddr) : Prop
  | constructed (address : Address) (bindSocket : SrtSocket) (targets : List (GroupTarget Sockaddr))
      (fresh : groups.heap address = none)
      (same : next = groups.put address { bindSocket := bindSocket, targets := targets })
  | owned (address : Address) (action : GroupEvent Sockaddr) (group later : SrtGroup Sockaddr)
      (here : groups.heap address = some group) (moved : OwnMove group action later)
      (same : next = groups.put address later)
  | added (address : Address) (group : SrtGroup Sockaddr) (here : groups.heap address = some group)
      (phase : group.phase = .constructing) (outside : group.timer.destructor = .outside)
      (same : next = { groups.put address { group with phase := .registered } with
        registry := insert address groups.registry })
  | removed (address : Address) (group : SrtGroup Sockaddr) (here : groups.heap address = some group)
      (phase : group.phase = .stopped) (unlocked : groups.visit = none)
      (same : next = { groups.put address { group with phase := .unregistered } with
        registry := groups.registry.erase address })
  | freed (address : Address) (group : SrtGroup Sockaddr) (named : event = .free address)
      (here : groups.heap address = some group) (joined : group.timer.destructor = .joined)
      (same : next = { groups with heap := Function.update groups.heap address none })
  | rejected (same : next = groups)
  | entered (visit : Visit) (found : visit.opaq ∈ groups.registry) (same : next = { groups with visit := some visit })
  | answered (visit : Visit) (now : Int) (leftover : GroupTarget Sockaddr) (inside : groups.visit = some visit)
      (outcome : next = match (groups.heap visit.opaq).bind fun group => group.onCallback now visit.callback leftover with
        | some group => { groups.put visit.opaq group with visit := some { visit with answered := true } }
        | none => { groups with fault := true, visit := some { visit with answered := true } })
  | left (same : next = { groups with visit := none })

theorem groups_move {event : GroupsEvent Sockaddr} (taken : groups.step event = some next) :
    GroupsMove groups event next := by
  cases event with
  | construct address bindSocket targets =>
      simp only [Groups.step] at taken
      split at taken
      next fresh =>
        cases taken
        exact .constructed address bindSocket targets (Option.isNone_iff_eq_none.mp fresh.2) rfl
      next => cases taken
  | own address action =>
      obtain ⟨group, here, taken⟩ := Option.bind_eq_some_iff.mp taken
      obtain ⟨later, moved, taken⟩ := Option.bind_eq_some_iff.mp taken
      cases taken
      exact .owned address action group later here (own_move moved) rfl
  | add address =>
      obtain ⟨group, here, taken⟩ := Option.bind_eq_some_iff.mp taken
      split at taken
      next guard =>
        cases taken
        exact .added address group here guard.2.1 guard.2.2 rfl
      next => cases taken
  | remove address =>
      obtain ⟨group, here, taken⟩ := Option.bind_eq_some_iff.mp taken
      split at taken
      next guard =>
        cases taken
        exact .removed address group here guard.2 (Option.isNone_iff_eq_none.mp guard.1) rfl
      next => cases taken
  | free address =>
      obtain ⟨group, here, taken⟩ := Option.bind_eq_some_iff.mp taken
      split at taken
      next joined =>
        cases taken
        exact .freed address group rfl here joined rfl
      next => cases taken
  | enter opaq callback =>
      simp only [Groups.step] at taken
      split at taken
      next =>
        cases taken
        exact .rejected rfl
      next =>
        split at taken
        next => cases taken
        next =>
          split at taken
          next found =>
            cases taken
            exact .entered { opaq := opaq, callback := callback } found rfl
          next =>
            cases taken
            exact .rejected rfl
  | answer now leftover =>
      obtain ⟨visit, inside, taken⟩ := Option.bind_eq_some_iff.mp taken
      split at taken
      next => cases taken
      next =>
        refine .answered visit now leftover inside ?_
        split at taken
        next =>
          cases taken
          simp [*]
        next =>
          cases taken
          simp [*]
  | leave =>
      obtain ⟨visit, inside, taken⟩ := Option.bind_eq_some_iff.mp taken
      split at taken
      next =>
        cases taken
        exact .left rfl
      next => cases taken

end Moves

end XTransmit.Connections
