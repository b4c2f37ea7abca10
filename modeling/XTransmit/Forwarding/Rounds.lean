import XTransmit.Forwarding.Routes

set_option autoImplicit false

namespace XTransmit.Forwarding

open Transition

def srtInvalidSock : SrtSocket := -1

-- A socket is open until this program closes it.
structure Resources where
  sockets : List SrtSocket := []
  epolls : Nat := 0
  deriving DecidableEq, Repr

def Resources.create (resources : Resources) (sock : SrtSocket) : Resources :=
  { resources with sockets := resources.sockets ++ [sock] }

-- `srt_close` of a socket that is not open is an error that nobody looks at.
def Resources.close (resources : Resources) (sock : SrtSocket) : Resources :=
  { resources with sockets := resources.sockets.erase sock }

structure EstablishAnswers where
  bindsock : SrtSocket
  configurePre : Bool := true
  rcvSyn : Bool := true
  connect : Bool := true
  rcvSynOff : Bool := true
  bind : Bool := true
  listen : Bool := true
  deriving DecidableEq, Repr

-- `EstablishConnection`: its result and what is open behind it. A failed option leaves the socket open.
def establishConnection (caller : Bool) (answers : EstablishAnswers) (resources : Resources) : Int × Resources :=
  let created := resources.create answers.bindsock
  if answers.bindsock = srtInvalidSock then (-1, resources)
  else if !answers.configurePre then (-1, created)
  else if caller then
    if !answers.rcvSyn then (-1, created)
    else if !answers.connect then (-1, created.close answers.bindsock)
    else if !answers.rcvSynOff then (-1, created)
    else (0, created)
  else if !answers.bind then (-1, created.close answers.bindsock)
  else if !answers.listen then (-1, created.close answers.bindsock)
  else (0, created)

def EpollAnswer.closes (answer : EpollAnswer) : Option SrtSocket :=
  if answer.epollRes ≤ 0 then none
  else if answer.rnum ≤ 0 ∧ answer.wnum ≤ 0 then none
  else if answer.recvRes > 0 then none
  else if answer.error = .econnlost then some answer.sock
  else none

def RouteEvent.closes : RouteEvent → Option SrtSocket
  | .poll answer => answer.closes
  | .check | .send _ => none

inductive RoundPosition where
  | condition
  | creatingDst
  | creatingSrc
  | connecting
  | listening
  | acceptCheck
  | accepting
  | forwarding
  | waitingUndelivered
  | destroyingSrc
  | destroyingDst
  | finished
  -- The exception of a constructor is caught nowhere.
  | terminated
  deriving DecidableEq, Repr

structure Round where
  accepted : Option SrtSocket := none
  lost : Bool := false
  deriving DecidableEq, Repr

def Round.left (round : Round) : List SrtSocket := if round.lost then [] else round.accepted.toList

structure ForwardRun where
  position : RoundPosition := .condition
  forceBreak : Bool := false
  dst : SrtSocket := srtInvalidSock
  src : SrtSocket := srtInvalidSock
  round : Round := {}
  forwarder : Forwarder := {}
  resources : Resources := {}
  rounds : List Round := []

inductive RoundEvent where
  | raiseBreak
  | main
  | construct (epollAccept epollReceive : Bool)
  | establish (answers : EstablishAnswers)
  | accept (epollRes : Int) (sock : SrtSocket)
  | route (direction : Direction) (event : RouteEvent)
  deriving DecidableEq, Repr

namespace ForwardRun

def mainStep (state : ForwardRun) : Option ForwardRun :=
  match state.position with
  | .condition =>
      if state.forceBreak then some { state with position := .finished }
      else some { state with position := .creatingDst }
  | .acceptCheck => some { state with position := if state.forceBreak then .destroyingSrc else .accepting }
  | .forwarding =>
      if (state.forwarder.routes .srcToDst).position = .ended ∧ (state.forwarder.routes .dstToSrc).position = .ended then
        some { state with position := .waitingUndelivered }
      else none
  | .waitingUndelivered => some { state with position := .destroyingSrc }
  | .destroyingSrc => some { state with position := .destroyingDst, resources := state.resources.close state.src }
  | .destroyingDst => some { state with
      position := .condition
      resources := state.resources.close state.dst
      rounds := state.rounds ++ [state.round]
      dst := srtInvalidSock
      src := srtInvalidSock
      round := {} }
  | _ => none

def construct (state : ForwardRun) (epollAccept epollReceive : Bool) (next : RoundPosition) : ForwardRun :=
  let epolls := state.resources.epolls
  if !epollAccept then { state with position := .terminated }
  else if !epollReceive then
    { state with position := .terminated, resources := { state.resources with epolls := epolls + 1 } }
  else { state with position := next, resources := { state.resources with epolls := epolls + 2 } }

def establish (state : ForwardRun) (caller : Bool) (answers : EstablishAnswers) (next : RoundPosition) : ForwardRun :=
  let (stat, resources) := establishConnection caller answers state.resources
  { state with position := if stat = 0 then next else .destroyingSrc, resources := resources }

def routed (state : ForwardRun) (closed : Option SrtSocket) (forwarder : Forwarder) : ForwardRun :=
  match closed with
  | none => { state with forwarder := forwarder }
  | some sock => { state with
      forwarder := forwarder
      resources := state.resources.close sock
      round := { state.round with lost := state.round.lost || decide (state.round.accepted = some sock) } }

def step (messageSize : Nat) (state : ForwardRun) : RoundEvent → Option ForwardRun
  | .raiseBreak => some { state with
      forceBreak := true
      forwarder := { state.forwarder with forceBreak := true } }
  | .main => state.mainStep
  | .construct epollAccept epollReceive =>
      match state.position with
      | .creatingDst => some (state.construct epollAccept epollReceive .creatingSrc)
      | .creatingSrc => some (state.construct epollAccept epollReceive .connecting)
      | _ => none
  | .establish answers =>
      match state.position with
      | .connecting => some ({ state with dst := answers.bindsock }.establish true answers .listening)
      | .listening => some ({ state with src := answers.bindsock }.establish false answers .acceptCheck)
      | _ => none
  | .accept epollRes sock =>
      if state.position ≠ .accepting then none
      else if epollRes ≤ 0 ∨ sock = srtInvalidSock then some { state with position := .acceptCheck }
      else some { state with
        position := .forwarding
        round := { accepted := some sock }
        forwarder := { forceBreak := state.forceBreak }
        resources := state.resources.create sock }
  | .route direction event =>
      if state.position ≠ .forwarding then none
      else (Forwarding.step messageSize state.forwarder (.route direction event)).map (state.routed event.closes)

end ForwardRun

-- A new socket has a number that no open socket has, and the epoll of a node reports its own socket only.
def Lawful (state : ForwardRun) : RoundEvent → Prop
  | .establish answers => answers.bindsock ∉ state.resources.sockets
  | .accept _ sock => sock ∉ state.resources.sockets
  | .route .srcToDst event => ∀ sock ∈ event.closes, state.round.accepted = some sock
  | .route .dstToSrc event => ∀ sock ∈ event.closes, sock = state.dst
  | .raiseBreak | .main | .construct _ _ => True

instance decidableLawful (state : ForwardRun) : (event : RoundEvent) → Decidable (Lawful state event)
  | .establish _ | .accept _ _ => inferInstanceAs (Decidable (_ ∉ _))
  | .route .srcToDst event | .route .dstToSrc event => Option.decidableForallMem event.closes
  | .raiseBreak | .main | .construct _ _ => .isTrue trivial

section Holdings

variable {state next : ForwardRun} {dst src : List SrtSocket}

def kept (rounds : List Round) : List SrtSocket := rounds.flatMap Round.left

def Placed (state : ForwardRun) (dst src : List SrtSocket) : Prop :=
  match state.position with
  | .condition | .creatingDst | .creatingSrc | .connecting | .finished | .terminated =>
      dst = [] ∧ src = [] ∧ state.dst = srtInvalidSock ∧ state.src = srtInvalidSock ∧ state.round = {}
  | .listening => dst = [state.dst] ∧ src = [] ∧ state.src = srtInvalidSock ∧ state.round = {}
  | .acceptCheck | .accepting => dst = [state.dst] ∧ src = [state.src] ∧ state.round = {}
  | .forwarding | .waitingUndelivered | .destroyingSrc => True
  | .destroyingDst => src = []

structure Holdings (state : ForwardRun) (dst src : List SrtSocket) : Prop where
  sockets : state.resources.sockets = kept state.rounds ++ dst ++ src ++ state.round.left
  valid : srtInvalidSock ∉ state.resources.sockets
  dstHeld : dst = [] ∨ dst = [state.dst]
  srcHeld : src = [] ∨ src = [state.src]
  dstApart : state.dst ∉ kept state.rounds ++ (src ++ state.round.left)
  srcApart : state.src ∉ kept state.rounds ++ dst ++ state.round.left
  acceptedApart : ∀ sock, state.round.accepted = some sock → sock ∉ kept state.rounds ++ dst ++ src
  placed : Placed state dst src

theorem erase_held {before held after : List SrtSocket} {sock : SrtSocket} (holds : held = [] ∨ held = [sock])
    (apart : sock ∉ before ++ after) : (before ++ held ++ after).erase sock = before ++ after := by
  rcases holds with rfl | rfl
  · rw [List.append_nil, List.erase_of_not_mem apart]
  · have outside : sock ∉ before := fun member => apart (List.mem_append_left _ member)
    rw [List.append_assoc, List.erase_append_right _ outside, List.singleton_append, List.erase_cons_head]

theorem establishConnection_cases (caller : Bool) (answers : EstablishAnswers) (resources : Resources)
    (fresh : answers.bindsock ∉ resources.sockets) :
    (answers.bindsock ≠ srtInvalidSock ∧ ∃ stat : Int,
        establishConnection caller answers resources = (stat, resources.create answers.bindsock)) ∨
      establishConnection caller answers resources = (-1, resources) := by
  have closed : (resources.create answers.bindsock).close answers.bindsock = resources := by
    simp [Resources.create, Resources.close, List.erase_append_right _ fresh]
  unfold establishConnection
  simp only [closed]
  split
  next => exact .inr rfl
  next valid =>
    have opened (stat : Int) : answers.bindsock ≠ srtInvalidSock ∧ ∃ result : Int,
        (stat, resources.create answers.bindsock) = (result, resources.create answers.bindsock) := ⟨valid, stat, rfl⟩
    split
    next => exact .inl (opened _)
    next =>
      split
      next =>
        split
        next => exact .inl (opened _)
        next =>
          split
          next => exact .inr rfl
          next => split <;> exact .inl (opened _)
      next =>
        split
        next => exact .inr rfl
        next =>
          split
          next => exact .inr rfl
          next => exact .inl (opened _)

theorem Holdings.connect (holdings : Holdings state dst src) (here : state.position = .connecting)
    {answers : EstablishAnswers} (fresh : answers.bindsock ∉ state.resources.sockets) :
    ∃ dst src, Holdings ({ state with dst := answers.bindsock }.establish true answers .listening) dst src := by
  obtain ⟨sockets, valid, -, -, -, -, -, placed⟩ := holdings
  simp only [Placed, here] at placed
  obtain ⟨rfl, rfl, -, unbound, empty⟩ := placed
  have all : state.resources.sockets = kept state.rounds := by simpa [empty, Round.left] using sockets
  rw [all] at valid fresh
  rcases establishConnection_cases true answers state.resources (all ▸ fresh) with ⟨bound, stat, result⟩ | result
  next =>
    refine ⟨[answers.bindsock], [], ?_⟩
    simp only [ForwardRun.establish, result]
    constructor
    case placed => by_cases succeeded : stat = 0 <;> simp [Placed, succeeded, unbound, empty]
    all_goals simp [Resources.create, Round.left, empty, all, valid, fresh, unbound, Ne.symm bound]
  next =>
    refine ⟨[], [], ?_⟩
    simp only [ForwardRun.establish, result]
    constructor
    case placed => simp [Placed]
    all_goals simp [Round.left, empty, all, valid, fresh, unbound]

theorem Holdings.listen (holdings : Holdings state dst src) (here : state.position = .listening)
    {answers : EstablishAnswers} (fresh : answers.bindsock ∉ state.resources.sockets) :
    ∃ dst src, Holdings ({ state with src := answers.bindsock }.establish false answers .acceptCheck) dst src := by
  obtain ⟨sockets, valid, -, -, dstApart, -, -, placed⟩ := holdings
  simp only [Placed, here] at placed
  obtain ⟨rfl, rfl, -, empty⟩ := placed
  have all : state.resources.sockets = kept state.rounds ++ [state.dst] := by simpa [empty, Round.left] using sockets
  simp only [empty, Round.left, List.nil_append] at dstApart
  have apart : answers.bindsock ∉ kept state.rounds ∧ answers.bindsock ≠ state.dst := by simpa [all] using fresh
  rcases establishConnection_cases false answers state.resources fresh with ⟨bound, stat, result⟩ | result
  next =>
    refine ⟨[state.dst], [answers.bindsock], ?_⟩
    simp only [ForwardRun.establish, result]
    constructor
    case placed => by_cases succeeded : stat = 0 <;> simp [Placed, succeeded, empty]
    all_goals simp_all [Resources.create, Round.left, eq_comm]
  next =>
    refine ⟨[state.dst], [], ?_⟩
    simp only [ForwardRun.establish, result]
    constructor
    case placed => simp [Placed]
    all_goals simp_all [Round.left]

theorem Holdings.accept (holdings : Holdings state dst src) (here : state.position = .accepting) {sock : SrtSocket}
    (bound : sock ≠ srtInvalidSock) (fresh : sock ∉ state.resources.sockets) :
    Holdings { state with
      position := .forwarding
      round := { accepted := some sock }
      forwarder := { forceBreak := state.forceBreak }
      resources := state.resources.create sock } dst src := by
  obtain ⟨sockets, valid, dstHeld, srcHeld, dstApart, srcApart, -, placed⟩ := holdings
  simp only [Placed, here] at placed
  obtain ⟨rfl, rfl, empty⟩ := placed
  have all : state.resources.sockets = kept state.rounds ++ [state.dst] ++ [state.src] := by
    simpa [empty, Round.left] using sockets
  rw [all] at fresh
  constructor
  case placed => trivial
  all_goals simp_all [Resources.create, Round.left, eq_comm]

theorem Holdings.loseSrc (holdings : Holdings state dst src) (here : state.position = .forwarding) {sock : SrtSocket}
    (accepted : state.round.accepted = some sock) (forwarder : Forwarder) :
    Holdings (state.routed (some sock) forwarder) dst src := by
  obtain ⟨sockets, valid, dstHeld, srcHeld, dstApart, srcApart, acceptedApart, -⟩ := holdings
  have held : state.round.left = [] ∨ state.round.left = [sock] := by
    unfold Round.left
    split <;> simp [accepted]
  have apart := acceptedApart sock accepted
  have erased : state.resources.sockets.erase sock = kept state.rounds ++ dst ++ src := by
    have removed : (kept state.rounds ++ dst ++ src ++ state.round.left ++ []).erase sock =
        kept state.rounds ++ dst ++ src ++ [] := erase_held held (by simpa using apart)
    simpa [sockets] using removed
  have gone : Round.left { state.round with lost := state.round.lost || decide (state.round.accepted = some sock) } = [] := by
    simp [Round.left, accepted]
  constructor
  case sockets => simp [ForwardRun.routed, Resources.close, erased, gone]
  case valid => exact fun member => valid (List.mem_of_mem_erase member)
  case dstHeld => exact dstHeld
  case srcHeld => exact srcHeld
  case dstApart =>
    simp only [ForwardRun.routed, gone, List.append_nil]
    simp only [List.mem_append, not_or] at dstApart ⊢
    exact ⟨dstApart.1, dstApart.2.1⟩
  case srcApart =>
    simp only [ForwardRun.routed, gone, List.append_nil]
    exact fun member => srcApart (List.mem_append_left _ member)
  case acceptedApart => exact acceptedApart
  case placed => simp [Placed, ForwardRun.routed, here]

theorem Holdings.erase_dst (holdings : Holdings state dst src) :
    state.resources.sockets.erase state.dst = kept state.rounds ++ (src ++ state.round.left) := by
  rw [holdings.sockets, List.append_assoc, erase_held holdings.dstHeld holdings.dstApart]

theorem Holdings.erase_src (holdings : Holdings state dst src) :
    state.resources.sockets.erase state.src = kept state.rounds ++ dst ++ state.round.left := by
  rw [holdings.sockets, erase_held holdings.srcHeld holdings.srcApart]

theorem Holdings.loseDst (holdings : Holdings state dst src) (here : state.position = .forwarding) (forwarder : Forwarder) :
    Holdings (state.routed (some state.dst) forwarder) [] src := by
  have erased := holdings.erase_dst
  obtain ⟨sockets, valid, dstHeld, srcHeld, dstApart, srcApart, acceptedApart, -⟩ := holdings
  have same : Round.left { state.round with lost := state.round.lost || decide (state.round.accepted = some state.dst) } =
      state.round.left := by
    cases lost : state.round.lost with
    | true => simp [Round.left, lost]
    | false =>
        have other : state.round.accepted ≠ some state.dst := by
          intro accepted
          simp [Round.left, lost, accepted] at dstApart
        simp [Round.left, lost, other]
  constructor
  case sockets => simp [ForwardRun.routed, Resources.close, erased, same]
  case valid => exact fun member => valid (List.mem_of_mem_erase member)
  case dstHeld => exact .inl rfl
  case srcHeld => exact srcHeld
  case dstApart => simpa [ForwardRun.routed, same] using dstApart
  case srcApart =>
    simp only [ForwardRun.routed, same, List.append_nil]
    simp only [List.mem_append, not_or] at srcApart ⊢
    exact ⟨srcApart.1.1, srcApart.2⟩
  case acceptedApart =>
    intro sock accepted member
    refine acceptedApart sock accepted ?_
    simp only [List.mem_append, List.not_mem_nil, or_false] at member ⊢
    exact member.imp_left .inl
  case placed => simp [Placed, ForwardRun.routed, here]

theorem Holdings.destroySrc (holdings : Holdings state dst src) :
    Holdings { state with position := .destroyingDst, resources := state.resources.close state.src } dst [] := by
  have erased := holdings.erase_src
  obtain ⟨sockets, valid, dstHeld, srcHeld, dstApart, srcApart, acceptedApart, -⟩ := holdings
  constructor
  case sockets => simp [Resources.close, erased]
  case valid => exact fun member => valid (List.mem_of_mem_erase member)
  case dstHeld => exact dstHeld
  case srcHeld => exact .inl rfl
  case dstApart =>
    simp only [List.mem_append, not_or, List.nil_append] at dstApart ⊢
    exact ⟨dstApart.1, dstApart.2.2⟩
  case srcApart => exact srcApart
  case acceptedApart =>
    intro sock accepted member
    exact acceptedApart sock accepted (List.mem_append_left _ (by simpa using member))
  case placed => rfl

theorem Holdings.destroyDst (holdings : Holdings state dst src) (here : state.position = .destroyingDst) :
    Holdings { state with
      position := .condition
      resources := state.resources.close state.dst
      rounds := state.rounds ++ [state.round]
      dst := srtInvalidSock
      src := srtInvalidSock
      round := {} } [] [] := by
  have erased := holdings.erase_dst
  obtain ⟨sockets, valid, -, -, -, -, -, placed⟩ := holdings
  simp only [Placed, here] at placed
  subst placed
  have all : state.resources.sockets.erase state.dst = kept (state.rounds ++ [state.round]) := by
    simpa [kept] using erased
  have invalid : srtInvalidSock ∉ kept (state.rounds ++ [state.round]) := by
    rw [← all]
    exact fun member => valid (List.mem_of_mem_erase member)
  constructor
  case placed => simp [Placed]
  all_goals simp [Resources.close, Round.left, all, invalid]

theorem Holdings.main (holdings : Holdings state dst src) (taken : state.mainStep = some next) :
    ∃ dst src, Holdings next dst src := by
  have placed := holdings.placed
  unfold ForwardRun.mainStep at taken
  cases here : state.position with
  | condition =>
      simp only [here] at taken
      split at taken <;> cases taken <;> exact ⟨dst, src, { holdings with placed := by simpa [Placed, here] using placed }⟩
  | acceptCheck =>
      simp only [here] at taken
      cases taken
      split
      next => exact ⟨dst, src, { holdings with placed := trivial }⟩
      next => exact ⟨dst, src, { holdings with placed := by simpa [Placed, here] using placed }⟩
  | forwarding =>
      simp only [here] at taken
      split at taken <;> cases taken
      exact ⟨dst, src, { holdings with placed := trivial }⟩
  | waitingUndelivered =>
      simp only [here] at taken
      cases taken
      exact ⟨dst, src, { holdings with placed := trivial }⟩
  | destroyingSrc =>
      simp only [here] at taken
      cases taken
      exact ⟨dst, [], holdings.destroySrc⟩
  | destroyingDst =>
      simp only [here] at taken
      cases taken
      exact ⟨[], [], holdings.destroyDst here⟩
  | creatingDst | creatingSrc | connecting | listening | accepting | finished | terminated => simp [here] at taken

theorem Holdings.construct (holdings : Holdings state dst src) {next : RoundPosition}
    (stays : ∀ position, position = next ∨ position = .terminated → Placed { state with position := position } dst src)
    (epollAccept epollReceive : Bool) : Holdings (state.construct epollAccept epollReceive next) dst src := by
  have ended := stays .terminated (.inr rfl)
  unfold ForwardRun.construct
  simp only
  split
  next => exact { holdings with placed := ended }
  next =>
    split
    next => exact { holdings with placed := ended }
    next => exact { holdings with placed := stays next (.inl rfl) }

theorem Holdings.route (holdings : Holdings state dst src) (here : state.position = .forwarding) {direction : Direction}
    {event : RouteEvent} (lawful : Lawful state (.route direction event)) (forwarder : Forwarder) :
    ∃ dst src, Holdings (state.routed event.closes forwarder) dst src := by
  cases closed : event.closes with
  | none => exact ⟨dst, src, { holdings with placed := by simp [Placed, ForwardRun.routed, here] }⟩
  | some sock =>
      cases direction with
      | srcToDst => exact ⟨dst, src, holdings.loseSrc here (lawful sock closed) forwarder⟩
      | dstToSrc =>
          have own : sock = state.dst := lawful sock closed
          subst own
          exact ⟨[], src, holdings.loseDst here forwarder⟩

theorem Holdings.step {messageSize : Nat} (holdings : Holdings state dst src) {event : RoundEvent}
    (lawful : Lawful state event) (taken : state.step messageSize event = some next) :
    ∃ dst src, Holdings next dst src := by
  have placed := holdings.placed
  cases event with
  | raiseBreak =>
      cases taken
      exact ⟨dst, src, { holdings with placed := placed }⟩
  | main => exact holdings.main taken
  | construct epollAccept epollReceive =>
      simp only [ForwardRun.step] at taken
      split at taken
      next here =>
        cases taken
        refine ⟨dst, src, holdings.construct ?_ epollAccept epollReceive⟩
        rintro position (rfl | rfl) <;> simpa [Placed, here] using placed
      next here =>
        cases taken
        refine ⟨dst, src, holdings.construct ?_ epollAccept epollReceive⟩
        rintro position (rfl | rfl) <;> simpa [Placed, here] using placed
      next => cases taken
  | establish answers =>
      simp only [ForwardRun.step] at taken
      split at taken
      next here =>
        cases taken
        exact holdings.connect here lawful
      next here =>
        cases taken
        exact holdings.listen here lawful
      next => cases taken
  | accept epollRes sock =>
      simp only [ForwardRun.step] at taken
      split at taken
      next => cases taken
      next here =>
        rw [not_not] at here
        split at taken
        next =>
          cases taken
          exact ⟨dst, src, { holdings with placed := by simpa [Placed, here] using placed }⟩
        next accepted =>
          cases taken
          exact ⟨dst, src, holdings.accept here (not_or.mp accepted).2 lawful⟩
  | route direction event =>
      simp only [ForwardRun.step] at taken
      split at taken
      next => cases taken
      next here =>
        rw [not_not] at here
        obtain ⟨forwarder, -, rfl⟩ := Option.map_eq_some_iff.mp taken
        exact holdings.route here lawful forwarder

theorem holdings_of_reachable {messageSize : Nat} (reached : Reachable (ForwardRun.step messageSize) Lawful {} state) :
    ∃ dst src, Holdings state dst src := by
  refine reached.invariant (fun state => ∃ dst src, Holdings state dst src) ⟨[], [], ?_⟩ ?_
  · constructor
    case placed => simp [Placed]
    all_goals simp [kept, Round.left]
  · rintro state event next ⟨dst, src, holdings⟩ lawful taken
    exact holdings.step lawful taken

end Holdings

section Epolls

variable {messageSize : Nat} {state next : ForwardRun}

def RoundPosition.epolls : RoundPosition → Nat
  | .condition | .creatingDst | .finished => 0
  | .creatingSrc => 2
  | _ => 4

def EpollsCounted (state : ForwardRun) : Prop :=
  state.position ≠ .terminated → state.resources.epolls = 4 * state.rounds.length + state.position.epolls

theorem EpollsCounted.moved (counted : EpollsCounted state) (goesOn : state.position ≠ .terminated)
    (epolls : next.resources.epolls = state.resources.epolls) (rounds : next.rounds = state.rounds)
    (position : next.position.epolls = state.position.epolls) : EpollsCounted next := by
  intro _
  rw [epolls, rounds, position]
  exact counted goesOn

theorem EpollsCounted.construct (counted : EpollsCounted state) (goesOn : state.position ≠ .terminated)
    {later : RoundPosition} (two : later.epolls = state.position.epolls + 2) (epollAccept epollReceive : Bool) :
    EpollsCounted (state.construct epollAccept epollReceive later) := by
  have before := counted goesOn
  unfold ForwardRun.construct
  simp only
  split
  next => exact fun goesOn => absurd rfl goesOn
  next =>
    split
    next => exact fun goesOn => absurd rfl goesOn
    next =>
      intro _
      simp only [two, before]
      omega

theorem establishConnection_epolls (caller : Bool) (answers : EstablishAnswers) (resources : Resources) :
    (establishConnection caller answers resources).2.epolls = resources.epolls := by
  unfold establishConnection
  simp only
  repeat' split
  all_goals rfl

theorem EpollsCounted.establish (counted : EpollsCounted state) (goesOn : state.position ≠ .terminated)
    {later : RoundPosition} (before : state.position.epolls = 4) (after : later.epolls = 4) (caller : Bool)
    (answers : EstablishAnswers) : EpollsCounted (state.establish caller answers later) := by
  refine counted.moved goesOn (establishConnection_epolls _ _ _) rfl ?_
  simp only [ForwardRun.establish, before]
  split
  next => exact after
  next => rfl

theorem EpollsCounted.main (counted : EpollsCounted state) (taken : state.mainStep = some next) : EpollsCounted next := by
  unfold ForwardRun.mainStep at taken
  cases here : state.position with
  | condition =>
      simp only [here] at taken
      split at taken <;> cases taken <;> exact counted.moved (by simp [here]) rfl rfl (by simp [here, RoundPosition.epolls])
  | acceptCheck =>
      simp only [here] at taken
      cases taken
      refine counted.moved (by simp [here]) rfl rfl ?_
      split <;> simp [here, RoundPosition.epolls]
  | forwarding =>
      simp only [here] at taken
      split at taken <;> cases taken
      exact counted.moved (by simp [here]) rfl rfl (by simp [here, RoundPosition.epolls])
  | waitingUndelivered | destroyingSrc =>
      simp only [here] at taken
      cases taken
      exact counted.moved (by simp [here]) rfl rfl (by simp [here, RoundPosition.epolls])
  | destroyingDst =>
      simp only [here] at taken
      cases taken
      have before := counted (by simp [here])
      intro _
      simpa [here, RoundPosition.epolls, Resources.close, Nat.mul_add] using before
  | creatingDst | creatingSrc | connecting | listening | accepting | finished | terminated => simp [here] at taken

theorem EpollsCounted.step (counted : EpollsCounted state) {event : RoundEvent}
    (taken : state.step messageSize event = some next) : EpollsCounted next := by
  cases event with
  | raiseBreak =>
      cases taken
      exact counted
  | main => exact counted.main taken
  | construct epollAccept epollReceive =>
      simp only [ForwardRun.step] at taken
      split at taken <;> cases taken
      next here => exact counted.construct (by simp [here]) (by simp [here, RoundPosition.epolls]) _ _
      next here => exact counted.construct (by simp [here]) (by simp [here, RoundPosition.epolls]) _ _
  | establish answers =>
      simp only [ForwardRun.step] at taken
      split at taken <;> cases taken
      next here =>
        have moved : EpollsCounted { state with dst := answers.bindsock } := counted
        exact moved.establish (by simp [here]) (by simp [here, RoundPosition.epolls]) rfl true answers
      next here =>
        have moved : EpollsCounted { state with src := answers.bindsock } := counted
        exact moved.establish (by simp [here]) (by simp [here, RoundPosition.epolls]) rfl false answers
  | accept epollRes sock =>
      simp only [ForwardRun.step] at taken
      split at taken
      next => cases taken
      next here =>
        rw [not_not] at here
        split at taken <;> cases taken <;> exact counted.moved (by simp [here]) rfl rfl (by simp [here, RoundPosition.epolls])
  | route direction event =>
      simp only [ForwardRun.step] at taken
      split at taken
      next => cases taken
      next here =>
        rw [not_not] at here
        obtain ⟨forwarder, -, rfl⟩ := Option.map_eq_some_iff.mp taken
        unfold ForwardRun.routed
        split <;> exact counted.moved (by simp [here]) rfl rfl rfl

theorem epolls_of_reachable (reached : Reachable (ForwardRun.step messageSize) Lawful {} state) : EpollsCounted state :=
  reached.invariant EpollsCounted (fun _ => rfl) fun _ _ _ counted _ taken => counted.step taken

end Epolls

section Forwarders

variable {messageSize : Nat} {state : ForwardRun}

theorem mainStep_forwarder {next : ForwardRun} (taken : state.mainStep = some next) :
    next.forwarder = state.forwarder := by
  grind [ForwardRun.mainStep]

theorem forwarder_of_reachable (reached : Reachable (ForwardRun.step messageSize) Lawful {} state) :
    Reachable (step messageSize) Unrestricted {} state.forwarder := by
  have started (forceBreak : Bool) : Reachable (step messageSize) Unrestricted {} { forceBreak := forceBreak } := by
    cases forceBreak with
    | false => exact .initial
    | true => exact .step .raiseBreak .initial trivial rfl
  refine reached.invariant (fun state => Reachable (step messageSize) Unrestricted {} state.forwarder) .initial ?_
  intro state event next forwards _ taken
  cases event with
  | raiseBreak =>
      cases taken
      exact .step .raiseBreak forwards trivial rfl
  | main =>
      rw [mainStep_forwarder taken]
      exact forwards
  | construct epollAccept epollReceive =>
      simp only [ForwardRun.step] at taken
      split at taken <;> cases taken
      all_goals
        unfold ForwardRun.construct
        repeat' split
        all_goals exact forwards
  | establish answers =>
      simp only [ForwardRun.step] at taken
      split at taken <;> cases taken <;> exact forwards
  | accept epollRes sock =>
      simp only [ForwardRun.step] at taken
      split at taken
      next => cases taken
      next =>
        split at taken <;> cases taken
        next => exact forwards
        next => exact started state.forceBreak
  | route direction event =>
      simp only [ForwardRun.step] at taken
      split at taken
      next => cases taken
      next =>
        obtain ⟨forwarder, moved, rfl⟩ := Option.map_eq_some_iff.mp taken
        have continued : Reachable (step messageSize) Unrestricted {} forwarder := .step _ forwards trivial moved
        unfold ForwardRun.routed
        split <;> exact continued

end Forwarders

theorem mem_held {held : List SrtSocket} {sock own : SrtSocket} (holds : held = [] ∨ held = [own])
    (member : sock ∈ held) : sock = own := by
  rcases holds with rfl | rfl
  · cases member
  · exact List.mem_singleton.mp member

theorem mem_left {round : Round} {sock : SrtSocket} (member : sock ∈ round.left) : round.accepted = some sock := by
  unfold Round.left at member
  split at member
  next => cases member
  next => exact Option.mem_toList.mp member

theorem rounds_leave_accepted_sockets_open (messageSize : Nat) (state : ForwardRun)
    (reached : Reachable (ForwardRun.step messageSize) Lawful {} state) :
    kept state.rounds <+: state.resources.sockets ∧
      (∀ sock ∈ state.resources.sockets,
        sock ∈ kept state.rounds ∨ sock = state.dst ∨ sock = state.src ∨ state.round.accepted = some sock) ∧
      (state.position = .condition ∨ state.position = .finished →
        state.resources = { sockets := kept state.rounds, epolls := 4 * state.rounds.length }) ∧
      Reachable (step messageSize) Unrestricted {} state.forwarder := by
  obtain ⟨dst, src, holdings⟩ := holdings_of_reachable reached
  have counted := epolls_of_reachable reached
  refine ⟨?_, ?_, ?_, forwarder_of_reachable reached⟩
  · rw [holdings.sockets, List.append_assoc, List.append_assoc]
    exact List.prefix_append _ _
  · intro sock member
    rw [holdings.sockets] at member
    simp only [List.mem_append, or_assoc] at member
    rcases member with earlier | ofDst | ofSrc | accepted
    · exact .inl earlier
    · exact .inr (.inl (mem_held holdings.dstHeld ofDst))
    · exact .inr (.inr (.inl (mem_held holdings.srcHeld ofSrc)))
    · exact .inr (.inr (.inr (mem_left accepted)))
  · intro between
    have placed := holdings.placed
    have epolls : state.resources.epolls = 4 * state.rounds.length := by
      rcases between with here | here <;> simpa [here, RoundPosition.epolls] using counted (by simp [here])
    obtain ⟨rfl, rfl, -, -, empty⟩ : dst = [] ∧ src = [] ∧ state.dst = srtInvalidSock ∧ state.src = srtInvalidSock ∧
        state.round = {} := by
      rcases between with here | here <;> simpa [Placed, here] using placed
    have sockets : state.resources.sockets = kept state.rounds := by
      simpa [empty, Round.left] using holdings.sockets
    rw [← sockets, ← epolls]

def roundEvents (dst src accepted : SrtSocket) : List RoundEvent :=
  let poll (direction : Direction) (sock : SrtSocket) : RoundEvent :=
    .route direction (.poll { epollRes := 1, sock := sock, recvRes := -1, error := .econnlost })
  let check (direction : Direction) : RoundEvent := .route direction .check
  [.main, .construct true true, .construct true true, .establish { bindsock := dst }, .establish { bindsock := src },
    .main, .accept 1 accepted] ++
  [check .dstToSrc, check .dstToSrc, poll .dstToSrc dst, check .dstToSrc, check .dstToSrc] ++
  [check .srcToDst, check .srcToDst, check .srcToDst, check .srcToDst] ++
  [.main, .main, .main, .main]

theorem rounds_leave_accepted_sockets_open_twice :
    ∃ state : ForwardRun, Reachable (ForwardRun.step 1456) Lawful {} state ∧
      state.resources = { sockets := [12, 22], epolls := 8 } := by
  let events := roundEvents 10 11 12 ++ roundEvents 20 21 22
  have ended : (run (ForwardRun.step 1456) {} events).map (fun state => (state.position, state.rounds)) =
      some (.condition, [⟨some 12, false⟩, ⟨some 22, false⟩]) := by decide
  obtain ⟨state, ran, same⟩ := Option.map_eq_some_iff.mp ended
  obtain ⟨here, rounds⟩ := Prod.mk.injEq _ _ _ _ ▸ same
  have reached : Reachable (ForwardRun.step 1456) Lawful {} state :=
    Reachable.initial.run events (by decide) ran
  obtain ⟨-, -, between, -⟩ := rounds_leave_accepted_sockets_open 1456 state reached
  refine ⟨state, reached, ?_⟩
  rw [between (.inl here), rounds]
  rfl

end XTransmit.Forwarding
