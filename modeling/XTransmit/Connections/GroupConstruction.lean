import XTransmit.Connections.CreateConnection
import XTransmit.Connections.GroupRegistry
import XTransmit.Addresses.GroupBind
import XTransmit.Shared.Effects

set_option autoImplicit false

namespace XTransmit.Connections

open Effects Addresses StdString

structure GroupUri extends Uri where
  portno : UInt16

inductive GroupType where
  | broadcast
  | backup
  deriving DecidableEq, Repr

inductive Handle where
  | socket (id : Nat)
  | group (id : Nat) (type : GroupType)
  | epoll (id : Nat)
  deriving DecidableEq, Repr

def Handle.id : Handle → Nat
  | .socket id | .group id _ | .epoll id => id

-- The calls whose failure is looked at.
inductive LibraryCall where
  | epollCreate
  | createSocket
  | createGroup
  | setGroupConnect
  | setRcvSyn
  | setSndSyn
  | configurePre (linkIndex : Nat)
  | bind (sock : Handle) (address : Endpoint)
  | epollAddConnect
  | epollAddIo
  deriving DecidableEq, Repr

-- `fails` sees the calls so far, the last one included, and gives the text of the error.
structure GroupLibrary extends SrtLibrary where
  srtOptions : String → Bool
  falseNames : String → Bool
  resolver : Resolver
  fails : List LibraryCall → Option String

structure LibraryState where
  log : List LibraryCall := []
  created : Nat := 0
  opened : List Handle := []
  deriving DecidableEq, Repr

abbrev GroupM := EStateM Thrown LibraryState

def logSrtGroup : String := "SOCKET::SRT_GROUP "

def liftExcept {α : Type} : Except Thrown α → GroupM α
  | .ok value => pure value
  | .error thrown => throw thrown

variable (library : GroupLibrary)

def LibraryCall.place : LibraryCall → String
  | .createGroup => "srt_create_group: "
  | _ => ""

def libraryCall (name : LibraryCall) : GroupM Unit := fun state =>
  match library.fails (state.log ++ [name]) with
  | some error => .error (.socketException (name.place ++ error)) { state with log := state.log ++ [name] }
  | none => .ok () { state with log := state.log ++ [name] }

def openHandle (name : LibraryCall) (handle : Nat → Handle) : GroupM Handle := do
  libraryCall library name
  modifyGet fun state => (handle state.created,
    { state with created := state.created + 1, opened := state.opened ++ [handle state.created] })

def option (uri : GroupUri) (key : String) : Option String := uri.parameters.lookup key

def detectGroupType (uri : GroupUri) : Except Thrown GroupType :=
  match option uri "grouptype" with
  | none => .ok .broadcast
  | some gmode =>
      if gmode = "broadcast" then .ok .broadcast
      else if gmode = "backup" then .ok .backup
      else .error (.socketException (logSrtGroup ++ ": Failed to detect group mode. Value provided: " ++ gmode))

def detectLinkWeight (uri : GroupUri) : Except Thrown Int :=
  match option uri "weight" with
  | none => .ok 0
  | some weightStr =>
      match stoi weightStr.toList with
      | .error .invalidArgument => .error (.socketException (logSrtGroup ++ ": Bad input. weight=" ++ weightStr))
      | .error .outOfRange => .error (.socketException (logSrtGroup ++ ": Integer overflow. weight=" ++ weightStr))
      | .ok weight =>
          if weight < 0 ∨ weight > 32767 then
            .error (.socketException
              (logSrtGroup ++ ": Wrong link weight provided. The allowed value is between 0 and 32767."))
          else .ok weight

def groupOptions : List String := ["bind", "mode", "weight", "grouptype", "blocking"]

def assertOptionsValid (extra : List String) : List (String × String) → Except Thrown Unit
  | [] => .ok ()
  | (key, val) :: rest =>
      if library.srtOptions key || extra.contains key then assertOptionsValid extra rest
      else .error (.socketException ("Invalid URI query option '" ++ key ++ "=" ++ val ++ " (not recognized)!"))

def assertLinksValid : List GroupUri → Except Thrown Unit
  | [] => .ok ()
  | uri :: rest =>
      match assertOptionsValid library groupOptions uri.parameters with
      | .error thrown => .error thrown
      | .ok () => assertLinksValid rest

def blockingMode (uri : GroupUri) : Bool :=
  match option uri "blocking" with
  | none => true
  | some value => !library.falseNames value

structure SrtGroupObject where
  mode : ConnectionMode
  blockingMode : Bool
  epolls : List Handle := []
  bindSocket : Option Handle := none
  listeners : List Handle := []
  targets : List (GroupTarget (Option Endpoint)) := []
  deriving DecidableEq

def configurePre (linkIndex : Nat) : GroupM Unit := do
  libraryCall library .setRcvSyn
  libraryCall library (.configurePre 0)
  if linkIndex ≠ 0 then libraryCall library (.configurePre linkIndex)

-- The result of `SrtConfigurePost` is logged only.
def configurePost : GroupM Unit := do
  libraryCall library .setSndSyn
  libraryCall library .setRcvSyn

def epollAdd (blocking : Bool) : GroupM Unit :=
  if blocking then pure ()
  else do
    libraryCall library .epollAddConnect
    libraryCall library .epollAddIo

def GroupUri.socketUri (uri : GroupUri) : SocketUri :=
  { mode := .caller
    host := uri.host.toList
    port := uri.portno
    bind := (option uri "bind").map String.toList }

def createListeners (blocking : Bool) : Nat → List GroupUri → GroupM (List Handle)
  | _, [] => pure []
  | index, uri :: rest => do
      let sock ← openHandle library .createSocket .socket
      libraryCall library .setGroupConnect
      configurePre library index
      libraryCall library (.bind sock (createListener library.resolver uri.socketUri))
      epollAdd library blocking
      let listeners ← createListeners blocking (index + 1) rest
      return sock :: listeners

def prepareTarget (uri : GroupUri) : Except Thrown (GroupTarget (Option Endpoint)) :=
  let sa := createAddr library.resolver uri.socketUri.host uri.portno .unspec
  match createCaller library.resolver uri.socketUri with
  | .error thrown => .error thrown
  | .ok source =>
      match detectLinkWeight uri with
      | .error thrown => .error thrown
      | .ok weight => .ok {
          srcaddr := source
          peeraddr := some { address := sa, nameLen := sa.size }
          weight := UInt16.ofInt weight }

def prepareTargets : List GroupUri → GroupM (List (GroupTarget (Option Endpoint)))
  | [] => pure []
  | uri :: rest => do
      let target ← liftExcept (prepareTarget library uri)
      let targets ← prepareTargets rest
      return target :: targets

def createCallers (blocking : Bool) (uris : List GroupUri) (gtype : GroupType) :
    GroupM (Handle × List (GroupTarget (Option Endpoint))) := do
  let group ← openHandle library .createGroup (.group · gtype)
  configurePre library 0
  configurePost library
  let targets ← prepareTargets library uris
  epollAdd library blocking
  return (group, targets)

def createEpolls (blocking : Bool) : GroupM (List Handle) :=
  if blocking then pure []
  else do
    let epollConnect ← openHandle library .epollCreate .epoll
    let epollIo ← openHandle library .epollCreate .epoll
    return [epollConnect, epollIo]

def constructMembers (mode : ConnectionMode) (first : GroupUri) (uris : List GroupUri) : GroupM SrtGroupObject := do
  liftExcept (assertLinksValid library uris)
  let gtype ← liftExcept (detectGroupType first)
  let blocking := blockingMode library first
  let epolls ← createEpolls library blocking
  if mode = .listener then
    let listeners ← createListeners library blocking 0 uris
    return { mode := mode, blockingMode := blocking, epolls := epolls, listeners := listeners }
  else
    let (group, targets) ← createCallers library blocking uris gtype
    return { mode := mode, blockingMode := blocking, epolls := epolls, bindSocket := some group, targets := targets }

-- Without a URI the validation fails.
def construct : List GroupUri → GroupM SrtGroupObject
  | [] => throw (.socketException "Group mode validation failed!")
  | first :: others =>
      let mode := validateSrtGroup library.toSrtLibrary .failure ((first :: others).map GroupUri.toUri)
      if mode = .failure then throw (.socketException "Group mode validation failed!")
      else if mode = .rendezvous then throw (.socketException "Rendezvous mode is not supported by socket groups!")
      else constructMembers library mode first (first :: others)

def closeHandle (state : LibraryState) (handle : Handle) : LibraryState :=
  { state with opened := state.opened.erase handle }

def SrtGroupObject.handles (group : SrtGroupObject) : List Handle :=
  group.epolls ++ group.listeners ++ group.bindSocket.toList

def destroy (group : SrtGroupObject) (state : LibraryState) : LibraryState := group.handles.foldl closeHandle state

def LibraryCall.bound : LibraryCall → Option (Handle × Endpoint)
  | .bind sock address => some (sock, address)
  | _ => none

def LibraryState.binds (state : LibraryState) : List (Handle × Endpoint) := state.log.filterMap LibraryCall.bound

def listenerBinds (listeners : List Handle) (uris : List GroupUri) : List (Handle × Endpoint) :=
  listeners.zip (uris.map fun uri => createListener library.resolver uri.socketUri)

section Handles

variable {library} {state middle next : LibraryState}

-- Handles are numbered as they are created, so that all that were created in between are open: `handles`.
structure Opened (state next : LibraryState) (handles : List Handle) (binds : List (Handle × Endpoint)) : Prop where
  opened : next.opened = state.opened ++ handles
  created : next.created = state.created + handles.length
  numbered : handles.map Handle.id = List.range' state.created handles.length
  bound : next.binds = state.binds ++ binds

theorem Opened.refl (state : LibraryState) : Opened state state [] [] := ⟨by simp, rfl, rfl, by simp⟩

theorem Opened.trans {before after : List Handle} {earlier later : List (Handle × Endpoint)}
    (first : Opened state middle before earlier) (second : Opened middle next after later) :
    Opened state next (before ++ after) (earlier ++ later) where
  opened := by rw [second.opened, first.opened, List.append_assoc]
  created := by rw [second.created, first.created, List.length_append, Nat.add_assoc]
  numbered := by
    rw [List.map_append, first.numbered, second.numbered, first.created, List.length_append, List.range'_append_1]
  bound := by rw [second.bound, first.bound, List.append_assoc]

theorem logged_opened (state : LibraryState) (name : LibraryCall) :
    Opened state { state with log := state.log ++ [name] } [] name.bound.toList where
  opened := by simp
  created := rfl
  numbered := rfl
  bound := by cases name <;> simp [LibraryState.binds, LibraryCall.bound]

theorem created_opened {handle : Nat → Handle} (numbered : ∀ id, (handle id).id = id) (state : LibraryState) :
    Opened state { state with created := state.created + 1, opened := state.opened ++ [handle state.created] }
      [handle state.created] [] :=
  ⟨rfl, rfl, by simp [numbered], by simp [LibraryState.binds]⟩

theorem libraryCall_opened {name : LibraryCall} {value : Unit}
    (returned : Returns (libraryCall library name) state value next) :
    Opened state next [] name.bound.toList := by
  unfold Returns libraryCall at returned
  split at returned
  next => cases returned
  next =>
    cases returned
    exact logged_opened state name

theorem openHandle_opened {name : LibraryCall} {handle : Nat → Handle} {value : Handle} (unbound : name.bound = none)
    (numbered : ∀ id, (handle id).id = id) (returned : Returns (openHandle library name handle) state value next) :
    Opened state next [value] [] := by
  obtain ⟨_, middle, called, returned⟩ := returns_bind.mp returned
  have before := libraryCall_opened called
  rw [unbound] at before
  cases returned
  exact before.trans (created_opened numbered middle)

theorem liftExcept_returns {α : Type} {result : Except Thrown α} {value : α}
    (returned : Returns (liftExcept result) state value next) : result = .ok value ∧ next = state := by
  cases result with
  | ok value' =>
      obtain ⟨same, kept⟩ := returns_pure.mp returned
      exact ⟨congrArg Except.ok same, kept.symm⟩
  | error thrown => exact absurd returned not_returns_throw

theorem configurePre_opened {linkIndex : Nat} {value : Unit}
    (returned : Returns (configurePre library linkIndex) state value next) : Opened state next [] [] := by
  obtain ⟨_, first, called, returned⟩ := returns_bind.mp returned
  obtain ⟨_, second, common, returned⟩ := returns_bind.mp returned
  have both := (libraryCall_opened called).trans (libraryCall_opened common)
  split at returned
  next => exact both.trans (libraryCall_opened returned)
  next =>
    obtain ⟨-, rfl⟩ := returns_pure.mp returned
    exact both

theorem configurePost_opened {value : Unit} (returned : Returns (configurePost library) state value next) :
    Opened state next [] [] := by
  obtain ⟨_, middle, called, returned⟩ := returns_bind.mp returned
  exact (libraryCall_opened called).trans (libraryCall_opened returned)

theorem epollAdd_opened {blocking : Bool} {value : Unit} (returned : Returns (epollAdd library blocking) state value next) :
    Opened state next [] [] := by
  unfold epollAdd at returned
  split at returned
  next =>
    obtain ⟨-, rfl⟩ := returns_pure.mp returned
    exact .refl _
  next =>
    obtain ⟨_, middle, called, returned⟩ := returns_bind.mp returned
    exact (libraryCall_opened called).trans (libraryCall_opened returned)

theorem createListeners_opened {blocking : Bool} {index : Nat} {uris : List GroupUri} {listeners : List Handle}
    (returned : Returns (createListeners library blocking index uris) state listeners next) :
    Opened state next listeners (listenerBinds library listeners uris) ∧ listeners.length = uris.length := by
  induction uris generalizing index listeners state with
  | nil =>
      obtain ⟨rfl, rfl⟩ := returns_pure.mp returned
      exact ⟨.refl _, rfl⟩
  | cons uri rest ih =>
      obtain ⟨sock, made, opened, returned⟩ := returns_bind.mp returned
      obtain ⟨_, flagged, called, returned⟩ := returns_bind.mp returned
      obtain ⟨_, configured, configure, returned⟩ := returns_bind.mp returned
      obtain ⟨_, bound, binding, returned⟩ := returns_bind.mp returned
      obtain ⟨_, polled, added, returned⟩ := returns_bind.mp returned
      obtain ⟨others, last, later, returned⟩ := returns_bind.mp returned
      obtain ⟨rfl, rfl⟩ := returns_pure.mp returned
      obtain ⟨rest, length⟩ := ih later
      have one := (((openHandle_opened rfl (fun _ => rfl) opened).trans (libraryCall_opened called)).trans
        (configurePre_opened configure)).trans ((libraryCall_opened binding).trans (epollAdd_opened added))
      exact ⟨one.trans rest, by simp [length]⟩

theorem prepareTargets_opened {uris : List GroupUri} {targets : List (GroupTarget (Option Endpoint))}
    (returned : Returns (prepareTargets library uris) state targets next) :
    next = state ∧ List.Forall₂ (fun uri target => prepareTarget library uri = .ok target) uris targets := by
  induction uris generalizing targets state with
  | nil =>
      obtain ⟨rfl, rfl⟩ := returns_pure.mp returned
      exact ⟨rfl, .nil⟩
  | cons uri rest ih =>
      obtain ⟨target, middle, prepared, returned⟩ := returns_bind.mp returned
      obtain ⟨others, last, later, returned⟩ := returns_bind.mp returned
      obtain ⟨rfl, rfl⟩ := returns_pure.mp returned
      obtain ⟨accepted, rfl⟩ := liftExcept_returns prepared
      obtain ⟨rfl, rest⟩ := ih later
      exact ⟨rfl, .cons accepted rest⟩

theorem createCallers_opened {blocking : Bool} {uris : List GroupUri} {gtype : GroupType}
    {result : Handle × List (GroupTarget (Option Endpoint))}
    (returned : Returns (createCallers library blocking uris gtype) state result next) :
    Opened state next [result.1] [] ∧
      List.Forall₂ (fun uri target => prepareTarget library uri = .ok target) uris result.2 := by
  obtain ⟨group, made, opened, returned⟩ := returns_bind.mp returned
  obtain ⟨_, configured, configure, returned⟩ := returns_bind.mp returned
  obtain ⟨_, inherited, post, returned⟩ := returns_bind.mp returned
  obtain ⟨targets, prepared, preparing, returned⟩ := returns_bind.mp returned
  obtain ⟨_, polled, added, returned⟩ := returns_bind.mp returned
  obtain ⟨rfl, rfl⟩ := returns_pure.mp returned
  obtain ⟨rfl, each⟩ := prepareTargets_opened preparing
  have one := ((openHandle_opened rfl (fun _ => rfl) opened).trans (configurePre_opened configure)).trans
    ((configurePost_opened post).trans (epollAdd_opened added))
  exact ⟨one, each⟩

theorem createEpolls_opened {blocking : Bool} {epolls : List Handle}
    (returned : Returns (createEpolls library blocking) state epolls next) : Opened state next epolls [] := by
  unfold createEpolls at returned
  split at returned
  next =>
    obtain ⟨rfl, rfl⟩ := returns_pure.mp returned
    exact .refl _
  next =>
    obtain ⟨epollConnect, middle, first, returned⟩ := returns_bind.mp returned
    obtain ⟨epollIo, last, second, returned⟩ := returns_bind.mp returned
    obtain ⟨rfl, rfl⟩ := returns_pure.mp returned
    exact (openHandle_opened rfl (fun _ => rfl) first).trans (openHandle_opened rfl (fun _ => rfl) second)

theorem constructMembers_opened {mode : ConnectionMode} {first : GroupUri} {uris : List GroupUri} {group : SrtGroupObject}
    (returned : Returns (constructMembers library mode first uris) state group next) :
    ∃ binds, Opened state next group.handles binds ∧ group.mode = mode ∧ assertLinksValid library uris = .ok () ∧
      (mode = .listener → group.listeners.length = uris.length ∧ binds = listenerBinds library group.listeners uris ∧
        group.targets = []) ∧
      (mode ≠ .listener → group.listeners = [] ∧
        List.Forall₂ (fun uri target => prepareTarget library uri = .ok target) uris group.targets) := by
  obtain ⟨_, checked, checking, detects⟩ := returns_bind.mp returned
  obtain ⟨gtype, detected, detecting, polls⟩ := returns_bind.mp detects
  obtain ⟨epolls, polled, polling, makes⟩ := returns_bind.mp polls
  obtain ⟨valid, rfl⟩ := liftExcept_returns checking
  obtain ⟨-, rfl⟩ := liftExcept_returns detecting
  have before := createEpolls_opened polling
  split at makes
  next listening =>
    obtain ⟨listeners, last, making, ended⟩ := returns_bind.mp makes
    obtain ⟨rfl, rfl⟩ := returns_pure.mp ended
    obtain ⟨sockets, length⟩ := createListeners_opened making
    refine ⟨_, ?_, rfl, valid, fun _ => ⟨length, rfl, rfl⟩, fun calling => absurd listening calling⟩
    simpa [SrtGroupObject.handles] using before.trans sockets
  next calling =>
    obtain ⟨⟨socket, targets⟩, last, making, ended⟩ := returns_bind.mp makes
    obtain ⟨rfl, rfl⟩ := returns_pure.mp ended
    obtain ⟨socket, each⟩ := createCallers_opened making
    refine ⟨[], ?_, rfl, valid, fun listening => absurd listening calling, fun _ => ⟨rfl, each⟩⟩
    simpa [SrtGroupObject.handles] using before.trans socket

theorem construct_returns {uris : List GroupUri} {group : SrtGroupObject}
    (returned : Returns (construct library uris) state group next) :
    ∃ first mode, mode = validateSrtGroup library.toSrtLibrary .failure (uris.map GroupUri.toUri) ∧ mode ≠ .failure ∧
      mode ≠ .rendezvous ∧ Returns (constructMembers library mode first uris) state group next := by
  cases uris with
  | nil => exact absurd returned not_returns_throw
  | cons first others =>
      simp only [construct] at returned
      split at returned
      next => exact absurd returned not_returns_throw
      next valid =>
        split at returned
        next => exact absurd returned not_returns_throw
        next supported => exact ⟨first, _, rfl, valid, supported, returned⟩

def LibraryState.WellFormed (state : LibraryState) : Prop := ∀ handle ∈ state.opened, handle.id < state.created

theorem foldl_closeHandle (handles kept : List Handle) (state : LibraryState) (all : state.opened = kept ++ handles)
    (others : ∀ handle ∈ handles, handle ∉ kept) : (handles.foldl closeHandle state).opened = kept := by
  induction handles generalizing state with
  | nil => simpa using all
  | cons handle rest ih =>
      refine ih (closeHandle state handle) ?_ fun other member => others other (List.mem_cons_of_mem _ member)
      rw [closeHandle, all, List.erase_append_right _ (others handle (by simp)), List.erase_cons_head]

theorem destroy_opened (wellFormed : state.WellFormed) {group : SrtGroupObject} {binds : List (Handle × Endpoint)}
    (opened : Opened state next group.handles binds) :
    (destroy group next).opened = state.opened := by
  refine foldl_closeHandle group.handles state.opened next opened.opened fun handle member earlier => ?_
  have below := wellFormed handle earlier
  have number : handle.id ∈ group.handles.map Handle.id := List.mem_map_of_mem member
  rw [opened.numbered, List.mem_range'_1] at number
  omega

end Handles

section Kept

variable {library} {α β : Type}

def Keeps (state next : LibraryState) : Prop := ∃ handles binds, Opened state next handles binds

theorem keeps_refl (state : LibraryState) : Keeps state state := ⟨[], [], .refl state⟩

theorem Keeps.trans {state middle next : LibraryState} : Keeps state middle → Keeps middle next → Keeps state next :=
  fun ⟨_, _, earlier⟩ ⟨_, _, later⟩ => ⟨_, _, earlier.trans later⟩

def Kept (computation : GroupM α) : Prop := Relates Keeps computation

theorem kept_pure (value : α) : Kept (pure value) := relates_pure keeps_refl value

theorem kept_throw (thrown : Thrown) : Kept (throw thrown : GroupM α) := relates_throw keeps_refl thrown

theorem Kept.bind {computation : GroupM α} {continuation : α → GroupM β} (first : Kept computation)
    (rest : ∀ value, Kept (continuation value)) : Kept (computation >>= continuation) :=
  relates_bind (fun _ _ _ earlier later => earlier.trans later) first rest

theorem libraryCall_kept (name : LibraryCall) : Kept (libraryCall library name) := by
  intro state
  unfold finalState libraryCall
  cases library.fails (state.log ++ [name]) with
  | none => exact ⟨_, _, logged_opened state name⟩
  | some error => exact ⟨_, _, logged_opened state name⟩

theorem openHandle_kept (name : LibraryCall) {handle : Nat → Handle} (numbered : ∀ id, (handle id).id = id) :
    Kept (openHandle library name handle) :=
  (libraryCall_kept name).bind fun _ state => ⟨_, _, created_opened numbered state⟩

theorem liftExcept_kept (result : Except Thrown α) : Kept (liftExcept result) := by
  cases result with
  | ok value => exact kept_pure value
  | error thrown => exact kept_throw thrown

theorem configurePre_kept (linkIndex : Nat) : Kept (configurePre library linkIndex) := by
  refine (libraryCall_kept _).bind fun _ => (libraryCall_kept _).bind fun _ => ?_
  split
  next => exact libraryCall_kept _
  next => exact kept_pure _

theorem configurePost_kept : Kept (configurePost library) := (libraryCall_kept _).bind fun _ => libraryCall_kept _

theorem epollAdd_kept (blocking : Bool) : Kept (epollAdd library blocking) := by
  unfold epollAdd
  split
  next => exact kept_pure _
  next => exact (libraryCall_kept _).bind fun _ => libraryCall_kept _

theorem createListeners_kept (blocking : Bool) (uris : List GroupUri) (index : Nat) :
    Kept (createListeners library blocking index uris) := by
  induction uris generalizing index with
  | nil => exact kept_pure _
  | cons uri rest ih =>
      refine (openHandle_kept _ fun _ => rfl).bind fun _ => (libraryCall_kept _).bind fun _ => ?_
      refine (configurePre_kept index).bind fun _ => ?_
      refine (libraryCall_kept _).bind fun _ => (epollAdd_kept blocking).bind fun _ => ?_
      exact (ih (index + 1)).bind fun _ => kept_pure _

theorem prepareTargets_kept (uris : List GroupUri) : Kept (prepareTargets library uris) := by
  induction uris with
  | nil => exact kept_pure _
  | cons uri rest ih => exact (liftExcept_kept _).bind fun _ => ih.bind fun _ => kept_pure _

theorem createCallers_kept (blocking : Bool) (uris : List GroupUri) (gtype : GroupType) :
    Kept (createCallers library blocking uris gtype) := by
  refine (openHandle_kept _ fun _ => rfl).bind fun _ => (configurePre_kept 0).bind fun _ => ?_
  refine configurePost_kept.bind fun _ => ?_
  exact (prepareTargets_kept uris).bind fun _ => (epollAdd_kept blocking).bind fun _ => kept_pure _

theorem createEpolls_kept (blocking : Bool) : Kept (createEpolls library blocking) := by
  unfold createEpolls
  split
  next => exact kept_pure _
  next => exact (openHandle_kept _ fun _ => rfl).bind fun _ => (openHandle_kept _ fun _ => rfl).bind fun _ => kept_pure _

theorem construct_kept (uris : List GroupUri) : Kept (construct library uris) := by
  cases uris with
  | nil => exact kept_throw _
  | cons first others =>
      simp only [construct]
      split
      next => exact kept_throw _
      next =>
        split
        next => exact kept_throw _
        next =>
          refine (liftExcept_kept _).bind fun _ => (liftExcept_kept _).bind fun _ => (createEpolls_kept _).bind fun _ => ?_
          split
          next => exact (createListeners_kept _ _ 0).bind fun _ => kept_pure _
          next => exact (createCallers_kept _ _ _).bind fun _ => kept_pure _

end Kept

theorem groups_close_what_they_open (uris : List GroupUri) (state : LibraryState) (wellFormed : state.WellFormed) :
    (∀ group next, Returns (construct library uris) state group next →
      next.opened = state.opened ++ group.handles ∧ (destroy group next).opened = state.opened) ∧
    (∀ thrown next, construct library uris state = .error thrown next →
      ∃ handles binds, Opened state next handles binds) := by
  constructor
  next =>
    intro group next returned
    obtain ⟨first, mode, -, -, -, made⟩ := construct_returns returned
    obtain ⟨binds, opened, -⟩ := constructMembers_opened made
    exact ⟨opened.opened, destroy_opened wellFormed opened⟩
  next =>
    intro thrown next failed
    have kept := @construct_kept library uris state
    rw [finalState, failed] at kept
    exact kept

def sampleResolver : Resolver := { inetPton4 := fun _ => none, inetPton6 := fun _ => none, getaddrinfo := fun _ _ => none }

def sampleLibrary (secondBind : Option String) : GroupLibrary where
  enableBonding := true
  interpretMode uri := if uri.host = "" then .listener else .caller
  srtOptions key := key == "latency"
  falseNames value := ["0", "no", "off", "false"].contains value
  resolver := sampleResolver
  fails log := if log.countP (fun name => name matches .bind _ _) = 2 then secondBind else none

def groupListener (portno : UInt16) (parameters : List (String × String)) : GroupUri :=
  { type := .srt, proto := "srt", host := "", parameters := parameters, portno := portno }

def twoListeners : List GroupUri := [groupListener 4200 [("blocking", "no")], groupListener 4201 []]

def fourHandles : List Handle := [.epoll 0, .epoll 1, .socket 2, .socket 3]

theorem groups_close_what_they_open_two_listeners :
    (∃ group next, Returns (construct (sampleLibrary none) twoListeners) {} group next ∧
      next.opened = fourHandles ∧ (destroy group next).opened = []) ∧
    ∃ thrown next, construct (sampleLibrary (some "in use")) twoListeners {} = .error thrown next ∧
      next.opened = fourHandles ∧ ∃ handles binds, Opened {} next handles binds := by
  have empty : ({} : LibraryState).WellFormed := by simp [LibraryState.WellFormed]
  constructor
  next =>
    have made : (match construct (sampleLibrary none) twoListeners {} with
      | .ok group _ => some group.handles
      | .error _ _ => none) = some fourHandles := by decide +kernel
    cases result : construct (sampleLibrary none) twoListeners {} with
    | ok group next =>
        rw [result] at made
        obtain ⟨opened, released⟩ :=
          (groups_close_what_they_open (sampleLibrary none) twoListeners {} empty).1 group next result
        exact ⟨group, next, result, opened.trans (Option.some.inj made), released⟩
    | error thrown next =>
        rw [result] at made
        cases made
  next =>
    have failed : (match construct (sampleLibrary (some "in use")) twoListeners {} with
      | .ok _ _ => none
      | .error _ next => some next.opened) = some fourHandles := by decide +kernel
    cases result : construct (sampleLibrary (some "in use")) twoListeners {} with
    | ok group next =>
        rw [result] at failed
        cases failed
    | error thrown next =>
        rw [result] at failed
        exact ⟨thrown, next, rfl, Option.some.inj failed,
          (groups_close_what_they_open (sampleLibrary (some "in use")) twoListeners {} empty).2 thrown next result⟩

structure Accepted (uris : List GroupUri) (state : LibraryState) (group : SrtGroupObject) (next : LibraryState) :
    Prop where
  mode : group.mode = .listener ∨ group.mode = .caller
  uniform : ∀ uri ∈ uris, uri.type = .srt ∧ library.interpretMode uri.toUri = group.mode
  options : ∀ uri ∈ uris, ∀ parameter ∈ uri.parameters,
    library.srtOptions parameter.1 = true ∨ parameter.1 ∈ groupOptions
  listeners : group.mode = .listener → group.listeners.length = uris.length ∧
    next.binds = state.binds ++ listenerBinds library group.listeners uris ∧ group.targets = []
  targets : group.mode = .caller → group.listeners = [] ∧
    List.Forall₂ (fun uri target => prepareTarget library uri = .ok target) uris group.targets
  weights : ∀ target ∈ group.targets, target.weight.toNat ≤ 32767

section Accepted

variable {library}

theorem validateSrtGroup_uniform {srtLibrary : SrtLibrary} {uris : List Uri} {prevMode mode : ConnectionMode}
    (result : validateSrtGroup srtLibrary prevMode uris = mode) (valid : mode ≠ .failure) :
    (prevMode ≠ .failure → prevMode = mode) ∧ ∀ uri ∈ uris, uri.type = .srt ∧ srtLibrary.interpretMode uri = mode := by
  induction uris generalizing prevMode with
  | nil =>
      cases result
      exact ⟨fun _ => rfl, by simp⟩
  | cons uri rest ih =>
      rw [validateSrtGroup] at result
      split at result
      next => exact absurd result.symm valid
      next isSrt =>
        split at result
        next => exact absurd result.symm valid
        next known =>
          split at result
          next => exact absurd result.symm valid
          next agrees =>
            obtain ⟨same, others⟩ := ih result
            have first := same known
            refine ⟨fun given => ?_, fun other member => ?_⟩
            · by_contra different
              exact agrees ⟨given, fun equal => different (equal.symm.trans first)⟩
            · rcases List.mem_cons.mp member with rfl | later
              · exact ⟨not_not.mp isSrt, first⟩
              · exact others other later

theorem assertOptionsValid_ok {extra : List String} {parameters : List (String × String)}
    (valid : assertOptionsValid library extra parameters = .ok ()) :
    ∀ parameter ∈ parameters, library.srtOptions parameter.1 = true ∨ parameter.1 ∈ extra := by
  induction parameters with
  | nil => simp
  | cons parameter rest ih =>
      rw [assertOptionsValid] at valid
      split at valid
      next known =>
        rw [List.forall_mem_cons]
        exact ⟨by simpa using known, ih valid⟩
      next => cases valid

theorem assertLinksValid_ok {uris : List GroupUri} (valid : assertLinksValid library uris = .ok ()) :
    ∀ uri ∈ uris, ∀ parameter ∈ uri.parameters, library.srtOptions parameter.1 = true ∨ parameter.1 ∈ groupOptions := by
  induction uris with
  | nil => simp
  | cons uri rest ih =>
      rw [assertLinksValid] at valid
      split at valid
      next => cases valid
      next recognized =>
        rw [List.forall_mem_cons]
        exact ⟨assertOptionsValid_ok recognized, ih valid⟩

theorem detectLinkWeight_ok {uri : GroupUri} {weight : Int} (detected : detectLinkWeight uri = .ok weight) :
    0 ≤ weight ∧ weight ≤ 32767 := by
  unfold detectLinkWeight at detected
  split at detected
  next =>
    cases detected
    decide
  next =>
    split at detected
    next => cases detected
    next => cases detected
    next =>
      split at detected
      next => cases detected
      next inside =>
        cases detected
        omega

theorem prepareTarget_weight {uri : GroupUri} {target : GroupTarget (Option Endpoint)}
    (prepared : prepareTarget library uri = .ok target) : target.weight.toNat ≤ 32767 := by
  unfold prepareTarget at prepared
  simp only at prepared
  split at prepared
  next => cases prepared
  next =>
    split at prepared
    next => cases prepared
    next weight detected =>
      cases prepared
      have bounds := detectLinkWeight_ok detected
      change (UInt16.ofNat (weight % 2 ^ 16).toNat).toNat ≤ 32767
      rw [UInt16.toNat_ofNat']
      omega

theorem weights_of_prepared {uris : List GroupUri} {targets : List (GroupTarget (Option Endpoint))}
    (each : List.Forall₂ (fun uri target => prepareTarget library uri = .ok target) uris targets) :
    ∀ target ∈ targets, target.weight.toNat ≤ 32767 := by
  induction each with
  | nil => simp
  | cons prepared rest ih =>
      rw [List.forall_mem_cons]
      exact ⟨prepareTarget_weight prepared, ih⟩

end Accepted

theorem accepted_groups_are_uniform (uris : List GroupUri) (state next : LibraryState) (group : SrtGroupObject)
    (returned : Returns (construct library uris) state group next) : Accepted library uris state group next := by
  obtain ⟨first, mode, validated, valid, supported, made⟩ := construct_returns returned
  obtain ⟨binds, opened, rfl, recognized, listening, calling⟩ := constructMembers_opened made
  obtain ⟨-, uniform⟩ := validateSrtGroup_uniform validated.symm valid
  refine ⟨?_, fun uri member => uniform uri.toUri (List.mem_map_of_mem member), assertLinksValid_ok recognized, ?_,
    fun caller => calling (by simp [caller]), ?_⟩
  · cases mode : group.mode with
    | failure => exact absurd mode valid
    | rendezvous => exact absurd mode supported
    | listener => exact .inl rfl
    | caller => exact .inr rfl
  · intro listener
    obtain ⟨length, rfl, none⟩ := listening listener
    exact ⟨length, opened.bound, none⟩
  · by_cases listener : group.mode = .listener
    next => simp [(listening listener).2.2]
    next => exact weights_of_prepared (calling listener).2

def groupCaller (portno : UInt16) (parameters : List (String × String)) : GroupUri :=
  { type := .srt, proto := "srt", host := "peer", parameters := parameters, portno := portno }

def backupCallers : List GroupUri :=
  [groupCaller 4200 [("grouptype", "backup"), ("weight", "50")], groupCaller 4201 [("weight", " 7x")]]

theorem accepted_groups_are_uniform_backup :
    ∃ group next, Returns (construct (sampleLibrary none) backupCallers) {} group next ∧
      group.bindSocket = some (.group 0 .backup) ∧ group.targets.map (fun target => target.weight) = [50, 7] ∧
      Accepted (sampleLibrary none) backupCallers {} group next := by
  have made : (match construct (sampleLibrary none) backupCallers {} with
    | .ok group _ => some (group.bindSocket, group.targets.map fun target => target.weight)
    | .error _ _ => none) = some (some (.group 0 .backup), [50, 7]) := by decide +kernel
  cases result : construct (sampleLibrary none) backupCallers {} with
  | ok group next =>
      rw [result] at made
      obtain ⟨socket, weights⟩ := Prod.mk.injEq _ _ _ _ ▸ Option.some.inj made
      exact ⟨group, next, result, socket, weights,
        accepted_groups_are_uniform (sampleLibrary none) backupCallers {} next group result⟩
  | error thrown next =>
      rw [result] at made
      cases made

end XTransmit.Connections
