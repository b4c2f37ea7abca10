import Mathlib.Data.List.Basic

set_option autoImplicit false

namespace XTransmit.Connections

inductive UriType where
  | udp
  | tcp
  | srt
  | unknown
deriving DecidableEq

structure Uri where
  type : UriType
  proto : String
  host : String
  parameters : List (String × String) := []

def Uri.count (uri : Uri) (key : String) : Nat := uri.parameters.countP (·.1 == key)

inductive ConnectionMode where
  | failure
  | listener
  | caller
  | rendezvous
deriving DecidableEq

structure SrtLibrary where
  enableBonding : Bool
  interpretMode : Uri → ConnectionMode

inductive SocketKind where
  | udp
  | tcp (host : String)
  | srt (mode : ConnectionMode)
  | srtGroup (mode : ConnectionMode)
deriving DecidableEq

structure SocketObject where
  id : Nat
  kind : SocketKind
deriving DecidableEq

inductive SocketEvent where
  | created (id : Nat)
  | listened (id : Nat)
  | accepted (id : Nat)
  | connected (id : Nat)
deriving DecidableEq

structure ConnectState where
  listeningSock : Option SocketObject := none
  nextId : Nat := 0
  log : List SocketEvent := []

inductive Stop where
  | exception (what : String)
  | nullPointer

-- The exceptions that the operations of one call throw, if they come to it.
structure Faults where
  construct : Option String := none
  listen : Option String := none
  establish : Option String := none

abbrev SocketM := EStateM Stop ConnectState

def raise {α : Type} (what : String) : SocketM α := throw (.exception what)

def performs (fault : Option String) (event : SocketEvent) : SocketM Unit :=
  match fault with
  | some what => raise what
  | none => modify fun state => { state with log := state.log ++ [event] }

def freshId : SocketM Nat :=
  modifyGet fun state => (state.nextId, { state with nextId := state.nextId + 1 })

def resetListening : SocketM Unit := modify fun state => { state with listeningSock := none }

variable (faults : Faults)

def makeListening (kind : SocketKind) : SocketM Unit := do
  let id ← freshId
  performs faults.construct (.created id)
  modify fun state => { state with listeningSock := some ⟨id, kind⟩ }

def SocketObject.listen (socket : SocketObject) : SocketM Unit := performs faults.listen (.listened socket.id)

-- The object of an accepted connection comes from another constructor, which keeps only a group's mode.
def SocketKind.accepted : SocketKind → SocketKind
  | .udp => .udp
  | .tcp _ => .tcp ""
  | .srt _ => .srt .failure
  | .srtGroup mode => .srtGroup mode

def SocketObject.accept (socket : SocketObject) : SocketM SocketObject := do
  performs faults.establish (.accepted socket.id)
  let id ← freshId
  return ⟨id, socket.kind.accepted⟩

def SocketObject.connect (socket : SocketObject) : SocketM SocketObject := do
  performs faults.establish (.connected socket.id)
  return socket

def acceptOrConnect (accept : Bool) (socket : SocketObject) : SocketM SocketObject :=
  if accept then socket.accept faults else socket.connect faults

def listeningAs (cast : SocketKind → Bool) : SocketM SocketObject := do
  match (← get).listeningSock with
  | some socket => if cast socket.kind then return socket else throw .nullPointer
  | none => throw .nullPointer

def SocketKind.isTcp : SocketKind → Bool
  | .tcp _ => true
  | _ => false

def SocketKind.isSrt : SocketKind → Bool
  | .srt _ => true
  | _ => false

def SocketKind.isSrtGroup : SocketKind → Bool
  | .srtGroup _ => true
  | _ => false

def SocketKind.isCaller : SocketKind → Bool
  | .tcp host => host ≠ ""
  | .srt mode | .srtGroup mode => mode = .caller
  | .udp => false

def SocketKind.mode : SocketKind → ConnectionMode
  | .srt mode | .srtGroup mode => mode
  | .udp | .tcp _ => .failure

def validateSrtGroup (library : SrtLibrary) : ConnectionMode → List Uri → ConnectionMode
  | prevMode, [] => prevMode
  | prevMode, uri :: rest =>
      if uri.type ≠ .srt then .failure
      else if library.interpretMode uri = .failure then .failure
      else if prevMode ≠ .failure ∧ library.interpretMode uri ≠ prevMode then .failure
      else validateSrtGroup library (library.interpretMode uri) rest

def makeGroup (library : SrtLibrary) (uris : List Uri) : SocketM Unit := do
  let mode := validateSrtGroup library .failure uris
  if mode = .failure then raise "Group mode validation failed!"
  if mode = .rendezvous then raise "Rendezvous mode is not supported by socket groups!"
  makeListening faults (.srtGroup mode)

def makeSrt (library : SrtLibrary) (uri : Uri) : SocketM Unit :=
  if library.interpretMode uri = .failure then raise "Wrong value of option(s): "
  else makeListening faults (.srt (library.interpretMode uri))

def createGroupConnection (library : SrtLibrary) (uris : List Uri) : SocketM SocketObject := do
  let isListening := (← get).listeningSock.isSome
  if !isListening then makeGroup faults library uris
  let socket ← listeningAs SocketKind.isSrtGroup
  let accept : Bool := socket.kind.mode = .listener
  if accept && !isListening then socket.listen faults
  let connection ← acceptOrConnect faults accept socket
  if socket.kind.mode ≠ .listener then resetListening
  return connection

def createTcpConnection (uri : Uri) : SocketM SocketObject := do
  let isListening := (← get).listeningSock.isSome
  if !isListening then makeListening faults (.tcp uri.host)
  let socket ← listeningAs SocketKind.isTcp
  let accept := !socket.kind.isCaller
  if accept && !isListening then socket.listen faults
  let connection ← tryCatch (acceptOrConnect faults accept socket) fun stop => do resetListening; throw stop
  -- The listener is dropped here, and a caller is kept.
  if !socket.kind.isCaller then resetListening
  return connection

def createSrtConnection (library : SrtLibrary) (uri : Uri) : SocketM SocketObject := do
  let isListening := (← get).listeningSock.isSome
  if !isListening then makeSrt faults library uri
  let socket ← listeningAs SocketKind.isSrt
  let accept : Bool := socket.kind.mode = .listener
  if accept && !isListening then socket.listen faults
  let connection ← tryCatch (acceptOrConnect faults accept socket) fun stop => do resetListening; throw stop
  if socket.kind.mode ≠ .listener then resetListening
  return connection

def createConnection (library : SrtLibrary) (parsedUrls : List Uri) : SocketM SocketObject :=
  match parsedUrls with
  | [] => raise "No URL was provided"
  | uri :: others =>
      if others ≠ [] ∨ uri.count "grouptype" ≠ 0 then
        if library.enableBonding then createGroupConnection faults library parsedUrls
        else raise "Use -DENABLE_BONDING=ON to enable socket groups!"
      else
        match uri.type with
        | .udp => do
            let id ← freshId
            performs faults.construct (.created id)
            return ⟨id, .udp⟩
        | .tcp => createTcpConnection faults uri
        | .srt => createSrtConnection faults library uri
        | .unknown => raise ("Unknown protocol '" ++ uri.proto ++ "'.")

end XTransmit.Connections
