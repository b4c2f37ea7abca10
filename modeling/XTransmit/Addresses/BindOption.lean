import XTransmit.Addresses.CreateAddr

set_option autoImplicit false

namespace XTransmit.Addresses

open StdString

structure Endpoint where
  address : NetaddrAny
  nameLen : Nat
  deriving DecidableEq, Repr

-- What the system does: an error of a call before the address is chosen, and its answers to a bind call.
structure System where
  failed : Option String
  refuses : Endpoint → Option String

-- `sizeof * sa` is the size of a `sockaddr`, whatever the family.
def bindMe (address : NetaddrAny) : Endpoint := { address := address, nameLen := 16 }

def srtEndpoint (resolver : Resolver) (uri : SocketUri) : Except Thrown (Option Endpoint) :=
  match uri.bind with
  | some text => (bindAddress resolver uri.port text).map fun saBind => some (bindMe saBind)
  | none =>
      match uri.mode with
      | .rendezvous => .ok (some (bindMe (createAddr resolver [] uri.port .unspec)))
      | .listener => .ok (some (bindMe (createAddr resolver uri.host uri.port .unspec)))
      | .caller => .ok none

-- `host` decides between the requested address and none when the option is missing.
def inetEndpoint (resolver : Resolver) (uri : SocketUri) : Except Thrown (Option Endpoint) :=
  match uri.bind with
  | some text => (bindAddress resolver uri.port text).map fun saBind => some (bindMe saBind)
  | none =>
      if uri.host ≠ [] then .ok none else .ok (some (bindMe (createAddr resolver uri.host uri.port .unspec)))

def construct (chosen : Except Thrown (Option Endpoint)) (what : String → String) (system : System) :
    Except Thrown (Option Endpoint) :=
  match system.failed with
  | some error => .error (.socketException error)
  | none =>
      match chosen with
      | .error thrown => .error thrown
      | .ok none => .ok none
      | .ok (some endpoint) =>
          match system.refuses endpoint with
          | some error => .error (.socketException (what error))
          | none => .ok (some endpoint)

def srtSocket (resolver : Resolver) (system : System) (uri : SocketUri) : Except Thrown (Option Endpoint) :=
  construct (srtEndpoint resolver uri) (fun error => "srt::bind: " ++ error) system

def tcpSocket (resolver : Resolver) (system : System) (uri : SocketUri) : Except Thrown (Option Endpoint) :=
  construct (inetEndpoint resolver uri) (fun _ => "TCP binding has failed") system

def udpSocket (resolver : Resolver) (system : System) (uri : SocketUri) : Except Thrown (Option Endpoint) :=
  construct (inetEndpoint resolver uri) (fun _ => "UDP binding has failed") system

def DenotesPort (uriPort : UInt16) (text : List Char) (port : UInt16) : Prop :=
  match bindPortText text with
  | none => port = uriPort
  | some portText => IsDecimal portText ∧ decimalValue portText = port.toNat

-- Whatever the system does, the port that the text stands for is bound to or `socket::exception` is thrown.
def Reported (socket : Resolver → System → SocketUri → Except Thrown (Option Endpoint)) (resolver : Resolver)
    (uri : SocketUri) (text : List Char) : Prop :=
  ∀ system,
    (∃ port endpoint, DenotesPort uri.port text port ∧
      endpoint = bindMe (createAddr resolver (bindIp text) port .unspec) ∧ endpoint.address.port = some port ∧
      socket resolver system { uri with bind := some text } = .ok (some endpoint)) ∨
    ∃ what, socket resolver system { uri with bind := some text } = .error (.socketException what)

def PortWellFormed (text : List Char) : Prop :=
  ∀ portText ∈ bindPortText text, IsDecimal portText ∧ decimalValue portText ≤ 65535

section Sockets

variable {resolver : Resolver} {uri : SocketUri} {text : List Char}

theorem ofInt_toNat (port : UInt16) : UInt16.ofInt port.toNat = port := by
  have bound := port.toNat_lt
  apply UInt16.toNat.inj
  rw [UInt16.ofInt, UInt16.toNat_ofNat']
  omega

theorem bindPort_wellFormed (wellFormed : PortWellFormed text) (uriPort : UInt16) :
    ∃ port, DenotesPort uriPort text port ∧ bindPort uriPort text = .ok port.toNat := by
  cases found : bindPortText text with
  | none =>
      refine ⟨uriPort, by simp [DenotesPort, found], ?_⟩
      simp [bindPort, bindPortText_tolower, found]
  | some portText =>
      obtain ⟨decimal, fits⟩ := wellFormed portText found
      have value : (UInt16.ofNat (decimalValue portText)).toNat = decimalValue portText :=
        UInt16.toNat_ofNat_of_lt' (by change decimalValue portText < 65536; omega)
      refine ⟨UInt16.ofNat (decimalValue portText), ?_, ?_⟩
      · simp only [DenotesPort, found, value]
        exact ⟨decimal, trivial⟩
      · simp only [bindPort, bindPortText_tolower, found, Option.map_some, map_tolower_decimal decimal, value]
        exact stoi_decimal decimal (by omega)

theorem bindAddress_wellFormed (wellFormed : PortWellFormed text) (uriPort : UInt16) :
    ∃ port, DenotesPort uriPort text port ∧
      bindAddress resolver uriPort text = .ok (createAddr resolver (bindIp text) port .unspec) := by
  obtain ⟨port, denotes, parsed⟩ := bindPort_wellFormed wellFormed uriPort
  refine ⟨port, denotes, ?_⟩
  simp only [bindAddress, parsed, ofInt_toNat]

theorem portWellFormed_of_denotes {uriPort port : UInt16} (denotes : DenotesPort uriPort text port) :
    PortWellFormed text := by
  intro portText found
  simp only [DenotesPort, Option.mem_def.mp found] at denotes
  have bound := port.toNat_lt
  exact ⟨denotes.1, by omega⟩

def permissive : System where
  failed := none
  refuses _ := none

theorem construct_permissive (chosen : Except Thrown (Option Endpoint)) (what : String → String) :
    construct chosen what permissive = chosen := by
  rcases chosen with thrown | _ | endpoint <;> rfl

theorem bindAddress_not_socketException (message : String) :
    bindAddress resolver uri.port text ≠ .error (.socketException message) := by
  unfold bindAddress
  split
  next thrown parsed => cases thrown <;> simp [Thrown.ofStoi]
  next => simp

-- A system may accept the address of an unresolved name, which has no family and no port.
theorem reported_iff {socket : Resolver → System → SocketUri → Except Thrown (Option Endpoint)} {what : String → String}
    (constructed : ∀ system, socket resolver system { uri with bind := some text } =
      construct ((bindAddress resolver uri.port text).map fun saBind => some (bindMe saBind)) what system) :
    Reported socket resolver uri text ↔ PortWellFormed text ∧ resolver.Resolves (bindIp text) := by
  constructor
  · intro reported
    rcases reported permissive with ⟨port, _, denotes, rfl, carried, -⟩ | ⟨message, thrown⟩
    · exact ⟨portWellFormed_of_denotes denotes, createAddr_port_iff.mp carried⟩
    · rw [constructed, construct_permissive] at thrown
      cases chosen : bindAddress resolver uri.port text with
      | ok saBind => simp [chosen, Except.map] at thrown
      | error other =>
          rw [chosen] at thrown
          cases Except.error.inj thrown
          exact absurd chosen (bindAddress_not_socketException message)
  · rintro ⟨wellFormed, resolves⟩ system
    obtain ⟨port, denotes, chosen⟩ := @bindAddress_wellFormed resolver text wellFormed uri.port
    rw [constructed, chosen]
    cases prepared : system.failed with
    | some error => exact .inr ⟨error, by simp [construct, prepared]⟩
    | none =>
        cases answer : system.refuses (bindMe (createAddr resolver (bindIp text) port .unspec)) with
        | some error => exact .inr ⟨what error, by simp [construct, prepared, Except.map, answer]⟩
        | none => exact .inl ⟨port, _, denotes, rfl, createAddr_port_iff.mpr resolves,
            by simp [construct, prepared, Except.map, answer]⟩

end Sockets

theorem bind_option_reported_iff (resolver : Resolver) (uri : SocketUri) (text : List Char) :
    (Reported srtSocket resolver uri text ↔ PortWellFormed text ∧ resolver.Resolves (bindIp text)) ∧
      (Reported tcpSocket resolver uri text ↔ PortWellFormed text ∧ resolver.Resolves (bindIp text)) ∧
      (Reported udpSocket resolver uri text ↔ PortWellFormed text ∧ resolver.Resolves (bindIp text)) :=
  ⟨reported_iff fun _ => rfl, reported_iff fun _ => rfl, reported_iff fun _ => rfl⟩

def loopback : Resolver where
  inetPton4 name := if name = "127.0.0.1".toList then some 0x7f000001 else none
  inetPton6 _ := none
  getaddrinfo _ _ := none

def listenerUri : SocketUri := { mode := .listener, host := [], port := 5000, bind := none }

-- 70000 is bound to as 4464, a port that is no number ends the program, and a name without an address is bound to
-- with no port.
theorem malformed_port_not_reported :
    tcpSocket loopback permissive { listenerUri with bind := some "127.0.0.1:70000".toList } =
        .ok (some (bindMe (.inet 0x7f000001 4464))) ∧
      tcpSocket loopback permissive { listenerUri with bind := some "127.0.0.1:x".toList } = .error .invalidArgument ∧
      tcpSocket loopback permissive { listenerUri with bind := some "nosuchhost:80".toList } =
        .ok (some (bindMe .unspec)) ∧
      ¬Reported tcpSocket loopback listenerUri "127.0.0.1:70000".toList ∧
      ¬Reported tcpSocket loopback listenerUri "127.0.0.1:x".toList ∧
      ¬Reported tcpSocket loopback listenerUri "nosuchhost:80".toList := by
  refine ⟨by decide, by decide, by decide, ?_, ?_, ?_⟩
  · rw [reported_iff fun _ => rfl]
    intro condition
    have bound := (condition.1 "70000".toList (by decide)).2
    revert bound
    decide
  · rw [reported_iff fun _ => rfl]
    intro condition
    have digit := (condition.1 "x".toList (by decide)).1.2 'x' (by decide)
    revert digit
    decide
  · rw [reported_iff fun _ => rfl]
    intro condition
    have resolves := condition.2
    revert resolves
    simp only [Resolver.Resolves]
    decide

end XTransmit.Addresses
