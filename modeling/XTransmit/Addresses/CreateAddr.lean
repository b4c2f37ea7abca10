import XTransmit.Shared.Stoi

set_option autoImplicit false

namespace XTransmit.Addresses

open StdString

inductive Family where
  | unspec
  | inet
  | inet6
  deriving DecidableEq, Repr

inductive IpAddress where
  | v4 (addr : UInt32)
  | v6 (addr : BitVec 128)
  deriving DecidableEq, Repr

inductive NetaddrAny where
  | unspec
  | inet (addr : UInt32) (port : UInt16)
  | inet6 (addr : BitVec 128) (port : UInt16)
  deriving DecidableEq, Repr

namespace NetaddrAny

def family : NetaddrAny → Family
  | .unspec => .unspec
  | .inet _ _ => .inet
  | .inet6 _ _ => .inet6

def size : NetaddrAny → Nat
  | .unspec => 0
  | .inet _ _ => 16
  | .inet6 _ _ => 28

def port : NetaddrAny → Option UInt16
  | .unspec => none
  | .inet _ port => some port
  | .inet6 _ port => some port

def empty : NetaddrAny → Bool
  | .unspec => true
  | .inet addr port => port == 0 && addr == 0
  | .inet6 addr port => port == 0 && addr == 0

end NetaddrAny

def IpAddress.withPort (port : UInt16) : IpAddress → NetaddrAny
  | .v4 addr => .inet addr port
  | .v6 addr => .inet6 addr port

-- `inet_pton` and the first answer of `getaddrinfo`.
structure Resolver where
  inetPton4 : List Char → Option UInt32
  inetPton6 : List Char → Option (BitVec 128)
  getaddrinfo : List Char → Family → Option IpAddress

def Resolver.inetPton (resolver : Resolver) (name : List Char) : Family → Option IpAddress
  | .inet6 => (resolver.inetPton6 name).map .v6
  | .inet => (resolver.inetPton4 name).map .v4
  | .unspec => none

def families (prefFamily : Family) : Family × Family := if prefFamily ≠ .inet then (.inet6, .inet) else (.inet, .inet6)

-- Nothing is thrown: a name that cannot be resolved gives an address without a family.
def createAddr (resolver : Resolver) (name : List Char) (port : UInt16) (prefFamily : Family) : NetaddrAny :=
  if name = [] then
    if prefFamily = .inet6 then .inet6 0 port else .inet 0 port
  else
    let literal := (resolver.inetPton name (families prefFamily).1).or (resolver.inetPton name (families prefFamily).2)
    match literal.or (resolver.getaddrinfo name prefFamily) with
    | some address => address.withPort port
    | none => .unspec

def Resolver.Resolves (resolver : Resolver) (name : List Char) : Prop :=
  name = [] ∨ (resolver.inetPton4 name).isSome ∨ (resolver.inetPton6 name).isSome ∨
    (resolver.getaddrinfo name .unspec).isSome

@[simp] theorem withPort_port (address : IpAddress) (port : UInt16) : (address.withPort port).port = some port := by
  cases address <;> rfl

theorem createAddr_port_iff {resolver : Resolver} {name : List Char} {port : UInt16} :
    (createAddr resolver name port .unspec).port = some port ↔ resolver.Resolves name := by
  by_cases empty : name = []
  · simp [createAddr, Resolver.Resolves, empty, NetaddrAny.port]
  · simp only [createAddr, Resolver.Resolves, families, Resolver.inetPton, empty, ne_eq, reduceCtorEq,
      not_false_eq_true, if_true, if_false, false_or]
    cases six : resolver.inetPton6 name with
    | some addr => simp
    | none =>
        cases four : resolver.inetPton4 name with
        | some addr => simp
        | none =>
            cases answer : resolver.getaddrinfo name .unspec with
            | some address => simp
            | none => simp [NetaddrAny.port]

inductive Mode where
  | caller
  | listener
  | rendezvous
  deriving DecidableEq, Repr

structure SocketUri where
  mode : Mode
  host : List Char
  port : UInt16
  bind : Option (List Char)
  deriving DecidableEq, Repr

/-- What is thrown; only `socket::exception` is caught by `common_run` and `route::run`. -/
inductive Thrown where
  | socketException (what : String)
  | invalidArgument
  | outOfRange
  deriving DecidableEq, Repr

def Thrown.ofStoi : StoiError → Thrown
  | .invalidArgument => .invalidArgument
  | .outOfRange => .outOfRange

def bindIdx (text : List Char) : Option Nat := find [':'] text

def bindIp (text : List Char) : List Char :=
  let bindipport := text.map tolower
  match bindIdx bindipport with
  | none => bindipport
  | some idx => bindipport.take idx

def bindPortText (text : List Char) : Option (List Char) := (bindIdx text).map fun idx => text.drop (idx + 1)

def bindPort (port : UInt16) (text : List Char) : Except StoiError Int :=
  match bindPortText (text.map tolower) with
  | none => .ok port.toNat
  | some portText => stoi portText

def bindAddress (resolver : Resolver) (port : UInt16) (text : List Char) : Except Thrown NetaddrAny :=
  match bindPort port text with
  | .error thrown => .error (.ofStoi thrown)
  | .ok bindport => .ok (createAddr resolver (bindIp text) (UInt16.ofInt bindport) .unspec)

theorem bindPortText_tolower (text : List Char) :
    bindPortText (text.map tolower) = (bindPortText text).map (List.map tolower) := by
  simp only [bindPortText, bindIdx, find_map_tolower (show (':' : Char).toNat < 65 by decide), Option.map_map]
  congr 1
  funext idx
  simp

end XTransmit.Addresses
