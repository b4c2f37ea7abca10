import XTransmit.Addresses.BindOption

set_option autoImplicit false

namespace XTransmit.Addresses

open StdString

-- `create_listeners` for one URI. The option is not looked at.
def createListener (resolver : Resolver) (uri : SocketUri) : Endpoint :=
  let sa := createAddr resolver uri.host uri.port .unspec
  { address := sa, nameLen := sa.size }

-- A text without a port is logged and gives no address.
def tryBind (resolver : Resolver) (uri : SocketUri) (sa : NetaddrAny) : Except Thrown NetaddrAny :=
  match uri.bind with
  | none => .ok .unspec
  | some text =>
      match bindPortText (text.map tolower) with
      | none => .ok .unspec
      | some portText =>
          match stoi portText with
          | .error thrown => .error (.ofStoi thrown)
          | .ok bindport => .ok (createAddr resolver (bindIp text) (UInt16.ofInt bindport) sa.family)

def createCaller (resolver : Resolver) (uri : SocketUri) : Except Thrown (Option Endpoint) :=
  let sa := createAddr resolver uri.host uri.port .unspec
  (tryBind resolver uri sa).map fun bindsa => if bindsa.empty then none else some { address := bindsa, nameLen := sa.size }

def groupEndpoint (resolver : Resolver) (uri : SocketUri) : Except Thrown (Option Endpoint) :=
  match uri.mode with
  | .rendezvous => .error (.socketException "Rendezvous mode is not supported by socket groups!")
  | .listener => .ok (some (createListener resolver uri))
  | .caller => createCaller resolver uri

def Usable (resolver : Resolver) (text : List Char) (port : UInt16) : Prop :=
  createAddr resolver (bindIp text) port .inet = createAddr resolver (bindIp text) port .unspec ∧
    (createAddr resolver (bindIp text) port .inet).empty = false

def SameEndpoint (resolver : Resolver) (uri : SocketUri) : Prop :=
  let target := createAddr resolver uri.host uri.port .unspec
  match uri.mode, uri.bind with
  | .caller, none => True
  | .caller, some text =>
      ∃ portText, bindPortText (text.map tolower) = some portText ∧
        ∀ bindport, stoi portText = .ok bindport → target.family = .inet ∧ Usable resolver text (UInt16.ofInt bindport)
  | .listener, none => target.family = .inet
  | .listener, some text => target.family = .inet ∧ bindAddress resolver uri.port text = .ok target
  | .rendezvous, _ => False

section Endpoints

variable {resolver : Resolver} {uri : SocketUri}

theorem size_eq_sockaddr_iff (address : NetaddrAny) : address.size = 16 ↔ address.family = .inet := by
  cases address <;> simp [NetaddrAny.size, NetaddrAny.family]

theorem bindMe_eq_iff {left right : NetaddrAny} :
    bindMe left = { address := right, nameLen := right.size } ↔ right.family = .inet ∧ left = right := by
  rw [← size_eq_sockaddr_iff]
  simp [bindMe, and_comm, eq_comm]

theorem caller_endpoint_iff {target : NetaddrAny} {text : List Char} {port : UInt16} :
    ((createAddr resolver (bindIp text) port target.family).empty = false ∧
      bindMe (createAddr resolver (bindIp text) port .unspec) =
        { address := createAddr resolver (bindIp text) port target.family, nameLen := target.size }) ↔
      target.family = .inet ∧ Usable resolver text port := by
  by_cases inet : target.family = .inet
  next =>
    have length := (size_eq_sockaddr_iff target).mpr inet
    rw [inet, length, Usable, bindMe, Endpoint.mk.injEq, and_iff_left rfl, and_iff_right rfl, and_comm, eq_comm]
  next =>
    have length : target.size ≠ 16 := fun same => inet ((size_eq_sockaddr_iff target).mp same)
    simp [bindMe, inet, Ne.symm length]

theorem listener_same_iff (listens : uri.mode = .listener) :
    srtEndpoint resolver uri = groupEndpoint resolver uri ↔ SameEndpoint resolver uri := by
  cases option : uri.bind with
  | none => simp [srtEndpoint, groupEndpoint, SameEndpoint, createListener, listens, option, bindMe_eq_iff]
  | some text =>
      cases chosen : bindAddress resolver uri.port text with
      | error thrown => simp [srtEndpoint, groupEndpoint, SameEndpoint, listens, option, chosen, Except.map]
      | ok saBind =>
          simp [srtEndpoint, groupEndpoint, SameEndpoint, createListener, listens, option, chosen, Except.map,
            bindMe_eq_iff]

theorem caller_same_iff (calls : uri.mode = .caller) :
    srtEndpoint resolver uri = groupEndpoint resolver uri ↔ SameEndpoint resolver uri := by
  cases option : uri.bind with
  | none =>
      simp [srtEndpoint, groupEndpoint, SameEndpoint, createCaller, tryBind, calls, option, Except.map, NetaddrAny.empty]
  | some text =>
      cases found : bindPortText (text.map tolower) with
      | none =>
          simp [srtEndpoint, groupEndpoint, SameEndpoint, createCaller, tryBind, calls, option, found, bindAddress,
            bindPort, Except.map, NetaddrAny.empty]
      | some portText =>
          cases parsed : stoi portText with
          | error thrown =>
              simp [srtEndpoint, groupEndpoint, SameEndpoint, createCaller, tryBind, calls, option, found, parsed,
                bindAddress, bindPort, Except.map]
          | ok bindport =>
              simp [srtEndpoint, groupEndpoint, SameEndpoint, createCaller, tryBind, calls, option, found, parsed,
                bindAddress, bindPort, Except.map, caller_endpoint_iff]

theorem rendezvous_differs (meets : uri.mode = .rendezvous) :
    srtEndpoint resolver uri ≠ groupEndpoint resolver uri := by
  cases option : uri.bind with
  | none => simp [srtEndpoint, groupEndpoint, meets, option]
  | some text =>
      cases chosen : bindAddress resolver uri.port text with
      | ok saBind => simp [srtEndpoint, groupEndpoint, meets, option, chosen, Except.map]
      | error thrown =>
          intro same
          simp only [srtEndpoint, groupEndpoint, meets, option, chosen, Except.map, Except.error.injEq] at same
          exact bindAddress_not_socketException _ (chosen.trans (congrArg Except.error same))

end Endpoints

theorem local_endpoint_same_iff (resolver : Resolver) (uri : SocketUri) :
    srtEndpoint resolver uri = groupEndpoint resolver uri ↔ SameEndpoint resolver uri := by
  cases mode : uri.mode with
  | caller => exact caller_same_iff mode
  | listener => exact listener_same_iff mode
  | rendezvous => simp [SameEndpoint, mode, rendezvous_differs mode]

def boundListener : SocketUri := { listenerUri with bind := some "127.0.0.1".toList }

theorem group_listener_ignores_bind :
    srtEndpoint loopback boundListener = .ok (some { address := .inet 0x7f000001 5000, nameLen := 16 }) ∧
      groupEndpoint loopback boundListener = .ok (some { address := .inet 0 5000, nameLen := 16 }) ∧
      srtEndpoint loopback boundListener ≠ groupEndpoint loopback boundListener := by
  decide

end XTransmit.Addresses
