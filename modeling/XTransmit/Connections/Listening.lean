import XTransmit.Connections.CreateConnection
import XTransmit.Shared.Effects
import XTransmit.Shared.Transition
import Mathlib.Data.List.Nodup
import Mathlib.Logic.Function.Iterate

set_option autoImplicit false

namespace XTransmit.Connections

open Effects Transition

structure Branch where
  make : SocketM Unit
  cast : SocketKind → Bool
  accept : SocketKind → Bool
  keep : SocketKind → Bool
  establish : Bool → SocketObject → SocketM SocketObject

def Branch.call (branch : Branch) (faults : Faults) : SocketM SocketObject := do
  let isListening := (← get).listeningSock.isSome
  if !isListening then branch.make
  let socket ← listeningAs branch.cast
  let accept := branch.accept socket.kind
  if accept && !isListening then socket.listen faults
  let connection ← branch.establish accept socket
  if !branch.keep socket.kind then resetListening
  return connection

def opened (kind : SocketKind) (state : ConnectState) : ConnectState :=
  { listeningSock := some ⟨state.nextId, kind⟩
    nextId := state.nextId + 1
    log := state.log ++ [.created state.nextId] }

def established (accept : Bool) (socket : SocketObject) (state : ConnectState) : ConnectState :=
  if accept then { state with nextId := state.nextId + 1, log := state.log ++ [.accepted socket.id] }
  else { state with log := state.log ++ [.connected socket.id] }

theorem performs_returns {fault : Option String} {event : SocketEvent} {state next : ConnectState} {value : Unit}
    (returned : Returns (performs fault event) state value next) :
    next = { state with log := state.log ++ [event] } := by
  cases fault with
  | none => exact (returns_modify.mp returned).symm
  | some what => exact absurd returned not_returns_throw

theorem freshId_returns {state next : ConnectState} {id : Nat} (returned : Returns freshId state id next) :
    id = state.nextId ∧ next = { state with nextId := state.nextId + 1 } := by
  cases returned
  exact ⟨rfl, rfl⟩

theorem makeListening_returns {faults : Faults} {kind : SocketKind} {state next : ConnectState} {value : Unit}
    (returned : Returns (makeListening faults kind) state value next) : next = opened kind state := by
  obtain ⟨id, numbered, fresh, constructs⟩ := returns_bind.mp returned
  obtain ⟨_, created, performed, stores⟩ := returns_bind.mp constructs
  obtain ⟨rfl, rfl⟩ := freshId_returns fresh
  rw [performs_returns performed] at stores
  exact (returns_modify.mp stores).symm

theorem acceptOrConnect_returns {faults : Faults} {accept : Bool} {socket connection : SocketObject}
    {state next : ConnectState} (returned : Returns (acceptOrConnect faults accept socket) state connection next) :
    next = established accept socket state := by
  cases accept with
  | true =>
      obtain ⟨_, middle, performed, numbers⟩ := returns_bind.mp returned
      obtain ⟨id, numbered, fresh, done⟩ := returns_bind.mp numbers
      rw [← (returns_pure.mp done).2, (freshId_returns fresh).2, performs_returns performed]
      rfl
  | false =>
      obtain ⟨_, middle, performed, done⟩ := returns_bind.mp returned
      rw [← (returns_pure.mp done).2, performs_returns performed]
      rfl

theorem listeningAs_returns {cast : SocketKind → Bool} {socket : SocketObject} {state next : ConnectState}
    (returned : Returns (listeningAs cast) state socket next) :
    state.listeningSock = some socket ∧ next = state := by
  obtain ⟨found, same, got, casts⟩ := returns_bind.mp returned
  obtain ⟨rfl, rfl⟩ := returns_get.mp got
  split at casts
  next listening held =>
    split at casts
    next =>
      obtain ⟨rfl, rfl⟩ := returns_pure.mp casts
      exact ⟨held, rfl⟩
    next => exact absurd casts not_returns_throw
  next => exact absurd casts not_returns_throw

def withListen (accept : Bool) (socket : SocketObject) (state : ConnectState) : ConnectState :=
  if accept then { state with log := state.log ++ [.listened socket.id] } else state

def settled (keep : Bool) (state : ConnectState) : ConnectState :=
  if keep then state else { state with listeningSock := none }

def afterReturn (accept keep : Bool) (kind : SocketKind) (state : ConnectState) : ConnectState :=
  match state.listeningSock with
  | some socket => settled keep (established accept socket state)
  | none =>
      let socket : SocketObject := ⟨state.nextId, kind⟩
      settled keep (established accept socket (withListen accept socket (opened kind state)))

def Ready (kind : SocketKind) (state : ConnectState) : Prop :=
  ∀ socket, state.listeningSock = some socket → socket.kind = kind

structure Branch.Lawful (branch : Branch) (kind : SocketKind) : Prop where
  makes : ∀ state next value, Returns branch.make state value next → next = opened kind state
  establishes : ∀ accept socket state connection next,
    Returns (branch.establish accept socket) state connection next → next = established accept socket state

theorem Branch.finish_returns {branch : Branch} {kind : SocketKind} (lawful : branch.Lawful kind) {accept keep : Bool}
    {socket connection : SocketObject} {state next : ConnectState}
    (returned : Returns (do
      let connection ← branch.establish accept socket
      if !keep then resetListening
      return connection) state connection next) :
    next = settled keep (established accept socket state) := by
  obtain ⟨made, middle, establishing, settles⟩ := returns_bind.mp returned
  rw [← lawful.establishes _ _ _ _ _ establishing]
  cases keep with
  | true => exact (returns_pure.mp settles).2.symm
  | false =>
      obtain ⟨_, dropped, drops, done⟩ := returns_bind.mp settles
      rw [← (returns_pure.mp done).2]
      exact (returns_modify.mp drops).symm

theorem Branch.call_returns {branch : Branch} {kind : SocketKind} (lawful : branch.Lawful kind) {faults : Faults}
    {state next : ConnectState} {connection : SocketObject} (ready : Ready kind state)
    (returned : Returns (branch.call faults) state connection next) :
    next = afterReturn (branch.accept kind) (branch.keep kind) kind state := by
  obtain ⟨found, same, got, continues⟩ := returns_bind.mp returned
  obtain ⟨rfl, rfl⟩ := returns_get.mp got
  unfold afterReturn
  cases held : state.listeningSock with
  | some socket =>
      simp only [held, Option.isSome_some, Bool.not_true, Bool.false_eq_true, if_false, Bool.and_false] at continues
      obtain ⟨listening, middle, cast, finishes⟩ := returns_bind.mp continues
      obtain ⟨here, rfl⟩ := listeningAs_returns cast
      cases held.symm.trans here
      rw [ready socket held] at finishes
      exact finish_returns lawful finishes
  | none =>
      simp only [held, Option.isSome_none, Bool.not_false, if_true, Bool.and_true] at continues
      obtain ⟨_, made, makes, uses⟩ := returns_bind.mp continues
      obtain ⟨listening, middle, cast, finishes⟩ := returns_bind.mp uses
      obtain ⟨here, rfl⟩ := listeningAs_returns cast
      cases lawful.makes _ _ _ makes
      cases here
      simp only at finishes
      cases accepts : branch.accept kind with
      | true =>
          rw [accepts, if_pos rfl] at finishes
          obtain ⟨_, listened, listens, establishes⟩ := returns_bind.mp finishes
          rw [finish_returns lawful establishes, performs_returns listens]
          rfl
      | false =>
          rw [accepts, if_neg (by simp)] at finishes
          exact finish_returns lawful finishes

def tcpBranch (faults : Faults) (uri : Uri) : Branch where
  make := makeListening faults (.tcp uri.host)
  cast := SocketKind.isTcp
  accept := fun kind => !kind.isCaller
  keep := SocketKind.isCaller
  establish := fun accept socket =>
    tryCatch (acceptOrConnect faults accept socket) fun stop => do resetListening; throw stop

def srtBranch (faults : Faults) (library : SrtLibrary) (uri : Uri) : Branch where
  make := makeSrt faults library uri
  cast := SocketKind.isSrt
  accept := fun kind => kind.mode = .listener
  keep := fun kind => kind.mode = .listener
  establish := fun accept socket =>
    tryCatch (acceptOrConnect faults accept socket) fun stop => do resetListening; throw stop

def groupBranch (faults : Faults) (library : SrtLibrary) (uris : List Uri) : Branch where
  make := makeGroup faults library uris
  cast := SocketKind.isSrtGroup
  accept := fun kind => kind.mode = .listener
  keep := fun kind => kind.mode = .listener
  establish := acceptOrConnect faults

theorem createTcpConnection_eq (faults : Faults) (uri : Uri) :
    createTcpConnection faults uri = (tcpBranch faults uri).call faults := rfl

theorem createSrtConnection_eq (faults : Faults) (library : SrtLibrary) (uri : Uri) :
    createSrtConnection faults library uri = (srtBranch faults library uri).call faults := by
  simp [createSrtConnection, Branch.call, srtBranch]

theorem createGroupConnection_eq (faults : Faults) (library : SrtLibrary) (uris : List Uri) :
    createGroupConnection faults library uris = (groupBranch faults library uris).call faults := by
  simp [createGroupConnection, Branch.call, groupBranch]

theorem rethrow_returns {stop : Stop} {state next : ConnectState} {connection : SocketObject} :
    ¬ Returns (do resetListening; throw stop : SocketM SocketObject) state connection next := by
  intro returned
  obtain ⟨_, middle, -, throws⟩ := returns_bind.mp returned
  exact not_returns_throw throws

theorem guarded_returns {faults : Faults} (accept : Bool) (socket : SocketObject) (state : ConnectState)
    (connection : SocketObject) (next : ConnectState)
    (returned : Returns (tryCatch (acceptOrConnect faults accept socket) fun stop => do resetListening; throw stop)
      state connection next) : next = established accept socket state :=
  acceptOrConnect_returns ((returns_tryCatch fun _ _ _ _ => rethrow_returns).mp returned)

theorem tcpBranch_lawful (faults : Faults) (uri : Uri) : (tcpBranch faults uri).Lawful (.tcp uri.host) where
  makes := fun _ _ _ => makeListening_returns
  establishes := guarded_returns

theorem srtBranch_lawful (faults : Faults) (library : SrtLibrary) (uri : Uri) :
    (srtBranch faults library uri).Lawful (.srt (library.interpretMode uri)) where
  makes := by
    intro state next value returned
    simp only [srtBranch, makeSrt] at returned
    split at returned
    next => exact absurd returned not_returns_throw
    next => exact makeListening_returns returned
  establishes := guarded_returns

theorem groupBranch_lawful (faults : Faults) (library : SrtLibrary) (uris : List Uri) :
    (groupBranch faults library uris).Lawful (.srtGroup (validateSrtGroup library .failure uris)) where
  makes := by
    intro state next value returned
    simp only [groupBranch, makeGroup] at returned
    split at returned
    next =>
      obtain ⟨_, _, raised, -⟩ := returns_bind.mp returned
      exact absurd raised not_returns_throw
    next =>
      split at returned
      next =>
        obtain ⟨_, _, raised, -⟩ := returns_bind.mp returned
        exact absurd raised not_returns_throw
      next => exact makeListening_returns returned
  establishes := fun _ _ _ _ _ => acceptOrConnect_returns

inductive Transport where
  | tcp
  | srt
  | srtGroup
deriving DecidableEq

inductive Selects (library : SrtLibrary) : List Uri → Transport → SocketKind → Prop
  | tcp (uri : Uri) (type : uri.type = .tcp) (single : uri.count "grouptype" = 0) :
      Selects library [uri] .tcp (.tcp uri.host)
  | srt (uri : Uri) (type : uri.type = .srt) (single : uri.count "grouptype" = 0) :
      Selects library [uri] .srt (.srt (library.interpretMode uri))
  | srtGroup (uri : Uri) (others : List Uri) (grouped : others ≠ [] ∨ uri.count "grouptype" ≠ 0) :
      Selects library (uri :: others) .srtGroup (.srtGroup (validateSrtGroup library .failure (uri :: others)))

def SocketKind.listener : SocketKind → Bool
  | .tcp host => host = ""
  | .srt mode | .srtGroup mode => mode = .listener
  | .udp => false

-- TCP keeps what the others drop.
def keepsSocket (transport : Transport) (kind : SocketKind) : Bool :=
  if transport = .tcp then !kind.listener else kind.listener

theorem createConnection_returns {library : SrtLibrary} {urls : List Uri} {transport : Transport} {kind : SocketKind}
    (selects : Selects library urls transport kind) {faults : Faults} {state next : ConnectState}
    {connection : SocketObject} (ready : Ready kind state)
    (returned : Returns (createConnection faults library urls) state connection next) :
    next = afterReturn kind.listener (keepsSocket transport kind) kind state := by
  cases selects with
  | tcp uri type single =>
      simp only [createConnection, type, single, ne_eq, not_true_eq_false, or_self, if_false,
        createTcpConnection_eq] at returned
      rw [Branch.call_returns (tcpBranch_lawful faults uri) ready returned]
      simp [tcpBranch, SocketKind.isCaller, SocketKind.listener, keepsSocket]
  | srt uri type single =>
      simp only [createConnection, type, single, ne_eq, not_true_eq_false, or_self, if_false,
        createSrtConnection_eq] at returned
      exact Branch.call_returns (srtBranch_lawful faults library uri) ready returned
  | srtGroup uri others grouped =>
      simp only [createConnection, if_pos grouped, createGroupConnection_eq] at returned
      split at returned
      next => exact Branch.call_returns (groupBranch_lawful faults library _) ready returned
      next => exact absurd returned not_returns_throw

-- A call that returned; one that threw has no successor.
def afterCall (library : SrtLibrary) (urls : List Uri) (state : ConnectState) (faults : Faults) : Option ConnectState :=
  match createConnection faults library urls state with
  | .ok _ next => some next
  | .error _ _ => none

theorem afterReturn_ready {accept keep : Bool} {kind : SocketKind} {state : ConnectState} (ready : Ready kind state) :
    Ready kind (afterReturn accept keep kind state) := by
  unfold afterReturn
  cases held : state.listeningSock with
  | some socket =>
      cases keep with
      | true => cases accept <;> exact ready
      | false => simp [Ready, settled]
  | none =>
      cases keep with
      | true => cases accept <;> simp [Ready, settled, established, withListen, opened]
      | false => simp [Ready, settled]

theorem calls_iterate {library : SrtLibrary} {urls : List Uri} {transport : Transport} {kind : SocketKind}
    (selects : Selects library urls transport kind) (calls : List Faults) {state final : ConnectState}
    (ready : Ready kind state) (succeeded : run (afterCall library urls) state calls = some final) :
    final = (afterReturn kind.listener (keepsSocket transport kind) kind)^[calls.length] state := by
  induction calls generalizing state with
  | nil => exact (Option.some.inj succeeded).symm
  | cons faults rest ih =>
      obtain ⟨next, called, continued⟩ := Option.bind_eq_some_iff.mp succeeded
      unfold afterCall at called
      split at called
      next connection reached returned =>
        cases called
        have moved := createConnection_returns selects ready returned
        rw [ih (moved ▸ afterReturn_ready ready) continued, moved]
        rfl
      next => cases called

namespace SocketEvent

def created? : SocketEvent → Option Nat
  | .created id => some id
  | _ => none

def listened? : SocketEvent → Option Nat
  | .listened id => some id
  | _ => none

def accepted? : SocketEvent → Option Nat
  | .accepted id => some id
  | _ => none

def connected? : SocketEvent → Option Nat
  | .connected id => some id
  | _ => none

end SocketEvent

open SocketEvent

def ListenerProtocol (calls : Nat) (state : ConnectState) : Prop :=
  ∃ socket, state.listeningSock = some socket ∧
    state.log.filterMap created? = [socket.id] ∧ state.log.filterMap listened? = [socket.id] ∧
    state.log.filterMap accepted? = List.replicate calls socket.id ∧ state.log.filterMap connected? = []

structure ConnectProtocol (calls : Nat) (state : ConnectState) : Prop where
  dropped : state.listeningSock = none
  made : (state.log.filterMap created?).length = calls
  fresh : (state.log.filterMap created?).Nodup
  connected : state.log.filterMap connected? = state.log.filterMap created?
  idle : state.log.filterMap listened? = [] ∧ state.log.filterMap accepted? = []

def FollowsProtocol (listener : Bool) (calls : Nat) (state : ConnectState) : Prop :=
  if listener then ListenerProtocol calls state else ConnectProtocol calls state

theorem afterReturn_accept {state : ConnectState} {socket : SocketObject} (held : state.listeningSock = some socket)
    (kind : SocketKind) : afterReturn true true kind state =
      { state with nextId := state.nextId + 1, log := state.log ++ [.accepted socket.id] } := by
  simp [afterReturn, held, settled, established]

theorem afterReturn_connect {state : ConnectState} (dropped : state.listeningSock = none) (kind : SocketKind) :
    afterReturn false false kind state =
      { listeningSock := none
        nextId := state.nextId + 1
        log := state.log ++ [.created state.nextId, .connected state.nextId] } := by
  simp [afterReturn, dropped, settled, established, withListen, opened]

theorem ListenerProtocol.call {calls : Nat} {state : ConnectState} (protocol : ListenerProtocol calls state)
    (kind : SocketKind) : ListenerProtocol (calls + 1) (afterReturn true true kind state) := by
  obtain ⟨socket, held, created, listened, accepted, connected⟩ := protocol
  rw [afterReturn_accept held]
  refine ⟨socket, held, ?_, ?_, ?_, ?_⟩
  · simp [created, created?]
  · simp [listened, listened?]
  · simp [accepted, accepted?, List.replicate_succ']
  · simp [connected, connected?]

theorem listener_iterate (kind : SocketKind) (calls : Nat) :
    ListenerProtocol (calls + 1) ((afterReturn true true kind)^[calls + 1] {}) := by
  induction calls with
  | zero => exact ⟨⟨0, kind⟩, rfl, rfl, rfl, rfl, rfl⟩
  | succ calls ih =>
      rw [Function.iterate_succ_apply']
      exact ih.call kind

def Numbered (state : ConnectState) : Prop := ∀ id ∈ state.log.filterMap created?, id < state.nextId

theorem ConnectProtocol.call {calls : Nat} {state : ConnectState} (protocol : ConnectProtocol calls state)
    (numbered : Numbered state) (kind : SocketKind) :
    ConnectProtocol (calls + 1) (afterReturn false false kind state) ∧
      Numbered (afterReturn false false kind state) := by
  have unused : state.nextId ∉ state.log.filterMap created? := fun member => absurd (numbered _ member) (by simp)
  have made : (state.log ++ [SocketEvent.created state.nextId, .connected state.nextId]).filterMap created? =
      state.log.filterMap created? ++ [state.nextId] := by
    simp [created?]
  rw [afterReturn_connect protocol.dropped]
  constructor
  · constructor
    case dropped => rfl
    case made => rw [made, List.length_append, protocol.made, List.length_singleton]
    case fresh =>
      rw [made]
      exact List.Nodup.append protocol.fresh (List.nodup_singleton _) (List.disjoint_singleton.mpr unused)
    case connected =>
      rw [made, List.filterMap_append, protocol.connected]
      rfl
    case idle => simp [listened?, accepted?, protocol.idle]
  · intro id member
    simp only [made, List.mem_append, List.mem_singleton] at member
    rcases member with earlier | last
    · exact Nat.lt_succ_of_lt (numbered id earlier)
    · exact last ▸ Nat.lt_succ_self _

theorem connect_iterate (kind : SocketKind) (calls : Nat) :
    ConnectProtocol calls ((afterReturn false false kind)^[calls] {}) ∧
      Numbered ((afterReturn false false kind)^[calls] {}) := by
  induction calls with
  | zero => exact ⟨⟨rfl, rfl, List.nodup_nil, rfl, rfl, rfl⟩, by simp [Numbered]⟩
  | succ calls ih =>
      rw [Function.iterate_succ_apply']
      exact ih.1.call ih.2 kind

theorem afterReturn_held (accept keep : Bool) (kind : SocketKind) (state : ConnectState) :
    (afterReturn accept keep kind state).listeningSock.isSome = keep := by
  unfold afterReturn
  cases held : state.listeningSock with
  | some socket => cases keep <;> cases accept <;> simp [settled, established, held]
  | none => cases keep <;> cases accept <;> simp [settled, established, withListen, opened]

theorem not_followsProtocol (kind : SocketKind) (calls : Nat) :
    ¬ FollowsProtocol kind.listener (calls + 1)
      ((afterReturn kind.listener (!kind.listener) kind)^[calls + 1] {}) := by
  rw [Function.iterate_succ_apply']
  have held := afterReturn_held kind.listener (!kind.listener) kind
    ((afterReturn kind.listener (!kind.listener) kind)^[calls] {})
  intro follows
  cases listener : kind.listener with
  | true =>
      rw [listener] at follows held
      obtain ⟨socket, kept, -⟩ := follows
      rw [Bool.not_true] at held kept
      rw [kept] at held
      cases held
  | false =>
      rw [listener] at follows held
      have dropped : (afterReturn false (!false) kind ((afterReturn false (!false) kind)^[calls] {})).listeningSock = none :=
        ConnectProtocol.dropped follows
      rw [dropped] at held
      cases held

theorem listening_protocol_iff (library : SrtLibrary) (urls : List Uri) (transport : Transport) (kind : SocketKind)
    (selects : Selects library urls transport kind) (calls : List Faults) (called : calls ≠ [])
    (final : ConnectState) (succeeded : run (afterCall library urls) {} calls = some final) :
    FollowsProtocol kind.listener calls.length final ↔ transport ≠ .tcp := by
  have reached := calls_iterate selects calls (by simp [Ready]) succeeded
  obtain ⟨count, length⟩ := Nat.exists_eq_succ_of_ne_zero (mt List.length_eq_zero_iff.mp called)
  rw [length] at reached ⊢
  subst reached
  by_cases tcp : transport = .tcp
  · have wrong := not_followsProtocol kind count
    simpa [keepsSocket, tcp] using wrong
  · have keeps : keepsSocket transport kind = kind.listener := by simp [keepsSocket, tcp]
    simp only [tcp, not_false_eq_true, ne_eq, iff_true, keeps]
    cases listener : kind.listener with
    | true => exact listener_iterate kind count
    | false => exact (connect_iterate kind (count + 1)).1

-- The default mode of the library: an empty host listens.
def plainLibrary : SrtLibrary where
  enableBonding := true
  interpretMode := fun uri => if uri.host = "" then .listener else .caller

theorem listening_protocol_iff_two_clients :
    FollowsProtocol true 2
      { listeningSock := some ⟨0, .srt .listener⟩, nextId := 3,
        log := [.created 0, .listened 0, .accepted 0, .accepted 0] } :=
  (listening_protocol_iff plainLibrary [{ type := .srt, proto := "srt", host := "" }] .srt (.srt .listener)
    (.srt { type := .srt, proto := "srt", host := "" } rfl rfl) [{}, {}] (by simp) _ rfl).mpr (by decide)

-- Two clients of a TCP listener, and two connections of a TCP caller.
theorem tcp_breaks_protocol :
    (∃ final, run (afterCall plainLibrary [{ type := .tcp, proto := "tcp", host := "" }]) {} [{}, {}] = some final ∧
      final.log = [.created 0, .listened 0, .accepted 0, .created 2, .listened 2, .accepted 2] ∧
      ¬ FollowsProtocol true 2 final) ∧
    ∃ final, run (afterCall plainLibrary [{ type := .tcp, proto := "tcp", host := "h" }]) {} [{}, {}] = some final ∧
      final.log = [.created 0, .connected 0, .connected 0] ∧ ¬ FollowsProtocol false 2 final := by
  refine ⟨⟨_, rfl, rfl, ?_⟩, _, rfl, rfl, ?_⟩
  · rintro ⟨socket, held, -⟩
    cases held
  · intro follows
    have made := ConnectProtocol.made follows
    cases made

end XTransmit.Connections
