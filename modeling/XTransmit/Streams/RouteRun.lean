import XTransmit.Shared.Transition

set_option autoImplicit false

namespace XTransmit.Streams

open Transition

abbrev Chunk := List UInt8

structure RouteConfig where
  messageSize : Nat := 1456
  bidir : Bool := false
  deriving DecidableEq, Repr

inductive LinkPosition where
  | condition
  | reading
  | writing (chunk : Chunk)
  | ended (threw : Bool)
  deriving DecidableEq, Repr

structure Link where
  position : LinkPosition := .condition
  chunks : List Chunk := []
  writes : List (Chunk × Option Int) := []
  deriving DecidableEq, Repr

inductive LinkEvent where
  | test
  | read (answer : Option Chunk)
  | write (answer : Option Int)
  deriving DecidableEq, Repr

-- A write that returns something else than the size is logged, and the loop goes on as behind any other.
def Link.step (config : RouteConfig) (forceBreak : Bool) (link : Link) : LinkEvent → Option Link
  | .test =>
      match link.position with
      | .condition => some { link with position := if forceBreak then .ended false else .reading }
      | _ => none
  | .read answer =>
      match link.position, answer with
      | .reading, none => some { link with position := .ended true }
      | .reading, some chunk =>
          if chunk.length ≤ config.messageSize then
            some { link with
              chunks := link.chunks ++ [chunk]
              position := if chunk.length = 0 then .condition else .writing chunk }
          else none
      | _, _ => none
  | .write answer =>
      match link.position, answer with
      | .writing chunk, none => some { link with writes := link.writes ++ [(chunk, none)], position := .ended true }
      | .writing chunk, some bytesSent =>
          some { link with writes := link.writes ++ [(chunk, some bytesSent)], position := .condition }
      | _, _ => none

inductive RunPosition where
  | forwarding
  | waiting
  | unwinding
  | returned
  | caught
  -- `wait` of a future that belongs to no thread.
  | noState
  deriving DecidableEq, Repr

structure RouteRun where
  forward : Link := {}
  backward : Link := {}
  position : RunPosition := .forwarding
  forceBreak : Bool := false
  deriving DecidableEq, Repr

inductive RouteLabel where
  | raiseBreak
  | forward (event : LinkEvent)
  | backward (event : LinkEvent)
  | main
  deriving DecidableEq, Repr

namespace RouteRun

def afterForward (link : Link) : RunPosition :=
  match link.position with
  | .ended false => .waiting
  | .ended true => .unwinding
  | _ => .forwarding

def backwardEnded (state : RouteRun) : Bool :=
  match state.backward.position with
  | .ended _ => true
  | _ => false

def step (config : RouteConfig) (state : RouteRun) : RouteLabel → Option RouteRun
  | .raiseBreak => some { state with forceBreak := true }
  | .forward event =>
      if state.position = .forwarding then
        (state.forward.step config state.forceBreak event).map fun link =>
          { state with forward := link, position := afterForward link }
      else none
  | .backward event =>
      if config.bidir then
        (state.backward.step config state.forceBreak event).map fun link => { state with backward := link }
      else none
  | .main =>
      match state.position with
      | .waiting =>
          if !config.bidir then some { state with position := .noState }
          else if state.backwardEnded then some { state with position := .returned }
          else none
      | .unwinding =>
          if !config.bidir || state.backwardEnded then some { state with position := .caught } else none
      | _ => none

end RouteRun

section Links

variable {config : RouteConfig} {forceBreak : Bool} {link next : Link} {event : LinkEvent}

def Link.inHand (link : Link) : List Chunk :=
  match link.position with
  | .writing chunk => [chunk]
  | _ => []

def Link.Relayed (link : Link) : Prop :=
  link.writes.map Prod.fst ++ link.inHand = link.chunks.filter fun chunk => chunk.length ≠ 0

inductive LinkMove (config : RouteConfig) (forceBreak : Bool) (link next : Link) : Prop
  | tested (here : link.position = .condition)
      (same : next = { link with position := if forceBreak then .ended false else .reading })
  | readThrew (here : link.position = .reading) (same : next = { link with position := .ended true })
  | spurious (here : link.position = .reading)
      (same : next = { link with chunks := link.chunks ++ [[]], position := .condition })
  | filled (chunk : Chunk) (here : link.position = .reading) (some : chunk.length ≠ 0)
      (fits : chunk.length ≤ config.messageSize)
      (same : next = { link with chunks := link.chunks ++ [chunk], position := .writing chunk })
  | writeThrew (chunk : Chunk) (here : link.position = .writing chunk)
      (same : next = { link with writes := link.writes ++ [(chunk, none)], position := .ended true })
  | written (chunk : Chunk) (bytesSent : Int) (here : link.position = .writing chunk)
      (same : next = { link with writes := link.writes ++ [(chunk, some bytesSent)], position := .condition })

theorem link_move (taken : link.step config forceBreak event = some next) : LinkMove config forceBreak link next := by
  cases event with
  | test =>
      simp only [Link.step] at taken
      split at taken
      next here =>
        cases taken
        exact .tested here rfl
      next => cases taken
  | read answer =>
      simp only [Link.step] at taken
      split at taken
      next here =>
        cases taken
        exact .readThrew here rfl
      next chunk here =>
        split at taken
        next fits =>
          cases taken
          split
          next empty =>
            rw [List.length_eq_zero_iff] at empty
            subst empty
            exact .spurious here rfl
          next some => exact .filled chunk here some fits rfl
        next => cases taken
      next => cases taken
  | write answer =>
      simp only [Link.step] at taken
      split at taken
      next chunk here =>
        cases taken
        exact .writeThrew chunk here rfl
      next chunk bytesSent here =>
        cases taken
        exact .written chunk bytesSent here rfl
      next => cases taken

theorem Link.Relayed.step (relayed : link.Relayed) (move : LinkMove config forceBreak link next) : next.Relayed := by
  unfold Link.Relayed at relayed ⊢
  cases move with
  | tested here same =>
      subst same
      cases forceBreak <;> simpa [Link.inHand, here] using relayed
  | readThrew here same | spurious here same =>
      subst same
      simpa [Link.inHand, here] using relayed
  | filled chunk here some fits same =>
      subst same
      have last : [chunk].filter (fun chunk => chunk.length ≠ 0) = [chunk] := by simpa using some
      simp only [Link.inHand, here, List.append_nil] at relayed
      rw [List.filter_append, last, ← relayed]
      rfl
  | writeThrew chunk here same | written chunk bytesSent here same =>
      subst same
      simp only [Link.inHand, here] at relayed
      simp [Link.inHand, relayed]

def LinkPosition.chunksLeft : LinkPosition → Nat
  | .reading => 1
  | _ => 0

theorem chunksLeft_step (move : LinkMove config true link next) :
    next.chunks.length + next.position.chunksLeft ≤ link.chunks.length + link.position.chunksLeft := by
  cases move with
  | tested here same | readThrew here same | spurious here same | filled _ here _ _ same | writeThrew _ here same
    | written _ _ here same =>
      subst same
      simp [here, LinkPosition.chunksLeft]

end Links

section Runs

variable {config : RouteConfig} {state next : RouteRun} {label : RouteLabel}

inductive RouteMove (config : RouteConfig) (state : RouteRun) (label : RouteLabel) (next : RouteRun) : Prop
  | broke (same : next = { state with forceBreak := true })
  | forwarded (link : Link) (inside : state.position = .forwarding)
      (moved : LinkMove config state.forceBreak state.forward link)
      (same : next = { state with forward := link, position := RouteRun.afterForward link })
  | backwarded (link : Link) (bidir : config.bidir = true)
      (moved : LinkMove config state.forceBreak state.backward link) (same : next = { state with backward := link })
  | lost (here : state.position = .waiting) (oneWay : config.bidir = false)
      (same : next = { state with position := .noState })
  | waited (here : state.position = .waiting) (bidir : config.bidir = true) (ended : state.backwardEnded = true)
      (same : next = { state with position := .returned })
  | unwound (here : state.position = .unwinding) (ended : config.bidir = true → state.backwardEnded = true)
      (same : next = { state with position := .caught })

theorem route_move (taken : state.step config label = some next) : RouteMove config state label next := by
  cases label with
  | raiseBreak =>
      cases taken
      exact .broke rfl
  | forward event =>
      simp only [RouteRun.step] at taken
      split at taken
      next inside =>
        obtain ⟨link, moved, rfl⟩ := Option.map_eq_some_iff.mp taken
        exact .forwarded link inside (link_move moved) rfl
      next => cases taken
  | backward event =>
      simp only [RouteRun.step] at taken
      split at taken
      next bidir =>
        obtain ⟨link, moved, rfl⟩ := Option.map_eq_some_iff.mp taken
        exact .backwarded link bidir (link_move moved) rfl
      next => cases taken
  | main =>
      simp only [RouteRun.step] at taken
      split at taken
      next here =>
        split at taken
        next oneWay =>
          cases taken
          exact .lost here (by simpa using oneWay) rfl
        next bidir =>
          split at taken
          next ended =>
            cases taken
            exact .waited here (by simpa using bidir) ended rfl
          next => cases taken
      next here =>
        split at taken
        next ended =>
          cases taken
          refine .unwound here (fun bidir => ?_) rfl
          simpa [bidir] using ended
        next => cases taken
      next => cases taken

structure Ordered (config : RouteConfig) (state : RouteRun) : Prop where
  forwarding : state.position = .forwarding ↔ ∀ threw, state.forward.position ≠ .ended threw
  broken : state.forward.position = .ended false → state.forceBreak = true
  waiting : state.position = .waiting ∨ state.position = .returned ∨ state.position = .noState →
    state.forward.position = .ended false
  unwinding : state.position = .unwinding ∨ state.position = .caught → state.forward.position = .ended true
  returned : state.position = .returned → config.bidir = true ∧ state.backwardEnded = true
  caught : state.position = .caught → config.bidir = true → state.backwardEnded = true
  noState : state.position = .noState → config.bidir = false
  forward : state.forward.Relayed
  backward : state.backward.Relayed

theorem ended_false_move {forceBreak : Bool} {link later : Link} (move : LinkMove config forceBreak link later)
    (ended : later.position = .ended false) : forceBreak = true := by
  cases move with
  | tested here same =>
      subst same
      cases forceBreak with
      | true => rfl
      | false => cases ended
  | readThrew here same | spurious here same | filled _ here _ _ same | writeThrew _ here same
    | written _ _ here same =>
      subst same
      cases ended

theorem ended_stays {forceBreak : Bool} {link later : Link} {threw : Bool} (ended : link.position = .ended threw)
    (move : LinkMove config forceBreak link later) : False := by
  cases move with
  | tested here | readThrew here | spurious here | filled _ here | writeThrew _ here | written _ _ here =>
      cases ended.symm.trans here

theorem Ordered.forwarded (ordered : Ordered config state) {link : Link}
    (move : LinkMove config state.forceBreak state.forward link) :
    Ordered config { state with forward := link, position := RouteRun.afterForward link } := by
  have broken := ended_false_move move
  have relayed := ordered.forward.step move
  unfold RouteRun.afterForward
  split
  next ended => exact ⟨by simp [ended], broken, by simp [ended], by simp, by simp, by simp, by simp, relayed, ordered.backward⟩
  next ended => exact ⟨by simp [ended], broken, by simp, by simp [ended], by simp, by simp, by simp, relayed, ordered.backward⟩
  next goesOn threw =>
    refine ⟨?_, broken, by simp, by simp, by simp, by simp, by simp, relayed, ordered.backward⟩
    simp only [true_iff]
    intro kind ended
    cases kind with
    | false => exact goesOn ended
    | true => exact threw ended

theorem Ordered.step (ordered : Ordered config state) (taken : state.step config label = some next) :
    Ordered config next := by
  cases route_move taken with
  | broke same =>
      subst same
      exact { ordered with broken := fun _ => rfl }
  | forwarded link inside moved same =>
      subst same
      exact ordered.forwarded moved
  | backwarded link bidir moved same =>
      subst same
      have running : state.backwardEnded = false := by
        unfold RouteRun.backwardEnded
        split
        next threw ended => exact (ended_stays ended moved).elim
        next => rfl
      refine { ordered with returned := ?_, caught := ?_, backward := ordered.backward.step moved }
      · intro here
        cases running.symm.trans (ordered.returned here).2
      · intro here _
        cases running.symm.trans (ordered.caught here bidir)
  | lost here oneWay same =>
      subst same
      have ended := ordered.waiting (.inl here)
      exact ⟨by simp [ended], ordered.broken, fun _ => ended, by simp, by simp, by simp, fun _ => oneWay,
        ordered.forward, ordered.backward⟩
  | waited here bidir ended same =>
      subst same
      have first := ordered.waiting (.inl here)
      exact ⟨by simp [first], ordered.broken, fun _ => first, by simp, fun _ => ⟨bidir, ended⟩, by simp, by simp,
        ordered.forward, ordered.backward⟩
  | unwound here ended same =>
      subst same
      have first := ordered.unwinding (.inl here)
      exact ⟨by simp [first], ordered.broken, by simp, fun _ => first, by simp, fun _ => ended, by simp,
        ordered.forward, ordered.backward⟩

theorem ordered_of_reachable {allowed : RouteRun → RouteLabel → Prop}
    (reached : Reachable (RouteRun.step config) allowed {} state) : Ordered config state := by
  refine reached.invariant (Ordered config) ?_ ?_
  · exact ⟨by simp, by simp, by simp, by simp, by simp, by simp, by simp, rfl, rfl⟩
  · intro state label next ordered _ taken
    exact ordered.step taken

theorem chunksLeft_run (labels : List RouteLabel) (raised : state.forceBreak = true) {final : RouteRun}
    (ran : run (RouteRun.step config) state labels = some final) :
    final.forward.chunks.length + final.forward.position.chunksLeft ≤
        state.forward.chunks.length + state.forward.position.chunksLeft ∧
      final.backward.chunks.length + final.backward.position.chunksLeft ≤
        state.backward.chunks.length + state.backward.position.chunksLeft := by
  have kept := run_invariant labels
    (fun later => later.forceBreak = true ∧
      later.forward.chunks.length + later.forward.position.chunksLeft ≤
        state.forward.chunks.length + state.forward.position.chunksLeft ∧
      later.backward.chunks.length + later.backward.position.chunksLeft ≤
        state.backward.chunks.length + state.backward.position.chunksLeft) ?_
    ⟨raised, Nat.le_refl _, Nat.le_refl _⟩ ran
  · exact kept.2
  · rintro later label - next ⟨raised, first, second⟩ taken
    cases route_move taken with
    | broke same =>
        subst same
        exact ⟨rfl, first, second⟩
    | forwarded link inside moved same =>
        subst same
        rw [raised] at moved
        exact ⟨raised, Nat.le_trans (chunksLeft_step moved) first, second⟩
    | backwarded link bidir moved same =>
        subst same
        rw [raised] at moved
        exact ⟨raised, first, Nat.le_trans (chunksLeft_step moved) second⟩
    | lost here oneWay same | waited here bidir ended same | unwound here ended same =>
        subst same
        exact ⟨raised, first, second⟩

theorem chunksLeft_le (position : LinkPosition) : position.chunksLeft ≤ 1 := by
  cases position <;> simp [LinkPosition.chunksLeft]

end Runs

theorem chunks_are_handed_over_in_order (config : RouteConfig) (state : RouteRun)
    (reached : Reachable (RouteRun.step config) Unrestricted {} state) :
    (∀ link, link = state.forward ∨ link = state.backward →
      link.writes.map Prod.fst ++ link.inHand = link.chunks.filter fun chunk => chunk.length ≠ 0) ∧
    (state.forceBreak = true → ∀ labels final, run (RouteRun.step config) state labels = some final →
      final.forward.chunks.length ≤ state.forward.chunks.length + 1 ∧
        final.backward.chunks.length ≤ state.backward.chunks.length + 1) := by
  have ordered := ordered_of_reachable reached
  constructor
  next =>
    rintro link (rfl | rfl)
    · exact ordered.forward
    · exact ordered.backward
  next =>
    intro raised labels final ran
    obtain ⟨first, second⟩ := chunksLeft_run labels raised ran
    have forward := chunksLeft_le state.forward.position
    have backward := chunksLeft_le state.backward.position
    omega

def brokenInBetween : List RouteLabel :=
  [.forward .test, .forward (.read (some [])), .forward .test, .forward (.read (some [1, 2])), .backward .test, .raiseBreak]

theorem chunks_are_handed_over_in_order_broken :
    ∃ state, Reachable (RouteRun.step { bidir := true }) Unrestricted {} state ∧
      state.forward.inHand = [[1, 2]] ∧ state.forward.writes.map Prod.fst ++ [[1, 2]] = [[1, 2]] ∧
      ∀ labels final, run (RouteRun.step { bidir := true }) state labels = some final →
        final.backward.chunks.length ≤ 1 := by
  let state : RouteRun :=
    { forward := { position := .writing [1, 2], chunks := [[], [1, 2]] }, backward := { position := .reading },
      forceBreak := true }
  have reached : Reachable (RouteRun.step { bidir := true }) Unrestricted {} state :=
    Reachable.initial.run brokenInBetween (allowedRun_of_forall (fun _ _ _ => trivial) _) (by decide)
  obtain ⟨handed, left⟩ := chunks_are_handed_over_in_order { bidir := true } state reached
  exact ⟨state, reached, rfl, handed state.forward (.inl rfl), fun labels final ran => (left rfl labels final ran).2⟩

def relayed (chunk : Chunk) : List RouteLabel :=
  [.backward .test, .backward (.read (some chunk)), .backward (.write (some chunk.length))]

def Link.handing (link : Link) (chunks : List Chunk) : Link :=
  { link with
    chunks := link.chunks ++ chunks
    writes := link.writes ++ chunks.map fun chunk => (chunk, some (chunk.length : Int)) }

theorem run_relayed {config : RouteConfig} (bidir : config.bidir = true) {state : RouteRun}
    (quiet : state.forceBreak = false) (here : state.backward.position = .condition) {chunk : Chunk}
    (nonempty : chunk ≠ []) (fits : chunk.length ≤ config.messageSize) :
    run (RouteRun.step config) state (relayed chunk) =
      some { state with backward := state.backward.handing [chunk] } := by
  obtain ⟨forward, ⟨position, chunks, writes⟩, main, forceBreak⟩ := state
  cases quiet
  cases here
  simp [run, relayed, RouteRun.step, Link.step, Link.handing, bidir, nonempty, fits]

theorem run_backward {config : RouteConfig} (bidir : config.bidir = true) (chunks : List Chunk)
    (fit : ∀ chunk ∈ chunks, chunk ≠ [] ∧ chunk.length ≤ config.messageSize) (state : RouteRun)
    (quiet : state.forceBreak = false) (here : state.backward.position = .condition) :
    run (RouteRun.step config) state (chunks.flatMap relayed) =
      some { state with backward := state.backward.handing chunks } := by
  induction chunks generalizing state with
  | nil => simp [run, Link.handing]
  | cons chunk rest ih =>
      obtain ⟨nonempty, fits⟩ := fit chunk (by simp)
      rw [List.flatMap_cons, run_append, run_relayed bidir quiet here nonempty fits, Option.bind_some]
      have later := ih (fun later member => fit later (List.mem_cons_of_mem _ member))
        { state with backward := state.backward.handing [chunk] } quiet here
      rw [later]
      simp [Link.handing]

theorem route_returns_behind_both_directions (config : RouteConfig) (state : RouteRun)
    (reached : Reachable (RouteRun.step config) Unrestricted {} state) :
    (state.position = .returned → config.bidir = true ∧ state.forward.position = .ended false ∧
      state.forceBreak = true ∧ state.backwardEnded = true) ∧
    (state.position = .caught → state.forward.position = .ended true ∧
      (config.bidir = true → state.backwardEnded = true)) ∧
    (config.bidir = false → state.forward.position = .ended false →
      state.position = .noState ∨ state.step config .main = some { state with position := .noState }) ∧
    (config.bidir = true → state.position = .unwinding → state.forceBreak = false →
      state.backward.position = .condition → ∀ chunks : List Chunk,
        (∀ chunk ∈ chunks, chunk ≠ [] ∧ chunk.length ≤ config.messageSize) →
        ∃ labels final, run (RouteRun.step config) state labels = some final ∧ final.step config .main = none ∧
          final.backward.writes.map Prod.fst = state.backward.writes.map Prod.fst ++ chunks) := by
  have ordered := ordered_of_reachable reached
  refine ⟨fun here => ?_, fun here => ?_, fun oneWay ended => ?_, fun bidir here quiet running chunks fit => ?_⟩
  · have ended := ordered.waiting (.inr (.inl here))
    exact ⟨(ordered.returned here).1, ended, ordered.broken ended, (ordered.returned here).2⟩
  · exact ⟨ordered.unwinding (.inr here), ordered.caught here⟩
  · cases position : state.position with
    | forwarding => exact absurd ended (ordered.forwarding.mp position false)
    | waiting => exact .inr (by simp [RouteRun.step, position, oneWay])
    | unwinding => cases ended.symm.trans (ordered.unwinding (.inl position))
    | caught => cases ended.symm.trans (ordered.unwinding (.inr position))
    | returned => cases oneWay.symm.trans (ordered.returned position).1
    | noState => exact .inl rfl
  · refine ⟨_, _, run_backward bidir chunks fit state quiet running, ?_, ?_⟩
    · simp [RouteRun.step, here, bidir, RouteRun.backwardEnded, Link.handing, running]
    · simp [Link.handing, Function.comp_def]

theorem route_returns_behind_both_directions_failed :
    ∃ state, Reachable (RouteRun.step { bidir := true }) Unrestricted {} state ∧ state.forward.position = .ended true ∧
      ∃ labels final, run (RouteRun.step { bidir := true }) state labels = some final ∧
        final.step { bidir := true } .main = none ∧ final.backward.writes.map Prod.fst = [[1], [2, 3]] := by
  let state : RouteRun := { forward := { position := .ended true }, position := .unwinding }
  have reached : Reachable (RouteRun.step { bidir := true }) Unrestricted {} state :=
    Reachable.initial.run [.forward .test, .forward (.read none)] (allowedRun_of_forall (fun _ _ _ => trivial) _) rfl
  obtain ⟨-, -, -, goesOn⟩ := route_returns_behind_both_directions { bidir := true } state reached
  exact ⟨state, reached, rfl, goesOn rfl rfl rfl rfl [[1], [2, 3]] (by decide)⟩

end XTransmit.Streams
