import XTransmit.Metrics.Validator
import XTransmit.Shared.Transition
import Mathlib.Data.List.Sort

set_option autoImplicit false

namespace XTransmit.Metrics

structure ReceiveConfig where
  messageSize : Nat := 1316
  toFile : Bool := true

inductive PipePosition where
  | adding
  | launching
  | reading
  | removing
  | done
  deriving DecidableEq, Repr

structure ReceivePipe where
  connId : Int32
  position : PipePosition := .adding
  buffer : List UInt8
  validator : Validator
  history : List Operation := []

inductive WriterPosition where
  | absent
  | condition
  | locking
  | printing (todo : List Nat)
  | ended
  deriving DecidableEq, Repr

-- A row, the pipe of its validator, and the number of operations that the validator had seen.
structure MetricsRow where
  pipe : Nat
  count : Nat
  text : String

-- `validators` lists the map by its keys; a shared pointer is the number of the pipe that made it.
structure Reception where
  pipes : List ReceivePipe := []
  validators : List (Int32 × Nat) := []
  stopToken : Bool := false
  writer : WriterPosition := .absent
  out : List MetricsRow := []

inductive ReceptionEvent where
  | connect (connId : Int32)
  | addValidator (pipe : Nat)
  | launch (pipe : Nat)
  | read (pipe : Nat) (now : ClockReadings) (data : List UInt8)
  -- An exception of the socket, or the break token.
  | leave (pipe : Nat)
  | removeValidator (pipe : Nat)
  | stop
  | checkStop
  | beginPass
  | printNext (timepoint : Option String)
  | endPass

def statsCsvHeader (hasPutTime : Bool) : String :=
  (if hasPutTime then "Timepoint," else "") ++ "iConn," ++ "usLatencyMin," ++ "usLatencyMax," ++ "usLatencyAvg," ++
    "usJitter," ++ "usDelayFactor," ++ "pktReceived," ++ "pktLost," ++ "pktReordered," ++ "pktReorderDist," ++
    "pktChecksumError," ++ "pktLengthError" ++ "\n"

def Operation.data : Operation → Option (List UInt8)
  | .packet _ buffer size => some (buffer.take size)
  | .stats => none
  | .statsCsv _ => none

def Operation.text (validator : Validator) : Operation → Option String
  | .packet _ _ _ => none
  | .stats => some (Metrics.stats validator).1
  | .statsCsv timepoint => some (Metrics.statsCsv timepoint validator).1

namespace ReceivePipe

variable (pipe : ReceivePipe)

def received : List (List UInt8) := pipe.history.filterMap Operation.data

def apply (md5 : Md5) (operation : Operation) : Option ReceivePipe :=
  (pipe.validator.apply md5 operation).map fun validator =>
    { pipe with validator := validator, history := pipe.history ++ [operation] }

-- A read lands in front of what the buffer still holds. One of zero bytes is tried again.
def read (md5 : Md5) (now : ClockReadings) (data : List UInt8) : Option ReceivePipe :=
  if pipe.buffer.length < data.length then none
  else
    let buffer := data ++ pipe.buffer.drop data.length
    if data = [] then some pipe
    else { pipe with buffer := buffer }.apply md5 (.packet now buffer data.length)

end ReceivePipe

namespace Reception

variable (state : Reception)

def locked : Bool :=
  match state.writer with
  | .printing _ => true
  | _ => false

-- `emplace`: a key that is present keeps its old validator.
def emplaceValidator (connId : Int32) (pipe : Nat) : List (Int32 × Nat) :=
  if connId ∈ state.validators.map Prod.fst then state.validators
  else state.validators.orderedInsert (fun left right => left.1 ≤ right.1) (connId, pipe)

def atPosition (index : Nat) (position : PipePosition) (change : ReceivePipe → Option ReceivePipe) : Option Reception :=
  state.pipes[index]?.bind fun pipe =>
    if pipe.position = position then
      (change pipe).map fun pipe => { state with pipes := state.pipes.set index pipe }
    else none

end Reception

def receptionStep (md5 : Md5) (config : ReceiveConfig) (state : Reception) : ReceptionEvent → Option Reception
  | .connect connId => some { state with
      pipes := state.pipes ++ [{
        connId := connId
        buffer := List.replicate config.messageSize 0
        validator := { id := connId } }] }
  | .addValidator index =>
      if state.locked then none
      else
        state.pipes[index]?.bind fun pipe =>
          { state with validators := state.emplaceValidator pipe.connId index }.atPosition index .adding
            fun pipe => some { pipe with position := .launching }
  | .launch index =>
      -- `m_metrics_future` is tested and assigned without the lock; this is one step here. The future stays valid
      -- when the thread has ended.
      let launched := if state.writer = .absent then { state with stopToken := false, writer := .condition } else state
      launched.atPosition index .launching fun pipe => some { pipe with position := .reading }
  | .read index now data => state.atPosition index .reading fun pipe => pipe.read md5 now data
  | .leave index => state.atPosition index .reading fun pipe => some { pipe with position := .removing }
  | .removeValidator index =>
      if state.locked then none
      else
        state.pipes[index]?.bind fun pipe =>
          { state with validators := state.validators.filter (·.1 ≠ pipe.connId) }.atPosition index .removing
            fun pipe => some { pipe with position := .done }
  | .stop => some { state with stopToken := true }
  | .checkStop =>
      if state.writer = .condition then
        some { state with writer := if state.stopToken then .ended else .locking }
      else none
  | .beginPass =>
      if state.writer = .locking then
        some { state with writer := .printing (state.validators.map Prod.snd) }
      else none
  | .printNext timepoint =>
      match state.writer with
      | .printing (index :: todo) =>
          state.pipes[index]?.bind fun pipe =>
            let operation := if config.toFile then .statsCsv timepoint else .stats
            (pipe.apply md5 operation).map fun printed => { state with
              pipes := state.pipes.set index printed
              writer := .printing todo
              out := state.out ++ [{
                pipe := index
                count := pipe.history.length
                text := (operation.text pipe.validator).getD "" }] }
      | _ => none
  | .endPass => if state.writer = .printing [] then some { state with writer := .condition } else none

section Histories

variable {md5 : Md5}

theorem Validator.run_eq (validator : Validator) (operations : List Operation) :
    validator.run md5 operations = Transition.run (·.apply md5) validator operations := by
  induction operations generalizing validator with
  | nil => rfl
  | cons operation rest ih => simp only [Validator.run, Transition.run, ih]

theorem Validator.run_append (validator : Validator) (earlier later : List Operation) :
    validator.run md5 (earlier ++ later) = (validator.run md5 earlier).bind (·.run md5 later) := by
  simp only [Validator.run_eq, Transition.run_append]

structure PipeChange (md5 : Md5) (pipe after : ReceivePipe) (gained : List Operation) : Prop where
  identifier : after.connId = pipe.connId
  ran : pipe.validator.run md5 gained = some after.validator
  history : after.history = pipe.history ++ gained

theorem PipeChange.refl (pipe : ReceivePipe) : PipeChange md5 pipe pipe [] := ⟨rfl, rfl, by simp⟩

theorem apply_change {pipe after : ReceivePipe} {operation : Operation}
    (applied : pipe.apply md5 operation = some after) : PipeChange md5 pipe after [operation] := by
  obtain ⟨validator, applies, rfl⟩ := Option.map_eq_some_iff.mp applied
  exact ⟨rfl, by simp [Validator.run, applies], rfl⟩

def ReceivePipe.Recorded (md5 : Md5) (pipe : ReceivePipe) : Prop :=
  Validator.run md5 { id := pipe.connId } pipe.history = some pipe.validator

def MetricsRow.Reports (md5 : Md5) (row : MetricsRow) (pipe : ReceivePipe) : Prop :=
  ∃ operation validator, pipe.history[row.count]? = some operation ∧
    Validator.run md5 { id := pipe.connId } (pipe.history.take row.count) = some validator ∧
    operation.text validator = some row.text

theorem ReceivePipe.Recorded.change {pipe after : ReceivePipe} {gained : List Operation}
    (recorded : pipe.Recorded md5) (change : PipeChange md5 pipe after gained) : after.Recorded md5 := by
  rw [ReceivePipe.Recorded, change.identifier, change.history, Validator.run_append, recorded, Option.bind_some,
    change.ran]

theorem MetricsRow.Reports.change {row : MetricsRow} {pipe after : ReceivePipe} {gained : List Operation}
    (reports : row.Reports md5 pipe) (change : PipeChange md5 pipe after gained) : row.Reports md5 after := by
  obtain ⟨operation, validator, placed, ran, text⟩ := reports
  obtain ⟨inside, -⟩ := List.getElem?_eq_some_iff.mp placed
  refine ⟨operation, validator, ?_, ?_, text⟩
  · rw [change.history, List.getElem?_append_left inside, placed]
  · rw [change.identifier, change.history, List.take_append_of_le_length (Nat.le_of_lt inside), ran]

end Histories

section Steps

variable {md5 : Md5} {config : ReceiveConfig} {state next : Reception} {event : ReceptionEvent} {index : Nat}

def Arrived (event : ReceptionEvent) (index : Nat) (operation : Operation) : Prop :=
  ∃ now data leftover, event = .read index now data ∧ data ≠ [] ∧
    operation = .packet now (data ++ leftover) data.length

inductive ReceptionMove (md5 : Md5) (config : ReceiveConfig) (state : Reception) (event : ReceptionEvent)
    (next : Reception) : Prop
  | quiet (pipes : next.pipes = state.pipes) (out : next.out = state.out)
  | connected (pipe : ReceivePipe) (empty : pipe.history = []) (fresh : pipe.validator = { id := pipe.connId })
      (pipes : next.pipes = state.pipes ++ [pipe]) (out : next.out = state.out)
  | changed (index : Nat) (pipe after : ReceivePipe) (gained : Option Operation)
      (started : state.pipes[index]? = some pipe) (change : PipeChange md5 pipe after gained.toList)
      (arrived : ∀ operation ∈ gained, Arrived event index operation)
      (pipes : next.pipes = state.pipes.set index after) (out : next.out = state.out)
  | printed (index : Nat) (pipe after : ReceivePipe) (operation : Operation) (text : String)
      (started : state.pipes[index]? = some pipe) (change : PipeChange md5 pipe after [operation])
      (report : operation.text pipe.validator = some text) (pipes : next.pipes = state.pipes.set index after)
      (out : next.out = state.out ++ [⟨index, pipe.history.length, text⟩])
      (asked : ∃ timepoint, event = .printNext timepoint ∧
        operation = if config.toFile then .statsCsv timepoint else .stats)

theorem atPosition_spec {position : PipePosition} {change : ReceivePipe → Option ReceivePipe}
    (taken : state.atPosition index position change = some next) :
    ∃ pipe after, state.pipes[index]? = some pipe ∧ pipe.position = position ∧ change pipe = some after ∧
      next = { state with pipes := state.pipes.set index after } := by
  obtain ⟨pipe, started, moved⟩ := Option.bind_eq_some_iff.mp taken
  split at moved
  next here =>
    obtain ⟨after, changed, rfl⟩ := Option.map_eq_some_iff.mp moved
    exact ⟨pipe, after, started, here, changed, rfl⟩
  next => cases moved

theorem atPosition_move {before : Reception} {position later : PipePosition}
    (taken : state.atPosition index position (fun pipe => some { pipe with position := later }) = some next)
    (pipes : state.pipes = before.pipes) (out : state.out = before.out) : ReceptionMove md5 config before event next := by
  obtain ⟨pipe, after, started, -, changed, rfl⟩ := atPosition_spec taken
  cases changed
  rw [pipes] at started
  exact .changed index pipe { pipe with position := later } none started ⟨rfl, rfl, by simp⟩ (by simp) (by simp [pipes])
    out

theorem read_change {pipe after : ReceivePipe} {now : ClockReadings} {data : List UInt8}
    (taken : pipe.read md5 now data = some after) :
    ∃ gained : Option Operation, PipeChange md5 pipe after gained.toList ∧
      ∀ operation ∈ gained, Arrived (.read index now data) index operation := by
  unfold ReceivePipe.read at taken
  split at taken
  next => cases taken
  next =>
    simp only at taken
    split at taken
    next =>
      cases taken
      exact ⟨none, .refl _, by simp⟩
    next filled =>
      obtain ⟨identifier, ran, history⟩ := apply_change taken
      refine ⟨some _, ⟨identifier, ran, history⟩, fun operation member => ?_⟩
      cases member
      exact ⟨now, data, _, rfl, filled, rfl⟩

theorem receptionStep_move (taken : receptionStep md5 config state event = some next) :
    ReceptionMove md5 config state event next := by
  cases event with
  | connect connId =>
      cases taken
      exact .connected _ rfl rfl rfl rfl
  | addValidator index | removeValidator index =>
      simp only [receptionStep] at taken
      split at taken
      next => cases taken
      next =>
        obtain ⟨pipe, -, moved⟩ := Option.bind_eq_some_iff.mp taken
        exact atPosition_move moved rfl rfl
  | launch index =>
      simp only [receptionStep] at taken
      refine atPosition_move taken ?_ ?_ <;> split <;> rfl
  | read index now data =>
      obtain ⟨pipe, after, started, -, read, rfl⟩ := atPosition_spec taken
      obtain ⟨gained, change, arrived⟩ := read_change read
      exact .changed index pipe after gained started change arrived rfl rfl
  | leave index => exact atPosition_move taken rfl rfl
  | stop =>
      cases taken
      exact .quiet rfl rfl
  | checkStop | beginPass | endPass =>
      simp only [receptionStep] at taken
      split at taken <;> cases taken
      exact .quiet rfl rfl
  | printNext timepoint =>
      simp only [receptionStep] at taken
      split at taken
      next index todo here =>
        obtain ⟨pipe, started, moved⟩ := Option.bind_eq_some_iff.mp taken
        obtain ⟨printed, applied, rfl⟩ := Option.map_eq_some_iff.mp moved
        refine .printed index pipe printed _ _ started (apply_change applied) ?_ rfl rfl ⟨timepoint, rfl, rfl⟩
        cases config.toFile <;> rfl
      next => cases taken

end Steps

end XTransmit.Metrics
