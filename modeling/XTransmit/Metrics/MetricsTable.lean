import XTransmit.Metrics.Reception
import XTransmit.Shared.Csv

set_option autoImplicit false

namespace XTransmit.Metrics

open Csv Transition

def columns (hasPutTime : Bool) : List (List Char) :=
  ((if hasPutTime then ["Timepoint"] else []) ++
    ["iConn", "usLatencyMin", "usLatencyMax", "usLatencyAvg", "usJitter", "usDelayFactor", "pktReceived", "pktLost",
      "pktReordered", "pktReorderDist", "pktChecksumError", "pktLengthError"]).map String.toList

def available (value notAvailable : Int64) : Option Int := if value = notAvailable then none else some value.toInt

def Validator.values (validator : Validator) : List (Option Int) :=
  [some validator.id.toInt,
    available validator.latency.latencyMin Int64.maxValue,
    available validator.latency.latencyMax Int64.minValue,
    available validator.latency.latencyAvg (-1),
    some validator.jitter.getJitter.toNat,
    some validator.delayFactor.getDelayFactor.toInt,
    some validator.reorder.pktsProcessed.toNat,
    some validator.reorder.pktsLost.toNat,
    some validator.reorder.pktsReordered.toNat,
    some validator.reorder.reorderDist.toNat,
    some validator.integrity.pktsWrongChecksum.toNat,
    some validator.integrity.pktsWrongLen.toNat]

def metricsFile (hasPutTime : Bool) (state : Reception) : List Char :=
  (statsCsvHeader hasPutTime).toList ++ state.out.flatMap fun row => row.text.toList

section Cells

def cell (value : Option Int) : List Char := value.elim [] number

theorem decode_cell (value : Option Int) : decode (cell value) = value := by
  cases value with
  | none => rfl
  | some value => exact decode_number value

theorem plain_cell (value : Option Int) : Plain (cell value) := by
  cases value with
  | none => exact plain_nil
  | some value => exact plain_number value

def rowCells (timepoint : Option String) (validator : Validator) : List (List Char) :=
  timepoint.toList.map String.toList ++ validator.values.map cell

theorem latencyStr_toList (value notAvailable : Int64) :
    (latencyStr "" value notAvailable).toList = cell (available value notAvailable) := by
  unfold latencyStr available
  split
  next => rfl
  next => rfl

theorem toString_uint64 (value : UInt64) : (toString value).toList = number value.toNat := rfl

theorem toString_int64 (value : Int64) : (toString value).toList = number value.toInt := rfl

theorem toString_int32 (value : Int32) : (toString value).toList = number value.toInt := rfl

theorem statsCsv_text (timepoint : Option String) (validator : Validator) :
    (statsCsv timepoint validator).1.toList = renderRow (rowCells timepoint validator) := by
  have comma : ",".toList = [','] := by simp
  have newline : "\n".toList = ['\n'] := by simp
  unfold statsCsv
  simp only [String.toList_append]
  rw [latencyStr_toList, latencyStr_toList, latencyStr_toList, toString_int32, toString_uint64, toString_int64,
    toString_uint64, toString_uint64, toString_uint64, toString_uint64, toString_uint64, toString_uint64, comma, newline]
  cases timepoint with
  | none =>
      simp only [Option.elim_none, String.toList_empty, rowCells, Option.toList_none, List.map_nil, List.nil_append,
        Validator.values, List.map_cons, renderRow, List.intercalate_cons_cons, List.intercalate_singleton,
        List.append_assoc, cell, Option.elim_some]
  | some timepoint =>
      simp only [Option.elim_some, String.toList_append, comma, rowCells, Option.toList_some, List.map_cons, List.map_nil,
        List.cons_append, List.nil_append, Validator.values, renderRow, List.intercalate_cons_cons,
        List.intercalate_singleton, List.append_assoc, cell]

theorem statsCsvHeader_text (hasPutTime : Bool) : (statsCsvHeader hasPutTime).toList = renderRow (columns hasPutTime) := by
  cases hasPutTime <;> simp [-String.reduceAppend, statsCsvHeader, columns, renderRow, List.intercalate_cons_cons]

theorem columns_plain (hasPutTime : Bool) : columns hasPutTime ≠ [] ∧ ∀ cell ∈ columns hasPutTime, Plain cell := by
  cases hasPutTime <;> simp [columns, Plain]

end Cells

section Tables

variable {md5 : Md5} {config : ReceiveConfig} {hasPutTime : Bool} {state next : Reception} {event : ReceptionEvent}

-- A build stamps every row or none, and the text of `print_timestamp_now` holds neither comma nor line end.
def Stamped (hasPutTime : Bool) (timepoint : Option String) : Prop :=
  timepoint.isSome = hasPutTime ∧ ∀ text ∈ timepoint, Plain text.toList

def StampedEvent (hasPutTime : Bool) (_ : Reception) : ReceptionEvent → Prop
  | .printNext timepoint => Stamped hasPutTime timepoint
  | _ => True

def Operation.Tabular (hasPutTime : Bool) : Operation → Prop
  | .packet _ _ _ => True
  | .stats => False
  | .statsCsv timepoint => Stamped hasPutTime timepoint

def Tabular (hasPutTime : Bool) (state : Reception) : Prop :=
  ∀ pipe ∈ state.pipes, ∀ operation ∈ pipe.history, operation.Tabular hasPutTime

theorem Tabular.set (tabular : Tabular hasPutTime state) {index : Nat} {pipe after : ReceivePipe} {gained : List Operation}
    (started : state.pipes[index]? = some pipe) (change : PipeChange md5 pipe after gained)
    (pipes : next.pipes = state.pipes.set index after)
    (more : ∀ operation ∈ gained, operation.Tabular hasPutTime) : Tabular hasPutTime next := by
  intro other member operation listed
  rw [pipes] at member
  rcases List.mem_or_eq_of_mem_set member with kept | rfl
  · exact tabular other kept operation listed
  · rw [change.history, List.mem_append] at listed
    rcases listed with earlier | later
    · exact tabular pipe (List.mem_of_getElem? started) operation earlier
    · exact more operation later

theorem Tabular.move (toFile : config.toFile = true) (tabular : Tabular hasPutTime state)
    (stamped : StampedEvent hasPutTime state event) (move : ReceptionMove md5 config state event next) :
    Tabular hasPutTime next := by
  cases move with
  | quiet pipes out =>
      intro pipe member
      exact tabular pipe (pipes ▸ member)
  | connected pipe empty fresh pipes out =>
      intro other member operation listed
      rw [pipes, List.mem_append, List.mem_singleton] at member
      rcases member with kept | rfl
      · exact tabular other kept operation listed
      · simp [empty] at listed
  | changed index pipe after gained started change arrived pipes out =>
      refine tabular.set started change pipes fun operation member => ?_
      obtain ⟨now, data, leftover, -, -, rfl⟩ := arrived operation (by simpa using member)
      trivial
  | printed index pipe after operation text started change report pipes out asked =>
      refine tabular.set started change pipes fun each member => ?_
      obtain ⟨timepoint, rfl, rfl⟩ := asked
      rw [List.mem_singleton.mp member, toFile, if_pos rfl]
      exact stamped

structure TableRow (md5 : Md5) (hasPutTime : Bool) (state : Reception) (row : MetricsRow) (cells : List (List Char)) :
    Prop where
  text : row.text.toList = renderRow cells
  plain : cells ≠ [] ∧ ∀ cell ∈ cells, Plain cell
  width : cells.length = (columns hasPutTime).length
  values : ∃ pipe validator, state.pipes[row.pipe]? = some pipe ∧
    Validator.run md5 { id := pipe.connId } (pipe.history.take row.count) = some validator ∧
    (cells.drop (if hasPutTime then 1 else 0)).map decode = validator.values

theorem rowCells_plain {timepoint : Option String} (stamped : Stamped hasPutTime timepoint) (validator : Validator) :
    rowCells timepoint validator ≠ [] ∧ ∀ cell ∈ rowCells timepoint validator, Plain cell := by
  refine ⟨by simp [rowCells, Validator.values], fun cell member => ?_⟩
  rw [rowCells, List.mem_append, List.mem_map, List.mem_map] at member
  rcases member with ⟨text, given, rfl⟩ | ⟨value, -, rfl⟩
  · exact stamped.2 text (by simpa using given)
  · exact plain_cell value

theorem rowCells_values {timepoint : Option String} (stamped : Stamped hasPutTime timepoint) (validator : Validator) :
    (rowCells timepoint validator).length = (columns hasPutTime).length ∧
      ((rowCells timepoint validator).drop (if hasPutTime then 1 else 0)).map decode = validator.values := by
  have decoded : (validator.values.map cell).map decode = validator.values := by simp [Function.comp_def, decode_cell]
  have present := stamped.1
  cases timepoint with
  | none =>
      cases present
      exact ⟨by simp [rowCells, Validator.values, columns], by simpa [rowCells] using decoded⟩
  | some text =>
      cases present
      exact ⟨by simp [rowCells, Validator.values, columns], by simpa [rowCells] using decoded⟩

theorem exists_tableRow (attributed : Attributed md5 state) (tabular : Tabular hasPutTime state) {row : MetricsRow}
    (member : row ∈ state.out) : ∃ cells, TableRow md5 hasPutTime state row cells := by
  obtain ⟨pipe, found, operation, validator, placed, ran, text⟩ := attributed.rows row member
  have listed := tabular pipe (List.mem_of_getElem? found) operation (List.mem_of_getElem? placed)
  cases operation with
  | packet now buffer size => cases text
  | stats => cases listed
  | statsCsv timepoint =>
      obtain ⟨width, values⟩ := rowCells_values listed validator
      refine ⟨rowCells timepoint validator, ?_, rowCells_plain listed validator, width, pipe, validator, found, ran, values⟩
      rw [← Option.some.inj text]
      exact statsCsv_text timepoint validator

theorem exists_table {rows : List MetricsRow} (each : ∀ row ∈ rows, ∃ cells, TableRow md5 hasPutTime state row cells) :
    ∃ table, List.Forall₂ (TableRow md5 hasPutTime state) rows table ∧
      rows.flatMap (fun row => row.text.toList) = render table ∧
      ∀ cells ∈ table, cells ≠ [] ∧ ∀ cell ∈ cells, Plain cell := by
  induction rows with
  | nil => exact ⟨[], .nil, rfl, by simp⟩
  | cons row rest ih =>
      obtain ⟨cells, first⟩ := each row (by simp)
      obtain ⟨table, rows, text, plain⟩ := ih fun other member => each other (List.mem_cons_of_mem _ member)
      refine ⟨cells :: table, .cons first rows, ?_, List.forall_mem_cons.mpr ⟨first.plain, plain⟩⟩
      rw [List.flatMap_cons, first.text, text]
      rfl

end Tables

theorem metrics_file_is_a_table (md5 : Md5) (config : ReceiveConfig) (toFile : config.toFile = true) (hasPutTime : Bool)
    (state : Reception) (reached : Reachable (receptionStep md5 config) (StampedEvent hasPutTime) {} state) :
    ∃ table, parse (metricsFile hasPutTime state) = columns hasPutTime :: table ∧
      List.Forall₂ (fun row cells => cells.length = (columns hasPutTime).length ∧
        ∃ pipe validator, state.pipes[row.pipe]? = some pipe ∧
          Validator.run md5 { id := pipe.connId } (pipe.history.take row.count) = some validator ∧
          (cells.drop (if hasPutTime then 1 else 0)).map decode = validator.values) state.out table := by
  have attributed := attributed_of_reachable reached
  have tabular : Tabular hasPutTime state := by
    refine reached.invariant (Tabular hasPutTime) (by simp [Tabular]) ?_
    intro state event next tabular stamped taken
    exact tabular.move toFile stamped (receptionStep_move taken)
  obtain ⟨table, rows, text, plain⟩ := exists_table fun row member => exists_tableRow attributed tabular member
  refine ⟨table, ?_, rows.imp fun _ _ row => ⟨row.width, row.values⟩⟩
  rw [metricsFile, statsCsvHeader_text, text]
  exact parse_render (columns hasPutTime :: table) (List.forall_mem_cons.mpr ⟨columns_plain hasPutTime, plain⟩)

-- The first packet of connection 7 is lost and the second one is late. Connection 9 gets none before its row.
def lossAndSilence (packet : List UInt8) : List ReceptionEvent :=
  [.connect 7, .connect 9, .addValidator 1, .launch 1, .addValidator 0, .launch 0, .read 0 ⟨0, 5000⟩ packet, .checkStop,
    .beginPass, .printNext (some "T"), .printNext (some "U"), .read 1 ⟨0, 0⟩ packet, .endPass]

theorem metrics_file_is_a_table_two_rows :
    ∃ (state : Reception) (table : List (List (List Char))), parse (metricsFile true state) = columns true :: table ∧
      table.map (fun cells => (cells.length, (cells.drop 1).map decode)) =
        [(13, [some 7, some 5, some 5, some 5, some 0, some 1, some 1, some 1, some 0, some 0, some 0, some 0]),
          (13, [some 9, none, none, none, some 0, some 1, some 0, some 0, some 0, some 0, some 0, some 0])] := by
  let events := lossAndSilence (twoPayloads.getD 1 [])
  let shown (state : Reception) (row : MetricsRow) : List (Option Int) :=
    (state.pipes[row.pipe]?.bind fun pipe =>
      (Validator.run firstPacketsMd5 { id := pipe.connId } (pipe.history.take row.count)).map Validator.values).getD []
  have printed : (run (receptionStep firstPacketsMd5 {}) {} events).map (fun state => state.out.map (shown state)) =
      some [[some 7, some 5, some 5, some 5, some 0, some 1, some 1, some 1, some 0, some 0, some 0, some 0],
        [some 9, none, none, none, some 0, some 1, some 0, some 0, some 0, some 0, some 0, some 0]] := by
    decide +kernel
  obtain ⟨state, ran, rows⟩ := Option.map_eq_some_iff.mp printed
  have stamped : ∀ event ∈ events, ∀ state, StampedEvent true state event := by
    simp [events, lossAndSilence, StampedEvent, Stamped, Plain]
  have reached : Reachable (receptionStep firstPacketsMd5 {}) (StampedEvent true) {} state :=
    Reachable.initial.run events (allowedRun_of_forall stamped _) ran
  obtain ⟨table, parsed, each⟩ := metrics_file_is_a_table firstPacketsMd5 {} rfl true state reached
  have listed : (state.out.map (shown state)).map (Prod.mk 13) =
      table.map fun cells => (cells.length, (cells.drop 1).map decode) := by
    rw [List.map_map, ← List.forall₂_eq_eq_eq, List.forall₂_map_left_iff, List.forall₂_map_right_iff]
    refine each.imp fun row cells reported => ?_
    obtain ⟨width, pipe, validator, found, counted, values⟩ := reported
    rw [if_pos rfl] at values
    simp [shown, found, counted, width, ← values, columns]
  refine ⟨state, table, parsed, ?_⟩
  rw [← listed, rows]
  rfl

end XTransmit.Metrics
