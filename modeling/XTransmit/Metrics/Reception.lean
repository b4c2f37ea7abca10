import XTransmit.Metrics.Channel
import XTransmit.Metrics.MetricsWriter

set_option autoImplicit false

namespace XTransmit.Metrics

section Attribution

variable {md5 : Md5} {config : ReceiveConfig} {state next : Reception} {event : ReceptionEvent}

def RowsAdvance (out : List MetricsRow) : Prop :=
  out.Pairwise fun earlier later => earlier.pipe = later.pipe → earlier.count < later.count

structure Attributed (md5 : Md5) (state : Reception) : Prop where
  pipes : ∀ pipe ∈ state.pipes, pipe.Recorded md5
  rows : ∀ row ∈ state.out, ∃ pipe, state.pipes[row.pipe]? = some pipe ∧ row.Reports md5 pipe
  advance : RowsAdvance state.out

theorem getElem?_change {index moving : Nat} {pipe before changed : ReceivePipe} {gained : List Operation}
    (started : state.pipes[moving]? = some before) (change : PipeChange md5 before changed gained)
    (found : state.pipes[index]? = some pipe) :
    ∃ after gained, (state.pipes.set moving changed)[index]? = some after ∧ PipeChange md5 pipe after gained := by
  obtain ⟨inside, -⟩ := List.getElem?_eq_some_iff.mp started
  rw [List.getElem?_set]
  by_cases same : moving = index
  next =>
    subst same
    cases started.symm.trans found
    exact ⟨changed, gained, by simp [inside], change⟩
  next => exact ⟨pipe, [], by simp [same, found], .refl pipe⟩

theorem Attributed.set {moving : Nat} {before changed : ReceivePipe} {gained : List Operation}
    (attributed : Attributed md5 state) (started : state.pipes[moving]? = some before)
    (change : PipeChange md5 before changed gained) (pipes : next.pipes = state.pipes.set moving changed) :
    (∀ pipe ∈ next.pipes, pipe.Recorded md5) ∧
      ∀ row ∈ state.out, ∃ pipe, next.pipes[row.pipe]? = some pipe ∧ row.Reports md5 pipe := by
  rw [pipes]
  constructor
  · intro pipe member
    rcases List.mem_or_eq_of_mem_set member with kept | rfl
    · exact attributed.pipes pipe kept
    · exact (attributed.pipes before (List.mem_of_getElem? started)).change change
  · intro row member
    obtain ⟨pipe, found, reports⟩ := attributed.rows row member
    obtain ⟨after, more, there, changed⟩ := getElem?_change started change found
    exact ⟨after, there, reports.change changed⟩

theorem Attributed.move (attributed : Attributed md5 state) (move : ReceptionMove md5 config state event next) :
    Attributed md5 next := by
  cases move with
  | quiet pipes out =>
      obtain ⟨recorded, rows, advance⟩ := attributed
      exact ⟨pipes ▸ recorded, by rwa [pipes, out], by rwa [out]⟩
  | connected fresh empty validator pipes out =>
      refine ⟨?_, ?_, by rw [out]; exact attributed.advance⟩
      · intro pipe member
        rw [pipes, List.mem_append, List.mem_singleton] at member
        rcases member with earlier | rfl
        · exact attributed.pipes pipe earlier
        · rw [ReceivePipe.Recorded, empty, validator]
          rfl
      · intro row member
        rw [out] at member
        obtain ⟨pipe, found, reports⟩ := attributed.rows row member
        obtain ⟨inside, -⟩ := List.getElem?_eq_some_iff.mp found
        exact ⟨pipe, by rw [pipes, List.getElem?_append_left inside, found], reports⟩
  | changed index pipe after gained started change arrived pipes out =>
      obtain ⟨recorded, rows⟩ := attributed.set started change pipes
      exact ⟨recorded, out ▸ rows, out ▸ attributed.advance⟩
  | printed index pipe after operation text started change report pipes out =>
      obtain ⟨recorded, rows⟩ := attributed.set started change pipes
      obtain ⟨inside, -⟩ := List.getElem?_eq_some_iff.mp started
      refine ⟨recorded, fun row member => ?_, ?_⟩
      · rw [out, List.mem_append, List.mem_singleton] at member
        rcases member with earlier | rfl
        · exact rows row earlier
        · refine ⟨after, by rw [pipes, List.getElem?_set_self inside], operation, pipe.validator, ?_, ?_, report⟩
          · simp [change.history]
          · rw [change.identifier, change.history, List.take_left]
            exact attributed.pipes pipe (List.mem_of_getElem? started)
      · -- The places of the earlier rows lie inside the history that the new row has seen.
        rw [out, RowsAdvance, List.pairwise_append]
        refine ⟨attributed.advance, by simp, fun row member added same => ?_⟩
        rw [List.mem_singleton.mp same]
        rintro rfl
        obtain ⟨printed, found, _, _, placed, -⟩ := attributed.rows row member
        cases started.symm.trans found
        exact (List.getElem?_eq_some_iff.mp placed).1

theorem attributed_of_reachable {allowed : Reception → ReceptionEvent → Prop}
    (reached : Transition.Reachable (receptionStep md5 config) allowed {} state) : Attributed md5 state := by
  refine reached.invariant (Attributed md5) ?_ ?_
  · exact ⟨by simp, by simp, by simp [RowsAdvance]⟩
  · intro state event next attributed _ taken
    exact attributed.move (receptionStep_move taken)

end Attribution

section Arrivals

variable {md5 : Md5} {config : ReceiveConfig} {payloads : Nat → List (List UInt8)} {state next : Reception}
  {event : ReceptionEvent}

-- The transport of a connection may drop packets; it makes none up and keeps the order.
def InOrder (payloads : Nat → List (List UInt8)) (state : Reception) : ReceptionEvent → Prop
  | .read index _ data => data = [] ∨
      ∀ pipe ∈ state.pipes[index]?, (pipe.received ++ [data]).Sublist (payloads index)
  | _ => True

instance decidableInOrder (payloads : Nat → List (List UInt8)) (state : Reception) :
    (event : ReceptionEvent) → Decidable (InOrder payloads state event)
  | .read _ _ _ => inferInstanceAs (Decidable (_ ∨ _))
  | .connect _ | .addValidator _ | .launch _ | .leave _ | .removeValidator _ | .stop | .checkStop | .beginPass
  | .printNext _ | .endPass => .isTrue trivial

def Operation.Whole : Operation → Prop
  | .packet _ buffer size => size ≤ buffer.length
  | _ => True

structure ReceivePipe.Fed (payloads : List (List UInt8)) (pipe : ReceivePipe) : Prop where
  whole : ∀ operation ∈ pipe.history, operation.Whole
  received : pipe.received.Sublist payloads

def Fed (payloads : Nat → List (List UInt8)) (state : Reception) : Prop :=
  ∀ (index : Nat) (pipe : ReceivePipe), state.pipes[index]? = some pipe → pipe.Fed (payloads index)

theorem Fed.set {moving : Nat} {before after : ReceivePipe} (fed : Fed payloads state)
    (changed : after.Fed (payloads moving)) (started : state.pipes[moving]? = some before)
    (pipes : next.pipes = state.pipes.set moving after) : Fed payloads next := by
  intro index pipe found
  obtain ⟨inside, -⟩ := List.getElem?_eq_some_iff.mp started
  rw [pipes, List.getElem?_set, if_pos inside] at found
  split at found
  next same =>
    cases found
    exact same ▸ changed
  next => exact fed index pipe found

theorem ReceivePipe.Fed.report {pipe after : ReceivePipe} {operation : Operation} {text : String}
    {sent : List (List UInt8)} (fed : pipe.Fed sent) (change : PipeChange md5 pipe after [operation])
    (report : operation.text pipe.validator = some text) : after.Fed sent := by
  have silent : operation.data = none ∧ operation.Whole := by
    cases operation with
    | packet => cases report
    | stats | statsCsv => exact ⟨rfl, trivial⟩
  constructor
  · intro other member
    rw [change.history, List.mem_append, List.mem_singleton] at member
    rcases member with earlier | rfl
    · exact fed.whole other earlier
    · exact silent.2
  · rw [ReceivePipe.received, change.history, List.filterMap_append, List.filterMap_cons_none silent.1,
      List.filterMap_nil, List.append_nil]
    exact fed.received

theorem ReceivePipe.Fed.arrivals {index : Nat} {pipe after : ReceivePipe} {gained : Option Operation}
    (fed : pipe.Fed (payloads index)) (change : PipeChange md5 pipe after gained.toList)
    (arrived : ∀ operation ∈ gained, Arrived event index operation)
    (started : state.pipes[index]? = some pipe) (permitted : InOrder payloads state event) :
    after.Fed (payloads index) := by
  have history := change.history
  cases gained with
  | none =>
      rw [Option.toList_none, List.append_nil] at history
      exact ⟨by rw [history]; exact fed.whole, by rw [ReceivePipe.received, history]; exact fed.received⟩
  | some operation =>
      obtain ⟨now, data, leftover, rfl, filled, rfl⟩ := arrived operation rfl
      rw [Option.toList_some] at history
      constructor
      · intro other member
        rw [history, List.mem_append, List.mem_singleton] at member
        rcases member with earlier | rfl
        · exact fed.whole other earlier
        · simp [Operation.Whole]
      · have ordered := (permitted.resolve_left filled) pipe started
        simpa [ReceivePipe.received, history, Operation.data] using ordered

theorem Fed.move (fed : Fed payloads state) (permitted : InOrder payloads state event)
    (move : ReceptionMove md5 config state event next) : Fed payloads next := by
  cases move with
  | quiet pipes out =>
      rw [Fed, pipes]
      exact fed
  | connected added empty validator pipes out =>
      intro index pipe found
      rw [pipes] at found
      rcases Nat.lt_or_ge index state.pipes.length with earlier | new
      · rw [List.getElem?_append_left earlier] at found
        exact fed index pipe found
      · rw [List.getElem?_append_right new] at found
        rw [List.mem_singleton.mp (List.mem_of_getElem? found)]
        exact ⟨by simp [empty], by simp [ReceivePipe.received, empty]⟩
  | changed index pipe after gained started change arrived pipes out =>
      exact fed.set ((fed index pipe started).arrivals change arrived started permitted) started pipes
  | printed index pipe after operation text started change report pipes out =>
      exact fed.set ((fed index pipe started).report change report) started pipes

theorem fed_of_reachable (reached : Transition.Reachable (receptionStep md5 config) (InOrder payloads) {} state) :
    Fed payloads state :=
  reached.invariant (Fed payloads) (by simp [Fed]) fun _ _ _ fed permitted taken =>
    fed.move permitted (receptionStep_move taken)

end Arrivals

section Counters

variable {md5 : Md5} {payloads : List (List UInt8)}

theorem exists_schedule (history : List Operation) (whole : ∀ operation ∈ history, operation.Whole)
    (indices : List Nat) (placed : history.filterMap Operation.data = indices.map (payloads.getD · [])) :
    ∃ schedule : List Delivery, schedule.map (·.operation payloads) = history ∧
      schedule.filterMap Delivery.received = indices := by
  induction history generalizing indices with
  | nil => exact ⟨[], rfl, (List.map_eq_nil_iff.mp placed.symm).symm⟩
  | cons operation rest ih =>
      have later := fun other member => whole other (List.mem_cons_of_mem operation member)
      cases operation with
      | packet now buffer size =>
          obtain ⟨index, others, rfl, packet, remaining⟩ := List.map_eq_cons_iff.mp placed.symm
          obtain ⟨schedule, ran, received⟩ := ih later others remaining.symm
          have fits : size ≤ buffer.length := whole (.packet now buffer size) (by simp)
          refine ⟨.packet index now (buffer.drop size) :: schedule, ?_, ?_⟩
          · rw [List.map_cons, ran, Delivery.operation, packet, List.take_append_drop, List.length_take,
              Nat.min_eq_left fits]
          · simp [Delivery.received, received]
      | stats =>
          obtain ⟨schedule, ran, received⟩ := ih later indices placed
          exact ⟨.stats :: schedule, by rw [List.map_cons, ran]; rfl, received⟩
      | statsCsv timepoint =>
          obtain ⟨schedule, ran, received⟩ := ih later indices placed
          exact ⟨.statsCsv timepoint :: schedule, by rw [List.map_cons, ran]; rfl, received⟩

theorem exists_places {received : List (List UInt8)} (sublist : received.Sublist payloads) :
    ∃ indices : List Nat, received = indices.map (payloads.getD · []) ∧ indices.Pairwise (· < ·) ∧
      ∀ index ∈ indices, index < payloads.length := by
  obtain ⟨places, rfl, increasing⟩ := List.sublist_eq_map_getElem sublist
  refine ⟨places.map Fin.val, ?_, ?_, ?_⟩
  · simp
  · exact List.pairwise_map.mpr increasing
  · simp

-- One more than the number of the last packet, or zero before the first.
def sentUpTo (packets : List (List UInt8)) : Nat :=
  (packets.getLast?.bind readPacketSeqno).elim 0 (·.toNat + 1)

structure Validator.Counts (validator : Validator) (id : Int32) (packets : List (List UInt8)) : Prop where
  identifier : validator.id = id
  processed : validator.reorder.pktsProcessed.toNat = packets.length
  lost : packets.length + validator.reorder.pktsLost.toNat = sentUpTo packets
  reordered : validator.reorder.pktsReordered = 0 ∧ validator.reorder.reorderDist = 0
  intact : validator.integrity.pktsWrongChecksum = 0 ∧ validator.integrity.pktsWrongLen = 0

theorem Validator.run_id {validator final : Validator} {operations : List Operation}
    (ran : validator.run md5 operations = some final) : final.id = validator.id := by
  induction operations generalizing validator with
  | nil =>
      cases ran
      rfl
  | cons operation rest ih =>
      obtain ⟨next, applied, later⟩ := Option.bind_eq_some_iff.mp ran
      rw [ih later]
      cases operation with
      | packet now buffer size =>
          obtain ⟨fields, -, rfl⟩ := Option.map_eq_some_iff.mp applied
          unfold Validator.submitFields
          dsimp only
          split <;> rfl
      | stats | statsCsv =>
          cases applied
          rfl

theorem GeneratedRun.readPacketSeqno {requests : List PayloadRequest} (sizes : AllFit requests)
    (fields : GeneratedRun md5 freshGenerator requests payloads) {index : Nat} (inside : index < requests.length)
    (small : index < 2 ^ 31) : (readPacketSeqno (payloads.getD index [])).map UInt64.toNat = some index := by
  obtain ⟨made, found, generated⟩ := fields index _ (List.getElem?_eq_getElem inside)
  rw [List.getD, found, Option.getD_some, generated_seqno generated (sizes _ (List.getElem_mem inside)),
    Option.map_some]
  exact congrArg some ((carriedSeqno_eq_iff index).mpr (.inl small))

theorem counts_of_run {requests : List PayloadRequest} (few : requests.length ≤ 2 ^ 31)
    (produced : generateAll md5 freshGenerator requests = some payloads) {history : List Operation}
    (whole : ∀ operation ∈ history, operation.Whole)
    (received : (history.filterMap Operation.data).Sublist payloads) {id : Int32} {validator : Validator}
    (ran : Validator.run md5 { id } history = some validator) :
    validator.Counts id (history.filterMap Operation.data) ∧
      sentUpTo (history.filterMap Operation.data) ≤ payloads.length := by
  have sizes := generateAll_sizes freshGenerator rfl produced
  obtain ⟨same, again, length, fields⟩ := generateAll_spec md5 freshGenerator rfl requests sizes
  cases Option.some.inj (produced.symm.trans again)
  obtain ⟨indices, packets, increasing, inside⟩ := exists_places received
  obtain ⟨schedule, rfl, taken⟩ := exists_schedule history whole indices packets
  obtain ⟨final, completed, reorder, bounded, integrity⟩ := run_deliveries sizes few fields schedule { id } 0 0 le_rfl
    rfl rfl (taken ▸ increasing) (by rw [taken]; exact fun index member => ⟨Nat.zero_le _, length ▸ inside index member⟩)
  cases Option.some.inj (completed.symm.trans ran)
  rw [taken, Nat.zero_add] at reorder bounded
  have last : sentUpTo (indices.map (payloads.getD · [])) = advanceOver 0 indices ∧
      advanceOver 0 indices ≤ payloads.length := by
    cases final : indices.getLast? with
    | none =>
        rw [List.getLast?_eq_none_iff.mp final]
        exact ⟨rfl, Nat.zero_le _⟩
    | some index =>
        have within := inside index (List.mem_of_getLast? final)
        obtain ⟨seqno, read, value⟩ := Option.map_eq_some_iff.mp
          (fields.readPacketSeqno sizes (length ▸ within) (by omega))
        rw [advanceOver_last 0 index indices final, sentUpTo, List.getLast?_map, final, Option.map_some, Option.bind_some,
          read, Option.elim_some, value]
        exact ⟨rfl, by omega⟩
  rw [packets]
  refine ⟨⟨Validator.run_id ran, ?_, ?_, ?_, ?_⟩, last.1 ▸ last.2⟩
  · rw [reorder, lossyCounters, UInt64.toNat_ofNat', List.length_map]
    omega
  · rw [reorder, lossyCounters, UInt64.toNat_ofNat', List.length_map, last.1]
    omega
  · rw [reorder]
    exact ⟨rfl, rfl⟩
  · rw [integrity]
    exact ⟨rfl, rfl⟩

end Counters

def MetricsRow.packets (row : MetricsRow) (pipe : ReceivePipe) : List (List UInt8) :=
  (pipe.history.take row.count).filterMap Operation.data

def twoRequests : List PayloadRequest := List.replicate 2 ⟨⟨0, 0⟩, List.replicate 56 0⟩

def interleavedReception (first second : List UInt8) : List ReceptionEvent :=
  [.connect 7, .connect 9, .addValidator 1, .launch 1, .addValidator 0, .launch 0, .read 0 ⟨0, 0⟩ second,
    .checkStop, .beginPass, .printNext none, .read 1 ⟨0, 0⟩ first, .printNext none, .endPass]

def twoPayloads : List (List UInt8) := (generateAll firstPacketsMd5 freshGenerator twoRequests).getD []

end XTransmit.Metrics
