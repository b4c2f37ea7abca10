import XTransmit.Metrics.Validator

set_option autoImplicit false

namespace XTransmit.Metrics

open Bytes

structure PayloadRequest where
  now : ClockReadings
  payload : List UInt8

def generateAll (md5 : Md5) : Generator → List PayloadRequest → Option (List (List UInt8))
  | _, [] => some []
  | generator, request :: rest => do
      let (generator, made) ← generatePayload md5 request.now generator request.payload
      let others ← generateAll md5 generator rest
      return made :: others

def Generator.advance (generator : Generator) (count : Nat) : Generator :=
  { generator with seqno := generator.seqno + UInt64.ofNat count }

@[simp] theorem advance_zero (generator : Generator) : generator.advance 0 = generator := by
  simp [Generator.advance]

theorem add_ofNat_succ (base : UInt64) (count : Nat) :
    base + UInt64.ofNat (count + 1) = base + 1 + UInt64.ofNat count := by
  rw [Nat.add_comm count 1, UInt64.ofNat_add, ← UInt64.add_assoc]
  rfl

@[simp] theorem advance_next (generator : Generator) (count : Nat) :
    generator.next.advance count = generator.advance (count + 1) := by
  simp only [Generator.advance, Generator.next, add_ofNat_succ]

def GeneratedRun (md5 : Md5) (generator : Generator) (requests : List PayloadRequest)
    (payloads : List (List UInt8)) : Prop :=
  ∀ (index : Nat) (request : PayloadRequest), requests[index]? = some request →
    ∃ made, payloads[index]? = some made ∧
      Generated md5 request.now (generator.advance index) request.payload.length made

theorem generateAll_spec (md5 : Md5) (generator : Generator) (enabled : generator.enableMetrics = true)
    (requests : List PayloadRequest) (sizes : ∀ request ∈ requests, 56 ≤ request.payload.length) :
    ∃ payloads, generateAll md5 generator requests = some payloads ∧
      payloads.length = requests.length ∧ GeneratedRun md5 generator requests payloads := by
  induction requests generalizing generator with
  | nil => exact ⟨[], rfl, rfl, by simp [GeneratedRun]⟩
  | cons head rest ih =>
      have fits := sizes head (by simp)
      obtain ⟨others, produced, length, fields⟩ := ih generator.next enabled
        (fun request member => sizes request (List.mem_cons_of_mem _ member))
      refine ⟨packet md5 head.now generator head.payload.length :: others, ?_, by simp [length], ?_⟩
      · simp [generateAll, generatePayload_eq_some md5 head.now generator enabled head.payload fits, produced]
      · intro index request found
        cases index with
        | zero =>
            cases Option.some.inj found
            refine ⟨_, rfl, ?_⟩
            rw [advance_zero]
            exact packet_generated md5 head.now generator head.payload.length fits
        | succ index =>
            rw [← advance_next]
            exact fields index request found

theorem generateAll_sizes {md5 : Md5} (generator : Generator) (enabled : generator.enableMetrics = true)
    {requests : List PayloadRequest} {payloads : List (List UInt8)}
    (produced : generateAll md5 generator requests = some payloads) :
    ∀ request ∈ requests, 56 ≤ request.payload.length := by
  induction requests generalizing generator payloads with
  | nil => simp
  | cons head rest ih =>
      obtain ⟨⟨next, made⟩, first, remaining⟩ := Option.bind_eq_some_iff.mp produced
      obtain ⟨others, later, -⟩ := Option.bind_eq_some_iff.mp remaining
      have fits := generatePayload_length enabled first
      rw [generatePayload_eq_some md5 head.now generator enabled head.payload fits] at first
      cases Option.some.inj first
      intro request member
      rcases List.mem_cons.mp member with same | inside
      · rw [same]
        exact fits
      · exact ih generator.next enabled later request inside

def ReorderStats.run : ReorderStats → List UInt64 → ReorderStats × List ReorderReport
  | stats, [] => (stats, [])
  | stats, pktSeqno :: rest =>
      let sample := stats.submitSample pktSeqno
      let later := ReorderStats.run sample.1 rest
      (later.1, sample.2.toList ++ later.2)

theorem reorder_run_silent (stats : ReorderStats) (seqnos : List UInt64) :
    (stats.run seqnos).2 = [] ↔
      ∀ (index : Nat) (pktSeqno : UInt64), seqnos[index]? = some pktSeqno →
        pktSeqno = stats.expectedSeqno + UInt64.ofNat index := by
  induction seqnos generalizing stats with
  | nil => simp [ReorderStats.run]
  | cons head rest ih =>
      rw [ReorderStats.run, List.append_eq_nil_iff, ih, Option.toList_eq_nil_iff, submitSample_silent]
      constructor
      · rintro ⟨expected, later⟩ index pktSeqno found
        cases index with
        | zero =>
            cases Option.some.inj found
            simp [expected]
        | succ index =>
            rw [later index pktSeqno found, expected, submitSample_expected, add_ofNat_succ]
      · intro consecutive
        have expected : head = stats.expectedSeqno := by simpa using consecutive 0 head rfl
        refine ⟨expected, ?_⟩
        intro index pktSeqno found
        rw [consecutive (index + 1) pktSeqno found, expected, submitSample_expected, add_ofNat_succ]

def freshGenerator : Generator := { enableMetrics := true }

def AllFit (requests : List PayloadRequest) : Prop :=
  ∀ request ∈ requests, 56 ≤ request.payload.length

def CarriesAt (md5 : Md5) (requests : List PayloadRequest) (index : Nat) : Prop :=
  ∃ payloads made seqno, generateAll md5 freshGenerator requests = some payloads ∧
    payloads[index]? = some made ∧ readPacketSeqno made = some seqno ∧ seqno.toNat = index

def SilentInOrder (md5 : Md5) (requests : List PayloadRequest) : Prop :=
  ∃ payloads seqnos, generateAll md5 freshGenerator requests = some payloads ∧
    payloads.map readPacketSeqno = seqnos.map some ∧ (ReorderStats.run {} seqnos).2 = []

theorem generated_seqno {md5 : Md5} {now : ClockReadings} {generator : Generator} {size : Nat}
    {made : List UInt8} (fields : Generated md5 now generator size made) (fits : 56 ≤ size) :
    readPacketSeqno made = some (seqnoWord generator) := by
  simpa using fields.readPacketSeqno fits []

def carriedSeqno (index : Nat) : UInt64 := seqnoWord (freshGenerator.advance index)

theorem carriedSeqno_toNat (index : Nat) :
    (carriedSeqno index).toNat =
      if index % 2 ^ 32 < 2 ^ 31 then index % 2 ^ 32 else 2 ^ 64 - 2 ^ 32 + index % 2 ^ 32 := by
  have counter : (freshGenerator.advance index).seqno.toNat % 2 ^ 32 = index % 2 ^ 32 := by
    simp [Generator.advance, freshGenerator]
  rw [carriedSeqno, seqnoWord_toNat, counter]

theorem carriedSeqno_eq_iff (index : Nat) :
    (carriedSeqno index).toNat = index ↔
      index < 2 ^ 31 ∨ 2 ^ 64 - 2 ^ 31 ≤ index ∧ index < 2 ^ 64 := by
  rw [carriedSeqno_toNat]
  split <;> omega

theorem carriedSeqno_small (index : Nat) (small : index < 2 ^ 31) :
    carriedSeqno index = UInt64.ofNat index := by
  apply UInt64.toNat_inj.mp
  rw [(carriedSeqno_eq_iff index).mpr (.inl small), UInt64.toNat_ofNat']
  omega

theorem carriedSeqnos_getElem? (count index : Nat) (word : UInt64) :
    ((List.range count).map carriedSeqno)[index]? = some word ↔
      index < count ∧ carriedSeqno index = word := by
  rw [List.getElem?_map, Option.map_eq_some_iff]
  constructor
  · rintro ⟨position, found, carried⟩
    obtain ⟨inside, same⟩ := List.getElem?_eq_some_iff.mp found
    rw [List.getElem_range] at same
    rw [same]
    exact ⟨by simpa [same] using inside, carried⟩
  · rintro ⟨inside, carried⟩
    exact ⟨index, by simp [inside], carried⟩

theorem generateAll_seqnos (md5 : Md5) (requests : List PayloadRequest) (sizes : AllFit requests) :
    ∃ payloads, generateAll md5 freshGenerator requests = some payloads ∧
      payloads.map readPacketSeqno = ((List.range requests.length).map carriedSeqno).map some := by
  obtain ⟨payloads, produced, length, fields⟩ := generateAll_spec md5 freshGenerator rfl requests sizes
  refine ⟨payloads, produced, ?_⟩
  apply List.ext_getElem?
  intro index
  by_cases inside : index < requests.length
  · obtain ⟨made, found, generated⟩ := fields index _ (List.getElem?_eq_getElem inside)
    simp [found, inside, generated_seqno generated (sizes _ (List.getElem_mem inside)), carriedSeqno]
  · rw [List.getElem?_eq_none (by simp [length]; omega), List.getElem?_eq_none (by simp; omega)]

theorem carriesAt_iff (md5 : Md5) (requests : List PayloadRequest) (index : Nat) :
    CarriesAt md5 requests index ↔ AllFit requests ∧ index < requests.length ∧
      (index < 2 ^ 31 ∨ 2 ^ 64 - 2 ^ 31 ≤ index ∧ index < 2 ^ 64) := by
  constructor
  · rintro ⟨payloads, made, seqno, produced, found, read, carried⟩
    have sizes := generateAll_sizes freshGenerator rfl produced
    obtain ⟨same, again, seqnos⟩ := generateAll_seqnos md5 requests sizes
    cases Option.some.inj (produced.symm.trans again)
    have cell := congrArg (·[index]?) seqnos
    rw [List.getElem?_map, found, Option.map_some, read, List.getElem?_map] at cell
    obtain ⟨word, wordFound, wordEq⟩ := Option.map_eq_some_iff.mp cell.symm
    obtain ⟨inside, exact⟩ := (carriedSeqnos_getElem? _ _ _).mp wordFound
    rw [Option.some.inj wordEq] at exact
    exact ⟨sizes, inside, (carriedSeqno_eq_iff index).mp (exact ▸ carried)⟩
  · rintro ⟨sizes, inside, carried⟩
    obtain ⟨payloads, produced, length, fields⟩ :=
      generateAll_spec md5 freshGenerator rfl requests sizes
    obtain ⟨made, found, generated⟩ := fields index _ (List.getElem?_eq_getElem inside)
    exact ⟨payloads, made, _, produced, found,
      generated_seqno generated (sizes _ (List.getElem_mem inside)),
      (carriedSeqno_eq_iff index).mpr carried⟩

theorem silentInOrder_iff (md5 : Md5) (requests : List PayloadRequest) :
    SilentInOrder md5 requests ↔ AllFit requests ∧ requests.length ≤ 2 ^ 31 := by
  constructor
  · rintro ⟨payloads, seqnos, produced, read, silent⟩
    have sizes := generateAll_sizes freshGenerator rfl produced
    obtain ⟨same, again, carried⟩ := generateAll_seqnos md5 requests sizes
    cases Option.some.inj (produced.symm.trans again)
    have words : seqnos = (List.range requests.length).map carriedSeqno :=
      List.map_injective_iff.mpr (Option.some_injective _) (read.symm.trans carried)
    refine ⟨sizes, ?_⟩
    -- Number 2^31 comes out sign-extended: the tracker sees a gap.
    by_contra long
    have jump := (reorder_run_silent {} seqnos).mp silent (2 ^ 31) (carriedSeqno (2 ^ 31))
      (by rw [words, carriedSeqnos_getElem?]; exact ⟨by omega, rfl⟩)
    have value := carriedSeqno_toNat (2 ^ 31)
    rw [jump] at value
    exact absurd value (by decide)
  · rintro ⟨sizes, short⟩
    obtain ⟨payloads, produced, carried⟩ := generateAll_seqnos md5 requests sizes
    refine ⟨payloads, _, produced, carried, (reorder_run_silent {} _).mpr ?_⟩
    intro index pktSeqno found
    obtain ⟨inside, same⟩ := (carriedSeqnos_getElem? _ _ _).mp found
    rw [← same, carriedSeqno_small index (by omega), UInt64.zero_add]

theorem sequence_numbers_iff (md5 : Md5) (requests : List PayloadRequest) :
    (∀ index, CarriesAt md5 requests index ↔ AllFit requests ∧ index < requests.length ∧
        (index < 2 ^ 31 ∨ 2 ^ 64 - 2 ^ 31 ≤ index ∧ index < 2 ^ 64)) ∧
      (SilentInOrder md5 requests ↔ AllFit requests ∧ requests.length ≤ 2 ^ 31) :=
  ⟨carriesAt_iff md5 requests, silentInOrder_iff md5 requests⟩

def jumpRequests : List PayloadRequest :=
  List.replicate (2 ^ 31 + 1) ⟨⟨0, 0⟩, List.replicate 56 0⟩

theorem sequence_number_jumps :
    (∃ payloads made, generateAll (fun _ => zeroRunDigest) freshGenerator jumpRequests = some payloads ∧
        payloads[2 ^ 31]? = some made ∧ readPacketSeqno made = some 18446744071562067968) ∧
      ¬ SilentInOrder (fun _ => zeroRunDigest) jumpRequests := by
  have sizes : AllFit jumpRequests := by
    intro request member
    rw [(List.mem_replicate.mp member).2]
    simp
  have length : jumpRequests.length = 2 ^ 31 + 1 := List.length_replicate
  constructor
  · obtain ⟨payloads, produced, -, fields⟩ :=
      generateAll_spec (fun _ => zeroRunDigest) freshGenerator rfl jumpRequests sizes
    have inside : 2 ^ 31 < jumpRequests.length := by omega
    obtain ⟨made, found, generated⟩ := fields (2 ^ 31) _ (List.getElem?_eq_getElem inside)
    have word : carriedSeqno (2 ^ 31) = 18446744071562067968 := by
      apply UInt64.toNat_inj.mp
      rw [carriedSeqno_toNat]
      decide
    exact ⟨payloads, made, produced, found,
      word ▸ generated_seqno generated (sizes _ (List.getElem_mem inside))⟩
  · intro silent
    have short := ((silentInOrder_iff _ _).mp silent).2
    omega

inductive Delivery where
  | packet (index : Nat) (now : ClockReadings) (leftover : List UInt8)
  | stats
  | statsCsv (timepoint : Option String)

-- The packet lands in front of whatever the receive buffer still holds.
def Delivery.operation (payloads : List (List UInt8)) : Delivery → Operation
  | .packet index now leftover =>
      .packet now (payloads.getD index [] ++ leftover) (payloads.getD index []).length
  | .stats => .stats
  | .statsCsv timepoint => .statsCsv timepoint

def Delivery.received : Delivery → Option Nat
  | .packet index _ _ => some index
  | _ => none

def lossyCounters (expected count : Nat) : ReorderStats :=
  { expectedSeqno := UInt64.ofNat expected
    pktsProcessed := UInt64.ofNat count
    pktsLost := UInt64.ofNat (expected - count) }

theorem lossyCounters_submit (expected count index : Nat) (counted : count ≤ expected)
    (ahead : expected ≤ index) (small : index < 2 ^ 31) :
    ((lossyCounters expected count).submitSample (UInt64.ofNat index)).1 =
      lossyCounters (index + 1) (count + 1) := by
  rcases Nat.eq_or_lt_of_le ahead with same | gap
  · have lost : index + 1 - (count + 1) = expected - count := by omega
    rw [← same] at lost ⊢
    have sample := submitSample_expected (lossyCounters expected count)
    simp only [lossyCounters] at sample ⊢
    rw [sample, lost, UInt64.ofNat_add, UInt64.ofNat_add]
    rfl
  · have above : (lossyCounters expected count).expectedSeqno < UInt64.ofNat index := by
      rw [UInt64.lt_iff_toNat_lt, lossyCounters, UInt64.toNat_ofNat', UInt64.toNat_ofNat']
      omega
    have lost : UInt64.ofNat (expected - count) + (UInt64.ofNat index - UInt64.ofNat expected) =
        UInt64.ofNat (index + 1 - (count + 1)) := by
      rw [← UInt64.ofNat_sub (by omega), ← UInt64.ofNat_add]
      congr 1
      omega
    rw [submitSample_ahead _ _ above]
    simp only [lossyCounters]
    rw [lost, UInt64.ofNat_add, UInt64.ofNat_add]
    rfl

def advanceOver (expected : Nat) : List Nat → Nat
  | [] => expected
  | index :: rest => advanceOver (index + 1) rest

theorem advanceOver_last (expected last : Nat) (indices : List Nat)
    (final : indices.getLast? = some last) : advanceOver expected indices = last + 1 := by
  induction indices generalizing expected with
  | nil => simp at final
  | cons index rest ih =>
      cases rest with
      | nil =>
          cases Option.some.inj final
          rfl
      | cons next rest => exact ih (index + 1) (by simpa using final)

theorem apply_generated {md5 : Md5} {requests : List PayloadRequest} {payloads : List (List UInt8)}
    (sizes : AllFit requests)
    (fields : GeneratedRun md5 freshGenerator requests payloads)
    (index : Nat) (inside : index < requests.length) (now : ClockReadings) (leftover : List UInt8)
    (validator : Validator) :
    ∃ next, validator.apply md5 ((Delivery.packet index now leftover).operation payloads) = some next ∧
      next.reorder = (validator.reorder.submitSample (carriedSeqno index)).1 ∧
      next.integrity = validator.integrity := by
  obtain ⟨made, found, generated⟩ := fields index _ (List.getElem?_eq_getElem inside)
  have delivered : payloads.getD index [] = made := by simp [List.getD, found]
  have fits := sizes _ (List.getElem_mem inside)
  obtain ⟨next, taken, reorder, integrity⟩ :=
    validatePacket_generated generated fits leftover now validator
  refine ⟨next, ?_, reorder, integrity⟩
  rw [Delivery.operation, delivered, generated.length]
  exact taken

-- The invariant of the run: the tracker is at `lossyCounters` and no integrity error was seen.
theorem run_deliveries {md5 : Md5} {requests : List PayloadRequest} {payloads : List (List UInt8)}
    (sizes : AllFit requests) (few : requests.length ≤ 2 ^ 31)
    (fields : GeneratedRun md5 freshGenerator requests payloads)
    (schedule : List Delivery) (validator : Validator) (expected count : Nat)
    (counted : count ≤ expected) (reorder : validator.reorder = lossyCounters expected count)
    (integrity : validator.integrity = {})
    (increasing : (schedule.filterMap Delivery.received).Pairwise (· < ·))
    (inside : ∀ index ∈ schedule.filterMap Delivery.received,
      expected ≤ index ∧ index < requests.length) :
    ∃ final, validator.run md5 (schedule.map (·.operation payloads)) = some final ∧
      final.reorder = lossyCounters (advanceOver expected (schedule.filterMap Delivery.received))
        (count + (schedule.filterMap Delivery.received).length) ∧
      count + (schedule.filterMap Delivery.received).length ≤
        advanceOver expected (schedule.filterMap Delivery.received) ∧
      final.integrity = {} := by
  induction schedule generalizing validator expected count with
  | nil => exact ⟨validator, rfl, reorder, counted, integrity⟩
  | cons delivery rest ih =>
      cases delivery with
      | packet index now leftover =>
          simp only [List.filterMap_cons, Delivery.received] at increasing inside ⊢
          obtain ⟨ahead, within⟩ := inside index (by simp)
          obtain ⟨next, taken, nextReorder, nextIntegrity⟩ :=
            apply_generated sizes fields index within now leftover validator
          rw [reorder, carriedSeqno_small index (by omega),
            lossyCounters_submit expected count index counted ahead (by omega)] at nextReorder
          obtain ⟨final, completed, finalReorder, bounded, finalIntegrity⟩ := ih next (index + 1) (count + 1)
            (by omega) nextReorder (nextIntegrity.trans integrity) increasing.of_cons
            (fun later member => ⟨List.rel_of_pairwise_cons increasing member,
              (inside later (List.mem_cons_of_mem _ member)).2⟩)
          have shifted : count + (index :: rest.filterMap Delivery.received).length =
              count + 1 + (rest.filterMap Delivery.received).length := by
            rw [List.length_cons]
            omega
          refine ⟨final, ?_, ?_, ?_, finalIntegrity⟩
          · rw [List.map_cons, Validator.run, taken, Option.bind_some, completed]
          · rw [finalReorder, shifted, advanceOver]
          · rw [shifted, advanceOver]
            exact bounded
      | stats | statsCsv =>
          obtain ⟨final, completed, result⟩ :=
            ih validator.resetPeriod expected count counted reorder integrity increasing inside
          exact ⟨final, completed, result⟩

theorem lossy_channel_counters (md5 : Md5) (id : Int32) (requests : List PayloadRequest)
    (few : requests.length ≤ 2 ^ 31) (sizes : AllFit requests) (schedule : List Delivery)
    (increasing : (schedule.filterMap Delivery.received).Pairwise (· < ·))
    (inside : ∀ index ∈ schedule.filterMap Delivery.received, index < requests.length)
    (last : Nat) (final : (schedule.filterMap Delivery.received).getLast? = some last) :
    ∃ payloads validator, generateAll md5 freshGenerator requests = some payloads ∧
      Validator.run md5 { id := id } (schedule.map (·.operation payloads)) = some validator ∧
      validator.reorder.pktsProcessed.toNat = (schedule.filterMap Delivery.received).length ∧
      validator.reorder.pktsLost.toNat = last + 1 - (schedule.filterMap Delivery.received).length ∧
      validator.reorder.pktsReordered = 0 ∧ validator.reorder.reorderDist = 0 ∧
      validator.integrity.pktsWrongChecksum = 0 ∧ validator.integrity.pktsWrongLen = 0 := by
  obtain ⟨payloads, produced, -, fields⟩ := generateAll_spec md5 freshGenerator rfl requests sizes
  obtain ⟨validator, completed, reorder, received, integrity⟩ := run_deliveries sizes few fields schedule
    { id := id } 0 0 le_rfl rfl rfl increasing (fun index member => ⟨Nat.zero_le _, inside index member⟩)
  have within := inside last (List.mem_of_getLast? final)
  rw [advanceOver_last 0 last _ final, Nat.zero_add] at reorder received
  refine ⟨payloads, validator, produced, completed, ?_, ?_, ?_⟩
  · rw [reorder, lossyCounters, UInt64.toNat_ofNat']
    omega
  · rw [reorder, lossyCounters, UInt64.toNat_ofNat']
    omega
  · rw [reorder, integrity]
    exact ⟨rfl, rfl, rfl, rfl⟩

-- The MD5 digests of the first two packets of 56 bytes at clock zero.
def firstPacketsMd5 : Md5 := fun input =>
  if input.head? = some 0 then
    ⟨[54, 20, 206, 230, 177, 119, 60, 14, 149, 156, 4, 209, 37, 209, 205, 180], rfl⟩
  else
    ⟨[223, 254, 1, 26, 17, 71, 35, 4, 153, 196, 91, 8, 46, 209, 153, 187], rfl⟩

theorem lossy_channel_counters_second_only :
    ∃ payloads validator,
      generateAll firstPacketsMd5 freshGenerator
        (List.replicate 2 ⟨⟨0, 0⟩, List.replicate 56 0⟩) = some payloads ∧
      Validator.run firstPacketsMd5 { id := 1 }
        ([Delivery.packet 1 ⟨0, 0⟩ [7], Delivery.stats].map (·.operation payloads)) = some validator ∧
      validator.reorder.pktsProcessed.toNat = 1 ∧ validator.reorder.pktsLost.toNat = 1 := by
  obtain ⟨payloads, validator, produced, completed, processed, lost, -⟩ :=
    lossy_channel_counters firstPacketsMd5 1 (List.replicate 2 ⟨⟨0, 0⟩, List.replicate 56 0⟩)
      (by decide) (by simp [AllFit]) [Delivery.packet 1 ⟨0, 0⟩ [7], Delivery.stats]
      (by decide) (by decide) 1 rfl
  exact ⟨payloads, validator, produced, completed, processed, lost⟩

end XTransmit.Metrics
