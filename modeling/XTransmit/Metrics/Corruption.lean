import XTransmit.Metrics.Bounds

set_option autoImplicit false

namespace XTransmit.Metrics

structure Readings where
  latencyMin : Int64
  latencyMax : Int64
  latencyAvg : Int64
  jitter : UInt64
  delayFactor : Int64
  expectedSeqno : UInt64
  pktsLost : UInt64
  pktsReordered : UInt64
  reorderDist : UInt64

def Validator.readings (validator : Validator) : Readings where
  latencyMin := validator.latency.latencyMin
  latencyMax := validator.latency.latencyMax
  latencyAvg := validator.latency.latencyAvg
  jitter := validator.jitter.getJitter
  delayFactor := validator.delayFactor.getDelayFactor
  expectedSeqno := validator.reorder.expectedSeqno
  pktsLost := validator.reorder.pktsLost
  pktsReordered := validator.reorder.pktsReordered
  reorderDist := validator.reorder.reorderDist

namespace Operation

def isReport : Operation → Bool
  | .packet .. => false
  | .stats => true
  | .statsCsv _ => true

def corrupted (md5 : Md5) : Operation → Bool
  | .packet _ buffer size => validatePacketChecksum md5 buffer size = some false
  | _ => false

/-- A packet holds the header and the digest, and lies in the receive buffer. -/
def Sized : Operation → Prop
  | .packet _ buffer size => 56 ≤ size ∧ size ≤ buffer.length
  | _ => True

end Operation

def Validator.reports (md5 : Md5) : Validator → List Operation → Option (List Readings)
  | _, [] => some []
  | validator, operation :: rest => do
      let next ← validator.apply md5 operation
      let later ← Validator.reports md5 next rest
      return if operation.isReport then validator.readings :: later else later

def Validator.Balanced (validator : Validator) : Prop :=
  validator.reorder.expectedSeqno + validator.reorder.pktsReordered + validator.integrity.pktsWrongChecksum =
    validator.reorder.pktsProcessed + validator.reorder.pktsLost

def Validator.uncounted (validator : Validator) : Validator :=
  { validator with
    reorder := { validator.reorder with pktsProcessed := 0 }
    integrity := {} }

theorem readings_uncounted (validator : Validator) : validator.uncounted.readings = validator.readings := rfl

theorem submitSample_uncounted (stats : ReorderStats) (pktSeqno : UInt64) :
    { ({ stats with pktsProcessed := 0 }.submitSample pktSeqno).1 with pktsProcessed := 0 } =
      { (stats.submitSample pktSeqno).1 with pktsProcessed := 0 } := by
  simp only [ReorderStats.submitSample]
  split
  next => rfl
  next => split <;> rfl

theorem submitFields_uncounted (validator : Validator) (now : ClockReadings) (size : Nat) (fields : PacketFields) :
    (validator.uncounted.submitFields now size fields).uncounted =
      (validator.submitFields now size fields).uncounted := by
  cases matched : fields.checksumMatch with
  | false => simp [Validator.submitFields, Validator.uncounted, ReorderStats.incPktsReceived, matched]
  | true =>
      have sampled := submitSample_uncounted validator.reorder fields.pktSeqno
      simpa [Validator.submitFields, Validator.uncounted, matched] using sampled

theorem submitFields_corrupted (validator : Validator) (now : ClockReadings) (size : Nat) (fields : PacketFields)
    (corrupted : fields.checksumMatch = false) :
    (validator.submitFields now size fields).uncounted = validator.uncounted := by
  simp [Validator.submitFields, Validator.uncounted, ReorderStats.incPktsReceived, corrupted]

theorem resetPeriod_uncounted (validator : Validator) :
    validator.uncounted.resetPeriod.uncounted = validator.resetPeriod.uncounted := rfl

theorem submitSample_balanced (stats : ReorderStats) (pktSeqno wrong : UInt64)
    (balanced : stats.expectedSeqno + stats.pktsReordered + wrong = stats.pktsProcessed + stats.pktsLost) :
    (stats.submitSample pktSeqno).1.expectedSeqno + (stats.submitSample pktSeqno).1.pktsReordered + wrong =
      (stats.submitSample pktSeqno).1.pktsProcessed + (stats.submitSample pktSeqno).1.pktsLost := by
  simp only [ReorderStats.submitSample]
  split
  next => grind
  next =>
    split
    next => grind
    next => grind

theorem submitFields_balanced (validator : Validator) (now : ClockReadings) (size : Nat) (fields : PacketFields)
    (balanced : validator.Balanced) : (validator.submitFields now size fields).Balanced := by
  unfold Validator.Balanced at balanced ⊢
  rw [submitFields_wrongChecksum]
  cases matched : fields.checksumMatch with
  | false =>
      simp only [Validator.submitFields, ReorderStats.incPktsReceived, matched, Bool.not_false, if_true,
        Bool.false_eq_true, if_false]
      grind
  | true => simpa [Validator.submitFields, matched] using submitSample_balanced _ fields.pktSeqno _ balanced

structure Applies (md5 : Md5) (operation : Operation) (advance : Validator → Validator) : Prop where
  apply : ∀ validator : Validator, validator.apply md5 operation = some (advance validator)
  uncounted : ∀ validator, (advance validator.uncounted).uncounted = (advance validator).uncounted
  corrupted : operation.corrupted md5 = true → ∀ validator, (advance validator).uncounted = validator.uncounted
  balanced : ∀ validator, validator.Balanced → (advance validator).Balanced

theorem report_applies {md5 : Md5} {operation : Operation} (intact : operation.corrupted md5 = false)
    (resets : ∀ validator : Validator, validator.apply md5 operation = some validator.resetPeriod) :
    Applies md5 operation Validator.resetPeriod where
  apply := resets
  uncounted := resetPeriod_uncounted
  corrupted := fun corrupted => by simp [intact] at corrupted
  balanced := fun _ balanced => balanced

theorem packet_applies (md5 : Md5) (now : ClockReadings) (buffer : List UInt8) (size : Nat) (fits : 56 ≤ size)
    (held : size ≤ buffer.length) : ∃ advance, Applies md5 (.packet now buffer size) advance := by
  obtain ⟨fields, read, matched⟩ := readPacketFields_checksum md5 size buffer _ (by omega)
    (checksumInput_eq_some buffer size fits held)
  refine ⟨fun validator => validator.submitFields now size fields, ?_, ?_, ?_, ?_⟩
  · intro validator
    simp [Validator.apply, validatePacket, read]
  · intro validator
    exact submitFields_uncounted validator now size fields
  · intro corrupted validator
    apply submitFields_corrupted
    simpa [Operation.corrupted, validatePacketChecksum_eq_some md5 buffer size fits held, matched] using corrupted
  · intro validator balanced
    exact submitFields_balanced validator now size fields balanced

theorem operation_applies (md5 : Md5) (operation : Operation) (sized : operation.Sized) :
    ∃ advance, Applies md5 operation advance := by
  cases operation with
  | packet now buffer size => exact packet_applies md5 now buffer size sized.1 sized.2
  | stats => exact ⟨_, report_applies rfl fun _ => rfl⟩
  | statsCsv timepoint => exact ⟨_, report_applies rfl fun _ => rfl⟩

theorem corrupted_silent {md5 : Md5} {operation : Operation} (corrupted : operation.corrupted md5 = true) :
    operation.isReport = false := by
  cases operation with
  | packet now buffer size => rfl
  | stats => cases corrupted
  | statsCsv timepoint => cases corrupted

def withoutCorrupted (md5 : Md5) (operations : List Operation) : List Operation :=
  operations.filter fun operation => !operation.corrupted md5

theorem reports_withoutCorrupted (md5 : Md5) (operations : List Operation)
    (sized : ∀ operation ∈ operations, operation.Sized) (left right : Validator)
    (same : left.uncounted = right.uncounted) :
    ∃ reports, left.reports md5 operations = some reports ∧
      right.reports md5 (withoutCorrupted md5 operations) = some reports := by
  induction operations generalizing left right with
  | nil => exact ⟨[], rfl, rfl⟩
  | cons operation rest ih =>
      obtain ⟨advance, applies⟩ := operation_applies md5 operation (sized operation (by simp))
      have restSized := fun later member => sized later (List.mem_cons_of_mem operation member)
      have readings : left.readings = right.readings := by
        rw [← readings_uncounted, same, readings_uncounted]
      cases corrupted : operation.corrupted md5 with
      | true =>
          have silent := corrupted_silent corrupted
          obtain ⟨reports, all, kept⟩ := ih restSized (advance left) right
            ((applies.corrupted corrupted left).trans same)
          refine ⟨reports, ?_, ?_⟩
          · simp [Validator.reports, applies.apply, all, silent]
          · simpa [withoutCorrupted, corrupted] using kept
      | false =>
          have stepped : (advance left).uncounted = (advance right).uncounted := by
            rw [← applies.uncounted, same, applies.uncounted]
          obtain ⟨reports, all, kept⟩ := ih restSized (advance left) (advance right) stepped
          have kept : (advance right).reports md5 (rest.filter fun later => !later.corrupted md5) = some reports := kept
          refine ⟨if operation.isReport then left.readings :: reports else reports, ?_, ?_⟩
          · simp [Validator.reports, applies.apply, all]
          · simp [withoutCorrupted, corrupted, Validator.reports, applies.apply, kept, readings]

theorem run_balanced (md5 : Md5) (operations : List Operation)
    (sized : ∀ operation ∈ operations, operation.Sized) (validator : Validator) (balanced : validator.Balanced) :
    ∃ final, validator.run md5 operations = some final ∧ final.Balanced := by
  induction operations generalizing validator with
  | nil => exact ⟨validator, rfl, balanced⟩
  | cons operation rest ih =>
      obtain ⟨advance, applies⟩ := operation_applies md5 operation (sized operation (by simp))
      obtain ⟨final, reached, kept⟩ := ih (fun later member => sized later (List.mem_cons_of_mem _ member))
        (advance validator) (applies.balanced validator balanced)
      refine ⟨final, ?_, kept⟩
      simpa [Validator.run, applies.apply] using reached

theorem corrupted_packets_leave_metrics (md5 : Md5) (id : Int32) (operations : List Operation)
    (sized : ∀ operation ∈ operations, operation.Sized) :
    (∃ reports, Validator.reports md5 { id } operations = some reports ∧
      Validator.reports md5 { id } (withoutCorrupted md5 operations) = some reports) ∧
    ∃ final, Validator.run md5 { id } operations = some final ∧ final.Balanced :=
  ⟨reports_withoutCorrupted md5 operations sized { id } { id } rfl,
    run_balanced md5 operations sized { id } rfl⟩

theorem corrupted_packets_leave_metrics_between_reports :
    ∃ final, Validator.run (fun _ => zeroRunDigest) { id := 0 }
        [.stats, .packet ⟨0, 0⟩ (List.replicate 56 0) 56, .stats] = some final ∧ final.Balanced :=
  (corrupted_packets_leave_metrics (fun _ => zeroRunDigest) 0
    [.stats, .packet ⟨0, 0⟩ (List.replicate 56 0) 56, .stats]
    (by simp [Operation.Sized])).2

end XTransmit.Metrics
