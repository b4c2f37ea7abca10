import XTransmit.Metrics.Payload
import Mathlib.Data.Rat.Floor

set_option autoImplicit false

namespace XTransmit.Metrics

-- Durations and time points are 64-bit nanosecond counts, and signed overflow wraps; the `double` of the jitter
-- estimator is a rational.
structure Latency where
  latencyMin : Int64 := Int64.maxValue
  latencyMax : Int64 := Int64.minValue
  latencyAvg : Int64 := -1

def Latency.submitSample (latency : Latency) (timestamp arrivalTime : Int64) : Latency :=
  let delay := durationCastMicroseconds (arrivalTime - timestamp)
  { latencyMax := max latency.latencyMax delay
    latencyMin := min latency.latencyMin delay
    latencyAvg :=
      if latency.latencyAvg ≠ -1 then (latency.latencyAvg * 15 + delay) / 16 else delay }

def Latency.reset (latency : Latency) : Latency :=
  { latency with latencyMin := Int64.maxValue, latencyMax := Int64.minValue }

structure Jitter where
  prevDelay : Int64 := 0
  jitter : ℚ := 0

def Jitter.submitSample (estimate : Jitter) (timestamp arrivalTime : Int64) : Jitter :=
  let delay := arrivalTime - timestamp
  let relativeTransitTime :=
    (durationCastMicroseconds (delay - estimate.prevDelay)).toInt.natAbs
  { prevDelay := delay
    jitter :=
      if estimate.prevDelay ≠ 0 then (estimate.jitter * 15 + relativeTransitTime) / 16
      else estimate.jitter }

def Jitter.getJitter (estimate : Jitter) : UInt64 := UInt64.ofNat ⌊estimate.jitter⌋.toNat

structure DelayFactor where
  isReferencePacket : Bool := true
  referenceDelay : Int64 := 0
  relativeTransitTimeMin : Int64 := Int64.maxValue
  relativeTransitTimeMax : Int64 := Int64.minValue

def DelayFactor.submitSample (factor : DelayFactor) (timestamp arrivalTime : Int64) : DelayFactor :=
  let delay := arrivalTime - timestamp
  if factor.isReferencePacket then
    { factor with referenceDelay := delay, isReferencePacket := false }
  else
    let relativeTransitTime := durationCastMicroseconds (delay - factor.referenceDelay)
    { factor with
      relativeTransitTimeMax := max factor.relativeTransitTimeMax relativeTransitTime
      relativeTransitTimeMin := min factor.relativeTransitTimeMin relativeTransitTime }

def DelayFactor.reset (_ : DelayFactor) : DelayFactor := {}

def DelayFactor.getDelayFactor (factor : DelayFactor) : Int64 :=
  factor.relativeTransitTimeMax - factor.relativeTransitTimeMin

structure ReorderStats where
  expectedSeqno : UInt64 := 0
  pktsProcessed : UInt64 := 0
  pktsLost : UInt64 := 0
  pktsReordered : UInt64 := 0
  reorderDist : UInt64 := 0
deriving DecidableEq

inductive ReorderReport where
  | loss (lost expected seqno : UInt64)
  | reordering (seqno expected dist : UInt64)
deriving DecidableEq

def ReorderStats.submitSample (stats : ReorderStats) (pktSeqno : UInt64) :
    ReorderStats × Option ReorderReport :=
  let stats := { stats with pktsProcessed := stats.pktsProcessed + 1 }
  if pktSeqno = stats.expectedSeqno then
    ({ stats with expectedSeqno := stats.expectedSeqno + 1 }, none)
  else if pktSeqno > stats.expectedSeqno then
    let lost := pktSeqno - stats.expectedSeqno
    ({ stats with pktsLost := stats.pktsLost + lost, expectedSeqno := pktSeqno + 1 },
      some (.loss lost stats.expectedSeqno pktSeqno))
  else
    let reorderDist := stats.expectedSeqno - pktSeqno
    ({ stats with
        pktsReordered := stats.pktsReordered + 1
        reorderDist := max stats.reorderDist reorderDist },
      some (.reordering pktSeqno stats.expectedSeqno reorderDist))

def ReorderStats.incPktsReceived (stats : ReorderStats) : ReorderStats :=
  { stats with pktsProcessed := stats.pktsProcessed + 1 }

structure IntegrityStats where
  pktsWrongLen : UInt64 := 0
  pktsWrongChecksum : UInt64 := 0
deriving DecidableEq

inductive IntegrityReport where
  | length (seqno expected actual : UInt64)
  | checksum (seqno : UInt64)
deriving DecidableEq

def IntegrityStats.submitSample (stats : IntegrityStats) (pktSeqno expectedLen actualLen : UInt64)
    (isValidChecksum : Bool) : IntegrityStats × List IntegrityReport :=
  let isCorrectLength : Bool := expectedLen = actualLen
  ({ pktsWrongLen := if !isCorrectLength then stats.pktsWrongLen + 1 else stats.pktsWrongLen
     pktsWrongChecksum :=
      if !isValidChecksum then stats.pktsWrongChecksum + 1 else stats.pktsWrongChecksum },
    (if !isCorrectLength then [.length pktSeqno expectedLen actualLen] else []) ++
      if !isValidChecksum then [.checksum pktSeqno] else [])

@[simp] theorem integritySample_correct (stats : IntegrityStats) (pktSeqno length : UInt64) :
    stats.submitSample pktSeqno length length true = (stats, []) := by
  simp [IntegrityStats.submitSample]

@[simp] theorem submitSample_expected (stats : ReorderStats) :
    stats.submitSample stats.expectedSeqno =
      ({ stats with
          pktsProcessed := stats.pktsProcessed + 1
          expectedSeqno := stats.expectedSeqno + 1 }, none) := by
  simp [ReorderStats.submitSample]

theorem submitSample_ahead (stats : ReorderStats) (pktSeqno : UInt64)
    (ahead : stats.expectedSeqno < pktSeqno) :
    stats.submitSample pktSeqno =
      ({ stats with
          pktsProcessed := stats.pktsProcessed + 1
          pktsLost := stats.pktsLost + (pktSeqno - stats.expectedSeqno)
          expectedSeqno := pktSeqno + 1 },
        some (.loss (pktSeqno - stats.expectedSeqno) stats.expectedSeqno pktSeqno)) := by
  have different : pktSeqno ≠ stats.expectedSeqno := fun same => by simp [same] at ahead
  simp [ReorderStats.submitSample, different, ahead]

theorem submitSample_silent (stats : ReorderStats) (pktSeqno : UInt64) :
    (stats.submitSample pktSeqno).2 = none ↔ pktSeqno = stats.expectedSeqno := by
  unfold ReorderStats.submitSample
  by_cases same : pktSeqno = stats.expectedSeqno
  · simp [same]
  · simp only [same, if_false, iff_false]
    split <;> simp

end XTransmit.Metrics
