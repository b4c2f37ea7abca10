import XTransmit.Metrics.Estimators
import XTransmit.Metrics.PayloadFormat

set_option autoImplicit false

namespace XTransmit.Metrics

open Bytes

structure Validator where
  id : Int32
  latency : Latency := {}
  jitter : Jitter := {}
  delayFactor : DelayFactor := {}
  reorder : ReorderStats := {}
  integrity : IntegrityStats := {}

structure PacketFields where
  pktSeqno : UInt64
  stdTimestamp : Int64
  sysTimestamp : Int64
  pktLength : UInt64
  checksumMatch : Bool

def readPacketFields (md5 : Md5) (buffer : List UInt8) (size : Nat) : Option PacketFields := do
  let pktSeqno ← readPacketSeqno buffer
  let stdTimestamp ← readStdclockTimestamp buffer
  let sysTimestamp ← readSysclockTimestamp buffer
  let pktLength ← readPacketLength buffer
  let checksumMatch ← validatePacketChecksum md5 buffer size
  return { pktSeqno, stdTimestamp, sysTimestamp, pktLength, checksumMatch }

def Validator.submitFields (validator : Validator) (now : ClockReadings) (size : Nat)
    (fields : PacketFields) : Validator :=
  let validator := { validator with
    integrity := (validator.integrity.submitSample fields.pktSeqno fields.pktLength
      (UInt64.ofNat size) fields.checksumMatch).1 }
  if !fields.checksumMatch then
    -- The embedded metadata is probably invalid.
    { validator with reorder := validator.reorder.incPktsReceived }
  else
    { validator with
      latency := validator.latency.submitSample fields.sysTimestamp now.system
      jitter := validator.jitter.submitSample fields.stdTimestamp now.steady
      delayFactor := validator.delayFactor.submitSample fields.stdTimestamp now.steady
      reorder := (validator.reorder.submitSample fields.pktSeqno).1 }

-- `buffer` is the whole receive buffer, `size` the number of bytes that `read` returned.
def validatePacket (md5 : Md5) (now : ClockReadings) (buffer : List UInt8) (size : Nat)
    (validator : Validator) : Option Validator :=
  (readPacketFields md5 buffer size).map (validator.submitFields now size)

def latencyStr (missing : String) (value notAvailable : Int64) : String :=
  if value = notAvailable then missing else toString value

def Validator.resetPeriod (validator : Validator) : Validator :=
  { validator with
    latency := validator.latency.reset
    delayFactor := validator.delayFactor.reset }

def stats (validator : Validator) : String × Validator :=
  let reorder := validator.reorder
  let integrity := validator.integrity
  ("Latency, us: avg " ++ latencyStr "n/a" validator.latency.latencyAvg (-1) ++
    ", min " ++ latencyStr "n/a" validator.latency.latencyMin Int64.maxValue ++
    ", max " ++ latencyStr "n/a" validator.latency.latencyMax Int64.minValue ++
    ". Jitter: " ++ toString validator.jitter.getJitter ++ "us. " ++
    "Delay Factor: " ++ toString validator.delayFactor.getDelayFactor ++ "us. " ++
    "Pkts: rcvd " ++ toString reorder.pktsProcessed ++
    ", reordered " ++ toString reorder.pktsReordered ++
    " (dist " ++ toString reorder.reorderDist ++ "), lost " ++ toString reorder.pktsLost ++
    ", MD5 err " ++ toString integrity.pktsWrongChecksum ++
    ", bad len " ++ toString integrity.pktsWrongLen ++ ".", validator.resetPeriod)

-- `timepoint` is the text of `print_timestamp_now`, where the build has `put_time`.
def statsCsv (timepoint : Option String) (validator : Validator) : String × Validator :=
  let reorder := validator.reorder
  let integrity := validator.integrity
  (timepoint.elim "" (· ++ ",") ++ toString validator.id ++ "," ++
    latencyStr "" validator.latency.latencyMin Int64.maxValue ++ "," ++
    latencyStr "" validator.latency.latencyMax Int64.minValue ++ "," ++
    latencyStr "" validator.latency.latencyAvg (-1) ++ "," ++
    toString validator.jitter.getJitter ++ "," ++
    toString validator.delayFactor.getDelayFactor ++ "," ++
    toString reorder.pktsProcessed ++ "," ++ toString reorder.pktsLost ++ "," ++
    toString reorder.pktsReordered ++ "," ++ toString reorder.reorderDist ++ "," ++
    toString integrity.pktsWrongChecksum ++ "," ++ toString integrity.pktsWrongLen ++ "\n",
    validator.resetPeriod)

inductive Operation where
  | packet (now : ClockReadings) (buffer : List UInt8) (size : Nat)
  | stats
  | statsCsv (timepoint : Option String)

def Validator.apply (md5 : Md5) (validator : Validator) : Operation → Option Validator
  | .packet now buffer size => validatePacket md5 now buffer size validator
  | .stats => some (Metrics.stats validator).2
  | .statsCsv timepoint => some (Metrics.statsCsv timepoint validator).2

def Validator.run (md5 : Md5) : Validator → List Operation → Option Validator
  | validator, [] => some validator
  | validator, operation :: rest => (validator.apply md5 operation).bind (Validator.run md5 · rest)

theorem readPacketFields_generated {md5 : Md5} {now : ClockReadings} {generator : Generator}
    {size : Nat} {payload : List UInt8} (made : Generated md5 now generator size payload)
    (fits : 56 ≤ size) (leftover : List UInt8) :
    readPacketFields md5 (payload ++ leftover) size = some
      { pktSeqno := seqnoWord generator
        stdTimestamp := microseconds (durationCastMicroseconds now.steady)
        sysTimestamp := microseconds (durationCastMicroseconds now.system)
        pktLength := UInt64.ofNat size
        checksumMatch := true } := by
  simp [readPacketFields, made.readPacketSeqno fits leftover,
    made.readStdclockTimestamp fits leftover, made.readSysclockTimestamp fits leftover,
    made.readPacketLength fits leftover, made.validatePacketChecksum fits leftover]

theorem validatePacket_generated {md5 : Md5} {sent : ClockReadings} {generator : Generator}
    {size : Nat} {payload : List UInt8} (made : Generated md5 sent generator size payload)
    (fits : 56 ≤ size) (leftover : List UInt8) (now : ClockReadings) (validator : Validator) :
    ∃ next, validatePacket md5 now (payload ++ leftover) size validator = some next ∧
      next.reorder = (validator.reorder.submitSample (seqnoWord generator)).1 ∧
      next.integrity = validator.integrity := by
  rw [validatePacket, readPacketFields_generated made fits leftover, Option.map_some]
  refine ⟨_, rfl, ?_, ?_⟩ <;> simp [Validator.submitFields]

end XTransmit.Metrics
