import XTransmit.Metrics.Validator

set_option autoImplicit false

namespace XTransmit.Metrics

open Bytes

def GenerateInBounds (md5 : Md5) (size : Nat) : Prop :=
  ∀ (now : ClockReadings) (generator : Generator) (payload : List UInt8), payload.length = size →
    (generatePayload md5 now generator payload).isSome = true

def ValidateLocal (md5 : Md5) (size : Nat) : Prop :=
  ∀ (now : ClockReadings) (validator : Validator) (left right : List UInt8),
    size ≤ left.length → size ≤ right.length → left.take size = right.take size →
    ∃ next, validatePacket md5 now left size validator = some next ∧
      validatePacket md5 now right size validator = some next

theorem generateInBounds_iff (md5 : Md5) (size : Nat) : GenerateInBounds md5 size ↔ 56 ≤ size := by
  constructor
  · intro inBounds
    have produced := inBounds ⟨0, 0⟩ ⟨true, 0⟩ (List.replicate size 0) (by simp)
    obtain ⟨⟨next, made⟩, result⟩ := Option.isSome_iff_exists.mp produced
    simpa using generatePayload_length rfl result
  · intro fits now generator payload length
    cases enabled : generator.enableMetrics with
    | true => rw [generatePayload_eq_some md5 now generator enabled payload (by omega), Option.isSome_some]
    | false => simp [generatePayload, enabled]

theorem readWord_congr (offset size : Nat) (left right : List UInt8) (inside : offset + 8 ≤ size)
    (heldLeft : size ≤ left.length) (heldRight : size ≤ right.length)
    (same : left.take size = right.take size) : readWord offset left = readWord offset right := by
  rw [readWord_eq_some _ _ (by omega), readWord_eq_some _ _ (by omega),
    slice_congr offset 8 size left right same inside]

theorem readPacketFields_congr (md5 : Md5) (size : Nat) (left right : List UInt8)
    (fits : 56 ≤ size) (heldLeft : size ≤ left.length) (heldRight : size ≤ right.length)
    (same : left.take size = right.take size) :
    readPacketFields md5 left size = readPacketFields md5 right size := by
  have words (offset : Nat) (inside : offset + 8 ≤ 56) : readWord offset left = readWord offset right :=
    readWord_congr offset size left right (by omega) heldLeft heldRight same
  have checksum : validatePacketChecksum md5 left size = validatePacketChecksum md5 right size := by
    rw [validatePacketChecksum_eq_some md5 left size fits heldLeft,
      validatePacketChecksum_eq_some md5 right size fits heldRight,
      covered_congr left right size fits same, slice_congr 40 16 size left right same fits]
  simp only [readPacketFields, readPacketSeqno, readStdclockTimestamp, readSysclockTimestamp,
    readPacketLength, readTimestamp, checksum, words pktSeqnoByteOffset (by decide),
    words stdTimestampByteOffset (by decide), words sysTimestampByteOffset (by decide),
    words pktLengthByteOffset (by decide)]

theorem readPacketFields_checksum (md5 : Md5) (size : Nat) (buffer input : List UInt8)
    (fits : 56 ≤ buffer.length) (appended : checksumInput buffer size = some input) :
    ∃ fields, readPacketFields md5 buffer size = some fields ∧
      fields.checksumMatch = decide (slice 40 16 buffer = (md5 input).bytes) := by
  have words (offset : Nat) (inside : offset + 8 ≤ 56) :=
    readWord_eq_some offset buffer (by omega)
  have digest : load pktMd5ByteOffset pktMd5ByteLen buffer = some (slice 40 16 buffer) :=
    load_eq_some 40 16 buffer (by omega)
  simp [readPacketFields, readPacketSeqno, readStdclockTimestamp, readSysclockTimestamp,
    readPacketLength, readTimestamp, validatePacketChecksum, digest, appended,
    words pktSeqnoByteOffset (by decide), words stdTimestampByteOffset (by decide),
    words sysTimestampByteOffset (by decide), words pktLengthByteOffset (by decide)]

-- Below 56 bytes the remaining length is negative and only the header is hashed.
theorem checksumInput_short (buffer : List UInt8) (size : Nat) (short : size < 56)
    (held : 40 ≤ buffer.length) : checksumInput buffer size = some (slice 0 40 buffer) := by
  rw [checksumInput, md5Append_eq_some _ _ _ _ (by simpa [pktMd5ByteOffset] using held)]
  simp [md5Append, remainingLength_short size short, pktMd5ByteOffset]

theorem submitFields_wrongChecksum (validator : Validator) (now : ClockReadings) (size : Nat)
    (fields : PacketFields) :
    (validator.submitFields now size fields).integrity.pktsWrongChecksum =
      if fields.checksumMatch then validator.integrity.pktsWrongChecksum
      else validator.integrity.pktsWrongChecksum + 1 := by
  cases matched : fields.checksumMatch <;>
    simp [Validator.submitFields, IntegrityStats.submitSample, matched]

theorem validatePacket_short (md5 : Md5) (size : Nat) (short : size < 56) (now : ClockReadings)
    (header digest : List UInt8) (headerLength : header.length = 40) (digestLength : digest.length = 16) :
    ∃ next, validatePacket md5 now (header ++ digest) size { id := 0 } = some next ∧
      next.integrity.pktsWrongChecksum = if digest = (md5 header).bytes then 0 else 1 := by
  have covers : slice 0 40 (header ++ digest) = header := by simp [slice, ← headerLength]
  have carries : slice 40 16 (header ++ digest) = digest := by
    simp [slice, ← headerLength, ← digestLength]
  have held : 56 ≤ (header ++ digest).length := by simp [headerLength, digestLength]
  obtain ⟨fields, read, matched⟩ := readPacketFields_checksum md5 size _ _ held
    (checksumInput_short _ size short (by omega))
  rw [covers, carries] at matched
  refine ⟨_, by rw [validatePacket, read, Option.map_some], ?_⟩
  rw [submitFields_wrongChecksum, matched]
  by_cases same : digest = (md5 header).bytes <;> simp [same]

theorem exists_forged (digest : List UInt8) (length : digest.length = 16) :
    ∃ forged : List UInt8, forged.length = 16 ∧ forged ≠ digest ∧ forged.take 15 = digest.take 15 := by
  let last := digest.get ⟨15, by omega⟩
  refine ⟨digest.take 15 ++ [last + 1], by simp [length], ?_, by simp [length]⟩
  intro same
  have cell := congrArg (·[15]?) same
  simp [length, last] at cell

theorem validateLocal_iff (md5 : Md5) (size : Nat) : ValidateLocal md5 size ↔ 56 ≤ size := by
  constructor
  · -- The last byte of the digest field is a leftover: let it match once and differ once.
    intro isLocal
    by_contra short
    let header : List UInt8 := List.replicate 40 0
    let digest := (md5 header).bytes
    have digestLength : digest.length = 16 := (md5 header).length_eq
    obtain ⟨forged, forgedLength, different, sameFront⟩ := exists_forged digest digestLength
    have samePacket : (header ++ digest).take size = (header ++ forged).take size := by
      have front : (header ++ digest).take 55 = (header ++ forged).take 55 := by
        simp [header, sameFront]
      have cut := congrArg (List.take size) front
      simpa [List.take_take, Nat.min_eq_left (show size ≤ 55 by omega)] using cut
    obtain ⟨next, valid, stale⟩ := isLocal ⟨0, 0⟩ { id := 0 } (header ++ digest) (header ++ forged)
      (by simp [header, digestLength]; omega) (by simp [header, forgedLength]; omega) samePacket
    obtain ⟨left, leftRun, leftCount⟩ := validatePacket_short md5 size (by omega) ⟨0, 0⟩ header digest
      (by simp [header]) digestLength
    obtain ⟨right, rightRun, rightCount⟩ := validatePacket_short md5 size (by omega) ⟨0, 0⟩ header forged
      (by simp [header]) forgedLength
    have sameLeft : next = left := Option.some.inj (valid.symm.trans leftRun)
    have sameRight : next = right := Option.some.inj (stale.symm.trans rightRun)
    rw [if_pos rfl, ← sameLeft] at leftCount
    rw [if_neg different, ← sameRight, leftCount] at rightCount
    exact absurd rightCount (by decide)
  · intro fits now validator left right heldLeft heldRight same
    obtain ⟨fields, read, -⟩ := readPacketFields_checksum md5 size left _ (by omega)
      (checksumInput_eq_some left size fits heldLeft)
    have readRight := (readPacketFields_congr md5 size left right fits heldLeft heldRight same).symm.trans read
    exact ⟨_, by rw [validatePacket, read, Option.map_some],
      by rw [validatePacket, readRight, Option.map_some]⟩

theorem metrics_stay_inside_packet_iff (md5 : Md5) (size : Nat) :
    (GenerateInBounds md5 size ↔ 56 ≤ size) ∧ (ValidateLocal md5 size ↔ 56 ≤ size) :=
  ⟨generateInBounds_iff md5 size, validateLocal_iff md5 size⟩

-- A packet of 40 zero bytes, with and without the digest of an earlier packet behind it.
theorem short_packet_depends_on_leftover :
    generatePayload (fun _ => zeroRunDigest) ⟨0, 0⟩ ⟨true, 0⟩ (List.replicate 40 0) = none ∧
      (List.replicate 40 0 ++ zeroRunDigest.bytes).take 40 = (List.replicate 56 0).take 40 ∧
      (validatePacket (fun _ => zeroRunDigest) ⟨0, 0⟩ (List.replicate 40 0 ++ zeroRunDigest.bytes) 40
        { id := 0 }).map (·.integrity.pktsWrongChecksum) = some 0 ∧
      (validatePacket (fun _ => zeroRunDigest) ⟨0, 0⟩ (List.replicate 56 0) 40
        { id := 0 }).map (·.integrity.pktsWrongChecksum) = some 1 := by
  refine ⟨?_, by decide, by decide, by decide⟩
  rw [← Option.not_isSome_iff_eq_none]
  intro produced
  obtain ⟨⟨next, made⟩, result⟩ := Option.isSome_iff_exists.mp produced
  exact absurd (generatePayload_length rfl result) (by decide)

end XTransmit.Metrics
