import XTransmit.Metrics.Payload

set_option autoImplicit false

namespace XTransmit.Metrics

open Bytes

section Generate

variable (md5 : Md5) (now : ClockReadings) (generator : Generator) (size : Nat)

def seqnoWord : UInt64 := generator.localSeqno.toInt64.toUInt64

def firstByte : UInt8 := generator.localSeqno.toInt8.toUInt8

def sysWord : UInt64 := (durationCastMicroseconds now.system).toUInt64

def stdWord : UInt64 := (durationCastMicroseconds now.steady).toUInt64

def headerFields : List (Nat × List UInt8) :=
  [(0, littleEndian 8 (seqnoWord generator).toNat), (16, littleEndian 8 (stdWord now).toNat),
    (8, littleEndian 8 (sysWord now).toNat), (32, littleEndian 8 (UInt64.ofNat size).toNat)]

def unsealed : List UInt8 :=
  overwriteAll (headerFields now generator size) (iota (firstByte generator) size)

def packet : List UInt8 :=
  overwrite 40 (md5 (covered (unsealed now generator size) size)).bytes (unsealed now generator size)

theorem headerFields_fit (fits : 56 ≤ size) :
    ∀ field ∈ headerFields now generator size,
      field.1 + field.2.length ≤ (iota (firstByte generator) size).length := by
  intro field member
  rw [length_iota]
  simp only [headerFields, List.mem_cons, List.not_mem_nil, or_false] at member
  rcases member with rfl | rfl | rfl | rfl <;> simp only [length_littleEndian] <;> omega

theorem headerFields_apart : (headerFields now generator size).Pairwise Apart := by
  simp [headerFields, Apart]

theorem length_unsealed (fits : 56 ≤ size) : (unsealed now generator size).length = size := by
  rw [unsealed, length_overwriteAll _ _ (headerFields_fit now generator size fits), length_iota]

theorem digest_fits (fits : 56 ≤ size) (input : List UInt8) :
    40 + (md5 input).bytes.length ≤ (unsealed now generator size).length := by
  rw [length_unsealed now generator size fits, (md5 input).length_eq, pktMd5ByteLen]
  exact fits

theorem length_packet (fits : 56 ≤ size) : (packet md5 now generator size).length = size := by
  rw [packet, length_overwrite _ _ _ (digest_fits md5 now generator size fits _),
    length_unsealed now generator size fits]

theorem slice_packet (fits : 56 ≤ size) (offset width : Nat)
    (apart : offset + width ≤ 40 ∨ 56 ≤ offset) :
    slice offset width (packet md5 now generator size) =
      slice offset width (unsealed now generator size) := by
  apply slice_overwrite_disjoint _ _ _ _ _ (digest_fits md5 now generator size fits _)
  rw [(md5 _).length_eq, pktMd5ByteLen]
  exact apart

theorem covered_packet (fits : 56 ≤ size) :
    covered (packet md5 now generator size) size = covered (unsealed now generator size) size := by
  rw [covered, covered, slice_packet md5 now generator size fits 0 40 (by omega),
    slice_packet md5 now generator size fits 56 _ (by omega)]

theorem slice_header (fits : 56 ≤ size) (offset : Nat) (word : UInt64) (below : offset + 8 ≤ 40)
    (member : (offset, littleEndian 8 word.toNat) ∈ headerFields now generator size) :
    slice offset 8 (packet md5 now generator size) = littleEndian 8 word.toNat := by
  rw [slice_packet md5 now generator size fits offset 8 (by omega)]
  have field := slice_overwriteAll_mem _ _ (headerFields_fit now generator size fits)
    (headerFields_apart now generator size) _ member
  simpa only [length_littleEndian, unsealed] using field

theorem packet_filler (fits : 56 ≤ size) (index : Nat) (inside : index < size)
    (outside : 24 ≤ index ∧ index < 32 ∨ 56 ≤ index) :
    (packet md5 now generator size)[index]? = some (firstByte generator + UInt8.ofNat index) := by
  have sealing := slice_packet md5 now generator size fits index 1 (by omega)
  have filling := slice_overwriteAll_disjoint index 1 _ _ (headerFields_fit now generator size fits)
    (by
      intro field member
      simp only [headerFields, List.mem_cons, List.not_mem_nil, or_false] at member
      rcases member with rfl | rfl | rfl | rfl <;> simp only [length_littleEndian] <;> omega)
  have cell := congrArg (·[0]?) (sealing.trans filling)
  simp only [slice_getElem?, zero_lt_one, if_true, Nat.add_zero] at cell
  rw [cell, iota_getElem? _ _ _ inside]

end Generate

structure Generated (md5 : Md5) (now : ClockReadings) (generator : Generator)
    (size : Nat) (payload : List UInt8) : Prop where
  length : payload.length = size
  seqno : slice 0 8 payload = littleEndian 8 (seqnoWord generator).toNat
  system : slice 8 8 payload = littleEndian 8 (sysWord now).toNat
  steady : slice 16 8 payload = littleEndian 8 (stdWord now).toNat
  lengthField : slice 32 8 payload = littleEndian 8 (UInt64.ofNat size).toNat
  digest : slice 40 16 payload = (md5 (covered payload size)).bytes
  filler : ∀ index, index < size → 24 ≤ index ∧ index < 32 ∨ 56 ≤ index →
    payload[index]? = some (firstByte generator + UInt8.ofNat index)

theorem packet_generated (md5 : Md5) (now : ClockReadings) (generator : Generator) (size : Nat)
    (fits : 56 ≤ size) : Generated md5 now generator size (packet md5 now generator size) where
  length := length_packet md5 now generator size fits
  seqno := slice_header md5 now generator size fits 0 _ (by omega) (by simp [headerFields])
  system := slice_header md5 now generator size fits 8 _ (by omega) (by simp [headerFields])
  steady := slice_header md5 now generator size fits 16 _ (by omega) (by simp [headerFields])
  lengthField := slice_header md5 now generator size fits 32 _ (by omega) (by simp [headerFields])
  digest := by
    have field := slice_overwrite 40 _ _ (digest_fits md5 now generator size fits
      (covered (unsealed now generator size) size))
    rw [(md5 _).length_eq, pktMd5ByteLen] at field
    rw [covered_packet md5 now generator size fits]
    exact field
  filler := packet_filler md5 now generator size fits

def Generator.next (generator : Generator) : Generator :=
  { generator with seqno := generator.seqno + 1 }

theorem generatePayload_eq_some (md5 : Md5) (now : ClockReadings) (generator : Generator)
    (enabled : generator.enableMetrics = true) (payload : List UInt8)
    (fits : 56 ≤ payload.length) :
    generatePayload md5 now generator payload =
      some (generator.next, packet md5 now generator payload.length) := by
  let base := iota (firstByte generator) payload.length
  let fields := headerFields now generator payload.length
  have sizes (count : Nat) : (overwriteAll (fields.take count) base).length = payload.length := by
    rw [length_overwriteAll _ _ (fun field member =>
      headerFields_fit now generator payload.length fits field (List.mem_of_mem_take member)), length_iota]
  have seqno : writePacketSeqno (seqnoWord generator) base =
      some (overwriteAll (fields.take 1) base) :=
    writeWord_eq_some _ _ _ (by rw [length_iota, pktSeqnoByteOffset]; omega)
  have steady : writeSteadyclockTimestamp now.steady (overwriteAll (fields.take 1) base) =
      some (overwriteAll (fields.take 2) base) :=
    writeWord_eq_some _ _ _ (by rw [sizes, stdTimestampByteOffset]; omega)
  have system : writeSysclockTimestamp now.system (overwriteAll (fields.take 2) base) =
      some (overwriteAll (fields.take 3) base) :=
    writeWord_eq_some _ _ _ (by rw [sizes, sysTimestampByteOffset]; omega)
  have lengthField : writePacketLength (UInt64.ofNat payload.length) (overwriteAll (fields.take 3) base) =
      some (unsealed now generator payload.length) :=
    writeWord_eq_some _ _ _ (by rw [sizes, pktLengthByteOffset]; omega)
  have unsealedLength := length_unsealed now generator payload.length fits
  have checksum : writePacketChecksum md5 (unsealed now generator payload.length) =
      some (packet md5 now generator payload.length) := by
    rw [writePacketChecksum, unsealedLength,
      checksumInput_eq_some _ _ fits (Nat.le_of_eq unsealedLength.symm)]
    exact store_eq_some _ _ _ (digest_fits md5 now generator payload.length fits _)
  unfold generatePayload
  simp only [enabled, Bool.not_true, Bool.false_eq_true, if_false]
  change (writePacketSeqno (seqnoWord generator) base).bind _ = _
  rw [seqno, Option.bind_some]
  change (writeSteadyclockTimestamp now.steady _).bind _ = _
  rw [steady, Option.bind_some]
  change (writeSysclockTimestamp now.system _).bind _ = _
  rw [system, Option.bind_some]
  change (writePacketLength (UInt64.ofNat (overwriteAll (fields.take 3) base).length) _).bind _ = _
  rw [sizes, lengthField, Option.bind_some]
  change (writePacketChecksum md5 _).bind _ = _
  rw [checksum, Option.bind_some]
  simp only [enabled, Generator.next]
  rfl

theorem length_of_store {offset : Nat} {field memory result : List UInt8}
    (stored : store offset field memory = some result) :
    result.length = memory.length ∧ offset + field.length ≤ memory.length := by
  unfold store at stored
  split at stored
  next fits =>
    cases stored
    exact ⟨length_overwrite _ _ _ fits, fits⟩
  next => cases stored

theorem generatePayload_length {md5 : Md5} {now : ClockReadings} {generator next : Generator}
    {payload made : List UInt8} (enabled : generator.enableMetrics = true)
    (produced : generatePayload md5 now generator payload = some (next, made)) :
    56 ≤ payload.length := by
  unfold generatePayload at produced
  simp only [enabled, Bool.not_true, Bool.false_eq_true, if_false, Option.bind_eq_bind] at produced
  obtain ⟨withSeqno, seqno, produced⟩ := Option.bind_eq_some_iff.mp produced
  obtain ⟨withSteady, steady, produced⟩ := Option.bind_eq_some_iff.mp produced
  obtain ⟨withSystem, system, produced⟩ := Option.bind_eq_some_iff.mp produced
  obtain ⟨withLength, length, produced⟩ := Option.bind_eq_some_iff.mp produced
  obtain ⟨withDigest, digest, -⟩ := Option.bind_eq_some_iff.mp produced
  obtain ⟨input, -, stored⟩ := Option.bind_eq_some_iff.mp digest
  have sizes := (length_of_store length).1.trans ((length_of_store system).1.trans
    ((length_of_store steady).1.trans (length_of_store seqno).1))
  have fits := (length_of_store stored).2
  rw [(md5 input).length_eq, pktMd5ByteLen, pktMd5ByteOffset, sizes, length_iota] at fits
  exact fits

theorem seqnoWord_toNat (generator : Generator) :
    (seqnoWord generator).toNat =
      if generator.seqno.toNat % 2 ^ 32 < 2 ^ 31 then generator.seqno.toNat % 2 ^ 32
      else 2 ^ 64 - 2 ^ 32 + generator.seqno.toNat % 2 ^ 32 := by
  have stored : generator.localSeqno.toInt64.toInt =
      ((seqnoWord generator).toNat : Int).bmod (2 ^ 64) := BitVec.toInt_eq_toNat_bmod _
  have counted : generator.seqno.toInt64.toInt = (generator.seqno.toNat : Int).bmod (2 ^ 64) :=
    BitVec.toInt_eq_toNat_bmod _
  have narrowed : generator.localSeqno.toInt = generator.seqno.toInt64.toInt.bmod (2 ^ 32) :=
    Int64.toInt_toInt32 _
  have low : (generator.seqno.toNat : Int).bmod (2 ^ 32) =
      ((seqnoWord generator).toNat : Int).bmod (2 ^ 64) := by
    rw [← stored, Int32.toInt_toInt64, narrowed, counted, Int.bmod_bmod_of_dvd (by decide)]
  have bound := (seqnoWord generator).toNat_lt
  rw [Int.bmod_def, Int.bmod_def] at low
  split at low <;> split at low <;> split <;> omega

theorem seqnoWord_eq (generator : Generator) (counter : generator.seqno.toNat < 2 ^ 31) :
    seqnoWord generator = generator.seqno := by
  apply UInt64.toNat_inj.mp
  have word := seqnoWord_toNat generator
  split at word <;> omega

theorem firstByte_eq (generator : Generator) :
    firstByte generator = UInt8.ofNat generator.seqno.toNat := by
  have stored : generator.localSeqno.toInt8.toInt =
      ((firstByte generator).toNat : Int).bmod (2 ^ 8) := BitVec.toInt_eq_toNat_bmod _
  have counted : generator.seqno.toInt64.toInt = (generator.seqno.toNat : Int).bmod (2 ^ 64) :=
    BitVec.toInt_eq_toNat_bmod _
  have narrowed : generator.localSeqno.toInt = generator.seqno.toInt64.toInt.bmod (2 ^ 32) :=
    Int64.toInt_toInt32 _
  rw [Int32.toInt_toInt8, narrowed, counted, Int.bmod_bmod_of_dvd (by decide),
    Int.bmod_bmod_of_dvd (by decide)] at stored
  apply UInt8.toNat_inj.mp
  rw [UInt8.toNat_ofNat']
  have bound := (firstByte generator).toNat_lt
  rw [Int.bmod_def, Int.bmod_def] at stored
  split at stored <;> split at stored <;> omega

theorem microseconds_durationCast (reading : Int64) :
    (microseconds (durationCastMicroseconds reading)).toInt = 1000 * reading.toInt.tdiv 1000 := by
  have lower := reading.le_toInt
  have upper := reading.toInt_lt
  have thousand : (1000 : Int64).toInt = 1000 := by decide
  rw [microseconds, durationCastMicroseconds, Int64.toInt_mul,
    Int64.toInt_div_of_ne_right _ _ (by decide), thousand, mul_comm]
  -- Truncation moves towards zero, so the product stays in the range of the reading.
  have truncated : (1000 * reading.toInt.tdiv 1000).natAbs ≤ reading.toInt.natAbs := by
    rw [Int.natAbs_mul, Int.natAbs_tdiv]
    exact Nat.mul_div_le _ _
  apply Int.bmod_eq_of_le <;> omega

section Readers

variable {md5 : Md5} {now : ClockReadings} {generator : Generator} {size : Nat}
  {payload : List UInt8} (made : Generated md5 now generator size payload)
  (fits : 56 ≤ size) (leftover : List UInt8)

include made fits

theorem Generated.held : 56 ≤ (payload ++ leftover).length := by
  rw [List.length_append, made.length]
  omega

omit fits in
theorem Generated.slice_buffer (offset width : Nat) (inside : offset + width ≤ size) :
    slice offset width (payload ++ leftover) = slice offset width payload :=
  slice_append_left _ _ _ _ (by rw [made.length]; exact inside)

theorem Generated.readPacketSeqno :
    readPacketSeqno (payload ++ leftover) = some (seqnoWord generator) := by
  have held := made.held fits leftover
  apply readWord_slice 0 _ _ (by omega)
  rw [made.slice_buffer leftover 0 8 (by omega), made.seqno]

theorem Generated.readPacketLength :
    readPacketLength (payload ++ leftover) = some (UInt64.ofNat size) := by
  have held := made.held fits leftover
  apply readWord_slice 32 _ _ (by omega)
  rw [made.slice_buffer leftover 32 8 (by omega), made.lengthField]

theorem Generated.readSysclockTimestamp :
    readSysclockTimestamp (payload ++ leftover) =
      some (microseconds (durationCastMicroseconds now.system)) := by
  have held := made.held fits leftover
  have word : readWord 8 (payload ++ leftover) = some (sysWord now) := by
    apply readWord_slice 8 _ _ (by omega)
    rw [made.slice_buffer leftover 8 8 (by omega), made.system]
  simp [Metrics.readSysclockTimestamp, readTimestamp, sysTimestampByteOffset, word, sysWord]

theorem Generated.readStdclockTimestamp :
    readStdclockTimestamp (payload ++ leftover) =
      some (microseconds (durationCastMicroseconds now.steady)) := by
  have held := made.held fits leftover
  have word : readWord 16 (payload ++ leftover) = some (stdWord now) := by
    apply readWord_slice 16 _ _ (by omega)
    rw [made.slice_buffer leftover 16 8 (by omega), made.steady]
  simp [Metrics.readStdclockTimestamp, readTimestamp, stdTimestampByteOffset, word, stdWord]

theorem Generated.validatePacketChecksum :
    validatePacketChecksum md5 (payload ++ leftover) size = some true := by
  have prefixHeld : (payload ++ leftover).take size = payload.take size := by
    rw [← made.length, List.take_left, List.take_length]
  rw [validatePacketChecksum_eq_some md5 _ size fits
      (by rw [List.length_append, made.length]; omega),
    covered_congr _ payload size fits prefixHeld, made.slice_buffer leftover 40 16 fits,
    made.digest]
  simp

end Readers

def authenticated (payload : List UInt8) : List UInt8 := payload.take 40 ++ payload.drop 56

def digestField (payload : List UInt8) : List UInt8 := slice 40 16 payload

theorem covered_eq_authenticated (payload : List UInt8) (lower : 56 ≤ payload.length)
    (upper : payload.length < 2 ^ 31 + 56) :
    covered payload payload.length = authenticated payload := by
  have tail : (remainingLength payload.length).toNat = payload.length - 56 := by
    rw [remainingLength_eq _ lower upper, Int.toNat_natCast]
  have rest : (payload.drop 56).take (payload.length - 56) = payload.drop 56 :=
    List.take_of_length_le (by simp)
  rw [covered, authenticated, tail, slice, slice, rest, List.drop_zero]

theorem validatePacketChecksum_iff (md5 : Md5) (payload : List UInt8) (lower : 56 ≤ payload.length)
    (upper : payload.length < 2 ^ 31 + 56) :
    validatePacketChecksum md5 payload payload.length = some true ↔
      digestField payload = (md5 (authenticated payload)).bytes := by
  rw [validatePacketChecksum_eq_some md5 _ _ lower le_rfl, covered_eq_authenticated _ lower upper]
  simp [digestField]

theorem payload_split (payload : List UInt8) :
    payload = payload.take 40 ++ digestField payload ++ payload.drop 56 := by
  have front : payload.take 40 ++ digestField payload = payload.take 56 := by
    rw [digestField, slice, ← List.take_add]
  rw [front, List.take_append_drop]

theorem payload_ext (left right : List UInt8) (lengths : left.length = right.length)
    (digests : digestField left = digestField right)
    (inputs : authenticated left = authenticated right) : left = right := by
  have halves := List.append_inj inputs (by simp [lengths])
  rw [payload_split left, payload_split right, digests, halves.1, halves.2]

-- An accepted change of a packet is a collision, or it also rewrites the digest.
theorem changed_payload_accepted (md5 : Md5) (made changed : List UInt8)
    (lower : 56 ≤ made.length) (upper : made.length < 2 ^ 31 + 56)
    (valid : digestField made = (md5 (authenticated made)).bytes)
    (lengths : changed.length = made.length) (different : changed ≠ made)
    (accepted : validatePacketChecksum md5 changed changed.length = some true) :
    (authenticated changed ≠ authenticated made ∧
        (md5 (authenticated changed)).bytes = (md5 (authenticated made)).bytes) ∨
      (digestField changed ≠ digestField made ∧
        digestField changed = (md5 (authenticated changed)).bytes) := by
  have rewritten := (validatePacketChecksum_iff md5 changed (by omega) (by omega)).mp accepted
  by_cases digests : digestField changed = digestField made
  · left
    constructor
    · exact fun inputs => different (payload_ext _ _ lengths digests inputs)
    · rw [← rewritten, digests, valid]
  · exact .inr ⟨digests, rewritten⟩

theorem generatePayload_format (md5 : Md5) (now : ClockReadings) (generator : Generator)
    (payload : List UInt8) (enabled : generator.enableMetrics = true)
    (counter : generator.seqno.toNat < 2 ^ 31) (lower : 56 ≤ payload.length)
    (upper : payload.length < 2 ^ 31 + 56) :
    ∃ made, generatePayload md5 now generator payload = some (generator.next, made) ∧
      made.length = payload.length ∧
      readPacketSeqno made = some generator.seqno ∧
      (∃ timestamp, readStdclockTimestamp made = some timestamp ∧
        timestamp.toInt = 1000 * now.steady.toInt.tdiv 1000) ∧
      (∃ timestamp, readSysclockTimestamp made = some timestamp ∧
        timestamp.toInt = 1000 * now.system.toInt.tdiv 1000) ∧
      (∃ length, readPacketLength made = some length ∧ length.toNat = payload.length) ∧
      validatePacketChecksum md5 made made.length = some true ∧
      (∀ index, index < made.length → ¬ index < 24 → ¬ (32 ≤ index ∧ index < 56) →
        made[index]? = some (UInt8.ofNat (generator.seqno.toNat + index))) ∧
      (∀ received, 56 ≤ received.length → received.length < 2 ^ 31 + 56 →
        (validatePacketChecksum md5 received received.length = some true ↔
          digestField received = (md5 (authenticated received)).bytes)) ∧
      (∀ changed, changed.length = made.length → changed ≠ made →
        validatePacketChecksum md5 changed changed.length = some true →
        (authenticated changed ≠ authenticated made ∧
            (md5 (authenticated changed)).bytes = (md5 (authenticated made)).bytes) ∨
          (digestField changed ≠ digestField made ∧
            digestField changed = (md5 (authenticated changed)).bytes)) := by
  let made := packet md5 now generator payload.length
  have fields : Generated md5 now generator payload.length made :=
    packet_generated md5 now generator payload.length lower
  have valid : validatePacketChecksum md5 made made.length = some true := by
    simpa only [List.append_nil, fields.length] using fields.validatePacketChecksum lower []
  refine ⟨made, generatePayload_eq_some md5 now generator enabled payload lower, fields.length,
    ?seqno, ?steady, ?system, ?length, valid, ?filler, ?iff, ?changed⟩
  case seqno =>
    simpa only [List.append_nil, seqnoWord_eq generator counter] using fields.readPacketSeqno lower []
  case steady =>
    exact ⟨_, by simpa only [List.append_nil] using fields.readStdclockTimestamp lower [],
      microseconds_durationCast now.steady⟩
  case system =>
    exact ⟨_, by simpa only [List.append_nil] using fields.readSysclockTimestamp lower [],
      microseconds_durationCast now.system⟩
  case length =>
    refine ⟨_, by simpa only [List.append_nil] using fields.readPacketLength lower [], ?_⟩
    rw [UInt64.toNat_ofNat']
    omega
  case filler =>
    intro index inside afterHeader outsideDigest
    rw [fields.length] at inside
    rw [fields.filler index inside (by omega), firstByte_eq, UInt8.ofNat_add]
  case iff =>
    exact fun received held bounded => validatePacketChecksum_iff md5 received held bounded
  case changed =>
    intro changed lengths different accepted
    have held : 56 ≤ made.length := by rw [fields.length]; exact lower
    have bounded : made.length < 2 ^ 31 + 56 := by rw [fields.length]; exact upper
    exact changed_payload_accepted md5 made changed held bounded
      ((validatePacketChecksum_iff md5 made held bounded).mp valid) lengths different accepted

theorem generatePayload_format_sample :
    ∃ made, generatePayload
        (fun _ => ⟨[149, 166, 111, 156, 233, 190, 85, 3, 31, 92, 71, 75, 57, 219, 73, 180], rfl⟩)
        ⟨1500, 2500⟩ ⟨true, 5⟩ (List.replicate 56 0) = some (⟨true, 6⟩, made) ∧
      readPacketSeqno made = some 5 ∧ made.length = 56 := by
  obtain ⟨made, produced, length, seqno, _⟩ := generatePayload_format
    (fun _ => ⟨[149, 166, 111, 156, 233, 190, 85, 3, 31, 92, 71, 75, 57, 219, 73, 180], rfl⟩)
    ⟨1500, 2500⟩ ⟨true, 5⟩ (List.replicate 56 0) rfl (by decide) (by simp) (by simp)
  exact ⟨made, produced, seqno, by simpa using length⟩

def zeroRunDigest : Digest :=
  ⟨[253, 75, 56, 233, 66, 146, 224, 2, 81, 185, 243, 156, 71, 238, 87, 16], rfl⟩

def longZeroRunDigest : Digest :=
  ⟨[189, 246, 245, 194, 63, 235, 216, 33, 170, 163, 35, 12, 155, 48, 83, 191], rfl⟩

def zeroRunMd5 : Md5 := fun input => if input.length = 40 then zeroRunDigest else longZeroRunDigest

def zeroRunPayload (tail : Nat) : List UInt8 :=
  List.replicate 40 0 ++ (zeroRunDigest.bytes ++ List.replicate tail 0)

theorem zeroRunPayload_fields (tail : Nat) :
    (zeroRunPayload tail).length = tail + 56 ∧
      digestField (zeroRunPayload tail) = zeroRunDigest.bytes ∧
      (authenticated (zeroRunPayload tail)).length = tail + 40 ∧
      slice 0 40 (zeroRunPayload tail) = List.replicate 40 0 := by
  have length : (zeroRunPayload tail).length = tail + 56 := by
    simp [zeroRunPayload, zeroRunDigest]
  refine ⟨length, ?_, ?_, ?_⟩
  · simp [digestField, slice, zeroRunPayload, zeroRunDigest]
  · simp [authenticated, length]
    omega
  · simp [slice, zeroRunPayload]

-- A tail of 2^32 bytes is cut to a count of zero, so the digest does not cover it.
theorem zeroRunPayload_uncovered :
    ¬ (validatePacketChecksum zeroRunMd5 (zeroRunPayload (2 ^ 32)) (zeroRunPayload (2 ^ 32)).length =
        some true ↔
      digestField (zeroRunPayload (2 ^ 32)) =
        (zeroRunMd5 (authenticated (zeroRunPayload (2 ^ 32)))).bytes) := by
  obtain ⟨length, digest, input, header⟩ := zeroRunPayload_fields (2 ^ 32)
  have cut : (remainingLength (2 ^ 32 + 56)).toNat = 0 := by decide
  have accepted : validatePacketChecksum zeroRunMd5 (zeroRunPayload (2 ^ 32))
      (zeroRunPayload (2 ^ 32)).length = some true := by
    rw [validatePacketChecksum_eq_some _ _ _ (by omega) le_rfl, length, covered, cut, header]
    simpa [slice, zeroRunMd5, digestField] using digest
  have long : zeroRunMd5 (authenticated (zeroRunPayload (2 ^ 32))) = longZeroRunDigest := by
    rw [zeroRunMd5, if_neg (by omega)]
  rw [digest, long]
  exact fun agree => absurd (agree.mp accepted) (by decide)

end XTransmit.Metrics
