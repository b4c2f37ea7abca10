import XTransmit.Shared.Bytes

set_option autoImplicit false

namespace XTransmit.Metrics

open Bytes

def pktSeqnoByteOffset : Nat := 0
def sysTimestampByteOffset : Nat := 8
def stdTimestampByteOffset : Nat := 16
def pktLengthByteOffset : Nat := 32
def pktMd5ByteOffset : Nat := 40
def pktMd5ByteLen : Nat := 16

structure Digest where
  bytes : List UInt8
  length_eq : bytes.length = pktMd5ByteLen

-- MD5 comes with the SRT library: a digest of the concatenation of the bytes appended.
abbrev Md5 := List UInt8 → Digest

def durationCastMicroseconds (nanoseconds : Int64) : Int64 := nanoseconds / 1000

def microseconds (count : Int64) : Int64 := count * 1000

-- `none` is an access outside the vector. A receive buffer is longer than the packet in it: the readers take the
-- whole buffer, and the checksum the received size as well.
def writeWord (offset : Nat) (word : UInt64) (payload : List UInt8) : Option (List UInt8) :=
  store offset (littleEndian 8 word.toNat) payload

def readWord (offset : Nat) (buffer : List UInt8) : Option UInt64 :=
  (load offset 8 buffer).map fun field => UInt64.ofNat (ofLittleEndian field)

def writeTimestamp (offset : Nat) (now : Int64) (payload : List UInt8) : Option (List UInt8) :=
  writeWord offset (durationCastMicroseconds now).toUInt64 payload

def readTimestamp (offset : Nat) (buffer : List UInt8) : Option Int64 :=
  (readWord offset buffer).map fun word => microseconds word.toInt64

def writeSysclockTimestamp := writeTimestamp sysTimestampByteOffset
def readSysclockTimestamp := readTimestamp sysTimestampByteOffset
def writeSteadyclockTimestamp := writeTimestamp stdTimestampByteOffset
def readStdclockTimestamp := readTimestamp stdTimestampByteOffset
def writePacketSeqno := writeWord pktSeqnoByteOffset
def readPacketSeqno := readWord pktSeqnoByteOffset
def writePacketLength := writeWord pktLengthByteOffset
def readPacketLength := readWord pktLengthByteOffset

-- `md5_append` takes an `int` count and ignores one that is not positive.
def md5Append (buffer : List UInt8) (offset : Nat) (nbytes : Int) (appended : List UInt8) :
    Option (List UInt8) :=
  if nbytes ≤ 0 then some appended
  else (load offset nbytes.toNat buffer).map (appended ++ ·)

-- `(int)(payload.size() - skip)`: a `size_t` difference cut to 32 bits.
def remainingLength (size : Nat) : Int :=
  Int.bmod ((size : Int) - ((pktMd5ByteOffset + pktMd5ByteLen : Nat) : Int)) (2 ^ 32)

def checksumInput (buffer : List UInt8) (size : Nat) : Option (List UInt8) := do
  let header ← md5Append buffer 0 (pktMd5ByteOffset : Int) []
  md5Append buffer (pktMd5ByteOffset + pktMd5ByteLen) (remainingLength size) header

def writePacketChecksum (md5 : Md5) (payload : List UInt8) : Option (List UInt8) := do
  let input ← checksumInput payload payload.length
  store pktMd5ByteOffset (md5 input).bytes payload

def validatePacketChecksum (md5 : Md5) (buffer : List UInt8) (size : Nat) : Option Bool := do
  let input ← checksumInput buffer size
  let carried ← load pktMd5ByteOffset pktMd5ByteLen buffer
  return carried = (md5 input).bytes

def iota (first : UInt8) (size : Nat) : List UInt8 :=
  (List.range size).map fun index => first + UInt8.ofNat index

structure ClockReadings where
  steady : Int64
  system : Int64

structure Generator where
  enableMetrics : Bool
  seqno : UInt64 := 0

def Generator.localSeqno (generator : Generator) : Int32 := generator.seqno.toInt64.toInt32

def generatePayload (md5 : Md5) (now : ClockReadings) (generator : Generator)
    (payload : List UInt8) : Option (Generator × List UInt8) := do
  let seqno := generator.localSeqno
  let generator := { generator with seqno := generator.seqno + 1 }
  let payload := iota seqno.toInt8.toUInt8 payload.length
  if !generator.enableMetrics then
    return (generator, payload)
  let payload ← writePacketSeqno seqno.toInt64.toUInt64 payload
  let payload ← writeSteadyclockTimestamp now.steady payload
  let payload ← writeSysclockTimestamp now.system payload
  let payload ← writePacketLength (UInt64.ofNat payload.length) payload
  let payload ← writePacketChecksum md5 payload
  return (generator, payload)

@[simp] theorem length_iota (first : UInt8) (size : Nat) : (iota first size).length = size := by
  simp [iota]

theorem iota_getElem? (first : UInt8) (size index : Nat) (inside : index < size) :
    (iota first size)[index]? = some (first + UInt8.ofNat index) := by
  simp [iota, inside]

theorem writeWord_eq_some (offset : Nat) (word : UInt64) (payload : List UInt8)
    (fits : offset + 8 ≤ payload.length) :
    writeWord offset word payload = some (overwrite offset (littleEndian 8 word.toNat) payload) :=
  store_eq_some _ _ _ (by simpa using fits)

theorem readWord_eq_some (offset : Nat) (buffer : List UInt8) (fits : offset + 8 ≤ buffer.length) :
    readWord offset buffer = some (UInt64.ofNat (ofLittleEndian (slice offset 8 buffer))) := by
  rw [readWord, load_eq_some _ _ _ fits, Option.map_some]

theorem word_roundTrip (word : UInt64) :
    UInt64.ofNat (ofLittleEndian (littleEndian 8 word.toNat)) = word := by
  rw [ofLittleEndian_littleEndian]
  apply UInt64.toNat_inj.mp
  simp only [UInt64.toNat_ofNat']
  have bound := word.toNat_lt
  omega

theorem readWord_slice (offset : Nat) (word : UInt64) (buffer : List UInt8)
    (fits : offset + 8 ≤ buffer.length) (field : slice offset 8 buffer = littleEndian 8 word.toNat) :
    readWord offset buffer = some word := by
  rw [readWord_eq_some _ _ fits, field, word_roundTrip]

theorem remainingLength_eq (size : Nat) (lower : 56 ≤ size) (upper : size < 2 ^ 31 + 56) :
    remainingLength size = ((size - 56 : Nat) : Int) := by
  have cast : (size : Int) - ((40 + 16 : Nat) : Int) = ((size - 56 : Nat) : Int) := by omega
  rw [remainingLength, pktMd5ByteOffset, pktMd5ByteLen, cast]
  apply Int.bmod_eq_of_le <;> omega

theorem remainingLength_le (size : Nat) (lower : 56 ≤ size) :
    (remainingLength size).toNat ≤ size - 56 := by
  have cast : (size : Int) - ((40 + 16 : Nat) : Int) = ((size - 56 : Nat) : Int) := by omega
  rw [remainingLength, pktMd5ByteOffset, pktMd5ByteLen, cast, Int.bmod_def]
  split <;> omega

theorem remainingLength_short (size : Nat) (short : size < 56) : remainingLength size ≤ 0 := by
  rw [remainingLength, pktMd5ByteOffset, pktMd5ByteLen, Int.bmod_def]
  split <;> omega

theorem md5Append_eq_some (buffer : List UInt8) (offset : Nat) (nbytes : Int)
    (appended : List UInt8) (fits : offset + nbytes.toNat ≤ buffer.length) :
    md5Append buffer offset nbytes appended = some (appended ++ slice offset nbytes.toNat buffer) := by
  unfold md5Append
  split
  · have none : nbytes.toNat = 0 := by omega
    simp [none, slice]
  · rw [load_eq_some _ _ _ fits, Option.map_some]

def covered (buffer : List UInt8) (size : Nat) : List UInt8 :=
  slice 0 40 buffer ++ slice 56 (remainingLength size).toNat buffer

theorem checksumInput_eq_some (buffer : List UInt8) (size : Nat) (lower : 56 ≤ size)
    (held : size ≤ buffer.length) : checksumInput buffer size = some (covered buffer size) := by
  have tail := remainingLength_le size lower
  rw [checksumInput, md5Append_eq_some _ _ _ _ (by simp [pktMd5ByteOffset]; omega)]
  rw [Option.bind_eq_bind, Option.bind_some,
    md5Append_eq_some _ _ _ _ (by simp [pktMd5ByteOffset, pktMd5ByteLen]; omega)]
  rfl

theorem validatePacketChecksum_eq_some (md5 : Md5) (buffer : List UInt8) (size : Nat)
    (lower : 56 ≤ size) (held : size ≤ buffer.length) :
    validatePacketChecksum md5 buffer size =
      some (decide (slice 40 16 buffer = (md5 (covered buffer size)).bytes)) := by
  have digest : load pktMd5ByteOffset pktMd5ByteLen buffer = some (slice 40 16 buffer) :=
    load_eq_some 40 16 buffer (by omega)
  simp [validatePacketChecksum, checksumInput_eq_some buffer size lower held, digest]

theorem covered_congr (left right : List UInt8) (size : Nat) (lower : 56 ≤ size)
    (same : left.take size = right.take size) : covered left size = covered right size := by
  have tail := remainingLength_le size lower
  rw [covered, covered, slice_congr 0 40 size left right same (by omega),
    slice_congr 56 _ size left right same (by omega)]

end XTransmit.Metrics
