import Mathlib.Data.List.Basic
import XTransmit.Shared.Bytes

set_option autoImplicit false

namespace XTransmit.FileTransfer

def headerFlags (isEof isStart : Bool) : UInt8 :=
  (if isEof then 2 else 0) ||| (if isStart then 1 else 0)

def isFirst (flags : UInt8) : Bool := flags &&& 0x01 ≠ 0

def isEof (flags : UInt8) : Bool := flags &&& 0x02 ≠ 0

@[simp] theorem isFirst_headerFlags (eof start : Bool) : isFirst (headerFlags eof start) = start := by
  cases eof <;> cases start <;> decide

@[simp] theorem isEof_headerFlags (eof start : Bool) : isEof (headerFlags eof start) = eof := by
  cases eof <;> cases start <;> decide

abbrev Message := List UInt8

namespace Message

variable (message : Message)

def first : Bool := isFirst (message.headD 0)

def eof : Bool := isEof (message.headD 0)

def fileName : List UInt8 := (message.drop 1).takeWhile (· ≠ 0)

def headerSize : Nat := if message.first then message.fileName.length + 2 else 1

def payload : List UInt8 := message.drop message.headerSize

def WellFormed : Prop := message.first = true → 0 ∈ message.drop 1

instance : Decidable message.WellFormed :=
  inferInstanceAs (Decidable (message.first = true → 0 ∈ message.drop 1))

end Message

theorem headerSize_le {message : Message} (wellFormed : message.WellFormed) (received : message ≠ []) :
    message.headerSize ≤ message.length := by
  unfold Message.headerSize
  split
  next first =>
    have terminated := wellFormed first
    have inside : message.fileName.length < (message.drop 1).length :=
      Bytes.length_takeWhile_nul _ terminated
    rw [List.length_drop] at inside
    omega
  next => exact List.length_pos_iff.mpr received

def segment (header payload : List UInt8) (eof : Bool) : Message :=
  headerFlags eof (header ≠ []) :: (header ++ payload)

@[simp] theorem segment_first (header payload : List UInt8) (eof : Bool) :
    (segment header payload eof).first = decide (header ≠ []) := by
  simp [segment, Message.first]

@[simp] theorem segment_eof (header payload : List UInt8) (eof : Bool) :
    (segment header payload eof).eof = eof := by
  simp [segment, Message.eof]

def nameHeader (name : List UInt8) : List UInt8 := name ++ [0]

theorem nameHeader_ne_nil (name : List UInt8) : nameHeader name ≠ [] := by
  simp [nameHeader]

theorem length_nameHeader (name : List UInt8) : (nameHeader name).length = name.length + 1 := by
  simp [nameHeader]

theorem nameHeader_room {size : Nat} {name : List UInt8} (room : name.length + 2 < size) :
    (nameHeader name).length + 1 < size := by
  rw [length_nameHeader]
  exact room

theorem segment_fileName (name payload : List UInt8) (eof : Bool) (nulFree : 0 ∉ name) :
    (segment (nameHeader name) payload eof).fileName = name := by
  simpa [segment, nameHeader, Message.fileName] using Bytes.takeWhile_nulFree name payload nulFree

theorem segment_payload_first (name payload : List UInt8) (eof : Bool) (nulFree : 0 ∉ name) :
    (segment (nameHeader name) payload eof).payload = payload := by
  rw [Message.payload, Message.headerSize, segment_fileName name payload eof nulFree, segment_first,
    if_pos (by simp [nameHeader])]
  simp [segment, nameHeader]

theorem segment_payload_later (payload : List UInt8) (eof : Bool) :
    (segment [] payload eof).payload = payload := by
  rw [Message.payload, Message.headerSize, segment_first, if_neg (by simp)]
  simp [segment]

theorem segment_wellFormed_first (name payload : List UInt8) (eof : Bool) :
    (segment (nameHeader name) payload eof).WellFormed := by
  simp [Message.WellFormed, segment, nameHeader]

/-- The messages of a file: every segment is filled up to `size` bytes except the last one, and the one that
comes up short is flagged. Nothing is sent for an empty rest. -/
def segments (size : Nat) (header contents : List UInt8) : List Message :=
  let capacity := size - (header.length + 1)
  if contents.length < capacity ∨ capacity = 0 then
    if contents = [] then [] else [segment header contents true]
  else segment header (contents.take capacity) false :: segments size [] (contents.drop capacity)
termination_by contents.length
decreasing_by
  rw [List.length_drop]
  omega

def fileSegments (size : Nat) (name contents : List UInt8) : List Message :=
  segments size (nameHeader name) contents

theorem segments_short {size : Nat} {header contents : List UInt8}
    (short : contents.length < size - (header.length + 1)) :
    segments size header contents = if contents = [] then [] else [segment header contents true] := by
  rw [segments]
  simp [short]

theorem segments_empty (size : Nat) (header : List UInt8) (room : header.length + 1 < size) :
    segments size header [] = [] := by
  rw [segments_short (by simpa using room), if_pos rfl]

theorem fileSegments_empty {size : Nat} {name : List UInt8} (room : name.length + 2 < size) :
    fileSegments size name [] = [] :=
  segments_empty size _ (nameHeader_room room)

theorem segments_ne_nil (size : Nat) (header contents : List UInt8) :
    ∀ message ∈ segments size header contents, message ≠ [] := by
  fun_induction segments size header contents with
  | case1 => simp
  | case2 => simp [segment]
  | case3 header contents capacity full ih => simpa [segment] using ih

theorem length_segments_le {size : Nat} {header contents : List UInt8} (room : header.length + 1 < size) :
    ∀ message ∈ segments size header contents, message.length ≤ size := by
  fun_induction segments size header contents with
  | case1 header capacity short => simp
  | case2 header contents capacity short filled =>
      intro message member
      rw [List.mem_singleton.mp member]
      simp only [segment, List.length_cons, List.length_append]
      omega
  | case3 header contents capacity full ih =>
      intro message member
      rcases List.mem_cons.mp member with same | later
      · rw [same]
        simp only [segment, List.length_cons, List.length_append, List.length_take]
        omega
      · exact ih (by simp only [List.length_nil]; omega) message later

theorem length_fileSegments_le {size : Nat} {name : List UInt8} (room : name.length + 2 < size)
    (contents : List UInt8) : ∀ message ∈ fileSegments size name contents, message.length ≤ size :=
  length_segments_le (nameHeader_room room)

end XTransmit.FileTransfer
