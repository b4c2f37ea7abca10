import XTransmit.FileTransfer.Ranges
import XTransmit.FileTransfer.SendSegments

set_option autoImplicit false

namespace XTransmit.FileTransfer

open FileStream

structure WellFramed (messages : List Message) : Prop where
  nonempty : messages ≠ []
  flags : ∀ index message, messages[index]? = some message →
    (message.first = true ↔ index = 0) ∧ (message.eof = true ↔ index + 1 = messages.length)

-- The read that meets the end of the file brings some bytes.
def EndsShort (capacity later length : Nat) : Prop :=
  0 < length ∧ ¬ (capacity ≤ length ∧ (length - capacity) % later = 0)

instance (capacity later length : Nat) : Decidable (EndsShort capacity later length) :=
  inferInstanceAs (Decidable (_ ∧ _))

theorem endsShort_drop {capacity later length : Nat} (positive : 0 < capacity) (room : 0 < later)
    (full : capacity ≤ length) :
    EndsShort later later (length - capacity) ↔ EndsShort capacity later length := by
  unfold EndsShort
  rcases Nat.lt_or_ge (length - capacity) later with short | long
  · rw [Nat.mod_eq_of_lt short]
    omega
  · rw [Nat.mod_eq_sub_mod long]
    omega

theorem segments_eof (size : Nat) (header contents : List UInt8) (room : header.length + 1 < size) :
    ∃ count, (segments size header contents).map Message.eof =
      List.replicate count false ++
        if EndsShort (size - (header.length + 1)) (size - 1) contents.length then [true] else [] := by
  fun_induction segments size header contents with
  | case1 header capacity short => exact ⟨0, by simp [EndsShort]⟩
  | case2 header contents capacity short filled =>
      have ends : EndsShort (size - (header.length + 1)) (size - 1) contents.length := by
        have positive := List.length_pos_iff.mpr filled
        exact ⟨positive, by omega⟩
      exact ⟨0, by simp [ends]⟩
  | case3 header contents capacity full ih =>
      obtain ⟨count, flags⟩ := ih (by simp only [List.length_nil]; omega)
      refine ⟨count + 1, ?_⟩
      have same := endsShort_drop (show 0 < capacity by omega) (show 0 < size - 1 by omega)
        (show capacity ≤ contents.length by omega)
      simp only [List.length_nil, Nat.zero_add, List.length_drop] at flags
      rw [List.map_cons, flags, segment_eof, List.replicate_succ, List.cons_append]
      simp only [same, capacity]

theorem segments_later_first (size : Nat) {header : List UInt8} (plain : header = []) (contents : List UInt8) :
    ∀ message ∈ segments size header contents, message.first = false := by
  fun_induction segments size header contents with
  | case1 => simp
  | case2 header contents capacity short filled => simp [plain]
  | case3 header contents capacity full ih =>
      intro message member
      rcases List.mem_cons.mp member with same | later
      · simp [same, plain]
      · exact ih rfl message later

theorem segments_cons (size : Nat) (header contents : List UInt8) (filled : contents ≠ []) :
    ∃ payload eof rest, segments size header contents = segment header payload eof :: rest ∧
      ∀ message ∈ rest, message.first = false := by
  rw [segments]
  simp only [filled, if_false]
  split
  next => exact ⟨_, _, [], rfl, by simp⟩
  next => exact ⟨_, _, _, rfl, segments_later_first size rfl _⟩

theorem getElem?_eof {size : Nat} {header contents : List UInt8} {flags : List Bool}
    (eofs : (segments size header contents).map Message.eof = flags) {index : Nat} {message : Message}
    (found : (segments size header contents)[index]? = some message) : flags[index]? = some message.eof := by
  rw [← eofs, List.getElem?_map, found, Option.map_some]

theorem endsShort_of_wellFramed {size : Nat} {header contents : List UInt8} (room : header.length + 1 < size)
    (framed : WellFramed (segments size header contents)) :
    EndsShort (size - (header.length + 1)) (size - 1) contents.length := by
  obtain ⟨count, eofs⟩ := segments_eof size header contents room
  by_contra exact
  rw [if_neg exact, List.append_nil] at eofs
  have positive := List.length_pos_iff.mpr framed.nonempty
  obtain ⟨last, found⟩ : ∃ last, (segments size header contents)[(segments size header contents).length - 1]? =
      some last := ⟨_, List.getElem?_eq_getElem (by omega)⟩
  have flagged := (framed.flags _ last found).2.mpr (by omega)
  have unflagged := getElem?_eof eofs found
  rw [List.getElem?_replicate] at unflagged
  split at unflagged <;> simp_all

theorem eof_iff_last {size : Nat} {header contents : List UInt8} (room : header.length + 1 < size)
    (ends : EndsShort (size - (header.length + 1)) (size - 1) contents.length) {index : Nat} {message : Message}
    (found : (segments size header contents)[index]? = some message) :
    message.eof = true ↔ index + 1 = (segments size header contents).length := by
  obtain ⟨count, eofs⟩ := segments_eof size header contents room
  rw [if_pos ends] at eofs
  have length : (segments size header contents).length = count + 1 := by
    simpa using congrArg List.length eofs
  have inside := (List.getElem?_eq_some_iff.mp found).1
  have flag := getElem?_eof eofs found
  rw [length]
  by_cases last : index = count
  · subst last
    simp at flag
    simp [flag]
  · rw [List.getElem?_append_left (by simp; omega), List.getElem?_replicate, if_pos (by omega)] at flag
    simp at flag
    simp [flag, last]

theorem wellFramed_of_endsShort {size : Nat} {header contents : List UInt8} (named : header ≠ [])
    (room : header.length + 1 < size) (ends : EndsShort (size - (header.length + 1)) (size - 1) contents.length) :
    WellFramed (segments size header contents) := by
  have filled : contents ≠ [] := List.length_pos_iff.mp ends.1
  obtain ⟨payload, eof, rest, cut, later⟩ := segments_cons size header contents filled
  refine ⟨by simp [cut], fun index message found => ⟨?_, eof_iff_last room ends found⟩⟩
  rw [cut] at found
  cases index with
  | zero =>
      cases found
      simp [named]
  | succ index =>
      have plain := later message (List.mem_of_getElem? found)
      simp [plain]

theorem wellFramed_segments_iff (size : Nat) {header : List UInt8} (named : header ≠ []) (contents : List UInt8)
    (room : header.length + 1 < size) :
    WellFramed (segments size header contents) ↔
      EndsShort (size - (header.length + 1)) (size - 1) contents.length :=
  ⟨endsShort_of_wellFramed room, wellFramed_of_endsShort named room⟩

theorem wellFramed_fileSegments_iff {size : Nat} {name : List UInt8} (room : name.length + 2 < size)
    (contents : List UInt8) :
    WellFramed (fileSegments size name contents) ↔
      EndsShort (size - (name.length + 2)) (size - 1) contents.length := by
  rw [fileSegments, wellFramed_segments_iff size (nameHeader_ne_nil name) contents (nameHeader_room room),
    length_nameHeader]

namespace Assembly

variable {dstpath : Path}

theorem receiveAll_later {size : Nat} {header : List UInt8} (plain : header = []) (contents : List UInt8)
    (path : Path) (held : List UInt8) (assembly : Assembly) (opened : assembly.current = some path)
    (found : assembly.files path = some held) :
    (assembly.receiveAll dstpath (segments size header contents)).files =
      Function.update assembly.files path (some (held ++ contents)) := by
  fun_induction segments size header contents generalizing assembly held with
  | case1 =>
      rw [List.append_nil, ← found, Function.update_eq_self]
      rfl
  | case2 header contents capacity short filled =>
      subst plain
      rw [receiveAll_cons, receive_later (segment_first [] contents true) opened,
        found, segment_payload_later]
      rfl
  | case3 header contents capacity full ih =>
      subst plain
      rw [receiveAll_cons, receive_later (segment_first [] (contents.take capacity) false) opened, found, segment_payload_later,
        ih rfl (held ++ contents.take capacity) _ (by simp) (by simp)]
      simp

theorem receiveAll_fileSegments (assembly : Assembly) (size : Nat) (name contents : List UInt8)
    (nulFree : 0 ∉ name) (filled : contents ≠ []) :
    (assembly.receiveAll dstpath (fileSegments size name contents)).files =
      Function.update assembly.files (dstpath ++ name) (some contents) := by
  have named (payload : List UInt8) (eof : Bool) : (segment (nameHeader name) payload eof).first = true := by
    simp [nameHeader]
  rw [fileSegments, segments]
  simp only [filled, if_false]
  split
  next =>
    rw [receiveAll_cons, receive_first (named _ _), segment_fileName _ _ _ nulFree,
      segment_payload_first _ _ _ nulFree]
    rfl
  next =>
    rw [receiveAll_cons, receive_first (named _ _), segment_fileName _ _ _ nulFree,
      segment_payload_first _ _ _ nulFree,
      receiveAll_later rfl _ (dstpath ++ name) (contents.take (size - ((nameHeader name).length + 1))) _
        (by simp) (by simp)]
    simp

theorem current_inside {path : Path} (assembly : Assembly) (opened : assembly.current = some path)
    (messages : List Message) (plain : ∀ message ∈ messages, message.first = false ∧ message.eof = false) :
    (assembly.receiveAll dstpath messages).current = some path := by
  induction messages generalizing assembly with
  | nil => exact opened
  | cons message rest ih =>
      obtain ⟨later, unfinished⟩ := plain message (by simp)
      rw [receiveAll_cons, receive_later later opened]
      exact ih _ (by simp [unfinished]) fun next member => plain next (List.mem_cons_of_mem _ member)

end Assembly

theorem fileSegments_wellFormed {size : Nat} {name : List UInt8} (room : name.length + 2 < size)
    (contents : List UInt8) :
    ∀ message ∈ fileSegments size name contents, message.WellFormed := by
  intro message member
  by_cases filled : contents = []
  · rw [filled, fileSegments_empty room] at member
    cases member
  · obtain ⟨payload, eof, rest, cut, later⟩ := segments_cons size (nameHeader name) contents filled
    rw [fileSegments, cut] at member
    rcases List.mem_cons.mp member with same | inside
    · rw [same]
      exact segment_wellFormed_first name payload eof
    · intro first
      rw [later message inside] at first
      cases first

variable {Folders : Type}

def ReceiverFollows (host : Host Folders) (dstpath : ArgString) (size : Nat) (name contents : List UInt8)
    (messages : List Message) : Prop :=
  ∀ receiver : ReceiveState Folders, receiver.ofile.Ready → size ≤ receiver.buf.length →
    (∃ final, receiveFiles host dstpath receiver messages = .running final ∧
      final.files (dstpath ++ name) = some contents ∧ final.ofile.path = none) ∧
    ∀ count, 0 < count → count < messages.length →
      ∃ inside, receiveFiles host dstpath receiver (messages.take count) = .running inside ∧
        inside.ofile.path = some (dstpath ++ name)

theorem WellFramed.plain {first : Message} {rest : List Message} (framed : WellFramed (first :: rest))
    {count : Nat} (inside : count < rest.length) :
    ∀ message ∈ rest.take count, message.first = false ∧ message.eof = false := by
  intro message member
  obtain ⟨index, found⟩ := List.mem_iff_getElem?.mp member
  rw [List.getElem?_take] at found
  split at found
  next before =>
    have flags := framed.flags (index + 1) message found
    simp only [List.length_cons] at flags
    constructor
    · simpa using flags.1
    · simpa using mt flags.2.mp (by omega)
  next => cases found

theorem WellFramed.last {messages : List Message} (framed : WellFramed messages) :
    ∃ front last, messages = front ++ [last] ∧ last.eof = true := by
  have positive := List.length_pos_iff.mpr framed.nonempty
  refine ⟨messages.dropLast, messages.getLast framed.nonempty,
    (List.dropLast_concat_getLast framed.nonempty).symm, ?_⟩
  have found : messages[messages.length - 1]? = some (messages.getLast framed.nonempty) := by
    rw [← List.getLast?_eq_getElem?, List.getLast?_eq_some_getLast framed.nonempty]
  exact (framed.flags _ _ found).2.mpr (by omega)

theorem receiverFollows_segments {host : Host Folders} (succeeds : host.Succeeds) (dstpath : ArgString)
    {size : Nat} {name contents : List UInt8} (nulFree : 0 ∉ name) (room : name.length + 2 < size)
    (framed : WellFramed (fileSegments size name contents)) :
    ReceiverFollows host dstpath size name contents (fileSegments size name contents) := by
  have filled : contents ≠ [] := by
    intro empty
    refine framed.nonempty ?_
    rw [empty]
    exact fileSegments_empty room
  intro receiver ready large
  have fits : ∀ message ∈ fileSegments size name contents, message.length ≤ receiver.buf.length :=
    fun message member =>
      Nat.le_trans (length_fileSegments_le room contents message member) large
  have wellFormed := fileSegments_wellFormed room contents
  constructor
  · obtain ⟨final, running, assembled⟩ := receiveFiles_assembles dstpath succeeds ready fits wellFormed
    refine ⟨final, running, ?_, ?_⟩
    · have files := congrArg Assembly.files assembled
      rw [Assembly.receiveAll_fileSegments _ size name contents nulFree filled] at files
      exact (congrFun files _).trans (Function.update_self _ _ _)
    · obtain ⟨front, last, split, eof⟩ := framed.last
      have current := congrArg Assembly.current assembled
      rw [split, Assembly.receiveAll_append] at current
      exact current.trans (Assembly.receive_eof eof)
  · intro count positive below
    obtain ⟨inside, running, assembled⟩ := receiveFiles_assembles dstpath succeeds ready
      (fun message member => fits message (List.mem_of_mem_take member))
      (fun message member => wellFormed message (List.mem_of_mem_take member))
    refine ⟨inside, running, (congrArg Assembly.current assembled).trans ?_⟩
    obtain ⟨payload, eof, rest, cut, later⟩ := segments_cons size (nameHeader name) contents filled
    rw [fileSegments, cut] at framed below ⊢
    obtain ⟨before, rfl⟩ := Nat.exists_eq_add_of_le' positive
    have unfinished : eof = false := by
      have flags := (framed.flags 0 _ rfl).2
      simp only [List.length_cons] at flags below
      simpa using mt flags.mp (by omega)
    have named : (segment (nameHeader name) payload eof).first = true := by simp [nameHeader]
    rw [List.take_succ_cons, Assembly.receiveAll_cons, Assembly.receive_first named, segment_fileName _ _ _ nulFree]
    exact Assembly.current_inside _ (by simp [unfinished]) _ (framed.plain (by simpa using below))

def SegmentFraming (env : SendEnv) (host : Host Folders) (dstpath : ArgString) (size : Nat)
    (name contents : List UInt8) (state : SendState) : Prop :=
  ∃ fuel outcome final messages,
    sendFile env fuel ⟨name, some { rest := contents }⟩ state = some (outcome, final) ∧
    final.sent = state.sent ++ messages ∧
    WellFramed messages ∧ ReceiverFollows host dstpath size name contents messages

section Framing

variable {env : SendEnv} (lossless : env.Lossless) {size : Nat} (small : size < 2 ^ 31)
  {name : List UInt8} (nulFree : 0 ∉ name) (room : name.length + 2 < size) (contents : List UInt8)
  {state : SendState} (sized : state.buf.length = size)

include lossless small nulFree room sized

theorem sendFile_sent {fuel : Nat} {outcome : SendOutcome} {final : SendState} {messages : List Message}
    (ended : sendFile env fuel ⟨name, some { rest := contents }⟩ state = some (outcome, final))
    (sent : final.sent = state.sent ++ messages) : messages = fileSegments size name contents := by
  obtain ⟨more, other, again, cut, -⟩ :=
    sendFile_segments lossless small name contents nulFree room state sized
  cases sendFile_unique ended again
  exact List.append_cancel_left (sent.symm.trans cut)

theorem endsShort_of_framing {host : Host Folders} {dstpath : ArgString}
    (framing : SegmentFraming env host dstpath size name contents state) :
    EndsShort (size - (name.length + 2)) (size - 1) contents.length := by
  obtain ⟨fuel, outcome, final, messages, ended, sent, framed, -⟩ := framing
  rw [sendFile_sent lossless small nulFree room contents sized ended sent,
    wellFramed_fileSegments_iff room contents] at framed
  exact framed

theorem segment_framing_iff {host : Host Folders} (succeeds : host.Succeeds) (dstpath : ArgString) :
    SegmentFraming env host dstpath size name contents state ↔
      contents ≠ [] ∧ ¬ (size - (name.length + 2) ≤ contents.length ∧
        (contents.length - (size - (name.length + 2))) % (size - 1) = 0) := by
  rw [← List.length_pos_iff]
  constructor
  · exact endsShort_of_framing lossless small nulFree room contents sized
  · intro ends
    obtain ⟨fuel, final, ended, sent, -⟩ :=
      sendFile_segments lossless small name contents nulFree room state sized
    have framed : WellFramed (fileSegments size name contents) := by
      rw [wellFramed_fileSegments_iff room contents]
      exact ends
    exact ⟨fuel, _, final, _, ended, sent, framed,
      receiverFollows_segments succeeds dstpath nulFree room framed⟩

end Framing

def plainEnv : SendEnv where
  write := fun _ length => some (length : Int)
  forceBreak := fun _ => false
  now := fun reading => Int64.ofNat (1000 * reading)

theorem plainEnv_lossless : plainEnv.Lossless where
  unbroken := fun _ => rfl
  zeroOrFull := fun _ _ => .inr rfl
  progress := fun call _ => ⟨call, Nat.le_refl _, rfl⟩

theorem segment_framing_iff_one_byte :
    SegmentFraming plainEnv plainHost ⟨[], by simp⟩ 5 [97] [1] { buf := [0, 0, 0, 0, 0] } :=
  (segment_framing_iff plainEnv_lossless (by decide) (by decide) (by decide) [1] rfl plainHost_succeeds
    ⟨[], by simp⟩).mpr (by decide)

-- An empty file leaves nothing on the wire, and one byte that fills the first segment no E.
theorem unfinished_framing :
    ¬ SegmentFraming plainEnv plainHost ⟨[], by simp⟩ 4 [97] [] { buf := [0, 0, 0, 0] } ∧
      ¬ SegmentFraming plainEnv plainHost ⟨[], by simp⟩ 4 [97] [1] { buf := [0, 0, 0, 0] } := by
  have framed (contents : List UInt8)
      (framing : SegmentFraming plainEnv plainHost ⟨[], by simp⟩ 4 [97] contents { buf := [0, 0, 0, 0] }) :
      EndsShort 1 3 contents.length :=
    endsShort_of_framing plainEnv_lossless (by decide) (by decide) (by decide) contents rfl framing
  exact ⟨fun framing => absurd (framed [] framing) (by decide),
    fun framing => absurd (framed [1] framing) (by decide)⟩

end XTransmit.FileTransfer
