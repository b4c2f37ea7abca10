import XTransmit.FileTransfer.Ranges

set_option autoImplicit false

namespace XTransmit.FileTransfer

open Bytes FileStream

variable {Folders : Type}

def ReceiveState.taken (dstpath : ArgString) (state : ReceiveState Folders) (message : Message) : Files Path :=
  if message.first then Function.update state.files (dstpath.val ++ message.fileName) (some message.payload)
  else
    match state.ofile.path with
    | none => state.files
    | some path =>
        if state.ofile.state.good then
          Function.update state.files path ((state.files path).map (· ++ message.payload))
        else state.files

-- A message that comes while the stream is in error is skipped.
structure Took (host : Host Folders) (dstpath : ArgString) (state : ReceiveState Folders) (message : Message)
    (next : ReceiveState Folders) : Prop where
  folders : next.folders =
    if message.first then
      host.opened (dstpath.val ++ message.fileName)
        (createSubfolders host (dstpath.val ++ message.fileName) state.folders).2
    else state.folders
  files : next.files = state.taken dstpath message
  path : next.ofile.path =
    if message.first = false ∧ state.ofile.state.failed = true then state.ofile.path
    else if message.eof then none
    else if message.first then some (dstpath.val ++ message.fileName)
    else state.ofile.path
  growth :
    if message.first = false ∧ state.ofile.state.failed = true then next.fileSize = state.fileSize
    else next.fileSize.toNat =
      (if message.first then 0 else state.fileSize.toNat) + (message.length - message.headerSize)

-- `hdr_size` and the name are read off the buffer; what they lead to is the message's own.
structure Harmless (host : Host Folders) (dstpath : ArgString) (state : ReceiveState Folders)
    (message : Message) : Prop where
  header : (state.received message).headerSize ≤ message.length
  name : (state.received message).first = true → nameHeader (state.received message).fileName <+: message.drop 1
  effect :
    match receiveMessage host dstpath state message with
    | .fault => False
    | .returned _ next =>
        next.folders = (createSubfolders host (dstpath.val ++ message.fileName) state.folders).2 ∧
          next.files = state.files ∧ next.fileSize = state.fileSize
    | .running next => Took host dstpath state message next

def Countable (state : ReceiveState Folders) (message : Message) : Prop :=
  message.first = false → state.ofile.state.failed = false →
    state.fileSize.toNat + (message.length - 1) < 2 ^ 64

section Header

variable (state : ReceiveState Folders) {message : Message}

theorem received_first (received : message ≠ []) : (state.received message).first = message.first :=
  congrArg isFirst (received_headD state received)

theorem received_fileName (received : message ≠ []) (terminated : 0 ∈ message.drop 1) :
    (state.received message).fileName = message.fileName := by
  have inside := length_takeWhile_nul _ terminated
  rw [Message.fileName, received_drop state received, List.takeWhile_append, if_neg (by omega)]
  rfl

theorem received_headerSize (received : message ≠ []) (wellFormed : message.WellFormed) :
    (state.received message).headerSize = message.headerSize := by
  unfold Message.headerSize
  rw [received_first state received]
  split
  next first => rw [received_fileName state received (wellFormed first)]
  next => rfl

theorem length_fileName_unterminated (received : message ≠ []) (unterminated : 0 ∉ message.drop 1) :
    message.length ≤ (state.received message).fileName.length + 1 := by
  have nonzero : ∀ byte ∈ message.drop 1, decide (byte ≠ 0) = true := by
    intro byte member
    have nonzero : byte ≠ 0 := fun zero => unterminated (zero ▸ member)
    simpa using nonzero
  rw [Message.fileName, received_drop state received, List.takeWhile_append_of_pos nonzero, List.length_append,
    List.length_drop]
  omega

theorem wellFormed_of_headerSize_le {state : ReceiveState Folders} (received : message ≠ [])
    (header : (state.received message).headerSize ≤ message.length) : message.WellFormed := by
  intro first
  by_contra unterminated
  have scanned := length_fileName_unterminated state received unterminated
  have size : (state.received message).headerSize = (state.received message).fileName.length + 2 := by
    simp [Message.headerSize, received_first state received, first]
  omega

theorem nameHeader_inside (terminated : 0 ∈ message.drop 1) : nameHeader message.fileName <+: message.drop 1 :=
  terminatedText_inside _ terminated

end Header

section Effect

theorem receivePayload_skips (state : ReceiveState Folders) (failed : state.ofile.state.failed = true)
    (bytes hdrSize : Nat) (eof : Bool) : receivePayload bytes hdrSize eof state = .running state := by
  simp [receivePayload, failed]

theorem receivePayload_writes (state : ReceiveState Folders) (unfailed : state.ofile.state.failed = false)
    {bytes hdrSize : Nat} (fits : hdrSize ≤ bytes) (eof : Bool) :
    ∃ next, receivePayload bytes hdrSize eof state = .running next ∧ next.folders = state.folders ∧
      next.files = (state.ofile.write (slice hdrSize (bytes - hdrSize) state.buf) state.files).2 ∧
      next.ofile.path = (if eof then none else state.ofile.path) ∧
      next.fileSize = state.fileSize + UInt64.ofNat (bytes - hdrSize) := by
  rw [receivePayload, unfailed, if_neg (by simp), if_neg (Nat.not_lt.mpr fits)]
  refine ⟨_, rfl, rfl, rfl, ?_, rfl⟩
  cases eof <;> simp

theorem receiveFirst_writes (host : Host Folders) (dstpath : ArgString) (state : ReceiveState Folders)
    {filename : List UInt8} {bytes : Nat} (named : cString (state.buf.drop 1) = some filename)
    (fits : filename.length + 2 ≤ bytes) (eof : Bool) :
    (∃ result next, receiveFirst host dstpath bytes eof state = .returned result next ∧
      next.folders = (createSubfolders host (dstpath.val ++ filename) state.folders).2 ∧
      next.files = state.files ∧ next.fileSize = state.fileSize) ∨
    ∃ next, receiveFirst host dstpath bytes eof state = .running next ∧
      next.folders = host.opened (dstpath.val ++ filename)
        (createSubfolders host (dstpath.val ++ filename) state.folders).2 ∧
      next.files = Function.update state.files (dstpath.val ++ filename)
        (some (slice (filename.length + 2) (bytes - (filename.length + 2)) state.buf)) ∧
      next.ofile.path = (if eof then none else some (dstpath.val ++ filename)) ∧
      next.fileSize = UInt64.ofNat (bytes - (filename.length + 2)) := by
  unfold receiveFirst
  simp only [named]
  split
  next => exact .inl ⟨false, _, rfl, rfl, rfl, rfl⟩
  next =>
    cases openable : host.openable (dstpath.val ++ filename)
        (createSubfolders host (dstpath.val ++ filename) state.folders).2 with
    | false =>
        left
        refine ⟨true, _, if_pos ?_, rfl, ?_, rfl⟩ <;> simp [OFStream.openTrunc, IoState.failed]
    | true =>
        right
        simp only [OFStream.openTrunc_closed (OFStream.close_path state.ofile)]
        obtain ⟨next, running, folders, files, path, size⟩ := receivePayload_writes
          { state with
            ofile := { path := some (dstpath.val ++ filename) }
            files := Function.update state.files (dstpath.val ++ filename) (some [])
            folders := host.opened (dstpath.val ++ filename)
              (createSubfolders host (dstpath.val ++ filename) state.folders).2
            fileSize := 0 }
          rfl fits eof
        refine ⟨next, running, folders, ?_, path, by simpa using size⟩
        rw [files, OFStream.write_open (fun _ _ => rfl) rfl]
        simp

theorem write_taken {dstpath : ArgString} {state : ReceiveState Folders} {message : Message}
    (later : message.first = false) :
    (state.ofile.write message.payload state.files).2 = state.taken dstpath message := by
  simp only [ReceiveState.taken, later, OFStream.write]
  cases state.ofile.path with
  | none => cases state.ofile.state.good <;> simp [apply_ite Prod.snd]
  | some path => cases state.ofile.state.good <;> rfl

variable (host : Host Folders) (dstpath : ArgString)

theorem first_harmless {state : ReceiveState Folders} {message : Message} (received : message ≠ [])
    (fits : message.length ≤ state.buf.length) (sized : state.buf.length < 2 ^ 31)
    (first : message.first = true) (terminated : 0 ∈ message.drop 1) :
    Harmless host dstpath state message := by
  have wellFormed : message.WellFormed := fun _ => terminated
  have name := received_fileName state received terminated
  have size := received_headerSize state received wellFormed
  have header := headerSize_le wellFormed received
  have counted : message.headerSize = message.fileName.length + 2 := by simp [Message.headerSize, first]
  constructor
  case header => rw [size]; exact header
  case name =>
    intro _
    rw [name]
    exact nameHeader_inside terminated
  case effect =>
    have named : cString ((state.received message).drop 1) = some message.fileName := by
      rw [received_drop state received]
      exact cString_terminated _ _ terminated
    rw [receiveMessage_first dstpath state received fits first]
    rcases receiveFirst_writes host dstpath
      { state with buf := state.received message } named (counted ▸ header) message.eof with
      ⟨result, next, returned, untouched⟩ | ⟨next, running, folders, files, path, written⟩
    · rw [returned]
      exact untouched
    · rw [running]
      constructor
      case folders => simp [folders, first]
      case files =>
        rw [files, ← counted, received_eq, slice_message _ _ header]
        simp [ReceiveState.taken, first, Message.payload]
      case path => simp [path, first]
      case growth =>
        simp only [first, Bool.true_eq_false, false_and, if_false, if_true, Nat.zero_add]
        rw [written, ← counted, UInt64.toNat_ofNat_of_lt' (by rw [UInt64.size]; omega)]

theorem later_harmless {state : ReceiveState Folders} {message : Message} (received : message ≠ [])
    (fits : message.length ≤ state.buf.length) (later : message.first = false)
    (countable : Countable state message) : Harmless host dstpath state message := by
  have buffered : (state.received message).headerSize = 1 := by
    simp [Message.headerSize, received_first state received, later]
  have size : message.headerSize = 1 := by simp [Message.headerSize, later]
  have header : 1 ≤ message.length := List.length_pos_iff.mpr received
  constructor
  case header => rw [buffered]; exact header
  case name =>
    intro first
    rw [received_first state received, later] at first
    cases first
  case effect =>
    rw [receiveMessage_later dstpath state received fits later]
    cases failed : state.ofile.state.failed with
    | true =>
        rw [receivePayload_skips { state with buf := state.received message } failed]
        have bad := not_good_of_failed failed
        constructor
        case folders => simp [later]
        case files =>
          rw [← write_taken later]
          simp [OFStream.write, bad]
        case path => simp [later, failed]
        case growth => simp [later, failed]
    | false =>
        obtain ⟨next, running, folders, files, path, written⟩ := receivePayload_writes
          { state with buf := state.received message } failed header message.eof
        rw [running]
        constructor
        case folders => simp [folders, later]
        case files => rw [files, ← write_taken later, received_eq, slice_message _ _ header, Message.payload, size]
        case path => simp [path, later, failed]
        case growth =>
          simp only [later, failed, Bool.false_eq_true, and_false, if_false]
          have room := countable later failed
          rw [written, size, UInt64.toNat_add, UInt64.toNat_ofNat_of_lt' (by rw [UInt64.size]; omega)]
          exact Nat.mod_eq_of_lt room

theorem countable_of_harmless {state : ReceiveState Folders} {message : Message} (received : message ≠ [])
    (fits : message.length ≤ state.buf.length) (harmless : Harmless host dstpath state message) :
    Countable state message := by
  intro later unfailed
  have size : message.headerSize = 1 := by simp [Message.headerSize, later]
  obtain ⟨next, running, -⟩ := receivePayload_writes
    { state with buf := state.received message } unfailed (List.length_pos_iff.mpr received) message.eof
  have effect := harmless.effect
  rw [receiveMessage_later dstpath state received fits later, running] at effect
  have growth := effect.growth
  simp only [later, unfailed, Bool.false_eq_true, and_false, if_false, size] at growth
  rw [← growth]
  exact next.fileSize.toNat_lt

end Effect

theorem segment_harmless_iff (host : Host Folders) (dstpath : ArgString) (state : ReceiveState Folders)
    (message : Message) (received : message ≠ []) (fits : message.length ≤ state.buf.length)
    (sized : state.buf.length < 2 ^ 31) :
    Harmless host dstpath state message ↔ message.WellFormed ∧ Countable state message := by
  constructor
  · intro harmless
    exact ⟨wellFormed_of_headerSize_le received harmless.header,
      countable_of_harmless host dstpath received fits harmless⟩
  · rintro ⟨wellFormed, countable⟩
    cases first : message.first with
    | true => exact first_harmless host dstpath received fits sized first (wellFormed first)
    | false => exact later_harmless host dstpath received fits first countable

theorem segment_harmless_iff_named :
    Harmless plainHost ⟨[], by simp⟩ (startReceiver [0, 0, 0, 0] (fun _ => none) ()) [1, 97, 0, 5] :=
  (segment_harmless_iff plainHost ⟨[], by simp⟩ (startReceiver [0, 0, 0, 0] (fun _ => none) ())
    [1, 97, 0, 5] (by decide) (by decide) (by decide)).mpr ⟨by decide, fun later => by cases later⟩

-- Two bytes, the flags and a letter: the terminator is a leftover and the header has three bytes.
theorem truncated_segment_harmful :
    ¬ Harmless plainHost ⟨[], by simp⟩ (startReceiver [0, 0, 0, 0] (fun _ => none) ()) [1, 97] := by
  intro harmless
  have header := harmless.header
  revert header
  decide

end XTransmit.FileTransfer
