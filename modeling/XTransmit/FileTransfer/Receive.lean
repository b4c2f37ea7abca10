import XTransmit.FileTransfer.Assembly

set_option autoImplicit false

namespace XTransmit.FileTransfer

open Bytes FileStream

abbrev ArgString := { bytes : List UInt8 // 0 ∉ bytes }

structure ReceiveState (Folders : Type) where
  buf : List UInt8
  ofile : OFStream Path := {}
  files : Files Path
  folders : Folders
  fileSize : UInt64 := 0

inductive ReceiveOutcome (Folders : Type) where
  | running (state : ReceiveState Folders)
  | returned (result : Bool) (state : ReceiveState Folders)
  | fault

variable {Folders : Type}

-- `hdr_size` is an `int`, and `srt_recvmsg2` returns one: no message reaches 2^31 bytes.
def receivePayload (bytes hdrSize : Nat) (eof : Bool) (state : ReceiveState Folders) : ReceiveOutcome Folders :=
  if state.ofile.state.failed then .running state
  -- `bytes - hdr_size` would wrap around.
  else if bytes < hdrSize then .fault
  else
    let written := state.ofile.write (slice hdrSize (bytes - hdrSize) state.buf) state.files
    .running { state with
      ofile := if eof then written.1.close else written.1
      files := written.2
      fileSize := state.fileSize + UInt64.ofNat (bytes - hdrSize) }

def receiveFirst (host : Host Folders) (dstpath : ArgString) (bytes : Nat) (eof : Bool)
    (state : ReceiveState Folders) : ReceiveOutcome Folders :=
  match cString (state.buf.drop 1) with
  | none => .fault
  | some filename =>
      let filepath := dstpath.val ++ filename
      let made := createSubfolders host filepath state.folders
      let state := { state with ofile := state.ofile.close, folders := made.2 }
      if !made.1 then .returned false state
      else
        let opened := state.ofile.openTrunc filepath (host.openable filepath state.folders) state.files
        let state := { state with ofile := opened.1, files := opened.2 }
        if state.ofile.state.failed then .returned true state
        else
          let state := { state with folders := host.opened filepath state.folders, fileSize := 0 }
          receivePayload bytes (filename.length + 2) eof state

def receiveMessage (host : Host Folders) (dstpath : ArgString) (state : ReceiveState Folders) (message : Message) :
    ReceiveOutcome Folders :=
  let message := message.take state.buf.length
  let state := { state with buf := overwrite 0 message state.buf }
  if message = [] then .running state
  else
    let flags := state.buf.headD 0
    if isFirst flags then receiveFirst host dstpath message.length (isEof flags) state
    else receivePayload message.length 1 (isEof flags) state

/-- The iterations of `receive_files` over what `src.read` returned, an empty message for a read of zero
bytes. `force_break` ends the loop between two of them. -/
def receiveFiles (host : Host Folders) (dstpath : ArgString) :
    ReceiveState Folders → List Message → ReceiveOutcome Folders
  | state, [] => .running state
  | state, message :: rest =>
      match receiveMessage host dstpath state message with
      | .running next => receiveFiles host dstpath next rest
      | stopped => stopped

def ReceiveState.assembly (state : ReceiveState Folders) : Assembly := ⟨state.ofile.path, state.files⟩

variable {host : Host Folders} (dstpath : ArgString)

theorem failed_closed {ofile : OFStream Path} (ready : ofile.Ready) (failed : ofile.state.failed = true) :
    ofile.path = none := by
  cases opened : ofile.path with
  | none => rfl
  | some path => simp [ready path opened, IoState.failed] at failed

theorem receivePayload_assembles (state : ReceiveState Folders) (ready : state.ofile.Ready)
    {bytes hdrSize : Nat} (fits : hdrSize ≤ bytes) (eof : Bool) :
    ∃ next, receivePayload bytes hdrSize eof state = .running next ∧ next.ofile.Ready ∧
      next.buf = state.buf ∧
      next.assembly =
        match state.ofile.path with
        | none => state.assembly
        | some path =>
            { current := if eof then none else some path
              files := Function.update state.files path
                ((state.files path).map (· ++ slice hdrSize (bytes - hdrSize) state.buf)) } := by
  unfold receivePayload
  split
  next failed =>
    rw [failed_closed ready failed]
    exact ⟨state, rfl, ready, rfl, rfl⟩
  next good =>
    rw [if_neg (Nat.not_lt.mpr fits)]
    refine ⟨_, rfl, ?_, rfl, ?_⟩
    · cases eof with
      | true => exact OFStream.close_ready _
      | false => exact OFStream.write_ready ready _ _
    · cases opened : state.ofile.path with
      | none => cases eof <;> simp [ReceiveState.assembly, OFStream.write_closed opened, opened]
      | some path => cases eof <;> simp [ReceiveState.assembly, OFStream.write_open ready opened, opened]

theorem receiveFirst_assembles (succeeds : host.Succeeds) (state : ReceiveState Folders) {bytes : Nat}
    {filename : List UInt8} (named : cString (state.buf.drop 1) = some filename)
    (fits : filename.length + 2 ≤ bytes) (eof : Bool) :
    ∃ next, receiveFirst host dstpath bytes eof state = .running next ∧ next.ofile.Ready ∧
      next.buf = state.buf ∧
      next.assembly =
        { current := if eof then none else some (dstpath.val ++ filename)
          files := Function.update state.files (dstpath.val ++ filename)
            (some (slice (filename.length + 2) (bytes - (filename.length + 2)) state.buf)) } := by
  unfold receiveFirst
  simp only [named, createSubfolders_succeeds succeeds, succeeds.opens,
    OFStream.openTrunc_closed (OFStream.close_path state.ofile)]
  obtain ⟨next, running, ready, buf, assembled⟩ := receivePayload_assembles
    { state with
      ofile := { path := some (dstpath.val ++ filename) }
      files := Function.update state.files (dstpath.val ++ filename) (some [])
      folders := host.opened (dstpath.val ++ filename) (createSubfolders host (dstpath.val ++ filename) state.folders).2
      fileSize := 0 }
    (fun _ _ => rfl) fits eof
  refine ⟨next, running, ready, buf, ?_⟩
  simpa using assembled

theorem overwrite_zero (message buf : List UInt8) :
    overwrite 0 message buf = message ++ buf.drop message.length := by
  simp [overwrite]

theorem slice_message (message rest : List UInt8) {hdrSize : Nat} (fits : hdrSize ≤ message.length) :
    slice hdrSize (message.length - hdrSize) (message ++ rest) = message.drop hdrSize := by
  rw [slice_append_left _ _ _ _ (by omega), slice, List.take_of_length_le (by simp)]

def ReceiveState.received (state : ReceiveState Folders) (message : Message) : Message :=
  overwrite 0 message state.buf

section Received

variable (state : ReceiveState Folders) {message : Message}

theorem received_eq (message : Message) :
    state.received message = message ++ state.buf.drop message.length :=
  overwrite_zero message state.buf

theorem received_headD (received : message ≠ []) : (state.received message).headD 0 = message.headD 0 := by
  rw [received_eq]
  cases message with
  | nil => exact absurd rfl received
  | cons flags rest => rfl

theorem received_drop (received : message ≠ []) :
    (state.received message).drop 1 = message.drop 1 ++ state.buf.drop message.length := by
  rw [received_eq, List.drop_append_of_le_length (List.length_pos_iff.mpr received)]

theorem length_received (fits : message.length ≤ state.buf.length) :
    (state.received message).length = state.buf.length :=
  length_overwrite _ _ _ (by omega)

theorem receiveMessage_empty : receiveMessage host dstpath state [] = .running state := by
  simp [receiveMessage, overwrite]

theorem receiveMessage_first (received : message ≠ []) (fits : message.length ≤ state.buf.length)
    (first : message.first = true) :
    receiveMessage host dstpath state message =
      receiveFirst host dstpath message.length message.eof { state with buf := state.received message } := by
  have flags := received_headD state received
  have here : isFirst (message.headD 0) = true := first
  unfold receiveMessage
  rw [List.take_of_length_le fits]
  dsimp only
  rw [if_neg received, ← ReceiveState.received, flags, here]
  rfl

theorem receiveMessage_later (received : message ≠ []) (fits : message.length ≤ state.buf.length)
    (later : message.first = false) :
    receiveMessage host dstpath state message =
      receivePayload message.length 1 message.eof { state with buf := state.received message } := by
  have flags := received_headD state received
  have here : isFirst (message.headD 0) = false := later
  unfold receiveMessage
  rw [List.take_of_length_le fits]
  dsimp only
  rw [if_neg received, ← ReceiveState.received, flags, here]
  rfl

end Received

theorem receiveMessage_assembles (succeeds : host.Succeeds) {state : ReceiveState Folders}
    (ready : state.ofile.Ready) {message : Message} (fits : message.length ≤ state.buf.length)
    (wellFormed : message.WellFormed) :
    ∃ next, receiveMessage host dstpath state message = .running next ∧ next.ofile.Ready ∧
      next.buf.length = state.buf.length ∧
      next.assembly = state.assembly.receive dstpath message := by
  by_cases received : message = []
  · subst received
    exact ⟨state, receiveMessage_empty dstpath state, ready, rfl, (Assembly.receive_empty _).symm⟩
  · have kept := length_received state fits
    have header := headerSize_le wellFormed received
    cases first : message.first with
    | true =>
        have named : cString ((state.received message).drop 1) = some message.fileName := by
          rw [received_drop state received]
          exact cString_terminated _ _ (wellFormed first)
        have size : message.headerSize = message.fileName.length + 2 := by simp [Message.headerSize, first]
        obtain ⟨next, running, opened, buf, assembled⟩ := receiveFirst_assembles dstpath succeeds
          { state with buf := state.received message } named (size ▸ header) message.eof
        refine ⟨next, ?_, opened, by rw [buf]; exact kept, ?_⟩
        · rw [receiveMessage_first dstpath state received fits first]
          exact running
        · rw [assembled, Assembly.receive_first first, received_eq, slice_message _ _ (size ▸ header), ← size]
          rfl
    | false =>
        have size : message.headerSize = 1 := by simp [Message.headerSize, first]
        obtain ⟨next, running, opened, buf, assembled⟩ := receivePayload_assembles
          { state with buf := state.received message } ready (size ▸ header) message.eof
        refine ⟨next, ?_, opened, by rw [buf]; exact kept, ?_⟩
        · rw [receiveMessage_later dstpath state received fits first]
          exact running
        · rw [assembled, received_eq, slice_message _ _ (size ▸ header), ← size]
          cases current : state.ofile.path with
          | none => exact (Assembly.receive_outside first current).symm
          | some path =>
              have opened : state.assembly.current = some path := current
              exact (Assembly.receive_later first opened).symm

theorem receiveFiles_assembles (succeeds : host.Succeeds) {state : ReceiveState Folders}
    (ready : state.ofile.Ready) {messages : List Message}
    (fits : ∀ message ∈ messages, message.length ≤ state.buf.length)
    (wellFormed : ∀ message ∈ messages, message.WellFormed) :
    ∃ final, receiveFiles host dstpath state messages = .running final ∧
      final.assembly = state.assembly.receiveAll dstpath messages := by
  induction messages generalizing state with
  | nil => exact ⟨state, rfl, rfl⟩
  | cons message rest ih =>
      obtain ⟨next, running, opened, length, assembled⟩ := receiveMessage_assembles dstpath succeeds ready
        (fits message (by simp)) (wellFormed message (by simp))
      obtain ⟨final, rests, all⟩ := ih opened
        (fun later member => length ▸ fits later (List.mem_cons_of_mem _ member))
        (fun later member => wellFormed later (List.mem_cons_of_mem _ member))
      refine ⟨final, ?_, ?_⟩
      · simpa [receiveFiles, running] using rests
      · rw [all, assembled]
        rfl

end XTransmit.FileTransfer
