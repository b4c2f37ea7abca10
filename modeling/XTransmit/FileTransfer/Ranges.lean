import XTransmit.FileTransfer.Receive

set_option autoImplicit false

namespace XTransmit.FileTransfer

open FileStream

variable {Folders : Type}

def startReceiver (buf : List UInt8) (files : Files Path) (folders : Folders) : ReceiveState Folders :=
  { buf := buf, files := files, folders := folders }

theorem startReceiver_ready (buf : List UInt8) (files : Files Path) (folders : Folders) :
    (startReceiver buf files folders).ofile.Ready := fun _ _ => rfl

theorem startReceiver_assembly (buf : List UInt8) (files : Files Path) (folders : Folders) :
    (startReceiver buf files folders).assembly = ⟨none, files⟩ := rfl

theorem Assembly.receiveAll_range {dstpath : Path} (assembly : Assembly) (before after : List Message)
    (message : Message) (first : message.first = true)
    (last : ∀ later ∈ after, ¬ Names dstpath later (dstpath ++ message.fileName)) :
    (assembly.receiveAll dstpath (before ++ message :: after)).files (dstpath ++ message.fileName) =
      some (message.payload ++ if message.eof then [] else (fileRange after).flatMap Message.payload) := by
  rw [receiveAll_append, receiveAll_cons, receive_first first]
  cases eof : message.eof with
  | true =>
      rw [receiveAll_keeps _ (by simp) _ last]
      simp
  | false =>
      rw [receiveAll_extends message.payload _ (by simp) (by simp) _ last]
      simp

theorem files_are_message_ranges (host : Host Folders) (succeeds : host.Succeeds) (dstpath : ArgString)
    (buf : List UInt8) (files : Files Path) (folders : Folders) (messages : List Message)
    (fits : ∀ message ∈ messages, message.length ≤ buf.length)
    (wellFormed : ∀ message ∈ messages, message.WellFormed) :
    ∃ final, receiveFiles host dstpath (startReceiver buf files folders) messages = .running final ∧
      (∀ before message after, messages = before ++ message :: after → message.first = true →
        (∀ later ∈ after, ¬ Names dstpath later (dstpath ++ message.fileName)) →
        final.files (dstpath ++ message.fileName) =
          some (message.payload ++ if message.eof then [] else (fileRange after).flatMap Message.payload)) ∧
      (∀ path, (∀ message ∈ messages, ¬ Names dstpath message path) → final.files path = files path) ∧
      (∀ before message, messages = before ++ [message] → message.first = false → OutsideRange before →
        ∃ earlier, receiveFiles host dstpath (startReceiver buf files folders) before = .running earlier ∧
          final.files = earlier.files) := by
  obtain ⟨final, running, assembled⟩ := receiveFiles_assembles dstpath succeeds
    (startReceiver_ready buf files folders) fits wellFormed
  rw [startReceiver_assembly] at assembled
  have contents : final.files = (Assembly.receiveAll dstpath ⟨none, files⟩ messages).files :=
    congrArg Assembly.files assembled
  refine ⟨final, running, ?_, ?_, ?_⟩
  · intro before message after split first last
    rw [contents, split]
    exact Assembly.receiveAll_range _ before after message first last
  · intro path unnamed
    rw [contents]
    exact Assembly.receiveAll_keeps _ (by simp) messages unnamed
  · intro before message split later outside
    have prior : ∀ earlier ∈ before, earlier ∈ messages := by
      intro earlier member
      rw [split]
      exact List.mem_append_left _ member
    obtain ⟨earlier, reached, assembledBefore⟩ := receiveFiles_assembles dstpath succeeds
      (startReceiver_ready buf files folders) (fun other member => fits other (prior other member))
      (fun other member => wellFormed other (prior other member))
    rw [startReceiver_assembly] at assembledBefore
    refine ⟨earlier, reached, ?_⟩
    have closed : (Assembly.receiveAll dstpath ⟨none, files⟩ before).current = none :=
      Assembly.closed_outside rfl outside
    have last : Assembly.receiveAll dstpath ⟨none, files⟩ messages =
        Assembly.receiveAll dstpath ⟨none, files⟩ before := by
      rw [split, Assembly.receiveAll_append]
      exact Assembly.receive_outside later closed
    rw [contents, last, ← assembledBefore]
    rfl

def plainHost : Host Unit where
  createDirectory := fun _ folders => (.created, folders)
  openable := fun _ _ => true

theorem plainHost_succeeds : plainHost.Succeeds where
  creates := by simp [plainHost]
  opens := by simp [plainHost]

theorem files_are_message_ranges_stray_segment :
    ∃ final, receiveFiles plainHost ⟨[], by simp⟩ (startReceiver [0, 0, 0, 0] (fun _ => none) ())
        [[1, 97, 0, 5], [2, 6], [0, 7]] = .running final ∧
      final.files [97] = some [5, 6] := by
  obtain ⟨final, running, ranges, -⟩ := files_are_message_ranges plainHost plainHost_succeeds ⟨[], by simp⟩
    [0, 0, 0, 0] (fun _ => none) () [[1, 97, 0, 5], [2, 6], [0, 7]] (by decide) (by decide)
  exact ⟨final, running, ranges [] [1, 97, 0, 5] [[2, 6], [0, 7]] rfl (by decide) (by decide)⟩

end XTransmit.FileTransfer
