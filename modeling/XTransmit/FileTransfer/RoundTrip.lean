import XTransmit.FileTransfer.Framing

set_option autoImplicit false

namespace XTransmit.FileTransfer

open FileStream

variable {Folders : Type}

def Transferred (dstpath : ArgString) (sources : List NamedFile) (before after : Files Path) : Prop :=
  (∀ file ∈ sources, file.contents ≠ [] → after (dstpath ++ file.name) = some file.contents) ∧
    ∀ path, (∀ file ∈ sources, file.contents ≠ [] → dstpath ++ file.name ≠ path) → after path = before path

-- The reads of the receiver are what was sent, with empty reads in between. What becomes of the sender
-- behind its last segment is left open here; `sender_outcome` says it.
def RoundTrip (env : SendEnv) (host : Host Folders) (dstpath : ArgString) (folders : Folders)
    (segmentBuf : List UInt8) (sources : List NamedFile) : Prop :=
  ∃ fuel outcome final,
    startFilesender env fuel (sources.map NamedFile.source) { buf := segmentBuf } = some (outcome, final) ∧
    ∀ buf files reads, segmentBuf.length ≤ buf.length → reads.filter (· ≠ []) = final.sent →
      ∃ receiver, receiveFiles host dstpath (startReceiver buf files folders) reads = .running receiver ∧
        Transferred dstpath sources files receiver.files

def Delayed (env : SendEnv) (index : Nat) : Prop := deltaUs env (2 * index) (2 * index + 1) ≠ 0

instance (env : SendEnv) : DecidablePred (Delayed env) := fun _ => inferInstanceAs (Decidable (_ ≠ _))

def allSegments (size : Nat) (sources : List NamedFile) : List Message :=
  sources.flatMap fun file => fileSegments size file.name file.contents

theorem Assembly.receiveAll_file (dstpath : ArgString) {size : Nat} {file : NamedFile} (nulFree : 0 ∉ file.name)
    (room : file.name.length + 2 < size) (assembly : Assembly) :
    Transferred dstpath [file] assembly.files
      (assembly.receiveAll dstpath (fileSegments size file.name file.contents)).files := by
  simp only [Transferred, List.mem_singleton, forall_eq]
  by_cases empty : file.contents = []
  · rw [empty, fileSegments_empty room]
    exact ⟨fun filled => absurd rfl filled, fun _ _ => rfl⟩
  · rw [receiveAll_fileSegments assembly size file.name file.contents nulFree empty]
    exact ⟨fun _ => Function.update_self _ _ _,
      fun path other => Function.update_of_ne (Ne.symm (other empty)) _ _⟩

theorem Assembly.receiveAll_allSegments (dstpath : ArgString) {size : Nat} (sources : List NamedFile)
    (nulFree : ∀ file ∈ sources, 0 ∉ file.name) (room : ∀ file ∈ sources, file.name.length + 2 < size)
    (distinct : (sources.map NamedFile.name).Nodup) (assembly : Assembly) :
    Transferred dstpath sources assembly.files
      (assembly.receiveAll dstpath (allSegments size sources)).files := by
  induction sources generalizing assembly with
  | nil => exact ⟨by simp, fun _ _ => rfl⟩
  | cons file rest ih =>
      obtain ⟨fresh, others⟩ := List.nodup_cons.mp distinct
      obtain ⟨here, elsewhere⟩ := receiveAll_file dstpath (nulFree file (by simp)) (room file (by simp))
        assembly
      obtain ⟨later, unchanged⟩ := ih (fun next member => nulFree next (List.mem_cons_of_mem _ member))
        (fun next member => room next (List.mem_cons_of_mem _ member)) others
        (assembly.receiveAll dstpath (fileSegments size file.name file.contents))
      rw [allSegments, List.flatMap_cons, receiveAll_append]
      constructor
      · intro next member filled
        rcases List.mem_cons.mp member with rfl | inside
        · -- No later file has this name.
          refine (unchanged _ fun other inside _ same => ?_).trans (here next (by simp) filled)
          exact fresh (List.mem_map.mpr ⟨other, inside, List.append_cancel_left same⟩)
        · exact later next inside filled
      · intro path unnamed
        refine (unchanged path fun other inside => unnamed other (List.mem_cons_of_mem _ inside)).trans ?_
        exact elsewhere path (by simpa using unnamed file (by simp))

theorem transmitted_getElem?_iff (env : SendEnv) (clock : Nat) (sources : List NamedFile) (index : Nat)
    (file : NamedFile) :
    (transmitted env clock sources)[index]? = some file ↔
      sources[index]? = some file ∧
        ∀ earlier < index, deltaUs env (clock + 2 * earlier) (clock + 2 * earlier + 1) ≠ 0 := by
  induction sources generalizing clock index with
  | nil => simp [transmitted]
  | cons head rest ih =>
      cases index with
      | zero => simp [transmitted]
      | succ index =>
          have shift (earlier : Nat) : clock + 2 * (earlier + 1) = clock + 2 + 2 * earlier := by omega
          rw [Nat.forall_lt_succ_left]
          simp only [shift, Nat.mul_zero, Nat.add_zero]
          by_cases zero : deltaUs env clock (clock + 1) = 0
          · simp [transmitted, zero]
          · simpa [transmitted, zero] using ih (clock + 2) index

theorem transmitted_sublist (env : SendEnv) (clock : Nat) (sources : List NamedFile) :
    (transmitted env clock sources).Sublist sources := by
  induction sources generalizing clock with
  | nil => exact List.Sublist.refl _
  | cons file rest ih =>
      rw [transmitted]
      split
      next => simp
      next => exact (ih (clock + 2)).cons_cons file

section Delivered

variable {dstpath : ArgString} {size : Nat} {sources : List NamedFile} {reads : List Message}

theorem mem_delivered (delivered : reads.filter (· ≠ []) = allSegments size sources) {message : Message}
    (member : message ∈ reads) :
    message = [] ∨ ∃ file ∈ sources, message ∈ fileSegments size file.name file.contents := by
  by_cases filled : message = []
  · exact .inl filled
  · have sent : message ∈ reads.filter (· ≠ []) := List.mem_filter.mpr ⟨member, by simpa using filled⟩
    rw [delivered] at sent
    exact .inr (List.mem_flatMap.mp sent)

variable (room : ∀ file ∈ sources, file.name.length + 2 < size)
  (delivered : reads.filter (· ≠ []) = allSegments size sources)

include room delivered

theorem delivered_fits {message : Message} (member : message ∈ reads) : message.length ≤ size := by
  rcases mem_delivered delivered member with rfl | ⟨file, inside, cut⟩
  · exact Nat.zero_le _
  · exact length_fileSegments_le (room file inside) _ message cut

theorem delivered_wellFormed {message : Message} (member : message ∈ reads) : message.WellFormed := by
  rcases mem_delivered delivered member with rfl | ⟨file, inside, cut⟩
  · decide
  · exact fileSegments_wellFormed (room file inside) _ message cut

theorem receive_delivered {host : Host Folders} (succeeds : host.Succeeds) (folders : Folders)
    (nulFree : ∀ file ∈ sources, 0 ∉ file.name) (distinct : (sources.map NamedFile.name).Nodup) {buf : List UInt8}
    (large : size ≤ buf.length) (files : Files Path) :
    ∃ receiver, receiveFiles host dstpath (startReceiver buf files folders) reads = .running receiver ∧
      Transferred dstpath sources files receiver.files := by
  obtain ⟨receiver, running, assembled⟩ := receiveFiles_assembles dstpath succeeds
    (startReceiver_ready buf files folders)
    (fun message member => Nat.le_trans (delivered_fits room delivered member) large)
    (fun message member => delivered_wellFormed room delivered member)
  refine ⟨receiver, running, ?_⟩
  have contents := congrArg Assembly.files assembled
  rw [startReceiver_assembly, Assembly.receiveAll_filter, delivered] at contents
  have all := Assembly.receiveAll_allSegments dstpath sources nulFree room distinct ⟨none, files⟩
  rw [← contents] at all
  exact all

end Delivered

section Transfer

variable {env : SendEnv} (lossless : env.Lossless) {host : Host Folders} (succeeds : host.Succeeds)
  (dstpath : ArgString) (folders : Folders) {segmentBuf : List UInt8} (small : segmentBuf.length < 2 ^ 31)
  {sources : List NamedFile} (nulFree : ∀ file ∈ sources, 0 ∉ file.name)
  (room : ∀ file ∈ sources, file.name.length + 2 < segmentBuf.length)
  (distinct : (sources.map NamedFile.name).Nodup)

include succeeds nulFree room distinct in
theorem receive_transmitted (buf : List UInt8) (files : Files Path) (reads : List Message)
    (large : segmentBuf.length ≤ buf.length)
    (delivered : reads.filter (· ≠ []) = allSegments segmentBuf.length (transmitted env 0 sources)) :
    ∃ receiver, receiveFiles host dstpath (startReceiver buf files folders) reads = .running receiver ∧
      Transferred dstpath (transmitted env 0 sources) files receiver.files := by
  have kept := transmitted_sublist env 0 sources
  exact receive_delivered (fun file member => room file (kept.subset member)) delivered succeeds folders
    (fun file member => nulFree file (kept.subset member)) (distinct.sublist (kept.map NamedFile.name)) large files

include lossless small nulFree room in
theorem sends_transmitted :
    ∃ fuel outcome final,
      startFilesender env fuel (sources.map NamedFile.source) { buf := segmentBuf } = some (outcome, final) ∧
        final.sent = allSegments segmentBuf.length (transmitted env 0 sources) := by
  obtain ⟨fuel, outcome, final, ended, sent, -⟩ :=
    startFilesender_segments lossless small sources nulFree room { buf := segmentBuf } rfl
  exact ⟨fuel, outcome, final, ended, sent⟩

include lossless small nulFree room in
theorem sender_outcome {fuel : Nat} {outcome : SendOutcome} {final : SendState}
    (ended : startFilesender env fuel (sources.map NamedFile.source) { buf := segmentBuf } = some (outcome, final)) :
    outcome = if ∀ index < sources.length, Delayed env index then .returned true else .fault := by
  obtain ⟨more, other, same, again, -, found⟩ :=
    startFilesender_segments lossless small sources nulFree room { buf := segmentBuf } rfl
  cases startFilesender_unique ended again
  simp only [Nat.zero_add] at found
  exact found

include lossless succeeds small nulFree room distinct

theorem roundTrip_of_delayed
    (delayed : ∀ index file, sources[index]? = some file → file.contents ≠ [] →
      ∀ earlier < index, Delayed env earlier) :
    RoundTrip env host dstpath folders segmentBuf sources := by
  obtain ⟨fuel, outcome, final, ended, sent⟩ := sends_transmitted lossless small nulFree room
  refine ⟨fuel, outcome, final, ended, ?_⟩
  intro buf files reads large delivered
  obtain ⟨receiver, running, here, elsewhere⟩ := receive_transmitted succeeds dstpath folders nulFree room
    distinct buf files reads large (delivered.trans sent)
  refine ⟨receiver, running, ?_, ?_⟩
  · intro file member filled
    obtain ⟨index, found⟩ := List.mem_iff_getElem?.mp member
    refine here file (List.mem_of_getElem? ((transmitted_getElem?_iff env 0 sources index file).mpr ?_)) filled
    exact ⟨found, by simpa [Delayed] using delayed index file found filled⟩
  · intro path unnamed
    exact elsewhere path fun file member =>
      unnamed file ((transmitted_sublist env 0 sources).subset member)

theorem delayed_of_roundTrip (trip : RoundTrip env host dstpath folders segmentBuf sources) (index : Nat)
    (file : NamedFile) (found : sources[index]? = some file) (filled : file.contents ≠ []) :
    ∀ earlier < index, Delayed env earlier := by
  obtain ⟨fuel, outcome, final, ended, received⟩ := trip
  obtain ⟨more, other, same, again, sent⟩ := sends_transmitted lossless small nulFree room
  cases startFilesender_unique ended again
  have unpadded : final.sent.filter (· ≠ []) = final.sent := by
    rw [List.filter_eq_self, sent]
    intro message member
    obtain ⟨origin, -, cut⟩ := List.mem_flatMap.mp member
    simpa using segments_ne_nil _ _ _ message cut
  obtain ⟨receiver, running, here, -⟩ := received segmentBuf (fun _ => none) final.sent (Nat.le_refl _) unpadded
  obtain ⟨copy, repeated, -, elsewhere⟩ := receive_transmitted succeeds dstpath folders nulFree room distinct
    segmentBuf (fun _ => none) final.sent (Nat.le_refl _) (unpadded.trans sent)
  cases ReceiveOutcome.running.inj (running.symm.trans repeated)
  by_contra undelayed
  have missing : receiver.files (dstpath ++ file.name) = none := by
    refine elsewhere _ fun next member _ same => ?_
    obtain ⟨place, placed⟩ := List.mem_iff_getElem?.mp member
    obtain ⟨there, before⟩ := (transmitted_getElem?_iff env 0 sources place next).mp placed
    have names : (sources.map NamedFile.name)[place]? = (sources.map NamedFile.name)[index]? := by
      simp [there, found, List.append_cancel_left same]
    have inside := (List.getElem?_eq_some_iff.mp there).1
    have position := (List.getElem?_inj (by simpa using inside) distinct).mp names
    exact undelayed (by simpa [Delayed, position] using before)
  rw [here file (List.mem_of_getElem? found) filled] at missing
  cases missing

theorem file_transfer_round_trip_iff :
    RoundTrip env host dstpath folders segmentBuf sources ↔
      ∀ index file, sources[index]? = some file → file.contents ≠ [] →
        ∀ earlier < index, Delayed env earlier :=
  ⟨delayed_of_roundTrip lossless succeeds dstpath folders small nulFree room distinct,
    roundTrip_of_delayed lossless succeeds dstpath folders small nulFree room distinct⟩

end Transfer

theorem file_transfer_round_trip_iff_two_files :
    RoundTrip plainEnv plainHost ⟨[47], by simp⟩ () [0, 0, 0, 0] [⟨[97], [1]⟩, ⟨[98], [2, 3]⟩] := by
  refine (file_transfer_round_trip_iff plainEnv_lossless plainHost_succeeds ⟨[47], by simp⟩ () (by decide)
    (by decide) (by decide) (by decide)).mpr ?_
  intro index file found _ earlier before
  have inside := (List.getElem?_eq_some_iff.mp found).1
  simp only [List.length_cons, List.length_nil] at inside
  have first : earlier = 0 := by omega
  rw [first]
  simp only [Delayed, deltaUs, plainEnv]
  decide

def stoppedClock : SendEnv := { plainEnv with now := fun _ => 0 }

theorem stoppedClock_lossless : stoppedClock.Lossless where
  unbroken := fun _ => rfl
  zeroOrFull := fun _ _ => .inr rfl
  progress := fun call _ => ⟨call, Nat.le_refl _, rfl⟩

-- An empty file that takes less than a microsecond ends the sender before the next file.
theorem file_behind_empty_file_is_lost :
    ¬ RoundTrip stoppedClock plainHost ⟨[47], by simp⟩ () [0, 0, 0, 0] [⟨[97], []⟩, ⟨[98], [1]⟩] := by
  intro trip
  have delayed := delayed_of_roundTrip stoppedClock_lossless plainHost_succeeds ⟨[47], by simp⟩ () (by decide)
    (by decide) (by decide) (by decide) trip 1 ⟨[98], [1]⟩ rfl (by decide) 0 (by decide)
  exact delayed rfl

end XTransmit.FileTransfer
