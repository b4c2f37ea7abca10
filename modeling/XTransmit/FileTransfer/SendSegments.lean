import XTransmit.FileTransfer.SendRounds

set_option autoImplicit false

namespace XTransmit.FileTransfer

open Bytes FileStream

/-- `dst.write` takes a message whole, at once or after finitely many answers of zero, and nobody raises
`force_break`. -/
structure SendEnv.Lossless (env : SendEnv) : Prop where
  unbroken : ∀ reading, env.forceBreak reading = false
  zeroOrFull : ∀ call length, env.write call length = some 0 ∨ env.write call length = some (length : Int)
  progress : ∀ call length, ∃ later, call ≤ later ∧ env.write later length = some (length : Int)

section Delivery

variable {env : SendEnv}

theorem SendEnv.Lossless.patient (lossless : env.Lossless) : env.Patient where
  unbroken := lossless.unbroken
  answers call length positive := by
    obtain ⟨later, after, full⟩ := lossless.progress call length
    refine ⟨later, after, ?_⟩
    rw [full, ne_eq, Option.some.injEq]
    omega

theorem SendEnv.Lossless.takes (lossless : env.Lossless) (call : Nat) (message : Message) :
    ∃ later, env.Takes call message later := by
  obtain ⟨later, after, full⟩ := lossless.progress call message.length
  obtain ⟨gap, rfl⟩ := Nat.exists_eq_add_of_le after
  induction gap generalizing call with
  | zero => exact ⟨call, Nat.le_refl _, fun index low high => absurd low (Nat.not_le.mpr high), full⟩
  | succ gap ih =>
      rcases lossless.zeroOrFull call message.length with zero | now
      · obtain ⟨later, next, zeros, taken⟩ := ih (call + 1) (Nat.le_add_right _ _)
          (by rwa [Nat.add_assoc, Nat.add_comm 1 gap])
        refine ⟨later, by omega, fun index low high => ?_, taken⟩
        rcases Nat.eq_or_lt_of_le low with rfl | beyond
        · exact zero
        · exact zeros index beyond high
      · exact ⟨call, Nat.le_refl _, fun index low high => absurd low (Nat.not_le.mpr high), now⟩

theorem SendEnv.Lossless.acceptsAll (lossless : env.Lossless) (messages : List Message) (call : Nat) :
    env.AcceptsAll call messages := by
  induction messages generalizing call with
  | nil => trivial
  | cons message rest ih =>
      obtain ⟨later, taken⟩ := lossless.takes call message
      exact ⟨later, taken, ih (later + 1)⟩

theorem readCount_round {size : Nat} {header contents : List UInt8} (room : header.length + 1 < size)
    (small : min size (contents.length + (header.length + 1)) < 2 ^ 31) :
    readCount (contents.take (size - (header.length + 1))) = (min (size - (header.length + 1)) contents.length : Nat) := by
  rw [readCount_small (by rw [List.length_take]; omega), List.length_take]

theorem handovers_segments {size : Nat} {header : List UInt8} (contents : List UInt8) (room : header.length + 1 < size)
    (small : min size (contents.length + (header.length + 1)) < 2 ^ 31) :
    handovers size header contents = (segments size header contents, true) := by
  fun_induction handovers size header contents with
  | case1 header contents capacity bytes n short nothing =>
      have count : n = (min (size - (header.length + 1)) contents.length : Nat) := readCount_round room small
      have empty : contents = [] := by
        rw [← List.length_eq_zero_iff]
        omega
      rw [empty, segments_empty size header room]
  | case2 header contents capacity bytes n short filled wide =>
      have count : n = (min (size - (header.length + 1)) contents.length : Nat) := readCount_round room small
      omega
  | case3 header contents capacity bytes n short filled narrow =>
      have count : n = (min (size - (header.length + 1)) contents.length : Nat) := readCount_round room small
      have last : contents.length < size - (header.length + 1) := by omega
      have nonempty : contents ≠ [] := by
        rw [← List.length_pos_iff]
        omega
      rw [segments_short last, if_neg nonempty, count, Int.toNat_natCast, List.take_take, List.take_of_length_le]
      omega
  | case4 header contents capacity bytes n full nothing ih =>
      have count : n = (min (size - (header.length + 1)) contents.length : Nat) := readCount_round room small
      omega
  | case5 header contents capacity bytes n full filled wide =>
      have count : n = (min (size - (header.length + 1)) contents.length : Nat) := readCount_round room small
      omega
  | case6 header contents capacity bytes n full filled narrow later ih =>
      have count : n = (min (size - (header.length + 1)) contents.length : Nat) := readCount_round room small
      have inner : ([] : List UInt8).length + 1 < size := by
        rw [List.length_nil]
        omega
      have rest := ih inner (by rw [List.length_drop, List.length_nil]; omega)
      have exactly : n.toNat = capacity := by omega
      rw [segments, if_neg full]
      simp only [later, rest, exactly, bytes, List.take_take, Nat.min_self]
      rfl

theorem takeWhile_nulFree_self {name : List UInt8} (nulFree : 0 ∉ name) : name.takeWhile (· ≠ 0) = name := by
  rw [List.takeWhile_eq_self_iff]
  intro byte member
  simpa using fun zero : byte = 0 => nulFree (zero ▸ member)

theorem sendFile_segments (lossless : env.Lossless) {size : Nat} (small : size < 2 ^ 31)
    (name contents : List UInt8) (nulFree : 0 ∉ name) (room : name.length + 2 < size) (state : SendState)
    (sized : state.buf.length = size) :
    ∃ fuel final,
      sendFile env fuel ⟨name, some { rest := contents }⟩ state =
        some (if deltaUs env state.clockReads (state.clockReads + 1) = 0 then .fault else .returned true, final) ∧
      final.sent = state.sent ++ fileSegments size name contents ∧
      final.buf.length = size ∧ final.clockReads = state.clockReads + 2 := by
  have whole := takeWhile_nulFree_self nulFree
  have named : headerOf (name.takeWhile (· ≠ 0)) = some (nameHeader name) := by
    rw [whole, headerOf, if_pos (by omega)]
  have cut := handovers_segments contents (nameHeader_room room) (by omega)
  obtain ⟨fuel, outcome, final, ended, follows⟩ := sendFile_handovers lossless.patient sized named
    (by rw [whole]; omega) (nameHeader_room room) contents
  rw [cut] at follows
  obtain ⟨-, rfl, sent, length, clock⟩ := follows.resolve_right
    fun refused => refused.1 (lossless.acceptsAll _ _)
  exact ⟨fuel, final, by simpa using ended, sent, length, clock rfl⟩

end Delivery

structure NamedFile where
  name : List UInt8
  contents : List UInt8

def NamedFile.source (file : NamedFile) : SourceFile := ⟨file.name, some { rest := file.contents }⟩

/-- The files that a run sends: it ends with the first one that takes less than a microsecond. -/
def transmitted (env : SendEnv) : Nat → List NamedFile → List NamedFile
  | _, [] => []
  | clock, file :: rest =>
      file :: if deltaUs env clock (clock + 1) = 0 then [] else transmitted env (clock + 2) rest

theorem startFilesender_segments {env : SendEnv} (lossless : env.Lossless) {size : Nat} (small : size < 2 ^ 31)
    (files : List NamedFile) (nulFree : ∀ file ∈ files, 0 ∉ file.name)
    (room : ∀ file ∈ files, file.name.length + 2 < size) (state : SendState) (sized : state.buf.length = size) :
    ∃ fuel outcome final, startFilesender env fuel (files.map NamedFile.source) state = some (outcome, final) ∧
      final.sent = state.sent ++
        (transmitted env state.clockReads files).flatMap (fun file => fileSegments size file.name file.contents) ∧
      outcome = if ∀ index < files.length,
          deltaUs env (state.clockReads + 2 * index) (state.clockReads + 2 * index + 1) ≠ 0
        then .returned true else .fault := by
  induction files generalizing state with
  | nil => exact ⟨0, .returned true, state, rfl, by simp [transmitted], by simp⟩
  | cons file rest ih =>
      obtain ⟨fuel, middle, sent, messages, length, clock⟩ := sendFile_segments lossless small file.name
        file.contents (nulFree file (by simp)) (room file (by simp)) state sized
      simp only [List.length_cons, Nat.forall_lt_succ_left]
      by_cases zero : deltaUs env state.clockReads (state.clockReads + 1) = 0
      · rw [if_pos zero] at sent
        refine ⟨fuel, .fault, middle, ?_, by simpa [transmitted, zero] using messages, by simp [zero]⟩
        simp [startFilesender, NamedFile.source, sent]
      · rw [if_neg zero] at sent
        obtain ⟨more, outcome, final, later, all, ended⟩ := ih
          (fun next member => nulFree next (List.mem_cons_of_mem _ member))
          (fun next member => room next (List.mem_cons_of_mem _ member))
          { middle with breakReads := middle.breakReads + 1 } length
        have shift (index : Nat) : state.clockReads + 2 + 2 * index = state.clockReads + 2 * (index + 1) := by omega
        refine ⟨max fuel more, outcome, final, ?_, ?_, ?_⟩
        · have first := sendFile_mono (Nat.le_max_left fuel more) sent
          have others := startFilesender_mono (Nat.le_max_right fuel more) later
          simp [startFilesender, NamedFile.source, first, lossless.unbroken, others]
        · rw [all, messages, clock]
          simp [transmitted, zero]
        · simp only [ended, clock, shift]
          simp [zero]

end XTransmit.FileTransfer
