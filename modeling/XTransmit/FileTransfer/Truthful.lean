import XTransmit.FileTransfer.SendSegments

set_option autoImplicit false

namespace XTransmit.FileTransfer

def Truthful (env : SendEnv) (uploadName contents : List UInt8) (state : SendState) : Prop :=
  ∃ fuel outcome final, sendFile env fuel ⟨uploadName, some { rest := contents }⟩ state = some (outcome, final) ∧
    outcome ≠ .fault ∧
    (outcome = .returned true → ∃ messages, final.sent = state.sent ++ messages ∧
      messages.flatMap Message.payload = contents)

section Payloads

def IsHeader (header : List UInt8) : Prop := header = [] ∨ ∃ name, 0 ∉ name ∧ header = nameHeader name

variable {size : Nat} {header contents : List UInt8}

theorem segment_payload (isHeader : IsHeader header) (bytes : List UInt8) (eof : Bool) :
    (segment header bytes eof).payload = bytes := by
  obtain rfl | ⟨name, nulFree, rfl⟩ := isHeader
  · exact segment_payload_later bytes eof
  · exact segment_payload_first name bytes eof nulFree

theorem segments_payload (isHeader : IsHeader header) (room : header.length + 1 < size) :
    (segments size header contents).flatMap Message.payload = contents := by
  fun_induction segments size header contents with
  | case1 => rfl
  | case2 header contents capacity short filled => simp [segment_payload isHeader]
  | case3 header contents capacity full ih =>
      have rest := ih (.inl rfl) (by rw [List.length_nil]; omega)
      rw [List.flatMap_cons, rest, segment_payload isHeader, List.take_append_drop]

theorem length_payload_le (size : Nat) (contents : List UInt8) (isHeader : IsHeader header) :
    ((handovers size header contents).1.flatMap Message.payload).length ≤ contents.length := by
  fun_induction handovers size header contents with
  | case1 => simp
  | case2 => simp
  | case3 header contents capacity bytes n short filled narrow => simp [segment_payload isHeader, bytes]
  | case4 header contents capacity bytes n full nothing ih =>
      exact Nat.le_trans (ih isHeader) (by simp)
  | case5 => simp
  | case6 header contents capacity bytes n full filled narrow later ih =>
      have rest : (later.1.flatMap Message.payload).length ≤ (contents.drop capacity).length := ih (.inl rfl)
      simp only [List.flatMap_cons, segment_payload isHeader, List.length_append, List.length_take, bytes]
      rw [List.length_drop] at rest
      omega

theorem readCount_lt {bytes : List UInt8} (narrow : ¬2 ^ 31 ≤ readCount bytes + (header.length + 1 : Nat))
    (wide : 2 ^ 31 ≤ bytes.length + (header.length + 1)) : readCount bytes < bytes.length := by
  rcases Nat.lt_or_ge bytes.length (2 ^ 31) with small | large
  · rw [readCount_small small] at narrow
    omega
  · exact readCount_large large

-- Beyond 2^31 bytes the count of a read is wrong, and what it misses is never sent.
theorem length_payload_lt (isHeader : IsHeader header) (room : header.length + 1 < size)
    (counted : header.length + 1 < 2 ^ 31) (wide : 2 ^ 31 ≤ min size (contents.length + (header.length + 1)))
    (whole : (handovers size header contents).2 = true) :
    ((handovers size header contents).1.flatMap Message.payload).length < contents.length := by
  have read : 2 ^ 31 ≤ (contents.take (size - (header.length + 1))).length + (header.length + 1) := by
    rw [List.length_take]
    omega
  revert whole
  fun_cases handovers size header contents <;> intro whole
  case case1 capacity bytes n short nothing =>
    simp only [List.flatMap_nil, List.length_nil]
    omega
  case case2 => cases whole
  case case3 capacity bytes n short filled narrow =>
    have less : n < bytes.length := readCount_lt narrow read
    simp only [List.flatMap_cons, segment_payload isHeader, List.flatMap_nil, List.append_nil, List.length_take]
    have : bytes.length ≤ contents.length := by simp [bytes]
    omega
  case case4 capacity bytes n full nothing =>
    have rest := length_payload_le size (contents.drop capacity) isHeader
    exact Nat.lt_of_le_of_lt rest (length_drop_lt full)
  case case5 => cases whole
  case case6 capacity bytes n full filled narrow later =>
    have less : n < bytes.length := readCount_lt narrow read
    have rest : (later.1.flatMap Message.payload).length ≤ (contents.drop capacity).length :=
      length_payload_le size (contents.drop capacity) (.inl rfl)
    have cut : bytes.length ≤ capacity := List.length_take_le _ _
    rw [List.length_drop] at rest
    simp only [List.flatMap_cons, segment_payload isHeader, List.length_append, List.length_take]
    clear_value n bytes capacity
    omega

theorem headerOf_isHeader {uploadName : List UInt8} (named : headerOf (uploadName.takeWhile (· ≠ 0)) = some header) :
    IsHeader header ∧ header.length + 1 < 2 ^ 31 := by
  have nulFree : 0 ∉ uploadName.takeWhile (· ≠ 0) := fun member => by simpa using List.mem_takeWhile_imp member
  unfold headerOf at named
  split_ifs at named with small
  · cases named
    exact ⟨.inr ⟨_, nulFree, rfl⟩, by rw [length_nameHeader]; exact small⟩
  · cases named
    exact ⟨.inl rfl, by decide⟩

end Payloads

section Success

theorem truthful_ends {env : SendEnv} {uploadName contents : List UInt8} {state : SendState}
    (truthful : Truthful env uploadName contents state) {fuel : Nat} {outcome : SendOutcome} {final : SendState}
    (ended : sendFile env fuel ⟨uploadName, some { rest := contents }⟩ state = some (outcome, final)) :
    outcome ≠ .fault ∧ (outcome = .returned true → ∃ messages, final.sent = state.sent ++ messages ∧
      messages.flatMap Message.payload = contents) := by
  obtain ⟨more, other, again, same, rest⟩ := truthful
  cases sendFile_unique ended same
  exact rest

variable {env : SendEnv} (patient : env.Patient) {size : Nat} {uploadName header : List UInt8} (contents : List UInt8)
  {state : SendState} (sized : state.buf.length = size)

include patient sized

theorem truthful_room (truthful : Truthful env uploadName contents state) :
    ∃ header, headerOf (uploadName.takeWhile (· ≠ 0)) = some header ∧
      (uploadName.takeWhile (· ≠ 0)).length + 2 ≤ size ∧ header.length + 1 < size := by
  have fits : (uploadName.takeWhile (· ≠ 0)).length + 2 ≤ size := by
    by_contra unfit
    exact (truthful_ends truthful (sendFile_unfit sized unfit 0 _)).1 rfl
  cases named : headerOf (uploadName.takeWhile (· ≠ 0)) with
  | none => exact absurd rfl (truthful_ends truthful (sendFile_uncounted named 0 _)).1
  | some header =>
      refine ⟨header, rfl, fits, ?_⟩
      unfold headerOf at named
      split_ifs at named with small
      · cases named
        rw [length_nameHeader]
        rcases Nat.lt_or_eq_of_le fits with less | full
        · exact less
        · obtain ⟨fuel, outcome, final, ended, -⟩ := truthful
          rw [sendFile_full patient.unbroken sized small full] at ended
          cases ended
      · cases named
        rw [List.length_nil]
        omega

theorem send_file_truthful_iff :
    Truthful env uploadName contents state ↔
      ∃ header, headerOf (uploadName.takeWhile (· ≠ 0)) = some header ∧
        (uploadName.takeWhile (· ≠ 0)).length + 2 ≤ size ∧ header.length + 1 < size ∧
        (¬env.AcceptsAll state.writes (handovers size header contents).1 ∨
          min size (contents.length + (header.length + 1)) < 2 ^ 31 ∧
            deltaUs env state.clockReads (state.clockReads + 1) ≠ 0) := by
  constructor
  · intro truthful
    obtain ⟨header, named, fits, room⟩ := truthful_room patient contents sized truthful
    refine ⟨header, named, fits, room, ?_⟩
    obtain ⟨isHeader, counted⟩ := headerOf_isHeader named
    obtain ⟨fuel, outcome, final, ended, follows⟩ := sendFile_handovers patient sized named fits room contents
    obtain ⟨sound, whole⟩ := truthful_ends truthful ended
    rcases follows with ⟨-, rfl, sent, -⟩ | ⟨refused, -⟩
    · right
      split_ifs at sound whole with passed
      · obtain ⟨messages, all, payload⟩ := whole rfl
        rw [List.append_cancel_left (all.symm.trans sent)] at payload
        refine ⟨Nat.lt_of_not_le fun wide => ?_, passed.2⟩
        have less := length_payload_lt isHeader room counted wide passed.1
        rw [payload] at less
        exact Nat.lt_irrefl _ less
      · exact absurd rfl sound
    · exact .inl refused
  · rintro ⟨header, named, fits, room, condition⟩
    obtain ⟨isHeader, -⟩ := headerOf_isHeader named
    obtain ⟨fuel, outcome, final, ended, follows⟩ := sendFile_handovers patient sized named fits room contents
    refine ⟨fuel, outcome, final, ended, ?_⟩
    rcases follows with ⟨accepted, rfl, sent, -⟩ | ⟨-, failed⟩
    · obtain ⟨small, passed⟩ := condition.resolve_left (not_not.mpr accepted)
      rw [handovers_segments contents room small] at sent ⊢
      simp only [passed, ne_eq, not_false_eq_true, and_self, if_true]
      exact ⟨by simp, fun _ => ⟨_, sent, segments_payload isHeader room⟩⟩
    · exact ⟨failed.stopped.2, fun returned => absurd returned failed.stopped.1⟩

end Success

def promptEnv (step : Int64) : SendEnv where
  write _ length := some length
  forceBreak _ := false
  now reading := Int64.ofNat reading * step

theorem promptEnv_lossless (step : Int64) : (promptEnv step).Lossless where
  unbroken _ := rfl
  zeroOrFull _ _ := .inr rfl
  progress call _ := ⟨call, Nat.le_refl call, rfl⟩

theorem send_file_truthful_iff_prompt :
    Truthful (promptEnv 1000) [97] [7] { buf := [0, 0, 0, 0] } :=
  (send_file_truthful_iff (promptEnv_lossless 1000).patient [7] rfl).mpr
    ⟨[97, 0], rfl, by decide, by decide, .inr ⟨by decide, by decide⟩⟩

-- The name fills the segment, and the sender reads nothing for ever; or the file takes no microsecond.
theorem name_fills_segment_or_no_time_passes :
    ¬Truthful (promptEnv 1000) [97] [7] { buf := [0, 0, 0] } ∧ ¬Truthful (promptEnv 0) [97] [7] { buf := [0, 0, 0, 0] } := by
  constructor
  · rintro ⟨fuel, outcome, final, ended, -⟩
    have stuck : sendFile (promptEnv 1000) fuel ⟨[97], some { rest := [7] }⟩ { buf := [0, 0, 0] } = none :=
      sendFile_full (promptEnv_lossless 1000).unbroken rfl (by decide) (by decide) fuel [7]
    rw [stuck] at ended
    cases ended
  · intro truthful
    obtain ⟨fuel, final, ended, -⟩ := sendFile_segments (promptEnv_lossless 0) (by decide) [97] [7] (by decide)
      (by decide) { buf := [0, 0, 0, 0] } rfl
    rw [if_pos (by decide)] at ended
    exact (truthful_ends truthful ended).1 rfl

end XTransmit.FileTransfer
