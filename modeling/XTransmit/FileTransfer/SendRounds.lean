import XTransmit.FileTransfer.Send

set_option autoImplicit false

namespace XTransmit.FileTransfer

open Bytes FileStream

theorem bind_mono {α β : Type} {first first' : Option α} {next next' : α → Option β} {result : β}
    (head : ∀ value, first = some value → first' = some value)
    (tail : ∀ value, next value = some result → next' value = some result)
    (ended : first.bind next = some result) : first'.bind next' = some result := by
  obtain ⟨value, found, rest⟩ := Option.bind_eq_some_iff.mp ended
  exact Option.bind_eq_some_iff.mpr ⟨value, head value found, tail value rest⟩

section Fuel

variable {env : SendEnv} {fuel more : Nat}

theorem writeSegment_mono {message : Message} {state : SendState} {result : SendOutcome × SendState}
    (enough : fuel ≤ more) (ended : writeSegment env message fuel state = some result) :
    writeSegment env message more state = some result := by
  induction fuel generalizing more state with
  | zero => simp [writeSegment] at ended
  | succ fuel ih =>
      obtain ⟨more, rfl⟩ := Nat.exists_eq_add_of_le' (Nat.le_trans (Nat.le_add_left 1 fuel) enough)
      unfold writeSegment at ended ⊢
      split at ended
      next failed => simpa [failed] using ended
      next st taken =>
        split at ended
        next retry => simpa [retry] using ih (Nat.le_of_succ_le_succ enough) ended
        next answered => simpa [answered] using ended

theorem sendBytes_mono {n : Int} {progress : Progress} {result : SendOutcome × Progress}
    (enough : fuel ≤ more) (ended : sendBytes env fuel n progress = some result) :
    sendBytes env more n progress = some result := by
  unfold sendBytes at ended ⊢
  split_ifs at ended ⊢ with empty wide
  · exact ended
  · exact ended
  · exact bind_mono (fun _ written => writeSegment_mono enough written) (fun _ rest => rest) ended

theorem sendLoop_mono {progress : Progress} {result : SendOutcome × Progress}
    (enough : fuel ≤ more) (ended : sendLoop env fuel progress = some result) :
    sendLoop env more progress = some result := by
  induction fuel generalizing more progress with
  | zero => simp [sendLoop] at ended
  | succ fuel ih =>
      obtain ⟨more, rfl⟩ := Nat.exists_eq_add_of_le' (Nat.le_trans (Nat.le_add_left 1 fuel) enough)
      have less : fuel ≤ more := Nat.le_of_succ_le_succ enough
      unfold sendLoop at ended ⊢
      simp only at ended ⊢
      split_ifs at ended ⊢ with raised
      · exact ended
      · refine bind_mono (fun _ sent => sendBytes_mono less sent) ?_ ended
        intro round rest
        split_ifs at rest ⊢ with stopped eof broken
        · exact rest
        · exact rest
        · exact rest
        · exact ih less rest

theorem sendFile_mono {file : SourceFile} {state : SendState} {result : SendOutcome × SendState}
    (enough : fuel ≤ more) (ended : sendFile env fuel file state = some result) :
    sendFile env more file state = some result := by
  unfold sendFile at ended ⊢
  simp only at ended ⊢
  split
  next unreadable => simpa [unreadable] using ended
  next ifile opened =>
    simp only [opened] at ended
    split
    next overflow =>
      rw [overflow] at ended
      exact ended
    next buf stored =>
      rw [stored] at ended
      split
      next overflow =>
        rw [overflow] at ended
        exact ended
      next hdrSize sized =>
        rw [sized] at ended
        exact bind_mono (fun _ looped => sendLoop_mono enough looped) (fun _ rest => rest) ended

theorem startFilesender_mono {files : List SourceFile} {state : SendState}
    {result : SendOutcome × SendState} (enough : fuel ≤ more)
    (ended : startFilesender env fuel files state = some result) :
    startFilesender env more files state = some result := by
  induction files generalizing state with
  | nil => exact ended
  | cons file rest ih =>
      refine bind_mono (fun _ sent => sendFile_mono enough sent) ?_ ended
      intro outcome later
      simp only at later ⊢
      split_ifs at later ⊢ with stopped raised
      · exact later
      · exact later
      · exact ih later

theorem sendFile_unique {file : SourceFile} {state : SendState} {left right : SendOutcome × SendState}
    (ended : sendFile env fuel file state = some left) (again : sendFile env more file state = some right) :
    left = right :=
  Option.some.inj ((sendFile_mono (Nat.le_max_left fuel more) ended).symm.trans
    (sendFile_mono (Nat.le_max_right fuel more) again))

theorem startFilesender_unique {files : List SourceFile} {state : SendState}
    {left right : SendOutcome × SendState} (ended : startFilesender env fuel files state = some left)
    (again : startFilesender env more files state = some right) : left = right :=
  Option.some.inj ((startFilesender_mono (Nat.le_max_left fuel more) ended).symm.trans
    (startFilesender_mono (Nat.le_max_right fuel more) again))

end Fuel

structure SendEnv.Patient (env : SendEnv) : Prop where
  unbroken : ∀ reading, env.forceBreak reading = false
  answers : ∀ call length, 0 < length → ∃ later, call ≤ later ∧ env.write later length ≠ some 0

def SendEnv.Takes (env : SendEnv) (call : Nat) (message : Message) (later : Nat) : Prop :=
  call ≤ later ∧ (∀ index, call ≤ index → index < later → env.write index message.length = some 0) ∧
    env.write later message.length = some (message.length : Int)

def SendEnv.AcceptsAll (env : SendEnv) : Nat → List Message → Prop
  | _, [] => True
  | call, message :: rest => ∃ later, env.Takes call message later ∧ env.AcceptsAll (later + 1) rest

-- `(int)ifile.read(..).gcount()`
def readCount (bytes : List UInt8) : Int := (bytes.length : Int).bmod (2 ^ 32)

theorem readCount_small {bytes : List UInt8} (small : bytes.length < 2 ^ 31) : readCount bytes = bytes.length := by
  apply Int.bmod_eq_of_le <;> omega

theorem readCount_large {bytes : List UInt8} (large : 2 ^ 31 ≤ bytes.length) : readCount bytes < bytes.length := by
  have below : readCount bytes < (2 ^ 32 + 1) / 2 := Int.bmod_lt (by decide)
  omega

theorem readCount_le (bytes : List UInt8) : readCount bytes ≤ bytes.length := by
  rcases Nat.lt_or_ge bytes.length (2 ^ 31) with small | large
  · rw [readCount_small small]
  · exact Int.le_of_lt (readCount_large large)

theorem length_drop_lt {contents : List UInt8} {capacity : Nat}
    (full : ¬(contents.length < capacity ∨ capacity = 0)) : (contents.drop capacity).length < contents.length := by
  rw [List.length_drop]
  omega

/-- The messages of a file as long as all are taken, and whether the loop comes to its end without an overflow
of `n + hdr_size`. A round whose count is not positive hands over nothing. -/
def handovers (size : Nat) (header contents : List UInt8) : List Message × Bool :=
  let capacity := size - (header.length + 1)
  let bytes := contents.take capacity
  let n := readCount bytes
  if contents.length < capacity ∨ capacity = 0 then
    if n ≤ 0 then ([], true)
    else if 2 ^ 31 ≤ n + (header.length + 1 : Nat) then ([], false)
    else ([segment header (bytes.take n.toNat) true], true)
  else if n ≤ 0 then handovers size header (contents.drop capacity)
  else if 2 ^ 31 ≤ n + (header.length + 1 : Nat) then ([], false)
  else
    let later := handovers size [] (contents.drop capacity)
    (segment header (bytes.take n.toNat) false :: later.1, later.2)
termination_by contents.length
decreasing_by
  all_goals exact length_drop_lt ‹_›

section Writes

variable {env : SendEnv} {message : Message}

theorem writeSegment_zeros {call later fuel : Nat} {state : SendState} (start : state.writes = call)
    (after : call ≤ later) (zeros : ∀ index, call ≤ index → index < later → env.write index message.length = some 0) :
    writeSegment env message (fuel + (later - call)) state =
      writeSegment env message fuel { state with writes := later } := by
  obtain ⟨gap, rfl⟩ := Nat.exists_eq_add_of_le after
  subst start
  rw [Nat.add_sub_cancel_left]
  induction gap generalizing state with
  | zero => rfl
  | succ gap ih =>
      have zero := zeros state.writes (Nat.le_refl _) (by omega)
      have rest := @ih { state with writes := state.writes + 1 } (Nat.le_add_right _ _)
        (fun index low high => zeros index (by simp only at low; omega) (by simp only at high; omega))
      rw [← Nat.add_assoc, writeSegment]
      simp only [zero, if_true]
      rw [rest]
      simp only [Nat.add_assoc, Nat.add_comm 1 gap]

theorem writeSegment_taken (nonempty : message ≠ []) {state : SendState} {later : Nat}
    (taken : env.Takes state.writes message later) :
    ∃ fuel, writeSegment env message fuel state =
      some (.returned true, { state with sent := state.sent ++ [message], writes := later + 1 }) := by
  obtain ⟨after, zeros, full⟩ := taken
  have positive := List.length_pos_iff.mpr nonempty
  refine ⟨1 + (later - state.writes), ?_⟩
  rw [writeSegment_zeros rfl after zeros]
  simp only [writeSegment, full]
  rw [if_neg (by omega), if_neg (by omega), if_neg (by simp)]

theorem takes_unique (nonempty : message ≠ []) {call left right : Nat} (taken : env.Takes call message left)
    (again : env.Takes call message right) : left = right := by
  have positive := List.length_pos_iff.mpr nonempty
  obtain ⟨afterLeft, zerosLeft, fullLeft⟩ := taken
  obtain ⟨afterRight, zerosRight, fullRight⟩ := again
  rcases Nat.lt_trichotomy left right with earlier | same | earlier
  · rw [zerosRight left afterLeft earlier, Option.some.injEq] at fullLeft
    omega
  · exact same
  · rw [zerosLeft right afterRight earlier, Option.some.injEq] at fullRight
    omega

theorem acceptsAll_cons_iff (nonempty : message ≠ []) {call later : Nat} {rest : List Message}
    (taken : env.Takes call message later) :
    env.AcceptsAll call (message :: rest) ↔ env.AcceptsAll (later + 1) rest := by
  constructor
  · rintro ⟨again, took, others⟩
    rwa [takes_unique nonempty taken took]
  · exact fun others => ⟨later, taken, others⟩

theorem acceptsAll_takes {call : Nat} {rest : List Message} (accepted : env.AcceptsAll call (message :: rest)) :
    ∃ later, env.Takes call message later := by
  obtain ⟨later, taken, -⟩ := accepted
  exact ⟨later, taken⟩

def Refused (outcome : SendOutcome) : Prop := outcome = .returned false ∨ outcome = .threw

theorem Refused.stopped {outcome : SendOutcome} (refused : Refused outcome) :
    outcome ≠ .returned true ∧ outcome ≠ .fault := by
  rcases refused with rfl | rfl <;> simp

theorem writeSegment_refused (patient : env.Patient) (nonempty : message ≠ []) {state : SendState}
    (refused : ∀ later, ¬env.Takes state.writes message later) :
    ∃ fuel outcome final, writeSegment env message fuel state = some (outcome, final) ∧ Refused outcome ∧
      final.buf = state.buf ∧ final.clockReads = state.clockReads := by
  classical
  have answered := patient.answers state.writes message.length (List.length_pos_iff.mpr nonempty)
  obtain ⟨after, answer⟩ := Nat.find_spec answered
  have zeros : ∀ index, state.writes ≤ index → index < Nat.find answered → env.write index message.length = some 0 :=
    fun index low early => not_not.mp fun nonzero => Nat.find_min answered early ⟨low, nonzero⟩
  have partly := fun full => refused (Nat.find answered) ⟨after, zeros, full⟩
  refine ⟨1 + (Nat.find answered - state.writes), ?_⟩
  rw [writeSegment_zeros rfl after zeros]
  generalize Nat.find answered = later at answer partly
  cases result : env.write later message.length with
  | none => exact ⟨.threw, { state with writes := later + 1 }, by simp [writeSegment, result], .inr rfl, rfl, rfl⟩
  | some st =>
      rw [result] at answer partly
      have nonzero : st ≠ 0 := fun zero => answer (by rw [zero])
      have short : st ≠ message.length := fun full => partly (by rw [full])
      exact ⟨.returned false, { state with writes := later + 1 }, by simp [writeSegment, result, nonzero, short],
        .inl rfl, rfl, rfl⟩

end Writes

section Rounds

variable {env : SendEnv}

structure Progress.Holds (progress : Progress) (size : Nat) (header contents : List UInt8) : Prop where
  sized : progress.state.buf.length = size
  held : slice 1 header.length progress.state.buf = header
  hdr : progress.hdrSize = header.length + 1
  stream : progress.ifile = { rest := contents }

theorem take_segment {header bytes buf : List UInt8} {flags : UInt8} {count : Nat}
    (held : slice 1 header.length buf = header) (fits : header.length + 1 + bytes.length ≤ buf.length)
    (within : count ≤ bytes.length) :
    (overwrite 0 [flags] (overwrite (header.length + 1) bytes buf)).take (count + (header.length + 1)) =
      flags :: (header ++ bytes.take count) := by
  cases buf with
  | nil => simp at fits
  | cons old rest =>
      have start : rest.take header.length = header := by simpa [slice] using held
      simp only [overwrite, List.take_succ_cons, start, List.take_zero, List.nil_append, List.cons_append,
        List.length_singleton, Nat.zero_add, List.drop_succ_cons, List.drop_zero, ← Nat.add_assoc]
      rw [List.append_assoc, Nat.add_comm count, List.take_length_add_append, List.take_append_of_le_length within]

structure Progress.Reads (progress round : Progress) (size : Nat) (header bytes : List UInt8) (after : IFStream) :
    Prop where
  read : readSegment { progress with state.breakReads := progress.state.breakReads + 1 } = (readCount bytes, round)
  sized : round.state.buf.length = size
  held : slice 1 header.length round.state.buf = header
  hdr : round.hdrSize = header.length + 1
  stream : round.ifile = after
  sent : round.state.sent = progress.state.sent
  writes : round.state.writes = progress.state.writes
  clock : round.state.clockReads = progress.state.clockReads
  message : ∀ count ≤ bytes.length,
    round.state.buf.take (count + (header.length + 1)) = segment header (bytes.take count) after.state.eof

variable {size : Nat} {header contents : List UInt8} {progress : Progress}

def afterRead (capacity : Nat) (contents : List UInt8) : IFStream where
  rest := contents.drop capacity
  state := if contents.length < capacity then { eof := true, fail := true } else {}

theorem Progress.Holds.read (holds : progress.Holds size header contents) :
    progress.ifile.read (size - progress.hdrSize) =
      (contents.take (size - (header.length + 1)), afterRead (size - (header.length + 1)) contents) := by
  rw [holds.stream, holds.hdr]
  by_cases short : contents.length < size - (header.length + 1)
  · simp [IFStream.read, IoState.good, afterRead, Nat.not_le.mpr short, short, List.take_of_length_le (Nat.le_of_lt short),
      List.drop_of_length_le (Nat.le_of_lt short)]
  · simp [IFStream.read, IoState.good, afterRead, Nat.not_lt.mp short, short]

theorem Progress.Holds.reads (holds : progress.Holds size header contents) (room : header.length + 1 < size) :
    ∃ round, progress.Reads round size header (contents.take (size - (header.length + 1)))
      (afterRead (size - (header.length + 1)) contents) := by
  have read := holds.read
  have sized := holds.sized
  have short : (contents.take (size - (header.length + 1))).length ≤ size - (header.length + 1) :=
    List.length_take_le _ _
  generalize contents.take (size - (header.length + 1)) = bytes at read short ⊢
  generalize afterRead (size - (header.length + 1)) contents = after at read ⊢
  have fits : header.length + 1 + bytes.length ≤ progress.state.buf.length := by omega
  have stored := length_overwrite (header.length + 1) bytes progress.state.buf fits
  have flagged : 0 + [headerFlags after.state.eof (1 < header.length + 1)].length ≤
      (overwrite (header.length + 1) bytes progress.state.buf).length := by
    simp only [List.length_singleton]
    omega
  refine ⟨{ progress with
    ifile := after
    state.breakReads := progress.state.breakReads + 1
    state.buf := overwrite 0 [headerFlags after.state.eof (1 < header.length + 1)]
      (overwrite (header.length + 1) bytes progress.state.buf) }, ?_, ?_, ?_, holds.hdr, rfl, rfl, rfl, rfl, ?_⟩
  · unfold readSegment
    dsimp only
    rw [sized, read, holds.hdr]
    rfl
  · dsimp only
    rw [length_overwrite _ _ _ flagged, stored, sized]
  · dsimp only
    rw [slice_overwrite_disjoint _ _ _ _ _ flagged (.inr (Nat.le_refl 1)),
      slice_overwrite_disjoint _ _ _ _ _ fits (.inl (by omega)), holds.held]
  · intro count within
    dsimp only
    rw [take_segment holds.held fits within]
    cases header <;> simp [segment]

theorem sendLoop_stops (patient : env.Patient) {fuel : Nat} {round middle : Progress} {bytes : List UInt8}
    {after : IFStream} {outcome : SendOutcome} (reads : progress.Reads round size header bytes after)
    (sent : sendBytes env fuel (readCount bytes) round = some (outcome, middle)) (stopped : outcome ≠ .returned true) :
    sendLoop env (fuel + 1) progress = some (outcome, middle) := by
  rw [sendLoop]
  simp only [patient.unbroken, Bool.false_eq_true, if_false, reads.read, sent]
  simp [stopped]

theorem afterRead_eof (capacity : Nat) (contents : List UInt8) :
    (afterRead capacity contents).state.eof = decide (contents.length < capacity) := by
  by_cases short : contents.length < capacity <;> simp [afterRead, short]

theorem afterRead_full {capacity : Nat} {contents : List UInt8} (full : ¬contents.length < capacity) :
    afterRead capacity contents = { rest := contents.drop capacity } := by
  simp [afterRead, full]

theorem sendLoop_next (patient : env.Patient) {fuel capacity : Nat} {round middle : Progress} {bytes : List UInt8}
    (reads : progress.Reads round size header bytes (afterRead capacity contents)) (kept : middle.ifile = round.ifile)
    (sent : sendBytes env fuel (readCount bytes) round = some (.returned true, middle)) :
    sendLoop env (fuel + 1) progress =
      if contents.length < capacity then some (.returned true, middle) else sendLoop env fuel middle := by
  rw [sendLoop]
  simp only [patient.unbroken, Bool.false_eq_true, if_false, reads.read, sent]
  have stream : middle.ifile = afterRead capacity contents := kept.trans reads.stream
  by_cases short : contents.length < capacity
  · simp [stream, afterRead, short]
  · simp [stream, afterRead, short, IoState.good]

variable (patient : env.Patient) (holds : progress.Holds size header contents) (room : header.length + 1 < size)

include patient holds room

theorem round_skips (nothing : readCount (contents.take (size - (header.length + 1))) ≤ 0) :
    ∃ middle : Progress, (∀ fuel, sendLoop env (fuel + 1) progress =
        if contents.length < size - (header.length + 1) then some (.returned true, middle)
        else sendLoop env fuel middle) ∧
      (¬contents.length < size - (header.length + 1) →
        middle.Holds size header (contents.drop (size - (header.length + 1)))) ∧
      middle.state.buf.length = size ∧ middle.state.sent = progress.state.sent ∧
      middle.state.writes = progress.state.writes ∧ middle.state.clockReads = progress.state.clockReads := by
  obtain ⟨round, reads⟩ := holds.reads room
  refine ⟨round, fun fuel => sendLoop_next patient reads rfl (if_pos nothing), fun full => ?_, reads.sized, reads.sent,
    reads.writes, reads.clock⟩
  exact ⟨reads.sized, reads.held, reads.hdr, reads.stream.trans (afterRead_full full)⟩

theorem round_overflows (filled : ¬readCount (contents.take (size - (header.length + 1))) ≤ 0)
    (wide : 2 ^ 31 ≤ readCount (contents.take (size - (header.length + 1))) + (header.length + 1 : Nat)) :
    ∃ middle : Progress, sendLoop env 1 progress = some (.fault, middle) ∧
      middle.state.buf.length = size ∧ middle.state.sent = progress.state.sent ∧
      middle.state.clockReads = progress.state.clockReads := by
  obtain ⟨round, reads⟩ := holds.reads room
  have fault : sendBytes env 0 (readCount (contents.take (size - (header.length + 1)))) round =
      some (.fault, round) := by
    rw [sendBytes, if_neg filled, if_pos (by rw [reads.hdr]; exact wide)]
  exact ⟨round, sendLoop_stops patient reads fault (by simp), reads.sized, reads.sent, reads.clock⟩

section Message

variable (filled : ¬readCount (contents.take (size - (header.length + 1))) ≤ 0)
  (narrow : ¬2 ^ 31 ≤ readCount (contents.take (size - (header.length + 1))) + (header.length + 1 : Nat))
  {message : Message}
  (cut : message = segment header
    ((contents.take (size - (header.length + 1))).take (readCount (contents.take (size - (header.length + 1)))).toNat)
    (contents.length < size - (header.length + 1)))

include filled narrow cut

omit patient in
theorem round_hands_over :
    ∃ round, progress.Reads round size header (contents.take (size - (header.length + 1)))
        (afterRead (size - (header.length + 1)) contents) ∧
      ∀ (env : SendEnv) (fuel : Nat), sendBytes env fuel (readCount (contents.take (size - (header.length + 1)))) round =
        (writeSegment env message fuel round.state).bind fun (outcome, state) =>
          if outcome ≠ .returned true then some (outcome, { round with state := state })
          else some (.returned true, { round with
            hdrSize := 1
            fileSize := round.fileSize +
              UInt64.ofNat (readCount (contents.take (size - (header.length + 1)))).toNat
            state := state }) := by
  obtain ⟨round, reads⟩ := holds.reads room
  have within := readCount_le (contents.take (size - (header.length + 1)))
  have handed := reads.message (readCount (contents.take (size - (header.length + 1)))).toNat (by omega)
  rw [afterRead_eof, ← cut] at handed
  refine ⟨round, reads, fun env fuel => ?_⟩
  rw [sendBytes, if_neg filled, if_neg (by rw [reads.hdr]; exact narrow), reads.hdr, handed]
  rfl

theorem round_sends {later : Nat} (taken : env.Takes progress.state.writes message later) :
    ∃ (enough : Nat) (middle : Progress), (∀ fuel, enough ≤ fuel → sendLoop env (fuel + 1) progress =
        if contents.length < size - (header.length + 1) then some (.returned true, middle)
        else sendLoop env fuel middle) ∧
      (¬contents.length < size - (header.length + 1) →
        middle.Holds size [] (contents.drop (size - (header.length + 1)))) ∧
      middle.state.buf.length = size ∧ middle.state.sent = progress.state.sent ++ [message] ∧
      middle.state.writes = later + 1 ∧ middle.state.clockReads = progress.state.clockReads := by
  obtain ⟨round, reads, sends⟩ := round_hands_over holds room filled narrow cut
  rw [← reads.writes] at taken
  obtain ⟨enough, written⟩ := writeSegment_taken (by simp [cut, segment]) taken
  have sent := sends env enough
  simp only [written, Option.bind_some, ne_eq, not_true, if_false] at sent
  refine ⟨enough, _, fun fuel more => sendLoop_next patient reads (by rfl) (sendBytes_mono more sent), fun full => ?_,
    reads.sized, congrArg (· ++ [message]) reads.sent, rfl, reads.clock⟩
  exact ⟨reads.sized, by simp [slice], rfl, reads.stream.trans (afterRead_full full)⟩

theorem round_refused (refused : ∀ later, ¬env.Takes progress.state.writes message later) :
    ∃ fuel outcome middle, sendLoop env fuel progress = some (outcome, middle) ∧ Refused outcome ∧
      middle.state.buf.length = size ∧ middle.state.clockReads = progress.state.clockReads := by
  obtain ⟨round, reads, sends⟩ := round_hands_over holds room filled narrow cut
  rw [← reads.writes] at refused
  obtain ⟨fuel, outcome, final, written, failed, buf, clock⟩ :=
    writeSegment_refused patient (by simp [cut, segment]) refused
  have sent := sends env fuel
  simp only [written, Option.bind_some, if_pos failed.stopped.1] at sent
  exact ⟨fuel + 1, outcome, _, sendLoop_stops patient reads sent failed.stopped.1, failed, by rw [buf, reads.sized],
    clock.trans reads.clock⟩

end Message

omit patient holds room

def SendEnv.Follows (env : SendEnv) (start : SendState) (handovers : List Message × Bool) (outcome : SendOutcome)
    (final : SendState) : Prop :=
  (env.AcceptsAll start.writes handovers.1 ∧ outcome = (if handovers.2 then .returned true else .fault) ∧
      final.sent = start.sent ++ handovers.1) ∨
    (¬env.AcceptsAll start.writes handovers.1 ∧ Refused outcome)

include patient

theorem sendLoop_handovers (size : Nat) (header contents : List UInt8) (room : header.length + 1 < size)
    (progress : Progress) (holds : progress.Holds size header contents) :
    ∃ fuel outcome final, sendLoop env fuel progress = some (outcome, final) ∧ final.state.buf.length = size ∧
      final.state.clockReads = progress.state.clockReads ∧
      env.Follows progress.state (handovers size header contents) outcome final.state := by
  fun_induction handovers size header contents generalizing progress with
  | case1 header contents capacity bytes n short nothing =>
      obtain ⟨final, loop, -, sized, sent, -, clock⟩ := round_skips patient holds room nothing
      have last : contents.length < size - (header.length + 1) := by omega
      refine ⟨1, _, final, (loop 0).trans (if_pos last), sized, clock, .inl ⟨trivial, rfl, by simp [sent]⟩⟩
  | case2 header contents capacity bytes n short filled wide =>
      obtain ⟨final, loop, sized, sent, clock⟩ := round_overflows patient holds room filled wide
      exact ⟨1, _, final, loop, sized, clock, .inl ⟨trivial, rfl, by simp [sent]⟩⟩
  | case3 header contents capacity bytes n short filled narrow =>
      have last : contents.length < size - (header.length + 1) := by omega
      by_cases taken : ∃ later, env.Takes progress.state.writes (segment header (bytes.take n.toNat) true) later
      · obtain ⟨later, taken⟩ := taken
        obtain ⟨fuel, final, loop, -, sized, sent, -, clock⟩ :=
          round_sends patient holds room filled narrow (by simp [last, bytes, n, capacity]) taken
        exact ⟨fuel + 1, _, final, (loop fuel (Nat.le_refl _)).trans (if_pos last), sized, clock,
          .inl ⟨⟨later, taken, trivial⟩, rfl, sent⟩⟩
      · obtain ⟨fuel, outcome, final, loop, failed, sized, clock⟩ := round_refused patient holds room filled narrow
          (by simp [last, bytes, n, capacity]) (not_exists.mp taken)
        exact ⟨fuel, outcome, final, loop, sized, clock, .inr ⟨fun accepted => taken (acceptsAll_takes accepted), failed⟩⟩
  | case4 header contents capacity bytes n full nothing ih =>
      have more : ¬contents.length < size - (header.length + 1) := by omega
      obtain ⟨middle, loop, next, -, sent, writes, clock⟩ := round_skips patient holds room nothing
      obtain ⟨fuel, outcome, final, rest, sized, reading, follows⟩ := ih room middle (next more)
      refine ⟨fuel + 1, outcome, final, ?_, sized, reading.trans clock, ?_⟩
      · rw [loop, if_neg more, rest]
      · rwa [SendEnv.Follows, sent, writes] at follows
  | case5 header contents capacity bytes n full filled wide =>
      obtain ⟨final, loop, sized, sent, clock⟩ := round_overflows patient holds room filled wide
      exact ⟨1, _, final, loop, sized, clock, .inl ⟨trivial, rfl, by simp [sent]⟩⟩
  | case6 header contents capacity bytes n full filled narrow _ ih =>
      have more : ¬contents.length < size - (header.length + 1) := by omega
      by_cases taken : ∃ later, env.Takes progress.state.writes (segment header (bytes.take n.toNat) false) later
      · obtain ⟨later, taken⟩ := taken
        obtain ⟨enough, middle, loop, next, -, sent, writes, clock⟩ :=
          round_sends patient holds room filled narrow (by simp [more, bytes, n, capacity]) taken
        obtain ⟨fuel, outcome, final, rest, sized, reading, follows⟩ :=
          ih (by simp only [List.length_nil]; omega) middle (next more)
        refine ⟨max enough fuel + 1, outcome, final, ?_, sized, reading.trans clock, ?_⟩
        · rw [loop _ (Nat.le_max_left _ _), if_neg more]
          exact sendLoop_mono (Nat.le_max_right _ _) rest
        · rw [SendEnv.Follows, sent, writes, List.append_assoc] at follows
          rwa [SendEnv.Follows, acceptsAll_cons_iff (by simp [segment]) taken]
      · obtain ⟨fuel, outcome, final, loop, failed, sized, clock⟩ := round_refused patient holds room filled narrow
          (by simp [more, bytes, n, capacity]) (not_exists.mp taken)
        exact ⟨fuel, outcome, final, loop, sized, clock, .inr ⟨fun accepted => taken (acceptsAll_takes accepted), failed⟩⟩

end Rounds

section Files

variable {env : SendEnv} {size : Nat} {state : SendState}

def headerOf (name : List UInt8) : Option (List UInt8) :=
  if name.length + 2 < 2 ^ 31 then some (nameHeader name)
  else if name.length < 2 ^ 31 then none
  else some []

theorem hdrSizeOf_eq (name : List UInt8) : hdrSizeOf name = (headerOf name).map fun header => header.length + 1 := by
  unfold hdrSizeOf headerOf
  split
  next => simp [length_nameHeader]
  next => split <;> rfl

theorem slice_header {name header buf : List UInt8} (named : headerOf name = some header)
    (stored : 1 + (nameHeader name).length ≤ buf.length) :
    slice 1 header.length (overwrite 1 (nameHeader name) buf) = header := by
  unfold headerOf at named
  split_ifs at named
  · cases named
    exact slice_overwrite _ _ _ stored
  · cases named
    simp [slice]

def loopStart (state : SendState) (name header contents : List UInt8) : Progress where
  hdrSize := header.length + 1
  ifile := { rest := contents }
  state := { state with
    buf := overwrite 1 (nameHeader name) state.buf
    clockReads := state.clockReads + 1 }

section Ends

variable {fuel : Nat} {uploadName header contents : List UInt8} {final : Progress}
  (stored : 1 + (nameHeader (uploadName.takeWhile (· ≠ 0))).length ≤ state.buf.length)
  (named : headerOf (uploadName.takeWhile (· ≠ 0)) = some header)

include stored named

theorem sendFile_stops {outcome : SendOutcome} (stopped : outcome ≠ .returned true)
    (looped : sendLoop env fuel (loopStart state (uploadName.takeWhile (· ≠ 0)) header contents) = some (outcome, final)) :
    sendFile env fuel ⟨uploadName, some { rest := contents }⟩ state = some (outcome, final.state) := by
  unfold loopStart at looped
  simp only [sendFile, store_eq_some _ _ _ stored, hdrSizeOf_eq, named, Option.map_some, looped]
  simp [stopped]

theorem sendFile_returns (clock : final.state.clockReads = state.clockReads + 1)
    (looped : sendLoop env fuel (loopStart state (uploadName.takeWhile (· ≠ 0)) header contents) =
      some (.returned true, final)) :
    sendFile env fuel ⟨uploadName, some { rest := contents }⟩ state =
      some (if deltaUs env state.clockReads (state.clockReads + 1) ≠ 0 then .returned true else .fault,
        { final.state with clockReads := state.clockReads + 2 }) := by
  unfold loopStart at looped
  simp only [sendFile, store_eq_some _ _ _ stored, hdrSizeOf_eq, named, Option.map_some, looped]
  by_cases zero : deltaUs env state.clockReads (state.clockReads + 1) = 0
  · simp [rateKbps, clock, zero]
  · simp [rateKbps, clock, zero]

end Ends

theorem sendFile_handovers (patient : env.Patient) (sized : state.buf.length = size) {uploadName header : List UInt8}
    (named : headerOf (uploadName.takeWhile (· ≠ 0)) = some header)
    (fits : (uploadName.takeWhile (· ≠ 0)).length + 2 ≤ size) (room : header.length + 1 < size)
    (contents : List UInt8) :
    ∃ fuel outcome final, sendFile env fuel ⟨uploadName, some { rest := contents }⟩ state = some (outcome, final) ∧
      ((env.AcceptsAll state.writes (handovers size header contents).1 ∧
          outcome = (if (handovers size header contents).2 ∧ deltaUs env state.clockReads (state.clockReads + 1) ≠ 0
            then .returned true else .fault) ∧
          final.sent = state.sent ++ (handovers size header contents).1 ∧
          final.buf.length = size ∧
          ((handovers size header contents).2 = true → final.clockReads = state.clockReads + 2)) ∨
        (¬env.AcceptsAll state.writes (handovers size header contents).1 ∧ Refused outcome)) := by
  have stored : 1 + (nameHeader (uploadName.takeWhile (· ≠ 0))).length ≤ state.buf.length := by
    rw [length_nameHeader]
    omega
  obtain ⟨fuel, outcome, final, looped, length, clock, follows⟩ := sendLoop_handovers patient size header contents room
    (loopStart state (uploadName.takeWhile (· ≠ 0)) header contents)
    ⟨(length_overwrite _ _ _ stored).trans sized, slice_header named stored, rfl, rfl⟩
  rcases follows with ⟨accepted, rfl, sent⟩ | ⟨refused, failed⟩
  · cases whole : (handovers size header contents).2 with
    | true =>
        rw [whole, if_pos rfl] at looped
        exact ⟨fuel, _, _, sendFile_returns stored named clock looped,
          .inl ⟨accepted, by simp, sent, length, fun _ => rfl⟩⟩
    | false =>
        rw [whole, if_neg Bool.false_ne_true] at looped
        exact ⟨fuel, .fault, _, sendFile_stops stored named (by simp) looped,
          .inl ⟨accepted, by simp, sent, length, by simp⟩⟩
  · exact ⟨fuel, outcome, _, sendFile_stops stored named failed.stopped.1 looped, .inr ⟨refused, failed⟩⟩

theorem sendFile_unfit (sized : state.buf.length = size) {uploadName : List UInt8}
    (unfit : ¬(uploadName.takeWhile (· ≠ 0)).length + 2 ≤ size) (fuel : Nat) (ifile : IFStream) :
    sendFile env fuel ⟨uploadName, some ifile⟩ state =
      some (.fault, { state with clockReads := state.clockReads + 1 }) := by
  have outside : store 1 (nameHeader (uploadName.takeWhile (· ≠ 0))) state.buf = none := by
    rw [store, if_neg (by rw [length_nameHeader]; omega)]
  simp only [sendFile, outside]

theorem sendFile_uncounted {uploadName : List UInt8} (uncounted : headerOf (uploadName.takeWhile (· ≠ 0)) = none)
    (fuel : Nat) (ifile : IFStream) :
    sendFile env fuel ⟨uploadName, some ifile⟩ state =
      some (.fault, { state with clockReads := state.clockReads + 1 }) := by
  simp only [sendFile, hdrSizeOf_eq, uncounted, Option.map_none]
  split <;> rfl

-- With no room behind the header every round reads nothing and meets no end.
theorem sendLoop_full (unbroken : ∀ reading, env.forceBreak reading = false) (fuel : Nat) (progress : Progress)
    (positive : 0 < progress.state.buf.length) (full : progress.state.buf.length = progress.hdrSize)
    {contents : List UInt8} (stream : progress.ifile = { rest := contents }) : sendLoop env fuel progress = none := by
  induction fuel generalizing progress with
  | zero => rfl
  | succ fuel ih =>
      have nothing : progress.ifile.read (progress.state.buf.length - progress.hdrSize) = ([], progress.ifile) := by
        rw [full, Nat.sub_self, stream]
        simp [IFStream.read, IoState.good]
      have kept : overwrite progress.hdrSize [] progress.state.buf = progress.state.buf := by
        simp [overwrite]
      have length := length_overwrite 0 [headerFlags progress.ifile.state.eof (1 < progress.hdrSize)]
        progress.state.buf positive
      have read : readSegment { progress with state.breakReads := progress.state.breakReads + 1 } =
          (0, { progress with
            state.breakReads := progress.state.breakReads + 1
            state.buf := overwrite 0 [headerFlags progress.ifile.state.eof (1 < progress.hdrSize)]
              progress.state.buf }) := by
        unfold readSegment
        dsimp only
        rw [nothing, kept, List.length_nil, Nat.cast_zero, Int.zero_bmod]
      have skipped : ∀ round, sendBytes env fuel 0 round = some (.returned true, round) := fun _ => if_pos (Int.le_refl 0)
      rw [sendLoop]
      simp only [unbroken, Bool.false_eq_true, if_false, read, skipped]
      have again := ih { progress with
        state.breakReads := progress.state.breakReads + 1
        state.buf := overwrite 0 [headerFlags progress.ifile.state.eof (1 < progress.hdrSize)] progress.state.buf }
        (by rw [length]; exact positive) (length.trans full) stream
      simpa [stream, IoState.good] using again

theorem sendFile_full (unbroken : ∀ reading, env.forceBreak reading = false) (sized : state.buf.length = size)
    {uploadName : List UInt8} (small : (uploadName.takeWhile (· ≠ 0)).length + 2 < 2 ^ 31)
    (full : (uploadName.takeWhile (· ≠ 0)).length + 2 = size) (fuel : Nat) (contents : List UInt8) :
    sendFile env fuel ⟨uploadName, some { rest := contents }⟩ state = none := by
  have fits : 1 + (nameHeader (uploadName.takeWhile (· ≠ 0))).length ≤ state.buf.length := by
    rw [length_nameHeader]
    omega
  have stored := length_overwrite 1 (nameHeader (uploadName.takeWhile (· ≠ 0))) state.buf fits
  simp only [sendFile, store_eq_some _ _ _ fits, hdrSizeOf, if_pos small]
  rw [sendLoop_full unbroken fuel _ (by simp only [stored]; omega) (by simp only [stored]; omega) rfl]
  rfl

end Files

end XTransmit.FileTransfer
