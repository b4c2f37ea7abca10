import XTransmit.Shared.FileStream
import XTransmit.Pacing.Pacer

set_option autoImplicit false

namespace XTransmit.Pacing

open FileStream

/-- `stod` of a line and its conversion to whole microseconds; `none` where `stod` throws. -/
structure Stod where
  micros : List UInt8 → Option Int
  empty : micros [] = none

-- Times are nanoseconds of the steady clock.
structure CsvPacer where
  file : List UInt8
  srccsv : IFStream
  start : Int

def newline : UInt8 := 10

def CsvPacer.create (file : List UInt8) (now : Int) : CsvPacer where
  file := file
  srccsv := { rest := file }
  start := now

-- The clock is read for `m_start` only when the file begins again.
def CsvPacer.rewind (pacer : CsvPacer) (now : Int) : CsvPacer :=
  if pacer.srccsv.state.eof then
    { pacer with srccsv := pacer.srccsv.clear.seekBegin pacer.file, start := now }
  else pacer

-- A failed `getline` gives `time_point()`, the epoch of the clock.
def CsvPacer.nextTime (stod : Stod) (pacer : CsvPacer) (now : Int) : Option (Int × CsvPacer) :=
  let rewound := pacer.rewind now
  let (line, srccsv) := rewound.srccsv.getline newline
  let after := { rewound with srccsv := srccsv }
  if srccsv.state.failed then some (0, after)
  else (stod.micros line).map fun micros => (rewound.start + 1000 * micros, after)

structure CsvCall where
  now : Int
  polls : List Poll

def CsvPacer.wait (stod : Stod) (pacer : CsvPacer) (call : CsvCall) : Option CsvPacer :=
  (pacer.nextTime stod call.now).bind fun (nextTime, after) => (spin nextTime call.polls).map fun _ => after

def playback (stod : Stod) (pacer : CsvPacer) (calls : Nat → CsvCall) : Nat → Option CsvPacer
  | 0 => some pacer
  | k + 1 => (playback stod pacer calls k).bind fun pacer => pacer.wait stod (calls k)

section Files

def text (newlineAtEnd : Bool) : List (List UInt8) → List UInt8
  | [] => []
  | [last] => if newlineAtEnd then last ++ [newline] else last
  | line :: next :: later => line ++ newline :: text newlineAtEnd (next :: later)

structure PlaybackFile (stod : Stod) where
  lines : List (List UInt8)
  newlineAtEnd : Bool
  nonempty : lines ≠ []
  plain : ∀ line ∈ lines, newline ∉ line
  valid : ∀ line ∈ lines, (stod.micros line).isSome = true

variable {stod : Stod}

def PlaybackFile.contents (file : PlaybackFile stod) : List UInt8 := text file.newlineAtEnd file.lines

def cycleStart (lines : Nat) (start : Int) (calls : Nat → CsvCall) (k : Nat) : Int :=
  if k < lines then start else (calls (k - k % lines)).now

/-- Call `k` waits for line `k % N` of a cycle that began at its first call. The file begins again exactly
with the first call of each later cycle. -/
def Cyclic (file : PlaybackFile stod) : Prop :=
  ∀ (start : Int) (calls : Nat → CsvCall) (k : Nat) (pacer : CsvPacer),
    playback stod (CsvPacer.create file.contents start) calls k = some pacer →
      (pacer.srccsv.state.eof = true ↔ 0 < k ∧ k % file.lines.length = 0) ∧
      ∃ micros nextTime after,
        file.lines[k % file.lines.length]?.bind stod.micros = some micros ∧
        pacer.nextTime stod (calls k).now = some (nextTime, after) ∧
        after.start = cycleStart file.lines.length start calls k ∧
        nextTime = after.start + 1000 * micros ∧
        ∀ returned, (∀ poll ∈ (calls k).polls, poll.forceBreak = false) →
          spin nextTime (calls k).polls = some returned → nextTime ≤ returned

theorem line_nonempty (file : PlaybackFile stod) {line : List UInt8} (member : line ∈ file.lines) : line ≠ [] := by
  rintro rfl
  simpa [stod.empty] using file.valid [] member

def PlaybackFile.source (file : PlaybackFile stod) (r : Nat) : IFStream :=
  { rest := text file.newlineAtEnd (file.lines.drop r) }

def PlaybackFile.behind (file : PlaybackFile stod) (r : Nat) : IFStream :=
  if r + 1 = file.lines.length ∧ file.newlineAtEnd = false then { rest := [], state := { eof := true } }
  else file.source (r + 1)

theorem getline_source (file : PlaybackFile stod) {r : Nat} (inside : r < file.lines.length) :
    (file.source r).getline newline = (file.lines[r], file.behind r) := by
  have member : file.lines[r] ∈ file.lines := List.getElem_mem inside
  have plain := file.plain _ member
  unfold PlaybackFile.source PlaybackFile.behind
  rw [List.drop_eq_getElem_cons inside]
  cases later : file.lines.drop (r + 1) with
  | nil =>
      have last : r + 1 = file.lines.length := by
        have := List.drop_eq_nil_iff.mp later
        omega
      cases ending : file.newlineAtEnd with
      | true => simpa [text, PlaybackFile.source, later, ending] using getline_delimited plain []
      | false => simpa [text, last] using getline_last plain (line_nonempty file member)
  | cons next rest =>
      have more : r + 1 ≠ file.lines.length := by
        rintro last
        simp [last] at later
      simpa [text, PlaybackFile.source, later, more] using getline_delimited plain _

theorem behind_state (file : PlaybackFile stod) (r : Nat) : (file.behind r).state.failed = false := by
  unfold PlaybackFile.behind
  split <;> rfl

theorem nextTime_line (file : PlaybackFile stod) {pacer : CsvPacer} {now : Int} {r : Nat}
    (inside : r < file.lines.length) (placed : (pacer.rewind now).srccsv = file.source r) :
    ∃ micros, stod.micros file.lines[r] = some micros ∧
      pacer.nextTime stod now =
        some ((pacer.rewind now).start + 1000 * micros, { pacer.rewind now with srccsv := file.behind r }) := by
  obtain ⟨micros, parsed⟩ := Option.isSome_iff_exists.mp (file.valid _ (List.getElem_mem inside))
  refine ⟨micros, parsed, ?_⟩
  simp [CsvPacer.nextTime, placed, getline_source file inside, behind_state, parsed]

theorem wait_line (file : PlaybackFile stod) {pacer next : CsvPacer} {call : CsvCall} {r : Nat}
    (inside : r < file.lines.length) (placed : (pacer.rewind call.now).srccsv = file.source r)
    (waited : pacer.wait stod call = some next) : next = { pacer.rewind call.now with srccsv := file.behind r } := by
  obtain ⟨micros, -, read⟩ := nextTime_line file inside placed
  rw [CsvPacer.wait, read] at waited
  obtain ⟨_, -, same⟩ := Option.map_eq_some_iff.mp waited
  exact same.symm

end Files

section Cycles

variable {stod : Stod} {file : PlaybackFile stod} {start : Int} {calls : Nat → CsvCall}

theorem lines_pos (file : PlaybackFile stod) : 0 < file.lines.length := List.length_pos_iff.mpr file.nonempty

structure Placed (file : PlaybackFile stod) (start : Int) (calls : Nat → CsvCall) (k : Nat) (pacer : CsvPacer) :
    Prop where
  contents : pacer.file = file.contents
  began : pacer.start = cycleStart file.lines.length start calls (k - 1)
  source : pacer.srccsv =
    if 0 < k ∧ k % file.lines.length = 0 then { rest := [], state := { eof := true } }
    else file.source (k % file.lines.length)

theorem create_placed : Placed file start calls 0 (CsvPacer.create file.contents start) where
  contents := rfl
  began := by simp [cycleStart, lines_pos file, CsvPacer.create]
  source := by simp [CsvPacer.create, PlaybackFile.source, PlaybackFile.contents]

theorem Placed.eof_iff {k : Nat} {pacer : CsvPacer} (placed : Placed file start calls k pacer) :
    pacer.srccsv.state.eof = true ↔ 0 < k ∧ k % file.lines.length = 0 := by
  rw [placed.source]
  split
  next finished => simp [finished]
  next inside => simp [PlaybackFile.source, inside]

theorem succ_mod {lines : Nat} (positive : 0 < lines) (k : Nat) :
    (k + 1) % lines = if k % lines + 1 = lines then 0 else k % lines + 1 := by
  have below := Nat.mod_lt k positive
  rw [← Nat.mod_add_mod]
  split
  next last => rw [last, Nat.mod_self]
  next inner => exact Nat.mod_eq_of_lt (by omega)

theorem cycleStart_within {lines k : Nat} (positive : 0 < lines) (within : ¬(0 < k ∧ k % lines = 0)) :
    cycleStart lines start calls (k - 1) = cycleStart lines start calls k := by
  cases k with
  | zero => rfl
  | succ k =>
      have step := succ_mod positive k
      split at step
      next => exact absurd ⟨k.succ_pos, step⟩ within
      next inner =>
        have apart : k + 1 ≠ lines := fun same => within ⟨k.succ_pos, by rw [same, Nat.mod_self]⟩
        have same : k + 1 - (k + 1) % lines = k - k % lines := by omega
        simp only [cycleStart, same, Nat.add_sub_cancel]
        split <;> split <;> first | rfl | omega

theorem Placed.rewind {k : Nat} {pacer : CsvPacer} (placed : Placed file start calls k pacer) :
    pacer.rewind (calls k).now =
      { file := file.contents, srccsv := file.source (k % file.lines.length),
        start := cycleStart file.lines.length start calls k } := by
  have positive := lines_pos file
  obtain ⟨contents, srccsv, began⟩ := pacer
  obtain ⟨rfl, rfl, rfl⟩ := placed
  by_cases finished : 0 < k ∧ k % file.lines.length = 0
  · have late : ¬k < file.lines.length := fun early => by
      rw [Nat.mod_eq_of_lt early] at finished
      omega
    simp [CsvPacer.rewind, finished, IFStream.clear, IFStream.seekBegin, IoState.failed, PlaybackFile.source,
      PlaybackFile.contents, cycleStart, late]
  · simp only [CsvPacer.rewind, finished, if_false, cycleStart_within positive finished]
    rfl

theorem Placed.wait {k : Nat} {pacer next : CsvPacer} (placed : Placed file start calls k pacer)
    (unended : file.newlineAtEnd = false) (waited : pacer.wait stod (calls k) = some next) :
    Placed file start calls (k + 1) next := by
  have positive := lines_pos file
  have inside := Nat.mod_lt k positive
  have same := wait_line file inside (by rw [placed.rewind]) waited
  rw [placed.rewind] at same
  subst same
  refine ⟨rfl, rfl, ?_⟩
  simp only [PlaybackFile.behind, unended, and_true, Nat.succ_pos, true_and, succ_mod positive k]
  split
  next => rfl
  next => simp

theorem placed_of_playback (unended : file.newlineAtEnd = false) {k : Nat} {pacer : CsvPacer}
    (played : playback stod (CsvPacer.create file.contents start) calls k = some pacer) :
    Placed file start calls k pacer := by
  induction k generalizing pacer with
  | zero =>
      cases played
      exact create_placed
  | succ k ih =>
      obtain ⟨before, reached, waited⟩ := Option.bind_eq_some_iff.mp played
      exact (ih reached).wait unended waited

theorem cyclic_of_unended (unended : file.newlineAtEnd = false) : Cyclic file := by
  intro start calls k pacer played
  have placed := placed_of_playback unended played
  have inside := Nat.mod_lt k (lines_pos file)
  obtain ⟨micros, parsed, read⟩ := nextTime_line file inside (by rw [placed.rewind])
  rw [placed.rewind] at read
  refine ⟨placed.eof_iff, micros, _, _, ?_, read, rfl, rfl, fun _ unforced ended => spin_reached unforced ended⟩
  simp [List.getElem?_eq_getElem inside, parsed]

def promptCalls (file : PlaybackFile stod) (start : Int) (k : Nat) : CsvCall where
  now := start
  polls := [{ now := start + 1000 * ((file.lines[k]?.bind stod.micros).getD 0) }]

theorem playback_first_cycle (ended : file.newlineAtEnd = true) (start : Int) {k : Nat}
    (within : k ≤ file.lines.length) :
    playback stod (CsvPacer.create file.contents start) (promptCalls file start) k =
      some { file := file.contents, srccsv := file.source k, start := start } := by
  induction k with
  | zero => simp [playback, CsvPacer.create, PlaybackFile.source, PlaybackFile.contents]
  | succ k ih =>
      have placed : (CsvPacer.rewind ⟨file.contents, file.source k, start⟩ start).srccsv = file.source k := rfl
      obtain ⟨micros, parsed, read⟩ := nextTime_line file within placed
      have time : (file.lines[k]?.bind stod.micros).getD 0 = micros := by
        simp [List.getElem?_eq_getElem within, parsed]
      rw [playback, ih (Nat.le_of_succ_le within), Option.bind_some, CsvPacer.wait]
      simp only [promptCalls, time, read]
      simp [CsvPacer.rewind, PlaybackFile.source, PlaybackFile.behind, ended, spin]

theorem playback_cyclic_iff (stod : Stod) (file : PlaybackFile stod) :
    Cyclic file ↔ file.newlineAtEnd = false := by
  refine ⟨fun cyclic => ?_, cyclic_of_unended⟩
  rcases Bool.eq_false_or_eq_true file.newlineAtEnd with ended | unended
  · have reached := playback_first_cycle ended 0 le_rfl
    have wraps := (cyclic 0 _ _ _ reached).1.mpr ⟨lines_pos file, Nat.mod_self _⟩
    cases wraps
  · exact unended

def digitSeconds : Stod where
  micros line := match line with
    | [digit] => if 48 ≤ digit ∧ digit ≤ 57 then some ((digit.toNat - 48 : Int) * 1000000) else none
    | _ => none
  empty := rfl

-- "1\n": the second call waits for nothing, and `m_start` stays that of the first.
theorem newline_at_end_skips_a_wait :
    let file : PlaybackFile digitSeconds :=
      { lines := [[49]], newlineAtEnd := true, nonempty := by decide, plain := by decide, valid := by decide }
    let calls := fun _ => { now := 1500000000, polls := [{ now := 1000000000 }] }
    ((playback digitSeconds (CsvPacer.create file.contents 0) calls 1).bind
        fun pacer => (pacer.nextTime digitSeconds 1500000000).map fun (nextTime, after) => (nextTime, after.start)) =
      some (0, 0) ∧ ¬Cyclic file := by
  intro file calls
  refine ⟨by decide, fun cyclic => ?_⟩
  have wraps := (cyclic 0 calls 1 _ rfl).1.mpr (by decide)
  cases wraps

end Cycles

end XTransmit.Pacing
