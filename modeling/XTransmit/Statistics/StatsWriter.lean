import XTransmit.Shared.Transition
import XTransmit.Statistics.Reports
import Mathlib.Data.List.Sort

set_option autoImplicit false

namespace XTransmit.Statistics

open Transition

variable {Stats : Type}

-- A step is a critical section of `m_lock`, or an access to a flag.
inductive StatsThread where
  | absent
  | condition
  | printing
  | ended
  deriving DecidableEq, Repr

-- `sock` lists the keys of the map in their order, `printHeader` is the local variable of the thread.
structure StatsWriter (Stats : Type) where
  sock : List Socket := []
  stop : Bool := false
  thread : StatsThread := .absent
  printHeader : Bool := true
  logfile : List (Line Stats) := []
  deriving DecidableEq

inductive Event (Stats : Type) where
  | addSocket (sock : Option Socket)
  | removeSocket (sockid : Socket)
  | clear
  | stop
  | checkStop
  | printStats (answers : Socket → Bool → Answer Stats)

section Writer

variable (transport : Transport) (format : String) (writer : StatsWriter Stats)

-- `m_sock.insert`: a key that is present stays as it is.
def insertSocket (sockid : Socket) (sock : List Socket) : List Socket :=
  if sockid ∈ sock then sock else sock.orderedInsert (· ≤ ·) sockid

def addSocket : Option Socket → StatsWriter Stats
  | none => writer
  | some sockid =>
      if !transport.supportsStatistics then writer
      else
        let added := { writer with sock := insertSocket sockid writer.sock }
        if writer.thread ≠ .absent then added
        else { added with stop := false, thread := .condition, printHeader := true }

structure Pass (Stats : Type) where
  kept : List Socket := []
  printHeader : Bool
  out : List (Line Stats)

def printSocket (answers : Socket → Bool → Answer Stats) (pass : Pass Stats) (sockid : Socket) : Pass Stats :=
  let statistics := fun header => transport.getStatistics format header sockid (answers sockid header)
  match if pass.printHeader then statistics true else .ok [] with
  | .error _ => pass
  | .ok header =>
      match statistics false with
      | .error _ => { pass with out := pass.out ++ header }
      | .ok rows => { kept := pass.kept ++ [sockid], printHeader := false, out := pass.out ++ header ++ rows }

def printStats (answers : Socket → Bool → Answer Stats) : StatsWriter Stats :=
  let pass := writer.sock.foldl (printSocket transport format answers)
    { printHeader := writer.printHeader, out := writer.logfile }
  { writer with sock := pass.kept, printHeader := pass.printHeader, logfile := pass.out, thread := .condition }

def step (writer : StatsWriter Stats) : Event Stats → Option (StatsWriter Stats)
  | .addSocket sock => some (addSocket transport writer sock)
  | .removeSocket sockid => some { writer with sock := writer.sock.erase sockid }
  | .clear => some { writer with sock := [] }
  | .stop => some { writer with stop := true }
  | .checkStop =>
      if writer.thread ≠ .condition then none
      else some { writer with thread := if writer.stop then .ended else .printing }
  | .printStats answers =>
      if writer.thread ≠ .printing then none else some (printStats transport format writer answers)

end Writer

section Files

def Line.isHeader : Line Stats → Bool
  | .header => true
  | _ => false

def Line.isRow : Line Stats → Bool
  | .row _ => true
  | _ => false

structure CsvFile (lines : List (Line Stats)) : Prop where
  first : lines.head? = some .header
  once : lines.countP Line.isHeader = 1
  rows : ∀ line ∈ lines.tail, line.isRow = true

theorem csvFile_rows (rows : List (Row Stats)) : CsvFile (.header :: rows.map .row) where
  first := rfl
  once := by
    have none : (rows.map Line.row).countP Line.isHeader = 0 := by
      simp [List.countP_eq_zero, Line.isHeader]
    rw [List.countP_cons, none]
    rfl
  rows := by simp [Line.isRow]

end Files

section Headers

variable {transport : Transport} {format : String} {answers : Socket → Bool → Answer Stats}

def answered (transport : Transport) (format : String) (answers : Socket → Bool → Answer Stats) (printHeader : Bool)
    (sockid : Socket) : Bool :=
  (transport.getStatistics format printHeader sockid (answers sockid printHeader)).isOk

theorem answered_eq_true_iff {printHeader : Bool} {sockid : Socket} :
    answered transport format answers printHeader sockid = true ↔
      ∃ lines, transport.getStatistics format printHeader sockid (answers sockid printHeader) = .ok lines := by
  unfold answered
  cases transport.getStatistics format printHeader sockid (answers sockid printHeader) <;>
    simp [Except.isOk, Except.toBool]

/-- In a pass that has the header to print, the first socket whose header call returns also returns from the
data call. -/
def HeaderWithRow (transport : Transport) (format : String) (writer : StatsWriter Stats) : Event Stats → Prop
  | .printStats answers =>
      writer.printHeader = true →
        (writer.sock.find? (answered transport format answers true)).all (answered transport format answers false) = true
  | _ => True

instance (writer : StatsWriter Stats) : (event : Event Stats) → Decidable (HeaderWithRow transport format writer event)
  | .printStats _ => inferInstanceAs (Decidable (_ → _))
  | .addSocket _ | .removeSocket _ | .clear | .stop | .checkStop => .isTrue trivial

def Headed (printHeader : Bool) (lines : List (Line Stats)) : Prop :=
  if printHeader then lines = [] else ∃ rows : List (Row Stats), lines = .header :: rows.map .row

theorem csvFile_of_headed {printHeader : Bool} {lines : List (Line Stats)} (headed : Headed printHeader lines)
    (written : lines ≠ []) : CsvFile lines := by
  unfold Headed at headed
  split at headed
  next => exact absurd headed written
  next =>
    obtain ⟨rows, rfl⟩ := headed
    exact csvFile_rows rows

theorem printSocket_failed {pass : Pass Stats} {sockid : Socket} (up : pass.printHeader = true)
    (failed : answered transport format answers true sockid = false) :
    printSocket transport format answers pass sockid = pass := by
  simp only [printSocket, up, if_true]
  split
  next => rfl
  next header returned =>
    rw [answered_eq_true_iff.mpr ⟨header, returned⟩] at failed
    cases failed

theorem printSocket_up (supported : transport.supportsStatistics = true) (csv : isJson format = false)
    {pass : Pass Stats} {sockid : Socket} (up : pass.printHeader = true) (empty : pass.out = [])
    (titled : answered transport format answers true sockid = true)
    (reported : answered transport format answers false sockid = true) :
    (printSocket transport format answers pass sockid).printHeader = false ∧
      Headed false (printSocket transport format answers pass sockid).out := by
  obtain ⟨header, first⟩ := answered_eq_true_iff.mp titled
  obtain ⟨lines, second⟩ := answered_eq_true_iff.mp reported
  obtain ⟨rows, rfl⟩ := getStatistics_rows csv second
  simp only [printSocket, up, if_true, first, second, getStatistics_header supported csv first, empty]
  exact ⟨trivial, rows, rfl⟩

theorem printSocket_down (csv : isJson format = false) {pass : Pass Stats} (down : pass.printHeader = false)
    (headed : Headed false pass.out) (sockid : Socket) :
    (printSocket transport format answers pass sockid).printHeader = false ∧
      Headed false (printSocket transport format answers pass sockid).out := by
  obtain ⟨rows, written⟩ := headed
  simp only [printSocket, down, Bool.false_eq_true, if_false, List.append_nil]
  split
  next => exact ⟨rfl, rows, written⟩
  next added reported =>
    obtain ⟨more, rfl⟩ := getStatistics_rows csv reported
    exact ⟨rfl, rows ++ more, by simp [written]⟩

theorem pass_headed (csv : isJson format = false) {sock : List Socket} {pass : Pass Stats}
    (supported : ∀ sockid ∈ sock, transport.supportsStatistics = true) (headed : Headed pass.printHeader pass.out)
    (withRow : pass.printHeader = true →
      (sock.find? (answered transport format answers true)).all (answered transport format answers false) = true) :
    Headed (sock.foldl (printSocket transport format answers) pass).printHeader
      (sock.foldl (printSocket transport format answers) pass).out := by
  induction sock generalizing pass with
  | nil => exact headed
  | cons sockid rest ih =>
      rw [List.forall_mem_cons] at supported
      cases flag : pass.printHeader with
      | false =>
          rw [flag] at headed
          obtain ⟨down, still⟩ := printSocket_down csv flag headed sockid
          exact ih supported.2 (down ▸ still) (by simp [down])
      | true =>
          cases titled : answered transport format answers true sockid with
          | true =>
              have empty : pass.out = [] := by simpa [Headed, flag] using headed
              have reported : answered transport format answers false sockid = true := by
                simpa [titled] using withRow flag
              obtain ⟨down, now⟩ := printSocket_up supported.1 csv flag empty titled reported
              exact ih supported.2 (down ▸ now) (by simp [down])
          | false =>
              rw [List.find?_cons_of_neg (by simp [titled])] at withRow
              rw [List.foldl_cons, printSocket_failed flag titled]
              exact ih supported.2 headed withRow

end Headers

section Runs

variable {transport : Transport} {format : String}

structure WellFormed (transport : Transport) (writer : StatsWriter Stats) : Prop where
  supported : ∀ sockid ∈ writer.sock, transport.supportsStatistics = true
  headed : Headed writer.printHeader writer.logfile
  unlaunched : writer.thread = .absent → writer.logfile = []

theorem initial_wellFormed : WellFormed transport ({} : StatsWriter Stats) where
  supported := by simp
  headed := rfl
  unlaunched := fun _ => rfl

theorem mem_kept {answers : Socket → Bool → Answer Stats} {sock : List Socket} {pass : Pass Stats} {sockid : Socket}
    (member : sockid ∈ (sock.foldl (printSocket transport format answers) pass).kept) :
    sockid ∈ pass.kept ∨ sockid ∈ sock := by
  induction sock generalizing pass with
  | nil => exact .inl member
  | cons other rest ih =>
      rcases ih member with earlier | later
      · simp only [printSocket] at earlier
        split at earlier
        next => exact .inl earlier
        next =>
          split at earlier
          next => exact .inl earlier
          next =>
            rw [List.mem_append, List.mem_singleton] at earlier
            rcases earlier with earlier | rfl
            · exact .inl earlier
            · exact .inr List.mem_cons_self
      · exact .inr (List.mem_cons_of_mem _ later)

theorem WellFormed.addSocket {writer : StatsWriter Stats} (inv : WellFormed transport writer) (sock : Option Socket) :
    WellFormed transport (addSocket transport writer sock) := by
  cases sock with
  | none => exact inv
  | some sockid =>
      simp only [Statistics.addSocket]
      cases supports : transport.supportsStatistics with
      | false => simpa using inv
      | true =>
          simp only [Bool.not_true, Bool.false_eq_true, if_false]
          split
          next running => exact ⟨fun _ _ => supports, inv.headed, fun absent => absurd absent running⟩
          next absent =>
            have absent : writer.thread = .absent := by simpa using absent
            exact ⟨fun _ _ => supports, inv.unlaunched absent, by simp⟩

theorem WellFormed.step (csv : isJson format = false) {writer next : StatsWriter Stats} {event : Event Stats}
    (inv : WellFormed transport writer) (withRow : HeaderWithRow transport format writer event)
    (taken : step transport format writer event = some next) : WellFormed transport next := by
  cases event with
  | addSocket sock =>
      cases taken
      exact inv.addSocket sock
  | removeSocket sockid =>
      cases taken
      exact ⟨fun other member => inv.supported other (List.mem_of_mem_erase member), inv.headed, inv.unlaunched⟩
  | clear =>
      cases taken
      exact ⟨by simp, inv.headed, inv.unlaunched⟩
  | stop =>
      cases taken
      exact ⟨inv.supported, inv.headed, inv.unlaunched⟩
  | checkStop =>
      simp only [Statistics.step] at taken
      split at taken <;> cases taken
      exact ⟨inv.supported, inv.headed, by split <;> simp⟩
  | printStats answers =>
      simp only [Statistics.step] at taken
      split at taken <;> cases taken
      refine ⟨?_, pass_headed csv inv.supported inv.headed withRow, by simp [printStats]⟩
      intro sockid member
      rcases mem_kept member with none | registered
      · cases none
      · exact inv.supported sockid registered

theorem csv_file_well_formed (transport : Transport) (writer : StatsWriter Stats)
    (reached : Reachable (step transport "csv") (HeaderWithRow transport "csv") {} writer)
    (written : writer.logfile ≠ []) : CsvFile writer.logfile := by
  have inv : WellFormed transport writer :=
    reached.invariant (WellFormed transport) initial_wellFormed
      fun _ _ _ inv withRow taken => inv.step (by decide) withRow taken
  exact csvFile_of_headed inv.headed written

theorem csv_file_well_formed_two_passes :
    CsvFile [.header, .row ⟨5, some 0, 41⟩, .row ⟨5, some 0, (41 : Nat)⟩] := by
  let answers : Socket → Bool → Answer Nat := fun sockid _ => ⟨if sockid = 3 then none else some 41, true, some []⟩
  have reached : Reachable (step .srt "csv") (HeaderWithRow .srt "csv") {}
      { sock := [5], thread := .condition, printHeader := false,
        logfile := [.header, .row ⟨5, some 0, 41⟩, .row ⟨5, some 0, 41⟩] } :=
    Reachable.initial.run [.addSocket (some 5), .addSocket (some 3), .checkStop, .printStats answers,
      .checkStop, .printStats answers] (by decide) (by decide)
  exact csv_file_well_formed .srt _ reached (by simp)

-- A group does not ask the library for its header, so that the failure comes after it.
theorem header_printed_twice :
    ∃ writer : StatsWriter Nat, Reachable (step .srtGroup "csv") Unrestricted {} writer ∧
      writer.logfile = [.header, .header, .row ⟨5, some 0, 41⟩] ∧ ¬ CsvFile writer.logfile := by
  let answers : Socket → Bool → Answer Nat := fun sockid _ => ⟨if sockid = 3 then none else some 41, true, some []⟩
  refine ⟨{ sock := [5], thread := .condition, printHeader := false,
            logfile := [.header, .header, .row ⟨5, some 0, 41⟩] },
    Reachable.initial.run [.addSocket (some 3), .addSocket (some 5), .checkStop, .printStats answers] ?_ (by decide),
    rfl, fun file => absurd file.once (by decide)⟩
  exact allowedRun_of_forall (by simp [Unrestricted]) _

end Runs

end XTransmit.Statistics
