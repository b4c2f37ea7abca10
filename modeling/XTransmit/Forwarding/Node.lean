import Mathlib.Data.List.Basic
import Mathlib.Algebra.Order.Group.Int
import Mathlib.Algebra.Ring.Nat
import Mathlib.Data.Nat.Find

set_option autoImplicit false

namespace XTransmit.Forwarding

abbrev SrtSocket := Int32

abbrev Message := List UInt8

inductive SrtError where
  | econnlost
  | einvsock
  | other
  deriving DecidableEq, Repr

structure EpollAnswer where
  epollRes : Int
  rnum : Int := 1
  wnum : Int := 0
  sock : SrtSocket := 0
  recvRes : Int := 0
  message : Message := []
  -- A positive result is the size of the message.
  sized : 0 < recvRes → recvRes = message.length := by simp
  error : SrtError := .other
  deriving DecidableEq, Repr

-- The result of `Receive`, and the identifier that it leaves at 0 unless it knows one.
structure Received where
  recvRes : Int
  connectionId : SrtSocket := 0
  message : Message := []
  deriving DecidableEq, Repr

-- `none` is another pass. A broken connection looks like a node that was stopped.
def receivePass (answer : EpollAnswer) : Option Received :=
  if answer.epollRes ≤ 0 then none
  else if answer.rnum ≤ 0 ∧ answer.wnum ≤ 0 then some { recvRes := -2 }
  else if answer.recvRes > 0 then
    some { recvRes := answer.recvRes, connectionId := answer.sock, message := answer.message }
  else
    match answer.error with
    | .econnlost => some { recvRes := 0 }
    | .einvsock => some { recvRes := 0 }
    | .other => some { recvRes := answer.recvRes, connectionId := answer.sock }

structure SndBuffer where
  blocks : Nat
  bytes : Nat
  deriving DecidableEq, Repr

-- `return bytes` cuts a `size_t` to an `int`.
def SndBuffer.undelivered (buffer : SndBuffer) : Int := Int.bmod buffer.bytes (2 ^ 32)

def undeliveredLoop (waitMs : Int) : Nat → List (Option SndBuffer) → Option Int
  | _, [] => none
  | _, none :: _ => some (-1)
  | msPassed, some buffer :: later =>
      if waitMs = 0 then some buffer.undelivered
      else if waitMs ≠ -1 ∧ (msPassed : Int) ≥ waitMs then some buffer.undelivered
      else if buffer.blocks ≠ 0 then undeliveredLoop waitMs (msPassed + 1) later
      else some buffer.undelivered

-- A socket that is neither connected nor closing has nothing to wait for.
def waitUndelivered (pending : Bool) (waitMs : Int) (answers : List (Option SndBuffer)) : Option Int :=
  if !pending then some 0 else undeliveredLoop waitMs 0 answers

-- The last loop of `start_filesender` has no time limit.
def drainLoop : List (Option SndBuffer) → Bool
  | [] => false
  | none :: _ => true
  | some buffer :: later => if buffer.blocks ≠ 0 then drainLoop later else true

section Waiting

variable {waitMs : Int} {msPassed : Nat}

def settled : Option SndBuffer → Bool
  | none => true
  | some buffer => buffer.blocks = 0

def undeliveredResult : Option SndBuffer → Int
  | none => -1
  | some buffer => buffer.undelivered

def TimedOut (waitMs : Int) (msPassed : Nat) : Prop := waitMs ≠ -1 ∧ waitMs ≤ msPassed

instance : Decidable (TimedOut waitMs msPassed) := inferInstanceAs (Decidable (_ ∧ _))

theorem undeliveredLoop_cons (answer : Option SndBuffer) (later : List (Option SndBuffer)) :
    undeliveredLoop waitMs msPassed (answer :: later) =
      if settled answer ∨ TimedOut waitMs msPassed then some (undeliveredResult answer)
      else undeliveredLoop waitMs (msPassed + 1) later := by
  cases answer with
  | none => simp [undeliveredLoop, settled, undeliveredResult]
  | some buffer =>
      simp only [undeliveredLoop, settled, undeliveredResult, decide_eq_true_eq, TimedOut]
      by_cases immediate : waitMs = 0
      next => simp [immediate]
      next =>
        by_cases late : waitMs ≠ -1 ∧ waitMs ≤ msPassed
        next => simp [immediate, late]
        next =>
          by_cases empty : buffer.blocks = 0
          next => simp [immediate, late, empty]
          next => simp [immediate, late, empty]

theorem undeliveredLoop_eq_some_iff (answers : List (Option SndBuffer)) (result : Int) :
    undeliveredLoop waitMs msPassed answers = some result ↔
      ∃ (query : Nat) (answer : Option SndBuffer), answers[query]? = some answer ∧
        (settled answer ∨ TimedOut waitMs (msPassed + query)) ∧ undeliveredResult answer = result ∧
        ∀ earlier < query, ∀ other, answers[earlier]? = some other →
          ¬ settled other ∧ ¬ TimedOut waitMs (msPassed + earlier) := by
  induction answers generalizing msPassed with
  | nil => simp [undeliveredLoop]
  | cons answer later ih =>
      rw [undeliveredLoop_cons]
      by_cases past : settled answer ∨ TimedOut waitMs msPassed
      next =>
        rw [if_pos past, Option.some.injEq]
        constructor
        · intro same
          exact ⟨0, answer, rfl, past, same, by simp⟩
        · rintro ⟨query, found, there, -, same, unsettled⟩
          cases query with
          | zero =>
              cases there
              exact same
          | succ query =>
              obtain ⟨busy, early⟩ := unsettled 0 (by omega) answer rfl
              exact absurd past (not_or.mpr ⟨busy, early⟩)
      next =>
        rw [if_neg past, ih]
        rw [not_or] at past
        constructor
        · rintro ⟨query, found, there, ended, same, unsettled⟩
          refine ⟨query + 1, found, there, ?_, same, ?_⟩
          · rwa [Nat.add_right_comm] at ended
          · intro earlier before other place
            cases earlier with
            | zero =>
                cases place
                exact past
            | succ earlier =>
                have rest := unsettled earlier (by omega) other place
                rwa [Nat.add_right_comm] at rest
        · rintro ⟨query, found, there, ended, same, unsettled⟩
          cases query with
          | zero =>
              cases there
              exact absurd ended (not_or.mpr past)
          | succ query =>
              refine ⟨query, found, there, ?_, same, ?_⟩
              · rwa [Nat.add_right_comm]
              · intro earlier before other place
                have rest := unsettled (earlier + 1) (by omega) other place
                rwa [Nat.add_right_comm]

theorem drainLoop_eq (answers : List (Option SndBuffer)) : drainLoop answers = answers.any settled := by
  induction answers with
  | nil => rfl
  | cons answer later ih =>
      cases answer with
      | none => simp [drainLoop, settled]
      | some buffer => by_cases empty : buffer.blocks = 0 <;> simp [drainLoop, settled, empty, ih]

end Waiting

section Calls

variable {waitMs : Int} {answers : Nat → Option SndBuffer}

theorem waitUndelivered_eq_some_iff {calls : Nat} {result : Int} :
    waitUndelivered true waitMs ((List.range calls).map answers) = some result ↔
      ∃ query < calls, (settled (answers query) ∨ TimedOut waitMs query) ∧ undeliveredResult (answers query) = result ∧
        ∀ earlier < query, ¬ settled (answers earlier) ∧ ¬ TimedOut waitMs earlier := by
  have asked {query : Nat} {answer : Option SndBuffer} :
      ((List.range calls).map answers)[query]? = some answer ↔ query < calls ∧ answers query = answer := by
    by_cases inside : query < calls <;> simp [inside]
  simp only [waitUndelivered, Bool.not_true, Bool.false_eq_true, if_false, undeliveredLoop_eq_some_iff, asked,
    Nat.zero_add]
  constructor
  · rintro ⟨query, _, ⟨inside, rfl⟩, ended, same, unsettled⟩
    exact ⟨query, inside, ended, same, fun earlier before => unsettled earlier before _ ⟨by omega, rfl⟩⟩
  · rintro ⟨query, inside, ended, same, unsettled⟩
    refine ⟨query, _, ⟨inside, rfl⟩, ended, same, ?_⟩
    rintro earlier before _ ⟨-, rfl⟩
    exact unsettled earlier before

theorem waitUndelivered_of_end {query : Nat} (ended : settled (answers query) ∨ TimedOut waitMs query) :
    ∃ result, waitUndelivered true waitMs ((List.range (query + 1)).map answers) = some result := by
  classical
  have someEnd : ∃ query, settled (answers query) ∨ TimedOut waitMs query := ⟨query, ended⟩
  have first := Nat.find_spec someEnd
  have before := Nat.find_min' someEnd ended
  refine ⟨_, waitUndelivered_eq_some_iff.mpr ⟨Nat.find someEnd, by omega, first, rfl, ?_⟩⟩
  intro earlier less
  exact not_or.mp (Nat.find_min someEnd less)

theorem timedOut_toNat (limited : waitMs ≠ -1) : TimedOut waitMs waitMs.toNat := ⟨limited, by omega⟩

theorem waitUndelivered_idle (answers : List (Option SndBuffer)) : waitUndelivered false waitMs answers = some 0 := rfl

end Calls

end XTransmit.Forwarding
