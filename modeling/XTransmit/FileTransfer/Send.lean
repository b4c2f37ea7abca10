import XTransmit.FileTransfer.Segment
import XTransmit.Shared.FileStream

set_option autoImplicit false

namespace XTransmit.FileTransfer

open Bytes FileStream

structure SendEnv where
  -- What call number so much of `dst.write` returns for a length; `none` is an exception.
  write : Nat → Nat → Option Int
  forceBreak : Nat → Bool
  -- Readings of the steady clock, in nanoseconds.
  now : Nat → Int64

structure SendState where
  buf : List UInt8
  sent : List Message := []
  writes : Nat := 0
  breakReads : Nat := 0
  clockReads : Nat := 0

-- A fault is an access outside the buffer, a signed overflow or a division by zero. Without an outcome a loop is
-- still running when its fuel ends.
inductive SendOutcome where
  | returned (result : Bool)
  | threw
  | fault
deriving DecidableEq

-- The retry loop around `dst.write`; `SRT_ERROR` is -1.
def writeSegment (env : SendEnv) (message : Message) : Nat → SendState → Option (SendOutcome × SendState)
  | 0, _ => none
  | fuel + 1, state =>
      let next := { state with writes := state.writes + 1 }
      match env.write state.writes message.length with
      | none => some (.threw, next)
      | some st =>
          if st = 0 then writeSegment env message fuel next
          else if st = -1 then some (.returned false, next)
          else if st ≠ message.length then some (.returned false, next)
          else some (.returned true, { next with sent := next.sent ++ [message] })

structure Progress where
  hdrSize : Nat
  fileSize : UInt64 := 0
  ifile : IFStream
  state : SendState

-- `while (n > 0)`: `shift` stays 0 until the loop is left.
def sendBytes (env : SendEnv) (fuel : Nat) (n : Int) (progress : Progress) :
    Option (SendOutcome × Progress) :=
  if n ≤ 0 then some (.returned true, progress)
  else if 2 ^ 31 ≤ n + progress.hdrSize then some (.fault, progress)
  else do
    let message := progress.state.buf.take (n.toNat + progress.hdrSize)
    let (outcome, state) ← writeSegment env message fuel progress.state
    if outcome ≠ .returned true then return (outcome, { progress with state := state })
    return (.returned true, { progress with
      hdrSize := 1
      fileSize := progress.fileSize + UInt64.ofNat n.toNat
      state := state })

def readSegment (progress : Progress) : Int × Progress :=
  let read := progress.ifile.read (progress.state.buf.length - progress.hdrSize)
  let flags := headerFlags read.2.state.eof (1 < progress.hdrSize)
  let buf := overwrite 0 [flags] (overwrite progress.hdrSize read.1 progress.state.buf)
  (Int.bmod read.1.length (2 ^ 32),
    { progress with ifile := read.2, state := { progress.state with buf := buf } })

def sendLoop (env : SendEnv) : Nat → Progress → Option (SendOutcome × Progress)
  | 0, _ => none
  | fuel + 1, progress =>
      let reading := progress.state.breakReads
      let progress := { progress with state.breakReads := reading + 1 }
      if env.forceBreak reading then some (.returned true, progress)
      else do
        let round := readSegment progress
        let (outcome, progress) ← sendBytes env fuel round.1 round.2
        if outcome ≠ .returned true then return (outcome, progress)
        if progress.ifile.state.eof then return (.returned true, progress)
        if !progress.ifile.state.good then return (.returned false, progress)
        sendLoop env fuel progress

def deltaUs (env : SendEnv) (timeStart timeEnd : Nat) : Int64 := (env.now timeEnd - env.now timeStart) / 1000

-- `(file_size * 1000) / (delta_us) * 8`
def rateKbps (fileSize : UInt64) (delta : Int64) : Option UInt64 :=
  if delta = 0 then none else some (fileSize * 1000 / delta.toUInt64 * 8)

-- `int hdr_size = snprintf(..) + 2`. A count beyond `INT_MAX` is an error, which `snprintf` answers with -1.
def hdrSizeOf (name : List UInt8) : Option Nat :=
  if name.length + 2 < 2 ^ 31 then some (name.length + 2)
  else if name.length < 2 ^ 31 then none
  else some 1

structure SourceFile where
  uploadName : List UInt8
  ifile : Option IFStream

def sendFile (env : SendEnv) (fuel : Nat) (file : SourceFile) (state : SendState) :
    Option (SendOutcome × SendState) :=
  match file.ifile with
  | none => some (.returned false, state)
  | some ifile =>
      let timeStart := state.clockReads
      let state := { state with clockReads := timeStart + 1 }
      let name := file.uploadName.takeWhile (· ≠ 0)
      -- `snprintf` may fill as many bytes as the buffer has, from its second byte on.
      match store 1 (nameHeader name) state.buf with
      | none => some (.fault, state)
      | some buf =>
          match hdrSizeOf name with
          | none => some (.fault, state)
          | some hdrSize => do
              let start : Progress := { hdrSize := hdrSize, ifile := ifile, state := { state with buf := buf } }
              let (outcome, progress) ← sendLoop env fuel start
              if outcome ≠ .returned true then return (outcome, progress.state)
              let timeEnd := progress.state.clockReads
              let state := { progress.state with clockReads := timeEnd + 1 }
              match rateKbps progress.fileSize (deltaUs env timeStart timeEnd) with
              | none => return (.fault, state)
              | some _ => return (.returned true, state)

def startFilesender (env : SendEnv) (fuel : Nat) :
    List SourceFile → SendState → Option (SendOutcome × SendState)
  | [], state => some (.returned true, state)
  | file :: rest, state => do
      let (outcome, state) ← sendFile env fuel file state
      if outcome ≠ .returned true then return (outcome, state)
      let reading := state.breakReads
      let state := { state with breakReads := reading + 1 }
      if env.forceBreak reading then return (.returned true, state)
      startFilesender env fuel rest state

end XTransmit.FileTransfer
