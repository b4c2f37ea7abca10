import XTransmit.Shared.StreamParts

set_option autoImplicit false

namespace XTransmit.Streams

open StreamParts

inductive Select where
  | failed
  | ready
  | timedOut
  deriving DecidableEq, Repr

inductive Sendto where
  | sent (count : Nat)
  | failed (err : Nat)
  deriving DecidableEq, Repr

structure TcpAnswer where
  selects : List Select := [.ready]
  sendto : Sendto
  deriving DecidableEq, Repr

inductive TcpWrite where
  | waiting
  | raised
  | returned (count : Nat)
  deriving DecidableEq, Repr

def selectLoop (timeoutMs : Int) : List Select → Option TcpWrite
  | [] => some .waiting
  | .failed :: _ => some .raised
  | .ready :: _ => none
  | .timedOut :: later => if timeoutMs ≥ 0 then some (.returned 0) else selectLoop timeoutMs later

def eintr : Nat := 4

def eagain : Nat := 11

def econnrefused : Nat := 111

def tcpWrite (blockingMode : Bool) (answer : TcpAnswer) (timeoutMs : Int) : TcpWrite :=
  match if blockingMode then none else selectLoop timeoutMs answer.selects with
  | some result => result
  | none =>
      match answer.sendto with
      | .sent count => .returned count
      | .failed err => if err ≠ eagain ∧ err ≠ eintr ∧ err ≠ econnrefused then .raised else .returned 0

structure Pass where
  stops : Bool := false
  size : Nat
  answer : TcpAnswer
  deriving DecidableEq, Repr

structure Relayed where
  taken : Nat := 0
  accepted : List UInt8 := []
  unexpected : Nat := 0
  deriving DecidableEq, Repr

variable (stream : Nat → UInt8)

-- A write that returns something else than the size is logged, and the next chunk is read.
def route (blockingMode : Bool) : Relayed → List Pass → Relayed
  | relayed, [] => relayed
  | relayed, pass :: later =>
      if pass.stops then relayed
      else
        let chunk := chunkAt stream relayed.taken pass.size
        let bytesRead := chunk.length
        let read := { relayed with taken := relayed.taken + bytesRead }
        if bytesRead = 0 then route blockingMode read later
        else
          match tcpWrite blockingMode pass.answer (-1) with
          | .waiting => read
          | .raised => read
          | .returned bytesSent =>
              let written := { read with accepted := read.accepted ++ chunk.take bytesSent }
              if bytesSent ≠ bytesRead then
                route blockingMode { written with unexpected := written.unexpected + 1 } later
              else route blockingMode written later

-- The result of the write is not looked at.
def sendPayloads (blockingMode : Bool) : Relayed → List Pass → Relayed
  | relayed, [] => relayed
  | relayed, pass :: later =>
      if pass.stops then relayed
      else
        let messageToSend := chunkAt stream relayed.taken pass.size
        let generated := { relayed with taken := relayed.taken + messageToSend.length }
        match tcpWrite blockingMode pass.answer (-1) with
        | .waiting => generated
        | .raised => generated
        | .returned count =>
            sendPayloads blockingMode { generated with accepted := generated.accepted ++ messageToSend.take count } later

def NoHoles (loop : (Nat → UInt8) → Relayed → List Pass → Relayed) (passes : List Pass) : Prop :=
  ∀ count, (loop stream {} (passes.take count)).accepted <+: chunkAt stream 0 (loop stream {} (passes.take count)).taken

def reachedWrites (write : Pass → TcpWrite) : List Pass → List Part
  | [] => []
  | pass :: later =>
      if pass.stops then []
      else
        match write pass with
        | .waiting => []
        | .raised => []
        | .returned count => { size := pass.size, kept := count } :: reachedWrites write later

-- An empty read is not written.
def routeWrite (blockingMode : Bool) (pass : Pass) : TcpWrite :=
  if pass.size = 0 then .returned 0 else tcpWrite blockingMode pass.answer (-1)

def payloadWrite (blockingMode : Bool) (pass : Pass) : TcpWrite := tcpWrite blockingMode pass.answer (-1)

section Loops

variable {stream} {blockingMode : Bool} {write : Pass → TcpWrite}

def Relays (loop : (Nat → UInt8) → Relayed → List Pass → Relayed) (write : Pass → TcpWrite) : Prop :=
  ∀ stream relayed passes,
    (loop stream relayed passes).accepted =
        relayed.accepted ++ kept stream relayed.taken (reachedWrites write passes) ∧
      relayed.taken + total (reachedWrites write passes) ≤ (loop stream relayed passes).taken

theorem route_relays (blockingMode : Bool) : Relays (route · blockingMode) (routeWrite blockingMode) := by
  intro stream relayed passes
  induction passes generalizing relayed with
  | nil => simp [route, reachedWrites, kept, total]
  | cons pass later ih =>
      simp only [route, reachedWrites, routeWrite, length_chunkAt]
      split
      next => simp [kept, total]
      next =>
        split
        next empty => simpa [empty, kept, total, chunkAt] using ih { relayed with taken := relayed.taken + pass.size }
        next =>
          split
          next => simp [kept, total]
          next => simp [kept, total]
          next bytesSent result =>
            simp only [kept, total, ← List.append_assoc, ← Nat.add_assoc]
            split
            next => exact ih _
            next => exact ih _

theorem sendPayloads_relays (blockingMode : Bool) : Relays (sendPayloads · blockingMode) (payloadWrite blockingMode) := by
  intro stream relayed passes
  induction passes generalizing relayed with
  | nil => simp [sendPayloads, reachedWrites, kept, total]
  | cons pass later ih =>
      simp only [sendPayloads, reachedWrites, payloadWrite, length_chunkAt]
      split
      next => simp [kept, total]
      next =>
        split
        next => simp [kept, total]
        next => simp [kept, total]
        next count result =>
          simp only [kept, total, ← List.append_assoc, ← Nat.add_assoc]
          exact ih _

theorem reachedWrites_take (passes : List Pass) (count : Nat) :
    reachedWrites write (passes.take count) <+: reachedWrites write passes := by
  induction passes generalizing count with
  | nil => simp [reachedWrites]
  | cons pass later ih =>
      cases count with
      | zero => exact List.nil_prefix
      | succ count =>
          simp only [List.take_succ_cons, reachedWrites]
          split
          next => exact List.prefix_rfl
          next =>
            split
            next => exact List.prefix_rfl
            next => exact List.prefix_rfl
            next => exact List.cons_prefix_cons.mpr ⟨rfl, ih count⟩

theorem noHoles_iff_gapless {loop : (Nat → UInt8) → Relayed → List Pass → Relayed} (relays : Relays loop write)
    (passes : List Pass) : (∀ stream, NoHoles stream loop passes) ↔ Gapless (reachedWrites write passes) := by
  constructor
  · intro whole
    by_contra gap
    have : Nontrivial UInt8 := ⟨0, 1, by decide⟩
    obtain ⟨stream, missed⟩ := exists_content_of_gap (α := UInt8) gap 0
    have last := whole stream passes.length
    rw [List.take_length, (relays stream {} passes).1, List.nil_append] at last
    exact missed _ last
  · intro gapless stream count
    have front : Gapless (reachedWrites write (passes.take count)) :=
      gapless.sublist (reachedWrites_take passes count).sublist
    obtain ⟨accepted, taken⟩ := relays stream {} (passes.take count)
    rw [accepted, List.nil_append]
    exact (kept_of_gapless front 0).trans (chunkAt_le (by simpa using taken))

end Loops

theorem relay_leaves_no_holes_iff (blockingMode : Bool) (passes : List Pass) :
    ((∀ stream, NoHoles stream (route · blockingMode) passes) ↔
        Gapless (reachedWrites (routeWrite blockingMode) passes)) ∧
      ((∀ stream, NoHoles stream (sendPayloads · blockingMode) passes) ↔
        Gapless (reachedWrites (payloadWrite blockingMode) passes)) :=
  ⟨noHoles_iff_gapless (route_relays blockingMode) passes,
    noHoles_iff_gapless (sendPayloads_relays blockingMode) passes⟩

def shortThenFull : List Pass :=
  [{ size := 4, answer := { sendto := .sent 2 } }, { size := 4, answer := { sendto := .sent 4 } }]

-- The bytes 0 1 2 3 4 5 6 7 are read and 0 1 4 5 6 7 accepted, by either loop.
theorem short_write_leaves_a_hole :
    ¬NoHoles (fun place => UInt8.ofNat place) (route · false) shortThenFull ∧
      ¬NoHoles (fun place => UInt8.ofNat place) (sendPayloads · false) shortThenFull := by
  constructor
  next =>
    intro whole
    have last := whole 2
    revert last
    decide
  next =>
    intro whole
    have last := whole 2
    revert last
    decide

end XTransmit.Streams
