import Mathlib.Data.List.Basic

set_option autoImplicit false

namespace XTransmit.Statistics

abbrev Socket := Int32

inductive Transport where
  | srt
  | srtGroup
  | tcp (enableTcpStats : Bool)
  | udp
  deriving DecidableEq, Repr

def Transport.supportsStatistics : Transport → Bool
  | .srt | .srtGroup => true
  | .tcp enableTcpStats => enableTcpStats
  | .udp => false

variable {Stats : Type}

structure Row (Stats : Type) where
  socketid : Socket
  weight : Option UInt16
  stats : Stats
  deriving DecidableEq, Repr

inductive Line (Stats : Type) where
  | header
  | row (row : Row Stats)
  | json (connStats : Row Stats) (linksStats : Option (List (Row Stats)))
  deriving DecidableEq, Repr

structure Member (Stats : Type) where
  id : Socket
  connected : Bool
  weight : UInt16
  bstats : Option Stats

-- What the library answers during one call; `none` is its error.
structure Answer (Stats : Type) where
  bstats : Option Stats
  groupSize : Bool := true
  groupData : Option (List (Member Stats)) := some []

-- A member that is not connected or has no statistics is skipped.
def Member.link (member : Member Stats) : Option (Row Stats) :=
  if !member.connected then none
  else member.bstats.map fun stats => ⟨member.id, some member.weight, stats⟩

def isJson (statsFormat : String) : Bool := statsFormat == "json"

def srtGetStatistics (statsFormat : String) (printHeader : Bool) (socket : Socket) (answer : Answer Stats) :
    Except String (List (Line Stats)) :=
  match answer.bstats with
  | none => .error "statistics"
  | some stats =>
      if isJson statsFormat then
        if printHeader then .ok [] else .ok [.json ⟨socket, none, stats⟩ none]
      else if printHeader then .ok [.header]
      else .ok [.row ⟨socket, some 0, stats⟩]

def getStatisticsCsv (printHeader : Bool) (socket : Socket) (answer : Answer Stats) : Except String (List (Line Stats)) :=
  if printHeader then .ok [.header]
  else
    match answer.bstats with
    | none => .error "statistics"
    | some stats =>
        let csvStats := .row ⟨socket, some 0, stats⟩
        if !answer.groupSize then .ok [csvStats]
        else
          match answer.groupData with
          | none => .ok [csvStats]
          | some members => .ok (csvStats :: (members.filterMap Member.link).map .row)

-- An array that no link was pushed to is null.
def getStatisticsJson (socket : Socket) (answer : Answer Stats) : Except String (List (Line Stats)) :=
  match answer.bstats with
  | none => .error "statistics"
  | some stats =>
      let connStats := ⟨socket, some 0, stats⟩
      if !answer.groupSize then .ok [.json connStats (some [])]
      else
        match answer.groupData with
        | none => .ok [.json connStats (some [])]
        | some members =>
            match members.filterMap Member.link with
            | [] => .ok [.json connStats none]
            | links => .ok [.json connStats (some links)]

def groupGetStatistics (statsFormat : String) (printHeader : Bool) (socket : Socket) (answer : Answer Stats) :
    Except String (List (Line Stats)) :=
  if isJson statsFormat then
    if !printHeader then getStatisticsJson socket answer else .ok []
  else getStatisticsCsv printHeader socket answer

-- CSV, whatever the format.
def tcpGetStatistics (enableTcpStats printHeader : Bool) (socket : Socket) (answer : Answer Stats) :
    Except String (List (Line Stats)) :=
  if enableTcpStats then
    match answer.bstats with
    | none => .error "statistics"
    | some stats => if printHeader then .ok [.header] else .ok [.row ⟨socket, none, stats⟩]
  else .error "TCP statistics"

def Transport.getStatistics (transport : Transport) (statsFormat : String) (printHeader : Bool) (socket : Socket)
    (answer : Answer Stats) : Except String (List (Line Stats)) :=
  match transport with
  | .srt => srtGetStatistics statsFormat printHeader socket answer
  | .srtGroup => groupGetStatistics statsFormat printHeader socket answer
  | .tcp enableTcpStats => tcpGetStatistics enableTcpStats printHeader socket answer
  | .udp => .ok []

section Csv

variable {transport : Transport} {statsFormat : String} {socket : Socket} {answer : Answer Stats}
  {lines : List (Line Stats)}

theorem getStatistics_header (supported : transport.supportsStatistics = true) (csv : isJson statsFormat = false)
    (reported : transport.getStatistics statsFormat true socket answer = .ok lines) : lines = [.header] := by
  cases transport with
  | srt =>
      simp only [Transport.getStatistics, srtGetStatistics, csv] at reported
      split at reported <;> cases reported
      rfl
  | srtGroup =>
      simp only [Transport.getStatistics, groupGetStatistics, csv, getStatisticsCsv] at reported
      cases reported
      rfl
  | tcp enableTcpStats =>
      simp only [Transport.supportsStatistics] at supported
      simp only [Transport.getStatistics, tcpGetStatistics, supported, if_true] at reported
      split at reported <;> cases reported
      rfl
  | udp => cases supported

theorem getStatistics_rows (csv : isJson statsFormat = false)
    (reported : transport.getStatistics statsFormat false socket answer = .ok lines) :
    ∃ rows : List (Row Stats), lines = rows.map .row := by
  cases transport with
  | srt =>
      simp only [Transport.getStatistics, srtGetStatistics, csv] at reported
      split at reported <;> cases reported
      next stats _ => exact ⟨[⟨socket, some 0, stats⟩], rfl⟩
  | srtGroup =>
      simp only [Transport.getStatistics, groupGetStatistics, csv, getStatisticsCsv, Bool.false_eq_true, if_false]
        at reported
      split at reported
      next => cases reported
      next stats _ =>
        split at reported
        next =>
          cases reported
          exact ⟨[⟨socket, some 0, stats⟩], rfl⟩
        next =>
          split at reported <;> cases reported
          next => exact ⟨[⟨socket, some 0, stats⟩], rfl⟩
          next members _ => exact ⟨⟨socket, some 0, stats⟩ :: members.filterMap Member.link, rfl⟩
  | tcp enableTcpStats =>
      simp only [Transport.getStatistics, tcpGetStatistics] at reported
      split at reported
      next =>
        split at reported <;> cases reported
        next stats _ => exact ⟨[⟨socket, none, stats⟩], rfl⟩
      next => cases reported
  | udp =>
      cases reported
      exact ⟨[], rfl⟩

end Csv

end XTransmit.Statistics
