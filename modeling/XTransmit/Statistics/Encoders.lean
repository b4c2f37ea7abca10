import Mathlib.Data.List.Basic
import Mathlib.Data.List.Nodup

set_option autoImplicit false

namespace XTransmit.Statistics

variable {Number : Type}

structure TraceBStats (Number : Type) where
  msTimeStamp : Number
  pktFlowWindow : Number
  pktCongestionWindow : Number
  pktFlightSize : Number
  msRTT : Number
  mbpsBandwidth : Number
  mbpsMaxBW : Number
  pktSent : Number
  pktSentUnique : Number
  pktSndLoss : Number
  pktSndDrop : Number
  pktRetrans : Number
  byteSent : Number
  byteAvailSndBuf : Number
  byteSndDrop : Number
  mbpsSendRate : Number
  usPktSndPeriod : Number
  msSndBuf : Number
  pktRecv : Number
  pktRecvUnique : Number
  pktRcvLoss : Number
  pktRcvDrop : Number
  pktRcvUndecrypt : Number
  pktRcvRetrans : Number
  pktRcvBelated : Number
  byteRecv : Number
  byteAvailRcvBuf : Number
  byteRcvLoss : Number
  byteRcvDrop : Number
  mbpsRecvRate : Number
  msRcvBuf : Number
  msRcvTsbPdDelay : Number
  pktReorderTolerance : Number

inductive Cell (Number : Type) where
  | text (value : String)
  | integer (value : Int)
  | number (value : Number)
  deriving DecidableEq, Repr

structure Build where
  putTime : Bool
  uniquePkts : Bool
  pktReorderTol : Bool
  deriving DecidableEq, Repr

def Build.ofVersion (putTime : Bool) (major minor patch : Nat) : Build where
  putTime := putTime
  uniquePkts := major == 1 && (minor > 4 || (minor == 4 && patch ≥ 2))
  pktReorderTol := major ≥ 1 && minor ≥ 4 && patch > 0

-- `stats_to_csv` ends with `#undef HAS_PUT_TIME`; the other two are defined anew behind it.
def Build.behindStatsToCsv (build : Build) : Build := { build with putTime := false }

def onlyIf {α : Type} (switch : Bool) (items : List α) : List α := if switch then items else []

def srtHeader (build : Build) : List String :=
  List.flatten
    [onlyIf build.putTime ["Timepoint"],
     ["Time", "SocketID", "weight", "pktFlowWindow", "pktCongestionWindow", "pktFlightSize"],
     ["msRTT", "mbpsBandwidth", "mbpsMaxBW", "pktSent"],
     onlyIf build.uniquePkts ["pktSentUnique"],
     ["pktSndLoss", "pktSndDrop", "pktRetrans", "byteSent"],
     ["byteAvailSndBuf", "byteSndDrop", "mbpsSendRate", "usPktSndPeriod", "msSndBuf", "pktRecv"],
     onlyIf build.uniquePkts ["pktRecvUnique"],
     ["pktRcvLoss", "pktRcvDrop", "pktRcvUndecrypt", "pktRcvRetrans", "pktRcvBelated"],
     ["byteRecv", "byteAvailRcvBuf", "byteRcvLoss", "byteRcvDrop", "mbpsRecvRate", "msRcvBuf", "msRcvTsbPdDelay"],
     onlyIf build.pktReorderTol ["pktReorderTolerance"]]

def srtRow (build : Build) (timestampNow : String) (socketid : Int) (stats : TraceBStats Number) : List (Cell Number) :=
  List.flatten
    [onlyIf build.putTime [.text timestampNow],
     [.number stats.msTimeStamp,
      .integer socketid,
      .integer 0,
      .number stats.pktFlowWindow,
      .number stats.pktCongestionWindow,
      .number stats.pktFlightSize,
      .number stats.msRTT,
      .number stats.mbpsBandwidth,
      .number stats.mbpsMaxBW,
      .number stats.pktSent],
     onlyIf build.uniquePkts [.number stats.pktSentUnique],
     [.number stats.pktSndLoss,
      .number stats.pktSndDrop,
      .number stats.pktRetrans,
      .number stats.byteSent,
      .number stats.byteAvailSndBuf,
      .number stats.byteSndDrop,
      .number stats.mbpsSendRate,
      .number stats.usPktSndPeriod,
      .number stats.msSndBuf,
      .number stats.pktRecv],
     onlyIf build.uniquePkts [.number stats.pktRecvUnique],
     [.number stats.pktRcvLoss,
      .number stats.pktRcvDrop,
      .number stats.pktRcvUndecrypt,
      .number stats.pktRcvRetrans,
      .number stats.pktRcvBelated,
      .number stats.byteRecv,
      .number stats.byteAvailRcvBuf,
      .number stats.byteRcvLoss,
      .number stats.byteRcvDrop,
      .number stats.mbpsRecvRate,
      .number stats.msRcvBuf,
      .number stats.msRcvTsbPdDelay],
     onlyIf build.pktReorderTol [.number stats.pktReorderTolerance]]

-- `root[name] = value` one after the other; a later value replaces an earlier one.
def assignAll (assignments : List (String × Cell Number)) : List (String × Cell Number) :=
  assignments.foldl (fun root entry => root.filter (fun other => other.1 ≠ entry.1) ++ [entry]) []

def srtStatsToJson (build : Build) (timestampNow : String) (socketid : Int) (stats : TraceBStats Number) :
    List (String × Cell Number) :=
  assignAll <| List.flatten
    [onlyIf build.behindStatsToCsv.putTime [("Timepoint", .text timestampNow)],
     [("Time", .number stats.msTimeStamp),
      ("SocketID", .integer socketid),
      ("pktFlowWindow", .number stats.pktFlowWindow),
      ("pktCongestionWindow", .number stats.pktCongestionWindow),
      ("pktFlightSize", .number stats.pktFlightSize),
      ("msRTT", .number stats.msRTT),
      ("mbpsBandwidth", .number stats.mbpsBandwidth),
      ("mbpsMaxBW", .number stats.mbpsMaxBW),
      ("pktSent", .number stats.pktSent),
      ("pktSndLoss", .number stats.pktSndLoss),
      ("pktSndDrop", .number stats.pktSndDrop),
      ("pktRetrans", .number stats.pktRetrans),
      ("byteSent", .number stats.byteSent),
      ("byteAvailSndBuf", .number stats.byteAvailSndBuf),
      ("byteSndDrop", .number stats.byteSndDrop),
      ("mbpsSendRate", .number stats.mbpsSendRate),
      ("usPktSndPeriod", .number stats.usPktSndPeriod),
      ("msSndBuf", .number stats.msSndBuf),
      ("pktRecv", .number stats.pktRecv),
      ("pktRcvLoss", .number stats.pktRcvLoss),
      ("pktRcvDrop", .number stats.pktRcvDrop),
      ("pktRcvUndecrypt", .number stats.pktRcvUndecrypt),
      ("mbpsRecvRate", .number stats.mbpsRecvRate),
      ("msRcvBuf", .number stats.msRcvBuf),
      ("msRcvTsbPdDelay", .number stats.msRcvTsbPdDelay)],
     onlyIf build.pktReorderTol [("pktReorderTolerance", .number stats.pktReorderTolerance)],
     onlyIf build.uniquePkts
       [("pktSentUnique", .number stats.pktSentUnique), ("pktRecvUnique", .number stats.pktRecvUnique)]]

def groupHeader (build : Build) : List String :=
  List.flatten
    [onlyIf build.putTime ["Timepoint"],
     ["Time", "SocketID", "weight", "pktFlowWindow", "pktCongestionWindow", "pktFlightSize"],
     ["msRTT", "mbpsBandwidth", "mbpsMaxBW", "pktSent"],
     onlyIf build.uniquePkts ["pktSentUnique"],
     ["pktSndLoss", "pktSndDrop", "pktRetrans", "byteSent"],
     ["byteAvailSndBuf", "byteSndDrop", "mbpsSendRate", "usPktSndPeriod", "msSndBuf", "pktRecv"],
     onlyIf build.uniquePkts ["pktRecvUnique"],
     ["pktRcvLoss", "pktRcvDrop", "pktRcvUndecrypt", "pktRcvRetrans", "pktRcvBelated"],
     ["byteRecv", "byteAvailRcvBuf", "byteRcvLoss", "byteRcvDrop", "mbpsRecvRate", "msRcvBuf", "msRcvTsbPdDelay"],
     onlyIf build.pktReorderTol ["pktReorderTolerance"]]

def groupRow (build : Build) (timestampNow : String) (socketid : Int) (stats : TraceBStats Number) (weight : UInt16) :
    List (Cell Number) :=
  List.flatten
    [onlyIf build.putTime [.text timestampNow],
     [.number stats.msTimeStamp,
      .integer socketid,
      .integer weight.toNat,
      .number stats.pktFlowWindow,
      .number stats.pktCongestionWindow,
      .number stats.pktFlightSize,
      .number stats.msRTT,
      .number stats.mbpsBandwidth,
      .number stats.mbpsMaxBW,
      .number stats.pktSent],
     onlyIf build.uniquePkts [.number stats.pktSentUnique],
     [.number stats.pktSndLoss,
      .number stats.pktSndDrop,
      .number stats.pktRetrans,
      .number stats.byteSent,
      .number stats.byteAvailSndBuf,
      .number stats.byteSndDrop,
      .number stats.mbpsSendRate,
      .number stats.usPktSndPeriod,
      .number stats.msSndBuf,
      .number stats.pktRecv],
     onlyIf build.uniquePkts [.number stats.pktRecvUnique],
     [.number stats.pktRcvLoss,
      .number stats.pktRcvDrop,
      .number stats.pktRcvUndecrypt,
      .number stats.pktRcvRetrans,
      .number stats.pktRcvBelated,
      .number stats.byteRecv,
      .number stats.byteAvailRcvBuf,
      .number stats.byteRcvLoss,
      .number stats.byteRcvDrop,
      .number stats.mbpsRecvRate,
      .number stats.msRcvBuf,
      .number stats.msRcvTsbPdDelay],
     onlyIf build.pktReorderTol [.number stats.pktReorderTolerance]]

def groupStatsToJson (build : Build) (timestampNow : String) (socketid : Int) (stats : TraceBStats Number)
    (weight : UInt16) : List (String × Cell Number) :=
  assignAll <| List.flatten
    [onlyIf build.behindStatsToCsv.putTime [("Timepoint", .text timestampNow)],
     [("Time", .number stats.msTimeStamp),
      ("SocketID", .integer socketid),
      ("weight", .integer weight.toNat),
      ("pktFlowWindow", .number stats.pktFlowWindow),
      ("pktCongestionWindow", .number stats.pktCongestionWindow),
      ("pktFlightSize", .number stats.pktFlightSize),
      ("msRTT", .number stats.msRTT),
      ("mbpsBandwidth", .number stats.mbpsBandwidth),
      ("mbpsMaxBW", .number stats.mbpsMaxBW),
      ("pktSent", .number stats.pktSent),
      ("pktSndLoss", .number stats.pktSndLoss),
      ("pktSndDrop", .number stats.pktSndDrop),
      ("pktRetrans", .number stats.pktRetrans),
      ("byteSent", .number stats.byteSent),
      ("byteAvailSndBuf", .number stats.byteAvailSndBuf),
      ("byteSndDrop", .number stats.byteSndDrop),
      ("mbpsSendRate", .number stats.mbpsSendRate),
      ("usPktSndPeriod", .number stats.usPktSndPeriod),
      ("msSndBuf", .number stats.msSndBuf),
      ("pktRecv", .number stats.pktRecv),
      ("pktRcvLoss", .number stats.pktRcvLoss),
      ("pktRcvDrop", .number stats.pktRcvDrop),
      ("pktRcvRetrans", .number stats.pktRcvRetrans),
      ("pktRcvBelated", .number stats.pktRcvBelated),
      ("byteRecv", .number stats.byteRecv),
      ("byteAvailRcvBuf", .number stats.byteAvailRcvBuf),
      ("byteRcvLoss", .number stats.byteRcvLoss),
      ("byteRcvDrop", .number stats.byteRcvDrop),
      ("mbpsRecvRate", .number stats.mbpsRecvRate),
      ("msRcvBuf", .number stats.msRcvBuf),
      ("msRcvTsbPdDelay", .number stats.msRcvTsbPdDelay)],
     onlyIf build.pktReorderTol [("pktReorderTolerance", .number stats.pktReorderTolerance)],
     onlyIf build.uniquePkts
       [("pktSentUnique", .number stats.pktSentUnique), ("pktRecvUnique", .number stats.pktRecvUnique)]]

inductive Column where
  | timepoint
  | time
  | socketID
  | weight
  | pktFlowWindow
  | pktCongestionWindow
  | pktFlightSize
  | msRTT
  | mbpsBandwidth
  | mbpsMaxBW
  | pktSent
  | pktSentUnique
  | pktSndLoss
  | pktSndDrop
  | pktRetrans
  | byteSent
  | byteAvailSndBuf
  | byteSndDrop
  | mbpsSendRate
  | usPktSndPeriod
  | msSndBuf
  | pktRecv
  | pktRecvUnique
  | pktRcvLoss
  | pktRcvDrop
  | pktRcvUndecrypt
  | pktRcvRetrans
  | pktRcvBelated
  | byteRecv
  | byteAvailRcvBuf
  | byteRcvLoss
  | byteRcvDrop
  | mbpsRecvRate
  | msRcvBuf
  | msRcvTsbPdDelay
  | pktReorderTolerance
  deriving DecidableEq, Repr

def Column.name : Column → String
  | .timepoint => "Timepoint"
  | .time => "Time"
  | .socketID => "SocketID"
  | .weight => "weight"
  | .pktFlowWindow => "pktFlowWindow"
  | .pktCongestionWindow => "pktCongestionWindow"
  | .pktFlightSize => "pktFlightSize"
  | .msRTT => "msRTT"
  | .mbpsBandwidth => "mbpsBandwidth"
  | .mbpsMaxBW => "mbpsMaxBW"
  | .pktSent => "pktSent"
  | .pktSentUnique => "pktSentUnique"
  | .pktSndLoss => "pktSndLoss"
  | .pktSndDrop => "pktSndDrop"
  | .pktRetrans => "pktRetrans"
  | .byteSent => "byteSent"
  | .byteAvailSndBuf => "byteAvailSndBuf"
  | .byteSndDrop => "byteSndDrop"
  | .mbpsSendRate => "mbpsSendRate"
  | .usPktSndPeriod => "usPktSndPeriod"
  | .msSndBuf => "msSndBuf"
  | .pktRecv => "pktRecv"
  | .pktRecvUnique => "pktRecvUnique"
  | .pktRcvLoss => "pktRcvLoss"
  | .pktRcvDrop => "pktRcvDrop"
  | .pktRcvUndecrypt => "pktRcvUndecrypt"
  | .pktRcvRetrans => "pktRcvRetrans"
  | .pktRcvBelated => "pktRcvBelated"
  | .byteRecv => "byteRecv"
  | .byteAvailRcvBuf => "byteAvailRcvBuf"
  | .byteRcvLoss => "byteRcvLoss"
  | .byteRcvDrop => "byteRcvDrop"
  | .mbpsRecvRate => "mbpsRecvRate"
  | .msRcvBuf => "msRcvBuf"
  | .msRcvTsbPdDelay => "msRcvTsbPdDelay"
  | .pktReorderTolerance => "pktReorderTolerance"

def Column.cell (timestampNow : String) (socketid : Int) (stats : TraceBStats Number) (weight : UInt16) :
    Column → Cell Number
  | .timepoint => .text timestampNow
  | .time => .number stats.msTimeStamp
  | .socketID => .integer socketid
  | .weight => .integer weight.toNat
  | .pktFlowWindow => .number stats.pktFlowWindow
  | .pktCongestionWindow => .number stats.pktCongestionWindow
  | .pktFlightSize => .number stats.pktFlightSize
  | .msRTT => .number stats.msRTT
  | .mbpsBandwidth => .number stats.mbpsBandwidth
  | .mbpsMaxBW => .number stats.mbpsMaxBW
  | .pktSent => .number stats.pktSent
  | .pktSentUnique => .number stats.pktSentUnique
  | .pktSndLoss => .number stats.pktSndLoss
  | .pktSndDrop => .number stats.pktSndDrop
  | .pktRetrans => .number stats.pktRetrans
  | .byteSent => .number stats.byteSent
  | .byteAvailSndBuf => .number stats.byteAvailSndBuf
  | .byteSndDrop => .number stats.byteSndDrop
  | .mbpsSendRate => .number stats.mbpsSendRate
  | .usPktSndPeriod => .number stats.usPktSndPeriod
  | .msSndBuf => .number stats.msSndBuf
  | .pktRecv => .number stats.pktRecv
  | .pktRecvUnique => .number stats.pktRecvUnique
  | .pktRcvLoss => .number stats.pktRcvLoss
  | .pktRcvDrop => .number stats.pktRcvDrop
  | .pktRcvUndecrypt => .number stats.pktRcvUndecrypt
  | .pktRcvRetrans => .number stats.pktRcvRetrans
  | .pktRcvBelated => .number stats.pktRcvBelated
  | .byteRecv => .number stats.byteRecv
  | .byteAvailRcvBuf => .number stats.byteAvailRcvBuf
  | .byteRcvLoss => .number stats.byteRcvLoss
  | .byteRcvDrop => .number stats.byteRcvDrop
  | .mbpsRecvRate => .number stats.mbpsRecvRate
  | .msRcvBuf => .number stats.msRcvBuf
  | .msRcvTsbPdDelay => .number stats.msRcvTsbPdDelay
  | .pktReorderTolerance => .number stats.pktReorderTolerance

def Column.entry (timestampNow : String) (socketid : Int) (stats : TraceBStats Number) (weight : UInt16)
    (column : Column) : String × Cell Number :=
  (column.name, column.cell timestampNow socketid stats weight)

def PairsColumns (names : List String) (row : List (Cell Number)) (entry : Column → String × Cell Number) : Prop :=
  names.length = row.length ∧ ∀ pair ∈ names.zip row, ∃ column, pair = entry column

structure CsvAgrees (build : Build) (timestampNow : String) (socketid : Int) (stats : TraceBStats Number)
    (weight : UInt16) : Prop where
  srtColumns : PairsColumns (srtHeader build) (srtRow build timestampNow socketid stats)
    (Column.entry timestampNow socketid stats 0)
  groupColumns : PairsColumns (groupHeader build) (groupRow build timestampNow socketid stats weight)
    (Column.entry timestampNow socketid stats weight)
  sameRow : srtRow build timestampNow socketid stats = groupRow build timestampNow socketid stats 0

def srtCsv (build : Build) (timestampNow : String) (socketid : Int) (stats : TraceBStats Number) :
    List (String × Cell Number) :=
  (srtHeader build).zip (srtRow build timestampNow socketid stats)

def groupCsv (build : Build) (timestampNow : String) (socketid : Int) (stats : TraceBStats Number) (weight : UInt16) :
    List (String × Cell Number) :=
  (groupHeader build).zip (groupRow build timestampNow socketid stats weight)

structure EncodersAgree (build : Build) (timestampNow : String) (socketid : Int) (stats : TraceBStats Number)
    (weight : UInt16) : Prop extends CsvAgrees build timestampNow socketid stats weight where
  srtJson : ∀ entry, entry ∈ srtStatsToJson build timestampNow socketid stats ↔
    entry ∈ srtCsv build timestampNow socketid stats
  groupJson : ∀ entry, entry ∈ groupStatsToJson build timestampNow socketid stats weight ↔
    entry ∈ groupCsv build timestampNow socketid stats weight

def csvColumns (build : Build) : List Column :=
  List.flatten
    [onlyIf build.putTime [.timepoint],
     [.time, .socketID, .weight, .pktFlowWindow, .pktCongestionWindow, .pktFlightSize, .msRTT, .mbpsBandwidth,
      .mbpsMaxBW, .pktSent],
     onlyIf build.uniquePkts [.pktSentUnique],
     [.pktSndLoss, .pktSndDrop, .pktRetrans, .byteSent, .byteAvailSndBuf, .byteSndDrop, .mbpsSendRate,
      .usPktSndPeriod, .msSndBuf, .pktRecv],
     onlyIf build.uniquePkts [.pktRecvUnique],
     [.pktRcvLoss, .pktRcvDrop, .pktRcvUndecrypt, .pktRcvRetrans, .pktRcvBelated, .byteRecv, .byteAvailRcvBuf,
      .byteRcvLoss, .byteRcvDrop, .mbpsRecvRate, .msRcvBuf, .msRcvTsbPdDelay],
     onlyIf build.pktReorderTol [.pktReorderTolerance]]

def srtJsonColumns (build : Build) : List Column :=
  List.flatten
    [[.time, .socketID, .pktFlowWindow, .pktCongestionWindow, .pktFlightSize, .msRTT, .mbpsBandwidth, .mbpsMaxBW,
      .pktSent, .pktSndLoss, .pktSndDrop, .pktRetrans, .byteSent, .byteAvailSndBuf, .byteSndDrop, .mbpsSendRate,
      .usPktSndPeriod, .msSndBuf, .pktRecv, .pktRcvLoss, .pktRcvDrop, .pktRcvUndecrypt, .mbpsRecvRate, .msRcvBuf,
      .msRcvTsbPdDelay],
     onlyIf build.pktReorderTol [.pktReorderTolerance],
     onlyIf build.uniquePkts [.pktSentUnique, .pktRecvUnique]]

def groupJsonColumns (build : Build) : List Column :=
  List.flatten
    [[.time, .socketID, .weight, .pktFlowWindow, .pktCongestionWindow, .pktFlightSize, .msRTT, .mbpsBandwidth,
      .mbpsMaxBW, .pktSent, .pktSndLoss, .pktSndDrop, .pktRetrans, .byteSent, .byteAvailSndBuf, .byteSndDrop,
      .mbpsSendRate, .usPktSndPeriod, .msSndBuf, .pktRecv, .pktRcvLoss, .pktRcvDrop, .pktRcvRetrans, .pktRcvBelated,
      .byteRecv, .byteAvailRcvBuf, .byteRcvLoss, .byteRcvDrop, .mbpsRecvRate, .msRcvBuf, .msRcvTsbPdDelay],
     onlyIf build.pktReorderTol [.pktReorderTolerance],
     onlyIf build.uniquePkts [.pktSentUnique, .pktRecvUnique]]

def srtJsonLacks : List Column :=
  [.timepoint, .weight, .pktRcvRetrans, .pktRcvBelated, .byteRecv, .byteAvailRcvBuf, .byteRcvLoss, .byteRcvDrop]

def groupJsonLacks : List Column := [.timepoint, .pktRcvUndecrypt]

section Columns

variable (build : Build) (timestampNow : String) (socketid : Int) (stats : TraceBStats Number) (weight : UInt16)

theorem srtHeader_names : srtHeader build = (csvColumns build).map Column.name := by
  rcases build with ⟨_ | _, _ | _, _ | _⟩ <;> rfl

theorem groupHeader_names : groupHeader build = (csvColumns build).map Column.name := by
  rcases build with ⟨_ | _, _ | _, _ | _⟩ <;> rfl

theorem srtRow_cells : srtRow build timestampNow socketid stats =
    (csvColumns build).map (Column.cell timestampNow socketid stats 0) := by
  rcases build with ⟨_ | _, _ | _, _ | _⟩ <;> rfl

theorem groupRow_cells : groupRow build timestampNow socketid stats weight =
    (csvColumns build).map (Column.cell timestampNow socketid stats weight) := by
  rcases build with ⟨_ | _, _ | _, _ | _⟩ <;> rfl

theorem foldl_assign {root assignments : List (String × Cell Number)}
    (names : ((root ++ assignments).map Prod.fst).Nodup) :
    assignments.foldl (fun root entry => root.filter (fun other => other.1 ≠ entry.1) ++ [entry]) root =
      root ++ assignments := by
  induction assignments generalizing root with
  | nil => simp
  | cons entry rest ih =>
      have fresh : root.filter (fun other => other.1 ≠ entry.1) = root := by
        refine List.filter_eq_self.mpr fun other member => ?_
        rw [List.map_append, List.nodup_append] at names
        simpa using names.2.2 other.1 (List.mem_map_of_mem member) entry.1 (by simp)
      rw [List.foldl_cons, fresh, ih (by simpa using names)]
      simp

theorem assignAll_nodup {assignments : List (String × Cell Number)} (names : (assignments.map Prod.fst).Nodup) :
    assignAll assignments = assignments :=
  foldl_assign names

def everyColumn : List Column := .pktRcvUndecrypt :: groupJsonColumns ⟨false, true, true⟩ ++ [.timepoint]

theorem mem_everyColumn (column : Column) : column ∈ everyColumn := by
  cases column <;> decide

theorem name_injective : Function.Injective Column.name := by
  have names : (everyColumn.map Column.name).Nodup := by decide +kernel
  intro left right same
  exact List.inj_on_of_nodup_map names (mem_everyColumn left) (mem_everyColumn right) same

theorem entry_injective : Function.Injective (Column.entry timestampNow socketid stats weight) :=
  fun _ _ same => name_injective (congrArg Prod.fst same)

theorem assignAll_entries {columns : List Column} (nodup : columns.Nodup) :
    assignAll (columns.map (Column.entry timestampNow socketid stats weight)) =
      columns.map (Column.entry timestampNow socketid stats weight) := by
  apply assignAll_nodup
  rw [List.map_map]
  exact nodup.map name_injective

theorem srtJson_entries : srtStatsToJson build timestampNow socketid stats =
    (srtJsonColumns build).map (Column.entry timestampNow socketid stats 0) := by
  have nodup : (srtJsonColumns build).Nodup := by rcases build with ⟨_ | _, _ | _, _ | _⟩ <;> decide
  rw [← assignAll_entries timestampNow socketid stats 0 nodup]
  rcases build with ⟨_ | _, _ | _, _ | _⟩ <;> rfl

theorem groupJson_entries : groupStatsToJson build timestampNow socketid stats weight =
    (groupJsonColumns build).map (Column.entry timestampNow socketid stats weight) := by
  have nodup : (groupJsonColumns build).Nodup := by rcases build with ⟨_ | _, _ | _, _ | _⟩ <;> decide
  rw [← assignAll_entries timestampNow socketid stats weight nodup]
  rcases build with ⟨_ | _, _ | _, _ | _⟩ <;> rfl

theorem zip_columns (columns : List Column) :
    (columns.map Column.name).zip (columns.map (Column.cell timestampNow socketid stats weight)) =
      columns.map (Column.entry timestampNow socketid stats weight) :=
  List.zip_map' ..

theorem srtCsv_entries : srtCsv build timestampNow socketid stats =
    (csvColumns build).map (Column.entry timestampNow socketid stats 0) := by
  rw [srtCsv, srtHeader_names, srtRow_cells, zip_columns]

theorem groupCsv_entries : groupCsv build timestampNow socketid stats weight =
    (csvColumns build).map (Column.entry timestampNow socketid stats weight) := by
  rw [groupCsv, groupHeader_names, groupRow_cells, zip_columns]

theorem pairsColumns_map (columns : List Column) : PairsColumns (columns.map Column.name)
    (columns.map (Column.cell timestampNow socketid stats weight)) (Column.entry timestampNow socketid stats weight) := by
  refine ⟨by simp, fun pair member => ?_⟩
  rw [zip_columns] at member
  obtain ⟨column, -, same⟩ := List.mem_map.mp member
  exact ⟨column, same.symm⟩

theorem csvAgrees : CsvAgrees build timestampNow socketid stats weight where
  srtColumns := by
    rw [srtHeader_names, srtRow_cells]
    exact pairsColumns_map timestampNow socketid stats 0 _
  groupColumns := by
    rw [groupHeader_names, groupRow_cells]
    exact pairsColumns_map timestampNow socketid stats weight _
  sameRow := by rw [srtRow_cells, groupRow_cells]

theorem mem_srtJsonColumns (column : Column) :
    column ∈ srtJsonColumns build ↔ column ∈ csvColumns build ∧ column ∉ srtJsonLacks := by
  have every : ∀ column ∈ everyColumn,
      (column ∈ srtJsonColumns build ↔ column ∈ csvColumns build ∧ column ∉ srtJsonLacks) := by
    rcases build with ⟨_ | _, _ | _, _ | _⟩ <;> decide
  exact every column (mem_everyColumn column)

theorem mem_groupJsonColumns (column : Column) :
    column ∈ groupJsonColumns build ↔ column ∈ csvColumns build ∧ column ∉ groupJsonLacks := by
  have every : ∀ column ∈ everyColumn,
      (column ∈ groupJsonColumns build ↔ column ∈ csvColumns build ∧ column ∉ groupJsonLacks) := by
    rcases build with ⟨_ | _, _ | _, _ | _⟩ <;> decide
  exact every column (mem_everyColumn column)

theorem mem_json_iff {json csv lacks : List Column} (lacking : ∀ column, column ∈ json ↔ column ∈ csv ∧ column ∉ lacks)
    (entry : String × Cell Number) :
    entry ∈ json.map (Column.entry timestampNow socketid stats weight) ↔
      ∃ column, column.entry timestampNow socketid stats weight = entry ∧
        entry ∈ csv.map (Column.entry timestampNow socketid stats weight) ∧ column ∉ lacks := by
  constructor
  · intro member
    obtain ⟨column, written, rfl⟩ := List.mem_map.mp member
    obtain ⟨listed, present⟩ := (lacking column).mp written
    exact ⟨column, rfl, List.mem_map_of_mem listed, present⟩
  · rintro ⟨column, rfl, listed, present⟩
    have member := (List.mem_map_of_injective (entry_injective timestampNow socketid stats weight)).mp listed
    exact List.mem_map_of_mem ((lacking column).mpr ⟨member, present⟩)

theorem byteRecv_listed : Column.byteRecv ∈ csvColumns build := by
  rcases build with ⟨_ | _, _ | _, _ | _⟩ <;> decide

theorem not_encodersAgree : ¬EncodersAgree build timestampNow socketid stats weight := by
  intro agree
  have listed : Column.byteRecv.entry timestampNow socketid stats 0 ∈ srtCsv build timestampNow socketid stats := by
    rw [srtCsv_entries]
    exact List.mem_map_of_mem (byteRecv_listed build)
  have written := (agree.srtJson _).mpr listed
  rw [srtJson_entries, List.mem_map_of_injective (entry_injective timestampNow socketid stats 0),
    mem_srtJsonColumns] at written
  exact written.2 (by decide)

end Columns

theorem srt_encoders_never_agree (build : Build) (timestampNow : String) (socketid : Int) (stats : TraceBStats Number)
    (weight : UInt16) :
    ¬EncodersAgree build timestampNow socketid stats weight ∧ CsvAgrees build timestampNow socketid stats weight ∧
      (∀ entry, entry ∈ srtStatsToJson build timestampNow socketid stats ↔
        ∃ column, column.entry timestampNow socketid stats 0 = entry ∧
          entry ∈ srtCsv build timestampNow socketid stats ∧ column ∉ srtJsonLacks) ∧
      ∀ entry, entry ∈ groupStatsToJson build timestampNow socketid stats weight ↔
        ∃ column, column.entry timestampNow socketid stats weight = entry ∧
          entry ∈ groupCsv build timestampNow socketid stats weight ∧ column ∉ groupJsonLacks := by
  refine ⟨not_encodersAgree build timestampNow socketid stats weight,
    csvAgrees build timestampNow socketid stats weight, ?_, ?_⟩
  · rw [srtJson_entries, srtCsv_entries]
    exact mem_json_iff timestampNow socketid stats 0 (mem_srtJsonColumns build)
  · rw [groupJson_entries, groupCsv_entries]
    exact mem_json_iff timestampNow socketid stats weight (mem_groupJsonColumns build)

def oneMessageStats : TraceBStats Nat :=
  ⟨0, 0, 0, 0, 0, 0, 0, 0, 0, 0, 0, 0, 0, 0, 0, 0, 0, 0, 0, 0, 0, 0, 0, 0, 0, 1316, 0, 0, 0, 0, 0, 0, 0⟩

-- With SRT 1.5.3 the received bytes are in the CSV of the socket and not in its JSON.
theorem received_bytes_not_in_json :
    ("byteRecv", Cell.number 1316) ∈ srtCsv (Build.ofVersion true 1 5 3) "" 7 oneMessageStats ∧
      ¬EncodersAgree (Build.ofVersion true 1 5 3) "" 7 oneMessageStats 0 := by
  constructor
  · rw [srtCsv_entries]
    exact List.mem_map_of_mem (byteRecv_listed _)
  · exact not_encodersAgree _ _ _ _ _

end XTransmit.Statistics
