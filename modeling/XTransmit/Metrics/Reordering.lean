import XTransmit.Metrics.Channel
import XTransmit.Shared.Records

set_option autoImplicit false

namespace XTransmit.Metrics

open Records

def arrival (seqnos : List UInt64) (index : Nat) : Nat := (seqnos.getD index 0).toNat

theorem arrival_eq (seqnos : List UInt64) {index : Nat} (inside : index < seqnos.length) :
    arrival seqnos index = seqnos[index].toNat := by
  simp [arrival, inside]

structure Tracks (value : Nat → Nat) (count : Nat) (stats : ReorderStats) : Prop where
  expected : stats.expectedSeqno.toNat = bound value count
  processed : stats.pktsProcessed = UInt64.ofNat count
  reordered : stats.pktsReordered = UInt64.ofNat (late value count).card
  dist : stats.reorderDist.toNat = lateDistance value count
  lost : stats.pktsLost.toNat + (records value count).card = bound value count

theorem fresh_tracks (value : Nat → Nat) : Tracks value 0 {} where
  expected := rfl
  processed := rfl
  reordered := rfl
  dist := rfl
  lost := rfl

theorem ofNat_succ (count : Nat) : UInt64.ofNat (count + 1) = UInt64.ofNat count + 1 := by
  rw [UInt64.ofNat_add]
  rfl

theorem toNat_add_one {word : UInt64} (room : word.toNat < 2 ^ 64 - 1) : (word + 1).toNat = word.toNat + 1 := by
  rw [UInt64.toNat_add, UInt64.toNat_one]
  omega

theorem toNat_max (left right : UInt64) : (max left right).toNat = max left.toNat right.toNat := by
  change (if left ≤ right then right else left).toNat = _
  split
  next below => rw [Nat.max_eq_right (UInt64.le_iff_toNat_le.mp below)]
  next above =>
    rw [UInt64.le_iff_toNat_le] at above
    rw [Nat.max_eq_left (by omega)]

variable {value : Nat → Nat} {count : Nat} {stats : ReorderStats} {pktSeqno : UInt64}

theorem submitSample_behind (stats : ReorderStats) (behind : pktSeqno < stats.expectedSeqno) :
    (stats.submitSample pktSeqno).1 =
      { stats with
        pktsProcessed := stats.pktsProcessed + 1
        pktsReordered := stats.pktsReordered + 1
        reorderDist := max stats.reorderDist (stats.expectedSeqno - pktSeqno) } := by
  have different : pktSeqno ≠ stats.expectedSeqno := UInt64.ne_of_lt behind
  have below : ¬ stats.expectedSeqno < pktSeqno := UInt64.lt_asymm behind
  simp [ReorderStats.submitSample, different, below]

theorem submitSample_notBehind (stats : ReorderStats) (ahead : stats.expectedSeqno ≤ pktSeqno) :
    (stats.submitSample pktSeqno).1 =
      { stats with
        pktsProcessed := stats.pktsProcessed + 1
        pktsLost := stats.pktsLost + (pktSeqno - stats.expectedSeqno)
        expectedSeqno := pktSeqno + 1 } := by
  by_cases same : pktSeqno = stats.expectedSeqno
  · rw [same, submitSample_expected]
    simp
  · rw [submitSample_ahead stats pktSeqno (UInt64.lt_of_le_of_ne ahead (Ne.symm same))]

theorem submitSample_tracks (tracks : Tracks value count stats) (arrives : pktSeqno.toNat = value count)
    (bounded : value count < 2 ^ 64 - 1) : Tracks value (count + 1) (stats.submitSample pktSeqno).1 := by
  have expected := tracks.expected
  have lost := tracks.lost
  by_cases behind : pktSeqno < stats.expectedSeqno
  · have below := UInt64.lt_iff_toNat_lt.mp behind
    have isLate : Late value count := by
      rw [late_iff_lt_bound]
      omega
    have bounds : bound value (count + 1) = bound value count := by
      rw [bound_succ]
      omega
    rw [submitSample_behind stats behind]
    constructor
    case expected => rw [bounds]; exact expected
    case processed => rw [tracks.processed, ofNat_succ]
    case reordered => rw [card_late_succ, if_pos isLate, tracks.reordered, ofNat_succ]
    case dist =>
      rw [lateDistance_succ, if_pos isLate, toNat_max, tracks.dist, UInt64.toNat_sub_of_le _ _ (UInt64.le_of_lt behind),
        expected, arrives]
    case lost => rw [card_records_succ, if_pos isLate, bounds]; exact lost
  · have ahead := UInt64.not_lt.mp behind
    have above := UInt64.le_iff_toNat_le.mp ahead
    have isRecord : ¬ Late value count := by
      rw [late_iff_lt_bound]
      omega
    have bounds : bound value (count + 1) = value count + 1 := by
      rw [bound_succ]
      omega
    rw [submitSample_notBehind stats ahead]
    constructor
    case expected => rw [bounds, toNat_add_one (by omega), arrives]
    case processed => rw [tracks.processed, ofNat_succ]
    case reordered => rw [card_late_succ, if_neg isRecord]; exact tracks.reordered
    case dist => rw [lateDistance_succ, if_neg isRecord]; exact tracks.dist
    case lost =>
      rw [card_records_succ, if_neg isRecord, bounds, UInt64.toNat_add, UInt64.toNat_sub_of_le _ _ ahead,
        Nat.mod_eq_of_lt (by omega)]
      omega

theorem run_snoc (stats : ReorderStats) (seqnos : List UInt64) (pktSeqno : UInt64) :
    (stats.run (seqnos ++ [pktSeqno])).1 = ((stats.run seqnos).1.submitSample pktSeqno).1 := by
  induction seqnos generalizing stats with
  | nil => rfl
  | cons head rest ih => exact ih _

theorem run_tracks (seqnos : List UInt64) (bounded : ∀ pktSeqno ∈ seqnos, pktSeqno.toNat < 2 ^ 64 - 1)
    (count : Nat) (inside : count ≤ seqnos.length) :
    Tracks (arrival seqnos) count (ReorderStats.run {} (seqnos.take count)).1 := by
  induction count with
  | zero => exact fresh_tracks _
  | succ count ih =>
      have present : count < seqnos.length := inside
      have arrives := (arrival_eq seqnos present).symm
      rw [List.take_add_one, List.getElem?_eq_getElem present, Option.toList_some, run_snoc]
      apply submitSample_tracks (ih (by omega)) arrives
      rw [← arrives]
      exact bounded _ (List.getElem_mem _)

theorem run_tracks_all (seqnos : List UInt64) (bounded : ∀ pktSeqno ∈ seqnos, pktSeqno.toNat < 2 ^ 64 - 1) :
    Tracks (arrival seqnos) seqnos.length (ReorderStats.run {} seqnos).1 := by
  have tracks := run_tracks seqnos bounded seqnos.length le_rfl
  rwa [List.take_length] at tracks

theorem tracker_is_running_maximum (seqnos : List UInt64)
    (bounded : ∀ pktSeqno ∈ seqnos, pktSeqno.toNat < 2 ^ 64 - 1) :
    let stats := (ReorderStats.run {} seqnos).1
    let reordered := (Finset.range seqnos.length).filter fun index =>
      ∃ earlier < index, arrival seqnos index ≤ arrival seqnos earlier
    stats.expectedSeqno.toNat = (Finset.range seqnos.length).sup (fun index => arrival seqnos index + 1) ∧
    stats.pktsProcessed = UInt64.ofNat seqnos.length ∧
    stats.pktsReordered = UInt64.ofNat reordered.card ∧
    stats.reorderDist.toNat = reordered.sup (fun index =>
      (Finset.range index).sup (fun earlier => arrival seqnos earlier + 1) - arrival seqnos index) ∧
    stats.pktsLost.toNat + (seqnos.length - reordered.card) = stats.expectedSeqno.toNat := by
  intro stats reordered
  have tracks := run_tracks_all seqnos bounded
  have parts : reordered.card + (records (arrival seqnos) seqnos.length).card = seqnos.length :=
    card_late_add_card_records (arrival seqnos) seqnos.length
  refine ⟨tracks.expected, tracks.processed, tracks.reordered, tracks.dist, ?_⟩
  have lost : stats.pktsLost.toNat + (records (arrival seqnos) seqnos.length).card = stats.expectedSeqno.toNat :=
    tracks.lost.trans tracks.expected.symm
  omega

theorem tracker_is_running_maximum_duplicate :
    (ReorderStats.run {} [2, 0, 2]).1.pktsReordered = UInt64.ofNat
      ((Finset.range 3).filter fun index =>
        ∃ earlier < index, arrival [2, 0, 2] index ≤ arrival [2, 0, 2] earlier).card :=
  (tracker_is_running_maximum [2, 0, 2] (by simp)).2.2.1

def neverReceived (seqnos : List UInt64) (expectedSeqno : UInt64) : Finset Nat :=
  (Finset.range expectedSeqno.toNat).filter fun seqno => UInt64.ofNat seqno ∉ seqnos

/-- A packet behind a later one is a duplicate: no packet comes late for the first time. -/
def OnlyDuplicatesLate (seqnos : List UInt64) : Prop :=
  ∀ index < seqnos.length, (∃ earlier < index, arrival seqnos index < arrival seqnos earlier) →
    ∃ earlier < index, arrival seqnos earlier = arrival seqnos index

theorem arrival_mem_iff (seqnos : List UInt64) {seqno : Nat} (small : seqno < 2 ^ 64) :
    UInt64.ofNat seqno ∈ seqnos ↔ ∃ index < seqnos.length, arrival seqnos index = seqno := by
  rw [List.mem_iff_getElem]
  constructor
  · rintro ⟨index, inside, same⟩
    refine ⟨index, inside, ?_⟩
    rw [arrival_eq seqnos inside, same, UInt64.toNat_ofNat']
    omega
  · rintro ⟨index, inside, same⟩
    refine ⟨index, inside, ?_⟩
    rw [arrival_eq seqnos inside] at same
    rw [← same, UInt64.ofNat_toNat]

theorem neverReceived_eq_missing {seqnos : List UInt64} (tracks : Tracks (arrival seqnos) seqnos.length stats) :
    neverReceived seqnos stats.expectedSeqno = missing (arrival seqnos) seqnos.length := by
  ext seqno
  rw [neverReceived, missing, Finset.mem_filter, Finset.mem_sdiff, Finset.mem_range, Finset.mem_range,
    ← tracks.expected]
  apply and_congr_right
  intro below
  have small := below.trans stats.expectedSeqno.toNat_lt
  simp [arrival_mem_iff seqnos small]

theorem onlyDuplicatesLate_iff (seqnos : List UInt64) :
    OnlyDuplicatesLate seqnos ↔ ∀ index < seqnos.length, Late (arrival seqnos) index →
      ∃ earlier < index, arrival seqnos earlier = arrival seqnos index := by
  constructor
  · rintro duplicates index inside ⟨earlier, before, above⟩
    rcases Nat.eq_or_lt_of_le above with same | strictly
    · exact ⟨earlier, before, same.symm⟩
    · exact duplicates index inside ⟨earlier, before, strictly⟩
  · rintro duplicates index inside ⟨earlier, before, above⟩
    exact duplicates index inside ⟨earlier, before, above.le⟩

theorem lost_eq_neverReceived_iff (seqnos : List UInt64)
    (bounded : ∀ pktSeqno ∈ seqnos, pktSeqno.toNat < 2 ^ 64 - 1) :
    (ReorderStats.run {} seqnos).1.pktsLost.toNat =
        (neverReceived seqnos (ReorderStats.run {} seqnos).1.expectedSeqno).card ↔
      OnlyDuplicatesLate seqnos := by
  have tracks := run_tracks_all seqnos bounded
  have lost := tracks.lost
  have missed := card_missing (arrival seqnos) seqnos.length
  rw [neverReceived_eq_missing tracks, onlyDuplicatesLate_iff, ← card_records_eq_iff]
  omega

theorem lost_eq_neverReceived_iff_gap :
    (ReorderStats.run {} [0, 3, 3, 0]).1.pktsLost.toNat =
      (neverReceived [0, 3, 3, 0] (ReorderStats.run {} [0, 3, 3, 0]).1.expectedSeqno).card :=
  (lost_eq_neverReceived_iff [0, 3, 3, 0] (by simp)).mpr (by unfold OnlyDuplicatesLate; decide)

-- Packet 0 comes after packet 1: both were received, and one is reported lost.
theorem late_packet_reported_lost :
    ¬ ((ReorderStats.run {} [1, 0]).1.pktsLost.toNat =
      (neverReceived [1, 0] (ReorderStats.run {} [1, 0]).1.expectedSeqno).card) := by
  decide

end XTransmit.Metrics
