import XTransmit.Metrics.Corruption
import XTransmit.Metrics.JitterRecursion

set_option autoImplicit false

namespace XTransmit.Metrics

section Period

def DelayFactor.submit (factor : DelayFactor) (sample : Sample) : DelayFactor :=
  factor.submitSample sample.timestamp sample.arrivalTime

def DelayFactor.period (before : DelayFactor) (samples : List Sample) : DelayFactor :=
  samples.foldl DelayFactor.submit before.reset

-- Of all packets of the period, the reference packet with them.
def transitTimes : List Sample → List Int
  | [] => []
  | first :: later => (first :: later).map fun sample => relativeTransitTime first.delay sample.delay

structure IsSpread (before : DelayFactor) (samples : List Sample) : Prop where
  spread : ∀ highest lowest, (transitTimes samples).max? = some highest → (transitTimes samples).min? = some lowest →
    (before.period samples).getDelayFactor.toInt = highest - lowest
  offset : ∀ shift, (before.period (samples.map (Sample.shift shift))).getDelayFactor =
    (before.period samples).getDelayFactor
  bounds : ∀ left ∈ transitTimes samples, ∀ right ∈ transitTimes samples,
    |left - right| ≤ (before.period samples).getDelayFactor.toInt

theorem relativeTransitTime_small (previous delay : Int64) : Small (relativeTransitTime previous delay) :=
  sampleDelay_small previous delay

theorem relativeTransitTime_self (delay : Int64) : relativeTransitTime delay delay = 0 := by
  have none : delay - delay = 0 := by grind
  rw [relativeTransitTime, none]
  rfl

theorem submit_later (factor : DelayFactor) (measuring : factor.isReferencePacket = false) (later : List Sample) :
    let after := later.foldl DelayFactor.submit factor
    let times := later.map fun sample => relativeTransitTime factor.referenceDelay sample.delay
    after.isReferencePacket = false ∧ after.referenceDelay = factor.referenceDelay ∧
      after.relativeTransitTimeMax.toInt = times.foldl max factor.relativeTransitTimeMax.toInt ∧
      after.relativeTransitTimeMin.toInt = times.foldl min factor.relativeTransitTimeMin.toInt := by
  induction later generalizing factor with
  | nil => exact ⟨measuring, rfl, rfl, rfl⟩
  | cons sample later ih =>
      have sampled : factor.submit sample =
          { factor with
            relativeTransitTimeMax := max factor.relativeTransitTimeMax
              (durationCastMicroseconds (sample.delay - factor.referenceDelay))
            relativeTransitTimeMin := min factor.relativeTransitTimeMin
              (durationCastMicroseconds (sample.delay - factor.referenceDelay)) } := by
        simp only [DelayFactor.submit, DelayFactor.submitSample, measuring, Bool.false_eq_true, if_false]
        rfl
      have rest := ih (factor.submit sample) (by rw [sampled]; exact measuring)
      simp only [sampled, toInt_max, toInt_min] at rest
      simp only [List.foldl_cons, List.map_cons, sampled]
      exact rest

variable (before : DelayFactor) (first : Sample)

theorem period_extremes (later : List Sample) :
    let times := later.map fun sample => relativeTransitTime first.delay sample.delay
    (before.period (first :: later)).relativeTransitTimeMax.toInt = times.foldl max Int64.minValue.toInt ∧
      (before.period (first :: later)).relativeTransitTimeMin.toInt = times.foldl min Int64.maxValue.toInt :=
  (submit_later (before.reset.submit first) rfl later).2.2

-- From the second packet on the extremes are those of the packets after the first.
theorem period_spread (second : Sample) (rest : List Sample) :
    ∃ highest lowest,
      ((second :: rest).map fun sample => relativeTransitTime first.delay sample.delay).max? = some highest ∧
      ((second :: rest).map fun sample => relativeTransitTime first.delay sample.delay).min? = some lowest ∧
      (before.period (first :: second :: rest)).getDelayFactor.toInt = highest - lowest := by
  obtain ⟨maximum, minimum⟩ := period_extremes before first (second :: rest)
  generalize named : (second :: rest).map (fun sample => relativeTransitTime first.delay sample.delay) = times at *
  have started : times ≠ [] := by simp [← named]
  have small : ∀ time ∈ times, Small time := by
    rw [← named]
    intro time member
    obtain ⟨sample, -, rfl⟩ := List.mem_map.mp member
    exact relativeTransitTime_small _ _
  obtain ⟨highest, greatest⟩ := Option.ne_none_iff_exists'.mp (mt List.max?_eq_none_iff.mp started)
  obtain ⟨lowest, least⟩ := Option.ne_none_iff_exists'.mp (mt List.min?_eq_none_iff.mp started)
  have upper := small highest (List.max?_mem greatest)
  have lower := small lowest (List.min?_mem least)
  refine ⟨highest, lowest, greatest, least, ?_⟩
  rw [foldl_max_eq (fun time member => ?_) greatest] at maximum
  · rw [foldl_min_eq (fun time member => ?_) least] at minimum
    · unfold Small at upper lower
      rw [DelayFactor.getDelayFactor, Int64.toInt_sub, maximum, minimum, Int.bmod_eq_of_le (by omega) (by omega)]
    · have bounded := small time member
      unfold Small at bounded
      rw [Int64.toInt_maxValue]
      omega
  · have bounded := small time member
    unfold Small at bounded
    rw [Int64.toInt_minValue]
    omega

theorem period_shift (second : Sample) (rest : List Sample) (shift : Int64) :
    (before.period ((first :: second :: rest).map (Sample.shift shift))).getDelayFactor =
      (before.period (first :: second :: rest)).getDelayFactor := by
  obtain ⟨highest, lowest, greatest, least, plain⟩ := period_spread before first second rest
  obtain ⟨highest', lowest', greatest', least', shifted⟩ :=
    period_spread before (first.shift shift) (second.shift shift) (rest.map (Sample.shift shift))
  simp only [← List.map_cons, List.map_map, Function.comp_def, shift_delay, relativeTransitTime_shift] at greatest' least'
  cases greatest.symm.trans greatest'
  cases least.symm.trans least'
  exact Int64.toInt_inj.mp (shifted.trans plain.symm)

end Period

/-- The reference packet is neither the earliest nor the latest of its period: the packets after it have a
transit time that is not above, and one that is not below its own. -/
def ReferenceInside (first : Sample) (later : List Sample) : Prop :=
  (∃ sample ∈ later, relativeTransitTime first.delay sample.delay ≤ 0) ∧
    ∃ sample ∈ later, 0 ≤ relativeTransitTime first.delay sample.delay

theorem transitTimes_cons (first : Sample) (later : List Sample) :
    transitTimes (first :: later) = 0 :: later.map fun sample => relativeTransitTime first.delay sample.delay := by
  rw [transitTimes, List.map_cons, relativeTransitTime_self]

theorem referenceInside_iff {first : Sample} {later : List Sample} {highest lowest : Int}
    (greatest : (later.map fun sample => relativeTransitTime first.delay sample.delay).max? = some highest)
    (least : (later.map fun sample => relativeTransitTime first.delay sample.delay).min? = some lowest) :
    ReferenceInside first later ↔ lowest ≤ 0 ∧ 0 ≤ highest := by
  obtain ⟨reached, below⟩ := List.max?_eq_some_iff.mp greatest
  obtain ⟨found, above⟩ := List.min?_eq_some_iff.mp least
  constructor
  · rintro ⟨⟨early, member, notAbove⟩, late, member', notBelow⟩
    exact ⟨Int.le_trans (above _ (List.mem_map_of_mem member)) notAbove,
      Int.le_trans notBelow (below _ (List.mem_map_of_mem member'))⟩
  · rintro ⟨notAbove, notBelow⟩
    obtain ⟨early, member, rfl⟩ := List.mem_map.mp found
    obtain ⟨late, member', rfl⟩ := List.mem_map.mp reached
    exact ⟨⟨early, member, notAbove⟩, late, member', notBelow⟩

theorem isSpread_of_extremes {before : DelayFactor} {first second : Sample} {rest : List Sample} {highest lowest : Int}
    (reached : highest ∈ transitTimes (first :: second :: rest)) (found : lowest ∈ transitTimes (first :: second :: rest))
    (bounded : ∀ time ∈ transitTimes (first :: second :: rest), lowest ≤ time ∧ time ≤ highest)
    (factor : (before.period (first :: second :: rest)).getDelayFactor.toInt = highest - lowest) :
    IsSpread before (first :: second :: rest) := by
  constructor
  case spread =>
    intro maximum minimum isMaximum isMinimum
    obtain ⟨member, upper⟩ := List.max?_eq_some_iff.mp isMaximum
    obtain ⟨member', lower⟩ := List.min?_eq_some_iff.mp isMinimum
    have top := upper highest reached
    have bottom := lower lowest found
    have atMost := (bounded maximum member).2
    have atLeast := (bounded minimum member').1
    rw [factor]
    omega
  case offset => exact period_shift before first second rest
  case bounds =>
    intro left member right member'
    have near := bounded left member
    have far := bounded right member'
    rw [factor, abs_le]
    omega

theorem delay_factor_is_spread_iff (before : DelayFactor) (first second : Sample) (rest : List Sample) :
    IsSpread before (first :: second :: rest) ↔ ReferenceInside first (second :: rest) := by
  obtain ⟨highest, lowest, greatest, least, factor⟩ := period_spread before first second rest
  obtain ⟨reached, below⟩ := List.max?_eq_some_iff.mp greatest
  obtain ⟨found, above⟩ := List.min?_eq_some_iff.mp least
  have reference : 0 ∈ transitTimes (first :: second :: rest) := by simp [transitTimes_cons]
  have latest : highest ∈ transitTimes (first :: second :: rest) := by
    rw [transitTimes_cons]
    exact List.mem_cons_of_mem _ reached
  have earliest : lowest ∈ transitTimes (first :: second :: rest) := by
    rw [transitTimes_cons]
    exact List.mem_cons_of_mem _ found
  rw [referenceInside_iff greatest least]
  constructor
  · intro isSpread
    have late := isSpread.bounds highest latest 0 reference
    have early := isSpread.bounds 0 reference lowest earliest
    rw [factor, abs_le] at late early
    omega
  · rintro ⟨notAbove, notBelow⟩
    refine isSpread_of_extremes latest earliest ?_ factor
    rw [transitTimes_cons, List.forall_mem_cons]
    exact ⟨⟨notAbove, notBelow⟩, fun time member => ⟨above time member, below time member⟩⟩

-- The later of two packets is a microsecond slower: the reference packet is left out.
theorem reference_packet_left_out :
    ¬ IsSpread {} [⟨0, 0⟩, ⟨0, 1000⟩] ∧
      (DelayFactor.period {} [⟨0, 0⟩, ⟨0, 1000⟩]).getDelayFactor = 0 ∧
      transitTimes [⟨0, 0⟩, ⟨0, 1000⟩] = [0, 1] := by
  refine ⟨?_, by decide, by decide⟩
  intro isSpread
  have bound := isSpread.bounds 1 (by decide) 0 (by decide)
  revert bound
  decide

section Reports

def DelayFactor.WellDefined (factor : DelayFactor) : Prop :=
  0 ≤ factor.relativeTransitTimeMax.toInt - factor.relativeTransitTimeMin.toInt ∧
    factor.relativeTransitTimeMax.toInt - factor.relativeTransitTimeMin.toInt < 2 ^ 63

def Operation.valid (md5 : Md5) : Operation → Bool
  | .packet _ buffer size => validatePacketChecksum md5 buffer size = some true
  | _ => false

def Operation.count (md5 : Md5) (packets : Nat) (operation : Operation) : Nat :=
  if operation.isReport then 0 else if operation.valid md5 then packets + 1 else packets

def periodPackets (md5 : Md5) (operations : List Operation) : Nat := operations.foldl (Operation.count md5) 0

structure Measures (packets : Nat) (factor : DelayFactor) : Prop where
  reference : factor.isReferencePacket = decide (packets = 0)
  sentinels : packets < 2 →
    factor.relativeTransitTimeMax = Int64.minValue ∧ factor.relativeTransitTimeMin = Int64.maxValue
  extremes : 2 ≤ packets → Small factor.relativeTransitTimeMax.toInt ∧ Small factor.relativeTransitTimeMin.toInt ∧
    factor.relativeTransitTimeMin.toInt ≤ factor.relativeTransitTimeMax.toInt

theorem reset_measures : Measures 0 {} := ⟨rfl, fun _ => ⟨rfl, rfl⟩, fun two => absurd two (by decide)⟩

theorem Measures.submit {packets : Nat} {factor : DelayFactor} (measures : Measures packets factor) (sample : Sample) :
    Measures (packets + 1) (factor.submit sample) := by
  cases first : factor.isReferencePacket with
  | true =>
      have none : packets = 0 := by simpa [first] using measures.reference
      subst none
      simp only [DelayFactor.submit, DelayFactor.submitSample, first, if_true]
      exact ⟨rfl, fun _ => measures.sentinels (by decide), fun two => absurd two (by decide)⟩
  | false =>
      have some : packets ≠ 0 := by simpa [first] using measures.reference
      have small := relativeTransitTime_small factor.referenceDelay sample.delay
      obtain ⟨-, -, maximum, minimum⟩ := submit_later factor first [sample]
      simp only [List.foldl_cons, List.foldl_nil, List.map_cons, List.map_nil] at maximum minimum
      constructor
      case reference => simp [DelayFactor.submit, DelayFactor.submitSample, first]
      case sentinels => exact fun few => absurd few (by omega)
      case extremes =>
        intro _
        rw [maximum, minimum]
        unfold Small at small ⊢
        by_cases second : packets = 1
        · -- The sentinels give way to the second packet.
          obtain ⟨top, bottom⟩ := measures.sentinels (by omega)
          rw [top, bottom, Int64.toInt_minValue, Int64.toInt_maxValue]
          omega
        · have extremes := measures.extremes (by omega)
          unfold Small at extremes
          omega

theorem Measures.wellDefined_iff {packets : Nat} {factor : DelayFactor} (measures : Measures packets factor) :
    factor.WellDefined ↔ 2 ≤ packets := by
  unfold DelayFactor.WellDefined
  by_cases enough : 2 ≤ packets
  · have extremes := measures.extremes enough
    unfold Small at extremes
    omega
  · obtain ⟨top, bottom⟩ := measures.sentinels (by omega)
    rw [top, bottom, Int64.toInt_minValue, Int64.toInt_maxValue]
    omega

theorem readPacketFields_match {md5 : Md5} {buffer : List UInt8} {size : Nat} {fields : PacketFields}
    (read : readPacketFields md5 buffer size = some fields) :
    validatePacketChecksum md5 buffer size = some fields.checksumMatch := by
  simp only [readPacketFields, Option.bind_eq_bind, Option.bind_eq_some_iff] at read
  obtain ⟨_, -, _, -, _, -, _, -, checksumMatch, checked, same⟩ := read
  cases same
  exact checked

theorem Measures.apply {md5 : Md5} {validator next : Validator} {operation : Operation} {packets : Nat}
    (measures : Measures packets validator.delayFactor) (applied : validator.apply md5 operation = some next) :
    Measures (operation.count md5 packets) next.delayFactor := by
  cases operation with
  | packet now buffer size =>
      obtain ⟨fields, read, rfl⟩ := Option.map_eq_some_iff.mp applied
      have checked := readPacketFields_match read
      cases matched : fields.checksumMatch with
      | true =>
          rw [matched] at checked
          have sampled := measures.submit ⟨fields.stdTimestamp, now.steady⟩
          simp only [DelayFactor.submit] at sampled
          simpa [Operation.count, Operation.isReport, Operation.valid, checked, Validator.submitFields, matched] using
            sampled
      | false =>
          rw [matched] at checked
          simpa [Operation.count, Operation.isReport, Operation.valid, checked, Validator.submitFields, matched] using
            measures
  | stats =>
      cases applied
      exact reset_measures
  | statsCsv timepoint =>
      cases applied
      exact reset_measures

theorem Measures.run {md5 : Md5} {operations : List Operation} {validator final : Validator} {packets : Nat}
    (measures : Measures packets validator.delayFactor) (ran : validator.run md5 operations = some final) :
    Measures (operations.foldl (Operation.count md5) packets) final.delayFactor := by
  induction operations generalizing validator packets with
  | nil =>
      cases ran
      exact measures
  | cons operation rest ih =>
      obtain ⟨next, applied, continued⟩ := Option.bind_eq_some_iff.mp ran
      exact ih (measures.apply applied) continued

theorem run_split {md5 : Md5} {earlier later : List Operation} {validator final : Validator}
    (ran : validator.run md5 (earlier ++ later) = some final) : ∃ state, validator.run md5 earlier = some state := by
  induction earlier generalizing validator with
  | nil => exact ⟨validator, rfl⟩
  | cons operation rest ih =>
      obtain ⟨next, applied, continued⟩ := Option.bind_eq_some_iff.mp ran
      obtain ⟨state, reached⟩ := ih continued
      exact ⟨state, by rw [Validator.run, applied]; exact reached⟩

theorem reported_delay_factors_iff (md5 : Md5) (id : Int32) (operations : List Operation) (final : Validator)
    (ran : Validator.run md5 { id } operations = some final) :
    (∀ earlier report later state, operations = earlier ++ report :: later → report.isReport = true →
      Validator.run md5 { id } earlier = some state → state.delayFactor.WellDefined) ↔
    ∀ earlier report later, operations = earlier ++ report :: later → report.isReport = true →
      2 ≤ periodPackets md5 earlier := by
  have measured {earlier : List Operation} {state : Validator}
      (reached : Validator.run md5 { id } earlier = some state) :
      state.delayFactor.WellDefined ↔ 2 ≤ periodPackets md5 earlier :=
    Measures.wellDefined_iff (reset_measures.run reached)
  constructor
  · intro defined earlier report later split reporting
    obtain ⟨state, reached⟩ := run_split (split ▸ ran)
    exact (measured reached).mp (defined earlier report later state split reporting reached)
  · intro enough earlier report later state split reporting reached
    exact (measured reached).mpr (enough earlier report later split reporting)

def zeroPacket : Operation := .packet ⟨0, 0⟩ (zeroRunPayload 0) 56

theorem zeroPacket_count (packets : Nat) : zeroPacket.count zeroRunMd5 packets = packets + 1 := by
  have valid : zeroPacket.valid zeroRunMd5 = true := by decide +kernel
  rw [Operation.count, valid]
  rfl

theorem reported_delay_factors_iff_two_packets :
    ∃ state, Validator.run zeroRunMd5 { id := 0 } [zeroPacket, zeroPacket] = some state ∧
      state.delayFactor.WellDefined := by
  obtain ⟨state, reached, -⟩ := run_balanced zeroRunMd5 [zeroPacket, zeroPacket]
    (by simp [zeroPacket, Operation.Sized, zeroRunPayload_fields 0]) { id := 0 } rfl
  obtain ⟨final, ran, -⟩ := run_balanced zeroRunMd5 [zeroPacket, zeroPacket, .stats]
    (by simp [zeroPacket, Operation.Sized, zeroRunPayload_fields 0]) { id := 0 } rfl
  refine ⟨state, reached, (reported_delay_factors_iff zeroRunMd5 0 _ final ran).mpr ?_ [zeroPacket, zeroPacket] .stats []
    state rfl rfl reached⟩
  intro earlier report later split reporting
  rcases earlier with _ | ⟨first, _ | ⟨second, _ | ⟨third, others⟩⟩⟩
  · cases split
    cases reporting
  · cases split
    cases reporting
  · cases split
    simp [periodPackets, zeroPacket_count]
  · simp at split

theorem report_without_spread_overflows :
    (∃ state, Validator.run zeroRunMd5 { id := 0 } [] = some state ∧ ¬ state.delayFactor.WellDefined) ∧
      ∃ state, Validator.run zeroRunMd5 { id := 0 } [zeroPacket] = some state ∧ ¬ state.delayFactor.WellDefined := by
  obtain ⟨state, ran, -⟩ := run_balanced zeroRunMd5 [zeroPacket]
    (by simp [zeroPacket, Operation.Sized, zeroRunPayload_fields 0]) { id := 0 } rfl
  have measured : Measures (periodPackets zeroRunMd5 [zeroPacket]) state.delayFactor := reset_measures.run ran
  refine ⟨⟨_, rfl, ?_⟩, state, ran, ?_⟩
  · rw [reset_measures.wellDefined_iff]
    decide
  · rw [measured.wellDefined_iff]
    simp [periodPackets, zeroPacket_count]

end Reports

end XTransmit.Metrics
