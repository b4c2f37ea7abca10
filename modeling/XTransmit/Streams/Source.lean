import XTransmit.Metrics.Reception
import XTransmit.Pacing.CsvPacer
import XTransmit.Streams.Generate

set_option autoImplicit false

namespace XTransmit.Streams

open Metrics Pacing

inductive Playback where
  | unused
  | missing
  | file (contents : List UInt8)

structure SourceConfig extends GenerateConfig where
  sendrate : Int32 := 0
  enableMetrics : Bool := false
  spinWait : Bool := false
  playbackCsv : Playback := .unused

inductive RatePacer where
  | absent
  | rate (run : Pacing.Run)
  | csv (pacer : CsvPacer)

-- What one pass sees of the outside: `rewindAt` is the clock that a file which begins again reads.
structure SourcePass where
  forceBreak : Bool := false
  call : Pacing.Call := ⟨[], 0⟩
  rewindAt : Int := 0
  checkedAt : Int := 0
  clocks : ClockReadings := ⟨0, 0⟩
  written : Bool := true
  tnow : Int := 0

def SourcePass.round (pass : SourcePass) : Round where
  forceBreak := pass.forceBreak
  checkedAt := pass.checkedAt
  written := pass.written
  tnow := pass.tnow

-- `broken`: a wait has loaded the break flag as true.
structure Source where
  startTime : Int
  loop : GenerateLoop
  pacer : RatePacer
  generator : Generator
  messageToSend : List UInt8
  sent : List (List UInt8) := []
  ended : Bool := false
  broken : Bool := false

structure StartTimes where
  startTime : Int
  statTime : Int
  pacerTime : Int

def RatePacer.create (config : SourceConfig) (pacerTime : Int) : Option RatePacer :=
  if config.sendrate ≠ 0 then
    if config.messageSize = 0 then none
    else some (.rate (.begin config.spinWait (calcMsgIntervalUs config.sendrate config.messageSize) pacerTime))
  else
    match config.playbackCsv with
    | .unused => some .absent
    | .missing => none
    | .file contents => some (.csv (CsvPacer.create contents pacerTime))

def Source.begin (config : SourceConfig) (times : StartTimes) : Option Source :=
  if config.messageSize.toInt < 0 then none
  else (RatePacer.create config times.pacerTime).map fun pacer => {
    startTime := times.startTime
    loop := { statTime := times.statTime }
    pacer := pacer
    generator := { enableMetrics := config.enableMetrics }
    messageToSend := iota 0 config.messageSize.toInt.toNat }

def RatePacer.wait (stod : Stod) (pass : SourcePass) : RatePacer → Option RatePacer
  | .absent => some .absent
  | .rate run => (Pacing.call run pass.call).map .rate
  | .csv pacer => (pacer.wait stod ⟨pass.rewindAt, pass.call.polls⟩).map .csv

-- `none` where the behaviour is undefined, an exception of `stod` leaves the loop, or the loop is over.
def sourceStep (md5 : Md5) (stod : Stod) (config : SourceConfig) (source : Source) (pass : SourcePass) : Option Source :=
  if source.ended then none
  else if !config.continues source.loop.i pass.round then some { source with ended := true }
  else do
    let pacer ← source.pacer.wait stod pass
    let source := { source with pacer := pacer, broken := source.broken || pass.call.polls.any (·.forceBreak) }
    if config.expired source.startTime pass.round then return { source with ended := true }
    let (generator, message) ← generatePayload md5 pass.clocks source.generator source.messageToSend
    let source := { source with generator := generator, messageToSend := message }
    if !pass.written then return { source with ended := true }
    let loop ← config.logRate source.loop pass.tnow
    let i ← intExpr (loop.i + 1)
    return { source with loop := { loop with i := i }, sent := source.sent ++ [message] }

section Steps

variable {md5 : Md5} {stod : Stod} {config : SourceConfig} {source next : Source} {pass : SourcePass}

structure Wrote (md5 : Md5) (stod : Stod) (config : SourceConfig) (source : Source) (pass : SourcePass) (pacer : RatePacer)
    (generator : Generator) (message : List UInt8) (loop : GenerateLoop) : Prop where
  continues : config.continues source.loop.i pass.round = true
  waited : source.pacer.wait stod pass = some pacer
  timely : config.expired source.startTime pass.round = false
  generated : generatePayload md5 pass.clocks source.generator source.messageToSend = some (generator, message)
  written : pass.round.written = true
  logged : config.logRate source.loop pass.tnow = some loop
  counted : intExpr (loop.i + 1) = some (loop.i + 1)

def Source.after (source : Source) (pass : SourcePass) (pacer : RatePacer) (generator : Generator) (message : List UInt8)
    (loop : GenerateLoop) : Source :=
  { source with
    pacer := pacer
    broken := source.broken || pass.call.polls.any (·.forceBreak)
    generator := generator
    messageToSend := message
    loop := { loop with i := loop.i + 1 }
    sent := source.sent ++ [message] }

inductive SourceMove (md5 : Md5) (stod : Stod) (config : SourceConfig) (source : Source) (pass : SourcePass)
    (next : Source) : Prop
  | stops (past : ends config.toGenerateConfig source.startTime source.loop.i pass.round)
      (ended : next.ended = true) (startTime : next.startTime = source.startTime) (sent : next.sent = source.sent)
      (loop : next.loop = source.loop) (broken : source.broken = true → next.broken = true)
  | writes (pacer : RatePacer) (generator : Generator) (message : List UInt8) (loop : GenerateLoop)
      (wrote : Wrote md5 stod config source pass pacer generator message loop)
      (same : next = source.after pass pacer generator message loop)

theorem sourceStep_move (taken : sourceStep md5 stod config source pass = some next) :
    source.ended = false ∧ SourceMove md5 stod config source pass next := by
  unfold sourceStep at taken
  split at taken
  next => cases taken
  next running =>
    refine ⟨by simpa using running, ?_⟩
    split at taken
    next past =>
      cases taken
      exact .stops (by simp [ends, past]) rfl rfl rfl rfl id
    next continues =>
      obtain ⟨pacer, waited, taken⟩ := Option.bind_eq_some_iff.mp taken
      dsimp only at taken
      split at taken
      next late =>
        cases taken
        exact .stops (by simp [ends, late]) rfl rfl rfl rfl (by simp +contextual)
      next timely =>
        obtain ⟨⟨generator, message⟩, generated, taken⟩ := Option.bind_eq_some_iff.mp taken
        dsimp only at taken
        split at taken
        next refused =>
          cases taken
          exact .stops (by simp [ends, SourcePass.round, refused]) rfl rfl rfl rfl (by simp +contextual)
        next written =>
          obtain ⟨loop, logged, taken⟩ := Option.bind_eq_some_iff.mp taken
          obtain ⟨i, advance, taken⟩ := Option.bind_eq_some_iff.mp taken
          obtain ⟨rfl, -⟩ := intExpr_eq_some advance
          cases taken
          exact .writes pacer generator message loop ⟨by simpa using continues, waited, by simpa using timely, generated,
            by simpa [SourcePass.round] using written, logged, advance⟩ rfl

theorem logRate_i {config : GenerateConfig} {loop logged : GenerateLoop} {tnow : Int}
    (rated : config.logRate loop tnow = some logged) : logged.i = loop.i := by
  unfold GenerateConfig.logRate at rated
  split at rated
  next =>
    obtain ⟨n, -, rated⟩ := Option.bind_eq_some_iff.mp rated
    obtain ⟨octets, -, rated⟩ := Option.bind_eq_some_iff.mp rated
    obtain ⟨bits, -, rated⟩ := Option.bind_eq_some_iff.mp rated
    dsimp only at rated
    split at rated <;> cases rated
    rfl
  next =>
    cases rated
    rfl

theorem Wrote.goes_on {pacer : RatePacer} {generator : Generator} {message : List UInt8} {loop : GenerateLoop}
    (wrote : Wrote md5 stod config source pass pacer generator message loop) :
    ¬ends config.toGenerateConfig source.startTime source.loop.i pass.round := by
  simp [ends, wrote.continues, wrote.timely, wrote.written]

theorem run_refines_loop (passes : List SourcePass) {final : Source} (running : source.ended = false)
    (ran : Transition.run (sourceStep md5 stod config) source passes = some final) :
    config.run source.startTime source.loop (passes.map SourcePass.round) = some final.loop := by
  induction passes generalizing source with
  | nil =>
      cases ran
      rfl
  | cons pass later ih =>
      obtain ⟨next, taken, continued⟩ := Option.bind_eq_some_iff.mp ran
      obtain ⟨-, move⟩ := sourceStep_move taken
      cases move with
      | stops past ended startTime sent loop broken =>
          rw [List.map_cons, run_ends past, ← loop]
          cases later with
          | nil =>
              cases continued
              rfl
          | cons other rest => simp [Transition.run, sourceStep, ended] at continued
      | writes pacer generator message loop wrote same =>
          subst same
          rw [List.map_cons, run_goes_on wrote.goes_on]
          change (config.logRate source.loop pass.tnow).bind _ = _
          rw [wrote.logged, Option.bind_some, wrote.counted, Option.bind_some]
          exact @ih (source.after pass pacer generator message loop) running continued

end Steps

section Messages

variable {md5 : Md5} {stod : Stod} {config : SourceConfig} {source next : Source} {pass : SourcePass}

theorem generatePayload_next {now : ClockReadings} {generator later : Generator} {payload made : List UInt8}
    (enabled : generator.enableMetrics = true)
    (produced : generatePayload md5 now generator payload = some (later, made)) : later = generator.next := by
  rw [generatePayload_eq_some md5 now generator enabled payload (generatePayload_length enabled produced)] at produced
  exact (congrArg Prod.fst (Option.some.inj produced)).symm

theorem generateAll_concat {generator later : Generator} {requests : List PayloadRequest} {payloads : List (List UInt8)}
    {request : PayloadRequest} {made : List UInt8} (enabled : generator.enableMetrics = true)
    (produced : generateAll md5 generator requests = some payloads)
    (last : generatePayload md5 request.now (generator.advance requests.length) request.payload = some (later, made)) :
    generateAll md5 generator (requests ++ [request]) = some (payloads ++ [made]) := by
  induction requests generalizing generator payloads with
  | nil =>
      cases produced
      rw [List.length_nil, advance_zero] at last
      simp [generateAll, last]
  | cons head rest ih =>
      obtain ⟨⟨_, first⟩, here, remaining⟩ := Option.bind_eq_some_iff.mp produced
      obtain ⟨others, there, same⟩ := Option.bind_eq_some_iff.mp remaining
      cases same
      cases generatePayload_next enabled here
      have more := @ih generator.next others enabled there (by rwa [advance_next])
      simp [generateAll, here, more]

theorem advance_succ (generator : Generator) (count : Nat) :
    generator.advance (count + 1) = (generator.advance count).next := by
  simp only [Generator.advance, Generator.next, UInt64.ofNat_add, ← UInt64.add_assoc]
  rfl

structure Numbered (md5 : Md5) (config : SourceConfig) (source : Source) : Prop where
  counted : source.loop.i = source.sent.length
  bounded : source.sent.length ≤ 2147483647
  limited : 0 ≤ config.messageLimit → (source.sent.length : Int) ≤ config.messageLimit
  generated : config.enableMetrics = true → ∃ requests, requests.length = source.sent.length ∧
    generateAll md5 freshGenerator requests = some source.sent
  generator : config.enableMetrics = true → source.ended = false →
    source.generator = freshGenerator.advance source.sent.length

theorem begin_numbered {times : StartTimes} (begun : Source.begin config times = some source) :
    Numbered md5 config source := by
  unfold Source.begin at begun
  split at begun
  next => cases begun
  next =>
    obtain ⟨pacer, -, rfl⟩ := Option.map_eq_some_iff.mp begun
    refine ⟨rfl, by simp, by simp, fun _ => ⟨[], rfl, rfl⟩, fun enabled _ => ?_⟩
    rw [List.length_nil, advance_zero, freshGenerator, enabled]

theorem Numbered.step (numbered : Numbered md5 config source) (taken : sourceStep md5 stod config source pass = some next) :
    Numbered md5 config next := by
  obtain ⟨running, move⟩ := sourceStep_move taken
  cases move with
  | stops past ended startTime sent loop broken =>
      obtain ⟨counted, bounded, limited, generated, -⟩ := numbered
      refine ⟨by rwa [loop, sent], by rwa [sent], by rwa [sent], by rwa [sent], fun _ running => ?_⟩
      rw [ended] at running
      cases running
  | writes pacer generator message loop wrote same =>
      subst same
      have index : loop.i = source.sent.length := (logRate_i wrote.logged).trans numbered.counted
      have high := (intExpr_eq_some wrote.counted).2
      have length : (source.sent ++ [message]).length = source.sent.length + 1 := by simp
      have made : config.enableMetrics = true → ∃ requests, requests.length = source.sent.length ∧
          generateAll md5 freshGenerator requests = some source.sent ∧
          generatePayload md5 pass.clocks (freshGenerator.advance requests.length) source.messageToSend =
            some (generator, message) := by
        intro enabled
        obtain ⟨requests, same, produced⟩ := numbered.generated enabled
        exact ⟨requests, same, produced, by rw [same, ← numbered.generator enabled running]; exact wrote.generated⟩
      constructor
      · simp only [Source.after, index, length]
        omega
      · simp only [Source.after, length]
        omega
      · intro limit
        have continues := wrote.continues
        simp only [GenerateConfig.continues, numbered.counted, Bool.and_eq_true, Bool.or_eq_true, decide_eq_true_eq]
          at continues
        simp only [Source.after, length]
        omega
      · intro enabled
        obtain ⟨requests, same, produced, last⟩ := made enabled
        exact ⟨requests ++ [⟨pass.clocks, source.messageToSend⟩], by simp [Source.after, same],
          generateAll_concat rfl produced last⟩
      · intro enabled _
        obtain ⟨requests, same, produced, last⟩ := made enabled
        simp only [Source.after, length]
        rw [generatePayload_next rfl last, same, advance_succ]

theorem numbered_of_reachable {times : StartTimes} {begun : Source} {allowed : Source → SourcePass → Prop}
    (start : Source.begin config times = some begun)
    (reached : Transition.Reachable (sourceStep md5 stod config) allowed begun source) : Numbered md5 config source :=
  reached.invariant (Numbered md5 config) (begin_numbered start) fun _ _ _ numbered _ taken => numbered.step taken

end Messages

/-- A source as its loop has left it, or leaves it one day. -/
def RunOf (md5 : Md5) (stod : Stod) (config : SourceConfig) (source : Source) : Prop :=
  ∃ times begun, Source.begin config times = some begun ∧
    Transition.Reachable (sourceStep md5 stod config) Transition.Unrestricted begun source

structure RowCounts (sent : List (List UInt8)) (state : Reception) (row : MetricsRow) (pipe : ReceivePipe)
    (operation : Operation) (validator : Validator) : Prop where
  found : state.pipes[row.pipe]? = some pipe
  text : operation.text validator = some row.text
  counts : validator.Counts pipe.connId (row.packets pipe)
  bounded : validator.reorder.pktsProcessed.toNat + validator.reorder.pktsLost.toNat ≤ sent.length
  complete : row.packets pipe = sent → validator.reorder.pktsProcessed.toNat = sent.length ∧ validator.reorder.pktsLost = 0

theorem rowCounts_of_reachable {md5 : Md5} {receiver : ReceiveConfig} {config : SourceConfig} {sources : Nat → Source}
    {state : Reception} (metrics : config.enableMetrics = true) (numbered : ∀ index, Numbered md5 config (sources index))
    (reached : Transition.Reachable (receptionStep md5 receiver) (InOrder fun index => (sources index).sent) {} state) :
    ∀ row ∈ state.out, ∃ pipe operation validator, RowCounts (sources row.pipe).sent state row pipe operation validator := by
  intro row member
  obtain ⟨requests, length, produced⟩ := (numbered row.pipe).generated metrics
  obtain ⟨-, rows, -⟩ := attributed_of_reachable reached
  obtain ⟨pipe, found, operation, validator, -, counted, text⟩ := rows row member
  obtain ⟨whole, received⟩ := fed_of_reachable reached row.pipe pipe found
  have seen : (row.packets pipe).Sublist (sources row.pipe).sent :=
    ((List.take_sublist _ _).filterMap _).trans received
  have few : requests.length ≤ 2 ^ 31 := by
    have bounded := (numbered row.pipe).bounded
    omega
  obtain ⟨counts, upTo⟩ := counts_of_run few produced
    (fun operation member => whole operation (List.mem_of_mem_take member)) seen counted
  have processed := counts.processed
  have lost := counts.lost
  rw [← MetricsRow.packets] at upTo processed lost counts
  refine ⟨pipe, operation, validator, found, text, counts, by omega, fun everything => ?_⟩
  rw [everything] at processed lost upTo
  refine ⟨processed, UInt64.toNat_inj.mp ?_⟩
  rw [UInt64.toNat_zero]
  omega

theorem RunOf.numbered {md5 : Md5} {stod : Stod} {config : SourceConfig} {source : Source}
    (run : RunOf md5 stod config source) : Numbered md5 config source := by
  obtain ⟨times, begun, start, ran⟩ := run
  exact numbered_of_reachable start ran

theorem generated_streams_are_counted (md5 : Md5) (stod : Stod) (sender : SourceConfig) (receiver : ReceiveConfig)
    (metrics : sender.enableMetrics = true) (sources : Nat → Source)
    (runs : ∀ index, RunOf md5 stod sender (sources index)) (state : Reception)
    (reached : Transition.Reachable (receptionStep md5 receiver) (InOrder fun index => (sources index).sent) {} state) :
    ∀ row ∈ state.out, ∃ (pipe : ReceivePipe) (operation : Operation) (validator : Validator),
      state.pipes[row.pipe]? = some pipe ∧ operation.text validator = some row.text ∧
      validator.Counts pipe.connId (row.packets pipe) ∧
      validator.reorder.pktsProcessed.toNat + validator.reorder.pktsLost.toNat ≤ (sources row.pipe).sent.length ∧
      (0 ≤ sender.messageLimit → ((sources row.pipe).sent.length : Int) ≤ sender.messageLimit) ∧
      (row.packets pipe = (sources row.pipe).sent →
        validator.reorder.pktsProcessed.toNat = (sources row.pipe).sent.length ∧ validator.reorder.pktsLost = 0) := by
  intro row member
  have numbered := fun index => (runs index).numbered
  obtain ⟨pipe, operation, validator, found, text, counts, bounded, complete⟩ :=
    rowCounts_of_reachable metrics numbered reached row member
  exact ⟨pipe, operation, validator, found, text, counts, bounded, (numbered row.pipe).limited, complete⟩

def twoMessages : SourceConfig := { numMessages := 2, messageSize := 56, enableMetrics := true }

def twoMessagesSource : Source :=
  ((Source.begin twoMessages ⟨0, 0, 0⟩).bind
    (Transition.run (sourceStep firstPacketsMd5 digitSeconds twoMessages) · [{}, {}, {}])).getD
    { startTime := 0, loop := { statTime := 0 }, pacer := .absent, generator := freshGenerator, messageToSend := [] }

theorem twoMessagesSource_run : RunOf firstPacketsMd5 digitSeconds twoMessages twoMessagesSource := by
  have begins : ((Source.begin twoMessages ⟨0, 0, 0⟩).bind
      (Transition.run (sourceStep firstPacketsMd5 digitSeconds twoMessages) · [{}, {}, {}])).isSome := by
    decide +kernel
  obtain ⟨final, same⟩ := Option.isSome_iff_exists.mp begins
  have named : twoMessagesSource = final := by rw [twoMessagesSource, same, Option.getD_some]
  obtain ⟨begun, start, ran⟩ := Option.bind_eq_some_iff.mp same
  exact ⟨_, begun, start, named ▸ Transition.Reachable.initial.run _
    (Transition.allowedRun_of_forall (fun _ _ _ => trivial) _) ran⟩

def oneReception (first second : List UInt8) : List ReceptionEvent :=
  [.connect 7, .addValidator 0, .launch 0, .read 0 ⟨0, 0⟩ first, .read 0 ⟨0, 0⟩ second, .checkStop, .beginPass,
    .printNext none, .endPass]

theorem generated_streams_are_counted_two :
    ∃ state, Transition.Reachable (receptionStep firstPacketsMd5 {}) (InOrder fun _ => twoMessagesSource.sent) {} state ∧
      state.out.length = 1 ∧ ∀ row ∈ state.out, ∃ (operation : Operation) (validator : Validator),
        operation.text validator = some row.text ∧
        validator.reorder.pktsProcessed.toNat + validator.reorder.pktsLost.toNat ≤ 2 := by
  have length : twoMessagesSource.sent.length = 2 := by decide +kernel
  let events := oneReception (twoMessagesSource.sent.getD 0 []) (twoMessagesSource.sent.getD 1 [])
  have printed : (Transition.run (receptionStep firstPacketsMd5 {}) {} events).map (·.out.length) = some 1 := by
    decide +kernel
  obtain ⟨state, ran, single⟩ := Option.map_eq_some_iff.mp printed
  have reached : Transition.Reachable (receptionStep firstPacketsMd5 {}) (InOrder fun _ => twoMessagesSource.sent) {}
      state := Transition.Reachable.initial.run events (by decide +kernel) ran
  refine ⟨state, reached, single, fun row member => ?_⟩
  obtain ⟨pipe, operation, validator, -, text, -, bounded, -⟩ := generated_streams_are_counted firstPacketsMd5
    digitSeconds twoMessages {} rfl (fun _ => twoMessagesSource) (fun _ => twoMessagesSource_run) state reached row member
  exact ⟨operation, validator, text, length ▸ bounded⟩

section Rate

variable {md5 : Md5} {stod : Stod} {config : SourceConfig} {source next : Source} {pass : SourcePass}

-- The clock does not go back, a sleep does not end early, and a raised flag stays raised.
def Timely (source : Source) (pass : SourcePass) : Prop :=
  (source.broken = true → pass.forceBreak = true) ∧ pass.call.returned ≤ pass.checkedAt ∧
    match source.pacer with
    | .rate run => (∀ poll ∈ pass.call.polls, poll.forceBreak = false) → Undisturbed run pass.call
    | .absent | .csv _ => True

instance decidableTimely (source : Source) (pass : SourcePass) : Decidable (Timely source pass) :=
  have : Decidable (match source.pacer with
      | .rate run => (∀ poll ∈ pass.call.polls, poll.forceBreak = false) → Undisturbed run pass.call
      | .absent | .csv _ => True) :=
    match source.pacer with
    | .rate _ => inferInstanceAs (Decidable (_ → _))
    | .absent | .csv _ => .isTrue trivial
  inferInstanceAs (Decidable (_ ∧ _ ∧ _))

structure Paced (config : SourceConfig) (times : StartTimes) (source : Source) : Prop where
  startTime : source.startTime = times.startTime
  schedule : source.broken = false → source.ended = false →
    ∃ run, source.pacer = .rate run ∧ run.returns.length = source.sent.length ∧
      OnSchedule (calcMsgIntervalUs config.sendrate config.messageSize) times.pacerTime run
  bounded : (source.sent.length : Int) * calcMsgIntervalUs config.sendrate config.messageSize ≤
    1000000 * config.duration.toInt +
      if source.broken then calcMsgIntervalUs config.sendrate config.messageSize else 0

theorem begin_paced {times : StartTimes} (paced : config.sendrate ≠ 0) (limited : 0 < config.duration.toInt)
    (begun : Source.begin config times = some source) : Paced config times source := by
  unfold Source.begin at begun
  split at begun
  next => cases begun
  next =>
    obtain ⟨pacer, created, rfl⟩ := Option.map_eq_some_iff.mp begun
    rw [RatePacer.create, if_pos paced] at created
    split at created <;> cases created
    refine ⟨rfl, fun _ _ => ⟨_, rfl, rfl, begin_onSchedule _ _ _⟩, ?_⟩
    simp only [List.length_nil, Nat.cast_zero, Int.zero_mul, Bool.false_eq_true, if_false]
    omega

theorem onTime_of_wait {interval start : Int} {run later : Pacing.Run} (schedule : OnSchedule interval start run)
    (undisturbed : Undisturbed run pass.call) (waited : Pacing.call run pass.call = some later) :
    OnSchedule interval start later ∧ later.returns.length = run.returns.length + 1 ∧
      start + 1000 * ((run.returns.length + 1) * interval) ≤ pass.call.returned := by
  have after := schedule.call undisturbed waited
  obtain ⟨pacer, -, rfl⟩ := Option.map_eq_some_iff.mp waited
  exact ⟨after, by simp, after.returned run.returns.length pass.call.returned (by simp)⟩

theorem Paced.step {times : StartTimes} (limited : 0 < config.duration.toInt)
    (interval : 0 < calcMsgIntervalUs config.sendrate config.messageSize) (ordered : times.startTime ≤ times.pacerTime)
    (paced : Paced config times source) (timely : Timely source pass)
    (taken : sourceStep md5 stod config source pass = some next) : Paced config times next := by
  obtain ⟨running, move⟩ := sourceStep_move taken
  obtain ⟨sticky, checked, clock⟩ := timely
  cases move with
  | stops past ended startTime sent loop broken =>
      refine ⟨startTime.trans paced.startTime, fun _ running => ?_, ?_⟩
      · rw [ended] at running
        cases running
      · have bounded := paced.bounded
        rw [sent]
        split at bounded
        next before => rwa [if_pos (broken before)]
        next => split <;> omega
  | writes pacer generator message loop wrote same =>
      subst same
      have unbroken : source.broken = false := by
        have continues := wrote.continues
        cases before : source.broken with
        | false => rfl
        | true => simp [GenerateConfig.continues, SourcePass.round, sticky before] at continues
      obtain ⟨run, here, counted, schedule⟩ := paced.schedule unbroken running
      have waited := wrote.waited
      rw [here] at waited clock
      obtain ⟨later, called, rfl⟩ := Option.map_eq_some_iff.mp waited
      by_cases unforced : ∀ poll ∈ pass.call.polls, poll.forceBreak = false
      next =>
        obtain ⟨onSchedule, length, onTime⟩ := onTime_of_wait schedule (clock unforced) called
        have silent : (pass.call.polls.any (·.forceBreak)) = false := by simpa using unforced
        refine ⟨paced.startTime, fun _ _ => ⟨later, rfl, by simp [Source.after, length, counted], onSchedule⟩, ?_⟩
        have within := wrote.timely
        simp only [GenerateConfig.expired, limited, decide_true, Bool.true_and, decide_eq_false_iff_not, not_lt,
          paced.startTime] at within
        simp only [Source.after, unbroken, silent, Bool.or_false, Bool.false_eq_true, if_false, List.length_append,
          List.length_singleton, Nat.cast_add, Nat.cast_one]
        have total : 1000 * ((source.sent.length + 1 : Int) * calcMsgIntervalUs config.sendrate config.messageSize) ≤
            1000000000 * config.duration.toInt := by
          rw [← counted]
          have round : pass.round.checkedAt = pass.checkedAt := rfl
          linarith
        omega
      next =>
        have raised : (pass.call.polls.any (·.forceBreak)) = true := by simpa using unforced
        have bounded := paced.bounded
        simp only [unbroken, Bool.false_eq_true, if_false] at bounded
        refine ⟨paced.startTime, ?_, ?_⟩
        · simp [Source.after, raised]
        · simp only [Source.after, raised, Bool.or_true, if_true, List.length_append, List.length_singleton,
            Nat.cast_add, Nat.cast_one]
          linarith

end Rate

theorem paced_stream_bounded_by_duration (md5 : Md5) (stod : Stod) (config : SourceConfig)
    (paced : config.sendrate ≠ 0) (limited : 0 < config.duration.toInt)
    (interval : 0 < calcMsgIntervalUs config.sendrate config.messageSize) (times : StartTimes)
    (ordered : times.startTime ≤ times.pacerTime) (begun source : Source)
    (start : Source.begin config times = some begun)
    (reached : Transition.Reachable (sourceStep md5 stod config) Timely begun source) :
    (source.sent.length : Int) ≤
      1000000 * config.duration.toInt / calcMsgIntervalUs config.sendrate config.messageSize +
        if source.broken then 1 else 0 := by
  have final : Paced config times source := reached.invariant (Paced config times) (begin_paced paced limited start)
    fun _ _ _ paced timely taken => paced.step limited interval ordered timely taken
  have bounded := final.bounded
  split at bounded
  next broken =>
    rw [if_pos broken, ← sub_le_iff_le_add, Int.le_ediv_iff_mul_le interval, Int.sub_mul]
    omega
  next unbroken =>
    rw [if_neg unbroken, Int.add_zero, Int.le_ediv_iff_mul_le interval]
    omega

def pacedMessages : SourceConfig :=
  { duration := 1, messageSize := 100, sendrate := 1600, spinWait := true }

def cutShort : List SourcePass :=
  [{ call := ⟨[⟨500000000, false⟩], 500000000⟩, checkedAt := 500000000, tnow := 500000000 },
    { call := ⟨[⟨1000000000, false⟩], 1000000000⟩, checkedAt := 1000000000, tnow := 1000000000 },
    { call := ⟨[⟨1000000000, true⟩], 1000000000⟩, checkedAt := 1000000000, tnow := 1000000000 }]

theorem paced_stream_bounded_by_duration_cut_short :
    ∃ begun source, Source.begin pacedMessages ⟨0, 0, 0⟩ = some begun ∧
      Transition.Reachable (sourceStep zeroRunMd5 digitSeconds pacedMessages) Timely begun source ∧
      source.sent.length = 3 ∧ (source.sent.length : Int) ≤
        1000000 * pacedMessages.duration.toInt / calcMsgIntervalUs pacedMessages.sendrate pacedMessages.messageSize +
          if source.broken then 1 else 0 := by
  have begins : (Source.begin pacedMessages ⟨0, 0, 0⟩).isSome := by decide
  obtain ⟨begun, start⟩ := Option.isSome_iff_exists.mp begins
  have ends : ((Source.begin pacedMessages ⟨0, 0, 0⟩).bind
      (Transition.run (sourceStep zeroRunMd5 digitSeconds pacedMessages) · cutShort)).map (·.sent.length) = some 3 := by
    decide
  have allowed : ∀ begun ∈ Source.begin pacedMessages ⟨0, 0, 0⟩,
      Transition.AllowedRun (sourceStep zeroRunMd5 digitSeconds pacedMessages) Timely begun cutShort := by decide
  obtain ⟨source, ran, length⟩ := Option.map_eq_some_iff.mp ends
  rw [start, Option.bind_some] at ran
  have reached : Transition.Reachable (sourceStep zeroRunMd5 digitSeconds pacedMessages) Timely begun source :=
    Transition.Reachable.initial.run cutShort (allowed begun start) ran
  exact ⟨begun, source, start, reached, length, paced_stream_bounded_by_duration zeroRunMd5 digitSeconds pacedMessages
    (by decide) (by decide) (by decide) ⟨0, 0, 0⟩ (by decide) begun source start reached⟩

end XTransmit.Streams
