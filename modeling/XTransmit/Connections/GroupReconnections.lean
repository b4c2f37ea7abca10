import XTransmit.Connections.GroupLifetime

set_option autoImplicit false

namespace XTransmit.Connections

open Transition

variable {Sockaddr : Type}

def GroupTask.isConnfn : GroupTask Sockaddr → Bool
  | .connfn _ _ => true
  | .printMemberSocket _ => false

def Heard.reportsMember (heard : Heard Sockaddr) : Bool :=
  match heard.callback with
  | .listen _ => false
  | .connect _ error token => error ≠ 0 && heard.targets.any fun target => target.token = token

theorem task_connfn (heard : Heard Sockaddr) :
    (heard.task.map GroupTask.isConnfn).getD false = heard.reportsMember ∧
      ∀ socket target, heard.task = some (.connfn socket target) →
        socket = heard.bindSocket ∧ target = heard.leftover ∧ heard.reportsMember = true := by
  unfold Heard.task Heard.request Heard.reportsMember
  cases heard.callback with
  | listen sock => simp [GroupTask.isConnfn]
  | connect sock error token =>
      by_cases success : error = 0
      next => simp [success]
      next =>
        by_cases known : heard.targets.any fun target => target.token = token
        next =>
          refine ⟨by simp [success, known, GroupTask.isConnfn], fun socket target asked => ?_⟩
          simp only [success, known, if_true, if_false, Option.map_some, Option.some.injEq, GroupTask.connfn.injEq] at asked
          exact ⟨asked.1.symm, asked.2.symm, by simp [success, known]⟩
        next => simp [success, known]

theorem countP_filterMap_task (list : List (Heard Sockaddr)) :
    (list.filterMap Heard.task).countP GroupTask.isConnfn = list.countP Heard.reportsMember := by
  rw [List.countP_filterMap]
  exact List.countP_congr fun heard _ => by rw [(task_connfn heard).1]

theorem failed_members_are_retried_once (groups : Groups Sockaddr)
    (reached : Reachable Groups.step Unrestricted {} groups) (address : Address) (group : SrtGroup Sockaddr)
    (here : groups.heap address = some group) :
    group.tasks.countP GroupTask.isConnfn = group.heard.countP Heard.reportsMember ∧
      ∀ socket target, .connfn socket target ∈ group.tasks → socket = group.bindSocket ∧
        ∃ heard ∈ group.heard, heard.reportsMember = true ∧ heard.leftover = target := by
  have sound := (sheltered_of_reachable reached).sound address group here
  constructor
  next => rw [sound.accounted.countP_eq, countP_filterMap_task]
  next =>
    intro socket target member
    obtain ⟨heard, listed, asked⟩ := List.mem_filterMap.mp (sound.accounted.mem_iff.mp member)
    obtain ⟨mine, copied, reported⟩ := (task_connfn heard).2 socket target asked
    exact ⟨mine.trans (sound.named heard listed), heard, listed, reported, copied.symm⟩

def knownAndUnknown : List (GroupsEvent Nat) :=
  stoppedUnderVisit ++ [.answer 0 target7, .leave, .enter 8 (.connect 42 1002 9), .answer 5 target7, .leave]

theorem failed_members_are_retried_once_known :
    ∃ (groups : Groups Nat) (group : SrtGroup Nat), Reachable Groups.step Unrestricted {} groups ∧
      groups.heap 8 = some group ∧ group.heard.length = 2 ∧ group.tasks = [.connfn 40 target7] ∧
      group.tasks.countP GroupTask.isConnfn = group.heard.countP Heard.reportsMember := by
  have heard : ((run Groups.step {} knownAndUnknown).bind fun groups => groups.heap 8).map (fun group =>
      (group.heard.length, group.tasks)) = some (2, [.connfn 40 target7]) := by decide
  obtain ⟨group, found, seen⟩ := Option.map_eq_some_iff.mp heard
  obtain ⟨groups, ran, here⟩ := Option.bind_eq_some_iff.mp found
  obtain ⟨two, one⟩ := Prod.mk.injEq _ _ _ _ ▸ seen
  have reached : Reachable Groups.step Unrestricted {} groups :=
    Reachable.initial.run knownAndUnknown (allowedRun_of_forall (fun _ _ _ => trivial) _) ran
  exact ⟨groups, group, reached, here, two, one, (failed_members_are_retried_once groups reached 8 group here).1⟩

-- The thread has been told to stop and is not inside a pass over its tasks.
structure SrtGroup.Resting (executed : List (Int × Task (GroupTask Sockaddr))) (group : SrtGroup Sockaddr) : Prop where
  closing : group.phase.isClosing = true
  done : group.timer.done = true
  resting : group.timer.position ≠ .managing
  executed : group.timer.executed = executed

section Resting

variable {executed : List (Int × Task (GroupTask Sockaddr))} {group later : SrtGroup Sockaddr}

theorem wake_managing {Time : Type} (position : TimerPosition Time) :
    position.wake = .managing ↔ position = .managing := by
  cases position <;> simp [TimerPosition.wake]

theorem SrtGroup.Resting.timed (rests : group.Resting executed) {action : TimerEvent Int (GroupTask Sockaddr)}
    {timer : Timer Int (GroupTask Sockaddr)} (taken : group.timer.step action = some timer) :
    SrtGroup.Resting executed { group with timer := timer } := by
  obtain ⟨closing, done, resting, same⟩ := rests
  cases action with
  | timer now =>
      cases threadStep_move taken with
      | continues here running => simp [done] at running
      | managed here => exact absurd here resting
      | ends here past same' | empty here none same' | filled here some same' | blocks here running none same'
        | passes here holds same' | reads here entry head same' | sleeps time here same'
        | wakes time woken here same' =>
          subst same'
          exact ⟨closing, done, by simp, same⟩
  | spurious =>
      cases taken
      exact ⟨closing, done, mt (wake_managing _).mp resting, same⟩
  | scheduleOn time f =>
      simp only [Timer.step] at taken
      split at taken <;> cases taken
      exact ⟨closing, done, mt (wake_managing _).mp resting, same⟩
  | stop =>
      cases taken
      exact ⟨closing, rfl, resting, same⟩
  | destroy =>
      simp only [Timer.step] at taken
      split at taken <;> cases taken
      exact ⟨closing, rfl, resting, same⟩
  | notify =>
      simp only [Timer.step] at taken
      split at taken <;> cases taken
      exact ⟨closing, done, mt (wake_managing _).mp resting, same⟩
  | join =>
      simp only [Timer.step] at taken
      split at taken <;> cases taken
      exact ⟨closing, done, resting, same⟩

theorem SrtGroup.Resting.own (rests : group.Resting executed) {action : GroupEvent Sockaddr}
    (move : OwnMove group action later) : later.Resting executed := by
  cases move with
  | assigned targets same =>
      subst same
      exact ⟨rests.closing, rests.done, rests.resting, rests.executed⟩
  | stopped here same =>
      subst same
      exact ⟨rfl, rfl, rests.resting, rests.executed⟩
  | released here same =>
      subst same
      exact ⟨rfl, rests.done, rests.resting, rests.executed⟩
  | timed action timer may taken same =>
      subst same
      exact rests.timed taken

theorem SrtGroup.Resting.answer (rests : group.Resting executed) {now : Int} {heard : Heard Sockaddr}
    (answer : Answer group now heard later) : later.Resting executed := by
  cases answer with
  | nothing quiet same =>
      subst same
      exact ⟨rests.closing, rests.done, rests.resting, rests.executed⟩
  | scheduled delay task asked outside same =>
      subst same
      exact ⟨rests.closing, rests.done, mt (wake_managing _).mp rests.resting, rests.executed⟩

variable {groups next : Groups Sockaddr} {event : GroupsEvent Sockaddr} {address : Address}

theorem resting_put {other : Address} {changed : SrtGroup Sockaddr}
    (rests : ∃ group, groups.heap address = some group ∧ group.Resting executed)
    (kept : ∀ group, groups.heap other = some group → group.Resting executed → address = other →
      changed.Resting executed) :
    ∃ group, (groups.put other changed).heap address = some group ∧ group.Resting executed := by
  obtain ⟨group, here, rests⟩ := rests
  rw [put_heap]
  split
  next same =>
    subst same
    exact ⟨changed, rfl, kept group here rests rfl⟩
  next => exact ⟨group, here, rests⟩

theorem resting_step (kept : event ≠ .free address) (sheltered : Sheltered groups)
    (rests : ∃ group, groups.heap address = some group ∧ group.Resting executed)
    (taken : groups.step event = some next) : ∃ group, next.heap address = some group ∧ group.Resting executed := by
  cases groups_move taken with
  | constructed other bindSocket targets fresh same =>
      subst same
      refine resting_put rests fun group here => ?_
      cases fresh.symm.trans here
  | owned other action group later here moved same =>
      subst same
      refine resting_put rests fun found there rests _ => ?_
      cases here.symm.trans there
      exact rests.own moved
  | added other group here phase outside same =>
      subst same
      refine resting_put rests fun found there rests _ => ?_
      cases here.symm.trans there
      have closing := rests.closing
      simp [phase, GroupPhase.isClosing] at closing
  | removed other group here phase unlocked same =>
      subst same
      refine resting_put rests fun found there rests _ => ?_
      cases here.symm.trans there
      exact ⟨rfl, rests.done, rests.resting, rests.executed⟩
  | freed other group named here joined same =>
      subst same
      obtain ⟨group, here, rests⟩ := rests
      have different : address ≠ other := by
        rintro rfl
        exact kept named
      exact ⟨group, by simpa [Function.update_apply, different] using here, rests⟩
  | rejected same | entered visit found same | left same =>
      subst same
      exact rests
  | answered visit now leftover inside outcome =>
      obtain ⟨group, here, isOpen, outside⟩ := sheltered.host inside
      obtain ⟨later, result, answer⟩ := onCallback_eq now visit.callback leftover isOpen outside
      rw [here, Option.bind_some, result] at outcome
      subst outcome
      refine resting_put rests fun found there rests _ => ?_
      cases here.symm.trans there
      exact rests.answer answer

end Resting

theorem nothing_runs_behind_the_stop (groups : Groups Sockaddr) (reached : Reachable Groups.step Unrestricted {} groups)
    (address : Address) (group : SrtGroup Sockaddr) (here : groups.heap address = some group)
    (closing : group.phase.isClosing = true) (outside : group.timer.position ≠ .managing)
    (events : List (GroupsEvent Sockaddr)) (kept : .free address ∉ events) (final : Groups Sockaddr)
    (ran : run Groups.step groups events = some final) :
    ∃ later, final.heap address = some later ∧ later.timer.executed = group.timer.executed := by
  have sheltered := sheltered_of_reachable reached
  have done := (sheltered.sound address group here).done closing
  have rests : Sheltered final ∧ ∃ later, final.heap address = some later ∧ later.Resting group.timer.executed := by
    refine run_invariant events
      (fun groups => Sheltered groups ∧
        ∃ later, groups.heap address = some later ∧ later.Resting group.timer.executed) ?_
      ⟨sheltered, group, here, closing, done, outside, rfl⟩ ran
    rintro state event member next ⟨sheltered, rests⟩ taken
    exact ⟨sheltered.step taken, resting_step (fun same => kept (same ▸ member)) sheltered rests taken⟩
  obtain ⟨-, later, found, rests⟩ := rests
  exact ⟨later, found, rests.executed⟩

def restOfDestructor : List (GroupsEvent Nat) :=
  [.answer 0 target7, .leave, .remove 8, .own 8 .release, .own 8 (.timer (.timer 5000000))]

def managingAtStop : List (GroupsEvent Nat) :=
  [.construct 8 40 [{ srcaddr := 0, peeraddr := 1 }], .add 8, .own 8 (.assign 0 7), .enter 8 (.connect 41 1002 7),
    .answer 0 target7, .leave, .own 8 (.timer (.timer 0)), .own 8 .stop, .remove 8, .own 8 .release,
    .own 8 (.timer (.timer 5000000))]

-- Inside the pass the reconnection is made, with the identifier of a group that is closed.
theorem nothing_runs_behind_the_stop_or_one_pass :
    (∃ (groups final : Groups Nat) (later : SrtGroup Nat), Reachable Groups.step Unrestricted {} groups ∧
      run Groups.step groups restOfDestructor = some final ∧ final.heap 8 = some later ∧
      later.tasks = [.connfn 40 target7] ∧ later.timer.executed = []) ∧
    ((run Groups.step {} managingAtStop).bind fun groups => groups.heap 8).map (fun group =>
      (group.phase, group.timer.executed.map fun entry => entry.2.f)) = some (.released, [.connfn 40 target7]) := by
  refine ⟨?_, by decide⟩
  have stopped : ((run Groups.step {} stoppedUnderVisit).bind fun groups => groups.heap 8).map (fun group =>
      (group.phase.isClosing, group.timer.position, group.timer.executed.isEmpty)) = some (true, .condition, true) := by
    decide
  obtain ⟨group, found, seen⟩ := Option.map_eq_some_iff.mp stopped
  obtain ⟨groups, ran, here⟩ := Option.bind_eq_some_iff.mp found
  obtain ⟨closing, position, executed⟩ : group.phase.isClosing = true ∧ group.timer.position = .condition ∧
      group.timer.executed = [] := by simpa [List.isEmpty_iff] using seen
  have reached : Reachable Groups.step Unrestricted {} groups :=
    Reachable.initial.run stoppedUnderVisit (allowedRun_of_forall (fun _ _ _ => trivial) _) ran
  have ended : ((run Groups.step {} (stoppedUnderVisit ++ restOfDestructor)).bind fun groups => groups.heap 8).map
      (fun group => group.tasks) = some [.connfn 40 target7] := by decide
  rw [run_append, ran, Option.bind_some] at ended
  obtain ⟨later, found, tasks⟩ := Option.map_eq_some_iff.mp ended
  obtain ⟨final, continued, there⟩ := Option.bind_eq_some_iff.mp found
  obtain ⟨same, again, unchanged⟩ := nothing_runs_behind_the_stop groups reached 8 group here closing
    (by simp [position]) restOfDestructor (by decide) final continued
  cases there.symm.trans again
  exact ⟨groups, final, later, reached, continued, there, tasks, unchanged.trans executed⟩

end XTransmit.Connections
