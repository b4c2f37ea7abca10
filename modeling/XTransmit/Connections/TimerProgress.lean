import XTransmit.Connections.TimerLoop

set_option autoImplicit false

namespace XTransmit.Connections

open Transition

section Distances

variable {Time : Type}

def TimerPosition.deadline : TimerPosition Time → Option Time
  | .timedWait timeOfFirstTask | .timedBlocked timeOfFirstTask _ => some timeOfFirstTask
  | _ => none

def TimerPosition.toPass : TimerPosition Time → Nat
  | .ended => 0
  | .managing => 1
  | .condition => 2
  | .emptyWait | .emptyBlocked _ | .timedBlocked _ _ => 3
  | .timedWait _ => 4
  | .first => 5
  | .testing => 6

theorem wake_toPass (position : TimerPosition Time) :
    position.wake.toPass = position.toPass ∧ position.wake.deadline = position.deadline := by
  cases position <;> exact ⟨rfl, rfl⟩

theorem toPass_le (position : TimerPosition Time) : position.toPass ≤ 6 := by
  cases position <;> simp [TimerPosition.toPass]

def TimerPosition.toEnd : TimerPosition Time → Nat
  | .ended => 0
  | .condition => 1
  | .emptyWait | .emptyBlocked _ | .timedBlocked _ _ => 2
  | .timedWait _ => 3
  | .first => 4
  | .testing => 5
  | .managing => 6

theorem toEnd_le (position : TimerPosition Time) : position.toEnd ≤ 6 := by
  cases position <;> simp [TimerPosition.toEnd]

theorem toEnd_pos {position : TimerPosition Time} (goesOn : position ≠ .ended) : 0 < position.toEnd := by
  cases position <;> simp [TimerPosition.toEnd] at goesOn ⊢

end Distances

variable {Time Callable : Type} [LinearOrder Time]

section Progress

variable {timer next : Timer Time Callable} {event : TimerEvent Time Callable} {entry : Time × Task Callable}
  {latest : Time}

def TimerEvent.isTimer : TimerEvent Time Callable → Bool
  | .timer _ => true
  | _ => false

def TimerEvent.NotBefore (latest : Time) : TimerEvent Time Callable → Prop
  | .timer now => latest ≤ now
  | _ => True

def TimerEvent.goesOn : TimerEvent Time Callable → Bool
  | .stop | .destroy => false
  | _ => true

structure Due (entry : Time × Task Callable) (latest : Time) (timer : Timer Time Callable) : Prop where
  attentive : Attentive timer
  running : timer.done = false
  waiting : entry ∈ timer.pending
  due : entry.1 ≤ latest
  alarm : ∀ deadline ∈ timer.position.deadline, deadline ≤ latest

-- Only the wait without a timeout can keep the thread from its next step when the clock is late.
theorem threadStep_isSome {now : Time} (attentive : Attentive timer) (late : latest ≤ now)
    (goesOn : timer.position ≠ .ended) (awake : timer.position ≠ .emptyBlocked false)
    (alarm : ∀ deadline ∈ timer.position.deadline, deadline ≤ latest) : (timer.threadStep now).isSome := by
  unfold Timer.threadStep
  split
  next => rfl
  next => rfl
  next => rfl
  next => rfl
  next woken here =>
    cases woken with
    | false => exact absurd here awake
    | true => rfl
  next here => simpa [Option.isSome_map, List.isSome_head?] using attentive.first here
  next => rfl
  next timeOfFirstTask woken here =>
    have early := le_trans (alarm timeOfFirstTask (by simp [here, TimerPosition.deadline])) late
    simp [early]
  next here => exact absurd here goesOn

theorem Due.awake (due : Due entry latest timer) :
    timer.position ≠ .ended ∧ timer.position ≠ .emptyBlocked false := by
  constructor
  · intro here
    have past := due.attentive.ended here
    rw [due.running] at past
    cases past
  · intro here
    have waiting := due.waiting
    rw [(due.attentive.empty here).1] at waiting
    cases waiting

theorem Due.threadStep {now : Time} (due : Due entry latest timer) (late : latest ≤ now)
    (move : ThreadMove timer now next) :
    entry ∈ next.executed ∨ Due entry latest next ∧ next.position.toPass + 1 ≤ timer.position.toPass := by
  obtain ⟨attentive, running, waiting, early, alarm⟩ := due
  have after := attentive.threadStep move
  cases move with
  | ends here past same =>
      rw [running] at past
      cases past
  | empty here none same | blocks here _ none same =>
      rw [none] at waiting
      cases waiting
  | managed here same =>
      subst same
      exact .inl (List.mem_append_right _ ((mem_manageTasks waiting).1 (le_trans early late)))
  | continues here _ same | filled here _ same | wakes _ _ here same =>
      subst same
      exact .inr ⟨⟨after, running, waiting, early, by simp [TimerPosition.deadline]⟩, by simp [here, TimerPosition.toPass]⟩
  | passes here _ same =>
      subst same
      refine .inr ⟨⟨after, running, waiting, early, by simp [TimerPosition.deadline]⟩, ?_⟩
      rcases here with here | here <;> simp [here, TimerPosition.toPass]
  | reads here least head same =>
      subst same
      have first := le_trans (head_le head waiting) early
      exact .inr ⟨⟨after, running, waiting, early, by simpa [TimerPosition.deadline] using first⟩,
        by simp [here, TimerPosition.toPass]⟩
  | sleeps time here same =>
      subst same
      exact .inr ⟨⟨after, running, waiting, early, by simpa [here, TimerPosition.deadline] using alarm⟩,
        by simp [here, TimerPosition.toPass]⟩

theorem executed_threadStep {now : Time} (move : ThreadMove timer now next) : timer.executed <+: next.executed := by
  cases move with
  | managed _ same => exact same ▸ List.prefix_append _ _
  | ends _ _ same | continues _ _ same | empty _ _ same | filled _ _ same | blocks _ _ _ same | passes _ _ same
    | reads _ _ _ same | sleeps _ _ same | wakes _ _ _ same => exact same ▸ List.prefix_rfl

theorem executed_step (taken : timer.step event = some next) : timer.executed <+: next.executed := by
  cases event with
  | timer now => exact executed_threadStep (threadStep_move taken)
  | spurious | stop =>
      cases taken
      exact List.prefix_rfl
  | scheduleOn | destroy | notify | join =>
      simp only [Timer.step] at taken
      split at taken <;> cases taken
      exact List.prefix_rfl

theorem Due.step (due : Due entry latest timer) (late : event.NotBefore latest) (goesOn : event.goesOn = true)
    (taken : timer.step event = some next) :
    entry ∈ next.executed ∨
      Due entry latest next ∧ next.position.toPass + (if event.isTimer then 1 else 0) ≤ timer.position.toPass := by
  have attentive := due.attentive.step taken
  have closer := wake_toPass timer.position
  have outside : timer.destructor = .outside := by
    by_contra inside
    have past := due.attentive.destroyed inside
    rw [due.running] at past
    cases past
  cases event with
  | timer now => exact due.threadStep late (threadStep_move taken)
  | spurious =>
      cases taken
      exact .inr ⟨⟨attentive, due.running, due.waiting, due.due, closer.2 ▸ due.alarm⟩, Nat.le_of_eq closer.1⟩
  | scheduleOn time f =>
      rw [Timer.step, if_pos outside] at taken
      cases taken
      exact .inr ⟨⟨attentive, due.running, pending_scheduleOn.mpr (.inr due.waiting), due.due, closer.2 ▸ due.alarm⟩,
        Nat.le_of_eq closer.1⟩
  | stop | destroy => cases goesOn
  | notify | join =>
      rw [Timer.step, if_neg (by simp [outside])] at taken
      cases taken

theorem Due.toPass_pos (due : Due entry latest timer) : 0 < timer.position.toPass := by
  cases here : timer.position with
  | ended => exact absurd here due.awake.1
  | condition | managing | testing | emptyWait | emptyBlocked | first | timedWait | timedBlocked =>
      simp [TimerPosition.toPass]

end Progress

theorem due_task_runs_within_six_steps (timer : Timer Time Callable)
    (reached : Reachable Timer.step Unrestricted {} timer) (running : timer.done = false) (entry : Time × Task Callable)
    (waiting : entry ∈ timer.pending) (latest : Time) (due : entry.1 ≤ latest)
    (alarm : ∀ deadline ∈ timer.position.deadline, deadline ≤ latest) (events : List (TimerEvent Time Callable))
    (late : ∀ event ∈ events, event.NotBefore latest) (goesOn : ∀ event ∈ events, event.goesOn = true)
    (final : Timer Time Callable) (ran : run Timer.step timer events = some final) :
    entry ∈ final.executed ∨
      events.countP TimerEvent.isTimer < 6 ∧ ∀ now, latest ≤ now → (final.threadStep now).isSome := by
  have start : Due entry latest timer := ⟨attentive_of_reachable reached, running, waiting, due, alarm⟩
  rcases run_reaches events (fun timer => entry ∈ timer.executed) (Due entry latest) TimerEvent.isTimer
    (fun timer => timer.position.toPass) (fun _ _ _ _ ran taken => (executed_step taken).subset ran)
    (fun _ event member _ due taken => due.step (late event member) (goesOn event member) taken) start ran
    with executed | ⟨still, counted⟩
  · exact .inl executed
  · have most := toPass_le timer.position
    have left := still.toPass_pos
    exact .inr ⟨by omega, fun now later =>
      threadStep_isSome still.attentive later still.awake.1 still.awake.2 still.alarm⟩

def sixSteps : List (TimerEvent Nat Unit) :=
  .scheduleOn 200 () :: List.replicate 6 (.timer 100)

theorem due_task_runs_within_six_steps_window :
    ∃ timer final : Timer Nat Unit, Reachable Timer.step Unrestricted {} timer ∧
      run Timer.step timer sixSteps = some final ∧ (50, ⟨1, ()⟩) ∈ final.executed := by
  have asleep : (run Timer.step ({} : Timer Nat Unit) (intoTheWindow ++ sixSteps)).isSome := by decide
  obtain ⟨final, whole⟩ := Option.isSome_iff_exists.mp asleep
  rw [run_append] at whole
  obtain ⟨timer, ran, six⟩ := Option.bind_eq_some_iff.mp whole
  have seen : (run Timer.step ({} : Timer Nat Unit) intoTheWindow).map
      (fun timer => (timer.position, timer.done, timer.pending)) =
      some (.timedBlocked 100 false, false, [(50, ⟨1, ()⟩), (100, ⟨0, ()⟩)]) := by decide
  rw [ran, Option.map_some, Option.some.injEq, Prod.mk.injEq, Prod.mk.injEq] at seen
  obtain ⟨here, running, pending⟩ := seen
  have reached : Reachable Timer.step Unrestricted {} timer :=
    Reachable.initial.run intoTheWindow (allowedRun_of_forall (fun _ _ _ => trivial) _) ran
  refine ⟨timer, final, reached, six, ?_⟩
  have result := due_task_runs_within_six_steps timer reached running (50, ⟨1, ()⟩) (by simp [pending]) 100 (by decide)
    (by simp [here, TimerPosition.deadline]) sixSteps (by simp [sixSteps, TimerEvent.NotBefore])
    (by simp [sixSteps, TimerEvent.goesOn]) final six
  exact result.resolve_right fun few => absurd few.1 (by decide)

section Destruction

variable {timer next : Timer Time Callable} {event : TimerEvent Time Callable} {latest : Time}

structure Ending (latest : Time) (timer : Timer Time Callable) : Prop where
  attentive : Attentive timer
  joining : timer.destructor = .joining
  tasks : ∀ entry ∈ timer.pending, entry.1 ≤ latest
  alarm : ∀ deadline ∈ timer.position.deadline, deadline ≤ latest

theorem Ending.past (ending : Ending latest timer) : timer.done = true :=
  ending.attentive.destroyed (by simp [ending.joining])

theorem Ending.threadStep {now : Time} (ending : Ending latest timer) (move : ThreadMove timer now next) :
    Ending latest next ∧ next.position.toEnd + 1 ≤ timer.position.toEnd := by
  have past := ending.past
  obtain ⟨attentive, joining, tasks, alarm⟩ := ending
  have after := attentive.threadStep move
  cases move with
  | continues _ running _ | blocks _ running _ _ =>
      rw [past] at running
      cases running
  | managed here same =>
      subst same
      refine ⟨⟨after, joining, fun entry member => ?_, by simp [TimerPosition.deadline]⟩,
        by simp [here, TimerPosition.toEnd]⟩
      rw [Timer.pending, manageTasks_eq] at member
      exact tasks entry (List.mem_of_mem_drop member)
  | ends here _ same | empty here _ same | filled here _ same | wakes _ _ here same =>
      subst same
      exact ⟨⟨after, joining, tasks, by simp [TimerPosition.deadline]⟩, by simp [here, TimerPosition.toEnd]⟩
  | passes here _ same =>
      subst same
      refine ⟨⟨after, joining, tasks, by simp [TimerPosition.deadline]⟩, ?_⟩
      rcases here with here | here <;> simp [here, TimerPosition.toEnd]
  | reads here least head same =>
      subst same
      have first := tasks least (List.mem_of_head? head)
      exact ⟨⟨after, joining, tasks, by simpa [TimerPosition.deadline] using first⟩, by simp [here, TimerPosition.toEnd]⟩
  | sleeps time here same =>
      subst same
      exact ⟨⟨after, joining, tasks, by simpa [here, TimerPosition.deadline] using alarm⟩,
        by simp [here, TimerPosition.toEnd]⟩

theorem Ending.step (ending : Ending latest timer) (taken : timer.step event = some next)
    (waiting : event ≠ .join) :
    Ending latest next ∧ next.position.toEnd + (if event.isTimer then 1 else 0) ≤ timer.position.toEnd := by
  have attentive := ending.attentive.step taken
  cases event with
  | timer now => exact ending.threadStep (threadStep_move taken)
  | spurious =>
      cases taken
      have woken := wake_toPass timer.position
      refine ⟨⟨attentive, ending.joining, ending.tasks, woken.2 ▸ ending.alarm⟩, ?_⟩
      cases timer.position <;> simp [TimerPosition.wake, TimerPosition.toEnd, TimerEvent.isTimer]
  | stop =>
      cases taken
      exact ⟨⟨attentive, ending.joining, ending.tasks, ending.alarm⟩, Nat.le_refl _⟩
  | scheduleOn | destroy | notify =>
      simp [Timer.step, ending.joining] at taken
  | join => exact absurd rfl waiting

theorem Ending.closer (ending : Ending latest timer) (goesOn : timer.position ≠ .ended)
    (taken : timer.step event = some next) :
    next.position = .ended ∨ (Ending latest next ∧ next.position ≠ .ended) ∧
      next.position.toEnd + (if event.isTimer then 1 else 0) ≤ timer.position.toEnd := by
  have waiting : event ≠ .join := by
    rintro rfl
    simp [Timer.step, goesOn] at taken
  obtain ⟨still, closer⟩ := ending.step taken waiting
  by_cases ended : next.position = .ended
  next => exact .inl ended
  next => exact .inr ⟨⟨still, ended⟩, closer⟩

theorem ended_step (past : timer.position = .ended) (taken : timer.step event = some next) :
    next.position = .ended := by
  cases event with
  | timer now => simp [Timer.step, Timer.threadStep, past] at taken
  | spurious | stop =>
      cases taken
      simp [past, TimerPosition.wake]
  | scheduleOn | destroy | notify | join =>
      simp only [Timer.step] at taken
      split at taken <;> cases taken
      simp [Timer.scheduleOn, past, TimerPosition.wake]

end Destruction

theorem destructor_joins_within_six_steps (timer : Timer Time Callable)
    (reached : Reachable Timer.step Unrestricted {} timer) (joining : timer.destructor = .joining) (latest : Time)
    (tasks : ∀ entry ∈ timer.pending, entry.1 ≤ latest)
    (alarm : ∀ deadline ∈ timer.position.deadline, deadline ≤ latest) (events : List (TimerEvent Time Callable))
    (final : Timer Time Callable) (ran : run Timer.step timer events = some final) :
    final.position = .ended ∨
      events.countP TimerEvent.isTimer < 6 ∧ ∀ now, latest ≤ now → (final.threadStep now).isSome := by
  by_cases past : timer.position = .ended
  next => exact .inl (run_invariant events (·.position = .ended) (fun _ _ _ _ past taken => ended_step past taken) past ran)
  next =>
    rcases run_reaches events (·.position = .ended) (fun timer => Ending latest timer ∧ timer.position ≠ .ended)
      TimerEvent.isTimer (·.position.toEnd) (fun _ _ _ _ past taken => ended_step past taken)
      (fun _ _ _ _ holds taken => holds.1.closer holds.2 taken)
      ⟨⟨attentive_of_reachable reached, joining, tasks, alarm⟩, past⟩ ran with ended | ⟨⟨ending, goesOn⟩, counted⟩
    · exact .inl ended
    · have most := toEnd_le timer.position
      have left := toEnd_pos goesOn
      refine .inr ⟨by omega, fun now late => threadStep_isSome ending.attentive late goesOn ?_ ending.alarm⟩
      intro asleep
      exact (ending.attentive.empty asleep).2.1 ending.joining

def destroyedInTheWindow : List (TimerEvent Nat Unit) :=
  [.scheduleOn 100 (), .timer 0, .timer 0, .timer 0, .timer 0, .destroy, .notify, .timer 0]

theorem destructor_joins_within_six_steps_window :
    ∃ timer final : Timer Nat Unit, Reachable Timer.step Unrestricted {} timer ∧ timer.destructor = .joining ∧
      timer.threadStep 99 = none ∧ run Timer.step timer [.timer 100, .timer 100] = some final ∧
      (final.position = .ended ∨ ∀ now, 100 ≤ now → (final.threadStep now).isSome) := by
  have asleep : (run Timer.step ({} : Timer Nat Unit) (destroyedInTheWindow ++ [.timer 100, .timer 100])).isSome := by
    decide
  obtain ⟨final, whole⟩ := Option.isSome_iff_exists.mp asleep
  rw [run_append] at whole
  obtain ⟨timer, ran, two⟩ := Option.bind_eq_some_iff.mp whole
  have seen : (run Timer.step ({} : Timer Nat Unit) destroyedInTheWindow).map
      (fun timer => (timer.position, timer.destructor, timer.pending)) =
      some (.timedBlocked 100 false, .joining, [(100, ⟨0, ()⟩)]) := by decide
  rw [ran, Option.map_some, Option.some.injEq, Prod.mk.injEq, Prod.mk.injEq] at seen
  obtain ⟨here, joining, pending⟩ := seen
  have reached : Reachable Timer.step Unrestricted {} timer :=
    Reachable.initial.run destroyedInTheWindow (allowedRun_of_forall (fun _ _ _ => trivial) _) ran
  refine ⟨timer, final, reached, joining, by simp [Timer.threadStep, here], two, ?_⟩
  exact (destructor_joins_within_six_steps timer reached joining 100 (by simp [pending])
    (by simp [here, TimerPosition.deadline]) _ final two).imp_right And.right

end XTransmit.Connections
