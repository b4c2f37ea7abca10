import XTransmit.Connections.Scheduler
import XTransmit.Shared.Transition

set_option autoImplicit false

namespace XTransmit.Connections

open Transition

-- Both waits release the lock and block in one step; `woken` is a notification, or a spurious one.
inductive TimerPosition (Time : Type) where
  | condition
  -- Behind the test of the condition, up to the end of `manage_tasks`.
  | managing
  | testing
  | emptyWait
  | emptyBlocked (woken : Bool)
  | first
  | timedWait (timeOfFirstTask : Time)
  | timedBlocked (timeOfFirstTask : Time) (woken : Bool)
  | ended
  deriving DecidableEq, Repr

section Waking

variable {Time : Type}

def TimerPosition.wake : TimerPosition Time → TimerPosition Time
  | .emptyBlocked _ => .emptyBlocked true
  | .timedBlocked timeOfFirstTask _ => .timedBlocked timeOfFirstTask true
  | position => position

def TimerPosition.isOpen : TimerPosition Time → Bool
  | .timedWait _ => true
  | _ => false

theorem wake_awake (position : TimerPosition Time) :
    position.wake ≠ .emptyBlocked false ∧ ∀ timeOfFirstTask, position.wake ≠ .timedBlocked timeOfFirstTask false := by
  cases position <;> simp [TimerPosition.wake]

theorem wake_eq {position other : TimerPosition Time} (here : position.wake = other)
    (asleep : ∀ woken, other ≠ .emptyBlocked woken)
    (alarm : ∀ timeOfFirstTask woken, other ≠ .timedBlocked timeOfFirstTask woken) : position = other := by
  cases position with
  | emptyBlocked woken => exact absurd here.symm (asleep true)
  | timedBlocked timeOfFirstTask woken => exact absurd here.symm (alarm timeOfFirstTask true)
  | condition | managing | testing | emptyWait | first | timedWait | ended => exact here

end Waking

variable {Time Callable : Type} [LinearOrder Time]

inductive DestructorPosition where
  | outside
  | notifying
  | joining
  | joined
  deriving DecidableEq, Repr

-- `missed` are the tasks that came after `time_of_first_task` was read and before the lock was taken.
structure Timer (Time Callable : Type) [LinearOrder Time] where
  scheduler : Scheduler Time Callable := {}
  position : TimerPosition Time := .condition
  done : Bool := false
  destructor : DestructorPosition := .outside
  added : Nat := 0
  executed : List (Time × Task Callable) := []
  missed : List (Time × Task Callable) := []

inductive TimerEvent (Time Callable : Type) where
  | timer (now : Time)
  | spurious
  | scheduleOn (time : Time) (f : Callable)
  | stop
  | destroy
  | notify
  | join
  deriving DecidableEq, Repr

namespace Timer

variable (timer : Timer Time Callable)

def pending : List (Time × Task Callable) := timer.scheduler.tasks.entries

def testWait : TimerPosition Time :=
  if timer.done || !timer.pending.isEmpty then .condition else .emptyBlocked false

-- `none` where the thread is blocked or has ended, or dereferences the end of an empty map.
def threadStep (now : Time) : Option (Timer Time Callable) :=
  match timer.position with
  | .condition => some { timer with position := if timer.done then .ended else .managing }
  | .managing => some { timer with
      scheduler := (timer.scheduler.manageTasks now).2
      executed := timer.executed ++ (timer.scheduler.manageTasks now).1
      position := .testing }
  | .testing => some { timer with position := if timer.pending.isEmpty then .emptyWait else .first }
  | .emptyWait => some { timer with position := timer.testWait }
  | .emptyBlocked woken => if woken then some { timer with position := timer.testWait } else none
  | .first => timer.pending.head?.map fun entry => { timer with position := .timedWait entry.1, missed := [] }
  | .timedWait timeOfFirstTask => some { timer with position := .timedBlocked timeOfFirstTask false }
  | .timedBlocked timeOfFirstTask woken =>
      if woken || timeOfFirstTask ≤ now then some { timer with position := .condition } else none
  | .ended => none

def scheduleOn (time : Time) (f : Callable) : Timer Time Callable :=
  let task : Task Callable := { id := timer.added, f := f }
  { timer with
    scheduler := timer.scheduler.addTask time task
    added := timer.added + 1
    position := timer.position.wake
    missed := if timer.position.isOpen then timer.missed ++ [(time, task)] else timer.missed }

def step : TimerEvent Time Callable → Option (Timer Time Callable)
  | .timer now => timer.threadStep now
  | .spurious => some { timer with position := timer.position.wake }
  | .scheduleOn time f => if timer.destructor = .outside then some (timer.scheduleOn time f) else none
  | .stop => some { timer with done := true }
  | .destroy => if timer.destructor = .outside then some { timer with done := true, destructor := .notifying } else none
  | .notify =>
      if timer.destructor = .notifying then
        some { timer with position := timer.position.wake, destructor := .joining }
      else none
  | .join =>
      if timer.destructor = .joining ∧ timer.position = .ended then some { timer with destructor := .joined } else none

end Timer

section Steps

variable {timer next : Timer Time Callable} {now : Time}

inductive ThreadMove (timer : Timer Time Callable) (now : Time) (next : Timer Time Callable) : Prop
  | ends (here : timer.position = .condition) (past : timer.done = true)
      (same : next = { timer with position := .ended })
  | continues (here : timer.position = .condition) (running : timer.done = false)
      (same : next = { timer with position := .managing })
  | managed (here : timer.position = .managing)
      (same : next = { timer with
        scheduler := (timer.scheduler.manageTasks now).2
        executed := timer.executed ++ (timer.scheduler.manageTasks now).1
        position := .testing })
  | empty (here : timer.position = .testing) (none : timer.pending = [])
      (same : next = { timer with position := .emptyWait })
  | filled (here : timer.position = .testing) (some : timer.pending ≠ [])
      (same : next = { timer with position := .first })
  | blocks (here : timer.position = .emptyWait ∨ timer.position = .emptyBlocked true) (running : timer.done = false)
      (none : timer.pending = []) (same : next = { timer with position := .emptyBlocked false })
  | passes (here : timer.position = .emptyWait ∨ timer.position = .emptyBlocked true)
      (holds : timer.done = true ∨ timer.pending ≠ []) (same : next = { timer with position := .condition })
  | reads (here : timer.position = .first) (entry : Time × Task Callable) (head : timer.pending.head? = some entry)
      (same : next = { timer with position := .timedWait entry.1, missed := [] })
  | sleeps (timeOfFirstTask : Time) (here : timer.position = .timedWait timeOfFirstTask)
      (same : next = { timer with position := .timedBlocked timeOfFirstTask false })
  | wakes (timeOfFirstTask : Time) (woken : Bool) (here : timer.position = .timedBlocked timeOfFirstTask woken)
      (same : next = { timer with position := .condition })

theorem testWait_move (here : timer.position = .emptyWait ∨ timer.position = .emptyBlocked true)
    (taken : some { timer with position := timer.testWait } = some next) : ThreadMove timer now next := by
  cases taken
  unfold Timer.testWait
  split
  next holds => exact .passes here (by simpa [List.isEmpty_iff] using holds) rfl
  next fails =>
    rw [Bool.or_eq_true, not_or] at fails
    exact .blocks here (by simpa using fails.1) (by simpa [List.isEmpty_iff] using fails.2) rfl

theorem threadStep_move (taken : timer.threadStep now = some next) : ThreadMove timer now next := by
  unfold Timer.threadStep at taken
  split at taken
  next here =>
    cases taken
    split
    next past => exact .ends here past rfl
    next running => exact .continues here (by simpa using running) rfl
  next here =>
    cases taken
    exact .managed here rfl
  next here =>
    cases taken
    split
    next none => exact .empty here (List.isEmpty_iff.mp none) rfl
    next some => exact .filled here (mt List.isEmpty_iff.mpr some) rfl
  next here => exact testWait_move (.inl here) taken
  next woken here =>
    split at taken
    next up =>
      subst up
      exact testWait_move (.inr here) taken
    next => cases taken
  next here =>
    obtain ⟨entry, head, rfl⟩ := Option.map_eq_some_iff.mp taken
    exact .reads here entry head rfl
  next timeOfFirstTask here =>
    cases taken
    exact .sleeps timeOfFirstTask here rfl
  next timeOfFirstTask woken here =>
    split at taken <;> cases taken
    exact .wakes timeOfFirstTask woken here rfl
  next => cases taken

theorem pending_scheduleOn {time : Time} {f : Callable} {entry : Time × Task Callable} :
    entry ∈ (timer.scheduleOn time f).pending ↔ entry = (time, ⟨timer.added, f⟩) ∨ entry ∈ timer.pending := by
  change entry ∈ (timer.scheduler.tasks.emplace time ⟨timer.added, f⟩).entries ↔ _
  rw [(timer.scheduler.tasks.entries_emplace_perm time _).mem_iff, List.mem_cons]
  rfl

theorem mem_manageTasks {entry : Time × Task Callable} (waiting : entry ∈ timer.pending) :
    (entry.1 ≤ now → entry ∈ (timer.scheduler.manageTasks now).1) ∧
      (entry ∈ (timer.scheduler.manageTasks now).1 ∨ entry ∈ (timer.scheduler.manageTasks now).2.tasks.entries) := by
  rw [manageTasks_eq]
  have split : entry ∈ timer.scheduler.tasks.entries.take (timer.scheduler.tasks.upperBound now) ∨
      entry ∈ timer.scheduler.tasks.entries.drop (timer.scheduler.tasks.upperBound now) := by
    rw [← List.mem_append, List.take_append_drop]
    exact waiting
  refine ⟨fun due => split.resolve_right fun later => ?_, split⟩
  exact absurd due (not_le.mpr (timer.scheduler.tasks.lt_of_mem_drop later))

theorem head_le {first entry : Time × Task Callable} (head : timer.pending.head? = some first)
    (waiting : entry ∈ timer.pending) : first.1 ≤ entry.1 := by
  have sorted := timer.scheduler.tasks.sorted
  rw [Timer.pending] at head waiting
  cases entries : timer.scheduler.tasks.entries with
  | nil => simp [entries] at head
  | cons least rest =>
      rw [entries] at head waiting sorted
      cases head
      rcases List.mem_cons.mp waiting with rfl | later
      · exact le_refl _
      · exact List.rel_of_pairwise_cons sorted later

end Steps

section Oversleeping

variable {timer next : Timer Time Callable} {event : TimerEvent Time Callable}

structure Attentive (timer : Timer Time Callable) : Prop where
  ended : timer.position = .ended → timer.done = true
  destroyed : timer.destructor ≠ .outside → timer.done = true
  first : timer.position = .first → timer.pending ≠ []
  empty : timer.position = .emptyBlocked false →
    timer.pending = [] ∧ timer.destructor ≠ .joining ∧ timer.destructor ≠ .joined
  timed : ∀ timeOfFirstTask, timer.position = .timedWait timeOfFirstTask ∨
      timer.position = .timedBlocked timeOfFirstTask false →
    ∀ entry ∈ timer.pending, timeOfFirstTask ≤ entry.1 ∨ entry ∈ timer.missed

theorem Attentive.woken (attentive : Attentive timer) (position : next.position = timer.position.wake)
    (done : timer.done = true → next.done = true) (destroyed : next.destructor ≠ .outside → next.done = true)
    (pending : ∀ entry, entry ∈ timer.pending → entry ∈ next.pending)
    (missed : ∀ timeOfFirstTask, timer.position = .timedWait timeOfFirstTask → ∀ entry ∈ next.pending,
      timeOfFirstTask ≤ entry.1 ∨ entry ∈ next.missed) : Attentive next where
  ended here := done (attentive.ended (wake_eq (position ▸ here) (by simp) (by simp)))
  destroyed := destroyed
  first here := by
    obtain ⟨entry, member⟩ := List.exists_mem_of_ne_nil _
      (attentive.first (wake_eq (position ▸ here) (by simp) (by simp)))
    exact List.ne_nil_of_mem (pending entry member)
  empty here := absurd (position ▸ here) (wake_awake _).1
  timed timeOfFirstTask here := by
    rcases here with waiting | blocked
    · exact missed timeOfFirstTask (wake_eq (position ▸ waiting) (by simp) (by simp))
    · exact absurd (position ▸ blocked) ((wake_awake _).2 timeOfFirstTask)

theorem Attentive.moved (attentive : Attentive timer) (destructor : next.destructor = timer.destructor)
    (done : next.done = timer.done)
    (free : next.position = .condition ∨ next.position = .managing ∨ next.position = .testing ∨
      next.position = .emptyWait) : Attentive next where
  ended here := by rcases free with free | free | free | free <;> cases free.symm.trans here
  destroyed outside := by
    rw [done]
    exact attentive.destroyed (destructor ▸ outside)
  first here := by rcases free with free | free | free | free <;> cases free.symm.trans here
  empty here := by rcases free with free | free | free | free <;> cases free.symm.trans here
  timed _ here := by
    rcases here with here | here <;> rcases free with free | free | free | free <;> cases free.symm.trans here

theorem Attentive.threadStep {now : Time} (attentive : Attentive timer) (move : ThreadMove timer now next) :
    Attentive next := by
  cases move with
  | ends here past same =>
      subst same
      exact ⟨fun _ => past, fun _ => past, by simp, by simp, by simp⟩
  | continues _ _ same | managed _ same | empty _ _ same | passes _ _ same | wakes _ _ _ same =>
      subst same
      exact attentive.moved rfl rfl (by simp)
  | filled _ some same =>
      subst same
      exact ⟨by simp, attentive.destroyed, fun _ => some, by simp, by simp⟩
  | blocks _ running none same =>
      subst same
      have outside : timer.destructor = .outside := by
        by_contra inside
        rw [attentive.destroyed inside] at running
        cases running
      exact ⟨by simp, attentive.destroyed, by simp, fun _ => ⟨none, by simp [outside], by simp [outside]⟩, by simp⟩
  | reads _ entry head same =>
      subst same
      refine ⟨by simp, attentive.destroyed, by simp, by simp, ?_⟩
      intro timeOfFirstTask waiting other member
      have time : entry.1 = timeOfFirstTask := by simpa using waiting
      exact .inl (time ▸ head_le head member)
  | sleeps time here same =>
      subst same
      refine ⟨by simp, attentive.destroyed, by simp, by simp, ?_⟩
      intro timeOfFirstTask blocked
      have equal : time = timeOfFirstTask := by simpa using blocked
      exact attentive.timed timeOfFirstTask (.inl (equal ▸ here))

theorem Attentive.step (attentive : Attentive timer) (taken : timer.step event = some next) : Attentive next := by
  cases event with
  | timer now => exact attentive.threadStep (threadStep_move taken)
  | spurious =>
      cases taken
      exact attentive.woken rfl id attentive.destroyed (fun _ => id)
        (fun timeOfFirstTask here => attentive.timed timeOfFirstTask (.inl here))
  | scheduleOn time f =>
      simp only [Timer.step] at taken
      split at taken <;> cases taken
      refine attentive.woken rfl id attentive.destroyed (fun _ member => pending_scheduleOn.mpr (.inr member)) ?_
      intro timeOfFirstTask here entry member
      have missed : (timer.scheduleOn time f).missed = timer.missed ++ [(time, ⟨timer.added, f⟩)] := by
        simp [Timer.scheduleOn, here, TimerPosition.isOpen]
      rw [missed, List.mem_append]
      rcases pending_scheduleOn.mp member with rfl | earlier
      · exact .inr (.inr (by simp))
      · exact (attentive.timed timeOfFirstTask (.inl here) entry earlier).imp_right .inl
  | stop =>
      cases taken
      exact ⟨fun _ => rfl, fun _ => rfl, attentive.first, attentive.empty, attentive.timed⟩
  | destroy =>
      simp only [Timer.step] at taken
      split at taken <;> cases taken
      exact ⟨fun _ => rfl, fun _ => rfl, attentive.first, fun here => ⟨(attentive.empty here).1, by simp, by simp⟩,
        attentive.timed⟩
  | notify =>
      simp only [Timer.step] at taken
      split at taken
      next notifying =>
        cases taken
        have past := attentive.destroyed (by simp [notifying])
        exact attentive.woken rfl id (fun _ => past) (fun _ => id)
          (fun timeOfFirstTask here => attentive.timed timeOfFirstTask (.inl here))
      next => cases taken
  | join =>
      simp only [Timer.step] at taken
      split at taken
      next ready =>
        cases taken
        refine ⟨attentive.ended, fun _ => attentive.ended ready.2, attentive.first, fun here => ?_, attentive.timed⟩
        cases ready.2.symm.trans here
      next => cases taken

theorem attentive_of_reachable {allowed : Timer Time Callable → TimerEvent Time Callable → Prop}
    (reached : Reachable Timer.step allowed {} timer) : Attentive timer := by
  refine reached.invariant Attentive ?_ ?_
  · exact ⟨by simp, by simp, by simp, by simp, by simp⟩
  · intro timer event next attentive _ taken
    exact attentive.step taken

end Oversleeping

theorem timer_oversleeps_only_the_window (timer : Timer Time Callable)
    (reached : Reachable Timer.step Unrestricted {} timer) :
    (timer.position = .first → timer.pending ≠ []) ∧ (timer.position = .emptyBlocked false → timer.pending = []) ∧
      ∀ timeOfFirstTask, timer.position = .timedBlocked timeOfFirstTask false →
        ∀ entry ∈ timer.pending, entry.1 < timeOfFirstTask → entry ∈ timer.missed := by
  have attentive := attentive_of_reachable reached
  refine ⟨attentive.first, fun here => (attentive.empty here).1, fun timeOfFirstTask here entry waiting early => ?_⟩
  exact (attentive.timed timeOfFirstTask (.inr here) entry waiting).resolve_left (not_le.mpr early)

def intoTheWindow : List (TimerEvent Nat Unit) :=
  [.scheduleOn 100 (), .timer 0, .timer 0, .timer 0, .timer 0, .scheduleOn 50 (), .timer 0]

theorem timer_oversleeps_only_the_window_late :
    ∃ timer : Timer Nat Unit, Reachable Timer.step Unrestricted {} timer ∧ timer.position = .timedBlocked 100 false ∧
      timer.threadStep 99 = none ∧ (50, ⟨1, ()⟩) ∈ timer.pending ∧ (50, ⟨1, ()⟩) ∈ timer.missed := by
  have asleep : (run Timer.step ({} : Timer Nat Unit) intoTheWindow).map (fun timer => (timer.position, timer.pending)) =
      some (.timedBlocked 100 false, [(50, ⟨1, ()⟩), (100, ⟨0, ()⟩)]) := by decide
  obtain ⟨timer, ran, seen⟩ := Option.map_eq_some_iff.mp asleep
  obtain ⟨here, pending⟩ := Prod.mk.injEq _ _ _ _ ▸ seen
  have reached : Reachable Timer.step Unrestricted {} timer :=
    Reachable.initial.run intoTheWindow (allowedRun_of_forall (fun _ _ _ => trivial) _) ran
  have waiting : ((50 : Nat), (⟨1, ()⟩ : Task Unit)) ∈ timer.pending := by simp [pending]
  exact ⟨timer, reached, here, by simp [Timer.threadStep, here], waiting,
    (timer_oversleeps_only_the_window timer reached).2.2 100 here _ waiting (by decide)⟩

end XTransmit.Connections
