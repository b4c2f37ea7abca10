import XTransmit.Shared.Multimap
import Mathlib.Data.List.Nodup
import Mathlib.Data.List.Range
import Mathlib.Data.List.Induction

set_option autoImplicit false

namespace XTransmit.Connections

variable {Time Callable : Type} [LinearOrder Time]

structure Task (Callable : Type) where
  id : Nat
  f : Callable
  deriving DecidableEq, Repr

structure Scheduler (Time Callable : Type) [LinearOrder Time] where
  tasks : Multimap Time (Task Callable) := .empty

namespace Scheduler

def addTask (scheduler : Scheduler Time Callable) (time : Time) (task : Task Callable) : Scheduler Time Callable :=
  { tasks := scheduler.tasks.emplace time task }

def manageTasks (scheduler : Scheduler Time Callable) (now : Time) :
    List (Time × Task Callable) × Scheduler Time Callable :=
  let endOfTasksToRun := scheduler.tasks.upperBound now
  if endOfTasksToRun ≠ 0 then
    (scheduler.tasks.entries.take endOfTasksToRun, { tasks := scheduler.tasks.eraseBefore endOfTasksToRun })
  else ([], scheduler)

end Scheduler

-- `add_task` and `manage_tasks` hold the lock from end to end, so a history is a list of calls.
inductive SchedulerCall (Time Callable : Type) where
  | scheduleOn (time : Time) (f : Callable)
  | manageTasks (now : Time)
  deriving DecidableEq, Repr

def SchedulerCall.request : SchedulerCall Time Callable → Option (Time × Callable)
  | .scheduleOn time f => some (time, f)
  | .manageTasks _ => none

def SchedulerCall.clock : SchedulerCall Time Callable → Option Time
  | .scheduleOn _ _ => none
  | .manageTasks now => some now

structure Pass (Time Callable : Type) where
  now : Time
  ran : List (Time × Task Callable)
  deriving DecidableEq, Repr

structure Timeline (Time Callable : Type) [LinearOrder Time] where
  scheduler : Scheduler Time Callable := {}
  added : List (Time × Task Callable) := []
  passes : List (Pass Time Callable) := []

namespace Timeline

variable (timeline : Timeline Time Callable)

def pending : List (Time × Task Callable) := timeline.scheduler.tasks.entries

def executed : List (Time × Task Callable) := timeline.passes.flatMap Pass.ran

def scheduleOn (time : Time) (f : Callable) : Timeline Time Callable :=
  let task : Task Callable := { id := timeline.added.length, f := f }
  { timeline with
    scheduler := timeline.scheduler.addTask time task
    added := timeline.added ++ [(time, task)] }

def manageTasks (now : Time) : Timeline Time Callable :=
  { timeline with
    scheduler := (timeline.scheduler.manageTasks now).2
    passes := timeline.passes ++ [{ now := now, ran := (timeline.scheduler.manageTasks now).1 }] }

def step : SchedulerCall Time Callable → Timeline Time Callable
  | .scheduleOn time f => timeline.scheduleOn time f
  | .manageTasks now => timeline.manageTasks now

def run (calls : List (SchedulerCall Time Callable)) : Timeline Time Callable := calls.foldl step {}

end Timeline

def RunsBefore (left right : Time × Task Callable) : Prop :=
  left.1 < right.1 ∨ left.1 = right.1 ∧ left.2.id < right.2.id

-- Without the guard: an empty range runs and erases nothing.
theorem manageTasks_eq (scheduler : Scheduler Time Callable) (now : Time) :
    scheduler.manageTasks now = (scheduler.tasks.entries.take (scheduler.tasks.upperBound now),
      { tasks := scheduler.tasks.eraseBefore (scheduler.tasks.upperBound now) }) := by
  simp only [Scheduler.manageTasks]
  split
  next => rfl
  next nothing =>
    have start : scheduler.tasks.upperBound now = 0 := not_not.mp nothing
    simp [start, Multimap.eraseBefore]

namespace Timeline

structure Accounted (timeline : Timeline Time Callable) (calls : List (SchedulerCall Time Callable)) : Prop where
  requests : timeline.added.map (fun entry => (entry.1, entry.2.f)) = calls.filterMap SchedulerCall.request
  clocks : timeline.passes.map Pass.now = calls.filterMap SchedulerCall.clock
  numbered : timeline.added.map (fun entry => entry.2.id) = List.range timeline.added.length
  conserved : timeline.added.Perm (timeline.executed ++ timeline.pending)
  ordered : timeline.scheduler.tasks.InOrder fun left right => left.id < right.id
  passes : ∀ pass ∈ timeline.passes, (∀ entry ∈ pass.ran, entry.1 ≤ pass.now) ∧ pass.ran.Pairwise RunsBefore

variable {timeline : Timeline Time Callable} {calls : List (SchedulerCall Time Callable)}

theorem initial_accounted : ({} : Timeline Time Callable).Accounted [] where
  requests := rfl
  clocks := rfl
  numbered := rfl
  conserved := .nil
  ordered := .nil
  passes := by simp

theorem Accounted.id_lt (accounted : timeline.Accounted calls) {entry : Time × Task Callable}
    (waiting : entry ∈ timeline.pending) : entry.2.id < timeline.added.length := by
  have member : entry ∈ timeline.added := accounted.conserved.mem_iff.mpr (List.mem_append_right _ waiting)
  have number : entry.2.id ∈ timeline.added.map fun entry => entry.2.id := List.mem_map_of_mem member
  rw [accounted.numbered] at number
  exact List.mem_range.mp number

theorem scheduleOn_accounted (accounted : timeline.Accounted calls) (time : Time) (f : Callable) :
    (timeline.scheduleOn time f).Accounted (calls ++ [.scheduleOn time f]) where
  requests := by simp [scheduleOn, accounted.requests, SchedulerCall.request]
  clocks := by simp [scheduleOn, accounted.clocks, SchedulerCall.clock]
  numbered := by simp [scheduleOn, accounted.numbered, List.range_succ]
  conserved := by
    let task : Task Callable := { id := timeline.added.length, f := f }
    have listed : (timeline.added ++ [(time, task)]).Perm ((time, task) :: timeline.added) :=
      List.perm_append_singleton _ _
    have moved : ((time, task) :: (timeline.executed ++ timeline.pending)).Perm
        (timeline.executed ++ (time, task) :: timeline.pending) := List.perm_middle.symm
    have inserted := (timeline.scheduler.tasks.entries_emplace_perm time task).symm
    exact listed.trans ((accounted.conserved.cons _).trans (moved.trans (inserted.append_left _)))
  ordered := timeline.scheduler.tasks.emplace_inOrder accounted.ordered fun _ waiting => accounted.id_lt waiting
  passes := accounted.passes

theorem manageTasks_accounted (accounted : timeline.Accounted calls) (now : Time) :
    (timeline.manageTasks now).Accounted (calls ++ [.manageTasks now]) where
  requests := by simp [manageTasks, accounted.requests, SchedulerCall.request]
  clocks := by simp [manageTasks, accounted.clocks, SchedulerCall.clock]
  numbered := accounted.numbered
  conserved := by
    simpa [manageTasks, executed, pending, manageTasks_eq] using accounted.conserved
  ordered := by
    simpa [manageTasks, manageTasks_eq] using timeline.scheduler.tasks.eraseBefore_inOrder _ accounted.ordered
  passes := by
    intro pass member
    rcases List.mem_append.mp member with earlier | latest
    · exact accounted.passes pass earlier
    · rw [List.mem_singleton.mp latest, manageTasks_eq]
      exact ⟨fun entry triggered => timeline.scheduler.tasks.le_of_mem_take triggered,
        accounted.ordered.sublist (List.take_sublist _ _)⟩

theorem run_accounted (calls : List (SchedulerCall Time Callable)) : (run calls).Accounted calls := by
  induction calls using List.reverseRecOn with
  | nil => exact initial_accounted
  | append_singleton earlier call ih =>
      rw [run, List.foldl_append]
      cases call with
      | scheduleOn time f => exact scheduleOn_accounted ih time f
      | manageTasks now => exact manageTasks_accounted ih now

theorem Accounted.executed_nodup (accounted : timeline.Accounted calls) :
    (timeline.executed.map fun entry => entry.2.id).Nodup := by
  have ids : (timeline.added.map fun entry => entry.2.id).Nodup := accounted.numbered ▸ List.nodup_range
  have split := (accounted.conserved.map fun entry => entry.2.id).nodup_iff.mp ids
  rw [List.map_append] at split
  exact (List.nodup_append.mp split).1

end Timeline

theorem scheduler_runs_each_task_once_in_order (calls : List (SchedulerCall Time Callable)) :
    (Timeline.run calls).added.map (fun entry => (entry.1, entry.2.f)) = calls.filterMap SchedulerCall.request ∧
      (Timeline.run calls).added.map (fun entry => entry.2.id) = List.range (Timeline.run calls).added.length ∧
      (Timeline.run calls).passes.map Pass.now = calls.filterMap SchedulerCall.clock ∧
      (Timeline.run calls).added.Perm ((Timeline.run calls).executed ++ (Timeline.run calls).pending) ∧
      ((Timeline.run calls).executed.map fun entry => entry.2.id).Nodup ∧
      (∀ pass ∈ (Timeline.run calls).passes,
        (∀ entry ∈ pass.ran, entry.1 ≤ pass.now) ∧ pass.ran.Pairwise RunsBefore) ∧
      ∀ now, ∀ entry ∈ (Timeline.run (calls ++ [.manageTasks now])).pending, now < entry.1 := by
  have accounted := Timeline.run_accounted calls
  refine ⟨accounted.requests, accounted.numbered, accounted.clocks, accounted.conserved, accounted.executed_nodup,
    accounted.passes, ?_⟩
  intro now entry waiting
  have erased : (Timeline.run (calls ++ [.manageTasks now])).pending =
      (Timeline.run calls).pending.drop ((Timeline.run calls).scheduler.tasks.upperBound now) := by
    simp [Timeline.run, Timeline.step, Timeline.manageTasks, Timeline.pending, manageTasks_eq]
  rw [erased] at waiting
  exact (Timeline.run calls).scheduler.tasks.lt_of_mem_drop waiting

end XTransmit.Connections
