import XTransmit.Connections.GroupRegistry

set_option autoImplicit false

namespace XTransmit.Connections

open Transition

variable {Sockaddr : Type}

section Sound

variable {group later : SrtGroup Sockaddr} {groups next : Groups Sockaddr}

def Heard.task (heard : Heard Sockaddr) : Option (GroupTask Sockaddr) := heard.request.map Prod.snd

structure SrtGroup.Sound (group : SrtGroup Sockaddr) : Prop where
  outside : group.phase ≠ .constructing → group.phase ≠ .released → group.timer.destructor = .outside
  done : group.phase.isClosing = true → group.timer.done = true
  timer : Reachable Timer.step Unrestricted {} group.timer
  accounted : group.tasks.Perm (group.heard.filterMap Heard.task)
  named : ∀ heard ∈ group.heard, heard.bindSocket = group.bindSocket

theorem threadStep_conserved {Callable : Type} {timer timer' : Timer Int Callable} {now : Int}
    (move : ThreadMove timer now timer') : timer'.executed ++ timer'.pending = timer.executed ++ timer.pending := by
  cases move with
  | managed here same =>
      subst same
      simp [Timer.pending, manageTasks_eq, Multimap.eraseBefore]
  | ends here past same | continues here running same | empty here none same | filled here some same
    | blocks here running none same | passes here holds same | reads here entry head same | sleeps time here same
    | wakes time woken here same =>
      subst same
      rfl

theorem SrtGroup.Sound.timed (sound : group.Sound) {action : TimerEvent Int (GroupTask Sockaddr)}
    {timer : Timer Int (GroupTask Sockaddr)} (may : group.mayTake action = true)
    (taken : group.timer.step action = some timer) : SrtGroup.Sound { group with timer := timer } := by
  have reached : Reachable Timer.step Unrestricted {} timer := .step action sound.timer trivial taken
  have accounted := sound.accounted
  cases action with
  | timer now =>
      have move := threadStep_move taken
      have tasks := threadStep_conserved move
      refine ⟨fun built kept => ?_, fun closing => ?_, reached, ?_, sound.named⟩
      · cases move <;> simp_all [sound.outside built kept]
      · cases move <;> simp_all [sound.done closing]
      · rw [SrtGroup.tasks, tasks]
        exact accounted
  | spurious =>
      cases taken
      exact ⟨sound.outside, sound.done, reached, accounted, sound.named⟩
  | destroy | notify | join =>
      simp only [Timer.step] at taken
      split at taken <;> cases taken
      simp only [SrtGroup.mayTake, Bool.or_eq_true, decide_eq_true_eq] at may
      refine ⟨fun built kept => ?_, fun closing => ?_, reached, accounted, sound.named⟩
      · exact absurd may (not_or.mpr ⟨built, kept⟩)
      · simp [sound.done closing]
  | scheduleOn time f => cases may
  | stop => cases may

theorem SrtGroup.Sound.own (sound : group.Sound) {event : GroupEvent Sockaddr} (move : OwnMove group event later) :
    later.Sound := by
  cases move with
  | assigned targets same =>
      subst same
      exact ⟨sound.outside, sound.done, sound.timer, sound.accounted, sound.named⟩
  | stopped here same =>
      subst same
      refine ⟨fun _ _ => sound.outside (by simp [here]) (by simp [here]), fun _ => rfl, ?_, sound.accounted, sound.named⟩
      exact .step .stop sound.timer trivial rfl
  | released here same =>
      subst same
      exact ⟨by simp, fun _ => sound.done (by simp [here, GroupPhase.isClosing]), sound.timer, sound.accounted, sound.named⟩
  | timed action timer may taken same =>
      subst same
      exact sound.timed may taken

theorem tasks_scheduleOn (time : Int) (task : GroupTask Sockaddr) (heard : List (Heard Sockaddr)) :
    ({ group with timer := group.timer.scheduleOn time task, heard := heard } : SrtGroup Sockaddr).tasks.Perm
      (task :: group.tasks) := by
  let entry : Int × Task (GroupTask Sockaddr) := (time, { id := group.timer.added, f := task })
  have inserted : (group.timer.scheduleOn time task).pending.Perm (entry :: group.timer.pending) :=
    group.timer.scheduler.tasks.entries_emplace_perm time entry.2
  have moved : (group.timer.executed ++ entry :: group.timer.pending).Perm
      (entry :: (group.timer.executed ++ group.timer.pending)) := List.perm_middle
  exact ((inserted.append_left group.timer.executed).trans moved).map fun entry => entry.2.f

theorem SrtGroup.Sound.answer (sound : group.Sound) {now : Int} {heard : Heard Sockaddr}
    (mine : heard.bindSocket = group.bindSocket) (answer : Answer group now heard later) : later.Sound := by
  have named : ∀ each ∈ group.heard ++ [heard], each.bindSocket = group.bindSocket := by
    intro each member
    rcases List.mem_append.mp member with earlier | last
    · exact sound.named each earlier
    · rw [List.mem_singleton.mp last]
      exact mine
  cases answer with
  | nothing quiet same =>
      subst same
      refine ⟨sound.outside, sound.done, sound.timer, ?_, named⟩
      have last : [heard].filterMap Heard.task = [] := by simp [Heard.task, quiet]
      rw [List.filterMap_append, last, List.append_nil]
      exact sound.accounted
  | scheduled delay task asked outside same =>
      subst same
      have taken : group.timer.step (.scheduleOn (now + delay) task) =
          some (group.timer.scheduleOn (now + delay) task) := by simp [Timer.step, outside]
      refine ⟨fun _ _ => outside, sound.done, .step _ sound.timer trivial taken, ?_, named⟩
      have last : [heard].filterMap Heard.task = [task] := by simp [Heard.task, asked]
      rw [List.filterMap_append, last]
      exact (tasks_scheduleOn _ task _).trans ((sound.accounted.cons task).trans (List.perm_append_singleton _ _).symm)

end Sound

section Sheltered

variable {groups next : Groups Sockaddr} {event : GroupsEvent Sockaddr}

/-- The registry holds the groups between their constructor and the middle of their destructor, and whoever
holds its lock visits one of them. -/
structure Sheltered (groups : Groups Sockaddr) : Prop where
  registered : ∀ address, address ∈ groups.registry ↔
    ∃ group, groups.heap address = some group ∧ group.phase.isOpen = true
  visited : ∀ visit, groups.visit = some visit → visit.opaq ∈ groups.registry
  sound : ∀ address group, groups.heap address = some group → group.Sound
  intact : groups.fault = false

theorem put_heap (groups : Groups Sockaddr) (address : Address) (group : SrtGroup Sockaddr) (other : Address) :
    (groups.put address group).heap other = if other = address then some group else groups.heap other := by
  simp [Groups.put, Function.update_apply]

theorem Sheltered.sound_put (sheltered : Sheltered groups) {address : Address} {group : SrtGroup Sockaddr}
    (sound : group.Sound) (other : Address) (found : SrtGroup Sockaddr)
    (here : (groups.put address group).heap other = some found) : found.Sound := by
  rw [put_heap] at here
  split at here
  next =>
    cases here
    exact sound
  next => exact sheltered.sound other found here

theorem Sheltered.put (sheltered : Sheltered groups) {address : Address} {group : SrtGroup Sockaddr}
    (sound : group.Sound) (kept : address ∈ groups.registry ↔ group.phase.isOpen = true) :
    Sheltered (groups.put address group) where
  registered other := by
    rw [put_heap]
    split
    next same =>
      subst same
      simpa [Groups.put] using kept
    next => exact sheltered.registered other
  visited := sheltered.visited
  sound := sheltered.sound_put sound
  intact := sheltered.intact

theorem Sheltered.mem_iff (sheltered : Sheltered groups) {address : Address} {group : SrtGroup Sockaddr}
    (here : groups.heap address = some group) : address ∈ groups.registry ↔ group.phase.isOpen = true := by
  rw [sheltered.registered]
  simp [here]

theorem isOpen_own {group later : SrtGroup Sockaddr} {action : GroupEvent Sockaddr}
    (move : OwnMove group action later) : later.phase.isOpen = group.phase.isOpen := by
  cases move with
  | assigned targets same | timed action timer may taken same =>
      subst same
      rfl
  | stopped here same | released here same =>
      subst same
      simp [here, GroupPhase.isOpen]

theorem isOpen_answer {group later : SrtGroup Sockaddr} {now : Int} {heard : Heard Sockaddr}
    (answer : Answer group now heard later) : later.phase = group.phase := by
  cases answer with
  | nothing quiet same | scheduled delay task asked outside same =>
      subst same
      rfl

theorem Sheltered.host (sheltered : Sheltered groups) {visit : Visit} (inside : groups.visit = some visit) :
    ∃ group, groups.heap visit.opaq = some group ∧ group.phase.isOpen = true ∧ group.timer.destructor = .outside := by
  obtain ⟨group, here, isOpen⟩ := (sheltered.registered visit.opaq).mp (sheltered.visited visit inside)
  refine ⟨group, here, isOpen, (sheltered.sound _ group here).outside ?_ ?_⟩
  · intro phase
    simp [phase, GroupPhase.isOpen] at isOpen
  · intro phase
    simp [phase, GroupPhase.isOpen] at isOpen

theorem Sheltered.step (sheltered : Sheltered groups) (taken : groups.step event = some next) : Sheltered next := by
  cases groups_move taken with
  | constructed address bindSocket targets fresh same =>
      subst same
      refine sheltered.put ⟨by simp, by simp [GroupPhase.isClosing], .initial, .nil, by simp⟩ ?_
      rw [sheltered.registered]
      simp [fresh, GroupPhase.isOpen]
  | owned address action group later here moved same =>
      subst same
      refine sheltered.put ((sheltered.sound address group here).own moved) ?_
      rw [isOpen_own moved]
      exact sheltered.mem_iff here
  | added address group here phase outside same =>
      subst same
      have sound := sheltered.sound address group here
      refine ⟨fun other => ?_, fun visit inside => ?_, ?_, sheltered.intact⟩
      · rw [Finset.mem_insert, put_heap]
        split
        next same => simp [same, GroupPhase.isOpen]
        next different => simpa [different] using sheltered.registered other
      · exact Finset.mem_insert_of_mem (sheltered.visited visit inside)
      · exact sheltered.sound_put ⟨fun _ _ => outside, by simp [GroupPhase.isClosing], sound.timer, sound.accounted,
          sound.named⟩
  | removed address group here phase unlocked same =>
      subst same
      have sound := sheltered.sound address group here
      refine ⟨fun other => ?_, fun visit inside => ?_, ?_, sheltered.intact⟩
      · rw [Finset.mem_erase, put_heap]
        split
        next same => simp [same, GroupPhase.isOpen]
        next different => simpa [different] using sheltered.registered other
      · cases unlocked.symm.trans inside
      · exact sheltered.sound_put ⟨fun _ _ => sound.outside (by simp [phase]) (by simp [phase]),
          fun _ => sound.done (by simp [phase, GroupPhase.isClosing]), sound.timer, sound.accounted,
          sound.named⟩
  | freed address group named here joined same =>
      subst same
      have closed : address ∉ groups.registry := by
        rw [sheltered.mem_iff here]
        intro isOpen
        have outside := (sheltered.sound address group here).outside
        cases phase : group.phase <;> simp_all [GroupPhase.isOpen]
      refine ⟨fun other => ?_, sheltered.visited, fun other found there => ?_, sheltered.intact⟩
      · simp only [Function.update_apply]
        split
        next same => simpa [same] using closed
        next => exact sheltered.registered other
      · simp only [Function.update_apply] at there
        split at there
        next => cases there
        next => exact sheltered.sound other found there
  | rejected same =>
      subst same
      exact sheltered
  | entered visit found same =>
      subst same
      refine ⟨sheltered.registered, fun other inside => ?_, sheltered.sound, sheltered.intact⟩
      cases inside
      exact found
  | answered visit now leftover inside outcome =>
      obtain ⟨group, here, isOpen, outside⟩ := sheltered.host inside
      obtain ⟨later, result, answer⟩ := onCallback_eq now visit.callback leftover isOpen outside
      rw [here, Option.bind_some, result] at outcome
      subst outcome
      have kept := sheltered.put ((sheltered.sound _ group here).answer rfl answer)
        (isOpen_answer answer ▸ sheltered.mem_iff here)
      refine ⟨kept.registered, fun other visiting => ?_, kept.sound, kept.intact⟩
      cases visiting
      exact sheltered.visited visit inside
  | left same =>
      subst same
      exact ⟨sheltered.registered, by simp, sheltered.sound, sheltered.intact⟩

theorem sheltered_of_reachable {allowed : Groups Sockaddr → GroupsEvent Sockaddr → Prop}
    (reached : Reachable Groups.step allowed {} groups) : Sheltered groups := by
  refine reached.invariant Sheltered ?_ ?_
  · exact ⟨by simp, by simp, by simp, rfl⟩
  · intro groups event next sheltered _ taken
    exact sheltered.step taken

end Sheltered

theorem callbacks_visit_living_groups (groups : Groups Sockaddr) (reached : Reachable Groups.step Unrestricted {} groups) :
    groups.fault = false ∧
      (∀ visit, groups.visit = some visit → ∃ group, groups.heap visit.opaq = some group ∧
        group.phase.isOpen = true ∧ group.timer.destructor = .outside) ∧
      ∀ address group, groups.heap address = some group → Reachable Timer.step Unrestricted {} group.timer := by
  have sheltered := sheltered_of_reachable reached
  exact ⟨sheltered.intact, fun visit inside => sheltered.host inside,
    fun address group here => (sheltered.sound address group here).timer⟩

def target7 : GroupTarget Nat := { srcaddr := 0, peeraddr := 1, token := 7 }

def stoppedUnderVisit : List (GroupsEvent Nat) :=
  [.construct 8 40 [{ srcaddr := 0, peeraddr := 1 }], .add 8, .own 8 (.assign 0 7), .enter 8 (.connect 41 1002 7),
    .own 8 .stop]

theorem callbacks_visit_living_groups_stopped :
    ∃ groups : Groups Nat, Reachable Groups.step Unrestricted {} groups ∧
      groups.visit = some { opaq := 8, callback := .connect 41 1002 7 } ∧ (groups.step (.remove 8)).isNone = true ∧
      groups.fault = false ∧ ∃ group, groups.heap 8 = some group ∧ group.phase.isOpen = true := by
  have inside : (run Groups.step {} stoppedUnderVisit).map (fun groups =>
      (groups.visit, (groups.step (.remove 8)).isNone)) =
        some (some { opaq := 8, callback := .connect 41 1002 7 }, true) := by decide
  obtain ⟨groups, ran, seen⟩ := Option.map_eq_some_iff.mp inside
  obtain ⟨visiting, refused⟩ := Prod.mk.injEq _ _ _ _ ▸ seen
  have reached : Reachable Groups.step Unrestricted {} groups :=
    Reachable.initial.run stoppedUnderVisit (allowedRun_of_forall (fun _ _ _ => trivial) _) ran
  obtain ⟨intact, visited, -⟩ := callbacks_visit_living_groups groups reached
  obtain ⟨group, here, isOpen, -⟩ := visited _ visiting
  exact ⟨groups, reached, visiting, refused, intact, group, here, isOpen⟩

end XTransmit.Connections
