import XTransmit.Connections.Accounting
import XTransmit.Statistics.StatsWriter

set_option autoImplicit false

namespace XTransmit.Connections

open Transition ConcurrentPipes Statistics

variable {Stats : Type}

structure Monitored (Stats : Type) where
  run : State := {}
  writer : StatsWriter Stats := {}
  conn : Option (ConnId × Bool) := none
  removed : List Nat := []

inductive MonitoredLabel (Stats : Type) where
  | createConnection (result : Option ConnId)
  | addSocket
  | addPipe
  | main
  | raiseBreak
  | removeSocket (thread : Nat)
  | pipeExit (thread : Nat)
  | checkStop
  | printStats (answers : Socket → Bool → Statistics.Answer Stats)
  | stop

section Steps

variable (config : ConnConfig) (transport : Statistics.Transport) (format : String)

def Monitored.ran (state : Monitored Stats) (label : Label) : Option (Monitored Stats) :=
  (Connections.step config state.run label).map fun run => { state with run := run }

def Monitored.wrote (state : Monitored Stats) (event : Event Stats) : Option (Monitored Stats) :=
  (Statistics.step transport format state.writer event).map fun writer => { state with writer := writer }

def Monitored.step (state : Monitored Stats) : MonitoredLabel Stats → Option (Monitored Stats)
  | .createConnection result =>
      if state.run.pc ≠ .connecting ∨ state.conn ≠ none then none
      else
        match result with
        | none => state.ran config (.createConnection none)
        | some connId => some { state with conn := some (connId, false) }
  | .addSocket =>
      match state.conn with
      | some (connId, false) =>
          ({ state with conn := some (connId, true) } : Monitored Stats).wrote transport format (.addSocket (some connId))
      | _ => none
  | .addPipe =>
      match state.conn with
      | some (connId, true) =>
          ({ state with conn := none } : Monitored Stats).ran config (.createConnection (some connId))
      | _ => none
  | .main => state.ran config .main
  | .raiseBreak => state.ran config .raiseBreak
  | .removeSocket thread =>
      match state.run.threads[thread]? with
      | some ⟨connId, false⟩ =>
          if thread ∈ state.removed then none
          else ({ state with removed := state.removed ++ [thread] } : Monitored Stats).wrote transport format
            (.removeSocket connId)
      | _ => none
  | .pipeExit thread => if thread ∈ state.removed then state.ran config (.pipeExit thread) else none
  | .checkStop => state.wrote transport format .checkStop
  | .printStats answers => state.wrote transport format (.printStats answers)
  | .stop => if state.run.pc = .finished then state.wrote transport format .stop else none

end Steps

def Monitored.Processes (state : Monitored Stats) (sockid : Socket) : Prop :=
  state.conn = some (sockid, true) ∨
    ∃ thread, state.run.threads[thread]? = some ⟨sockid, false⟩ ∧ thread ∉ state.removed

def FreshSocket (state : Monitored Stats) : MonitoredLabel Stats → Prop
  | .createConnection (some connId) => connId ∉ state.run.registry.registered
  | _ => True

-- No call of `get_statistics` throws.
def Answering (transport : Statistics.Transport) (format : String) (state : Monitored Stats) : MonitoredLabel Stats → Prop
  | .createConnection (some connId) => connId ∉ state.run.registry.registered
  | .printStats answers => ∀ sockid ∈ state.writer.sock, ∀ header, answered transport format answers header sockid = true
  | _ => True

instance decidableFreshSocket (state : Monitored Stats) :
    (label : MonitoredLabel Stats) → Decidable (FreshSocket state label)
  | .createConnection (some _) => inferInstanceAs (Decidable (_ ∉ _))
  | .createConnection none | .addSocket | .addPipe | .main | .raiseBreak | .removeSocket _ | .pipeExit _ | .checkStop
  | .printStats _ | .stop => .isTrue trivial

section Writers

variable {transport : Statistics.Transport} {format : String} {answers : Socket → Bool → Statistics.Answer Stats}

theorem printSocket_kept (pass : Statistics.Pass Stats) (sockid : Socket) :
    (printSocket transport format answers pass sockid).kept = pass.kept ∨
      (printSocket transport format answers pass sockid).kept = pass.kept ++ [sockid] := by
  simp only [printSocket]
  split
  next => exact .inl rfl
  next =>
    split
    next => exact .inl rfl
    next => exact .inr rfl

theorem foldl_kept_sublist (sock : List Socket) (pass : Statistics.Pass Stats) :
    (sock.foldl (printSocket transport format answers) pass).kept.Sublist (pass.kept ++ sock) := by
  induction sock generalizing pass with
  | nil => simp
  | cons sockid rest ih =>
      refine (ih _).trans ?_
      rcases printSocket_kept pass sockid with same | more
      · rw [same]
        exact (List.sublist_cons_self sockid rest).append_left pass.kept
      · rw [more, List.append_assoc]
        exact List.Sublist.refl _

theorem printSocket_answered {pass : Statistics.Pass Stats} {sockid : Socket}
    (answer : ∀ header, answered transport format answers header sockid = true) :
    (printSocket transport format answers pass sockid).kept = pass.kept ++ [sockid] := by
  obtain ⟨header, titled⟩ := answered_eq_true_iff.mp (answer true)
  obtain ⟨rows, reported⟩ := answered_eq_true_iff.mp (answer false)
  cases flag : pass.printHeader <;> simp [printSocket, flag, titled, reported]

theorem foldl_kept_answered (sock : List Socket) (pass : Statistics.Pass Stats)
    (answer : ∀ sockid ∈ sock, ∀ header, answered transport format answers header sockid = true) :
    (sock.foldl (printSocket transport format answers) pass).kept = pass.kept ++ sock := by
  induction sock generalizing pass with
  | nil => simp
  | cons sockid rest ih =>
      rw [List.foldl_cons, ih _ fun later member => answer later (List.mem_cons_of_mem _ member),
        printSocket_answered (answer sockid (by simp)), List.append_assoc, List.singleton_append]

theorem addSocket_sock (writer : StatsWriter Stats) (sockid : Socket) :
    (Statistics.addSocket transport writer (some sockid)).sock =
      if transport.supportsStatistics then insertSocket sockid writer.sock else writer.sock := by
  simp only [Statistics.addSocket]
  cases transport.supportsStatistics with
  | false => rfl
  | true =>
      simp only [Bool.not_true, Bool.false_eq_true, if_false, if_true]
      split <;> rfl

theorem mem_insertSocket {sock : List Socket} {sockid other : Socket} :
    other ∈ insertSocket sockid sock ↔ other = sockid ∨ other ∈ sock := by
  unfold insertSocket
  split
  next present =>
    constructor
    · exact .inr
    · rintro (rfl | member)
      · exact present
      · exact member
  next => simp [List.mem_orderedInsert]

theorem insertSocket_nodup {sock : List Socket} (nodup : sock.Nodup) (sockid : Socket) :
    (insertSocket sockid sock).Nodup := by
  unfold insertSocket
  split
  next => exact nodup
  next fresh => exact (List.perm_orderedInsert _ _ _).nodup_iff.mpr (List.nodup_cons.mpr ⟨fresh, nodup⟩)

end Writers

section Pipes

variable {config : ConnConfig} {state next : State} {label : Label}

theorem Distinct.running_unique (distinct : Distinct state) {connId : ConnId} {left right : Nat}
    (first : state.threads[left]? = some ⟨connId, false⟩) (second : state.threads[right]? = some ⟨connId, false⟩) :
    left = right := by
  have registered {thread : Nat} (active : (connId, thread) ∈ state.registry.active) :
      connId ∈ state.registry.registered := mem_registered.mpr ⟨thread, (mem_active.mp active).1⟩
  rcases distinct.counted left connId first with here | one
  · rcases distinct.counted right connId second with there | other
    · cases here.symm.trans there
      rfl
    · exact absurd (registered other) (distinct.fresh here first)
  · rcases distinct.counted right connId second with there | other
    · exact absurd (registered one) (distinct.fresh there second)
    · exact distinct.consistent.wellFormed.unique (mem_active.mp one).1 (mem_active.mp other).1

theorem Distinct.nobody_runs (distinct : Distinct state) (here : state.pc = .closing) (empty : state.registry.size = 0)
    (thread : Nat) : ¬ Runs state thread := by
  rintro ⟨connId, running⟩
  have active := distinct.active running (by simp [here])
  rw [size_eq_active distinct.consistent.wellFormed, List.length_eq_zero_iff] at empty
  rw [empty] at active
  cases active

theorem nobody_runs_step (distinct : Distinct state) (ended : state.pc = .finished → ∀ thread, ¬ Runs state thread)
    (taken : step config state label = some next) (finished : next.pc = .finished) (thread : Nat) : ¬ Runs next thread := by
  cases step_move taken with
  | noConnection | connected | collided | registered | joined => cases finished
  | cleared site => cases site <;> cases finished
  | advanced pc move =>
      obtain rfl : pc = .finished := finished
      cases move with
      | finish here =>
          have empty : state.registry.size = 0 := by
            simp only [step, mainStep, here] at taken
            split at taken
            next => cases taken
            next left => exact Nat.eq_zero_of_not_pos left
          exact distinct.nobody_runs here empty thread
  | exited moving connId running =>
      have before : state.pc = .finished := by
        have same := notify_congr (· = MainPc.finished) (by simp) state.pc (connId ∈ state.registry.registered)
        exact same ▸ finished
      exact absurd ⟨connId, running⟩ (ended before moving)
  | broke => exact ended finished thread

end Pipes

section Watched

variable {config : ConnConfig} {transport : Statistics.Transport} {format : String} {state next : Monitored Stats}
  {label : MonitoredLabel Stats}

structure Watched (state : Monitored Stats) : Prop where
  distinct : Distinct state.run
  ended : state.run.pc = .finished → ∀ thread, ¬ Runs state.run thread
  pending : ∀ connId added, state.conn = some (connId, added) →
    state.run.pc = .connecting ∧ connId ∉ state.run.registry.registered
  inside : ∀ thread ∈ state.removed, thread < state.run.threads.length

theorem pending_step {run later : State} {label : Label} (here : run.pc = .connecting) {connId : ConnId}
    (fresh : connId ∉ run.registry.registered) (other : ∀ result, label ≠ .createConnection result)
    (taken : step config run label = some later) : later.pc = .connecting ∧ connId ∉ later.registry.registered := by
  cases step_move taken with
  | noConnection | connected => exact absurd rfl (other _)
  | collided _ _ there | registered _ _ there | joined _ there | cleared _ there => cases here.symm.trans there
  | advanced pc move => cases move <;> simp_all
  | exited moving exiting running =>
      rw [onPipeExit_registered]
      refine ⟨?_, fresh⟩
      rw [here]
      split <;> rfl
  | broke => exact ⟨here, fresh⟩

theorem threads_step {run later : State} {label : Label} (taken : step config run label = some later) :
    run.threads.length ≤ later.threads.length := by
  cases step_move taken with
  | connected | exited => simp
  | noConnection | collided | registered | joined | advanced | cleared | broke => exact Nat.le_refl _

theorem Watched.ran (watched : Watched state) {moved : Label} (fresh : FreshConnection state.run moved)
    (alone : ∀ result, moved = .createConnection result → state.conn = none)
    (taken : state.ran config moved = some next) : Watched next := by
  obtain ⟨run, stepped, rfl⟩ := Option.map_eq_some_iff.mp taken
  obtain ⟨distinct, ended, pending, inside⟩ := watched
  refine ⟨distinct.move fresh (step_move stepped), nobody_runs_step distinct ended stepped, ?_, ?_⟩
  · intro connId added made
    obtain ⟨here, unused⟩ := pending connId added made
    refine pending_step here unused ?_ stepped
    rintro result rfl
    cases (alone result rfl).symm.trans made
  · exact fun thread member => Nat.lt_of_lt_of_le (inside thread member) (threads_step stepped)

theorem Watched.step (watched : Watched state) (fresh : FreshSocket state label)
    (taken : state.step config transport format label = some next) : Watched next := by
  have ⟨distinct, ended, pending, inside⟩ := watched
  cases label with
  | createConnection result =>
      simp only [Monitored.step] at taken
      split at taken
      next => cases taken
      next here =>
        rw [not_or, not_not, not_not] at here
        cases result with
        | none => exact watched.ran (by simp [FreshConnection]) (fun _ _ => here.2) taken
        | some connId =>
            cases taken
            refine ⟨distinct, ended, ?_, inside⟩
            intro other added same
            cases same
            exact ⟨here.1, fresh⟩
  | addSocket =>
      simp only [Monitored.step] at taken
      split at taken
      next connId made =>
        obtain ⟨writer, -, rfl⟩ := Option.map_eq_some_iff.mp taken
        refine ⟨distinct, ended, ?_, inside⟩
        intro other added same
        cases same
        exact pending connId false made
      next => cases taken
  | addPipe =>
      simp only [Monitored.step] at taken
      split at taken
      next connId made =>
        have unmade : Watched ({ state with conn := none } : Monitored Stats) := ⟨distinct, ended, by simp, inside⟩
        refine unmade.ran ?_ (fun _ _ => rfl) taken
        rintro other same
        cases same
        exact (pending connId true made).2
      next => cases taken
  | main => exact watched.ran (by simp [FreshConnection]) (by simp) taken
  | raiseBreak => exact watched.ran (by simp [FreshConnection]) (by simp) taken
  | removeSocket thread =>
      simp only [Monitored.step] at taken
      split at taken
      next connId running =>
        split at taken
        next => cases taken
        next =>
          obtain ⟨writer, -, rfl⟩ := Option.map_eq_some_iff.mp taken
          refine ⟨distinct, ended, pending, ?_⟩
          intro other member
          rcases List.mem_append.mp member with earlier | last
          · exact inside other earlier
          · rw [List.mem_singleton.mp last]
            exact (List.getElem?_eq_some_iff.mp running).1
      next => cases taken
  | pipeExit thread =>
      simp only [Monitored.step] at taken
      split at taken
      next => exact watched.ran (by simp [FreshConnection]) (by simp) taken
      next => cases taken
  | checkStop =>
      obtain ⟨writer, -, rfl⟩ := Option.map_eq_some_iff.mp taken
      exact ⟨distinct, ended, pending, inside⟩
  | printStats answers =>
      obtain ⟨writer, -, rfl⟩ := Option.map_eq_some_iff.mp taken
      exact ⟨distinct, ended, pending, inside⟩
  | stop =>
      simp only [Monitored.step] at taken
      split at taken
      next =>
        obtain ⟨writer, -, rfl⟩ := Option.map_eq_some_iff.mp taken
        exact ⟨distinct, ended, pending, inside⟩
      next => cases taken

theorem running_step {run later : State} {label : Label} (unconnected : ∀ connId, label ≠ .createConnection (some connId))
    (taken : step config run label = some later) (thread : Nat) (connId : ConnId) :
    later.threads[thread]? = some ⟨connId, false⟩ ↔
      run.threads[thread]? = some ⟨connId, false⟩ ∧ label ≠ .pipeExit thread := by
  cases step_move taken with
  | connected other => exact absurd rfl (unconnected other)
  | noConnection | collided | registered | joined | advanced | cleared | broke => simp
  | exited moving exiting running =>
      simp only [getElem?_exit running, ne_eq, Label.pipeExit.injEq]
      split
      next same => simp [same]
      next different => simp [Ne.symm different]

theorem processes_ran {moved : Label} {run : State} (unconnected : ∀ connId, moved ≠ .createConnection (some connId))
    (removed : ∀ thread, moved = .pipeExit thread → thread ∈ state.removed)
    (stepped : step config state.run moved = some run) (sockid : Socket) :
    ({ state with run := run } : Monitored Stats).Processes sockid ↔ state.Processes sockid := by
  simp only [Monitored.Processes, running_step unconnected stepped]
  refine or_congr_right (exists_congr fun thread => ?_)
  constructor
  · rintro ⟨⟨running, -⟩, unremoved⟩
    exact ⟨running, unremoved⟩
  · rintro ⟨running, unremoved⟩
    exact ⟨⟨running, fun exits => unremoved (removed thread exits)⟩, unremoved⟩

theorem processes_started {connId : ConnId} {run : State} (watched : Watched state) (made : state.conn = some (connId, true))
    (stepped : step config state.run (.createConnection (some connId)) = some run) (sockid : Socket) :
    ({ state with conn := none, run := run } : Monitored Stats).Processes sockid ↔ state.Processes sockid := by
  have threads : run.threads = state.run.threads ++ [{ connId := connId }] := by
    cases step_move stepped with
    | connected => rfl
  have unremoved : state.run.threads.length ∉ state.removed := fun member => Nat.lt_irrefl _ (watched.inside _ member)
  simp only [Monitored.Processes, made, threads, reduceCtorEq, false_or, Option.some.injEq, Prod.mk.injEq, and_true]
  constructor
  · rintro ⟨thread, running, outside⟩
    by_cases old : thread < state.run.threads.length
    next =>
      rw [List.getElem?_append_left old] at running
      exact .inr ⟨thread, running, outside⟩
    next =>
      rw [List.getElem?_append_right (Nat.le_of_not_lt old)] at running
      cases List.mem_singleton.mp (List.mem_of_getElem? running)
      exact .inl rfl
  · rintro (rfl | ⟨thread, running, outside⟩)
    · exact ⟨_, List.getElem?_concat_length, unremoved⟩
    · exact ⟨thread, getElem?_connected running connId, outside⟩

theorem processes_removed {connId : ConnId} {thread : Nat} (watched : Watched state)
    (running : state.run.threads[thread]? = some ⟨connId, false⟩) (sockid : Socket) :
    ({ state with removed := state.removed ++ [thread] } : Monitored Stats).Processes sockid ↔
      sockid ≠ connId ∧ state.Processes sockid := by
  simp only [Monitored.Processes, List.mem_append, List.mem_singleton, not_or]
  constructor
  · rintro (made | ⟨other, found, unremoved, different⟩)
    · obtain ⟨here, fresh⟩ := watched.pending sockid true made
      refine ⟨?_, .inl made⟩
      rintro rfl
      have active := watched.distinct.active running (by simp [here])
      exact fresh (mem_registered.mpr ⟨thread, (mem_active.mp active).1⟩)
    · refine ⟨?_, .inr ⟨other, found, unremoved⟩⟩
      rintro rfl
      exact different (watched.distinct.running_unique found running)
  · rintro ⟨different, made | ⟨other, found, unremoved⟩⟩
    · exact .inl made
    · refine .inr ⟨other, found, unremoved, ?_⟩
      rintro rfl
      cases running.symm.trans found
      exact different rfl

inductive Effect (transport : Statistics.Transport) (format : String) (state : Monitored Stats) (label : MonitoredLabel Stats)
    (next : Monitored Stats) : Prop
  | same (processes : ∀ sockid, next.Processes sockid ↔ state.Processes sockid)
      (sock : next.writer.sock = state.writer.sock)
  | added (connId : ConnId) (processes : ∀ sockid, next.Processes sockid ↔ sockid = connId ∨ state.Processes sockid)
      (sock : next.writer.sock =
        if transport.supportsStatistics then insertSocket connId state.writer.sock else state.writer.sock)
  | removed (connId : ConnId) (processes : ∀ sockid, next.Processes sockid ↔ sockid ≠ connId ∧ state.Processes sockid)
      (sock : next.writer.sock = state.writer.sock.erase connId)
  | printed (answers : Socket → Bool → Statistics.Answer Stats) (pass : Statistics.Pass Stats) (empty : pass.kept = [])
      (processes : ∀ sockid, next.Processes sockid ↔ state.Processes sockid)
      (printing : label = .printStats answers)
      (sock : next.writer.sock = (state.writer.sock.foldl (printSocket transport format answers) pass).kept)

theorem effect_of_ran {moved : Label} (unconnected : ∀ connId, moved ≠ .createConnection (some connId))
    (removed : ∀ thread, moved = .pipeExit thread → thread ∈ state.removed) (taken : state.ran config moved = some next) :
    Effect transport format state label next := by
  obtain ⟨run, stepped, rfl⟩ := Option.map_eq_some_iff.mp taken
  exact .same (processes_ran unconnected removed stepped) rfl

theorem effect_of_step (watched : Watched state) (taken : state.step config transport format label = some next) :
    Effect transport format state label next := by
  cases label with
  | createConnection result =>
      simp only [Monitored.step] at taken
      split at taken
      next => cases taken
      next here =>
        rw [not_or, not_not, not_not] at here
        cases result with
        | none => exact effect_of_ran (by simp) (by simp) taken
        | some connId =>
            cases taken
            exact .same (by simp [Monitored.Processes, here.2]) rfl
  | addSocket =>
      simp only [Monitored.step] at taken
      split at taken
      next connId made =>
        obtain ⟨writer, wrote, rfl⟩ := Option.map_eq_some_iff.mp taken
        cases wrote
        exact .added connId (by simp [Monitored.Processes, made, eq_comm]) (addSocket_sock _ _)
      next => cases taken
  | addPipe =>
      simp only [Monitored.step] at taken
      split at taken
      next connId made =>
        obtain ⟨run, stepped, rfl⟩ := Option.map_eq_some_iff.mp taken
        exact .same (processes_started watched made stepped) rfl
      next => cases taken
  | main => exact effect_of_ran (by simp) (by simp) taken
  | raiseBreak => exact effect_of_ran (by simp) (by simp) taken
  | removeSocket thread =>
      simp only [Monitored.step] at taken
      split at taken
      next connId running =>
        split at taken
        next => cases taken
        next =>
          obtain ⟨writer, wrote, rfl⟩ := Option.map_eq_some_iff.mp taken
          cases wrote
          exact .removed connId (processes_removed watched running) rfl
      next => cases taken
  | pipeExit thread =>
      simp only [Monitored.step] at taken
      split at taken
      next removed =>
        refine effect_of_ran (by simp) ?_ taken
        rintro other same
        cases same
        exact removed
      next => cases taken
  | checkStop =>
      obtain ⟨writer, wrote, rfl⟩ := Option.map_eq_some_iff.mp taken
      simp only [Statistics.step] at wrote
      split at wrote <;> cases wrote
      exact .same (fun _ => Iff.rfl) rfl
  | printStats answers =>
      obtain ⟨writer, wrote, rfl⟩ := Option.map_eq_some_iff.mp taken
      simp only [Statistics.step] at wrote
      split at wrote <;> cases wrote
      exact .printed answers _ rfl (fun _ => Iff.rfl) rfl rfl
  | stop =>
      simp only [Monitored.step] at taken
      split at taken
      next =>
        obtain ⟨writer, wrote, rfl⟩ := Option.map_eq_some_iff.mp taken
        cases wrote
        exact .same (fun _ => Iff.rfl) rfl
      next => cases taken

structure Sound (state : Monitored Stats) : Prop where
  nodup : state.writer.sock.Nodup
  processed : ∀ sockid ∈ state.writer.sock, state.Processes sockid

theorem Sound.step (sound : Sound state) (effect : Effect transport format state label next) : Sound next := by
  obtain ⟨nodup, processed⟩ := sound
  cases effect with
  | same processes sock =>
      rw [← sock] at nodup processed
      exact ⟨nodup, fun sockid member => (processes sockid).mpr (processed sockid member)⟩
  | added connId processes sock =>
      cases supports : transport.supportsStatistics with
      | false =>
          simp only [supports, Bool.false_eq_true, if_false] at sock
          rw [← sock] at nodup processed
          exact ⟨nodup, fun sockid member => (processes sockid).mpr (.inr (processed sockid member))⟩
      | true =>
          simp only [supports, if_true] at sock
          refine ⟨sock ▸ insertSocket_nodup nodup connId, fun sockid member => (processes sockid).mpr ?_⟩
          rw [sock, mem_insertSocket] at member
          exact member.imp_right (processed sockid)
  | removed connId processes sock =>
      refine ⟨sock ▸ nodup.erase connId, fun sockid member => (processes sockid).mpr ?_⟩
      rw [sock, nodup.mem_erase_iff] at member
      exact ⟨member.1, processed sockid member.2⟩
  | printed answers pass empty processes printing sock =>
      have sublist : next.writer.sock.Sublist (pass.kept ++ state.writer.sock) := sock ▸ foldl_kept_sublist _ pass
      rw [empty, List.nil_append] at sublist
      exact ⟨nodup.sublist sublist, fun sockid member => (processes sockid).mpr (processed sockid (sublist.subset member))⟩

theorem complete_step (supported : transport.supportsStatistics = true) (nodup : state.writer.sock.Nodup)
    (complete : ∀ sockid, state.Processes sockid → sockid ∈ state.writer.sock)
    (answering : Answering transport format state label) (effect : Effect transport format state label next)
    (sockid : Socket) (processed : next.Processes sockid) : sockid ∈ next.writer.sock := by
  cases effect with
  | same processes sock =>
      rw [sock]
      exact complete sockid ((processes sockid).mp processed)
  | added connId processes sock =>
      rw [sock, if_pos supported, mem_insertSocket]
      exact ((processes sockid).mp processed).imp_right (complete sockid)
  | removed connId processes sock =>
      obtain ⟨different, before⟩ := (processes sockid).mp processed
      rw [sock, nodup.mem_erase_iff]
      exact ⟨different, complete sockid before⟩
  | printed answers pass empty processes printing sock =>
      subst printing
      rw [sock, foldl_kept_answered state.writer.sock pass answering, empty, List.nil_append]
      exact complete sockid ((processes sockid).mp processed)

theorem initial_watched : Watched ({} : Monitored Stats) ∧ Sound ({} : Monitored Stats) :=
  ⟨⟨initial_distinct, by simp, by simp, by simp⟩, ⟨by simp, by simp⟩⟩

theorem sound_of_reachable (reached : Reachable (Monitored.step config transport format) FreshSocket {} state) :
    Watched state ∧ Sound state := by
  refine reached.invariant (fun state : Monitored Stats => Watched state ∧ Sound state) initial_watched ?_
  rintro state label next ⟨watched, sound⟩ fresh taken
  exact ⟨watched.step fresh taken, sound.step (effect_of_step watched taken)⟩

theorem fresh_of_answering (answering : Answering transport format state label) : FreshSocket state label := by
  cases label with
  | createConnection result =>
      cases result with
      | none => trivial
      | some connId => exact answering
  | addSocket | addPipe | main | raiseBreak | removeSocket | pipeExit | checkStop | printStats | stop => trivial

theorem complete_of_reachable (supported : transport.supportsStatistics = true)
    (reached : Reachable (Monitored.step config transport format) (Answering transport format) {} state) :
    ∀ sockid, state.Processes sockid → sockid ∈ state.writer.sock := by
  have complete := reached.invariant (fun state : Monitored Stats => (Watched state ∧ Sound state) ∧
    ∀ sockid, state.Processes sockid → sockid ∈ state.writer.sock) ?_ ?_
  · exact complete.2
  · exact ⟨initial_watched, by simp [Monitored.Processes]⟩
  · rintro state label next ⟨⟨watched, sound⟩, complete⟩ answering taken
    have effect := effect_of_step watched taken
    exact ⟨⟨watched.step (fresh_of_answering answering) taken, sound.step effect⟩,
      complete_step supported sound.nodup complete answering effect⟩

end Watched

theorem statistics_follow_the_connections (config : ConnConfig) (transport : Statistics.Transport) (format : String)
    (state : Monitored Stats) (reached : Reachable (Monitored.step config transport format) FreshSocket {} state) :
    (∀ sockid ∈ state.writer.sock, state.Processes sockid) ∧
      (state.run.pc = .finished → state.writer.sock = [] ∧ ∀ thread, ¬ Runs state.run thread) ∧
      (transport.supportsStatistics = true →
        Reachable (Monitored.step config transport format) (Answering transport format) {} state →
        ∀ sockid, sockid ∈ state.writer.sock ↔ state.Processes sockid) := by
  obtain ⟨watched, sound⟩ := sound_of_reachable reached
  refine ⟨sound.processed, fun finished => ?_, fun supported answering sockid => ?_⟩
  · have nobody := watched.ended finished
    refine ⟨List.eq_nil_iff_forall_not_mem.mpr fun sockid member => ?_, nobody⟩
    rcases sound.processed sockid member with made | ⟨thread, running, -⟩
    · cases finished.symm.trans (watched.pending sockid true made).1
    · exact nobody thread ⟨sockid, running⟩
  · exact ⟨sound.processed sockid, complete_of_reachable supported answering sockid⟩

def printedTwice (answers : Socket → Bool → Statistics.Answer Nat) : List (MonitoredLabel Nat) :=
  [.createConnection (some 7), .addSocket, .checkStop, .printStats answers, .addPipe, .main, .checkStop, .printStats answers,
    .main, .removeSocket 0, .pipeExit 0, .main]

theorem statistics_follow_the_connections_printed_twice :
    ∃ state : Monitored Nat, Reachable (Monitored.step {} .srt "csv") FreshSocket {} state ∧
      state.writer.logfile = [.header, .row ⟨7, some 0, 41⟩, .row ⟨7, some 0, 41⟩] ∧ state.writer.sock = [] := by
  let answers : Socket → Bool → Statistics.Answer Nat := fun _ _ => { bstats := some 41 }
  have printed : (run (Monitored.step {} .srt "csv") {} (printedTwice answers)).map
      (fun state => (state.run.pc, state.writer.logfile)) =
      some (.finished, [.header, .row ⟨7, some 0, 41⟩, .row ⟨7, some 0, 41⟩]) := by decide
  obtain ⟨state, ran, same⟩ := Option.map_eq_some_iff.mp printed
  obtain ⟨finished, logfile⟩ := Prod.mk.injEq _ _ _ _ ▸ same
  have reached : Reachable (Monitored.step {} .srt "csv") FreshSocket {} state :=
    Reachable.initial.run (printedTwice answers) (by decide) ran
  obtain ⟨-, ended, -⟩ := statistics_follow_the_connections {} .srt "csv" state reached
  exact ⟨state, reached, logfile, (ended finished).1⟩

end XTransmit.Connections
