import Mathlib.Algebra.Group.Int.Defs
import Mathlib.Algebra.Group.Nat.Defs
import Mathlib.Data.Finset.Card
import Mathlib.Data.Finset.Insert
import Mathlib.Data.Finset.Range
import Mathlib.Data.Finset.Sort
import Mathlib.Data.List.Nodup

set_option autoImplicit false

namespace XTransmit.Connections

abbrev ConnId := Int32

structure ConcurrentPipes where
  pipes : List (ConnId × Nat) := []
  toClose : Finset ConnId := ∅
deriving DecidableEq

namespace ConcurrentPipes

variable (registry : ConcurrentPipes)

def registered : List ConnId := registry.pipes.map Prod.fst

-- `m_pipes.emplace`: a key that is present keeps its old future.
def emplace (connId : ConnId) (thread : Nat) : ConcurrentPipes :=
  if connId ∈ registry.registered then registry
  else { registry with pipes := registry.pipes ++ [(connId, thread)] }

def onPipeExit (connId : ConnId) : ConcurrentPipes × Bool :=
  if connId ∈ registry.registered then
    ({ registry with toClose := insert connId registry.toClose }, true)
  else (registry, false)

-- `m_pipes.size() - m_to_close.size()` is a `size_t` difference.
def size : Nat :=
  (((registry.pipes.length : Int) - (registry.toClose.card : Int)) % 2 ^ 64).toNat

def clear : ConcurrentPipes :=
  { pipes := registry.pipes.filter (·.1 ∉ registry.toClose), toClose := ∅ }

def active : List (ConnId × Nat) := registry.pipes.filter (·.1 ∉ registry.toClose)

structure WellFormed : Prop where
  nodup : registry.registered.Nodup
  closing : ∀ connId ∈ registry.toClose, connId ∈ registry.registered

end ConcurrentPipes

open ConcurrentPipes

variable {registry : ConcurrentPipes}

theorem mem_registered {connId : ConnId} :
    connId ∈ registry.registered ↔ ∃ thread, (connId, thread) ∈ registry.pipes := by
  simp [registered]

theorem ConcurrentPipes.WellFormed.unique (wellFormed : registry.WellFormed) {connId : ConnId} {left right : Nat}
    (first : (connId, left) ∈ registry.pipes) (second : (connId, right) ∈ registry.pipes) :
    left = right :=
  congrArg Prod.snd (List.inj_on_of_nodup_map wellFormed.nodup first second rfl)

theorem empty_wellFormed : WellFormed {} where
  nodup := by simp [registered]
  closing := by simp

theorem emplace_wellFormed (wellFormed : registry.WellFormed) (connId : ConnId) (thread : Nat) :
    (registry.emplace connId thread).WellFormed := by
  unfold emplace
  split
  next => exact wellFormed
  next fresh =>
    constructor
    · simp only [registered, List.map_append, List.map_cons, List.map_nil]
      exact List.Nodup.append wellFormed.nodup (by simp) (List.disjoint_singleton.mpr fresh)
    · intro closed member
      simp only [registered, List.map_append, List.mem_append]
      exact .inl (wellFormed.closing closed member)

theorem onPipeExit_wellFormed (wellFormed : registry.WellFormed) (connId : ConnId) :
    (registry.onPipeExit connId).1.WellFormed := by
  unfold onPipeExit
  split
  next found =>
    refine ⟨wellFormed.nodup, ?_⟩
    intro closed member
    rcases Finset.mem_insert.mp member with same | earlier
    · exact same ▸ found
    · exact wellFormed.closing closed earlier
  next => exact wellFormed

theorem clear_wellFormed (wellFormed : registry.WellFormed) : registry.clear.WellFormed where
  nodup := wellFormed.nodup.sublist (List.filter_sublist.map Prod.fst)
  closing := by simp [clear]

theorem length_pipes_le (wellFormed : registry.WellFormed) : registry.pipes.length ≤ 2 ^ 32 := by
  have injective : Function.Injective fun connId : ConnId => connId.toBitVec.toNat :=
    fun left right same => Int32.toBitVec_inj.mp (BitVec.eq_of_toNat_eq same)
  have bounded : (registry.registered.map fun connId => connId.toBitVec.toNat).toFinset ⊆
      Finset.range (2 ^ 32) := by
    intro value member
    obtain ⟨connId, -, rfl⟩ := List.mem_map.mp (List.mem_toFinset.mp member)
    exact Finset.mem_range.mpr connId.toBitVec.isLt
  have card := Finset.card_le_card bounded
  rw [List.toFinset_card_of_nodup (wellFormed.nodup.map injective)] at card
  simpa [registered] using card

theorem active_add_closing (wellFormed : registry.WellFormed) :
    registry.active.length + registry.toClose.card = registry.pipes.length := by
  have marked : (registry.pipes.filter (·.1 ∈ registry.toClose)).map Prod.fst =
      registry.registered.filter (· ∈ registry.toClose) := by
    rw [registered, List.filter_map]
    rfl
  have closing : (registry.pipes.filter (·.1 ∈ registry.toClose)).length = registry.toClose.card := by
    rw [← List.length_map (f := Prod.fst), marked,
      ← List.toFinset_card_of_nodup (wellFormed.nodup.filter _)]
    congr 1
    ext connId
    simpa using fun member => wellFormed.closing connId member
  have split := List.length_eq_length_filter_add (l := registry.pipes) (·.1 ∈ registry.toClose)
  have rest : registry.active = registry.pipes.filter fun pipe => !decide (pipe.1 ∈ registry.toClose) := by
    simp [active]
  rw [rest]
  omega

theorem size_eq_active (wellFormed : registry.WellFormed) : registry.size = registry.active.length := by
  have total := active_add_closing wellFormed
  have bound := length_pipes_le wellFormed
  rw [size]
  omega

theorem active_emplace (wellFormed : registry.WellFormed) (connId : ConnId) (thread : Nat)
    (fresh : connId ∉ registry.registered) :
    (registry.emplace connId thread).active.length = registry.active.length + 1 := by
  have unmarked : connId ∉ registry.toClose := fun member => fresh (wellFormed.closing connId member)
  simp [emplace, fresh, active, unmarked]

theorem active_onPipeExit (wellFormed : registry.WellFormed) (connId : ConnId)
    (found : connId ∈ registry.registered) (unmarked : connId ∉ registry.toClose) :
    (registry.onPipeExit connId).1.active.length + 1 = registry.active.length := by
  have before := active_add_closing wellFormed
  have after := active_add_closing (onPipeExit_wellFormed wellFormed connId)
  have marks : (registry.onPipeExit connId).1.toClose.card = registry.toClose.card + 1 := by
    simp [onPipeExit, found, Finset.card_insert_of_notMem unmarked]
  have kept : (registry.onPipeExit connId).1.pipes = registry.pipes := by simp [onPipeExit, found]
  rw [marks, kept] at after
  omega

theorem onPipeExit_unknown (connId : ConnId) (unknown : connId ∉ registry.registered) :
    registry.onPipeExit connId = (registry, false) := by
  simp [onPipeExit, unknown]

@[simp] theorem onPipeExit_pipes (connId : ConnId) :
    (registry.onPipeExit connId).1.pipes = registry.pipes := by
  unfold onPipeExit
  split <;> rfl

@[simp] theorem onPipeExit_registered (connId : ConnId) :
    (registry.onPipeExit connId).1.registered = registry.registered := by
  simp [registered]

theorem mem_onPipeExit_toClose (connId other : ConnId) :
    other ∈ (registry.onPipeExit connId).1.toClose ↔
      other ∈ registry.toClose ∨ other = connId ∧ connId ∈ registry.registered := by
  unfold onPipeExit
  split
  next found => simp [found, or_comm]
  next unknown => simp [unknown]

@[simp] theorem active_clear : registry.clear.active = registry.active := by
  simp [clear, active]

theorem mem_active {pipe : ConnId × Nat} :
    pipe ∈ registry.active ↔ pipe ∈ registry.pipes ∧ pipe.1 ∉ registry.toClose := by
  simp [active]

instance transInt32Le : IsTrans Int32 (· ≤ ·) := ⟨fun _ _ _ => Int32.le_trans⟩

def ConcurrentPipes.cleanUp (registry : ConcurrentPipes) : ConcurrentPipes :=
  { pipes := (registry.toClose.sort (· ≤ ·)).foldl (fun pipes id => pipes.filter (·.1 ≠ id)) registry.pipes
    toClose := ∅ }

theorem foldl_erase (ids : List ConnId) (pipes : List (ConnId × Nat)) :
    ids.foldl (fun pipes id => pipes.filter (·.1 ≠ id)) pipes = pipes.filter (·.1 ∉ ids) := by
  induction ids generalizing pipes with
  | nil => simp
  | cons id rest ih =>
      rw [List.foldl_cons, ih, List.filter_filter]
      congr 1
      funext pipe
      simp [Bool.and_comm]

theorem cleanUp_eq_clear : registry.cleanUp = registry.clear := by
  rw [cleanUp, foldl_erase]
  simp [clear]

theorem mem_registered_clear (connId : ConnId) :
    connId ∈ registry.clear.registered ↔ connId ∈ registry.registered ∧ connId ∉ registry.toClose := by
  simp [clear, mem_registered]

theorem size_no_wrap (wellFormed : registry.WellFormed) :
    (registry.size : Int) = registry.pipes.length - registry.toClose.card := by
  have total := active_add_closing wellFormed
  rw [size_eq_active wellFormed]
  omega

inductive PipesCall where
  | addPipe (connId : ConnId) (thread : Nat)
  | onPipeExit (connId : ConnId)
  | wait
  | size
  deriving DecidableEq, Repr

def ConcurrentPipes.call (registry : ConcurrentPipes) : PipesCall → ConcurrentPipes
  | .addPipe connId thread => registry.emplace connId thread
  | .onPipeExit connId => (registry.onPipeExit connId).1
  | .wait => registry.cleanUp
  | .size => registry

theorem call_wellFormed (wellFormed : registry.WellFormed) (call : PipesCall) : (registry.call call).WellFormed := by
  cases call with
  | addPipe connId thread => exact emplace_wellFormed wellFormed connId thread
  | onPipeExit connId => exact onPipeExit_wellFormed wellFormed connId
  | wait =>
      rw [ConcurrentPipes.call, cleanUp_eq_clear]
      exact clear_wellFormed wellFormed
  | size => exact wellFormed

theorem calls_wellFormed (wellFormed : registry.WellFormed) (calls : List PipesCall) :
    (calls.foldl ConcurrentPipes.call registry).WellFormed := by
  induction calls generalizing registry with
  | nil => exact wellFormed
  | cons call rest ih => exact ih (call_wellFormed wellFormed call)

theorem active_count_never_underflows (calls : List PipesCall) :
    let registry := calls.foldl ConcurrentPipes.call {}
    (∀ connId ∈ registry.toClose, connId ∈ registry.registered) ∧
      (registry.size : Int) = registry.pipes.length - registry.toClose.card ∧
      (∀ connId, ((registry.onPipeExit connId).1.size : Int) =
        (registry.onPipeExit connId).1.pipes.length - (registry.onPipeExit connId).1.toClose.card) ∧
      registry.cleanUp.toClose = ∅ ∧
      ∀ connId, connId ∈ registry.cleanUp.registered ↔ connId ∈ registry.registered ∧ connId ∉ registry.toClose := by
  intro registry
  have wellFormed : registry.WellFormed := calls_wellFormed empty_wellFormed calls
  refine ⟨wellFormed.closing, size_no_wrap wellFormed, ?_, rfl, ?_⟩
  · intro connId
    exact size_no_wrap (onPipeExit_wellFormed wellFormed connId)
  · rw [cleanUp_eq_clear]
    exact mem_registered_clear

end XTransmit.Connections
