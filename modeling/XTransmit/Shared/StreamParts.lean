import Mathlib.Data.List.Basic
import Mathlib.Data.List.Infix
import Mathlib.Logic.Nontrivial.Basic

set_option autoImplicit false

namespace StreamParts

variable {α : Type} (stream : Nat → α)

structure Part where
  size : Nat
  kept : Nat
  deriving DecidableEq, Repr

def chunkAt (offset size : Nat) : List α := (List.range size).map fun index => stream (offset + index)

def kept : Nat → List Part → List α
  | _, [] => []
  | offset, part :: rest => (chunkAt stream offset part.size).take part.kept ++ kept (offset + part.size) rest

def total : List Part → Nat
  | [] => 0
  | part :: rest => part.size + total rest

def Part.Short (part : Part) : Prop := part.kept < part.size

def Part.Unused (part : Part) : Prop := part.size = 0 ∨ part.kept = 0

def Gapless (parts : List Part) : Prop := parts.Pairwise fun earlier later => earlier.Short → later.Unused

instance (part : Part) : Decidable part.Short := inferInstanceAs (Decidable (_ < _))

instance (part : Part) : Decidable part.Unused := inferInstanceAs (Decidable (_ ∨ _))

instance (parts : List Part) : Decidable (Gapless parts) := inferInstanceAs (Decidable (List.Pairwise _ _))

variable {stream}

@[simp] theorem length_chunkAt (offset size : Nat) : (chunkAt stream offset size).length = size := by
  simp [chunkAt]

theorem getElem?_chunkAt {offset size index : Nat} (inside : index < size) :
    (chunkAt stream offset size)[index]? = some (stream (offset + index)) := by
  simp [chunkAt, inside]

theorem chunkAt_add (offset left right : Nat) :
    chunkAt stream offset (left + right) = chunkAt stream offset left ++ chunkAt stream (offset + left) right := by
  simp [chunkAt, List.range_add, Nat.add_assoc]

theorem chunkAt_le {offset size larger : Nat} (within : size ≤ larger) :
    chunkAt stream offset size <+: chunkAt stream offset larger := by
  obtain ⟨more, rfl⟩ := Nat.exists_eq_add_of_le within
  rw [chunkAt_add]
  exact List.prefix_append _ _

theorem take_unused {part : Part} (unused : part.Unused) (offset : Nat) :
    (chunkAt stream offset part.size).take part.kept = [] := by
  rcases unused with empty | none
  · simp [chunkAt, empty]
  · simp [none]

theorem take_full {part : Part} (full : ¬part.Short) (offset : Nat) :
    (chunkAt stream offset part.size).take part.kept = chunkAt stream offset part.size :=
  List.take_of_length_le (by simpa using Nat.le_of_not_lt full)

theorem kept_unused {parts : List Part} (unused : ∀ part ∈ parts, part.Unused) (offset : Nat) :
    kept stream offset parts = [] := by
  induction parts generalizing offset with
  | nil => rfl
  | cons part rest ih =>
      obtain ⟨here, later⟩ := List.forall_mem_cons.mp unused
      rw [kept, take_unused here, ih later, List.append_nil]

theorem kept_used {parts : List Part} {part : Part} (member : part ∈ parts) (used : ¬part.Unused) (offset : Nat) :
    kept stream offset parts ≠ [] := by
  induction parts generalizing offset with
  | nil => cases member
  | cons first rest ih =>
      rw [kept]
      rcases List.mem_cons.mp member with rfl | later
      · intro empty
        have front := congrArg List.length (List.append_eq_nil_iff.mp empty).1
        simp only [List.length_take, length_chunkAt, List.length_nil] at front
        exact used (by unfold Part.Unused; omega)
      · intro empty
        exact ih later _ (List.append_eq_nil_iff.mp empty).2

theorem mem_kept {parts : List Part} {offset : Nat} {value : α} (member : value ∈ kept stream offset parts) :
    ∃ place, offset ≤ place ∧ value = stream place := by
  induction parts generalizing offset with
  | nil => cases member
  | cons part rest ih =>
      rcases List.mem_append.mp member with front | later
      · obtain ⟨index, -, same⟩ := List.mem_map.mp (List.mem_of_mem_take front)
        exact ⟨offset + index, by omega, same.symm⟩
      · obtain ⟨place, beyond, same⟩ := ih later
        exact ⟨place, by omega, same⟩

theorem kept_of_gapless {parts : List Part} (gapless : Gapless parts) (offset : Nat) :
    kept stream offset parts <+: chunkAt stream offset (total parts) := by
  induction parts generalizing offset with
  | nil => exact List.nil_prefix
  | cons part rest ih =>
      obtain ⟨head, tail⟩ := List.pairwise_cons.mp gapless
      rw [kept, total, chunkAt_add]
      by_cases short : part.Short
      next =>
        rw [kept_unused (fun later member => head later member short), List.append_nil]
        exact (List.take_prefix _ _).trans (List.prefix_append _ _)
      next =>
        rw [take_full short]
        exact (List.prefix_append_right_inj _).mpr (ih tail _)

theorem exists_used_of_gap {part : Part} {rest : List Part} (gap : ¬Gapless (part :: rest)) :
    ∃ later ∈ rest, ¬later.Unused := by
  by_contra none
  push Not at none
  refine gap (List.pairwise_cons.mpr ⟨fun later member _ => none later member, ?_⟩)
  exact List.pairwise_of_forall_mem_list fun _ _ last member _ => none last member

-- The first value that is left out is marked: what follows in its place comes from behind the chunk.
theorem exists_content_of_short [Nontrivial α] {part later : Part} {rest : List Part} (short : part.Short)
    (member : later ∈ rest) (used : ¬later.Unused) (offset : Nat) :
    ∃ stream : Nat → α, ∀ size, ¬kept stream offset (part :: rest) <+: chunkAt stream offset size := by
  obtain ⟨marked, plain, differ⟩ := exists_pair_ne α
  let stream : Nat → α := fun place => if place = offset + part.kept then marked else plain
  refine ⟨stream, fun size within => ?_⟩
  obtain ⟨value, values, behind⟩ := List.exists_cons_of_ne_nil (kept_used member used (offset + part.size))
  obtain ⟨place, beyond, same⟩ := mem_kept (behind ▸ List.mem_cons_self : value ∈ kept stream _ rest)
  have unmarked : value = plain := by
    rw [same]
    exact if_neg (by unfold Part.Short at short; omega)
  have read : (kept stream offset (part :: rest))[part.kept]? = some plain := by
    have front : min part.kept part.size = part.kept := Nat.min_eq_left (Nat.le_of_lt short)
    rw [kept, behind, List.getElem?_append_right (by simp [front])]
    simp [front, unmarked]
  obtain ⟨reached, -⟩ := List.getElem?_eq_some_iff.mp read
  have long : part.kept < size := Nat.lt_of_lt_of_le reached (by simpa using within.length_le)
  obtain ⟨tail, whole⟩ := within
  have expected : (chunkAt stream offset size)[part.kept]? = some plain := by
    rw [← whole, List.getElem?_append_left reached, read]
  rw [getElem?_chunkAt long] at expected
  have mark : stream (offset + part.kept) = marked := if_pos rfl
  exact differ (mark ▸ Option.some.inj expected)

theorem exists_content_of_gap [Nontrivial α] {parts : List Part} (gap : ¬Gapless parts) (offset : Nat) :
    ∃ stream : Nat → α, ∀ size, ¬kept stream offset parts <+: chunkAt stream offset size := by
  induction parts generalizing offset with
  | nil => exact absurd .nil gap
  | cons part rest ih =>
      by_cases short : part.Short
      next =>
        obtain ⟨later, member, used⟩ := exists_used_of_gap gap
        exact exists_content_of_short short member used offset
      next =>
        have behind : ¬Gapless rest := fun tail =>
          gap (List.pairwise_cons.mpr ⟨fun _ _ cut => absurd cut short, tail⟩)
        obtain ⟨stream, missed⟩ := ih behind (offset + part.size)
        refine ⟨stream, fun size within => ?_⟩
        rw [kept, take_full short] at within
        have long : part.size ≤ size := by
          have bound := within.length_le
          simp only [List.length_append, length_chunkAt] at bound
          omega
        obtain ⟨more, rfl⟩ := Nat.exists_eq_add_of_le long
        rw [chunkAt_add, List.prefix_append_right_inj] at within
        exact missed more within

end StreamParts
