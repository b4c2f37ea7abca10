import Mathlib.Data.List.TakeWhile
import Mathlib.Algebra.Order.Group.Nat
import Mathlib.Tactic.Ring

set_option autoImplicit false

namespace Bytes

section Ranges

variable {α : Type}

def slice (offset width : Nat) (memory : List α) : List α :=
  (memory.drop offset).take width

def overwrite (offset : Nat) (field memory : List α) : List α :=
  memory.take offset ++ field ++ memory.drop (offset + field.length)

def load (offset width : Nat) (memory : List α) : Option (List α) :=
  if offset + width ≤ memory.length then some (slice offset width memory) else none

def store (offset : Nat) (field memory : List α) : Option (List α) :=
  if offset + field.length ≤ memory.length then some (overwrite offset field memory) else none

@[simp] theorem slice_getElem? (offset width : Nat) (memory : List α) (index : Nat) :
    (slice offset width memory)[index]? = if index < width then memory[offset + index]? else none := by
  simp [slice, List.getElem?_take, List.getElem?_drop]

theorem overwrite_getElem? (offset : Nat) (field memory : List α) (index : Nat)
    (fits : offset + field.length ≤ memory.length) :
    (overwrite offset field memory)[index]? =
      if offset ≤ index ∧ index < offset + field.length then field[index - offset]?
      else memory[index]? := by
  have front : (memory.take offset).length = offset := by simp; omega
  rw [overwrite, List.append_assoc, List.getElem?_append, front]
  by_cases before : index < offset
  · simp [before, Nat.not_le.mpr before]
  · rw [if_neg before, List.getElem?_append]
    by_cases within : index - offset < field.length
    · rw [if_pos within, if_pos (by omega)]
    · rw [if_neg within, if_neg (by omega), List.getElem?_drop]
      congr 1
      omega

@[simp] theorem length_overwrite (offset : Nat) (field memory : List α)
    (fits : offset + field.length ≤ memory.length) :
    (overwrite offset field memory).length = memory.length := by
  simp [overwrite]
  omega

theorem slice_overwrite (offset : Nat) (field memory : List α)
    (fits : offset + field.length ≤ memory.length) :
    slice offset field.length (overwrite offset field memory) = field := by
  apply List.ext_getElem?
  intro index
  rw [slice_getElem?, overwrite_getElem? _ _ _ _ fits]
  by_cases within : index < field.length
  · rw [if_pos within, if_pos (by omega), Nat.add_sub_cancel_left]
  · rw [if_neg within, List.getElem?_eq_none (by omega)]

theorem slice_overwrite_disjoint (offset width target : Nat) (field memory : List α)
    (fits : target + field.length ≤ memory.length)
    (apart : offset + width ≤ target ∨ target + field.length ≤ offset) :
    slice offset width (overwrite target field memory) = slice offset width memory := by
  apply List.ext_getElem?
  intro index
  rw [slice_getElem?, slice_getElem?, overwrite_getElem? _ _ _ _ fits]
  by_cases within : index < width
  · rw [if_pos within, if_pos within, if_neg (by omega)]
  · rw [if_neg within, if_neg within]

def overwriteAll (fields : List (Nat × List α)) (memory : List α) : List α :=
  fields.foldl (fun current field => overwrite field.1 field.2 current) memory

def Apart (left right : Nat × List α) : Prop :=
  left.1 + left.2.length ≤ right.1 ∨ right.1 + right.2.length ≤ left.1

theorem length_overwriteAll (fields : List (Nat × List α)) (memory : List α)
    (fit : ∀ field ∈ fields, field.1 + field.2.length ≤ memory.length) :
    (overwriteAll fields memory).length = memory.length := by
  induction fields generalizing memory with
  | nil => rfl
  | cons field rest ih =>
      have first := length_overwrite field.1 field.2 memory (fit field (by simp))
      have later := ih (overwrite field.1 field.2 memory)
        (fun next member => by rw [first]; exact fit next (List.mem_cons_of_mem _ member))
      exact later.trans first

theorem slice_overwriteAll_disjoint (offset width : Nat) (fields : List (Nat × List α))
    (memory : List α) (fit : ∀ field ∈ fields, field.1 + field.2.length ≤ memory.length)
    (apart : ∀ field ∈ fields, offset + width ≤ field.1 ∨ field.1 + field.2.length ≤ offset) :
    slice offset width (overwriteAll fields memory) = slice offset width memory := by
  induction fields generalizing memory with
  | nil => rfl
  | cons field rest ih =>
      have first := length_overwrite field.1 field.2 memory (fit field (by simp))
      have later := ih (overwrite field.1 field.2 memory)
        (fun next member => by rw [first]; exact fit next (List.mem_cons_of_mem _ member))
        (fun next member => apart next (List.mem_cons_of_mem _ member))
      exact later.trans
        (slice_overwrite_disjoint _ _ _ _ _ (fit field (by simp)) (apart field (by simp)))

theorem slice_overwriteAll_mem (fields : List (Nat × List α)) (memory : List α)
    (fit : ∀ field ∈ fields, field.1 + field.2.length ≤ memory.length)
    (apart : fields.Pairwise Apart) (field : Nat × List α) (member : field ∈ fields) :
    slice field.1 field.2.length (overwriteAll fields memory) = field.2 := by
  induction fields generalizing memory with
  | nil => simp at member
  | cons head rest ih =>
      have first := length_overwrite head.1 head.2 memory (fit head (by simp))
      have restFit : ∀ next ∈ rest,
          next.1 + next.2.length ≤ (overwrite head.1 head.2 memory).length := by
        intro next inside
        rw [first]
        exact fit next (List.mem_cons_of_mem _ inside)
      rcases List.mem_cons.mp member with same | inside
      · subst same
        -- The later writes leave the head's range alone.
        have kept := slice_overwriteAll_disjoint field.1 field.2.length rest _ restFit
          (fun next inside => List.rel_of_pairwise_cons apart inside)
        exact kept.trans (slice_overwrite _ _ _ (fit field (by simp)))
      · exact ih _ restFit (List.Pairwise.of_cons apart) inside

theorem slice_append_left (offset width : Nat) (memory rest : List α)
    (fits : offset + width ≤ memory.length) :
    slice offset width (memory ++ rest) = slice offset width memory := by
  apply List.ext_getElem?
  intro index
  rw [slice_getElem?, slice_getElem?]
  by_cases within : index < width
  · rw [if_pos within, if_pos within, List.getElem?_append_left (by omega)]
  · rw [if_neg within, if_neg within]

theorem slice_congr (offset width limit : Nat) (left right : List α)
    (same : left.take limit = right.take limit) (inside : offset + width ≤ limit) :
    slice offset width left = slice offset width right := by
  apply List.ext_getElem?
  intro index
  rw [slice_getElem?, slice_getElem?]
  by_cases within : index < width
  · have cell := congrArg (·[offset + index]?) same
    simp only [List.getElem?_take, if_pos (show offset + index < limit by omega)] at cell
    rw [if_pos within, if_pos within, cell]
  · rw [if_neg within, if_neg within]

theorem store_eq_some (offset : Nat) (field memory : List α)
    (fits : offset + field.length ≤ memory.length) :
    store offset field memory = some (overwrite offset field memory) := if_pos fits

theorem load_eq_some (offset width : Nat) (memory : List α)
    (fits : offset + width ≤ memory.length) :
    load offset width memory = some (slice offset width memory) := if_pos fits

end Ranges

def littleEndian : Nat → Nat → List UInt8
  | 0, _ => []
  | width + 1, value => UInt8.ofNat value :: littleEndian width (value / 256)

def ofLittleEndian : List UInt8 → Nat
  | [] => 0
  | byte :: rest => byte.toNat + 256 * ofLittleEndian rest

@[simp] theorem length_littleEndian (width value : Nat) :
    (littleEndian width value).length = width := by
  induction width generalizing value with
  | zero => rfl
  | succ width ih => simp [littleEndian, ih]

theorem ofLittleEndian_littleEndian (width value : Nat) :
    ofLittleEndian (littleEndian width value) = value % 256 ^ width := by
  induction width generalizing value with
  | zero => simp [littleEndian, ofLittleEndian, Nat.mod_one]
  | succ width ih =>
      rw [littleEndian, ofLittleEndian, ih, UInt8.toNat_ofNat', pow_succ' 256 width, Nat.mod_mul]

-- A C string ends at the first zero; without one the scan leaves the memory.
def cString (memory : List UInt8) : Option (List UInt8) :=
  if 0 ∈ memory then some (memory.takeWhile (· ≠ 0)) else none

theorem takeWhile_nulFree (text rest : List UInt8) (nulFree : 0 ∉ text) :
    (text ++ 0 :: rest).takeWhile (· ≠ 0) = text := by
  have nonzero : ∀ byte ∈ text, decide (byte ≠ 0) = true := by
    intro byte member
    have nonzero : byte ≠ 0 := fun zero => nulFree (zero ▸ member)
    simpa using nonzero
  rw [List.takeWhile_append_of_pos nonzero]
  simp

theorem terminatedText_inside (memory : List UInt8) (terminated : 0 ∈ memory) :
    memory.takeWhile (· ≠ 0) ++ [0] <+: memory := by
  induction memory with
  | nil => simp at terminated
  | cons byte rest ih =>
      by_cases zero : byte = 0
      · simp [zero]
      · have later : 0 ∈ rest := by
          rcases List.mem_cons.mp terminated with same | inside
          · exact absurd same.symm zero
          · exact inside
        simpa [List.takeWhile_cons, zero] using ih later

theorem length_takeWhile_nul (memory : List UInt8) (terminated : 0 ∈ memory) :
    (memory.takeWhile (· ≠ 0)).length < memory.length := by
  have inside := (terminatedText_inside memory terminated).length_le
  rw [List.length_append, List.length_singleton] at inside
  omega

theorem cString_terminated (memory rest : List UInt8) (terminated : 0 ∈ memory) :
    cString (memory ++ rest) = some (memory.takeWhile (· ≠ 0)) := by
  have inside := length_takeWhile_nul memory terminated
  rw [cString, if_pos (List.mem_append_left _ terminated), List.takeWhile_append, if_neg (by omega)]

end Bytes
