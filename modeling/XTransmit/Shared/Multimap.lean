import Mathlib.Data.List.TakeWhile
import Mathlib.Order.Lattice

set_option autoImplicit false

structure Multimap (Key Value : Type) [LinearOrder Key] where
  entries : List (Key × Value)
  sorted : entries.Pairwise fun left right => left.1 ≤ right.1

namespace Multimap

variable {Key Value : Type} [LinearOrder Key]

def empty : Multimap Key Value where
  entries := []
  sorted := .nil

variable (map : Multimap Key Value)

def upperBound (key : Key) : Nat := (map.entries.takeWhile fun entry => entry.1 ≤ key).length

theorem take_upperBound (key : Key) :
    map.entries.take (map.upperBound key) = map.entries.takeWhile fun entry => entry.1 ≤ key :=
  (List.prefix_iff_eq_take.mp (List.takeWhile_prefix _)).symm

theorem le_of_mem_take {key : Key} {entry : Key × Value}
    (member : entry ∈ map.entries.take (map.upperBound key)) : entry.1 ≤ key := by
  rw [take_upperBound] at member
  simpa using List.mem_takeWhile_imp member

theorem lt_of_mem_drop {key : Key} {entry : Key × Value}
    (member : entry ∈ map.entries.drop (map.upperBound key)) : key < entry.1 := by
  obtain ⟨entries, sorted⟩ := map
  simp only [upperBound] at member
  induction entries with
  | nil => simp at member
  | cons first rest ih =>
      obtain ⟨least, sortedRest⟩ := List.pairwise_cons.mp sorted
      by_cases reached : first.1 ≤ key
      next =>
        simp only [List.takeWhile_cons, reached, decide_true, if_true, List.length_cons, List.drop_succ_cons] at member
        exact ih sortedRest member
      next =>
        simp only [List.takeWhile_cons, reached, decide_false, Bool.false_eq_true, if_false, List.length_nil,
          List.drop_zero, List.mem_cons] at member
        rcases member with same | behind
        · exact same ▸ not_le.mp reached
        · exact lt_of_lt_of_le (not_le.mp reached) (least entry behind)

theorem pairwise_insert {related : Key × Value → Key × Value → Prop} {key : Key} {value : Value}
    (before : map.entries.Pairwise related)
    (left : ∀ entry ∈ map.entries, entry.1 ≤ key → related entry (key, value))
    (right : ∀ entry ∈ map.entries, key < entry.1 → related (key, value) entry) :
    (map.entries.take (map.upperBound key) ++ (key, value) :: map.entries.drop (map.upperBound key)).Pairwise
      related := by
  rw [← List.take_append_drop (map.upperBound key) map.entries, List.pairwise_append] at before
  obtain ⟨first, second, across⟩ := before
  refine List.pairwise_append.mpr ⟨first, List.pairwise_cons.mpr ⟨?_, second⟩, ?_⟩
  · intro entry member
    exact right entry (List.mem_of_mem_drop member) (map.lt_of_mem_drop member)
  · intro entry member later place
    rcases List.mem_cons.mp place with same | behind
    · exact same ▸ left entry (List.mem_of_mem_take member) (map.le_of_mem_take member)
    · exact across entry member later behind

def emplace (key : Key) (value : Value) : Multimap Key Value where
  entries := map.entries.take (map.upperBound key) ++ (key, value) :: map.entries.drop (map.upperBound key)
  sorted := map.pairwise_insert map.sorted (fun _ _ reached => reached) (fun _ _ beyond => le_of_lt beyond)

def eraseBefore (last : Nat) : Multimap Key Value where
  entries := map.entries.drop last
  sorted := map.sorted.sublist (List.drop_sublist _ _)

@[simp] theorem entries_empty : (empty : Multimap Key Value).entries = [] := rfl

@[simp] theorem entries_eraseBefore (last : Nat) : (map.eraseBefore last).entries = map.entries.drop last := rfl

theorem entries_emplace_perm (key : Key) (value : Value) :
    (map.emplace key value).entries.Perm ((key, value) :: map.entries) := by
  have moved : (map.emplace key value).entries.Perm
      ((key, value) :: (map.entries.take (map.upperBound key) ++ map.entries.drop (map.upperBound key))) :=
    List.perm_middle
  rwa [List.take_append_drop] at moved

def InOrder (earlier : Value → Value → Prop) : Prop :=
  map.entries.Pairwise fun left right => left.1 < right.1 ∨ left.1 = right.1 ∧ earlier left.2 right.2

theorem emplace_inOrder {earlier : Value → Value → Prop} {key : Key} {value : Value}
    (ordered : map.InOrder earlier) (last : ∀ entry ∈ map.entries, earlier entry.2 value) :
    (map.emplace key value).InOrder earlier := by
  apply map.pairwise_insert ordered
  · intro entry member reached
    rcases lt_or_eq_of_le reached with less | same
    · exact .inl less
    · exact .inr ⟨same, last entry member⟩
  · intro entry member beyond
    exact .inl beyond

theorem eraseBefore_inOrder {earlier : Value → Value → Prop} (last : Nat) (ordered : map.InOrder earlier) :
    (map.eraseBefore last).InOrder earlier :=
  ordered.sublist (List.drop_sublist _ _)

end Multimap
