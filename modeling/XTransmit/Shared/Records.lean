import Mathlib.Data.Finset.Card
import Mathlib.Data.Finset.Image
import Mathlib.Data.Finset.Lattice.Fold
import Mathlib.Order.Interval.Finset.Nat
import Mathlib.Order.Lattice.Nat

set_option autoImplicit false

namespace Records

universe u

section Order

variable {α : Type u} [LinearOrder α] (value : Nat → α)

def Late (index : Nat) : Prop := ∃ earlier < index, value index ≤ value earlier

instance (index : Nat) : Decidable (Late value index) :=
  inferInstanceAs (Decidable (∃ earlier < index, value index ≤ value earlier))

def late (count : Nat) : Finset Nat := (Finset.range count).filter (Late value)

def records (count : Nat) : Finset Nat := (Finset.range count).filter fun index => ¬ Late value index

theorem late_succ (count : Nat) :
    late value (count + 1) = if Late value count then insert count (late value count) else late value count := by
  rw [late, Finset.range_add_one, Finset.filter_insert]
  rfl

theorem records_succ (count : Nat) :
    records value (count + 1) =
      if Late value count then records value count else insert count (records value count) := by
  rw [records, Finset.range_add_one, Finset.filter_insert]
  by_cases behind : Late value count
  · rw [if_neg (not_not.mpr behind), if_pos behind]
    rfl
  · rw [if_pos behind, if_neg behind]
    rfl

theorem card_late_succ (count : Nat) :
    (late value (count + 1)).card = (late value count).card + if Late value count then 1 else 0 := by
  rw [late_succ]
  split
  next => rw [Finset.card_insert_of_notMem (by simp [late])]
  next => rfl

theorem card_records_succ (count : Nat) :
    (records value (count + 1)).card = (records value count).card + if Late value count then 0 else 1 := by
  rw [records_succ]
  split
  next => rfl
  next => rw [Finset.card_insert_of_notMem (by simp [records])]

theorem card_late_add_card_records (count : Nat) :
    (late value count).card + (records value count).card = count := by
  rw [late, records, Finset.card_filter_add_card_filter_not, Finset.card_range]

variable {value}

theorem records_injective (count : Nat) : Set.InjOn value (records value count) := by
  intro left memberLeft right memberRight same
  have recordLeft : ¬ Late value left := (Finset.mem_filter.mp memberLeft).2
  have recordRight : ¬ Late value right := (Finset.mem_filter.mp memberRight).2
  rcases Nat.lt_trichotomy left right with before | equal | after
  · exact absurd ⟨left, before, same.ge⟩ recordRight
  · exact equal
  · exact absurd ⟨right, after, same.le⟩ recordLeft

theorem records_values_subset (count : Nat) :
    (records value count).image value ⊆ (Finset.range count).image value :=
  Finset.image_subset_image (Finset.filter_subset _ _)

theorem exists_first (value : Nat → α) (index : Nat) :
    ∃ first ≤ index, value first = value index ∧ ∀ earlier < first, value earlier ≠ value index := by
  classical
  have present : ∃ other, value other = value index := ⟨index, rfl⟩
  refine ⟨Nat.find present, Nat.find_min' present rfl, Nat.find_spec present, ?_⟩
  intro earlier before
  exact Nat.find_min present before

theorem card_records_eq_iff (count : Nat) :
    (records value count).card = ((Finset.range count).image value).card ↔
      ∀ index < count, Late value index → ∃ earlier < index, value earlier = value index := by
  rw [← Finset.card_image_of_injOn (records_injective count)]
  constructor
  · intro cards index inside behind
    have same := Finset.eq_of_subset_of_card_le (records_values_subset count) cards.ge
    have covered : value index ∈ (records value count).image value := by
      rw [same]
      exact Finset.mem_image_of_mem value (Finset.mem_range.mpr inside)
    obtain ⟨winner, member, equal⟩ := Finset.mem_image.mp covered
    have leading : ¬ Late value winner := (Finset.mem_filter.mp member).2
    -- A record of this value cannot come after the late element.
    rcases Nat.lt_trichotomy winner index with before | here | after
    · exact ⟨winner, before, equal⟩
    · exact absurd (here ▸ behind) leading
    · exact absurd ⟨index, after, equal.le⟩ leading
  · intro repeats
    apply congrArg Finset.card
    apply (records_values_subset count).antisymm
    intro point member
    obtain ⟨index, inside, rfl⟩ := Finset.mem_image.mp member
    obtain ⟨first, before, same, fresh⟩ := exists_first value index
    have within : first < count := lt_of_le_of_lt before (Finset.mem_range.mp inside)
    have leading : ¬ Late value first := by
      intro behind
      obtain ⟨earlier, prior, equal⟩ := repeats first within behind
      exact fresh earlier prior (equal.trans same)
    rw [← same]
    exact Finset.mem_image_of_mem value (Finset.mem_filter.mpr ⟨Finset.mem_range.mpr within, leading⟩)

end Order

section Bounds

variable (value : Nat → Nat)

-- One above the largest value, zero for the empty sequence.
def bound (count : Nat) : Nat := (Finset.range count).sup fun index => value index + 1

def lateDistance (count : Nat) : Nat := (late value count).sup fun index => bound value index - value index

theorem bound_succ (count : Nat) : bound value (count + 1) = max (bound value count) (value count + 1) := by
  rw [bound, Finset.range_add_one, Finset.sup_insert]
  exact max_comm _ _

theorem lateDistance_succ (count : Nat) :
    lateDistance value (count + 1) =
      if Late value count then max (lateDistance value count) (bound value count - value count)
      else lateDistance value count := by
  rw [lateDistance, late_succ]
  split
  next =>
    rw [Finset.sup_insert]
    exact max_comm _ _
  next => rfl

theorem lt_bound_iff (count point : Nat) : point < bound value count ↔ ∃ index < count, point ≤ value index := by
  simp only [bound, Finset.lt_sup_iff, Finset.mem_range, Nat.lt_succ_iff]

theorem late_iff_lt_bound (count : Nat) : Late value count ↔ value count < bound value count :=
  (lt_bound_iff value count (value count)).symm

theorem values_below_bound (count : Nat) : (Finset.range count).image value ⊆ Finset.range (bound value count) := by
  intro point member
  obtain ⟨index, inside, rfl⟩ := Finset.mem_image.mp member
  exact Finset.mem_range.mpr ((lt_bound_iff value count _).mpr ⟨index, Finset.mem_range.mp inside, le_rfl⟩)

def missing (count : Nat) : Finset Nat := Finset.range (bound value count) \ (Finset.range count).image value

theorem card_missing (count : Nat) :
    (missing value count).card + ((Finset.range count).image value).card = bound value count := by
  have parts := Finset.card_sdiff_add_card_eq_card (values_below_bound value count)
  rwa [Finset.card_range] at parts

end Bounds

end Records
