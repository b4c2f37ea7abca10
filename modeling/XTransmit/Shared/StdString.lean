import Mathlib.Data.List.Basic

set_option autoImplicit false

namespace StdString

variable {α : Type} [DecidableEq α]

def find (needle text : List α) : Option Nat :=
  (List.range (text.length + 1)).find? fun pos => needle.isPrefixOf (text.drop pos)

def findFirstOf (chars text : List α) (pos : Nat) : Option Nat :=
  ((text.drop pos).findIdx? (· ∈ chars)).map (pos + ·)

def findLastOf (chars text : List α) : Option Nat :=
  (text.reverse.findIdx? (· ∈ chars)).map (text.length - 1 - ·)

theorem find_eq_none_iff {needle text : List α} : find needle text = none ↔ ¬needle <:+: text := by
  rw [find, List.find?_eq_none]
  constructor
  · rintro nowhere ⟨front, back, rfl⟩
    have inside : front.length ∈ List.range ((front ++ needle ++ back).length + 1) := by
      rw [List.mem_range, List.length_append, List.length_append]
      omega
    have here := nowhere front.length inside
    rw [List.append_assoc, List.drop_left] at here
    exact here (by simp)
  · intro absent pos _ found
    exact absent ((List.isPrefixOf_iff_prefix.mp found).isInfix.trans (List.drop_suffix pos text).isInfix)

theorem findFirstOf_bounds {chars text : List α} {pos found : Nat}
    (hit : findFirstOf chars text pos = some found) : pos ≤ found ∧ found < text.length := by
  obtain ⟨offset, index, rfl⟩ := Option.map_eq_some_iff.mp hit
  obtain ⟨inside, -⟩ := List.findIdx?_eq_some_iff_getElem.mp index
  rw [List.length_drop] at inside
  omega

theorem findFirstOf_hit {chars text : List α} {pos found : Nat} (hit : findFirstOf chars text pos = some found) :
    (∃ char ∈ chars, text[found]? = some char) ∧
      ∀ index char, pos ≤ index → index < found → text[index]? = some char → char ∉ chars := by
  obtain ⟨offset, index, rfl⟩ := Option.map_eq_some_iff.mp hit
  obtain ⟨inside, member, before⟩ := List.findIdx?_eq_some_iff_getElem.mp index
  refine ⟨⟨_, of_decide_eq_true member, ?_⟩, fun earlier char low high read => ?_⟩
  · rw [← List.getElem?_drop, List.getElem?_eq_getElem inside]
  · obtain ⟨gap, rfl⟩ := Nat.exists_eq_add_of_le low
    rw [← List.getElem?_drop] at read
    obtain ⟨below, rfl⟩ := List.getElem?_eq_some_iff.mp read
    simpa using before gap (by omega)

theorem findFirstOf_miss {chars text : List α} {pos : Nat} (miss : findFirstOf chars text pos = none) {index : Nat}
    {char : α} (later : pos ≤ index) (read : text[index]? = some char) : char ∉ chars := by
  obtain ⟨gap, rfl⟩ := Nat.exists_eq_add_of_le later
  rw [← List.getElem?_drop] at read
  have nowhere := List.findIdx?_eq_none_iff.mp (Option.map_eq_none_iff.mp miss)
  simpa using nowhere char (List.mem_of_getElem? read)

theorem findLastOf_hit {chars text : List α} {found : Nat} (hit : findLastOf chars text = some found) :
    (∃ char ∈ chars, text[found]? = some char) ∧ ∀ index char, found < index → text[index]? = some char → char ∉ chars := by
  obtain ⟨offset, index, rfl⟩ := Option.map_eq_some_iff.mp hit
  obtain ⟨inside, member, before⟩ := List.findIdx?_eq_some_iff_getElem.mp index
  rw [List.length_reverse] at inside
  refine ⟨⟨_, of_decide_eq_true member, ?_⟩, fun later char low read => ?_⟩
  · rw [List.getElem_reverse, List.getElem?_eq_getElem]
  · obtain ⟨below, rfl⟩ := List.getElem?_eq_some_iff.mp read
    have behind := before (text.length - 1 - later) (by omega)
    rw [List.getElem_reverse] at behind
    have same : text.length - 1 - (text.length - 1 - later) = later := by omega
    simpa [same] using behind

theorem findLastOf_miss {chars text : List α} (miss : findLastOf chars text = none) {char : α}
    (member : char ∈ text) : char ∉ chars := by
  have nowhere := List.findIdx?_eq_none_iff.mp (Option.map_eq_none_iff.mp miss)
  simpa using nowhere char (List.mem_reverse.mpr member)

end StdString
