import Mathlib

set_option autoImplicit false

namespace Csv

def renderRow (cells : List (List Char)) : List Char := [','].intercalate cells ++ ['\n']

def render (rows : List (List (List Char))) : List Char := rows.flatMap renderRow

def parse (text : List Char) : List (List (List Char)) := ((text.splitOn '\n').dropLast).map (List.splitOn ',')

def Plain (cell : List Char) : Prop := ',' ∉ cell ∧ '\n' ∉ cell

instance (cell : List Char) : Decidable (Plain cell) := inferInstanceAs (Decidable (_ ∧ _))

theorem mem_intercalate {sep char : Char} {cells : List (List Char)} (member : char ∈ [sep].intercalate cells) :
    char = sep ∨ ∃ cell ∈ cells, char ∈ cell := by
  induction cells with
  | nil => simp at member
  | cons cell rest ih =>
      cases rest with
      | nil => exact .inr ⟨cell, by simp, by simpa using member⟩
      | cons second others =>
          rw [List.intercalate_cons_cons, List.mem_append, List.mem_append] at member
          rcases member with (inside | separator) | later
          · exact .inr ⟨cell, by simp, inside⟩
          · exact .inl (by simpa using separator)
          · refine (ih later).imp_right ?_
            rintro ⟨found, listed, inside⟩
            exact ⟨found, List.mem_cons_of_mem _ listed, inside⟩

theorem parse_cons {line : List Char} (unbroken : '\n' ∉ line) (rest : List Char) :
    parse (line ++ '\n' :: rest) = line.splitOn ',' :: parse rest := by
  rw [parse, List.splitOn_append_cons_self_of_not_mem unbroken,
    List.dropLast_cons_of_ne_nil (List.splitOn_ne_nil '\n' rest)]
  rfl

theorem parse_render (rows : List (List (List Char)))
    (plain : ∀ cells ∈ rows, cells ≠ [] ∧ ∀ cell ∈ cells, Plain cell) : parse (render rows) = rows := by
  induction rows with
  | nil => simp [parse, render]
  | cons cells rest ih =>
      obtain ⟨nonempty, each⟩ := plain cells (by simp)
      have unbroken : '\n' ∉ [','].intercalate cells := by
        intro member
        rcases mem_intercalate member with comma | ⟨cell, listed, inside⟩
        · cases comma
        · exact (each cell listed).2 inside
      have later := ih fun other member => plain other (List.mem_cons_of_mem _ member)
      rw [render, List.flatMap_cons, renderRow, List.append_assoc, List.singleton_append, parse_cons unbroken,
        List.splitOn_intercalate ',' (fun cell listed => (each cell listed).1) nonempty]
      exact congrArg _ later

def number (value : Int) : List Char := (toString value).toList

def decode (cell : List Char) : Option Int := if cell = [] then none else (String.ofList cell).toInt?

theorem number_ne_nil (value : Int) : number value ≠ [] := by
  rw [number, Int.toString_eq_repr, Int.repr_eq_if]
  split
  next => simp
  next => simp

theorem decode_number (value : Int) : decode (number value) = some value := by
  rw [decode, if_neg (number_ne_nil value), number, String.ofList_toList, Int.toString_eq_repr, Int.toInt?_repr]

theorem isDigit_of_mem_number {value : Int} {char : Char} (member : char ∈ number value) :
    char.isDigit ∨ char = '-' := by
  rw [number, Int.toString_eq_repr, Int.repr_eq_if] at member
  split at member
  next =>
    rw [Nat.toList_repr] at member
    exact .inl (Nat.isDigit_of_mem_toDigits (by decide) (by decide) member)
  next =>
    rw [String.toList_append, List.mem_append] at member
    rcases member with sign | digits
    · exact .inr (by simpa using sign)
    · rw [Nat.toList_repr] at digits
      exact .inl (Nat.isDigit_of_mem_toDigits (by decide) (by decide) digits)

theorem plain_number (value : Int) : Plain (number value) := by
  constructor
  next =>
    intro member
    rcases isDigit_of_mem_number member with digit | sign
    · exact absurd digit (by decide)
    · cases sign
  next =>
    intro member
    rcases isDigit_of_mem_number member with digit | sign
    · exact absurd digit (by decide)
    · cases sign

theorem plain_nil : Plain [] := by simp [Plain]

end Csv
