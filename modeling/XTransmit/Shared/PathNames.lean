import Mathlib.Data.List.Basic

set_option autoImplicit false

namespace PathNames

variable {α : Type} [DecidableEq α] {sep : α}

def names (sep : α) (path : List α) : List (List α) := (path.splitOn sep).filter (· ≠ [])

@[simp] theorem names_nil : names sep [] = [] := by
  simp [names]

theorem names_append_sep (path rest : List α) : names sep (path ++ sep :: rest) = names sep path ++ names sep rest := by
  rw [names, List.splitOn_append_cons_self, List.filter_append]
  rfl

theorem names_plain {name : List α} (plain : sep ∉ name) : names sep name = if name = [] then [] else [name] := by
  rw [names, List.splitOn_eq_singleton plain]
  by_cases empty : name = [] <;> simp [empty]

@[simp] theorem names_trailing (path : List α) : names sep (path ++ [sep]) = names sep path :=
  (names_append_sep path []).trans (by simp)

theorem splitOn_append (path rest : List α) :
    ∃ before last first after, path.splitOn sep = before ++ [last] ∧ rest.splitOn sep = first :: after ∧
      (path ++ rest).splitOn sep = before ++ (last ++ first) :: after := by
  obtain ⟨first, after, split⟩ := List.exists_cons_of_ne_nil (List.splitOn_ne_nil sep rest)
  induction path with
  | nil => exact ⟨[], [], first, after, List.splitOn_nil sep, split, split⟩
  | cons byte path ih =>
      obtain ⟨before, last, _, _, front, same, whole⟩ := ih
      cases split.symm.trans same
      simp only [List.cons_append, List.splitOn_cons_eq_if_modifyHead, front, whole]
      split_ifs
      · exact ⟨[] :: before, last, first, after, rfl, split, rfl⟩
      · cases before with
        | nil => exact ⟨[], byte :: last, first, after, rfl, split, rfl⟩
        | cons head before => exact ⟨(byte :: head) :: before, last, first, after, rfl, split, rfl⟩

theorem dropLast_names_append (path : List α) {tail : List α} (plain : sep ∉ tail) :
    (names sep (path ++ tail)).dropLast <+: names sep path := by
  obtain ⟨before, last, first, after, front, back, whole⟩ := @splitOn_append α _ sep path tail
  rw [List.splitOn_eq_singleton plain] at back
  cases back
  simp only [names, front, whole, List.filter_append]
  by_cases empty : last ++ tail = []
  · exact (List.dropLast_prefix _).trans (by simp [empty])
  · simp [empty]

end PathNames
