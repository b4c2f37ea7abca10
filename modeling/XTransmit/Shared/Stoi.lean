import XTransmit.Shared.StdString
import Mathlib.Data.List.TakeWhile

set_option autoImplicit false

namespace StdString

inductive StoiError where
  | invalidArgument
  | outOfRange
  deriving DecidableEq, Repr

def isSpace (char : Char) : Bool := char.toNat = 32 || (9 ≤ char.toNat && char.toNat ≤ 13)

def decimalValue (digits : List Char) : Nat := digits.foldl (fun value digit => 10 * value + (digit.toNat - 48)) 0

def isNegative (text : List Char) : Bool := text.head? = some '-'

def dropSign (text : List Char) : List Char :=
  if text.head? = some '-' ∨ text.head? = some '+' then text.tail else text

def stoi (text : List Char) : Except StoiError Int :=
  let number := text.dropWhile isSpace
  let digits := (dropSign number).takeWhile Char.isDigit
  if digits = [] then .error .invalidArgument
  else
    let value : Int := if isNegative number then -decimalValue digits else decimalValue digits
    if -2147483648 ≤ value ∧ value ≤ 2147483647 then .ok value else .error .outOfRange

def IsDecimal (text : List Char) : Prop := text ≠ [] ∧ ∀ char ∈ text, char.isDigit

theorem digit_bounds {char : Char} (digit : char.isDigit) : 48 ≤ char.toNat ∧ char.toNat ≤ 57 := by
  simpa [Char.isDigit, UInt32.le_iff_toNat_le] using digit

theorem not_isSpace_of_digit {char : Char} (digit : char.isDigit) : isSpace char = false := by
  have bounds := digit_bounds digit
  simp [isSpace]
  omega

theorem not_sign_of_digit {char : Char} (digit : char.isDigit) : char ≠ '-' ∧ char ≠ '+' := by
  constructor <;> rintro rfl <;> simp [Char.isDigit] at digit

theorem stoi_decimal {text : List Char} (decimal : IsDecimal text) (fits : decimalValue text ≤ 2147483647) :
    stoi text = .ok (decimalValue text) := by
  obtain ⟨nonempty, digits⟩ := decimal
  obtain ⟨first, rest, rfl⟩ := List.exists_cons_of_ne_nil nonempty
  have digit := digits first (by simp)
  obtain ⟨notMinus, notPlus⟩ := not_sign_of_digit digit
  have unspaced : (first :: rest).dropWhile isSpace = first :: rest := by
    simp [not_isSpace_of_digit digit]
  have unsigned : dropSign (first :: rest) = first :: rest := by simp [dropSign, notMinus, notPlus]
  have all : (first :: rest).takeWhile Char.isDigit = first :: rest :=
    List.takeWhile_eq_self_iff.mpr digits
  have positive : isNegative (first :: rest) = false := by simp [isNegative, notMinus]
  simp only [stoi, unspaced, unsigned, all, positive, nonempty, if_false, Bool.false_eq_true]
  exact if_pos (by omega)

-- `tolower` of the C locale.
def tolower (char : Char) : Char := if 65 ≤ char.toNat ∧ char.toNat ≤ 90 then Char.ofNat (char.toNat + 32) else char

theorem tolower_cases (char : Char) : tolower char = char ∨
    (65 ≤ char.toNat ∧ char.toNat ≤ 90) ∧ 97 ≤ (tolower char).toNat ∧ (tolower char).toNat ≤ 122 := by
  unfold tolower
  split
  next upper =>
    have valid : (char.toNat + 32).isValidChar := .inl (by omega)
    have value : (Char.ofNat (char.toNat + 32)).toNat = char.toNat + 32 := by
      rw [Char.ofNat, dif_pos valid]
      rfl
    exact .inr ⟨upper, by omega⟩
  next => exact .inl rfl

theorem tolower_digit {char : Char} (digit : char.isDigit) : tolower char = char := by
  have bounds := digit_bounds digit
  rcases tolower_cases char with same | ⟨upper, -⟩
  · exact same
  · omega

theorem tolower_eq_iff {char other : Char} (unlettered : other.toNat < 65) : tolower char = other ↔ char = other := by
  rcases tolower_cases char with same | ⟨upper, lower⟩
  · rw [same]
  · constructor
    · rintro rfl
      omega
    · rintro rfl
      omega

theorem map_tolower_decimal {text : List Char} (decimal : IsDecimal text) : text.map tolower = text :=
  (List.map_congr_left fun char member => tolower_digit (decimal.2 char member)).trans (List.map_id _)

theorem find_map_tolower {char : Char} (unlettered : char.toNat < 65) (text : List Char) :
    find [char] (text.map tolower) = find [char] text := by
  unfold find
  rw [List.length_map]
  congr 1
  funext pos
  rw [← List.map_drop]
  cases text.drop pos with
  | nil => rfl
  | cons first rest =>
      have same : (char == tolower first) = (char == first) := by
        rw [Bool.eq_iff_iff, beq_iff_eq, beq_iff_eq, eq_comm, tolower_eq_iff unlettered, eq_comm]
      simp [List.isPrefixOf, same]

end StdString
