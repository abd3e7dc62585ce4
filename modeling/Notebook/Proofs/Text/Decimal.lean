import Notebook.Text.Decimal

/-!
# Numerals read back

A number is read back from its digits, and these are decimal digits only. The
same holds of digits filled up with zeros, whose number is the width as long as
the number has room. Only zero has digits that start with a zero.
-/

namespace Notebook.Decimal

/-- A character is a decimal digit if its number says so. -/
theorem isDigit_iff_toNat {c : Char} :
    c.isDigit = true ↔ 0x30 ≤ c.toNat ∧ c.toNat ≤ 0x39 := by
  simp only [Char.isDigit, Bool.and_eq_true, decide_eq_true_eq, UInt32.le_iff_toNat_le]
  rfl

/-- The digits of a number are decimal digits. -/
theorem isDigit_of_mem_digits {n : Nat} {c : Char} (member : c ∈ digits n) :
    c.isDigit = true :=
  Nat.isDigit_of_mem_toDigits (by decide) (by decide) member

/-- Every number has a digit. -/
theorem digits_ne_nil (n : Nat) : digits n ≠ [] :=
  Nat.toDigits_ne_nil

/-- The numeral of a number starts with a digit. -/
theorem digits_eq_cons (n : Nat) : ∃ c cs, digits n = c :: cs ∧ c.isDigit = true := by
  obtain ⟨c, cs, same⟩ := List.exists_cons_of_ne_nil (digits_ne_nil n)
  exact ⟨c, cs, same, isDigit_of_mem_digits (n := n) (by simp [same])⟩

/-- The digits of a number have its value. -/
theorem value_digits (n : Nat) : value (digits n) = n := by
  have library := Nat.ofDigitChars_ten_toDigits (n := n)
  rw [Nat.ofDigitChars_eq_foldl] at library
  exact library

/-- A number is read back from its digits. -/
theorem natural?_digits (n : Nat) : natural? (digits n) = some n := by
  have digitsOnly : (digits n).all Char.isDigit = true := by
    rw [List.all_eq_true]
    exact fun c member => isDigit_of_mem_digits member
  simp [natural?, digits_ne_nil n, digitsOnly, value_digits]

/-- A 64-bit integer is found by its value. -/
theorem toInt64?_toInt (n : Int64) : toInt64? n.toInt = some n := by
  rw [toInt64?, if_pos ⟨n.minValue_le_toInt, n.toInt_le⟩, Int64.ofInt_toInt]

/-- A number below ten has one digit, and every other one digit more than its tenth. -/
theorem digits_eq (n : Nat) :
    digits n =
      if n < 10 then [Nat.digitChar n] else digits (n / 10) ++ [Nat.digitChar (n % 10)] := by
  split
  case isTrue small => exact Nat.toDigits_of_lt_base small
  case isFalse large =>
    exact Nat.toDigits_of_base_le (by decide) (Nat.le_of_not_lt large)

/-- A number has as many digits as it needs for its powers of ten. -/
theorem length_digits_le_iff {n width : Nat} (positive : 0 < width) :
    (digits n).length ≤ width ↔ n < Nat.pow 10 width :=
  Nat.length_toDigits_le_iff (by decide) positive

/-- The digits of a positive number do not start with a zero. -/
theorem head?_digits {n : Nat} (positive : 0 < n) : (digits n).head? ≠ some '0' := by
  induction n using Nat.strongRecOn with
  | ind n inductionHypothesis =>
      rw [digits_eq]
      split
      case isTrue small =>
        have single : ∀ n < 10, 0 < n → [Nat.digitChar n].head? ≠ some '0' := by decide
        exact single n small positive
      case isFalse large =>
        rw [List.head?_append, Option.or_of_isSome (by simp [digits_ne_nil])]
        exact inductionHypothesis (n / 10) (by omega) (by omega)

/-- No digits but zero itself start with a zero. -/
theorem digits_ne_zero_cons (n : Nat) (next : Char) (rest : List Char) :
    digits n ≠ '0' :: next :: rest := by
  intro zero
  rcases Nat.eq_zero_or_pos n with rfl | positive
  · cases zero
  · exact head?_digits positive (by simp [zero])

/-- Digits filled up with zeros are zeros followed by the digits. -/
theorem padded_eq (width n : Nat) :
    padded width n = List.replicate (width - (digits n).length) '0' ++ digits n := rfl

/-- Digits filled up with zeros are decimal digits. -/
theorem isDigit_of_mem_padded {width n : Nat} {c : Char} (member : c ∈ padded width n) :
    c.isDigit = true := by
  rw [padded_eq, List.mem_append] at member
  rcases member with zero | digit
  · rw [List.eq_of_mem_replicate zero]
    rfl
  · exact isDigit_of_mem_digits digit

/-- Leading zeros do not change a value. -/
theorem value_replicate_append (zeros : Nat) (run : List Char) :
    value (List.replicate zeros '0' ++ run) = value run := by
  induction zeros with
  | zero => rfl
  | succ zeros inductionHypothesis => exact inductionHypothesis

/-- Digits filled up with zeros have the value of the number. -/
theorem value_padded (width n : Nat) : value (padded width n) = n := by
  rw [padded_eq, value_replicate_append, value_digits]

/-- A number with room in the width is filled up to it exactly. -/
theorem length_padded {width n : Nat} (positive : 0 < width) (fits : n < Nat.pow 10 width) :
    (padded width n).length = width := by
  have short := (length_digits_le_iff positive).mpr fits
  rw [padded, List.length_leftpad]
  omega

/-- Filled up digits are not fewer than the width. -/
theorem le_length_padded (width n : Nat) : width ≤ (padded width n).length := by
  rw [padded, List.length_leftpad]
  omega

variable {run rest : List Char} (digitsOnly : ∀ c ∈ run, c.isDigit = true)
  (apart : ∀ c ∈ rest.head?, c.isDigit = false)

include digitsOnly apart

/-- The digits a text starts with are its leading run, unless another one follows. -/
theorem takeWhile_isDigit_append : (run ++ rest).takeWhile Char.isDigit = run := by
  rw [List.takeWhile_append_of_pos digitsOnly]
  cases rest with
  | nil => simp
  | cons c rest => simp [apart c rfl]

/-- What follows a run of digits is found behind it. -/
theorem dropWhile_isDigit_append : (run ++ rest).dropWhile Char.isDigit = rest := by
  rw [List.dropWhile_append_of_pos digitsOnly]
  cases rest with
  | nil => rfl
  | cons c rest => simp [apart c rfl]

end Notebook.Decimal
