/-!
# Hexadecimal digits

The digits `0` to `9` and, in either case, `a` to `f` with the values 10 to 15.
-/

namespace Notebook.Hexadecimal

/-- The value of a hexadecimal digit. -/
def digit? (c : Char) : Option Nat :=
  if '0' ≤ c ∧ c ≤ '9' then some (c.toNat - '0'.toNat)
  else if 'a' ≤ c ∧ c ≤ 'f' then some (c.toNat - 'a'.toNat + 10)
  else if 'A' ≤ c ∧ c ≤ 'F' then some (c.toNat - 'A'.toNat + 10)
  else none

/-- Holds of hexadecimal digits. -/
def isDigit (c : Char) : Bool :=
  (digit? c).isSome

/-- The value of digits to a base up to 16. -/
def valueInBase? (base : Nat) (digits : List Char) : Option Nat :=
  digits.foldlM (fun total c => do
    let digit ← digit? c
    if digit < base then return base * total + digit else none) 0

end Notebook.Hexadecimal
