/-!
# Decimal numerals

Numbers are written with the digits `0` to `9` and no superfluous zeros. They
are read from one or more digits after at most one sign; a numeral whose value
does not fit the wanted range is no numeral. Nothing is trimmed here.
-/

namespace Notebook.Decimal

/-- The value of a run of decimal digits. -/
def value (digits : List Char) : Nat :=
  digits.foldl (fun total digit => 10 * total + (digit.toNat - '0'.toNat)) 0

/-- Reads one or more decimal digits and nothing else. -/
def natural? (cs : List Char) : Option Nat :=
  if !cs.isEmpty && cs.all Char.isDigit then some (value cs) else none

/-- Reads an unsigned numeral, which may carry a leading plus sign. -/
def unsigned? (text : String) : Option Nat :=
  match text.toList with
  | '+' :: digits => natural? digits
  | digits => natural? digits

/-- Reads a signed numeral, which may carry a leading plus or minus sign. -/
def signed? (text : String) : Option Int :=
  match text.toList with
  | '-' :: digits => (natural? digits).map fun n => -(n : Int)
  | '+' :: digits => (natural? digits).map fun n => (n : Int)
  | digits => (natural? digits).map fun n => (n : Int)

/-- The 64-bit signed integer with this value, if there is one. -/
def toInt64? (n : Int) : Option Int64 :=
  if Int64.minValue.toInt ≤ n ∧ n ≤ Int64.maxValue.toInt then some (Int64.ofInt n) else none

/-- Reads a numeral in the range of 64-bit signed integers. -/
def int64? (text : String) : Option Int64 :=
  (signed? text).bind toInt64?

/-- Reads a numeral below `2 ^ 16`. -/
def uint16? (text : String) : Option UInt16 :=
  (unsigned? text).bind fun n => if h : n < UInt16.size then some (UInt16.ofNatLT n h) else none

/-- Reads a numeral below `2 ^ 32`. -/
def uint32? (text : String) : Option UInt32 :=
  (unsigned? text).bind fun n => if h : n < UInt32.size then some (UInt32.ofNatLT n h) else none

/-- Reads a numeral below `2 ^ 64`. -/
def uint64? (text : String) : Option UInt64 :=
  (unsigned? text).bind fun n => if h : n < UInt64.size then some (UInt64.ofNatLT n h) else none

/-- Why a text is no numeral of a range. -/
inductive Fault where
  | empty
  | notADigit
  | tooLarge
deriving DecidableEq

/-- The wording of a fault. -/
def Fault.message : Fault → String
  | .empty => "cannot parse integer from empty string"
  | .notADigit => "invalid digit found in string"
  | .tooLarge => "number too large to fit in target type"

/-- Reads digits behind those of `total`. The first character that is no digit
or leaves the range decides. -/
def digitsBelow (bound total : Nat) : List Char → Except Fault Nat
  | [] => .ok total
  | c :: rest =>
      if c.isDigit then
        let next := value [c] + 10 * total
        if next < bound then digitsBelow bound next rest else .error .tooLarge
      else .error .notADigit

/-- Reads an unsigned numeral below a bound, or says what is wrong with it. -/
def readBelow (bound : Nat) (text : String) : Except Fault Nat :=
  match text.toList with
  | [] => .error .empty
  | ['+'] => .error .notADigit
  | '+' :: digits => digitsBelow bound 0 digits
  | digits => digitsBelow bound 0 digits

/-- The digits of a number, the most significant first. -/
def digits (n : Nat) : List Char :=
  Nat.toDigits 10 n

/-- The digits of a number, filled up with zeros on the left to at least `width`. -/
def padded (width n : Nat) : List Char :=
  (digits n).leftpad width '0'

/-- The numeral of a natural number. -/
def ofNat (n : Nat) : String :=
  String.ofList (digits n)

/-- The numeral of an integer; only negative numbers carry a sign. -/
def ofInt (n : Int) : String :=
  if n < 0 then String.ofList ('-' :: digits n.natAbs) else ofNat n.natAbs

/-- The numeral of a 64-bit signed integer. -/
def ofInt64 (n : Int64) : String :=
  ofInt n.toInt

end Notebook.Decimal
