import Notebook.Text.Decimal
import Notebook.Text.Hexadecimal

/-!
# JSON tokens

JSON text split into tokens. A token that breaks the grammar ends the splitting
with `Token.broken`. Strings are kept as what they spell, or as `none` if they
spell a surrogate without its partner; such strings are only objectionable where
they are read. Numbers keep what their readers can tell apart.
-/

namespace Notebook.Json

/-- What a JSON number is to a reader of integers. -/
inductive Number where
  /-- Digits with at most a minus sign, other than minus zero. -/
  | integer (n : Int)
  /-- Minus zero, or a number with a fraction or an exponent. -/
  | real
  /-- A number that no double comes close to. -/
  | tooLarge
deriving DecidableEq

/-- A token of JSON text. -/
inductive Token where
  | beginArray
  | endArray
  | beginObject
  | endObject
  | comma
  | colon
  | null
  | bool (b : Bool)
  | number (n : Number)
  /-- A string, unless it spells a surrogate without its partner. -/
  | text (s : Option String)
  /-- Text that is no token. -/
  | broken
deriving DecidableEq

/-- White space between tokens. -/
def isSpace (c : Char) : Bool :=
  c == ' ' || c == '\n' || c == '\t' || c == '\r'

/-- The number that four hexadecimal digits spell. -/
def hexUnit? (a b c d : Char) : Option Nat :=
  Hexadecimal.valueInBase? 16 [a, b, c, d]

/-- The character that a one-letter escape stands for. -/
def escaped? : Char → Option Char
  | '"' => some '"'
  | '\\' => some '\\'
  | '/' => some '/'
  | 'b' => some '\x08'
  | 'f' => some '\x0c'
  | 'n' => some '\n'
  | 'r' => some '\r'
  | 't' => some '\t'
  | _ => none

/-- The code points that a string spells up to its closing quote, and the text
behind the quote. A `\u` escape spells the unit it names, surrogates included. -/
def units? : List Char → Option (List Nat × List Char)
  | [] => none
  | '"' :: rest => some ([], rest)
  | '\\' :: 'u' :: a :: b :: c :: d :: rest => do
      let unit ← hexUnit? a b c d
      let (units, rest) ← units? rest
      return (unit :: units, rest)
  | '\\' :: c :: rest => do
      let c ← escaped? c
      let (units, rest) ← units? rest
      return (c.toNat :: units, rest)
  | c :: rest =>
      if c.toNat < 0x20 ∨ c = '\\' then none
      else do
        let (units, rest) ← units? rest
        return (c.toNat :: units, rest)

/-- The first half of a surrogate pair. -/
def isHighSurrogate (unit : Nat) : Bool :=
  0xD800 ≤ unit && unit ≤ 0xDBFF

/-- The second half of a surrogate pair. -/
def isLowSurrogate (unit : Nat) : Bool :=
  0xDC00 ≤ unit && unit ≤ 0xDFFF

/-- The text that code points spell once surrogates are joined in pairs. -/
def joinUnits? : List Nat → Option (List Char)
  | [] => some []
  | [unit] =>
      if isHighSurrogate unit || isLowSurrogate unit then none else some [Char.ofNat unit]
  | unit :: next :: rest =>
      if isHighSurrogate unit then
        if isLowSurrogate next then
          (joinUnits? rest).map
            (Char.ofNat (0x10000 + (unit - 0xD800) * 0x400 + (next - 0xDC00)) :: ·)
        else none
      else if isLowSurrogate unit then none
      else (joinUnits? (next :: rest)).map (Char.ofNat unit :: ·)

/-- The longest run of digits a text starts with, and the text behind it. -/
def digitRun (cs : List Char) : List Char × List Char :=
  (cs.takeWhile Char.isDigit, cs.dropWhile Char.isDigit)

/-- The digits of the whole part: a zero alone, or a run that starts otherwise. -/
def wholePart? (cs : List Char) : Option (List Char × List Char) :=
  match digitRun cs with
  | ([], _) => none
  | ('0' :: _ :: _, _) => none
  | (run, rest) => some (run, rest)

/-- The digits behind a decimal point, if there is one; it needs some. -/
def fractionPart? : List Char → Option (Option (List Char) × List Char)
  | '.' :: cs =>
      match digitRun cs with
      | ([], _) => none
      | (run, rest) => some (some run, rest)
  | cs => some (none, cs)

/-- The digits of an exponent with their sign behind an optional plus. -/
def signedRun? : List Char → Option (Int × List Char)
  | '-' :: cs =>
      match digitRun cs with
      | ([], _) => none
      | (run, rest) => some (-(Decimal.value run : Int), rest)
  | cs =>
      let cs := match cs with
        | '+' :: rest => rest
        | _ => cs
      match digitRun cs with
      | ([], _) => none
      | (run, rest) => some (Decimal.value run, rest)

/-- The exponent, if there is one. -/
def exponentPart? : List Char → Option (Option Int × List Char)
  | c :: cs =>
      if c = 'e' ∨ c = 'E' then (signedRun? cs).map fun (n, rest) => (some n, rest)
      else some (none, c :: cs)
  | [] => some (none, [])

/-- From this magnitude on, numbers round to infinity: halfway between the
largest double and the next power of two. -/
def overflowBound : Nat := Nat.pow 2 1024 - Nat.pow 2 970

/-- Holds if `digits` followed by `exponent` decimal shifts reach the overflow
bound. Below 10 to the 308 and above 10 to the 310 the number of digits decides. -/
def overflows (digits : List Char) (exponent : Int) : Bool :=
  let significant := digits.dropWhile (· == '0')
  let magnitude := exponent + significant.length
  if significant.isEmpty || magnitude < 309 then false
  else if 310 < magnitude then true
  else
    let n := Decimal.value significant
    if 0 ≤ exponent then overflowBound ≤ n * Nat.pow 10 exponent.toNat
    else overflowBound * Nat.pow 10 exponent.natAbs ≤ n

/-- Reads a number behind its sign. -/
def magnitude? (negative : Bool) (cs : List Char) : Option (Number × List Char) := do
  let (whole, cs) ← wholePart? cs
  let (fraction, cs) ← fractionPart? cs
  let (exponent, cs) ← exponentPart? cs
  let decimals := fraction.getD []
  let number :=
    if overflows (whole ++ decimals) (exponent.getD 0 - decimals.length) then .tooLarge
    else if fraction.isSome || exponent.isSome then .real
    else if negative then
      if Decimal.value whole = 0 then .real else .integer (-(Decimal.value whole : Int))
    else .integer (Decimal.value whole)
  return (number, cs)

/-- Reads a number. -/
def number? : List Char → Option (Number × List Char)
  | '-' :: cs => magnitude? true cs
  | cs => magnitude? false cs

/-- Reads the token that a text without leading white space starts with. -/
def token? : List Char → Option (Token × List Char)
  | '[' :: rest => some (.beginArray, rest)
  | ']' :: rest => some (.endArray, rest)
  | '{' :: rest => some (.beginObject, rest)
  | '}' :: rest => some (.endObject, rest)
  | ',' :: rest => some (.comma, rest)
  | ':' :: rest => some (.colon, rest)
  | 'n' :: 'u' :: 'l' :: 'l' :: rest => some (.null, rest)
  | 't' :: 'r' :: 'u' :: 'e' :: rest => some (.bool true, rest)
  | 'f' :: 'a' :: 'l' :: 's' :: 'e' :: rest => some (.bool false, rest)
  | '"' :: rest => (units? rest).map fun (units, rest) =>
      (.text ((joinUnits? units).map String.ofList), rest)
  | cs => (number? cs).map fun (n, rest) => (.number n, rest)

/-- The tokens of a text. Each takes up at least one character, so no more steps
are needed than there are characters. -/
def tokensWithin : Nat → List Char → List Token
  | 0, _ => []
  | steps + 1, cs =>
      match cs.dropWhile isSpace with
      | [] => []
      | cs =>
          match token? cs with
          | some (token, rest) => token :: tokensWithin steps rest
          | none => [.broken]

/-- The tokens of a text. -/
def tokens (text : String) : List Token :=
  tokensWithin text.toList.length text.toList

end Notebook.Json
