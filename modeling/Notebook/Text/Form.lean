import Notebook.Text.Hexadecimal
import Notebook.Text.Utf8

/-!
# Percent escapes and forms

In a percent-encoded text, `%` and two hexadecimal digits stand for a byte; any
other `%` stands for itself. A form is a list of named values: pieces between
ampersands, each a name and a value around its first equals sign, both
percent-encoded with plus signs for blanks. Empty pieces do not count.
-/

namespace Notebook

namespace Percent

/-- The byte that `%` and these two digits stand for. -/
def escaped? (percent high low : UInt8) : Option UInt8 :=
  if percent = 0x25 then
    (Hexadecimal.valueInBase? 16 [Char.ofNat high.toNat, Char.ofNat low.toNat]).map UInt8.ofNat
  else none

/-- Replaces percent escapes by the bytes they stand for. -/
def decodeBytes : List UInt8 → List UInt8
  | byte :: high :: low :: rest =>
      match escaped? byte high low with
      | some escaped => escaped :: decodeBytes rest
      | none => byte :: decodeBytes (high :: low :: rest)
  | bytes => bytes

/-- The bytes of a percent-encoded text. -/
def decode (text : List Char) : List UInt8 :=
  decodeBytes (Utf8.encode text)

end Percent

/-- The parts of a text between the occurrences of a character. -/
def splitAtEach (separator : Char) : List Char → List (List Char)
  | [] => [[]]
  | c :: rest =>
      if c = separator then [] :: splitAtEach separator rest
      else
        match splitAtEach separator rest with
        | first :: more => (c :: first) :: more
        | [] => [[c]]

namespace Form

/-- The text of a name or value: plus signs stand for blanks, and bytes that are
not UTF-8 are replaced. -/
def component (text : List Char) : String :=
  Utf8.decodeLossy (Percent.decode (text.map fun c => if c = '+' then ' ' else c))

/-- The name and value of a piece; without an equals sign the value is empty. -/
def pair (piece : List Char) : String × String :=
  (component (piece.takeWhile (· ≠ '=')), component ((piece.dropWhile (· ≠ '=')).drop 1))

/-- The named values of a form, in order. -/
def pairs (form : String) : List (String × String) :=
  ((splitAtEach '&' form.toList).filter fun piece => !piece.isEmpty).map pair

/-- The values of these names. There are none at all if one of the names is
given twice; other names do not matter. -/
def fields? (names : List String) (form : String) : Option (List (String × String)) :=
  let known := (pairs form).filter fun (name, _) => names.contains name
  if (known.map Prod.fst).Nodup then some known else none

end Form

end Notebook
