import Notebook.Http.Message

/-!
# Media types

A media type names a type and a subtype around a slash; the subtype may end in a
suffix behind its last plus sign. Parameters follow behind semicolons, each a
name and a value around an equals sign, the value a token or in quotes. Cases do
not matter.
-/

namespace Notebook

/-- A media type without its parameters, in lower case. -/
structure MediaType where
  main : List Char
  subtype : List Char
  suffix : Option (List Char)
deriving DecidableEq

namespace MediaType

/-- The characters of tokens. -/
def isTokenChar (c : Char) : Bool :=
  c.isAlphanum || "!#$%&'*+-.^_|~".toList.contains c || c.toNat == 0x60

/-- The characters inside quotes: all but control characters. The first of them
may even be a quote. -/
def isQuotedChar (c : Char) : Bool :=
  (c.toNat == 0x09 || 0x20 ≤ c.toNat) && c.toNat != 0x7F

mutual

/-- Accepts parameters behind a semicolon and any blanks. -/
def acceptsName : (named : Bool) → List Char → Bool
  | false, [] => true
  | false, ' ' :: rest => acceptsName false rest
  | true, '=' :: rest => acceptsValue false rest
  | named, c :: rest => isTokenChar c && acceptsName (named || isTokenChar c) rest
  | true, [] => false

/-- Accepts the value of a parameter and what follows it. -/
def acceptsValue : (begun : Bool) → List Char → Bool
  | false, '"' :: rest => acceptsQuoted false rest
  | true, ';' :: rest => acceptsName false rest
  | begun, c :: rest => isTokenChar c && acceptsValue (begun || isTokenChar c) rest
  | _, [] => true

/-- Accepts the rest of a quoted value and what follows it. -/
def acceptsQuoted : (begun : Bool) → List Char → Bool
  | true, '"' :: rest => acceptsEnd rest
  | _, c :: rest => isQuotedChar c && acceptsQuoted true rest
  | _, [] => false

/-- Accepts blanks behind a quoted value up to the next parameter. -/
def acceptsEnd : List Char → Bool
  | ' ' :: rest => acceptsEnd rest
  | ';' :: rest => acceptsName false rest
  | [] => true
  | _ => false

end

/-- Cuts a subtype at its last plus sign, unless that comes first. -/
def splitSuffix (subtype : List Char) : List Char × Option (List Char) :=
  let suffix := (subtype.reverse.takeWhile (· ≠ '+')).reverse
  let front := subtype.take (subtype.length - suffix.length - 1)
  if suffix.length < subtype.length ∧ front ≠ [] then (front, some suffix) else (subtype, none)

/-- Reads a media type. -/
def ofText? (text : String) : Option MediaType :=
  let cs := text.toList.map Char.toLower
  let main := cs.takeWhile isTokenChar
  match cs.dropWhile isTokenChar with
  | '/' :: rest =>
      let subtype := rest.takeWhile isTokenChar
      let wellFormed := match rest.dropWhile isTokenChar with
        | [] => true
        | ';' :: parameters => !subtype.isEmpty && acceptsName false parameters
        | _ => false
      if !main.isEmpty && wellFormed then
        let (subtype, suffix) := splitSuffix subtype
        some { main, subtype, suffix }
      else none
  | _ => none

/-- Holds of `application/json` and of applications of JSON, which say so by
their suffix. -/
def isJson (type : MediaType) : Bool :=
  type.main == "application".toList &&
    (type.subtype == "json".toList || type.suffix == some "json".toList)

end MediaType

end Notebook
