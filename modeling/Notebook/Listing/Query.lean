import Notebook.Repository.Notes
import Notebook.Text.Form
import Notebook.Time.Reading

/-!
# Listing queries

The filters of a listing as text. The fields `id`, `set` and `timestamp` take a
comparison operator in front of their value and mean equality without one;
`marked` is a truth value; `search` finds a text inside the body; `offset` and
`order` page and sort. A field that is absent or empty does not count. The first
field that cannot be read, in the order `id`, `set`, `timestamp`, `marked`,
`order`, `offset`, decides the error.

Form decoding turns an unescaped plus sign into a blank, so a blank where the
sign of a positive offset belongs is read as that sign.
-/

namespace Notebook

/-- The spellings of operators in front of a value. A spelling comes before its
own beginnings, so the longest match is found first. -/
def Operator.spellings : List (String × Operator) :=
  [("<>", .notEq), ("!=", .notEq), (">=", .gtEq), ("<=", .ltEq), ("=", .eq), (">", .gt),
    ("<", .lt)]

/-- Splits the operator off a text; equality if there is none. -/
def Operator.split (text : String) : Operator × String :=
  match spellings.find? fun (spelling, _) => spelling.toList.isPrefixOf text.toList with
  | some (spelling, operator) =>
      (operator, String.ofList (text.toList.drop spelling.toList.length))
  | none => (.eq, text)

namespace LikePattern

/-- Puts another text in the place of each occurrence of a character. -/
def replaceAll (c : Char) (replacement text : List Char) : List Char :=
  text.flatMap fun d => if d = c then replacement else [d]

/-- Puts a backslash in front of everything that is special in a pattern. Backslashes come first,
so none of those that are put in is escaped again. -/
def escape (text : List Char) : List Char :=
  replaceAll '_' ['\\', '_'] <|
    replaceAll '%' ['\\', '%'] <|
      replaceAll '\\' ['\\', '\\'] text

/-- The escaped text, as text. -/
def escapeText (text : String) : String :=
  String.ofList (escape text.toList)

/-- The pattern that a body matches if it contains the text. -/
def containing (text : String) : String :=
  String.ofList ('%' :: escape text.toList ++ ['%'])

end LikePattern

namespace Listing

/-- A field that is present and not empty. -/
def given (field : Option String) : Option String :=
  field.filter fun text => text ≠ ""

/-- The integer that a field holds. -/
def integer (field text : String) : Except Error Value :=
  match Decimal.int64? (Text.trim text) with
  | some n => .ok (.int n)
  | none => .error (.invalidInput (.notAnInteger field text))

/-- Puts the plus sign back into a text that ends in a blank and an offset. -/
def restorePlus (cs : List Char) : List Char :=
  match cs.reverse with
  | m₂ :: m₁ :: ':' :: h₂ :: h₁ :: ' ' :: rest =>
      if m₂.isDigit && m₁.isDigit && h₂.isDigit && h₁.isDigit then
        rest.reverse ++ ['+', h₁, h₂, ':', m₁, m₂]
      else cs
  | _ => cs

/-- The timestamp that a field holds. -/
def timestamp (field text : String) : Except Error Value :=
  match Timestamp.strict? (String.ofList (restorePlus (Text.trim text).toList)) with
  | some time => .ok (.timestamp time)
  | none => .error (.invalidInput (.notATimestamp field text))

/-- The comparison that a field asks for. -/
def comparison (field : String) (read : String → String → Except Error Value)
    (text : String) : Except Error Predicate := do
  let (operator, rest) := Operator.split text
  let value ← read field rest
  return .compare field operator value

/-- The truth value that a field holds. -/
def boolean (field text : String) : Except Error Value :=
  if text = "true" then .ok (.bool true)
  else if text = "false" then .ok (.bool false)
  else .error (.invalidInput (.notABoolean field text))

/-- The offset that a text asks for, which is not trimmed. -/
def offset (text : Option String) : Except Error (Option UInt64) :=
  match given text with
  | none => .ok none
  | some text =>
      match Decimal.uint64? text with
      | some n => .ok (some n)
      | none => .error (.invalidInput (.notAnOffset text))

/-- The direction that a text asks for, in any ASCII case; ascending if there is
no text. -/
def order (text : Option String) : Except Error SortOrder :=
  match given text with
  | none => .ok .asc
  | some text =>
      let lowered := text.toList.map Char.toLower
      if lowered = ['a', 's', 'c'] then .ok .asc
      else if lowered = ['d', 'e', 's', 'c'] then .ok .desc
      else .error (.invalidInput (.notAnOrder text))

end Listing

/-- The texts of a listing of notes. -/
structure NotesQuery where
  id : Option String := none
  set : Option String := none
  timestamp : Option String := none
  marked : Option String := none
  search : Option String := none
  offset : Option String := none
  order : Option String := none
deriving DecidableEq

namespace NotesQuery

/-- The names of the fields. -/
def names : List String :=
  ["id", "set", "timestamp", "marked", "search", "offset", "order"]

/-- Reads the texts from a form; fails if a field is given twice. -/
def ofForm? (form : String) : Option NotesQuery := do
  let fields ← Form.fields? names form
  return {
    id := fields.lookup "id"
    set := fields.lookup "set"
    timestamp := fields.lookup "timestamp"
    marked := fields.lookup "marked"
    search := fields.lookup "search"
    offset := fields.lookup "offset"
    order := fields.lookup "order" }

/-- What the texts ask to list: one filter for each field that counts. -/
def listing (query : NotesQuery) : Except Error NoteListing := do
  let id ← (Listing.given query.id).mapM (Listing.comparison "id" Listing.integer)
  let set ← (Listing.given query.set).mapM (Listing.comparison "set" Listing.integer)
  let timestamp ← (Listing.given query.timestamp).mapM
    (Listing.comparison "timestamp" Listing.timestamp)
  let marked ← (Listing.given query.marked).mapM fun text => do
    let value ← Listing.boolean "marked" text
    return Predicate.eq "marked" value
  let search := (Listing.given query.search).map fun text =>
    Predicate.compare "body" .like (.text (LikePattern.containing text))
  let order ← Listing.order query.order
  let offset ← Listing.offset query.offset
  return {
    filters := id.toList ++ set.toList ++ timestamp.toList ++ marked.toList ++ search.toList
    offset
    order }

end NotesQuery

/-- The texts of a listing that can only be paged. -/
structure PageQuery where
  offset : Option String := none
deriving DecidableEq

namespace PageQuery

/-- Reads the texts from a form; fails if a field is given twice. -/
def ofForm? (form : String) : Option PageQuery := do
  let fields ← Form.fields? ["offset"] form
  return { offset := fields.lookup "offset" }

end PageQuery

end Notebook
