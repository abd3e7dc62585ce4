import Notebook.Json.Basic
import Notebook.Text.Form

/-!
# HTTP messages

Requests as they arrive and responses as they leave. Header names do not
distinguish ASCII cases, and of a header that is given several times only the
first value counts. The values of headers and the body are bytes, which may be
no text at all.
-/

namespace Notebook

/-- An HTTP request. -/
structure HttpRequest where
  method : String
  /-- The path and, behind a question mark, the query. Scheme and authority may
  stand in front. -/
  target : String
  /-- Names and values in order of arrival. -/
  headers : List (String × List UInt8)
  body : List UInt8

namespace HttpRequest

/-- The first value of a header. -/
def header? (request : HttpRequest) (name : String) : Option (List UInt8) :=
  (request.headers.find? fun (given, _) =>
    given.toList.map Char.toLower = name.toList.map Char.toLower).map Prod.snd

/-- Printable ASCII, blanks and tabs included. -/
def isPrintable (byte : UInt8) : Bool :=
  byte == 0x09 || (0x20 ≤ byte && byte ≤ 0x7E)

/-- The text with one character for each byte. -/
def asciiText (value : List UInt8) : String :=
  String.ofList (value.map fun byte => Char.ofNat byte.toNat)

/-- The text of a value whose bytes are all printable ASCII. -/
def valueText? (value : List UInt8) : Option String :=
  if value.all isPrintable then some (asciiText value) else none

/-- The text of a header. A later value does not stand in for a first one that has no text. -/
def headerText? (request : HttpRequest) (name : String) : Option String :=
  (request.header? name).bind valueText?

/-- The target without a fragment, and without scheme and authority. -/
def resource (request : HttpRequest) : List Char :=
  let target := request.target.toList.takeWhile (· ≠ '#')
  match target.dropWhile (· ≠ '/') with
  | '/' :: '/' :: rest =>
      if target.head? = some '/' then target
      else rest.dropWhile fun c => c ≠ '/' && c ≠ '?'
  | _ => target

/-- The path of the target, still percent-encoded. -/
def path (request : HttpRequest) : List Char :=
  request.resource.takeWhile (· ≠ '?')

/-- The query of the target, still encoded; empty if there is none. -/
def query (request : HttpRequest) : String :=
  String.ofList ((request.resource.dropWhile (· ≠ '?')).drop 1)

end HttpRequest

/-- What a response carries. -/
inductive Content where
  | empty
  /-- Prose for people, whose wording does not matter here. -/
  | prose
  | json (value : Json)

/-- The id that a response repeats or introduces to find its request in the log. -/
inductive RequestId where
  | echoed (value : List UInt8)
  /-- The request had none, so a new one is made. -/
  | fresh
deriving DecidableEq

/-- An HTTP response. -/
structure HttpResponse where
  status : Nat
  content : Content

/-- The id of the response to a request. -/
def HttpRequest.requestId (request : HttpRequest) : RequestId :=
  match request.header? "x-request-id" with
  | some value => .echoed value
  | none => .fresh

end Notebook
