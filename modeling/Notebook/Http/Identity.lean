import Notebook.Entity.User
import Notebook.Http.Message
import Notebook.Text.Blank

/-!
# Identities

A proxy in front of the service signs people in and names them in three headers.
A header counts if it is printable ASCII and not blank. Without a subject there
is no identity; a missing name is the subject, and a missing address is empty.
-/

namespace Notebook

/-- The header with the subject. -/
def subjectHeader : String := "x-auth-subject"

/-- The header with the name. -/
def nameHeader : String := "x-auth-name"

/-- The header with the address. -/
def emailHeader : String := "x-auth-email"

namespace HttpRequest

/-- The trimmed value of a header, if it counts. -/
def identityHeader? (request : HttpRequest) (name : String) : Option String := do
  let text ← request.headerText? name
  let trimmed := Text.trim text
  if trimmed ≠ "" then some trimmed else none

/-- The identity that the headers name. -/
def identity? (request : HttpRequest) : Option NewUser := do
  let gid ← request.identityHeader? subjectHeader
  return {
    gid
    name := (request.identityHeader? nameHeader).getD gid
    email := (request.identityHeader? emailHeader).getD "" }

end HttpRequest

end Notebook
