import Notebook.Error
import Notebook.Http.Message

/-!
# Refusals

Why a request is not served, with the status and the body of the response. An
error of the store or of the input becomes a refusal by its kind; a violated
unique constraint is a conflict. Requests that do not even fit their route are
rejected in prose.
-/

namespace Notebook

/-- Why a request is not served. -/
inductive Refusal where
  | internal (error : Error)
  | unauthorized (text : String)
  | notFound (text : String)
  | badRequest (text : String)
  | conflict (text : String)
  /-- The request does not fit its route. -/
  | rejected (status : Nat)
deriving DecidableEq

namespace Refusal

/-- What requests without an identity are told. -/
def unauthenticatedText : String := "Unauthenticated!"

/-- The refusal of requests without an identity. -/
def unauthenticated : Refusal :=
  .unauthorized unauthenticatedText

/-- The refusal that an error amounts to. -/
def ofError (error : Error) : Refusal :=
  if error.isUniqueViolation then .conflict error.message
  else
    match error with
    | .notFound missing => .notFound missing.message
    | .invalidInput fault => .badRequest fault.message
    | .conflict contention => .conflict contention.message
    | error => .internal error

/-- The status of a refusal. -/
def status : Refusal → Nat
  | .internal _ => 500
  | .unauthorized _ => 401
  | .notFound _ => 404
  | .badRequest _ => 400
  | .conflict _ => 409
  | .rejected status => status

/-- The body that tells a reason. -/
def reason (text : String) : Content :=
  .json (.object [("error", .text text)])

/-- The body of a refusal. -/
def content : Refusal → Content
  | .internal error => reason error.message
  | .unauthorized text => reason text
  | .notFound text => reason text
  | .badRequest text => reason text
  | .conflict text => reason text
  | .rejected _ => .prose

/-- The response to a refused request. -/
def response (refusal : Refusal) : HttpResponse :=
  { status := refusal.status, content := refusal.content }

end Refusal

end Notebook
