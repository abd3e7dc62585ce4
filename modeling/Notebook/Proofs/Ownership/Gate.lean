import Notebook.Proofs.Ownership.Guard
import Notebook.Storage.Precision

/-!
# The ownership gate

Serving a request is signing its caller in and then guarded work, so everything that is
sent for the caller, and every answer, is bounded by what the lookups of the same request
found.
-/

namespace Notebook

variable {limits : Limits} {request : HttpRequest} {user : User} {endpoint : Endpoint}

/-- The response tells of the refusal, without the reason for `HEAD`. -/
def Refusal.IsToldBy (refusal : Refusal) (response : HttpResponse) : Prop :=
  response.status = refusal.status ∧
    (response.content = refusal.content ∨ response.content = .empty)

variable (limits request user endpoint) in
/-- A response is what the endpoint gives, without its content for `HEAD`, or refuses the
request. -/
def MayRespond (said : Conversation) (response : HttpResponse) : Prop :=
  (∃ given, MayAnswer limits user endpoint said given ∧
    (response = given ∨ request.method = "HEAD" ∧ response = { given with content := .empty })) ∨
  ∃ refusal, MayRefuse user endpoint said refusal ∧ refusal.IsToldBy response

variable (limits) in
/-- Once its caller is signed in, a request is served by guarded work; a caller who is not
signed in is told so. -/
theorem serve_eq_caller_bind {route : Route} (routed : Route.ofPath? request.path = some route)
    (served : route.endpoint? request.method = some endpoint)
    (signsIn : endpoint ≠ .ping ∧ endpoint ≠ .authStatus) :
    ∃ next : Except Refusal User → Work HttpResponse,
      serve limits request = (Handling.caller limits request).run >>= next ∧
      (∀ refusal, ∃ response, next (.error refusal) = .done response ∧
        refusal.IsToldBy response) ∧
      ∀ user, Program.Meets (MayAsk limits request user endpoint)
        (MayRespond limits request user endpoint) [] (next (.ok user)) := by
  have keeps : KeepsGuard limits request endpoint := keepsGuard signsIn
  obtain ⟨next, same, guarded⟩ := keeps
  unfold serve
  rw [routed]
  dsimp only
  rw [served]
  dsimp only
  rw [same]
  refine ⟨_, Program.bind_assoc _ _ _, fun refusal => ?_, fun user => Program.Meets.bind ?_⟩
  · by_cases head : request.method = "HEAD"
    · exact ⟨{ refusal.response with content := .empty }, if_pos head, rfl, .inr rfl⟩
    · exact ⟨refusal.response, if_neg head, rfl, .inl rfl⟩
  refine Program.Meets.mono (guarded user) (fun _ _ allowed => allowed) ?_
  intro said result ended
  cases result with
  | ok response =>
      split
      next head => exact .done (.inl ⟨response, ended, .inr ⟨head, rfl⟩⟩)
      next => exact .done (.inl ⟨response, ended, .inl rfl⟩)
  | error refusal =>
      split
      next => exact .done (.inr ⟨refusal, ended, rfl, .inr rfl⟩)
      next => exact .done (.inr ⟨refusal, ended, rfl, .inl rfl⟩)

/-- A request to delete note 5. -/
def deletionRequest : HttpRequest :=
  { method := "DELETE", target := "/notes/5", body := []
    headers := [("x-auth-subject", Utf8.encode ['g'])] }

/-- The caller who deletes a note. -/
def deletionCaller : User :=
  ⟨1, "name", "mail", "g"⟩

/-- Noon of a day. -/
def noon : Timestamp :=
  .ofMicrosecondOfDay ⟨2024, 1, 1, by decide⟩ 43200000000

/-- The lookup of note 5, which finds a note of this owner. -/
def foundNote (owner : Int64) : Program.Exchange Action Action.Answer where
  op := .store (.execute
    ⟨.query, .notes, "SELECT * FROM \"notes\" WHERE \"id\" = $1 LIMIT 1", [.int 5]⟩)
  answer := .ok (.ofRows [⟨[("id", .int 5), ("owner", .int owner), ("set", .int (-1)),
    ("timestamp", .timestamp noon), ("body", .text "milk"), ("marked", .bool false)]⟩])

end Notebook
