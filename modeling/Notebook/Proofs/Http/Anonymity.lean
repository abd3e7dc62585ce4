import Notebook.Proofs.Ownership.Guard
import Notebook.Proofs.Ownership.SignIn
import Notebook.Proofs.Text.Blank

/-!
# Requests without an identity

A request whose first subject header names nobody is answered at once: nothing is asked of the
store, the cache or the clock, so nothing changes. Whatever else the request holds is not
looked at, because each endpoint that needs its caller asks for it first
(`nothing_asked_without_identity`). A subject that does name somebody is not empty and is
trimmed.
-/

namespace Notebook

/-! ### Printable bytes -/

/-- The tab and the bytes from the space to the tilde. -/
def IsPrintable (byte : UInt8) : Prop :=
  byte = 0x09 ∨ 0x20 ≤ byte ∧ byte ≤ 0x7E

instance (byte : UInt8) : Decidable (IsPrintable byte) :=
  inferInstanceAs (Decidable (_ ∨ _))

/-- The tab and the space. -/
def IsSpace (byte : UInt8) : Prop :=
  byte = 0x09 ∨ byte = 0x20

/-- The bytes that headers take for printable are these. -/
theorem isPrintable_iff (byte : UInt8) :
    HttpRequest.isPrintable byte = true ↔ IsPrintable byte := by
  simp [HttpRequest.isPrintable, IsPrintable]

/-- A printable byte is a blank if it is a tab or a space. -/
theorem isBlank_iff_of_isPrintable {byte : UInt8} (printable : IsPrintable byte) :
    Text.isBlank (Char.ofNat byte.toNat) = true ↔ IsSpace byte := by
  have all : ∀ n < 0x7F, n = 0x09 ∨ 0x20 ≤ n →
      (Text.isBlank (Char.ofNat n) = true ↔ n = 0x09 ∨ n = 0x20) := by
    decide
  have number : byte.toNat = 0x09 ∨ 0x20 ≤ byte.toNat ∧ byte.toNat ≤ 0x7E := by
    rwa [IsPrintable, UInt8.le_iff_toNat_le, UInt8.le_iff_toNat_le, ← UInt8.toNat_inj] at printable
  rw [IsSpace, ← UInt8.toNat_inj, ← UInt8.toNat_inj]
  exact all byte.toNat (by omega) (by omega)

/-- A text of printable bytes is blank if they are all tabs and spaces. -/
theorem trim_asciiText_eq_empty_iff {value : List UInt8}
    (printable : ∀ byte ∈ value, IsPrintable byte) :
    Text.trim (HttpRequest.asciiText value) = "" ↔ ∀ byte ∈ value, IsSpace byte := by
  rw [Text.trim_eq_empty_iff, HttpRequest.asciiText, String.toList_ofList, List.forall_mem_map]
  exact forall₂_congr fun byte member => isBlank_iff_of_isPrintable (printable byte member)

/-! ### Identities -/

variable {request : HttpRequest}

/-- The first subject header is missing, or has a byte that is not printable, or has nothing but
tabs and spaces. -/
def HttpRequest.NamesNobody (request : HttpRequest) : Prop :=
  request.header? subjectHeader = none ∨
    ∃ value, request.header? subjectHeader = some value ∧
      ((∃ byte ∈ value, ¬ IsPrintable byte) ∨ ∀ byte ∈ value, IsSpace byte)

/-- The text of a header is that of its first value, if the bytes of this are printable. -/
theorem HttpRequest.headerText?_eq_some_iff {name text : String} :
    request.headerText? name = some text ↔ ∃ value, request.header? name = some value ∧
      (∀ byte ∈ value, IsPrintable byte) ∧ text = asciiText value := by
  rw [headerText?, Option.bind_eq_some_iff]
  refine exists_congr fun value => and_congr_right fun _ => ?_
  rw [valueText?, Option.ite_none_right_eq_some, Option.some.injEq, List.all_eq_true]
  simp only [isPrintable_iff]
  exact and_congr_right' eq_comm

/-- A header counts if it has a text that is not blank, and then it is trimmed. -/
theorem HttpRequest.identityHeader?_eq_some_iff {name trimmed : String} :
    request.identityHeader? name = some trimmed ↔ ∃ text, request.headerText? name = some text ∧
      Text.trim text ≠ "" ∧ trimmed = Text.trim text := by
  unfold identityHeader?
  rw [Option.bind_eq_bind, Option.bind_eq_some_iff]
  refine exists_congr fun text => and_congr_right fun _ => ?_
  rw [Option.ite_none_right_eq_some, Option.some.injEq]
  exact and_congr_right' eq_comm

/-- There is an identity if the subject header counts. -/
theorem HttpRequest.identity?_eq_none_iff :
    request.identity? = none ↔ request.identityHeader? subjectHeader = none := by
  unfold identity?
  cases request.identityHeader? subjectHeader <;> simp

/-- There is no identity if the first subject header names nobody. -/
theorem HttpRequest.identity?_eq_none_iff_namesNobody :
    request.identity? = none ↔ request.NamesNobody := by
  rw [identity?_eq_none_iff, Option.eq_none_iff_forall_ne_some]
  simp only [ne_eq, identityHeader?_eq_some_iff, headerText?_eq_some_iff]
  unfold NamesNobody
  cases request.header? subjectHeader with
  | none => simp
  | some value =>
      simp only [reduceCtorEq, false_or, Option.some.injEq, exists_eq_left']
      constructor
      · intro useless
        by_cases printable : ∀ byte ∈ value, IsPrintable byte
        · refine .inr ((trim_asciiText_eq_empty_iff printable).mp ?_)
          exact by_contra fun filled => useless _ ⟨_, ⟨printable, rfl⟩, filled, rfl⟩
        · exact .inl (by simpa using printable)
      · rintro (⟨byte, member, unprintable⟩ | blank) _ ⟨_, ⟨printable, rfl⟩, filled, _⟩
        · exact unprintable (printable byte member)
        · exact filled ((trim_asciiText_eq_empty_iff printable).mpr blank)

/-- The subject of an identity is trimmed and not empty, and neither is the name. -/
theorem HttpRequest.identity?_eq_some {identity : NewUser}
    (named : request.identity? = some identity) :
    identity.gid ≠ "" ∧ Text.trim identity.gid = identity.gid ∧ identity.name ≠ "" := by
  obtain ⟨gid, subject, given⟩ := Option.bind_eq_some_iff.mp named
  cases given
  obtain ⟨text, _, filled, rfl⟩ := identityHeader?_eq_some_iff.mp subject
  refine ⟨filled, Text.trim_trim text, ?_⟩
  show (request.identityHeader? nameHeader).getD (Text.trim text) ≠ ""
  cases name : request.identityHeader? nameHeader with
  | none => exact filled
  | some value =>
      obtain ⟨_, _, filled, rfl⟩ := identityHeader?_eq_some_iff.mp name
      exact filled

/-! ### Serving -/

/-- What an endpoint gives to somebody without an identity. -/
def Endpoint.anonymously : Endpoint → Except Refusal HttpResponse
  | .ping => .ok { status := 200, content := .empty }
  | .authStatus => .ok (Handling.json (.object [("authed", .bool false)]))
  | _ => .error .unauthenticated

/-- Without an identity an endpoint is done at once. -/
theorem Handling.endpoint_run_of_none (limits : Limits) (unnamed : request.identity? = none)
    (endpoint : Endpoint) :
    (Handling.endpoint limits request endpoint).run = .done endpoint.anonymously := by
  by_cases signsIn : endpoint ≠ .ping ∧ endpoint ≠ .authStatus
  · obtain ⟨next, same, _⟩ : KeepsGuard limits request endpoint := keepsGuard signsIn
    have refused : endpoint.anonymously = .error .unauthenticated := by
      cases endpoint <;> first | rfl | simp at signsIn
    have asked := caller_run_of_none limits unnamed
    rw [same, refused, ExceptT.run_bind, asked]
    rfl
  · rcases not_and_or.mp signsIn with ping | authStatus
    · rw [not_ne_iff.mp ping]
      rfl
    · rw [not_ne_iff.mp authStatus]
      unfold Handling.endpoint Handling.caller?
      rw [unnamed]
      rfl

/-- Without an identity a request is answered at once. -/
theorem serve_of_none (limits : Limits) (unnamed : request.identity? = none) :
    ∃ response, serve limits request = .done response ∧
      ∀ route endpoint, Route.ofPath? request.path = some route →
        route.endpoint? request.method = some endpoint → request.method ≠ "HEAD" →
        response = .ofResult endpoint.anonymously := by
  unfold serve
  split
  next unknown => exact ⟨_, rfl, fun route _ known => by rw [unknown] at known; cases known⟩
  next route known =>
    split
    next unserved =>
      refine ⟨_, rfl, fun route' endpoint known' served => ?_⟩
      rw [known] at known'
      cases known'
      rw [unserved] at served
      cases served
    next endpoint served =>
      rw [Handling.endpoint_run_of_none limits unnamed endpoint]
      by_cases head : request.method = "HEAD"
      · exact ⟨_, if_pos head, fun _ _ _ _ other => absurd head other⟩
      · refine ⟨_, if_neg head, fun route' endpoint' known' served' _ => ?_⟩
        rw [known] at known'
        cases known'
        rw [served] at served'
        cases served'
        rfl

/-- All that is served on the paths of notes and sets is refused to somebody without an
identity. -/
theorem Route.anonymously_eq {route : Route} {endpoint : Endpoint} {method : String}
    (notPing : route ≠ .ping) (notAuthStatus : route ≠ .authStatus)
    (served : route.endpoint? method = some endpoint) :
    endpoint.anonymously = .error .unauthenticated := by
  unfold endpoint? at served
  split at served
  next => exact absurd rfl notPing
  next => exact absurd rfl notAuthStatus
  all_goals cases served
  all_goals rfl

/-- There is no identity exactly if the first subject header is missing, has a byte that is
not printable, or has nothing but tabs and spaces. Then the response is settled before anything
is asked, so that store, cache and clock stay as they are whatever would answer, and where notes
and sets are served it is the fixed one, whatever else the request holds. If there is an identity,
its subject is trimmed, and neither its subject nor its name is empty. -/
theorem nothing_asked_without_identity (limits : Limits) (request : HttpRequest) :
    (request.identity? = none ↔ request.NamesNobody) ∧
    (request.NamesNobody → ∃ response,
      serve limits request = .done response ∧
      (∀ (Store : Type) (answering : World.Answering Store) (world : World Store),
        World.run answering (serve limits request) world = (response, world)) ∧
      ∀ route endpoint, Route.ofPath? request.path = some route → route ≠ .ping →
        route ≠ .authStatus → route.endpoint? request.method = some endpoint →
        request.method ∈ ["GET", "POST", "PATCH", "DELETE"] →
        response = ⟨401, .json (.object [("error", .text "Unauthenticated!")])⟩) ∧
    ∀ identity, request.identity? = some identity →
      identity.gid ≠ "" ∧ Text.trim identity.gid = identity.gid ∧ identity.name ≠ "" := by
  refine ⟨HttpRequest.identity?_eq_none_iff_namesNobody, fun nobody => ?_, fun _ =>
    HttpRequest.identity?_eq_some⟩
  obtain ⟨response, served, answer⟩ :=
    serve_of_none limits (HttpRequest.identity?_eq_none_iff_namesNobody.mpr nobody)
  refine ⟨response, served, fun Store answering world => by rw [served]; rfl, ?_⟩
  intro route endpoint known notPing notAuthStatus routed method
  have notHead : request.method ≠ "HEAD" := by
    rintro head
    rw [head] at method
    simp at method
  rw [answer route endpoint known routed notHead,
    Route.anonymously_eq notPing notAuthStatus routed]
  rfl

/-- Neither an id that is no number nor a further subject helps if the first subject has a letter
beyond ASCII, which in Latin-1 is not even UTF-8. -/
theorem nothing_asked_without_identity_unprintable :
    let request : HttpRequest :=
      { method := "DELETE", target := "/notes/x", body := [0xFF]
        headers := [("X-Auth-Subject", [0x52, 0x65, 0x6E, 0xE9]), ("x-auth-subject", [0x67])] }
    request.NamesNobody ∧ serve {} request =
      .done ⟨401, .json (.object [("error", .text "Unauthenticated!")])⟩ := by
  intro request
  have nobody : request.NamesNobody :=
    .inr ⟨[0x52, 0x65, 0x6E, 0xE9], by decide, .inl ⟨0xE9, by decide, by decide⟩⟩
  obtain ⟨response, served, _, answer⟩ := (nothing_asked_without_identity {} request).2.1 nobody
  refine ⟨nobody, served.trans (congrArg _ ?_)⟩
  exact answer (.note ['x']) (.deleteNote ['x']) (by decide) (by decide) (by decide) (by decide)
    (by decide)

end Notebook
