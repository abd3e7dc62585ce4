import Notebook.Proofs.Store.Effect
import Notebook.Storage.Scripted

/-!
# Playing back

What runs on two scripts that differ in one answer have in common. The record of a script only
grows, and each statement takes one answer; so up to the statement that takes the one that
differs both runs are alike (`Script.Apart`), and its place in the record is known from the
start.
-/

namespace Notebook

namespace Script

/-! ### The record -/

/-- A statement is recorded before it is answered. -/
theorem sent_take (script : Script) (statement : Statement) :
    (script.take statement).2.sent = script.sent ++ [statement] := by
  unfold take
  dsimp only
  split <;> rfl

/-- Running statements adds to the record. -/
theorem sent_prefix_takeAll (script : Script) (statements : List Statement) :
    script.sent <+: (script.takeAll statements).2.sent := by
  induction statements generalizing script with
  | nil => exact List.prefix_refl _
  | cons statement rest inductionHypothesis =>
      have grown : script.sent <+: (script.take statement).2.sent := by
        rw [sent_take]
        exact List.prefix_append _ _
      unfold takeAll
      split
      next error script' taken => rwa [taken] at grown
      next outcome script' taken =>
        rw [taken] at grown
        exact grown.trans (inductionHypothesis script')

/-- Running a statement and the one built from its outcome adds to the record. -/
theorem sent_prefix_takePair (script : Script) (head : Statement)
    (tail : Outcome → Except Error Statement) :
    script.sent <+: (script.takePair head tail).2.sent := by
  have grown (script : Script) (statement : Statement) :
      script.sent <+: (script.take statement).2.sent := by
    rw [sent_take]
    exact List.prefix_append _ _
  have first := grown script head
  unfold takePair
  split
  next error script' taken => rwa [taken] at first
  next outcome script' taken =>
    rw [taken] at first
    split
    next => exact first
    next statement _ => exact first.trans (grown script' statement)

/-- Answering a request adds to the record. -/
theorem sent_prefix_respond (script : Script) (request : Request) :
    script.sent <+: (respond request script).2.sent := by
  cases request with
  | execute statement =>
      show script.sent <+: (script.take statement).2.sent
      rw [sent_take]
      exact List.prefix_append _ _
  | executeAtomic statements =>
      exact sent_prefix_takeAll
        { script with batches := script.batches ++ [statements.length] } statements
  | executeSerialized lock head tail =>
      exact sent_prefix_takePair { script with locks := script.locks ++ [lock] } head tail

/-- What is in a record stays at its place. -/
theorem getElem?_of_prefix {sent later : List Statement} (grown : sent <+: later) {place : Nat}
    {statement : Statement} (recorded : sent[place]? = some statement) :
    later[place]? = some statement := by
  obtain ⟨more, rfl⟩ := grown
  rw [List.getElem?_append_left (List.getElem?_eq_some_iff.mp recorded).1]
  exact recorded

/-! ### Two scripts -/

/-- The scripts are the same, except that the statement that will be recorded at this place is
answered in one way or the other. -/
def Apart (place : Nat) (answer other : Except Error Outcome) (script script' : Script) : Prop :=
  ∃ front back, script.answers = front ++ answer :: back ∧
    script' = { script with answers := front ++ other :: back } ∧
    place = script.sent.length + front.length

/-- Two runs gave the same and left scripts that are apart. -/
inductive Alike {α : Type} (place : Nat) (answer other : Except Error Outcome) :
    α × Script → α × Script → Prop
  | intro (result : α) {later later' : Script} (apart : Apart place answer other later later') :
      Alike place answer other (result, later) (result, later')

variable {place : Nat} {answer other : Except Error Outcome} {script script' : Script}

/-- Either a statement is answered alike, or it is the one that is not, and the scripts are
the same from then on. -/
theorem Apart.take (apart : Apart place answer other script script') (statement : Statement) :
    Alike place answer other (script.take statement) (script'.take statement) ∨
    ∃ later, script.take statement = (answer, later) ∧ script'.take statement = (other, later) ∧
      later.sent[place]? = some statement := by
  obtain ⟨front, back, answers, rfl, rfl⟩ := apart
  obtain ⟨_, sent, locks, batches, meanwhile⟩ := script
  cases answers
  cases front with
  | nil =>
      refine .inr ⟨{ answers := back, sent := sent ++ [statement], locks, batches, meanwhile },
        rfl, rfl, ?_⟩
      simp
  | cons first front =>
      refine .inl (.intro first ⟨front, back, rfl, rfl, ?_⟩)
      show sent.length + (front.length + 1) = (sent ++ [statement]).length + front.length
      rw [List.length_append, List.length_singleton]
      omega

/-- Either statements are answered alike, or one of them is at the place. -/
theorem Apart.takeAll (apart : Apart place answer other script script')
    (statements : List Statement) :
    Alike place answer other (script.takeAll statements) (script'.takeAll statements) ∨
    ∃ statement ∈ statements, (script.takeAll statements).2.sent[place]? = some statement := by
  induction statements generalizing script script' with
  | nil => exact .inl (.intro _ apart)
  | cons statement rest inductionHypothesis =>
      unfold Script.takeAll
      rcases apart.take statement with alike | ⟨later, taken, taken', recorded⟩
      · generalize script.take statement = first at alike
        generalize script'.take statement = second at alike
        cases alike with
        | intro result still =>
            cases result with
            | error error => exact .inl (.intro _ still)
            | ok outcome =>
                rcases inductionHypothesis still with alike | ⟨met, member, recorded⟩
                · refine .inl ?_
                  dsimp only
                  generalize Script.takeAll _ rest = first at alike
                  generalize Script.takeAll _ rest = second at alike
                  cases alike with
                  | intro outcomes still => exact .intro _ still
                · exact .inr ⟨met, List.mem_cons_of_mem _ member, recorded⟩
      · refine .inr ⟨statement, List.mem_cons_self, ?_⟩
        rw [taken]
        cases answer with
        | error error => exact recorded
        | ok outcome => exact getElem?_of_prefix (sent_prefix_takeAll later rest) recorded

/-- Either a pair of statements is answered alike, or one of them is at the place. -/
theorem Apart.takePair (apart : Apart place answer other script script') (head : Statement)
    (tail : Outcome → Except Error Statement) :
    Alike place answer other (script.takePair head tail) (script'.takePair head tail) ∨
    ∃ statement, (statement = head ∨ ∃ outcome, tail outcome = .ok statement) ∧
      (script.takePair head tail).2.sent[place]? = some statement := by
  unfold Script.takePair
  rcases apart.take head with alike | ⟨later, taken, taken', recorded⟩
  · generalize script.take head = first at alike
    generalize script'.take head = second at alike
    cases alike with
    | intro result still =>
        cases result with
        | error error => exact .inl (.intro _ still)
        | ok outcome =>
            dsimp only
            cases built : tail outcome with
            | error error => exact .inl (.intro _ still)
            | ok statement =>
                rcases still.take statement with alike | ⟨last, taken, _, recorded⟩
                · refine .inl ?_
                  dsimp only
                  generalize Script.take statement _ = first at alike
                  generalize Script.take statement _ = second at alike
                  cases alike with
                  | intro outcome still => exact .intro _ still
                · refine .inr ⟨statement, .inr ⟨outcome, built⟩, ?_⟩
                  dsimp only
                  rw [taken]
                  exact recorded
  · refine .inr ⟨head, .inl rfl, ?_⟩
    rw [taken]
    cases answer with
    | error error => exact recorded
    | ok outcome =>
        dsimp only
        split
        next => exact recorded
        next statement _ =>
          refine getElem?_of_prefix ?_ recorded
          rw [sent_take]
          exact List.prefix_append _ _

/-- How the answers to one request compare. -/
inductive Compared (place : Nat) (answer other : Except Error Outcome) :
    (request : Request) → request.Answer × Script → request.Answer × Script → Prop
  | alike {request : Request} {result result' : request.Answer × Script}
      (alike : Alike place answer other result result') :
      Compared place answer other request result result'
  /-- The statement was the one that is answered in one way or the other. -/
  | met {statement : Statement} {script : Script}
      (recorded : script.sent[place]? = some statement) :
      Compared place answer other (.execute statement) (answer, script) (other, script)
  /-- The statement was one of several. -/
  | among {request : Request} {result result' : request.Answer × Script} {statement : Statement}
      (several : ∀ only, request ≠ .execute only) (sends : request.Sends statement)
      (recorded : result.2.sent[place]? = some statement) :
      Compared place answer other request result result'

/-- Two scripts that are apart answer a request alike, or it sends the statement that they
answer each in its own way. -/
theorem Apart.respond (apart : Apart place answer other script script') (request : Request) :
    Compared place answer other request (respond request script) (respond request script') := by
  obtain ⟨front, back, answers, rfl, place⟩ := apart
  cases request with
  | execute statement =>
      have apart : Apart _ answer other script { script with answers := front ++ other :: back } :=
        ⟨front, back, answers, rfl, place⟩
      rcases apart.take statement with alike | ⟨later, taken, taken', recorded⟩
      · exact .alike alike
      · show Compared _ answer other (.execute statement) (script.take statement)
          (Script.take statement { script with answers := front ++ other :: back })
        rw [taken, taken']
        exact .met recorded
  | executeAtomic statements =>
      have noted : Apart _ answer other
          { script with batches := script.batches ++ [statements.length] }
          { script with answers := front ++ other :: back,
                        batches := script.batches ++ [statements.length] } :=
        ⟨front, back, answers, rfl, place⟩
      rcases noted.takeAll statements with alike | ⟨statement, member, recorded⟩
      · exact .alike alike
      · exact .among (fun _ => by simp) member recorded
  | executeSerialized lock head tail =>
      have noted : Apart _ answer other { script with locks := script.locks ++ [lock] }
          { script with answers := front ++ other :: back,
                        locks := script.locks ++ [lock] } :=
        ⟨front, back, answers, rfl, place⟩
      rcases noted.takePair head tail with alike | ⟨statement, sends, recorded⟩
      · exact .alike alike
      · exact .among (fun _ => by simp) sends recorded

/-! ### Whole runs -/

/-- When a request is answered, others have their turn at the cache first. -/
theorem run_ask_store {α : Type} (request : Request) (next : request.Answer → Work α)
    (answers : List (Except Error Outcome)) (sent : List Statement) (locks : List String)
    (batches : List Nat) (meanwhile : List (IdentityCache → IdentityCache))
    (cache : IdentityCache) (clock : Timestamp) :
    World.run answering (.ask (.store request) next)
        ⟨⟨answers, sent, locks, batches, meanwhile⟩, cache, clock⟩ =
      World.run answering
        (next (respond request ⟨answers, sent, locks, batches, meanwhile.tail⟩).1)
        ⟨(respond request ⟨answers, sent, locks, batches, meanwhile.tail⟩).2,
          meanwhile.headD id cache, clock⟩ := rfl

/-- Work adds to the record. -/
theorem sent_prefix_run {α : Type} (work : Work α) (world : World Script) :
    world.store.sent <+: (World.run answering work world).2.store.sent := by
  induction work generalizing world with
  | done result => exact List.prefix_refl _
  | ask action next inductionHypothesis =>
      refine List.IsPrefix.trans ?_ (inductionHypothesis _ _)
      cases action with
      | store request =>
          exact sent_prefix_respond
            { world.store with meanwhile := world.store.meanwhile.tail } request
      | cache call => exact List.prefix_refl _
      | now => exact List.prefix_refl _

end Script

end Notebook
