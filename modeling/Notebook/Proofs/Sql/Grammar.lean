import Notebook.Proofs.Sql.Condition

/-!
# The grammar of conditions

SQL's rules for conditions, as derivations: an operand is a comparison or a condition
in parentheses, a run joins operands with `AND`, and a whole condition joins runs with
`OR`. `ofTerms?_eq_some_iff` says that the reader of conditions accepts exactly what
these rules derive, so every list of terms has at most one meaning.

In one direction the induction is on the derivation. In the other it follows the
reader term by term: `ReadFrom` says what was read so far, on each level that is open.
-/

namespace Notebook.Sql

variable {α : Type}

/-- How tightly the parts of a condition belong together. -/
inductive Level where
  | operand
  | run
  | whole

/-- The terms stand for the condition as a part of this level. -/
inductive Derives : Level → List (Term α) → Condition α → Prop where
  | comparison (leaf : α) : Derives .operand [.comparison leaf] (.comparison leaf)
  | parenthesized {terms : List (Term α)} {condition : Condition α}
      (inner : Derives .whole terms condition) :
      Derives .operand (.opening :: terms ++ [.closing]) condition
  | first {terms : List (Term α)} {condition : Condition α}
      (operand : Derives .operand terms condition) : Derives .run terms condition
  | and {terms terms' : List (Term α)} {condition condition' : Condition α}
      (run : Derives .run terms condition) (operand : Derives .operand terms' condition') :
      Derives .run (terms ++ .conjunction .and :: terms') (.and condition condition')
  | alone {terms : List (Term α)} {condition : Condition α}
      (run : Derives .run terms condition) : Derives .whole terms condition
  | or {terms terms' : List (Term α)} {condition condition' : Condition α}
      (whole : Derives .whole terms condition) (run : Derives .run terms' condition') :
      Derives .whole (terms ++ .conjunction .or :: terms') (.or condition condition')

/-! ### What is derived is read -/

/-- A run of `AND`s may begin here. -/
def Pending.StartsRun : Pending α → Prop
  | .empty => True
  | .after _ conjunction => conjunction = .or

/-- What completes the first operand of a run also completes the run. -/
theorem Pending.join_complete {pending : Pending α} (starts : pending.StartsRun)
    (first second : Condition α) :
    (pending.complete first).join .and second = pending.complete (.and first second) := by
  cases pending with
  | empty => rfl
  | after group conjunction =>
      have alternative : conjunction = .or := starts
      rw [alternative]
      rfl

/-- What reading the terms of a level does, wherever they may stand. -/
def Reads : Level → List (Term α) → Condition α → Prop
  | .operand, terms, condition => ∀ pending outer,
      terms.foldlM Position.advance? (.before pending outer) =
        some (.behind (pending.complete condition) outer)
  | .run, terms, condition => ∀ pending outer, pending.StartsRun →
      terms.foldlM Position.advance? (.before pending outer) =
        some (.behind (pending.complete condition) outer)
  | .whole, terms, condition => ∀ outer, ∃ group,
      terms.foldlM Position.advance? (.before .empty outer) = some (.behind group outer) ∧
        group.close = condition

/-- Whatever is derived as a part of some level is read as this part. -/
theorem Derives.reads {level : Level} {terms : List (Term α)} {condition : Condition α}
    (derivation : Derives level terms condition) : Reads level terms condition := by
  induction derivation with
  | comparison leaf =>
      intro pending outer
      rfl
  | parenthesized _ innerHypothesis =>
      intro pending outer
      obtain ⟨group, inner, same⟩ := innerHypothesis (pending :: outer)
      rw [List.cons_append, List.foldlM_cons, Position.advance?]
      simp only [Option.bind_eq_bind, Option.bind_some, List.foldlM_append, inner,
        List.foldlM_cons, Position.advance?, same]
      rfl
  | first _ operandHypothesis =>
      intro pending outer _
      exact operandHypothesis pending outer
  | and _ _ runHypothesis operandHypothesis =>
      intro pending outer starts
      have front := runHypothesis pending outer starts
      rw [List.foldlM_append, front]
      simp only [Option.bind_eq_bind, Option.bind_some, List.foldlM_cons, Position.advance?]
      rw [operandHypothesis, Pending.complete, Pending.join_complete starts]
  | alone _ runHypothesis =>
      intro outer
      exact ⟨_, runHypothesis .empty outer trivial, rfl⟩
  | @or _ _ _ last _ _ wholeHypothesis runHypothesis =>
      intro outer
      obtain ⟨group, front, same⟩ := wholeHypothesis outer
      refine ⟨group.join .or last, ?_, ?_⟩
      · rw [List.foldlM_append, front]
        simp only [Option.bind_eq_bind, Option.bind_some, List.foldlM_cons, Position.advance?]
        exact runHypothesis (.after group .or) outer rfl
      · rw [← same]
        rfl

/-! ### What is read is derived -/

/-- The group was read from these terms. -/
def Grouping.ReadFrom (group : Grouping α) (terms : List (Term α)) : Prop :=
  match group.ended with
  | none => Derives .run terms group.run
  | some ended => ∃ front back, terms = front ++ .conjunction .or :: back ∧
      Derives .whole front ended ∧ Derives .run back group.run

/-- A group that ends was read from what its condition stands for. -/
theorem Grouping.ReadFrom.close {group : Grouping α} {terms : List (Term α)}
    (read : group.ReadFrom terms) : Derives .whole terms group.close := by
  obtain ⟨ended, run⟩ := group
  cases ended with
  | none => exact .alone read
  | some ended =>
      obtain ⟨front, back, rfl, whole, run⟩ := read
      exact .or whole run

/-- A group with one more operand was read from the terms of both. -/
theorem Grouping.ReadFrom.join {group : Grouping α} {terms terms' : List (Term α)}
    {operand : Condition α} (read : group.ReadFrom terms)
    (derivation : Derives .operand terms' operand) (conjunction : Conjunction) :
    (group.join conjunction operand).ReadFrom (terms ++ .conjunction conjunction :: terms') := by
  cases conjunction with
  | or => exact ⟨terms, terms', rfl, read.close, .first derivation⟩
  | and =>
      obtain ⟨ended, run⟩ := group
      cases ended with
      | none => exact .and read derivation
      | some ended =>
          obtain ⟨front, back, rfl, whole, run⟩ := read
          refine ⟨front, back ++ .conjunction .and :: terms', ?_, whole, .and run derivation⟩
          simp

/-- What waits for an operand was read from these terms. -/
def Pending.ReadFrom : Pending α → List (Term α) → Prop
  | .empty, terms => terms = []
  | .after group conjunction, terms =>
      ∃ front, group.ReadFrom front ∧ terms = front ++ [.conjunction conjunction]

/-- What an operand completes was read from the terms of both. -/
theorem Pending.ReadFrom.complete {pending : Pending α} {terms terms' : List (Term α)}
    {operand : Condition α} (read : pending.ReadFrom terms)
    (derivation : Derives .operand terms' operand) :
    (pending.complete operand).ReadFrom (terms ++ terms') := by
  cases pending with
  | empty =>
      have nothing : terms = [] := read
      rw [nothing]
      exact .first derivation
  | after group conjunction =>
      obtain ⟨front, read, rfl⟩ := read
      have joined := read.join derivation conjunction
      rwa [List.append_assoc]

/-- The groups around a parenthesis were read from these terms. -/
def EnclosedBy : List (Pending α) → List (Term α) → Prop
  | [], terms => terms = []
  | pending :: outer, terms => ∃ front back,
      EnclosedBy outer front ∧ pending.ReadFrom back ∧ terms = front ++ back ++ [.opening]

/-- All that stands in front of a place was read from these terms. -/
def Position.ReadFrom : Position α → List (Term α) → Prop
  | .before pending outer, terms => ∃ front back,
      EnclosedBy outer front ∧ pending.ReadFrom back ∧ terms = front ++ back
  | .behind group outer, terms => ∃ front back,
      EnclosedBy outer front ∧ group.ReadFrom back ∧ terms = front ++ back

/-- One more term is read from one more term. -/
theorem Position.ReadFrom.advance {position next : Position α} {terms : List (Term α)}
    {term : Term α} (read : position.ReadFrom terms) (step : position.advance? term = some next) :
    next.ReadFrom (terms ++ [term]) := by
  cases position with
  | before pending outer =>
      obtain ⟨front, back, enclosed, waiting, rfl⟩ := read
      cases term with
      | comparison leaf =>
          cases step
          exact ⟨front, back ++ [.comparison leaf], enclosed, waiting.complete (.comparison leaf),
            List.append_assoc ..⟩
      | opening =>
          cases step
          exact ⟨front ++ back ++ [.opening], [], ⟨front, back, enclosed, waiting, rfl⟩, rfl,
            (List.append_nil _).symm⟩
      | conjunction joining => cases step
      | closing => cases step
  | behind group outer =>
      obtain ⟨front, back, enclosed, inner, rfl⟩ := read
      cases term with
      | conjunction joining =>
          cases step
          exact ⟨front, back ++ [.conjunction joining], enclosed, ⟨back, inner, rfl⟩,
            List.append_assoc ..⟩
      | closing =>
          cases outer with
          | nil => cases step
          | cons around outer =>
              cases step
              obtain ⟨far, near, enclosed, waiting, rfl⟩ := enclosed
              have operand : Derives .operand (.opening :: back ++ [.closing]) group.close :=
                .parenthesized inner.close
              refine ⟨far, near ++ (.opening :: back ++ [.closing]), enclosed,
                waiting.complete operand, ?_⟩
              simp
      | comparison leaf => cases step
      | opening => cases step

/-- Whatever is read of terms was read from them. -/
theorem Position.ReadFrom.foldlM {position final : Position α} {terms rest : List (Term α)}
    (read : position.ReadFrom terms) (steps : rest.foldlM advance? position = some final) :
    final.ReadFrom (terms ++ rest) := by
  induction rest generalizing position terms with
  | nil =>
      cases steps
      rwa [List.append_nil]
  | cons term rest inductionHypothesis =>
      rw [List.foldlM_cons, Option.bind_eq_bind] at steps
      obtain ⟨next, step, steps⟩ := Option.bind_eq_some_iff.mp steps
      have whole := inductionHypothesis (read.advance step) steps
      rwa [List.append_assoc] at whole

/-- The reader accepts exactly the conditions that the rules of SQL derive. -/
theorem Condition.ofTerms?_eq_some_iff {terms : List (Term α)} {condition : Condition α} :
    Condition.ofTerms? terms = some condition ↔ Derives .whole terms condition := by
  constructor
  · intro accepted
    obtain ⟨final, steps, finished⟩ := Option.bind_eq_some_iff.mp accepted
    have start : (Position.before .empty [] : Position α).ReadFrom [] := ⟨[], [], rfl, rfl, rfl⟩
    have read := start.foldlM steps
    cases final with
    | before pending outer => cases finished
    | behind group outer =>
        cases outer with
        | cons around outer => cases finished
        | nil =>
            cases finished
            obtain ⟨front, back, rfl, inner, same⟩ := read
            have whole : terms = back := same
            rw [whole]
            exact inner.close
  · intro derivation
    obtain ⟨group, steps, same⟩ := derivation.reads []
    rw [Condition.ofTerms?, steps, ← same]
    rfl

end Notebook.Sql
