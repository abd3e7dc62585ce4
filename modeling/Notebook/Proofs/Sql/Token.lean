import Notebook.Predicate
import Notebook.Proofs.Text.Decimal

/-!
# Tokens of SQL text

The lexical rules of the SQL that statements are written in, as a reader that
cuts a text into tokens. Each token reaches as far as it can. A double quote
opens a name and a second one ends it, unless a third follows directly: two
quotes inside a name stand for one. String literals, comments and all characters
without a rule are refused, so nothing is read that SQL would read otherwise.

`Spells` says that a text stands for certain tokens wherever it is followed by a
separator. Texts are assembled from pieces, and the lemmas here assemble their
tokens in the same way.
-/

namespace Notebook.Sql

/-- A lexical unit of SQL text. -/
inductive Token where
  /-- A name in double quotes, without the quotes around it. -/
  | name (text : String)
  /-- A keyword, a bare name or a numeral. -/
  | word (text : String)
  /-- A comparison sign. -/
  | sign (text : String)
  /-- The place of a value, not numbered yet. -/
  | placeholder
  /-- The numbered place of a value. -/
  | parameter (number : Nat)
  | opening
  | closing
  | comma
  | star
deriving DecidableEq

/-- The characters of keywords, bare names and numerals. -/
def isWordChar (c : Char) : Bool :=
  c.isAlphanum || c == '_'

/-- The characters of comparison signs. -/
def isSignChar (c : Char) : Bool :=
  c == '=' || c == '<' || c == '>' || c == '!'

/-- A token that was begun, with what was read of it. -/
inductive Lexeme where
  /-- No token was begun. -/
  | blank
  | name (read : List Char)
  /-- A name behind a quote, which ends it unless another quote follows. -/
  | quote (read : List Char)
  | word (read : List Char)
  | sign (read : List Char)
  | dollar (digits : List Char)

namespace Lexeme

/-- The longer lexeme, if a character continues the one that was begun. -/
def extend? : Lexeme → Char → Option Lexeme
  | .blank, _ => none
  | .name read, c => some (if c = '"' then .quote read else .name (read ++ [c]))
  | .quote read, c => if c = '"' then some (.name (read ++ [c])) else none
  | .word read, c => if isWordChar c then some (.word (read ++ [c])) else none
  | .sign read, c => if isSignChar c then some (.sign (read ++ [c])) else none
  | .dollar digits, c => if c.isDigit then some (.dollar (digits ++ [c])) else none

/-- The tokens of a lexeme that ends here. A quoted name does not end without its
quote, and a dollar sign needs a number. -/
def finish? : Lexeme → Option (List Token)
  | .blank => some []
  | .name _ => none
  | .quote read => some [.name (String.ofList read)]
  | .word read => some [.word (String.ofList read)]
  | .sign read => some [.sign (String.ofList read)]
  | .dollar digits => (Decimal.natural? digits).map fun number => [.parameter number]

/-- What a character begins where no token is open. -/
def begin? (c : Char) : Option (List Token × Lexeme) :=
  if c = ' ' then some ([], .blank)
  else if c = '"' then some ([], .name [])
  else if c = Notebook.placeholder then some ([.placeholder], .blank)
  else if c = '$' then some ([], .dollar [])
  else if c = '(' then some ([.opening], .blank)
  else if c = ')' then some ([.closing], .blank)
  else if c = ',' then some ([.comma], .blank)
  else if c = '*' then some ([.star], .blank)
  else if isWordChar c then some ([], .word [c])
  else if isSignChar c then some ([], .sign [c])
  else none

end Lexeme

/-- The tokens of the rest of a text behind a lexeme. -/
def lexFrom (lexeme : Lexeme) : List Char → Option (List Token)
  | [] => lexeme.finish?
  | c :: rest =>
      match lexeme.extend? c with
      | some longer => lexFrom longer rest
      | none => do
          let ended ← lexeme.finish?
          let (single, begun) ← Lexeme.begin? c
          let tokens ← lexFrom begun rest
          return ended ++ single ++ tokens

/-- Numbers the unnumbered places in order, from `next` on. -/
def Token.numberFrom (next : Nat) : List Token → List Token
  | [] => []
  | .placeholder :: rest => .parameter next :: numberFrom (next + 1) rest
  | token :: rest => token :: numberFrom next rest

/-- The tokens of a text. Places without a number count from left to right. -/
def tokens? (text : String) : Option (List Token) :=
  (lexFrom .blank text.toList).map (Token.numberFrom 1)

/-- A quote inside a name is no end of it, and what looks like a place or a
keyword there is none. -/
example : tokens? "\"a\"\"? AND (\" <> ?" =
    some [.name "a\"? AND (", .sign "<>", .parameter 1] := by
  decide

/-! ### Lexemes that go on and lexemes that end -/

/-- The characters that continue no token but a quoted name. -/
def isSeparator (c : Char) : Bool :=
  c == ' ' || c == '(' || c == ')' || c == ','

/-- The text continues no token in front of it. -/
def Apart (text : List Char) : Prop :=
  ∀ c ∈ text.head?, isSeparator c = true

/-- The end of a text is apart from what is in front of it. -/
theorem Apart.nil : Apart [] := by
  simp [Apart]

/-- A text that begins with a separator is apart from what is in front of it. -/
theorem Apart.cons {c : Char} (separator : isSeparator c = true) (rest : List Char) :
    Apart (c :: rest) := by
  simpa [Apart] using separator

/-- Nothing that was begun ends in nothing. -/
theorem Lexeme.blank_finish? : Lexeme.blank.finish? = some [] := rfl

/-- A word character begins a word. -/
theorem Lexeme.begin?_word {c : Char} (inside : isWordChar c = true) :
    Lexeme.begin? c = some ([], .word [c]) := by
  have other {d : Char} (outside : isWordChar d = false) : c ≠ d := by
    rintro rfl
    simp [outside] at inside
  have blank : c ≠ ' ' := other (by decide)
  have quote : c ≠ '"' := other (by decide)
  have place : c ≠ Notebook.placeholder := other (by decide)
  have dollar : c ≠ '$' := other (by decide)
  have opening : c ≠ '(' := other (by decide)
  have closing : c ≠ ')' := other (by decide)
  have comma : c ≠ ',' := other (by decide)
  have star : c ≠ '*' := other (by decide)
  simp only [begin?, blank, quote, place, dollar, opening, closing, comma, star, inside, if_true,
    if_false]

/-- Where no token is open, a character begins one. -/
theorem lexFrom_begin {c : Char} {single : List Token} {begun : Lexeme}
    (begins : Lexeme.begin? c = some (single, begun)) (rest : List Char) :
    lexFrom .blank (c :: rest) = (lexFrom begun rest).map (single ++ ·) := by
  have blank : Lexeme.blank.extend? c = none := rfl
  have nothing : Lexeme.blank.finish? = some [] := rfl
  simp only [lexFrom, blank, nothing, begins]
  cases read : lexFrom begun rest <;> simp [read]

/-- A separator continues no lexeme that may end. -/
theorem Lexeme.extend?_separator {lexeme : Lexeme} {ended : List Token} {c : Char}
    (finish : lexeme.finish? = some ended) (separator : isSeparator c = true) :
    lexeme.extend? c = none := by
  have cases : c = ' ' ∨ c = '(' ∨ c = ')' ∨ c = ',' := by
    simpa [isSeparator, or_assoc] using separator
  cases lexeme with
  | blank => rfl
  | name read => cases finish
  | quote read => rcases cases with rfl | rfl | rfl | rfl <;> rfl
  | word read => rcases cases with rfl | rfl | rfl | rfl <;> rfl
  | sign read => rcases cases with rfl | rfl | rfl | rfl <;> rfl
  | dollar digits => rcases cases with rfl | rfl | rfl | rfl <;> rfl

/-- A lexeme that may end does so in front of a separator. -/
theorem lexFrom_apart {lexeme : Lexeme} {ended : List Token} {rest : List Char}
    (finish : lexeme.finish? = some ended) (apart : Apart rest) :
    lexFrom lexeme rest = (lexFrom .blank rest).map (ended ++ ·) := by
  cases rest with
  | nil => simp [lexFrom, finish, Lexeme.blank_finish?]
  | cons c rest =>
      have separator : isSeparator c = true := apart c rfl
      have stops := Lexeme.extend?_separator finish separator
      have blank : Lexeme.blank.extend? c = none := rfl
      have nothing : Lexeme.blank.finish? = some [] := rfl
      simp only [lexFrom, stops, blank, nothing, finish]
      cases Lexeme.begin? c with
      | none => rfl
      | some begun =>
          obtain ⟨single, next⟩ := begun
          cases read : lexFrom next rest <;> simp [read]

/-- A lexeme goes on over all characters of a kind that continues it. -/
theorem lexFrom_run {lexeme : List Char → Lexeme} {kind : Char → Bool}
    (continues : ∀ read c, kind c = true → (lexeme read).extend? c = some (lexeme (read ++ [c])))
    (read body rest : List Char) (inside : ∀ c ∈ body, kind c = true) :
    lexFrom (lexeme read) (body ++ rest) = lexFrom (lexeme (read ++ body)) rest := by
  induction body generalizing read with
  | nil => simp
  | cons c body inductionHypothesis =>
      have first := continues read c (inside c (by simp))
      have later := inductionHypothesis (read ++ [c]) fun d member => inside d (by simp [member])
      simp only [List.cons_append, lexFrom, first, later, List.append_assoc, List.nil_append]

/-- Inside a name, doubled quotes are read as the quotes they stand for. -/
theorem lexFrom_name (read body rest : List Char) :
    lexFrom (.name read) (body.flatMap (fun c => if c = '"' then ['"', '"'] else [c]) ++ rest) =
      lexFrom (.name (read ++ body)) rest := by
  induction body generalizing read with
  | nil => simp
  | cons c body inductionHypothesis =>
      by_cases quote : c = '"'
      · subst quote
        simp [lexFrom, Lexeme.extend?, inductionHypothesis]
      · simp [lexFrom, Lexeme.extend?, quote, inductionHypothesis]

/-! ### Texts and their tokens -/

/-- The text is read as these tokens, whatever follows it behind a separator. -/
def Spells (text : List Char) (tokens : List Token) : Prop :=
  ∀ rest, Apart rest →
    lexFrom .blank (text ++ rest) = (lexFrom .blank rest).map (tokens ++ ·)

namespace Spells

/-- A text that spells tokens is read as these alone. -/
theorem lexFrom_eq {text : List Char} {tokens : List Token} (spells : Spells text tokens) :
    lexFrom .blank text = some tokens := by
  have whole := spells [] Apart.nil
  simpa [lexFrom, Lexeme.finish?] using whole

/-- Two texts with a blank between them spell the tokens of both. -/
theorem blank {first second : List Char} {tokens tokens' : List Token}
    (spells : Spells first tokens) (spells' : Spells second tokens') :
    Spells (first ++ ' ' :: second) (tokens ++ tokens') := by
  intro rest apart
  have front := spells (' ' :: (second ++ rest)) (Apart.cons rfl _)
  have skip := lexFrom_begin (c := ' ') rfl (second ++ rest)
  rw [List.append_assoc, List.cons_append, front, skip, spells' rest apart]
  simp [Function.comp_def]

/-- A text in parentheses spells its tokens between those of the parentheses. -/
theorem parenthesized {text : List Char} {tokens : List Token} (spells : Spells text tokens) :
    Spells ('(' :: text ++ [')']) (.opening :: tokens ++ [.closing]) := by
  intro rest apart
  have opening := lexFrom_begin (c := '(') rfl (text ++ ')' :: rest)
  have inner := spells (')' :: rest) (Apart.cons rfl _)
  have closing := lexFrom_begin (c := ')') rfl rest
  rw [List.append_assoc, List.cons_append, List.singleton_append, opening, inner, closing]
  simp [Function.comp_def]

/-- A character that begins a lexeme, with others that continue it until it may end,
spells the tokens that it ends in. -/
theorem run (lexeme : List Char → Lexeme) (kind : Char → Bool) {c : Char}
    {read body : List Char} {ended : List Token}
    (begins : Lexeme.begin? c = some ([], lexeme read))
    (continues : ∀ read c, kind c = true → (lexeme read).extend? c = some (lexeme (read ++ [c])))
    (inside : ∀ d ∈ body, kind d = true) (finish : (lexeme (read ++ body)).finish? = some ended) :
    Spells (c :: body) ended := by
  intro rest apart
  rw [List.cons_append, lexFrom_begin begins, lexFrom_run continues read body rest inside,
    lexFrom_apart finish apart]
  simp [Function.comp_def]

/-- A quoted name spells the name, whatever its characters are. -/
theorem name (column : String) : Spells (quoteName column).toList [.name column] := by
  intro rest apart
  have opens := lexFrom_begin (c := '"') rfl
  have body := lexFrom_name [] column.toList ('"' :: rest)
  have ends : lexFrom (.name column.toList) ('"' :: rest) = lexFrom (.quote column.toList) rest :=
    rfl
  have finish : (Lexeme.quote column.toList).finish? = some [.name column] := by
    simp [Lexeme.finish?]
  have text : (quoteName column).toList ++ rest = '"' :: (column.toList.flatMap
      (fun c => if c = '"' then ['"', '"'] else [c]) ++ '"' :: rest) := by
    simp [quoteName]
  rw [text, opens, body, List.nil_append, ends, lexFrom_apart finish apart]
  simp [Function.comp_def]

/-- A run of word characters spells one word. -/
theorem word {c : Char} {body : List Char} (inside : (c :: body).all isWordChar = true) :
    Spells (c :: body) [.word (String.ofList (c :: body))] := by
  have every := List.all_eq_true.mp inside
  apply run .word isWordChar (Lexeme.begin?_word (every c (by simp)))
  · intro read d wordChar
    simp [Lexeme.extend?, wordChar]
  · intro d member
    exact every d (by simp [member])
  · rfl

/-- The placeholder spells a place without a number. -/
theorem placeholder : Spells [Notebook.placeholder] [.placeholder] := by
  intro rest _
  exact lexFrom_begin rfl rest

/-- A dollar sign with a number spells the place with this number. -/
theorem parameter (number : Nat) :
    Spells ('$' :: Decimal.digits number) [.parameter number] := by
  apply run .dollar Char.isDigit rfl
  · intro read d digit
    simp [Lexeme.extend?, digit]
  · exact fun d member => Decimal.isDigit_of_mem_digits member
  · simp [Lexeme.finish?, Decimal.natural?_digits]

end Spells

/-- The token of an operator. -/
def operatorToken : Operator → Token
  | .like => .word "LIKE"
  | operator => .sign operator.sql

/-- An operator spells its token. -/
theorem Spells.operator (operator : Operator) :
    Spells operator.sql.toList [operatorToken operator] := by
  have sign {c : Char} {body : List Char} (begins : Lexeme.begin? c = some ([], .sign [c]))
      (inside : body.all isSignChar = true) :
      Spells (c :: body) [.sign (String.ofList (c :: body))] :=
    .run .sign isSignChar begins (by intro read d kind; simp [Lexeme.extend?, kind])
      (List.all_eq_true.mp inside) rfl
  cases operator with
  | like => exact .word rfl
  | eq | gt | lt => exact sign rfl rfl
  | notEq | gtEq | ltEq => exact sign rfl rfl

/-- A conjunction spells its keyword. -/
theorem Spells.conjunction (conjunction : Conjunction) :
    Spells conjunction.sql.toList [.word conjunction.sql] := by
  cases conjunction <;> exact .word rfl

end Notebook.Sql
