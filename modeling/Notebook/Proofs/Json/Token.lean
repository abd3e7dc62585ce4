import Notebook.Proofs.Json.Literal

/-!
# JSON text split into tokens

Strings are read whatever their characters and however they are written, numbers up to where they
end, and white space between tokens is passed over. `Spells` says which tokens a text is split
into, and is composed along the way values are written.
-/

namespace Notebook.Json

/-- A token that starts like a number is one. -/
theorem token?_number {c : Char} (starts : c.isDigit = true ∨ c = '-') (cs : List Char) :
    token? (c :: cs) = (number? (c :: cs)).map fun (n, rest) => (.number n, rest) := by
  rw [token?.eq_def]
  split
  case h_11 => rfl
  all_goals
    rename_i same
    obtain ⟨rfl, -⟩ := List.cons.inj same
    exact absurd starts (by decide)

/-- No digit is white space. -/
theorem isSpace_of_isDigit {c : Char} (digit : c.isDigit = true) : isSpace c = false := by
  simp only [isSpace, Bool.or_eq_false_iff, beq_eq_false_iff_ne]
  refine ⟨⟨⟨?blank, ?lineFeed⟩, ?tab⟩, ?carriageReturn⟩ <;> rintro rfl <;> cases digit

/-- The token that a text starts with is split off. -/
theorem tokensWithin_cons {c : Char} {cs rest : List Char} {token : Token} (steps : Nat)
    (visible : isSpace c = false) (first : token? (c :: cs) = some (token, rest)) :
    tokensWithin (steps + 1) (c :: cs) = token :: tokensWithin steps rest := by
  have kept : (c :: cs).dropWhile isSpace = c :: cs :=
    List.dropWhile_cons_of_neg (by simp [visible])
  simp only [tokensWithin, kept, first]

/-- White space in front of a text makes no difference. -/
theorem tokensWithin_append {blank : List Char} (spaces : ∀ c ∈ blank, isSpace c = true)
    (steps : Nat) (cs : List Char) : tokensWithin steps (blank ++ cs) = tokensWithin steps cs := by
  cases steps with
  | zero => rfl
  | succ steps => simp only [tokensWithin, List.dropWhile_append_of_pos spaces]

/-- White space is apart from what is in front of it. -/
theorem Apart.blank {blank : List Char} (spaces : ∀ c ∈ blank, isSpace c = true) :
    Apart blank := by
  intro c first
  have space := spaces c (List.mem_of_mem_head? first)
  simp only [isSpace, Bool.or_eq_true, beq_iff_eq] at space
  rcases space with ((rfl | rfl) | rfl) | rfl <;> decide

/-- The text is split into these tokens, whatever is apart behind it, and has at
least as many characters. -/
structure Spells (text : List Char) (tokens : List Token) : Prop where
  length_le : tokens.length ≤ text.length
  split : ∀ rest steps, Apart rest →
    tokensWithin (tokens.length + steps) (text ++ rest) = tokens ++ tokensWithin steps rest

namespace Spells

variable {text first second : List Char} {tokens tokens' : List Token}

/-- No text spells no token. -/
theorem nil : Spells [] [] where
  length_le := Nat.le_refl 0
  split := by simp

/-- Two texts spell the tokens of both if the second is apart from the first. -/
theorem append (spells : Spells first tokens) (apart : Apart second)
    (spells' : Spells second tokens') : Spells (first ++ second) (tokens ++ tokens') where
  length_le := by
    simp only [List.length_append]
    exact Nat.add_le_add spells.length_le spells'.length_le
  split rest steps ends := by
    rw [List.length_append, Nat.add_assoc, List.append_assoc,
      spells.split (second ++ rest) _ (apart.append ends), spells'.split rest steps ends,
      List.append_assoc]

/-- A text that is read as one token spells it. -/
theorem single {c : Char} {cs : List Char} {token : Token} (visible : isSpace c = false)
    (reads : ∀ rest, Apart rest → token? (c :: (cs ++ rest)) = some (token, rest)) :
    Spells (c :: cs) [token] where
  length_le := by simp
  split rest steps ends := by
    rw [List.length_singleton, Nat.add_comm, List.cons_append,
      tokensWithin_cons steps visible (reads rest ends), List.singleton_append]

/-- A sign in front of a text spells its token in front of those of the text. -/
theorem sign {c : Char} {token : Token} (visible : isSpace c = false)
    (reads : ∀ rest, token? (c :: rest) = some (token, rest)) (spells : Spells text tokens) :
    Spells (c :: text) (token :: tokens) where
  length_le := by simpa using spells.length_le
  split rest steps ends := by
    rw [List.length_cons, Nat.add_right_comm, List.cons_append,
      tokensWithin_cons _ visible (reads _), spells.split rest steps ends, List.cons_append]

/-- A bracket spells its token. -/
theorem bracket {c : Char} {token : Token} (visible : isSpace c = false)
    (reads : ∀ rest, token? (c :: rest) = some (token, rest)) : Spells [c] [token] :=
  .sign visible reads .nil

/-- White space at the ends of a text makes no difference. -/
theorem blanks (spells : Spells text tokens) {front back : List Char}
    (before : ∀ c ∈ front, isSpace c = true) (behind : ∀ c ∈ back, isSpace c = true) :
    Spells (front ++ text ++ back) tokens where
  length_le := by
    have bound := spells.length_le
    simp only [List.length_append]
    omega
  split rest steps ends := by
    rw [List.append_assoc, List.append_assoc, tokensWithin_append before,
      spells.split (back ++ rest) steps ((Apart.blank behind).append ends),
      tokensWithin_append behind]

/-- A string spells its units joined. -/
theorem units {units : List Nat} {text : List Char} (isUnits : UnitsText units text) :
    Spells ('"' :: text ++ ['"']) [.text ((joinUnits? units).map String.ofList)] := by
  rw [List.cons_append]
  refine .single (by decide) fun rest _ => ?_
  rw [List.append_assoc, List.singleton_append, ← List.cons_append]
  exact token?_units isUnits rest

/-- A number spells what it is. -/
theorem number {number : Number} (isNumber : NumberText number text) :
    Spells text [.number number] := by
  obtain ⟨c, cs, rfl, starts⟩ := isNumber.eq_cons
  have visible : isSpace c = false := by
    rcases starts with digit | rfl
    · exact isSpace_of_isDigit digit
    · decide
  refine .single visible fun rest apart => ?_
  rw [token?_number starts, ← List.cons_append, isNumber.read apart]
  rfl

/-- A text that spells tokens is split into these alone. -/
theorem tokensWithin_eq (spells : Spells text tokens) :
    tokensWithin text.length text = tokens := by
  have whole := spells.split [] (text.length - tokens.length) Apart.nil
  rw [Nat.add_sub_cancel' spells.length_le, List.append_nil] at whole
  rw [whole]
  cases text.length - tokens.length <;> simp [tokensWithin]

end Spells

end Notebook.Json
