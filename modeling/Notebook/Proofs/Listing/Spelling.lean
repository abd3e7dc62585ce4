import Notebook.Listing.Query

/-!
# Operators in front of values

A text begins with the longest spelling of an operator that fits, or with none, and then it
means equality. What is behind the spelling is kept as it is. There is one way only to read a
text like this, and it is the one that `Operator.split` finds, whatever the order in which the
spellings are tried (`split_eq_iff`).

An operator in front of a value is read back, unless the value begins with a character that
makes a longer spelling of it (`heads_sql_append_iff`).
-/

namespace Notebook.Operator

/-- The operator is spelled like this: as in SQL, and `<>` also as `!=`. There is no spelling
of `LIKE`. -/
inductive IsSpelling : Operator → String → Prop
  | sql {operator : Operator} (comparing : operator ≠ .like) : IsSpelling operator operator.sql
  | bang : IsSpelling .notEq "!="

/-- The text has the operator in front of the rest. -/
inductive Heads (text : String) : Operator → String → Prop
  | spelled {operator : Operator} {spelling rest : String} (spells : operator.IsSpelling spelling)
      (whole : text = spelling ++ rest)
      (longest : ∀ other longer, IsSpelling other longer → longer.toList <+: text.toList →
        longer.length ≤ spelling.length) : Heads text operator rest
  | bare (unspelled : ∀ other spelling, IsSpelling other spelling →
      ¬ spelling.toList <+: text.toList) : Heads text .eq text

/-! ### Spellings -/

variable {first second operator other : Operator} {spelling text rest : String}

/-- A spelling belongs to one operator. -/
theorem IsSpelling.unique (spells : first.IsSpelling spelling)
    (spells' : second.IsSpelling spelling) : first = second := by
  cases spells with
  | sql =>
      generalize same : first.sql = spelling at spells'
      cases spells' with
      | sql => exact sql_injective same
      | bang => cases first <;> simp [Operator.sql] at same ⊢
  | bang =>
      generalize same : "!=" = spelling at spells'
      cases spells' with
      | sql => cases second <;> simp [Operator.sql] at same ⊢
      | bang => rfl

/-- What has a spelling is a comparing operator. -/
theorem IsSpelling.comparing (spells : operator.IsSpelling spelling) : operator ≠ .like := by
  cases spells with
  | sql comparing => exact comparing
  | bang => decide

/-- No spelling has more than two characters. -/
theorem IsSpelling.length_le (spells : operator.IsSpelling spelling) : spelling.length ≤ 2 := by
  cases spells with
  | sql comparing =>
      cases operator with
      | like => exact absurd rfl comparing
      | eq | notEq | gt | lt | gtEq | ltEq => decide
  | bang => decide

/-- The table of spellings has all of them and no others. -/
theorem mem_spellings_iff : (spelling, operator) ∈ spellings ↔ operator.IsSpelling spelling := by
  constructor
  · intro listed
    simp only [spellings, List.mem_cons, Prod.mk.injEq, List.not_mem_nil, or_false] at listed
    rcases listed with ⟨rfl, rfl⟩ | ⟨rfl, rfl⟩ | ⟨rfl, rfl⟩ | ⟨rfl, rfl⟩ | ⟨rfl, rfl⟩ | ⟨rfl, rfl⟩ |
      ⟨rfl, rfl⟩
    case inr.inl => exact .bang
    all_goals exact .sql (by decide)
  · intro spells
    cases spells with
    | sql comparing =>
        cases operator with
        | like => exact absurd rfl comparing
        | eq | notEq | gt | lt | gtEq | ltEq => decide
    | bang => decide

/-- No spelling in the table is longer than one in front of it. -/
theorem spellings_sorted :
    spellings.Pairwise fun first second => second.1.length ≤ first.1.length := by
  decide

/-! ### Splitting -/

/-- A text is split into the operator in front of it and the rest. -/
theorem heads_split (text : String) : Heads text (split text).1 (split text).2 := by
  unfold split
  split
  next spelling operator found =>
    obtain ⟨begins, before, after, table, earlier⟩ := List.find?_eq_some_iff_append.mp found
    obtain ⟨rest, whole⟩ := List.isPrefixOf_iff_prefix.mp begins
    have listed : (spelling, operator) ∈ spellings := by simp [table]
    refine .spelled (mem_spellings_iff.mp listed) ?_ ?_
    · rw [← String.toList_inj, String.toList_append, String.toList_ofList, ← whole,
        List.drop_left]
    · intro other longer spells fits
      have listed := mem_spellings_iff.mpr spells
      rw [table, List.mem_append] at listed
      rcases listed with tried | listed
      · have fails := earlier _ tried
        rw [Bool.not_eq_true', Bool.eq_false_iff] at fails
        exact absurd (List.isPrefixOf_iff_prefix.mpr fits) fails
      · have sorted := spellings_sorted
        rw [table, List.pairwise_append] at sorted
        rcases List.mem_cons.mp listed with same | later
        · cases same
          exact Nat.le_refl _
        · exact (List.pairwise_cons.mp sorted.2.1).1 _ later
  next missing =>
    refine .bare ?_
    intro other spelling spells fits
    have fails := List.find?_eq_none.mp missing _ (mem_spellings_iff.mpr spells)
    exact fails (List.isPrefixOf_iff_prefix.mpr fits)

/-- A text has one operator in front and one rest behind it. -/
theorem Heads.unique {rest' : String} (heads : Heads text first rest)
    (heads' : Heads text second rest') : first = second ∧ rest = rest' := by
  cases heads with
  | @spelled _ spelling _ spells whole longest =>
      have fits : spelling.toList <+: text.toList := by
        rw [whole, String.toList_append]
        exact List.prefix_append ..
      cases heads' with
      | @spelled _ spelling' _ spells' whole' longest' =>
          have fits' : spelling'.toList <+: text.toList := by
            rw [whole', String.toList_append]
            exact List.prefix_append ..
          have lengths := Nat.le_antisymm (longest' _ _ spells fits) (longest _ _ spells' fits')
          have same := whole.symm.trans whole'
          rw [← String.toList_inj, String.toList_append, String.toList_append] at same
          obtain ⟨spelling, behind⟩ := List.append_inj same lengths
          rw [String.toList_inj] at spelling behind
          subst spelling
          exact ⟨spells.unique spells', behind⟩
      | bare unspelled => exact absurd fits (unspelled _ _ spells)
  | bare unspelled =>
      cases heads' with
      | spelled spells' whole' =>
          refine absurd ?_ (unspelled _ _ spells')
          rw [whole', String.toList_append]
          exact List.prefix_append ..
      | bare => exact ⟨rfl, rfl⟩

/-- Splitting finds the operator in front of a text and what is behind it, and nothing else. -/
theorem split_eq_iff : split text = (operator, rest) ↔ Heads text operator rest := by
  constructor
  · intro found
    have heads := heads_split text
    rwa [found] at heads
  · intro heads
    obtain ⟨sameOperator, sameRest⟩ := (heads_split text).unique heads
    exact Prod.ext sameOperator sameRest

/-! ### Operators put in front -/

/-- The character makes another spelling of that of the operator. -/
def Continues (operator : Operator) (c : Char) : Prop :=
  (operator = .gt ∨ operator = .lt) ∧ c = '=' ∨ operator = .lt ∧ c = '>'

/-- A text that begins with a digit has no operator in front and means equality. -/
theorem heads_of_isDigit (digit : ∀ c ∈ text.toList.head?, c.isDigit = true) :
    Heads text .eq text := by
  refine .bare ?_
  intro other spelling spells fits
  have spelled : ∃ c behind, spelling.toList = c :: behind ∧ c.isDigit = false := by
    cases spells with
    | sql comparing =>
        cases other with
        | like => exact absurd rfl comparing
        | eq | notEq | gt | lt | gtEq | ltEq => exact ⟨_, _, rfl, rfl⟩
    | bang => exact ⟨_, _, rfl, rfl⟩
  obtain ⟨c, behind, same, sign⟩ := spelled
  obtain ⟨rest, whole⟩ := fits
  rw [same] at whole
  have number := digit c (by rw [← whole]; rfl)
  rw [sign] at number
  cases number

/-- An operator is read back from its spelling, if the value behind it does not make another
spelling of it. -/
theorem heads_sql_append (comparing : operator ≠ .like)
    (apart : ∀ c ∈ rest.toList.head?, ¬ operator.Continues c) :
    Heads (operator.sql ++ rest) operator rest := by
  refine .spelled (.sql comparing) rfl ?_
  intro other longer spells fits
  rw [String.toList_append] at fits
  cases behind : rest.toList with
  | nil =>
      rw [behind, List.append_nil] at fits
      exact fits.length_le
  | cons next more =>
      have stops := apart next (by simp [behind])
      rw [behind] at fits
      cases operator with
      | like => exact absurd rfl comparing
      | notEq | gtEq | ltEq => exact spells.length_le
      | eq | gt | lt =>
          -- A longer spelling begins with the shorter one and with what follows it.
          rw [Continues, eq_comm (b := '='), eq_comm (b := '>')] at stops
          cases spells with
          | sql => cases other <;> simp_all [Operator.sql]
          | bang => simp_all [Operator.sql]

/-- A character that makes another spelling of that of an operator makes a longer one. -/
theorem Continues.exists_longer {c : Char} (continues : operator.Continues c) :
    ∃ other longer, IsSpelling other longer ∧ longer.toList = operator.sql.toList ++ [c] := by
  rcases continues with ⟨rfl | rfl, rfl⟩ | ⟨rfl, rfl⟩
  · exact ⟨.gtEq, _, .sql (by decide), rfl⟩
  · exact ⟨.ltEq, _, .sql (by decide), rfl⟩
  · exact ⟨.notEq, _, .sql (by decide), rfl⟩

/-- An operator that is found in front of its own spelling is a comparing one, and what is behind
makes no other spelling of it. -/
theorem Heads.apart (heads : Heads (operator.sql ++ rest) operator rest) :
    operator ≠ .like ∧ ∀ c ∈ rest.toList.head?, ¬ operator.Continues c := by
  generalize whole : operator.sql ++ rest = text at heads
  cases heads with
  | @spelled _ spelling _ spells whole' longest =>
      have same : spelling = operator.sql := by
        have aligned := congrArg String.toList (whole'.symm.trans whole.symm)
        rw [String.toList_append, String.toList_append] at aligned
        exact String.toList_inj.mp (List.append_cancel_right aligned)
      refine ⟨spells.comparing, ?_⟩
      intro c next continues
      obtain ⟨other, longer, spells', extended⟩ := continues.exists_longer
      have fits : longer.toList <+: text.toList := by
        obtain ⟨more, behind⟩ := List.head?_eq_some_iff.mp next
        rw [extended, ← whole, String.toList_append, behind]
        exact ⟨more, by simp⟩
      have short := longest _ _ spells' fits
      rw [← String.length_toList, ← String.length_toList, extended, same, List.length_append,
        List.length_singleton] at short
      omega
  | bare =>
      -- No text is as long as what is behind an equals sign in it.
      have lengths := congrArg String.length whole
      rw [String.length_append] at lengths
      exact absurd lengths (by simp [Operator.sql])

/-- An operator is read back from its spelling in front of a value exactly if it is a comparing
one and the value makes no other spelling of it. -/
theorem heads_sql_append_iff :
    Heads (operator.sql ++ rest) operator rest ↔
      operator ≠ .like ∧ ∀ c ∈ rest.toList.head?, ¬ operator.Continues c :=
  ⟨Heads.apart, fun ⟨comparing, apart⟩ => heads_sql_append comparing apart⟩

/-- Splitting finds the operator with the longest spelling in front of a text, or equality if
there is none, and loses nothing of what is behind. So an operator is read back from its spelling
in front of a value, unless the value makes another spelling of it: an equals sign behind `>` or
`<`, or a greater sign behind `<`. `LIKE` is never read. -/
theorem split_takes_longest :
    (∀ text operator rest, split text = (operator, rest) ↔ Heads text operator rest) ∧
      ∀ operator rest, split (operator.sql ++ rest) = (operator, rest) ↔
        operator ≠ .like ∧ ∀ c ∈ rest.toList.head?, ¬ operator.Continues c := by
  refine ⟨fun _ _ _ => split_eq_iff, ?_⟩
  intro operator rest
  exact split_eq_iff.trans heads_sql_append_iff

end Notebook.Operator
