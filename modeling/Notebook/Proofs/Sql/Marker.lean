import Mathlib.Data.List.Chain
import Mathlib.Data.List.TakeWhile
import Notebook.Proofs.Except
import Notebook.Proofs.Sql.Piece

/-!
# Numbered texts

The placeholders of a text cut it into segments, one more than there are placeholders. Numbering
succeeds for as many values as there are placeholders, and writes the segments with the markers
`$1`, `$2`, … between them (`number_eq_ok_iff`).

`unnumbered` turns every marker back into a placeholder. That is what numbering did, unless the
text has a dollar sign of its own or a digit right behind a placeholder, and never is if it has
(`unnumbered_numberFrom_iff`). A numbered text has no placeholder, so only one without values can
be numbered again (`finalize_again`).
-/

namespace Notebook.Sql

/-! ### Segments -/

/-- What is in front of the first placeholder of a text, between two of them, and behind the
last one. -/
def segments (text : List Char) : List (List Char) :=
  text.splitOn placeholder

/-- The text has these parts with a placeholder between any two, and none inside them. -/
inductive Cut : (text : List Char) → (parts : List (List Char)) → Prop
  | nil : Cut [] [[]]
  | place {rest first : List Char} {later : List (List Char)} (cut : Cut rest (first :: later)) :
      Cut (placeholder :: rest) ([] :: first :: later)
  | letter {c : Char} {rest first : List Char} {later : List (List Char)} (other : c ≠ placeholder)
      (cut : Cut rest (first :: later)) : Cut (c :: rest) ((c :: first) :: later)

/-- Segments with a marker between any two, where the markers are numbered from `next` on. -/
def interleave (marker : Nat → List Char) (next : Nat) : List (List Char) → List Char
  | [] => []
  | first :: later =>
      first ++ (later.zipIdx next).flatMap fun (segment, number) => marker number ++ segment

/-- The text with a placeholder for every dollar sign and the digits behind it. -/
def unnumbered : List Char → List Char
  | [] => []
  | c :: rest =>
      if c = '$' then placeholder :: unnumbered (rest.dropWhile Char.isDigit)
      else c :: unnumbered rest
termination_by text => text.length
decreasing_by
  · have shorter := (List.dropWhile_sublist Char.isDigit (l := rest)).length_le
    exact Nat.lt_succ_of_le shorter
  · exact Nat.lt_succ_self _

/-- No placeholder of the text has a digit right behind it. -/
def Parted (text : List Char) : Prop :=
  text.IsChain fun c next => c = placeholder → next.isDigit = false

instance (text : List Char) : Decidable (Parted text) :=
  inferInstanceAs (Decidable (text.IsChain fun c next => c = placeholder → next.isDigit = false))

variable {text : List Char} {parts : List (List Char)}

/-- A text is cut into its segments. -/
theorem cut_segments (text : List Char) : Cut text (segments text) := by
  induction text with
  | nil => exact .nil
  | cons c rest inductionHypothesis =>
      obtain ⟨first, later, split⟩ := List.exists_cons_of_ne_nil
        (List.splitOn_ne_nil placeholder rest)
      rw [segments, split] at inductionHypothesis
      rw [segments, List.splitOn_cons_eq_if_modifyHead, split]
      by_cases hole : c = placeholder
      · subst hole
        exact .place inductionHypothesis
      · rw [if_neg (by simpa using hole)]
        exact .letter hole inductionHypothesis

/-- There is one part more than there are placeholders. -/
theorem Cut.length_eq (cut : Cut text parts) : parts.length = text.count placeholder + 1 := by
  induction cut with
  | nil => rfl
  | place cut inductionHypothesis =>
      rw [List.length_cons, inductionHypothesis, List.count_cons_self]
  | letter other cut inductionHypothesis =>
      rw [List.count_cons_of_ne other, ← inductionHypothesis]
      rfl

/-- A character of a part is one of the text, and no placeholder. -/
theorem Cut.of_mem (cut : Cut text parts) {part : List Char} (member : part ∈ parts) {c : Char}
    (inside : c ∈ part) : c ∈ text ∧ c ≠ placeholder := by
  induction cut generalizing part with
  | nil => simp_all
  | place cut inductionHypothesis =>
      rcases List.mem_cons.mp member with rfl | member
      · cases inside
      · exact (inductionHypothesis member inside).imp_left (List.mem_cons_of_mem _)
  | @letter d rest first later other cut inductionHypothesis =>
      rcases List.mem_cons.mp member with rfl | member
      · rcases List.mem_cons.mp inside with rfl | inside
        · exact ⟨List.mem_cons_self, other⟩
        · have found := inductionHypothesis List.mem_cons_self inside
          exact found.imp_left (List.mem_cons_of_mem _)
      · have found := inductionHypothesis (List.mem_cons_of_mem _ member) inside
        exact found.imp_left (List.mem_cons_of_mem _)

/-- A text is its parts with placeholders between them. -/
theorem Cut.eq_interleave (cut : Cut text parts) (next : Nat) :
    text = interleave hole next parts := by
  induction cut generalizing next with
  | nil => rfl
  | place cut inductionHypothesis =>
      rw [inductionHypothesis (next + 1)]
      simp [interleave, hole]
  | letter other cut inductionHypothesis =>
      rw [inductionHypothesis next]
      rfl

/-- Numbering a text writes the markers between its parts. -/
theorem Cut.numberFrom_eq (cut : Cut text parts) (next : Nat) :
    Statement.numberFrom next text = interleave dollar next parts := by
  induction cut generalizing next with
  | nil => rfl
  | place cut inductionHypothesis =>
      rw [Statement.numberFrom, if_pos rfl, inductionHypothesis]
      simp [interleave, dollar]
  | letter other cut inductionHypothesis =>
      rw [Statement.numberFrom, if_neg other, inductionHypothesis]
      rfl

/-- A text starts with a digit if its first part does. -/
theorem Cut.head?_isDigit_iff (cut : Cut text parts) :
    (∀ c ∈ text.head?, c.isDigit = false) ↔
      ∀ c ∈ (parts.headD []).head?, c.isDigit = false := by
  cases cut with
  | nil => rfl
  | place cut => exact iff_of_true (by simp [placeholder]) (by simp)
  | letter other cut => rfl

/-- The digits right behind placeholders are those that start a part behind the first. -/
theorem Cut.parted_iff (cut : Cut text parts) :
    Parted text ↔ ∀ part ∈ parts.tail, ∀ c ∈ part.head?, c.isDigit = false := by
  induction cut with
  | nil => simp [Parted]
  | place cut inductionHypothesis =>
      have start := cut.head?_isDigit_iff
      rw [Parted, List.isChain_cons, ← Parted, inductionHypothesis]
      simpa using and_congr_left fun _ => start
  | letter other cut inductionHypothesis =>
      rw [Parted, List.isChain_cons, ← Parted, inductionHypothesis]
      simp [other]

/-! ### Numbering -/

/-- Numbering succeeds for as many values as there are placeholders, and then writes the markers
between the segments. -/
theorem number_eq_ok_iff {text result : String} {count : Nat} :
    Statement.number text count = .ok result ↔
      (segments text.toList).length = count + 1 ∧
        result.toList = interleave dollar 1 (segments text.toList) := by
  have cut := cut_segments text.toList
  rw [cut.length_eq, Nat.add_right_cancel_iff, ← cut.numberFrom_eq, Statement.number]
  split
  next matching =>
    rw [Except.ok.injEq, ← String.toList_inj, String.toList_ofList]
    exact ⟨fun same => ⟨matching, same.symm⟩, fun written => written.2.symm⟩
  next different =>
    exact iff_of_false (by simp) fun written => different written.1

/-! ### Taking the numbers back -/

/-- Segments with a marker between any two, one segment after the other. -/
theorem interleave_cons_cons (marker : Nat → List Char) (next : Nat) (first second : List Char)
    (later : List (List Char)) :
    interleave marker next (first :: second :: later) =
      first ++ (marker next ++ interleave marker (next + 1) (second :: later)) := by
  simp [interleave]

/-- With placeholders for markers the numbers do not matter. -/
theorem interleave_hole (parts : List (List Char)) (next : Nat) :
    interleave hole next parts = [placeholder].intercalate parts := by
  induction parts generalizing next with
  | nil => rfl
  | cons first later inductionHypothesis =>
      cases later with
      | nil => simp [interleave]
      | cons second later =>
          rw [interleave_cons_cons, List.intercalate_cons_cons, inductionHypothesis, hole,
            List.append_assoc]

/-- A text without dollar signs has no markers to take back. -/
theorem unnumbered_text {text : List Char} (plain : '$' ∉ text) (rest : List Char) :
    unnumbered (text ++ rest) = text ++ unnumbered rest := by
  induction text with
  | nil => rfl
  | cons c text inductionHypothesis =>
      have other : c ≠ '$' := fun same => plain (by simp [same])
      have later : '$' ∉ text := fun member => plain (by simp [member])
      rw [List.cons_append, unnumbered, if_neg other, inductionHypothesis later, List.cons_append]

/-- No dollar sign is left. -/
theorem dollar_not_mem_unnumbered (text : List Char) : '$' ∉ unnumbered text := by
  induction text using unnumbered.induct with
  | case1 => simp [unnumbered]
  | case2 rest inductionHypothesis =>
      rw [unnumbered, if_pos rfl, List.mem_cons]
      exact not_or.mpr ⟨by decide, inductionHypothesis⟩
  | case3 c rest other inductionHypothesis =>
      rw [unnumbered, if_neg other, List.mem_cons]
      exact not_or.mpr ⟨Ne.symm other, inductionHypothesis⟩

/-- Only the first segment can lose digits at the start, since a marker starts with none. -/
theorem dropWhile_interleave (next : Nat) (first : List Char) (later : List (List Char)) :
    (interleave dollar next (first :: later)).dropWhile Char.isDigit =
      interleave dollar next (first.dropWhile Char.isDigit :: later) := by
  rw [interleave, interleave, List.dropWhile_append]
  split
  next empty =>
    rw [List.isEmpty_iff.mp empty]
    cases later with
    | nil => rfl
    | cons second later => simp [dollar]
  next => rfl

/-- The digits of a marker are taken back with it, and so are those that the segment behind it
starts with. -/
theorem unnumbered_dollar (number next : Nat) (first : List Char) (later : List (List Char)) :
    unnumbered (dollar number ++ interleave dollar next (first :: later)) =
      placeholder ::
        unnumbered (interleave dollar next (first.dropWhile Char.isDigit :: later)) := by
  have digitsOnly : ∀ c ∈ Decimal.digits number, c.isDigit = true :=
    fun c => Decimal.isDigit_of_mem_digits
  rw [dollar, List.cons_append, unnumbered, if_pos rfl, List.dropWhile_append_of_pos digitsOnly,
    dropWhile_interleave]

/-- The markers between segments without dollar signs are taken back one by one. -/
theorem unnumbered_interleave {first : List Char} {later : List (List Char)}
    (plain : ∀ part ∈ first :: later, '$' ∉ part) (next : Nat) :
    unnumbered (interleave dollar next (first :: later)) =
      [placeholder].intercalate (first :: later.map (List.dropWhile Char.isDigit)) := by
  have here : '$' ∉ first := plain first List.mem_cons_self
  -- A segment loses its digits together with the marker in front of it, so it is a shorter
  -- segment that the rest of the text begins with.
  induction later generalizing first next with
  | nil =>
      have nothing : interleave dollar next [first] = first ++ [] := by simp [interleave]
      rw [nothing, unnumbered_text here, unnumbered]
      simp
  | cons second later inductionHypothesis =>
      have next' : '$' ∉ second.dropWhile Char.isDigit := fun member =>
        plain second (by simp) ((List.dropWhile_sublist _).mem member)
      have others : ∀ part ∈ second.dropWhile Char.isDigit :: later, '$' ∉ part := by
        intro part member
        rcases List.mem_cons.mp member with rfl | member
        · exact next'
        · exact plain part (by simp [member])
      rw [interleave_cons_cons, unnumbered_text here, unnumbered_dollar,
        inductionHypothesis others _ next', List.map_cons, List.intercalate_cons_cons]
      simp

/-- A segment loses no digits exactly if it does not start with one. -/
theorem dropWhile_isDigit_eq_self_iff {part : List Char} :
    part.dropWhile Char.isDigit = part ↔ ∀ c ∈ part.head?, c.isDigit = false := by
  cases part with
  | nil => simp
  | cons c rest => simp [List.dropWhile_eq_self_iff]

/-- If no part has a placeholder, the parts are those that the whole is split into. -/
theorem intercalate_drop_eq_iff {first : List Char} {later : List (List Char)}
    (free : ∀ part ∈ first :: later, placeholder ∉ part) :
    [placeholder].intercalate (first :: later.map (List.dropWhile Char.isDigit)) =
        [placeholder].intercalate (first :: later) ↔
      ∀ part ∈ later, ∀ c ∈ part.head?, c.isDigit = false := by
  simp only [← dropWhile_isDigit_eq_self_iff]
  have free' : ∀ part ∈ first :: later.map (List.dropWhile Char.isDigit), placeholder ∉ part := by
    intro part member
    rcases List.mem_cons.mp member with rfl | member
    · exact free _ List.mem_cons_self
    · obtain ⟨whole, inside, rfl⟩ := List.mem_map.mp member
      have absent := free whole (List.mem_cons_of_mem _ inside)
      exact fun found => absent ((List.dropWhile_sublist _).mem found)
  constructor
  · intro same
    have split := congrArg (List.splitOn placeholder) same
    rw [List.splitOn_intercalate placeholder free' (by simp),
      List.splitOn_intercalate placeholder free (by simp)] at split
    have kept : later.map (List.dropWhile Char.isDigit) = later.map id := by
      rw [List.map_id]
      exact (List.cons.inj split).2
    exact List.map_inj_left.mp kept
  · intro kept
    rw [List.map_congr_left kept, List.map_id']

/-- Taking the markers back gives the text again exactly if it has no dollar sign and no digit
right behind a placeholder. -/
theorem unnumbered_numberFrom_iff (text : List Char) (next : Nat) :
    unnumbered (Statement.numberFrom next text) = text ↔ '$' ∉ text ∧ Parted text := by
  by_cases signed : '$' ∈ text
  · refine iff_of_false ?_ fun plain => plain.1 signed
    intro same
    rw [← same] at signed
    exact dollar_not_mem_unnumbered _ signed
  · have cut := cut_segments text
    obtain ⟨first, later, parts⟩ := List.exists_cons_of_ne_nil
      (List.splitOn_ne_nil placeholder text)
    rw [segments, parts] at cut
    have plain : ∀ part ∈ first :: later, '$' ∉ part := fun part member inside =>
      signed (cut.of_mem member inside).1
    have free : ∀ part ∈ first :: later, placeholder ∉ part := fun part member inside =>
      (cut.of_mem member inside).2 rfl
    have whole := (cut.eq_interleave next).trans (interleave_hole _ next)
    calc unnumbered (Statement.numberFrom next text) = text
        ↔ [placeholder].intercalate (first :: later.map (List.dropWhile Char.isDigit)) =
            [placeholder].intercalate (first :: later) := by
          rw [cut.numberFrom_eq, unnumbered_interleave plain, ← whole]
      _ ↔ Parted text := by rw [intercalate_drop_eq_iff free, cut.parted_iff, List.tail_cons]
      _ ↔ '$' ∉ text ∧ Parted text := (and_iff_right signed).symm

/-! ### Numbering again -/

/-- A numbered text has no place for a value, so it is finished again only if it has no values,
and then it stays as it is. -/
theorem finalize_again {kind : StatementKind} {table : Table} {text : String}
    {params : List Value} {statement : Statement}
    (built : Statement.finalize kind table text params = .ok statement) :
    Statement.finalize statement.kind statement.table statement.text statement.params =
      if statement.params = [] then .ok statement
      else .error (.statement (.count 0 statement.params.length statement.text)) := by
  obtain ⟨numbered, passed, finished⟩ := Except.bind_eq_ok_iff.mp built
  cases finished
  obtain ⟨_, written⟩ := number_eq_ok_iff.mp passed
  rw [← (cut_segments text.toList).numberFrom_eq] at written
  have free : placeholder ∉ numbered.toList := by
    rw [written]
    exact Piece.placeholder_not_mem_numberFrom _ 1
  have none : numbered.toList.count placeholder = 0 := List.count_eq_zero.mpr free
  have unchanged : String.ofList (Statement.numberFrom 1 numbered.toList) = numbered := by
    have same := Piece.numberFrom_text free 1 []
    rw [List.append_nil, Statement.numberFrom, List.append_nil] at same
    rw [same, String.ofList_toList]
  simp only [Statement.finalize, Statement.number, none]
  cases params with
  | nil => simp [unchanged]
  | cons value rest => rfl

/-- Numbering a text succeeds exactly for as many values as it has placeholders, one less than it
has segments, and then writes `$1`, `$2`, … between the segments. Taking the markers back gives
the text again exactly if it has no dollar sign and no digit right behind a placeholder. A
statement that was finished is refused a second time exactly if it has values, and otherwise
stays as it is. -/
theorem numbers_between_segments :
    (∀ text count result, Statement.number text count = .ok result ↔
      (segments text.toList).length = count + 1 ∧
        result.toList = interleave dollar 1 (segments text.toList)) ∧
    (∀ text count result, Statement.number text count = .ok result →
      (unnumbered result.toList = text.toList ↔ '$' ∉ text.toList ∧ Parted text.toList)) ∧
    ∀ kind table text params statement,
      Statement.finalize kind table text params = .ok statement →
      Statement.finalize statement.kind statement.table statement.text statement.params =
        if statement.params = [] then .ok statement
        else .error (.statement (.count 0 statement.params.length statement.text)) := by
  refine ⟨fun _ _ _ => number_eq_ok_iff, ?_, fun _ _ _ _ _ => finalize_again⟩
  intro text count result numbered
  obtain ⟨_, written⟩ := number_eq_ok_iff.mp numbered
  rw [written, ← (cut_segments text.toList).numberFrom_eq]
  exact unnumbered_numberFrom_iff text.toList 1

/-- A text with more places than there are digits. -/
def tenPlaces : String :=
  "VALUES (?, ?, ?, ?, ?, ?, ?, ?, ?, ?)"

/-- The same text with its markers. -/
def tenMarkers : String :=
  "VALUES ($1, $2, $3, $4, $5, $6, $7, $8, $9, $10)"

/-- Markers of two digits are taken back as a whole, and a statement with them is refused if it
is finished again. -/
theorem numbers_between_segments_ten :
    unnumbered tenMarkers.toList = tenPlaces.toList ∧
      Statement.finalize .mutation .users tenMarkers (List.replicate 10 .null) =
        .error (.statement (.count 0 10 tenMarkers)) := by
  obtain ⟨numbers, back, again⟩ := numbers_between_segments
  have numbered : Statement.number tenPlaces 10 = .ok tenMarkers :=
    (numbers _ _ _).mpr ⟨by decide, by decide⟩
  have plain : '$' ∉ tenPlaces.toList ∧ Parted tenPlaces.toList := by decide
  have built : Statement.finalize .mutation .users tenPlaces (List.replicate 10 .null) =
      .ok ⟨.mutation, .users, tenMarkers, List.replicate 10 .null⟩ := by
    rw [Statement.finalize, List.length_replicate, numbered]
    rfl
  have refused := again _ _ _ _ _ built
  rw [if_neg (by simp), List.length_replicate] at refused
  exact ⟨(back _ _ _ numbered).mpr plain, refused⟩

end Notebook.Sql
