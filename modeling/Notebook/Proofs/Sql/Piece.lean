import Notebook.Proofs.Text.Decimal
import Notebook.Sql.Statement

/-!
# Pieces of statements

Statements are assembled as text on one side and a list of values on the other,
and only their numbers are compared. Here both come from one list of pieces, in
which every value stands at the place it belongs to. `finalize_render` says that
a statement assembled apart is the one of its pieces: its text is that of the
pieces with the `n`-th value written as `$n`, and its parameters are the values.

`markers` reads the numbers back from a text, each as far as its digits go.
-/

namespace Notebook.Sql

/-- A piece of a statement. -/
inductive Piece where
  | fixed (text : String)
  /-- The place of a value. -/
  | place (value : Value)
deriving DecidableEq

/-- How the place of a value is written as long as it is not numbered. -/
def hole (_ : Nat) : List Char :=
  [placeholder]

/-- How the place of a value with a number is written. -/
def dollar (number : Nat) : List Char :=
  '$' :: Decimal.digits number

namespace Piece

/-- The values of pieces, in order. -/
def values : List Piece → List Value
  | [] => []
  | .fixed _ :: rest => values rest
  | .place value :: rest => value :: values rest

/-- The text of pieces, where the places of values are numbered from `next` on and
each is written as its marker. -/
def render (marker : Nat → List Char) (next : Nat) : List Piece → List Char
  | [] => []
  | .fixed text :: rest => text.toList ++ render marker next rest
  | .place _ :: rest => marker next ++ render marker (next + 1) rest

/-- Every fixed text of the pieces has the property. -/
def AllFixed (property : String → Prop) (pieces : List Piece) : Prop :=
  ∀ text, .fixed text ∈ pieces → property text

/-- The text does not have the character. -/
def Lacks (c : Char) (text : String) : Prop :=
  c ∉ text.toList

instance (c : Char) (text : String) : Decidable (Lacks c text) :=
  inferInstanceAs (Decidable (c ∉ text.toList))

/-- The text continues no number in front of it. -/
def StartsApart (text : String) : Prop :=
  ∀ c ∈ text.toList.head?, c.isDigit = false

@[simp]
theorem values_append (first second : List Piece) :
    values (first ++ second) = values first ++ values second := by
  induction first with
  | nil => rfl
  | cons piece rest inductionHypothesis => cases piece <;> simp [values, inductionHypothesis]

/-- The second of two lists of pieces is numbered behind the first. -/
theorem render_append (marker : Nat → List Char) (next : Nat) (first second : List Piece) :
    render marker next (first ++ second) =
      render marker next first ++ render marker (next + (values first).length) second := by
  induction first generalizing next with
  | nil => rfl
  | cons piece rest inductionHypothesis =>
      cases piece with
      | fixed text => simp [render, values, inductionHypothesis]
      | place value =>
          have behind : next + ((values rest).length + 1) = next + 1 + (values rest).length := by
            omega
          simp [render, values, inductionHypothesis, behind]

/-- The values of a list with separators are those of its parts. -/
theorem values_intercalate (separator : String) (parts : List (List Piece)) :
    values ([Piece.fixed separator].intercalate parts) = parts.flatMap values := by
  induction parts with
  | nil => rfl
  | cons part rest inductionHypothesis =>
      cases rest with
      | nil => simp
      | cons next rest =>
          rw [List.intercalate_cons_cons, List.append_assoc, values_append, List.singleton_append,
            values, inductionHypothesis]
          simp

/-- Holes look the same wherever their numbers begin. -/
theorem render_hole (pieces : List Piece) (next other : Nat) :
    render hole next pieces = render hole other pieces := by
  induction pieces generalizing next other with
  | nil => rfl
  | cons piece rest inductionHypothesis =>
      cases piece with
      | fixed text => simp only [render, inductionHypothesis next other]
      | place value => simp only [render, hole, inductionHypothesis (next + 1) (other + 1)]

/-- With holes for the values, the text of a list with separators is that of its parts. -/
theorem render_intercalate (separator : String) (parts : List (List Piece)) (next : Nat) :
    render hole next ([Piece.fixed separator].intercalate parts) =
      separator.toList.intercalate (parts.map (render hole next)) := by
  induction parts with
  | nil => rfl
  | cons part rest inductionHypothesis =>
      cases rest with
      | nil => simp
      | cons following rest =>
          have later := render_hole ([Piece.fixed separator].intercalate (following :: rest))
            (next + (values part).length) next
          rw [List.intercalate_cons_cons, List.append_assoc, render_append, List.singleton_append,
            render, later, inductionHypothesis]
          simp

@[simp]
theorem allFixed_nil (property : String → Prop) : AllFixed property [] := by
  simp [AllFixed]

@[simp]
theorem allFixed_append {property : String → Prop} {first second : List Piece} :
    AllFixed property (first ++ second) ↔ AllFixed property first ∧ AllFixed property second := by
  simp only [AllFixed, List.mem_append, or_imp, forall_and]

@[simp]
theorem allFixed_fixed {property : String → Prop} {text : String} {rest : List Piece} :
    AllFixed property (.fixed text :: rest) ↔ property text ∧ AllFixed property rest := by
  simp [AllFixed]

@[simp]
theorem allFixed_place {property : String → Prop} {value : Value} {rest : List Piece} :
    AllFixed property (.place value :: rest) ↔ AllFixed property rest := by
  simp [AllFixed]

/-- A list with separators has a property if the separator and the parts do. -/
theorem allFixed_intercalate {property : String → Prop} {separator : String}
    {parts : List (List Piece)} (between : property separator)
    (within : ∀ part ∈ parts, AllFixed property part) :
    AllFixed property ([Piece.fixed separator].intercalate parts) := by
  induction parts with
  | nil => simp
  | cons part rest inductionHypothesis =>
      have first := within part (by simp)
      have later := inductionHypothesis fun other member => within other (by simp [member])
      cases rest with
      | nil => simpa using first
      | cons next rest =>
          rw [List.intercalate_cons_cons]
          simp [first, between, later]

@[simp]
theorem lacks_append {c : Char} {first second : String} :
    Lacks c (first ++ second) ↔ Lacks c first ∧ Lacks c second := by
  simp [Lacks]

/-- Quoting a name adds double quotes only. -/
theorem lacks_quoteName {c : Char} (other : c ≠ '"') {name : String} :
    Lacks c (quoteName name) ↔ Lacks c name := by
  have escaped : (c ∈ name.toList.flatMap fun d => if d = '"' then ['"', '"'] else [d]) ↔
      c ∈ name.toList := by
    simp only [List.mem_flatMap]
    constructor
    · rintro ⟨d, member, found⟩
      by_cases quote : d = '"'
      · simp [quote, other] at found
      · simp only [quote, if_false, List.mem_singleton] at found
        exact found ▸ member
    · exact fun member => ⟨c, member, by simp [other]⟩
  simp [Lacks, quoteName, escaped, other]

/-! ### Numbering -/

/-- Numbering leaves a text without placeholders as it is. -/
theorem numberFrom_text {text : List Char} (free : placeholder ∉ text) (next : Nat)
    (rest : List Char) :
    Statement.numberFrom next (text ++ rest) = text ++ Statement.numberFrom next rest := by
  induction text with
  | nil => rfl
  | cons c text inductionHypothesis =>
      have other : c ≠ placeholder := fun same => free (by simp [same])
      have later : placeholder ∉ text := fun member => free (by simp [member])
      simp [Statement.numberFrom, other, inductionHypothesis later]

/-- Numbering leaves no placeholder in any text. -/
theorem placeholder_not_mem_numberFrom (text : List Char) (next : Nat) :
    placeholder ∉ Statement.numberFrom next text := by
  induction text generalizing next with
  | nil => simp [Statement.numberFrom]
  | cons c rest inductionHypothesis =>
      rw [Statement.numberFrom]
      split
      next =>
        have digitsOnly : placeholder ∉ Decimal.digits next := by
          intro member
          exact absurd (Decimal.isDigit_of_mem_digits member) (by decide)
        have other : placeholder ≠ '$' := by decide
        simp [other, digitsOnly, inductionHypothesis]
      next different => simp [Ne.symm different, inductionHypothesis]

/-- Numbering the places of pieces writes each as its marker, if no text looks like
a place. -/
theorem numberFrom_render {pieces : List Piece} (free : AllFixed (Lacks placeholder) pieces)
    (next : Nat) :
    Statement.numberFrom next (render hole next pieces) = render dollar next pieces := by
  induction pieces generalizing next with
  | nil => rfl
  | cons piece rest inductionHypothesis =>
      cases piece with
      | fixed text =>
          obtain ⟨here, later⟩ := allFixed_fixed.mp free
          simp only [render, numberFrom_text here, inductionHypothesis later]
      | place value =>
          have later := allFixed_place.mp free
          simp [render, hole, dollar, Statement.numberFrom, inductionHypothesis later]

/-- A text has at least as many placeholders as values, and it has no others exactly
if none is in the fixed text. -/
theorem count_render (pieces : List Piece) (next : Nat) :
    (values pieces).length ≤ (render hole next pieces).count placeholder ∧
      ((render hole next pieces).count placeholder = (values pieces).length ↔
        AllFixed (Lacks placeholder) pieces) := by
  induction pieces generalizing next with
  | nil => simp [render, values]
  | cons piece rest inductionHypothesis =>
      cases piece with
      | fixed text =>
          have later := inductionHypothesis next
          have here : Lacks placeholder text ↔ text.toList.count placeholder = 0 :=
            List.count_eq_zero.symm
          rw [allFixed_fixed, here, ← later.2]
          simp only [render, values, List.count_append]
          omega
      | place value =>
          have later := inductionHypothesis (next + 1)
          rw [allFixed_place, ← later.2]
          simp only [render, values, hole, List.count_append, List.count_singleton_self,
            List.length_cons]
          omega

/-- A statement whose text and values are those of pieces is finished exactly if the
fixed text has no placeholder, and then has the text with numbered places. -/
theorem finalize_render {kind : StatementKind} {table : Table} {text : String}
    {pieces : List Piece} (assembled : text.toList = render hole 1 pieces)
    {statement : Statement} :
    Statement.finalize kind table text (values pieces) = .ok statement ↔
      AllFixed (Lacks placeholder) pieces ∧
        statement = ⟨kind, table, String.ofList (render dollar 1 pieces), values pieces⟩ := by
  have count := (count_render pieces 1).2
  rw [← assembled] at count
  by_cases free : AllFixed (Lacks placeholder) pieces
  · have same := count.mpr free
    have numbered := numberFrom_render free 1
    rw [← assembled] at numbered
    simp only [Statement.finalize, Statement.number, same, numbered, free, true_and, if_true]
    exact ⟨fun built => (Except.ok.inj built).symm, fun equal => congrArg Except.ok equal.symm⟩
  · have different : ¬ text.toList.count placeholder = (values pieces).length :=
      fun same => free (count.mp same)
    simp only [Statement.finalize, Statement.number, different, free, false_and, if_false,
      iff_false]
    intro built
    cases built

/-! ### Reading the markers back -/

/-- The digits behind each dollar sign, from left to right and each as far as they go. -/
def markers : List Char → List (List Char)
  | [] => []
  | c :: rest => if c = '$' then rest.takeWhile Char.isDigit :: markers rest else markers rest

/-- A text without dollar signs adds no marker. -/
theorem markers_text {text : List Char} (free : '$' ∉ text) (rest : List Char) :
    markers (text ++ rest) = markers rest := by
  induction text with
  | nil => rfl
  | cons c text inductionHypothesis =>
      have other : c ≠ '$' := fun same => free (by simp [same])
      have later : '$' ∉ text := fun member => free (by simp [member])
      simp [markers, other, inductionHypothesis later]

/-- A numbered place is read as its number, unless a digit follows. -/
theorem markers_dollar (number : Nat) {rest : List Char}
    (apart : ∀ c ∈ rest.head?, c.isDigit = false) :
    markers (dollar number ++ rest) = Decimal.digits number :: markers rest := by
  have run : (Decimal.digits number ++ rest).takeWhile Char.isDigit = Decimal.digits number := by
    rw [List.takeWhile_append_of_pos fun c member => Decimal.isDigit_of_mem_digits member]
    cases rest with
    | nil => simp
    | cons c rest => simp [apart c rfl]
  have digitsOnly : '$' ∉ Decimal.digits number := by
    intro member
    exact absurd (Decimal.isDigit_of_mem_digits member) (by decide)
  simp only [dollar, List.cons_append, markers, if_true, run, markers_text digitsOnly]

/-- If no fixed text begins with a digit, no rest of a numbered statement does. -/
theorem head?_render {pieces : List Piece} (parted : AllFixed StartsApart pieces) (next : Nat) :
    ∀ c ∈ (render dollar next pieces).head?, c.isDigit = false := by
  induction pieces generalizing next with
  | nil => simp [render]
  | cons piece rest inductionHypothesis =>
      have later : AllFixed StartsApart rest := fun text member => parted text (by simp [member])
      cases piece with
      | fixed text =>
          have here := parted text (by simp)
          cases text' : text.toList with
          | nil => simpa [render, text'] using inductionHypothesis later next
          | cons c cs => simpa [StartsApart, render, text'] using here
      | place value =>
          simp [render, dollar]

/-- The markers of a numbered statement are the numbers of its places, in order. -/
theorem markers_render {pieces : List Piece} (free : AllFixed (Lacks '$') pieces)
    (parted : AllFixed StartsApart pieces) (next : Nat) :
    markers (render dollar next pieces) =
      (List.range' next (values pieces).length).map Decimal.digits := by
  induction pieces generalizing next with
  | nil => rfl
  | cons piece rest inductionHypothesis =>
      have later : AllFixed StartsApart rest := fun text member => parted text (by simp [member])
      cases piece with
      | fixed text =>
          obtain ⟨here, free⟩ := allFixed_fixed.mp free
          simp only [render, values, markers_text here, inductionHypothesis free later]
      | place value =>
          have free := allFixed_place.mp free
          have apart := head?_render later (next + 1)
          simp only [render, values, markers_dollar next apart, inductionHypothesis free later,
            List.length_cons, List.range'_succ, List.map_cons]

/-- A numbered statement has no placeholder left. -/
theorem placeholder_not_mem_render {pieces : List Piece}
    (free : AllFixed (Lacks placeholder) pieces) (next : Nat) :
    placeholder ∉ render dollar next pieces := by
  rw [← numberFrom_render free]
  exact placeholder_not_mem_numberFrom _ next

end Piece

end Notebook.Sql
