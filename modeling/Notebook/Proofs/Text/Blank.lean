import Mathlib.Data.List.DropRight
import Notebook.Proofs.Text.Decimal
import Notebook.Text.Blank

/-!
# Trimmed texts

A text is its trimmed form with blanks around it, and the trimmed form has no blank at either
end. Only one text is both, so whatever stands between blanks and has none at its ends is what
trimming leaves (`trim_eq_of_surrounds`).
-/

namespace Notebook.Text

/-- Neither the first character nor the last one is a blank. -/
def Tight (cs : List Char) : Prop :=
  (∀ c ∈ cs.head?, isBlank c = false) ∧ ∀ c ∈ cs.getLast?, isBlank c = false

/-- The text is another one with nothing but blanks around it. -/
def Surrounds (text inner : String) : Prop :=
  ∃ front back, text.toList = front ++ inner.toList ++ back ∧
    (∀ c ∈ front, isBlank c = true) ∧ ∀ c ∈ back, isBlank c = true

/-- No digit is a blank. -/
theorem isBlank_of_isDigit {c : Char} (digit : c.isDigit = true) : isBlank c = false := by
  obtain ⟨lower, upper⟩ := Decimal.isDigit_iff_toNat.mp digit
  simp only [isBlank, Bool.or_eq_false_iff, Bool.and_eq_false_iff, beq_eq_false_iff_ne,
    decide_eq_false_iff_not]
  omega

/-! ### The start -/

/-- Blanks in front of a text that starts with none are taken off. -/
theorem trimStart_append {front cs : List Char} (blank : ∀ c ∈ front, isBlank c = true)
    (start : ∀ c ∈ cs.head?, isBlank c = false) : trimStart (front ++ cs) = cs := by
  rw [trimStart, List.dropWhile_append_of_pos blank]
  cases cs with
  | nil => rfl
  | cons c rest => exact List.dropWhile_cons_of_neg (by simp [start c rfl])

/-- A text that starts with no blank has nothing to trim there. -/
theorem trimStart_eq_self {cs : List Char} (start : ∀ c ∈ cs.head?, isBlank c = false) :
    trimStart cs = cs := by
  have bare : trimStart ([] ++ cs) = cs := trimStart_append (by simp) start
  exact bare

/-- There is nothing to trim in front of a character that is no blank. -/
theorem trimStart_cons {c : Char} (visible : isBlank c = false) (rest : List Char) :
    trimStart (c :: rest) = c :: rest :=
  trimStart_eq_self (by simpa using visible)

/-! ### The end -/

/-- The blanks at the end are dropped from the right. -/
theorem trimEnd_eq_rdropWhile (cs : List Char) : trimEnd cs = cs.rdropWhile isBlank := rfl

/-- Blanks behind a text that ends with none are taken off. -/
theorem trimEnd_append {cs back : List Char} (blank : ∀ c ∈ back, isBlank c = true)
    (ending : ∀ c ∈ cs.getLast?, isBlank c = false) : trimEnd (cs ++ back) = cs := by
  have mirrored : trimStart (back.reverse ++ cs.reverse) = cs.reverse :=
    trimStart_append (by simpa using blank) (by simpa using ending)
  have same : trimEnd (cs ++ back) = (trimStart (cs ++ back).reverse).reverse := rfl
  rw [same, List.reverse_append, mirrored, List.reverse_reverse]

/-- What remains after `trimEnd` does not end with a blank. -/
theorem getLast?_trimEnd (cs : List Char) :
    ∀ c ∈ (trimEnd cs).getLast?, isBlank c = false := by
  intro c member
  have mirrored : c ∈ (trimStart cs.reverse).head? := by
    simpa [trimEnd, trimStart] using member
  exact head?_trimStart cs.reverse c mirrored

/-! ### Both ends -/

/-- A trimmed text has no blank at either end. -/
theorem tight_trim (text : String) : Tight (trim text).toList := by
  rw [trim, String.toList_ofList]
  refine ⟨?_, getLast?_trimEnd _⟩
  intro c member
  obtain ⟨rest, whole⟩ := List.rdropWhile_prefix isBlank (trimStart text.toList)
  refine head?_trimStart text.toList c ?_
  rw [trimEnd_eq_rdropWhile] at member
  rw [← whole, List.head?_append, member]
  rfl

/-- A text is its trimmed form with blanks around it. -/
theorem surrounds_trim (text : String) : Surrounds text (trim text) := by
  refine ⟨text.toList.takeWhile isBlank, (trimStart text.toList).rtakeWhile isBlank, ?_,
    fun c => List.mem_takeWhile_imp, fun c => List.mem_rtakeWhile_imp⟩
  rw [trim, String.toList_ofList, trimEnd_eq_rdropWhile, List.append_assoc,
    List.rdropWhile_append_rtakeWhile, trimStart, List.takeWhile_append_dropWhile]

/-- What has no blank at its ends and stands between blanks is what trimming leaves. -/
theorem trim_eq_of_surrounds {text inner : String} (surrounds : Surrounds text inner)
    (tight : Tight inner.toList) : trim text = inner := by
  obtain ⟨front, back, whole, blank, blank'⟩ := surrounds
  have started : trimEnd (trimStart text.toList) = inner.toList := by
    cases empty : inner.toList with
    | nil =>
        rw [whole, empty, List.append_nil, ← List.append_nil (front ++ back),
          trimStart_append (by simpa [or_imp, forall_and] using ⟨blank, blank'⟩) (by simp)]
        rfl
    | cons first rest =>
        rw [empty] at tight
        rw [whole, empty, List.append_assoc, trimStart_append blank (by simpa using tight.1),
          trimEnd_append blank' tight.2]
  rw [trim, started, String.ofList_toList]

/-- Nothing is left of a text if it has only blanks. -/
theorem trim_eq_empty_iff {text : String} :
    trim text = "" ↔ ∀ c ∈ text.toList, isBlank c = true := by
  constructor
  · intro empty
    obtain ⟨front, back, whole, blank, blank'⟩ := surrounds_trim text
    rw [empty, String.toList_empty, List.append_nil] at whole
    rw [whole]
    exact List.forall_mem_append.mpr ⟨blank, blank'⟩
  · intro blank
    exact trim_eq_of_surrounds ⟨text.toList, [], by simp, blank, by simp⟩ ⟨by simp, by simp⟩

/-- A text without blanks at its ends is trimmed. -/
theorem trim_eq_self {text : String} (tight : Tight text.toList) : trim text = text :=
  trim_eq_of_surrounds ⟨[], [], by simp⟩ tight

/-- A trimmed text has no blanks at its ends. -/
theorem trim_trim (text : String) : trim (trim text) = trim text :=
  trim_eq_self (tight_trim text)

end Notebook.Text
