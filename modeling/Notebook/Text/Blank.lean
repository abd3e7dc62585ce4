/-!
# Blanks

The characters that count as blank when a text is trimmed are exactly those
with the Unicode property `White_Space`. `trim` removes them from both ends and
from nowhere else.
-/

namespace Notebook.Text

/-- The 25 characters with the Unicode property `White_Space`. -/
def isBlank (c : Char) : Bool :=
  let code := c.toNat
  (0x09 ≤ code && code ≤ 0x0D) || code == 0x20 || code == 0x85 || code == 0xA0 ||
    code == 0x1680 || (0x2000 ≤ code && code ≤ 0x200A) || code == 0x2028 ||
    code == 0x2029 || code == 0x202F || code == 0x205F || code == 0x3000

/-- Drops the blanks a text starts with. -/
def trimStart (cs : List Char) : List Char :=
  cs.dropWhile isBlank

/-- Drops the blanks a text ends with. -/
def trimEnd (cs : List Char) : List Char :=
  (cs.reverse.dropWhile isBlank).reverse

/-- Drops the blanks at both ends of a text. -/
def trim (text : String) : String :=
  String.ofList (trimEnd (trimStart text.toList))

/-- What remains after `trimStart` does not start with a blank. -/
theorem head?_trimStart (cs : List Char) :
    ∀ c ∈ (trimStart cs).head?, isBlank c = false := by
  induction cs with
  | nil => simp [trimStart]
  | cons first rest inductionHypothesis =>
      intro c member
      by_cases blank : isBlank first = true
      · rw [trimStart, List.dropWhile_cons_of_pos blank] at member
        exact inductionHypothesis c member
      · rw [trimStart, List.dropWhile_cons_of_neg blank] at member
        simp only [List.head?_cons, Option.mem_def, Option.some.injEq] at member
        subst member
        simpa using blank

end Notebook.Text
