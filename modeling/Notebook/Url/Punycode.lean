import Notebook.Text.Decimal

/-!
# Punycode

Text of any characters written with letters, digits and hyphens. Behind the
basic characters and a last hyphen stand numbers with digits to the base 36,
the least significant first. Each number tells how far to go on through all
pairs of a code point and a place before the next character is inserted.
-/

namespace Notebook.Punycode

/-- The value of a digit to the base 36. -/
def digit? (c : Char) : Option Nat :=
  if c.isLower then some (c.toNat - 'a'.toNat)
  else if c.isUpper then some (c.toNat - 'A'.toNat)
  else if c.isDigit then some (c.toNat - '0'.toNat + 26)
  else none

/-- A digit below the threshold of its place ends its number. -/
def threshold (place bias : Nat) : Nat :=
  min 26 (max 1 (place - bias))

/-- Reads a number; `weight` is what a digit counts at this place. The text that
follows is shorter. -/
def number? (bias place weight total : Nat) :
    (cs : List Char) → Option (Nat × {rest : List Char // rest.length < cs.length})
  | [] => none
  | c :: rest =>
      match digit? c with
      | none => none
      | some digit =>
          let total := total + digit * weight
          let limit := threshold place bias
          if digit < limit then some (total, ⟨rest, by simp only [List.length_cons]; omega⟩)
          else
            (number? bias (place + 36) (weight * (36 - limit)) total rest).map
              fun (number, after) =>
                (number, ⟨after.1, by have := after.2; simp only [List.length_cons]; omega⟩)

/-- Divides by 35 down to 455, counting the steps. -/
def reduce (delta steps : Nat) : Nat × Nat :=
  if 455 < delta then reduce (delta / 35) (steps + 1) else (delta, steps)
termination_by delta
decreasing_by omega

/-- The bias for the next number, once there are `count` characters. -/
def adapt (delta count : Nat) (first : Bool) : Nat :=
  let delta := if first then delta / 700 else delta / 2
  let delta := delta + delta / count
  let (delta, steps) := reduce delta 0
  36 * steps + 36 * delta / (delta + 38)

/-- Inserts the characters that the numbers tell. `code` and `place` are the
pair that was reached last. -/
def insertions? (code place bias : Nat) (first : Bool) (found : List Nat) (cs : List Char) :
    Option (List Nat) :=
  if cs.isEmpty then some found
  else
    match number? bias 36 1 0 cs with
    | none => none
    | some (delta, ⟨rest, _⟩) =>
        let count := found.length + 1
        let code := code + (place + delta) / count
        let index := (place + delta) % count
        if code.isValidChar then
          insertions? code (index + 1) (adapt delta count first) false
            (found.take index ++ code :: found.drop index) rest
        else none
termination_by cs.length

/-- The text that is written in this way. -/
def decode? (cs : List Char) : Option (List Char) := do
  let numbers := (cs.reverse.takeWhile (· ≠ '-')).reverse
  let basic := cs.take (cs.length - numbers.length - 1)
  let found ← insertions? 128 0 72 true (basic.map Char.toNat) numbers
  return found.map Char.ofNat

end Notebook.Punycode
