import Notebook.Text.Form

/-!
# Numeric addresses

Texts of IP addresses. Version 4 is strictly four decimal octets around dots.
Version 6 is eight groups of up to four hexadecimal digits around colons; one
run of zero groups may be written as two colons, and a version 4 address may
stand in the place of the last two groups.
-/

namespace Notebook.Ip

/-- A decimal number up to 255 without superfluous zeros. -/
def isOctet (cs : List Char) : Bool :=
  !cs.isEmpty && cs.all Char.isDigit && Decimal.value cs ≤ 255 &&
    (cs.length == 1 || cs.head? != some '0')

/-- Accepts version 4 addresses. -/
def isV4 (cs : List Char) : Bool :=
  let octets := splitAtEach '.' cs
  octets.length == 4 && octets.all isOctet

/-- Accepts what may follow when a number of groups is left. The groups need not
be used up if a run of zero groups was left out before. -/
def isV6Within (shortened : Bool) : (left : Nat) → List Char → Bool
  | 0, cs => cs.isEmpty
  | _ + 1, [] => shortened
  | left + 1, ':' :: rest => !shortened && isV6Within true left rest
  | left + 1, cs =>
      let group := (cs.take 4).takeWhile Hexadecimal.isDigit
      match cs.drop group.length with
      | [] => shortened || left == 0
      | ':' :: rest => !rest.isEmpty && isV6Within shortened left rest
      | '.' :: _ => isV4 cs && (left == 1 || (shortened && 1 ≤ left))
      | _ => false

/-- Accepts version 6 addresses. -/
def isV6 (cs : List Char) : Bool :=
  match cs with
  | ':' :: ':' :: rest => isV6Within true 7 rest
  | ':' :: _ => false
  | cs => isV6Within false 8 cs

end Notebook.Ip
