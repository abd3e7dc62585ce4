import Notebook.Text.Form

/-!
# Paths of URLs

A path is a list of segments between slashes. Segments of one or two dots, each
of which may be percent-encoded, stand for the current and the parent place and
are resolved when the path is read. A drive, such as `c:`, has no parent.
-/

namespace Notebook.Url.Path

/-- The dots a segment consists of: percent-encoded dots count as dots. -/
def withDots : List Char → List Char
  | '%' :: '2' :: c :: rest =>
      if c = 'e' ∨ c = 'E' then '.' :: withDots rest else '%' :: '2' :: c :: withDots rest
  | c :: rest => c :: withDots rest
  | [] => []

/-- Holds of a letter and a colon, or a bar instead. -/
def isDrive : List Char → Bool
  | [letter, mark] => letter.isAlpha && (mark == ':' || mark == '|')
  | _ => false

/-- Leaves the last of the segments before, given last first, unless it is a drive. -/
def parent : List (List Char) → List (List Char)
  | [] => []
  | last :: before => if isDrive last then last :: before else before

/-- Resolves segments behind others, which are given last first. -/
def resolveBehind (before : List (List Char)) : List (List Char) → List (List Char)
  | [] => before.reverse
  | segment :: rest =>
      let here := if rest.isEmpty then [[]] else []
      match withDots segment with
      | ['.', '.'] => resolveBehind (here ++ parent before) rest
      | ['.'] => resolveBehind (here ++ before) rest
      | _ => resolveBehind (segment :: before) rest

/-- The text of segments, each behind a slash. -/
def text (segments : List (List Char)) : List Char :=
  segments.flatMap fun segment => '/' :: segment

/-- Reads a path behind its first slash. -/
def resolved (cs : List Char) : List Char :=
  text (resolveBehind [] (splitAtEach '/' cs))

end Notebook.Url.Path
