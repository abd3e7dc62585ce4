import Notebook.Json.Token

/-!
# Scanning JSON text

A scan turns JSON text into a tree in one pass and never fails: where the text
stops being JSON, the tree stops too. Containers record whether their end was
reached, and a value that is missing or malformed is `Scan.broken`. A reader
that walks the tree in order therefore meets the first problem of the text
first, whether it is one of grammar or one of its own.
-/

namespace Notebook.Json

/-- What a scan finds where a value is due. -/
inductive Scan where
  | null
  | bool (b : Bool)
  | number (n : Number)
  /-- A string, unless it spells a surrogate without its partner. -/
  | text (s : Option String)
  /-- The items up to the end of the array, or up to where the text breaks. -/
  | array (items : List Scan) (closed : Bool)
  /-- The names and values up to the end of the object, or up to where the text
  breaks, which it also does at a name that is no string. -/
  | object (members : List (Scan × Scan)) (closed : Bool)
  /-- No value: the text ends or breaks the grammar. -/
  | broken

namespace Scan

/-- A proper suffix of a token list, by length. -/
abbrev Rest (tokens : List Token) := {rest : List Token // rest.length < tokens.length}

/-- A suffix of a suffix is a suffix of the whole. -/
def Rest.widen {whole part : List Token} (shorter : part.length ≤ whole.length)
    (rest : Rest part) : Rest whole :=
  ⟨rest.1, Nat.lt_of_lt_of_le rest.2 shorter⟩

mutual

/-- Scans a value. The tokens behind it are given unless the text breaks in it. -/
def value (tokens : List Token) : Scan × Option (Rest tokens) :=
  match tokens with
  | .null :: rest => (.null, some ⟨rest, by simp⟩)
  | .bool b :: rest => (.bool b, some ⟨rest, by simp⟩)
  | .number n :: rest => (.number n, some ⟨rest, by simp⟩)
  | .text s :: rest => (.text s, some ⟨rest, by simp⟩)
  | .beginArray :: .endArray :: rest =>
      (.array [] true, some ⟨rest, by simp only [List.length_cons]; omega⟩)
  | .beginArray :: rest =>
      let (found, after) := items rest
      (.array found after.isSome, after.map (Rest.widen (by simp)))
  | .beginObject :: .endObject :: rest =>
      (.object [] true, some ⟨rest, by simp only [List.length_cons]; omega⟩)
  | .beginObject :: rest =>
      let (found, after) := members rest
      (.object found after.isSome, after.map (Rest.widen (by simp)))
  | _ => (.broken, none)
termination_by (tokens.length, 0)

/-- Scans the items of an array up to its end. -/
def items (tokens : List Token) : List Scan × Option (Rest tokens) :=
  match value tokens with
  | (item, some ⟨.comma :: rest, shorter⟩) =>
      let (more, after) := items rest
      (item :: more, after.map (Rest.widen (by simp at shorter; omega)))
  | (item, some ⟨.endArray :: rest, shorter⟩) =>
      ([item], some ⟨rest, by simp at shorter; omega⟩)
  | (item, _) => ([item], none)
termination_by (tokens.length, 1)
decreasing_by
  all_goals try simp only [List.length_cons] at *
  all_goals omega

/-- Scans the members of an object up to its end. -/
def members (tokens : List Token) : List (Scan × Scan) × Option (Rest tokens) :=
  match tokens with
  | .text name :: .colon :: start =>
      match value start with
      | (found, some ⟨.comma :: rest, shorter⟩) =>
          let (more, after) := members rest
          ((.text name, found) :: more, after.map (Rest.widen (by simp at shorter ⊢; omega)))
      | (found, some ⟨.endObject :: rest, shorter⟩) =>
          ([(.text name, found)], some ⟨rest, by simp at shorter ⊢; omega⟩)
      | (found, _) => ([(.text name, found)], none)
  | tokens => ([((value tokens).1, .broken)], none)
termination_by (tokens.length, 1)
decreasing_by
  all_goals try simp only [List.length_cons] at *
  all_goals omega

end

mutual

/-- Holds if the scanned text is JSON as far as its grammar goes. -/
def isWhole : Scan → Bool
  | .array items closed => closed && areWhole items
  | .object members closed => closed && membersAreWhole members
  | .broken => false
  | _ => true

/-- `isWhole` for all items. -/
def areWhole : List Scan → Bool
  | [] => true
  | item :: rest => item.isWhole && areWhole rest

/-- `isWhole` for all members. -/
def membersAreWhole : List (Scan × Scan) → Bool
  | [] => true
  | (_, found) :: rest => found.isWhole && membersAreWhole rest

end

/-- The value that a text starts with, and whether anything follows it. -/
def ofText (text : String) : Scan × Bool :=
  match value (tokens text) with
  | (found, some ⟨[], _⟩) => (found, false)
  | (found, _) => (found, true)

end Scan

end Notebook.Json
