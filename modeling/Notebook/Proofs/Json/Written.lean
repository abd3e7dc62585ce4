import Notebook.Proofs.Json.Grammar

/-!
# Written JSON read back

The compact text of a value is one of the texts that the tree of the value has, so it is read as
the tree. Only numbers with very many digits are not: they are too large for their reader.
-/

namespace Notebook.Json

mutual

/-- The tokens a value is written with. -/
def written : Json → List Token
  | .null => [.null]
  | .bool b => [.bool b]
  | .int n => [.number (.integer n)]
  | .text s => [.text (some s)]
  | .array items => .beginArray :: (writtenItems items ++ [.endArray])
  | .object members => .beginObject :: (writtenMembers members ++ [.endObject])

/-- The tokens of the items of an array. -/
def writtenItems : List Json → List Token
  | [] => []
  | [item] => item.written
  | item :: next :: rest => item.written ++ .comma :: writtenItems (next :: rest)

/-- The tokens of the members of an object. -/
def writtenMembers : List (String × Json) → List Token
  | [] => []
  | [(name, item)] => .text (some name) :: .colon :: item.written
  | (name, item) :: next :: rest =>
      .text (some name) :: .colon :: (item.written ++ .comma :: writtenMembers (next :: rest))

end

/-- No number among the tokens has so many digits that readers give up on it. -/
def Moderate (tokens : List Token) : Prop :=
  ∀ n : Int, .number (.integer n) ∈ tokens → (Decimal.digits n.natAbs).length ≤ 308

/-- Tokens among others are moderate if all of these are. -/
theorem Moderate.mono {tokens tokens' : List Token} (moderate : Moderate tokens)
    (part : ∀ token ∈ tokens', token ∈ tokens) : Moderate tokens' :=
  fun n member => moderate n (part _ member)

/-- Moderate tokens behind a token that is no number, and in front of others, are moderate. -/
theorem Moderate.cons {token : Token} {tokens : List Token} (sign : ∀ n, token ≠ .number n)
    (moderate : Moderate tokens) : Moderate (token :: tokens) := by
  intro n member
  rcases List.mem_cons.mp member with same | member
  · exact absurd same.symm (sign _)
  · exact moderate n member

/-- Two lists of moderate tokens are moderate together. -/
theorem Moderate.append {tokens tokens' : List Token} (moderate : Moderate tokens)
    (moderate' : Moderate tokens') : Moderate (tokens ++ tokens') := by
  intro n member
  rcases List.mem_append.mp member with member | member
  · exact moderate n member
  · exact moderate' n member

/-- No tokens are moderate. -/
theorem Moderate.nil : Moderate [] := by
  simp [Moderate]

/-- A text is moderate. -/
theorem Moderate.text (s : String) : Moderate (Json.text s).written :=
  .cons (by simp) .nil

/-- A 64-bit integer is moderate. -/
theorem Moderate.int64 (n : Int64) : Moderate (Json.int n.toInt).written := by
  intro m member
  have same : m = n.toInt := by simpa [written] using member
  have lower := n.le_toInt
  have upper := n.toInt_lt
  have fits : m.natAbs < Nat.pow 10 19 := by
    rw [Nat.pow_eq]
    omega
  have few : (Decimal.digits m.natAbs).length ≤ 19 :=
    (Decimal.length_digits_le_iff (by decide)).mpr fits
  omega

/-- The members of an object are moderate if each of them is. -/
theorem Moderate.members : {members : List (String × Json)} →
    (∀ member ∈ members, Moderate member.2.written) → Moderate (writtenMembers members)
  | [], _ => .nil
  | [(name, item)], each => .cons (by simp) (.cons (by simp) (each (name, item) (by simp)))
  | (name, item) :: next :: rest, each => by
      have value : Moderate item.written := each (name, item) (by simp)
      have later : Moderate (writtenMembers (next :: rest)) :=
        Moderate.members fun member inside => each member (by simp [inside])
      exact .cons (by simp) (.cons (by simp) (value.append (.cons (by simp) later)))

/-- An object is moderate if each of its members is. -/
theorem Moderate.object {members : List (String × Json)}
    (each : ∀ member ∈ members, Moderate member.2.written) :
    Moderate (Json.object members).written :=
  .cons (by simp) ((Moderate.members each).append (.cons (by simp) .nil))

/-! ### The tree of a value -/

mutual

/-- What is scanned where a value is written. -/
def scanned : Json → Scan
  | .null => .null
  | .bool b => .bool b
  | .int n => .number (.integer n)
  | .text s => .text (some s)
  | .array items => .array (scannedItems items) true
  | .object members => .object (scannedMembers members) true

/-- What is scanned for the items of an array. -/
def scannedItems : List Json → List Scan
  | [] => []
  | item :: rest => item.scanned :: scannedItems rest

/-- What is scanned for the members of an object. -/
def scannedMembers : List (String × Json) → List (Scan × Scan)
  | [] => []
  | (name, item) :: rest => (.text (some name), item.scanned) :: scannedMembers rest

end

/-- What is scanned under each name. -/
def Scan.named (members : List (String × Json)) : List (String × Scan) :=
  members.map fun member => (member.1, member.2.scanned)

/-- A written object is scanned member by member. -/
theorem scanned_object (members : List (String × Json)) :
    (Json.object members).scanned = .ofMembers (Scan.named members) := by
  have each : scannedMembers members =
      (Scan.named members).map fun member => (.text (some member.1), member.2) := by
    induction members with
    | nil => rfl
    | cons member members inductionHypothesis =>
        rw [scannedMembers, inductionHypothesis, Scan.named, Scan.named, List.map_cons,
          List.map_cons]
  rw [scanned, each, Scan.ofMembers]

/-! ### Writing JSON texts -/

/-- A string has the text that it is written as. -/
theorem hasText_quote (s : String) : HasText (.value (.text (some s))) (quote s) :=
  .text (stringText_escape s.toList)

mutual

/-- A value has the text that it is written as. -/
theorem hasText_chars : (json : Json) → Moderate json.written →
    HasText (.value json.scanned) json.chars
  | .null, _ => .null
  | .bool b, _ => .bool b
  | .int n, moderate => .number (numberText_ofInt (moderate n (by simp [written])))
  | .text s, _ => hasText_quote s
  | .array [], _ => .emptyArray (by simp [itemChars])
  | .array (item :: more), moderate =>
      .array (hasText_itemChars (item :: more) (by simp) (moderate.mono fun token member => by
        simp [written, member]))
  | .object [], _ => .emptyObject (by simp [memberChars])
  | .object (member :: more), moderate => by
      have inner := hasText_memberChars (member :: more) (by simp)
        (moderate.mono fun token member => by simp [written, member])
      rw [scanned_object]
      exact .object inner

/-- Items have the text that they are written as. -/
theorem hasText_itemChars : (items : List Json) → items ≠ [] → Moderate (writtenItems items) →
    HasText (.items (scannedItems items)) (itemChars items)
  | [item], _, moderate => .lastItem (hasText_chars item moderate)
  | item :: next :: rest, _, moderate => by
      have first := hasText_chars item (moderate.mono fun token member => by
        simp [writtenItems, member])
      have later := hasText_itemChars (next :: rest) (by simp)
        (moderate.mono fun token member => by simp [writtenItems, member])
      exact .item first later

/-- Members have the text that they are written as. -/
theorem hasText_memberChars : (members : List (String × Json)) → members ≠ [] →
    Moderate (writtenMembers members) →
    HasText (.members (Scan.named members)) (memberChars members)
  | [(name, item)], _, moderate => by
      have value := hasText_chars item (moderate.mono fun token member => by
        simp [writtenMembers, member])
      exact .lastMember (hasText_quote name) value
  | (name, item) :: next :: rest, _, moderate => by
      have value := hasText_chars item (moderate.mono fun token member => by
        simp [writtenMembers, member])
      have later := hasText_memberChars (next :: rest) (by simp)
        (moderate.mono fun token member => by simp [writtenMembers, member])
      have whole := HasText.member (hasText_quote name) value later
      simpa [memberChars, quote, Scan.named] using whole

end

/-- A text that holds a written value is read as the tree of the value is. -/
theorem readWhole_render {α : Type} (read : Scan → Except Fault α) (json : Json)
    (moderate : Moderate json.written) :
    readWhole read json.render = read json.scanned := by
  have isText := hasText_chars json moderate
  rw [← String.toList_ofList (l := json.chars)] at isText
  exact isText.readWhole read

end Notebook.Json
