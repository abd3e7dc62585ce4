import Notebook.Proofs.Json.Scan
import Notebook.Proofs.Json.Token

/-!
# JSON texts

`HasText` says what the text of a value looks like, with white space wherever it may stand and
strings and numbers in any of their spellings. Every such text is scanned as the value, with
nothing left (`HasText.ofText`): it is split into tokens, and the scan consumes exactly these.
-/

namespace Notebook.Json

/-! ### What they look like -/

/-- The object with these members. -/
def Scan.ofMembers (members : List (String × Scan)) : Scan :=
  .object (members.map fun member => (.text (some member.1), member.2)) true

/-- A part of a JSON text: a value, or what is between the brackets of an array or an object that
is not empty. -/
inductive Part where
  | value (found : Scan)
  | items (items : List Scan)
  | members (members : List (String × Scan))

/-- The text is a part of a JSON text, in any of the ways in which it can be written. -/
inductive HasText : Part → List Char → Prop
  | blanks {part : Part} {front text back : List Char} (before : ∀ c ∈ front, isSpace c = true)
      (inner : HasText part text) (behind : ∀ c ∈ back, isSpace c = true) :
      HasText part (front ++ text ++ back)
  | null : HasText (.value .null) "null".toList
  | bool (b : Bool) : HasText (.value (.bool b)) (if b then "true" else "false").toList
  | number {number : Number} {text : List Char} (isNumber : NumberText number text) :
      HasText (.value (.number number)) text
  | text {s : String} {text : List Char} (isString : StringText s.toList text) :
      HasText (.value (.text (some s))) ('"' :: text ++ ['"'])
  /-- A string with a surrogate that has no partner. -/
  | surrogate {units : List Nat} {text : List Char} (isUnits : UnitsText units text)
      (alone : joinUnits? units = none) : HasText (.value (.text none)) ('"' :: text ++ ['"'])
  | emptyArray {blank : List Char} (spaces : ∀ c ∈ blank, isSpace c = true) :
      HasText (.value (.array [] true)) ('[' :: blank ++ [']'])
  | array {items : List Scan} {text : List Char} (filled : HasText (.items items) text) :
      HasText (.value (.array items true)) ('[' :: text ++ [']'])
  | emptyObject {blank : List Char} (spaces : ∀ c ∈ blank, isSpace c = true) :
      HasText (.value (.ofMembers [])) ('{' :: blank ++ ['}'])
  | object {members : List (String × Scan)} {text : List Char}
      (filled : HasText (.members members) text) :
      HasText (.value (.ofMembers members)) ('{' :: text ++ ['}'])
  | lastItem {found : Scan} {text : List Char} (item : HasText (.value found) text) :
      HasText (.items [found]) text
  | item {found : Scan} {items : List Scan} {text more : List Char}
      (first : HasText (.value found) text) (later : HasText (.items items) more) :
      HasText (.items (found :: items)) (text ++ ',' :: more)
  | lastMember {name : String} {found : Scan} {label text : List Char}
      (named : HasText (.value (.text (some name))) label) (value : HasText (.value found) text) :
      HasText (.members [(name, found)]) (label ++ ':' :: text)
  | member {name : String} {found : Scan} {members : List (String × Scan)}
      {label text more : List Char} (named : HasText (.value (.text (some name))) label)
      (value : HasText (.value found) text) (later : HasText (.members members) more) :
      HasText (.members ((name, found) :: members)) (label ++ ':' :: (text ++ ',' :: more))

/-! ### Reading JSON texts -/

namespace Part

/-- The bracket behind a part, unless it is a value. -/
def closing : Part → List Token
  | .value _ => []
  | .items _ => [.endArray]
  | .members _ => [.endObject]

/-- The tokens start with those of this part and the bracket behind it, and the others follow. -/
def Takes : Part → List Token → List Token → Prop
  | .value found, tokens, rest => Scan.Takes tokens found rest
  | .items found, tokens, rest => Scan.TakesItems tokens found rest
  | .members found, tokens, rest =>
      Scan.TakesMembers tokens (found.map fun member => (.text (some member.1), member.2)) rest

/-- The text is split into tokens that are taken as this part. The first of them closes nothing,
so the bracket that opens an array or an object is not taken for that of an empty one. -/
def Reads (part : Part) (text : List Char) : Prop :=
  ∃ first more, Spells text (first :: more) ∧ first ≠ .endArray ∧ first ≠ .endObject ∧
    ∀ rest, part.Takes (first :: more ++ (part.closing ++ rest)) rest

/-- Holds if a part is JSON as far as its grammar goes. -/
def isWhole : Part → Bool
  | .value found => found.isWhole
  | .items found => Scan.areWhole found
  | .members found =>
      Scan.membersAreWhole (found.map fun member => (.text (some member.1), member.2))

variable {found : Scan} {text : List Char}

/-- A value of one token is read. -/
theorem reads_single {token : Token} (spells : Spells text [token]) (array : token ≠ .endArray)
    (object : token ≠ .endObject)
    (takes : ∀ rest, Scan.value (token :: rest) = (found, some ⟨rest, Nat.lt_succ_self _⟩)) :
    (Part.value found).Reads text :=
  ⟨token, [], spells, array, object, fun rest => ⟨Nat.lt_succ_self _, takes rest⟩⟩

/-- A text that is read as a string spells it. -/
theorem Reads.spells {s : Option String} (reads : (Part.value (.text s)).Reads text) :
    Spells text [.text s] := by
  obtain ⟨first, more, spells, _, _, takes⟩ := reads
  have alone : first :: more ++ [] = [.text s] := (takes []).eq_cons_of_text
  rw [List.append_nil] at alone
  rwa [alone] at spells

/-- An array without items is read. -/
theorem reads_emptyArray {blank : List Char} (spaces : ∀ c ∈ blank, isSpace c = true) :
    (Part.value (.array [] true)).Reads ('[' :: blank ++ [']']) := by
  have closing : Spells (blank ++ [']']) [.endArray] := by
    simpa using (Spells.bracket (by decide) fun _ => rfl).blanks spaces (List.forall_mem_nil _)
  exact ⟨.beginArray, [.endArray], .sign (by decide) (fun _ => rfl) closing, by simp, by simp,
    fun _ => .array_nil⟩

/-- An object without members is read. -/
theorem reads_emptyObject {blank : List Char} (spaces : ∀ c ∈ blank, isSpace c = true) :
    (Part.value (.ofMembers [])).Reads ('{' :: blank ++ ['}']) := by
  have closing : Spells (blank ++ ['}']) [.endObject] := by
    simpa using (Spells.bracket (by decide) fun _ => rfl).blanks spaces (List.forall_mem_nil _)
  exact ⟨.beginObject, [.endObject], .sign (by decide) (fun _ => rfl) closing, by simp, by simp,
    fun _ => .object_nil⟩

/-- An array is read with its items. -/
theorem Reads.array {items : List Scan} (reads : (Part.items items).Reads text) :
    (Part.value (.array items true)).Reads ('[' :: text ++ [']']) := by
  obtain ⟨first, more, spells, array, _, takes⟩ := reads
  refine ⟨.beginArray, first :: more ++ [.endArray], ?_, by simp, by simp, fun rest => ?_⟩
  · exact .sign (by decide) (fun _ => rfl)
      (spells.append (by simp [Apart]) (.bracket (by decide) fun _ => rfl))
  · have inner := takes rest
    rw [← List.append_assoc] at inner
    exact .array (fun more same => array (List.cons.inj same).1) inner

/-- An object is read with its members. -/
theorem Reads.object {members : List (String × Scan)} (reads : (Part.members members).Reads text) :
    (Part.value (.ofMembers members)).Reads ('{' :: text ++ ['}']) := by
  obtain ⟨first, more, spells, _, object, takes⟩ := reads
  refine ⟨.beginObject, first :: more ++ [.endObject], ?_, by simp, by simp, fun rest => ?_⟩
  · exact .sign (by decide) (fun _ => rfl)
      (spells.append (by simp [Apart]) (.bracket (by decide) fun _ => rfl))
  · have inner := takes rest
    rw [← List.append_assoc] at inner
    exact .object (fun more same => object (List.cons.inj same).1) inner

/-- The last item is read. -/
theorem Reads.lastItem (reads : (Part.value found).Reads text) :
    (Part.items [found]).Reads text := by
  obtain ⟨first, more, spells, array, object, takes⟩ := reads
  exact ⟨first, more, spells, array, object, fun rest => .last (takes (.endArray :: rest))⟩

/-- An item is read in front of others. -/
theorem Reads.item {items : List Scan} {others : List Char}
    (reads : (Part.value found).Reads text) (later : (Part.items items).Reads others) :
    (Part.items (found :: items)).Reads (text ++ ',' :: others) := by
  obtain ⟨first, more, spells, array, object, takes⟩ := reads
  obtain ⟨next, rest, spells', _, _, takes'⟩ := later
  refine ⟨first, more ++ .comma :: next :: rest, ?_, array, object, fun behind => ?_⟩
  · exact spells.append (by simp [Apart]) (.sign (by decide) (fun _ => rfl) spells')
  · have value := takes (.comma :: (next :: rest ++ (.endArray :: behind)))
    exact .cons (by simpa [closing, Takes] using value)
      (by simpa [closing, Takes] using takes' behind)

variable {name : String} {label : List Char}

/-- The last member is read. -/
theorem Reads.lastMember (named : (Part.value (.text (some name))).Reads label)
    (reads : (Part.value found).Reads text) :
    (Part.members [(name, found)]).Reads (label ++ ':' :: text) := by
  obtain ⟨first, more, spells, _, _, takes⟩ := reads
  refine ⟨.text (some name), .colon :: first :: more, ?_, by simp, by simp, fun rest => ?_⟩
  · exact named.spells.append (by simp [Apart]) (.sign (by decide) (fun _ => rfl) spells)
  · exact .last (takes (.endObject :: rest))

/-- A member is read in front of others. -/
theorem Reads.member {members : List (String × Scan)} {others : List Char}
    (named : (Part.value (.text (some name))).Reads label) (reads : (Part.value found).Reads text)
    (later : (Part.members members).Reads others) :
    (Part.members ((name, found) :: members)).Reads
      (label ++ ':' :: (text ++ ',' :: others)) := by
  obtain ⟨first, more, spells, _, _, takes⟩ := reads
  obtain ⟨next, rest, spells', _, _, takes'⟩ := later
  refine ⟨.text (some name), .colon :: (first :: more ++ .comma :: next :: rest), ?_, by simp,
    by simp, fun behind => ?_⟩
  · have comma : Spells (',' :: others) (.comma :: next :: rest) :=
      .sign (by decide) (fun _ => rfl) spells'
    have value := spells.append (by simp [Apart]) comma
    exact named.spells.append (by simp [Apart]) (.sign (by decide) (fun _ => rfl) value)
  · have value := takes (.comma :: (next :: rest ++ (.endObject :: behind)))
    exact .cons (by simpa [closing, Takes] using value)
      (by simpa [closing, Takes] using takes' behind)

end Part

/-- A JSON text is read as what it is the text of. -/
theorem HasText.reads {part : Part} {text : List Char} (isText : HasText part text) :
    part.Reads text := by
  induction isText with
  | blanks before _ behind inductionHypothesis =>
      obtain ⟨first, more, spells, reads⟩ := inductionHypothesis
      exact ⟨first, more, spells.blanks before behind, reads⟩
  | null =>
      exact Part.reads_single (.single (by decide) fun _ _ => rfl) (by simp) (by simp)
        fun _ => by rw [Scan.value]
  | bool b =>
      have spells : Spells (if b then "true" else "false").toList [.bool b] := by
        cases b
        · exact .single (by decide) fun _ _ => rfl
        · exact .single (by decide) fun _ _ => rfl
      exact Part.reads_single spells (by simp) (by simp) fun _ => by rw [Scan.value]
  | number isNumber =>
      exact Part.reads_single (.number isNumber) (by simp) (by simp) fun _ => by rw [Scan.value]
  | text isString =>
      obtain ⟨units, isUnits, joins⟩ := isString.exists_units
      have spells := Spells.units isUnits
      rw [joins, Option.map_some, String.ofList_toList] at spells
      exact Part.reads_single spells (by simp) (by simp) fun _ => by rw [Scan.value]
  | surrogate isUnits alone =>
      have spells := Spells.units isUnits
      rw [alone, Option.map_none] at spells
      exact Part.reads_single spells (by simp) (by simp) fun _ => by rw [Scan.value]
  | emptyArray spaces => exact Part.reads_emptyArray spaces
  | array _ inductionHypothesis => exact inductionHypothesis.array
  | emptyObject spaces => exact Part.reads_emptyObject spaces
  | object _ inductionHypothesis => exact inductionHypothesis.object
  | lastItem _ inductionHypothesis => exact inductionHypothesis.lastItem
  | item _ _ inductionHypothesis later => exact inductionHypothesis.item later
  | lastMember _ _ named inductionHypothesis => exact named.lastMember inductionHypothesis
  | member _ _ _ named inductionHypothesis later =>
      exact named.member inductionHypothesis later

/-- What a text holds is whole. -/
theorem HasText.isWhole {part : Part} {text : List Char} (isText : HasText part text) :
    part.isWhole = true := by
  induction isText with
  | blanks _ _ _ inductionHypothesis => exact inductionHypothesis
  | array _ inductionHypothesis => exact inductionHypothesis
  | object _ inductionHypothesis => exact inductionHypothesis
  | lastItem _ inductionHypothesis => exact Bool.and_eq_true_iff.mpr ⟨inductionHypothesis, rfl⟩
  | item _ _ inductionHypothesis inductionHypothesis' =>
      exact Bool.and_eq_true_iff.mpr ⟨inductionHypothesis, inductionHypothesis'⟩
  | lastMember _ _ _ inductionHypothesis =>
      exact Bool.and_eq_true_iff.mpr ⟨inductionHypothesis, rfl⟩
  | member _ _ _ _ inductionHypothesis inductionHypothesis' =>
      exact Bool.and_eq_true_iff.mpr ⟨inductionHypothesis, inductionHypothesis'⟩
  | _ => rfl

/-- The text of a value is scanned as the value, with nothing behind it. -/
theorem HasText.ofText {found : Scan} {text : String}
    (isText : HasText (.value found) text.toList) : Scan.ofText text = (found, false) := by
  obtain ⟨first, more, spells, _, _, takes⟩ := isText.reads
  have split : tokens text = first :: more := by
    rw [tokens]
    exact spells.tokensWithin_eq
  have taken : Scan.Takes (first :: more ++ []) found [] := takes []
  rw [List.append_nil, ← split] at taken
  obtain ⟨shorter, taken⟩ := taken
  rw [Scan.ofText, taken]

/-- A text that holds a value is read as the value is. -/
theorem HasText.readWhole {α : Type} {found : Scan} {text : String}
    (isText : HasText (.value found) text.toList) (read : Scan → Except Fault α) :
    readWhole read text = read found := by
  simp only [Json.readWhole, isText.ofText]
  cases read found <;> rfl

end Notebook.Json
