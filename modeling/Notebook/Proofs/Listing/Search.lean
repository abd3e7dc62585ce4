import Mathlib.Data.List.Infix
import Notebook.Listing.Query

/-!
# Searching for a text

What a pattern of `LIKE` matches: `%` stands for any text, `_` for any one character, and a
backslash takes the character behind it as it is. A pattern that ends in a backslash with
nothing behind it has no meaning.

The special characters of a text are escaped by three replacements, one after the other. Together
they are one pass, in which every character is escaped by itself (`escape_eq_flatMap`). So the
pattern of a search is that of its text between two `%`, whatever characters the text has, and the
search finds the bodies that have the text in them (`search_finds_literally`).
-/

namespace Notebook

namespace LikePattern

/-! ### Patterns and what they match -/

/-- One part of a pattern. -/
inductive Part where
  | anyText
  | anyChar
  | char (c : Char)
deriving DecidableEq

/-- The parts of a pattern, unless it ends in a backslash that takes nothing. -/
def parts? : (pattern : List Char) → Option (List Part)
  | [] => some []
  | ['\\'] => none
  | '\\' :: c :: rest => (parts? rest).map (.char c :: ·)
  | '%' :: rest => (parts? rest).map (.anyText :: ·)
  | '_' :: rest => (parts? rest).map (.anyChar :: ·)
  | c :: rest => (parts? rest).map (.char c :: ·)

/-- The parts match a text: each of them matches a piece of it, and the pieces follow one
another. -/
inductive Matches : (parts : List Part) → (text : List Char) → Prop
  | nil : Matches [] []
  | anyText {parts : List Part} {rest : List Char} (piece : List Char)
      (later : Matches parts rest) : Matches (.anyText :: parts) (piece ++ rest)
  | anyChar {parts : List Part} {rest : List Char} (c : Char) (later : Matches parts rest) :
      Matches (.anyChar :: parts) (c :: rest)
  | char {parts : List Part} {rest : List Char} (c : Char) (later : Matches parts rest) :
      Matches (.char c :: parts) (c :: rest)

/-- A body is like a pattern if the pattern has a meaning and its parts match the body. -/
def Like (body pattern : String) : Prop :=
  ∃ parts, parts? pattern.toList = some parts ∧ Matches parts body.toList

variable {parts : List Part} {text rest : List Char} {c : Char}

/-- No parts match the empty text only. -/
theorem matches_nil_iff : Matches [] text ↔ text = [] := by
  constructor
  · intro found
    cases found
    rfl
  · rintro rfl
    exact .nil

/-- With any text in front, the other parts match some end of the text. -/
theorem matches_anyText_iff :
    Matches (.anyText :: parts) text ↔ ∃ rest, rest <:+ text ∧ Matches parts rest := by
  constructor
  · intro found
    cases found with
    | anyText piece later => exact ⟨_, List.suffix_append piece _, later⟩
  · rintro ⟨rest, ⟨piece, rfl⟩, later⟩
    exact .anyText piece later

/-- With any character in front, the other parts match what is behind the first one. -/
theorem matches_anyChar_iff :
    Matches (.anyChar :: parts) text ↔ ∃ c rest, text = c :: rest ∧ Matches parts rest := by
  constructor
  · intro found
    cases found with
    | anyChar c later => exact ⟨c, _, rfl, later⟩
  · rintro ⟨c, rest, rfl, later⟩
    exact .anyChar c later

/-- With a character in front, the text has to begin with it. -/
theorem matches_char_iff :
    Matches (.char c :: parts) text ↔ ∃ rest, text = c :: rest ∧ Matches parts rest := by
  constructor
  · intro found
    cases found with
    | char c later => exact ⟨_, rfl, later⟩
  · rintro ⟨rest, rfl, later⟩
    exact .char c later

/-- Whether parts match a text, by trying every end of it for a part that is any text. -/
def accepts : (parts : List Part) → (text : List Char) → Bool
  | [], text => text.isEmpty
  | .anyText :: parts, text => text.tails.any fun rest => accepts parts rest
  | .anyChar :: _, [] => false
  | .anyChar :: parts, _ :: rest => accepts parts rest
  | .char _ :: _, [] => false
  | .char c :: parts, first :: rest => c == first && accepts parts rest

/-- A text is accepted exactly if it matches. -/
theorem accepts_iff : accepts parts text = true ↔ Matches parts text := by
  induction parts generalizing text with
  | nil => simp [accepts, matches_nil_iff]
  | cons part parts inductionHypothesis =>
      cases part with
      | anyText => simp [accepts, matches_anyText_iff, inductionHypothesis]
      | anyChar => cases text <;> simp [accepts, matches_anyChar_iff, inductionHypothesis]
      | char c =>
          cases text with
          | nil => simp [accepts, matches_char_iff]
          | cons first rest =>
              rw [accepts, matches_char_iff, Bool.and_eq_true, beq_iff_eq, inductionHypothesis]
              constructor
              · rintro ⟨rfl, later⟩
                exact ⟨rest, rfl, later⟩
              · rintro ⟨_, same, later⟩
                cases same
                exact ⟨rfl, later⟩

instance : Decidable (Matches parts text) :=
  decidable_of_iff _ accepts_iff

-- The text has to end in an `a` with one character behind it.
example :
    Matches [.anyText, .char 'a', .anyChar] ['b', 'a', 'n', 'a', 'l'] ∧
      ¬ Matches [.anyText, .char 'a', .anyChar] ['b', 'a', 'n', 'a'] := by
  decide

/-! ### The pattern of a text -/

/-- A character that nothing is put in the place of stays. -/
theorem replaceAll_singleton_of_ne {replacement : List Char} {d : Char} (other : d ≠ c) :
    replaceAll c replacement [d] = [d] := by
  simp [replaceAll, other]

/-- A character is replaced wherever it is. -/
theorem replaceAll_append (replacement first second : List Char) :
    replaceAll c replacement (first ++ second) =
      replaceAll c replacement first ++ replaceAll c replacement second :=
  List.flatMap_append

/-- The three replacements are made in each part of a text by itself. -/
theorem escape_append (first second : List Char) :
    escape (first ++ second) = escape first ++ escape second := by
  simp only [escape, replaceAll_append]

/-- What stands for one character. -/
def escapeChar (c : Char) : List Char :=
  if c = '\\' ∨ c = '%' ∨ c = '_' then ['\\', c] else [c]

/-- Of the three replacements one is made for a character that is special, and what it puts in is
not replaced by the later ones. -/
theorem escape_singleton (c : Char) : escape [c] = escapeChar c := by
  by_cases special : c = '\\' ∨ c = '%' ∨ c = '_'
  · rw [escapeChar, if_pos special]
    rcases special with rfl | rfl | rfl <;> decide
  · rw [escapeChar, if_neg special]
    simp only [not_or] at special
    obtain ⟨notBackslash, notPercent, notUnderscore⟩ := special
    simp only [escape, replaceAll_singleton_of_ne notBackslash,
      replaceAll_singleton_of_ne notPercent, replaceAll_singleton_of_ne notUnderscore]

/-- The three replacements one after the other are one pass over the text. -/
theorem escape_eq_flatMap (text : List Char) : escape text = text.flatMap escapeChar := by
  induction text with
  | nil => rfl
  | cons c rest inductionHypothesis =>
      rw [← List.singleton_append, escape_append, escape_singleton, inductionHypothesis]
      rfl

/-- What stands for a character is that character, whatever it is. -/
theorem parts?_escapeChar_append (c : Char) (pattern : List Char) :
    parts? (escapeChar c ++ pattern) = (parts? pattern).map (.char c :: ·) := by
  by_cases special : c = '\\' ∨ c = '%' ∨ c = '_'
  · rw [escapeChar, if_pos special]
    rfl
  · rw [escapeChar, if_neg special, List.singleton_append]
    simp only [not_or] at special
    obtain ⟨notBackslash, notPercent, notUnderscore⟩ := special
    rw [parts?]
    · exact fun same _ => notBackslash same
    · exact fun _ _ same _ => notBackslash same
    · exact notPercent
    · exact notUnderscore

/-- An escaped text is read as its characters. -/
theorem parts?_escape_append (text pattern : List Char) :
    parts? (escape text ++ pattern) = (parts? pattern).map (text.map .char ++ ·) := by
  rw [escape_eq_flatMap]
  induction text with
  | nil => simp
  | cons c rest inductionHypothesis =>
      rw [List.flatMap_cons, List.append_assoc, parts?_escapeChar_append, inductionHypothesis,
        Option.map_map]
      rfl

/-- The pattern of a search is its text with any texts around it. -/
theorem parts?_containing (text : String) :
    parts? (containing text).toList =
      some (.anyText :: (text.toList.map .char ++ [.anyText])) := by
  rw [containing, String.toList_ofList, List.cons_append, parts?, parts?_escape_append]
  rfl

/-- Characters in front match a text that begins with them. -/
theorem matches_chars_append_iff {front : List Char} :
    Matches (front.map .char ++ parts) text ↔
      ∃ rest, text = front ++ rest ∧ Matches parts rest := by
  induction front generalizing text with
  | nil => simp
  | cons c front inductionHypothesis =>
      rw [List.map_cons, List.cons_append, matches_char_iff]
      constructor
      · rintro ⟨later, rfl, found⟩
        obtain ⟨rest, rfl, last⟩ := inductionHypothesis.mp found
        exact ⟨rest, rfl, last⟩
      · rintro ⟨rest, rfl, found⟩
        exact ⟨front ++ rest, rfl, inductionHypothesis.mpr ⟨rest, rfl, found⟩⟩

/-- Any text matches the part for it. -/
theorem matches_anyText (text : List Char) : Matches [.anyText] text :=
  matches_anyText_iff.mpr ⟨[], List.nil_suffix, .nil⟩

/-- A body is like the pattern of a search exactly if the text occurs in it. -/
theorem like_containing_iff {body text : String} :
    Like body (containing text) ↔ text.toList <:+: body.toList := by
  unfold Like
  rw [parts?_containing]
  constructor
  · rintro ⟨parts, read, found⟩
    cases read
    obtain ⟨behind, ⟨front, whole⟩, found⟩ := matches_anyText_iff.mp found
    obtain ⟨rest, rfl, _⟩ := matches_chars_append_iff.mp found
    exact ⟨front, rest, by rw [List.append_assoc, whole]⟩
  · rintro ⟨front, rest, whole⟩
    refine ⟨_, rfl, matches_anyText_iff.mpr ⟨text.toList ++ rest, ?_, ?_⟩⟩
    · exact ⟨front, by rw [← whole, List.append_assoc]⟩
    · exact matches_chars_append_iff.mpr ⟨rest, rfl, matches_anyText rest⟩

end LikePattern

/-! ### Searches -/

namespace NotesQuery

/-- The filter that a search asks for. -/
def searchFilter (text : String) : Predicate :=
  .compare "body" .like (.text (LikePattern.containing text))

/-- A text to search for is one filter more and decides nothing else. -/
theorem listing_of_search {query : NotesQuery} {text : String} (searched : query.search = some text)
    (nonempty : text ≠ "") :
    query.listing = (fun listing => { listing with
        filters := listing.filters ++ [searchFilter text] }) <$>
      { query with search := none }.listing := by
  have counts : Listing.given query.search = some text := by
    simp [Listing.given, searched, nonempty, Option.filter]
  simp only [listing, counts, map_bind, map_pure]
  simp [Listing.given, searchFilter]

/-- A search finds what it says, literally. A text to search for puts one filter behind those of
the other fields and decides nothing else. The pattern of this filter does not end in a backslash
that takes nothing, and a body is like it exactly if the text occurs in the body as it is,
whatever characters it has. -/
theorem search_finds_literally {query : NotesQuery} {text : String}
    (searched : query.search = some text) (nonempty : text ≠ "") :
    query.listing = (fun listing => { listing with filters := listing.filters ++
        [.compare "body" .like (.text (LikePattern.containing text))] }) <$>
      { query with search := none }.listing ∧
    LikePattern.parts? (LikePattern.containing text).toList ≠ none ∧
    ∀ body, LikePattern.Like body (LikePattern.containing text) ↔ text.toList <:+: body.toList := by
  refine ⟨listing_of_search searched nonempty, ?_, fun _ => LikePattern.like_containing_iff⟩
  rw [LikePattern.parts?_containing]
  exact Option.some_ne_none _

/-- A search for `5%_\` finds a body with these four characters, and not one that only has others
where its wildcards are. -/
theorem search_finds_literally_wildcards :
    let pattern := LikePattern.containing "5%_\\"
    { search := some "5%_\\" : NotesQuery }.listing =
        .ok { filters := [.compare "body" .like (.text pattern)] } ∧
      LikePattern.Like "sum: 5%_\\ net" pattern ∧ ¬ LikePattern.Like "sum: 500 net" pattern := by
  obtain ⟨listed, _, found⟩ :=
    @search_finds_literally { search := some "5%_\\" } "5%_\\" rfl (by decide)
  exact ⟨listed, (found _).mpr (by decide), fun like => absurd ((found _).mp like) (by decide)⟩

end NotesQuery

end Notebook
