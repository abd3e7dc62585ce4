import Notebook.Entity.Note
import Notebook.Proofs.Listing.Grammar

/-!
# Printed timestamps as filters

The timestamp of a note is printed as RFC 3339 text if its year has four digits. So it can be
sent back as the timestamp of a listing, with an operator in front or without one. It begins
with a digit, which makes no other spelling of the operator, and it is read as the instant that
was printed (`printed_timestamp_is_filter`), unless this is in a leap second that is not at the
end of a minute.
-/

namespace Notebook

open Notebook.Listing (Field)

/-- RFC 3339 text begins with a digit. -/
theorem Timestamp.isDigit_of_strict {text : String} {time : Timestamp}
    (read : Timestamp.strict? text = some time) : ∀ c ∈ text.toList.head?, c.isDigit = true := by
  obtain ⟨first, front, written, whole, digit, _⟩ := Timestamp.exists_zone_of_strict read
  rw [whole]
  simpa using digit

/-- A digit makes no other spelling of an operator. -/
theorem Operator.not_continues_of_isDigit {operator : Operator} {c : Char}
    (digit : c.isDigit = true) : ¬ operator.Continues c := by
  rintro (⟨_, rfl⟩ | ⟨_, rfl⟩) <;> cases digit

namespace Listing

variable {text : String} {time : Timestamp} {operator : Operator}

/-- RFC 3339 text behind an operator asks for the comparison with its instant. -/
theorem asks_of_heads_strict {whole : String} (heads : operator.Heads whole text)
    (read : Timestamp.strict? text = some time) :
    Field.timestamp.Asks whole (.leaf ⟨"timestamp", operator, .timestamp time⟩) :=
  .timestamp ⟨text, text, heads, ⟨[], [], by simp⟩, .strictly read⟩

/-- RFC 3339 text asks for its instant by any operator that is put in front of it. -/
theorem asks_of_strict (read : Timestamp.strict? text = some time) (comparing : operator ≠ .like) :
    Field.timestamp.Asks (operator.sql ++ text)
      (.leaf ⟨"timestamp", operator, .timestamp time⟩) := by
  refine asks_of_heads_strict (Operator.heads_sql_append comparing ?_) read
  intro c first
  exact Operator.not_continues_of_isDigit (Timestamp.isDigit_of_strict read c first)

/-- RFC 3339 text alone asks for exactly its instant. -/
theorem asks_of_strict_bare (read : Timestamp.strict? text = some time) :
    Field.timestamp.Asks text (.leaf ⟨"timestamp", .eq, .timestamp time⟩) :=
  asks_of_heads_strict (Operator.heads_of_isDigit (Timestamp.isDigit_of_strict read)) read

/-- No filter is asked for by an empty timestamp. -/
theorem Field.Asks.ne_empty {filter : Predicate} (asks : Field.timestamp.Asks text filter) :
    text ≠ "" := by
  rintro rfl
  have refused : comparison "timestamp" Listing.timestamp "" =
      .error (.invalidInput (.notATimestamp "timestamp" "")) := rfl
  cases refused.symm.trans (Field.timestamp_eq_ok_iff.mpr asks)

end Listing

namespace NotesQuery

/-- Whatever else is listed by, the text can be added as the timestamp. Then there is this
filter, too, and all else stays as it is. -/
def TimestampAdds (text : String) (filter : Predicate) : Prop :=
  ∀ (query : NotesQuery) (listing : NoteListing),
    { query with timestamp := none }.listing = .ok listing →
    ∃ front back, listing.filters = front ++ back ∧
      { query with timestamp := some text }.listing =
        .ok { listing with filters := front ++ filter :: back }

/-- A text that asks for a filter adds it. -/
theorem timestampAdds_of_asks {text : String} {filter : Predicate}
    (asks : Field.timestamp.Asks text filter) : TimestampAdds text filter := by
  intro query listing readable
  obtain ⟨id, madeId, readable⟩ := Except.bind_eq_ok_iff.mp readable
  obtain ⟨set, madeSet, readable⟩ := Except.bind_eq_ok_iff.mp readable
  obtain ⟨timestamp, absent, readable⟩ := Except.bind_eq_ok_iff.mp readable
  obtain ⟨marked, madeMarked, readable⟩ := Except.bind_eq_ok_iff.mp readable
  obtain ⟨order, madeOrder, readable⟩ := Except.bind_eq_ok_iff.mp readable
  obtain ⟨offset, madeOffset, readable⟩ := Except.bind_eq_ok_iff.mp readable
  cases absent
  cases readable
  have made : (Listing.given (some text)).mapM
      (Listing.comparison "timestamp" Listing.timestamp) = .ok (some filter) := by
    rw [Listing.given_some asks.ne_empty]
    exact Except.mapM_eq_ok_iff.mpr (.some (Field.timestamp_eq_ok_iff.mpr asks))
  refine ⟨id.toList ++ set.toList, marked.toList ++ ((Listing.given query.search).map fun text =>
    Predicate.compare "body" .like (.text (LikePattern.containing text))).toList, by simp, ?_⟩
  refine Except.bind_eq_ok_iff.mpr ⟨id, madeId, ?_⟩
  refine Except.bind_eq_ok_iff.mpr ⟨set, madeSet, ?_⟩
  refine Except.bind_eq_ok_iff.mpr ⟨some filter, made, ?_⟩
  refine Except.bind_eq_ok_iff.mpr ⟨marked, madeMarked, ?_⟩
  refine Except.bind_eq_ok_iff.mpr ⟨order, madeOrder, ?_⟩
  refine Except.bind_eq_ok_iff.mpr ⟨offset, madeOffset, ?_⟩
  simp [pure, Except.pure]

/-- Where nothing else is listed by, the filter that a text adds is the only one. -/
theorem TimestampAdds.alone {text : String} {filter : Predicate}
    (adds : TimestampAdds text filter) :
    ({ timestamp := some text } : NotesQuery).listing = .ok { filters := [filter] } := by
  obtain ⟨front, back, apart, read⟩ := adds {} {} rfl
  obtain ⟨rfl, rfl⟩ := List.append_eq_nil_iff.mp apart.symm
  exact read

/-- A text adds only one filter. -/
theorem TimestampAdds.unique {text : String} {filter other : Predicate}
    (adds : TimestampAdds text filter) (adds' : TimestampAdds text other) : filter = other := by
  have same := Except.ok.inj (adds.alone.symm.trans adds'.alone)
  exact List.singleton_inj.mp (NoteListing.mk.inj same).1

end NotesQuery

/-! ### Main statement -/

/-- A timestamp that is printed can be sent back as a filter. The JSON of a note has a text for
its timestamp. Behind the spelling of a comparing operator this text adds the comparison of the
timestamp with exactly this instant by that operator, and alone it adds equality. If the instant
is in a leap second, this has to be at the end of a minute. -/
theorem printed_timestamp_is_filter (note : Note) (first : 0 ≤ note.timestamp.date.year)
    (last : note.timestamp.date.year ≤ 9999) (leaps : note.timestamp.LeapsAtMinuteEnd) :
    ∃ members printed, note.toJson = .object members ∧
      members.lookup "timestamp" = some (.text printed) ∧
      (∀ operator, operator ≠ Operator.like → NotesQuery.TimestampAdds (operator.sql ++ printed)
        (.leaf ⟨"timestamp", operator, .timestamp note.timestamp⟩)) ∧
      NotesQuery.TimestampAdds printed
        (.leaf ⟨"timestamp", .eq, .timestamp note.timestamp⟩) := by
  have read := Timestamp.strict?_text note.timestamp first last
  rw [Timestamp.settled_eq_self_iff.mpr leaps] at read
  refine ⟨_, note.timestamp.text, rfl, rfl, ?_, ?_⟩
  · intro operator comparing
    exact NotesQuery.timestampAdds_of_asks (Listing.asks_of_strict read comparing)
  · exact NotesQuery.timestampAdds_of_asks (Listing.asks_of_strict_bare read)

/-- The notes since a leap second, by the text that was printed for it. -/
theorem printed_timestamp_is_filter_leap_second :
    ∃ leap : Timestamp, leap.second = 59 ∧ leap.nanosecond = 1500000000 ∧
      ({ timestamp := some ">=2016-12-31T23:59:60.500Z" } : NotesQuery).listing =
        .ok { filters := [.leaf ⟨"timestamp", .gtEq, .timestamp leap⟩] } := by
  let leap : Timestamp := ⟨⟨2016, 12, 31, by decide⟩, 23, 59, 59, 1500000000⟩
  obtain ⟨members, printed, json, named, adds, _⟩ :=
    printed_timestamp_is_filter ⟨1, 2, none, leap, "milk", false⟩ (by decide) (by decide)
      (by decide)
  have found : some (Json.text leap.text) = some (.text printed) := by
    rw [← named, ← Json.object.inj json]
    rfl
  obtain rfl := Json.text.inj (Option.some.inj found)
  have text : Operator.gtEq.sql ++ leap.text = ">=2016-12-31T23:59:60.500Z" := by decide
  have read := (adds .gtEq (by decide)).alone
  rw [text] at read
  exact ⟨leap, rfl, rfl, read⟩

/-- The text that is printed for a leap second in the middle of a minute adds no comparison with
this instant. -/
theorem printed_stray_leap_is_no_filter :
    let note : Note := ⟨1, 2, none, .strayLeap, "milk", false⟩
    ∃ members, note.toJson = .object members ∧
      members.lookup "timestamp" = some (.text "2024-05-06T07:08:31.500Z") ∧
      ¬ NotesQuery.TimestampAdds ">=2024-05-06T07:08:31.500Z"
        (.leaf ⟨"timestamp", .gtEq, .timestamp .strayLeap⟩) := by
  have printed : Timestamp.strayLeap.text = "2024-05-06T07:08:31.500Z" := by decide
  have read := Timestamp.strict?_text .strayLeap (by decide) (by decide)
  rw [printed] at read
  have comparing : Operator.gtEq ≠ .like := by decide
  have adds := NotesQuery.timestampAdds_of_asks (Listing.asks_of_strict read comparing)
  have spelt : Operator.gtEq.sql ++ "2024-05-06T07:08:31.500Z" = ">=2024-05-06T07:08:31.500Z" := by
    decide
  rw [spelt] at adds
  refine ⟨_, rfl, congrArg (fun text => some (Json.text text)) printed, fun adds' => ?_⟩
  have same := adds.unique adds'
  have settled : Timestamp.strayLeap.settled = .strayLeap := by
    simpa using same
  exact absurd settled (by decide)

end Notebook
