import Notebook.Listing.Order
import Notebook.Proofs.Except
import Notebook.Proofs.Listing.Plus
import Notebook.Proofs.Listing.Spelling
import Notebook.Proofs.Text.Casing
import Notebook.Proofs.Text.Numeral

/-!
# The fields of a listing

Each field of a listing has a small language of its own. Which texts are in it, and what they
ask for, is said here without a reader. A text that is not in it has one complaint, which names
the field and what stands where the value should be. Reading a field agrees with this
(`Field.check_eq_ok_iff`, `Field.check_eq_error_iff`).
-/

namespace Notebook

namespace Listing

variable {α : Type} {field : Option String} {text column : String} {filter : Predicate}
  {error : Error}

/-! ### Comparisons -/

/-- The text has the operator in front, and what is behind it shows the value between
blanks. -/
def Compares (shows : String → Prop) (text : String) (operator : Operator) : Prop :=
  ∃ rest inner, operator.Heads text rest ∧ Text.Surrounds rest inner ∧ shows inner

/-- The integer that a field holds is the value of the numeral between its blanks. -/
theorem integer_eq_ok_iff {value : Value} :
    integer column text = .ok value ↔
      ∃ n : Int64, value = .int n ∧ Decimal.Signed (Text.trim text).toList n.toInt := by
  simp only [← Decimal.int64?_eq_some_iff]
  unfold integer
  cases Decimal.int64? (Text.trim text) <;> simp [eq_comm]

/-- What is no integer is refused as it is, with its blanks. -/
theorem integer_eq_error (failed : integer column text = .error error) :
    error = .invalidInput (.notAnInteger column text) := by
  unfold integer at failed
  split at failed
  · cases failed
  · exact (Except.error.inj failed).symm

/-- What is no timestamp is refused as it is, with its blanks. -/
theorem timestamp_eq_error (failed : timestamp column text = .error error) :
    error = .invalidInput (.notATimestamp column text) := by
  unfold timestamp at failed
  split at failed
  · cases failed
  · exact (Except.error.inj failed).symm

/-- A comparison is read from the texts that have an operator in front of the value. -/
theorem comparison_eq_ok_iff {read : String → String → Except Error Value} (make : α → Value)
    (shows : String → α → Prop)
    (tight : ∀ inner content, shows inner content → Text.Tight inner.toList)
    (readable : ∀ text value, read column text = .ok value ↔
      ∃ content, value = make content ∧ shows (Text.trim text) content) :
    comparison column read text = .ok filter ↔ ∃ operator content,
      filter = .leaf ⟨column, operator, make content⟩ ∧
        Compares (shows · content) text operator := by
  constructor
  · intro made
    obtain ⟨value, found, same⟩ := Except.bind_eq_ok_iff.mp made
    cases same
    obtain ⟨content, rfl, shown⟩ := (readable _ _).mp found
    exact ⟨_, content, rfl, _, _, Operator.heads_split text, Text.surrounds_trim _, shown⟩
  · rintro ⟨operator, content, rfl, rest, inner, heads, surrounds, shown⟩
    have trimmed := Text.trim_eq_of_surrounds surrounds (tight inner content shown)
    have found : read column rest = .ok (make content) := by
      rw [readable, trimmed]
      exact ⟨content, rfl, shown⟩
    unfold comparison
    rw [Operator.split_eq_iff.mpr heads]
    exact Except.bind_eq_ok_iff.mpr ⟨_, found, rfl⟩

/-- A comparison with an integer is read from the texts that have an operator in front of a
numeral. -/
theorem comparison_integer_eq_ok_iff :
    comparison column integer text = .ok filter ↔ ∃ operator, ∃ n : Int64,
      filter = .leaf ⟨column, operator, .int n⟩ ∧
        Compares (fun inner => Decimal.Signed inner.toList n.toInt) text operator :=
  comparison_eq_ok_iff Value.int (fun inner n => Decimal.Signed inner.toList n.toInt)
    (fun _ _ numeral => numeral.tight) fun _ _ => integer_eq_ok_iff

/-- A comparison with an instant is read from the texts that have an operator in front of what
shows it. -/
theorem comparison_timestamp_eq_ok_iff :
    comparison column timestamp text = .ok filter ↔ ∃ operator time,
      filter = .leaf ⟨column, operator, .timestamp time⟩ ∧
        Compares (Shows · time) text operator :=
  comparison_eq_ok_iff Value.timestamp Shows (fun _ _ shows => shows.tight)
    fun _ _ => timestamp_eq_ok_iff

/-- A comparison fails if its value does. -/
theorem comparison_eq_error {read : String → String → Except Error Value}
    (failed : comparison column read text = .error error) :
    ∃ operator rest, Operator.Heads text operator rest ∧ read column rest = .error error := by
  refine ⟨_, _, Operator.heads_split text, ?_⟩
  unfold comparison at failed
  cases found : read column (Operator.split text).2 with
  | error other =>
      simp only [found] at failed
      cases failed
      rfl
  | ok value =>
      simp only [found] at failed
      cases failed

/-! ### Truth values -/

/-- A truth value is one of two texts. -/
theorem boolean_eq_ok_iff {value : Value} :
    boolean column text = .ok value ↔
      text = "true" ∧ value = .bool true ∨ text = "false" ∧ value = .bool false := by
  unfold boolean
  split
  next yes => simp [yes, eq_comm]
  next notYes =>
    split
    next no => simp [no, eq_comm]
    next notNo => simp [notYes, notNo]

/-- What is no truth value is refused. -/
theorem boolean_eq_error (failed : boolean column text = .error error) :
    error = .invalidInput (.notABoolean column text) := by
  unfold boolean at failed
  split at failed
  · cases failed
  · split at failed
    · cases failed
    · exact (Except.error.inj failed).symm

/-! ### Texts that count -/

/-- A field counts if it has a text that is not empty. -/
theorem given_eq_some_iff : given field = some text ↔ field = some text ∧ text ≠ "" := by
  simp [given, Option.filter_eq_some_iff]

/-- A text that is not empty counts. -/
theorem given_some (nonempty : text ≠ "") : given (some text) = some text :=
  given_eq_some_iff.mpr ⟨rfl, nonempty⟩

/-! ### Directions -/

/-- The text is the name of the direction, in any case. -/
def Orders (text : String) (order : SortOrder) : Prop :=
  Text.AnyCase order.name.toList text.toList

/-- The direction is the one that the text asks for, and ascending without a text. -/
inductive OrderedBy : Option String → SortOrder → Prop
  | absent : OrderedBy none .asc
  | given {text : String} {order : SortOrder} (orders : Orders text order) :
      OrderedBy (some text) order

/-- A direction is read from its name. -/
theorem order_eq_ok_iff (nonempty : text ≠ "") {order : SortOrder} :
    Listing.order (some text) = .ok order ↔ Orders text order := by
  have small : order.name.toList.all Char.isLower = true := by cases order <;> rfl
  rw [Orders, ← Text.map_toLower_eq_iff (List.all_eq_true.mp small)]
  simp only [Listing.order, given_some nonempty]
  split
  next asc => cases order <;> simp [asc, SortOrder.name]
  next notAsc =>
    split
    next desc => cases order <;> simp [desc, SortOrder.name]
    next notDesc => cases order <;> simp [notAsc, notDesc, SortOrder.name]

/-- The direction depends on the text that counts. -/
theorem order_eq_elim : Listing.order field =
    (given field).elim (.ok .asc) fun text => Listing.order (some text) := by
  cases counts : given field with
  | none => rw [Listing.order, counts, Option.elim_none]
  | some text =>
      rw [Listing.order, counts, Option.elim_some, Listing.order,
        given_some (given_eq_some_iff.mp counts).2]

/-- The direction that is read is the one that the text asks for. -/
theorem orderedBy_of_order {order : SortOrder} (read : Listing.order field = .ok order) :
    OrderedBy (given field) order := by
  rw [order_eq_elim] at read
  cases counts : given field with
  | none =>
      rw [counts] at read
      cases read
      exact .absent
  | some text =>
      rw [counts] at read
      exact .given ((order_eq_ok_iff (given_eq_some_iff.mp counts).2).mp read)

/-- What is no direction is refused. -/
theorem order_eq_error (nonempty : text ≠ "") (failed : Listing.order (some text) = .error error) :
    error = .invalidInput (.notAnOrder text) := by
  simp only [Listing.order, given_some nonempty] at failed
  split at failed
  · cases failed
  · split at failed
    · cases failed
    · exact (Except.error.inj failed).symm

/-! ### Offsets -/

/-- The offset is the one that the text is a numeral of, and there is none without a text. -/
inductive StartsAt : Option String → Option UInt64 → Prop
  | absent : StartsAt none none
  | given {text : String} {n : UInt64} (numeral : Decimal.Unsigned text.toList n.toNat) :
      StartsAt (some text) (some n)

/-- An offset is read from its numeral. -/
theorem offset_eq_ok_iff (nonempty : text ≠ "") {offset : Option UInt64} :
    Listing.offset (some text) = .ok offset ↔
      ∃ n, offset = some n ∧ Decimal.Unsigned text.toList n.toNat := by
  simp only [← Decimal.uint64?_eq_some_iff, Listing.offset, given_some nonempty]
  cases Decimal.uint64? text <;> simp [eq_comm]

/-- The offset depends on the text that counts. -/
theorem offset_eq_elim : Listing.offset field =
    (given field).elim (.ok none) fun text => Listing.offset (some text) := by
  cases counts : given field with
  | none => rw [Listing.offset, counts, Option.elim_none]
  | some text =>
      rw [Listing.offset, counts, Option.elim_some, Listing.offset,
        given_some (given_eq_some_iff.mp counts).2]

/-- The offset that is read is the one that the text is a numeral of. -/
theorem startsAt_of_offset {offset : Option UInt64} (read : Listing.offset field = .ok offset) :
    StartsAt (given field) offset := by
  rw [offset_eq_elim] at read
  cases counts : given field with
  | none =>
      rw [counts] at read
      cases read
      exact .absent
  | some text =>
      rw [counts] at read
      obtain ⟨n, rfl, numeral⟩ := (offset_eq_ok_iff (given_eq_some_iff.mp counts).2).mp read
      exact .given numeral

/-- What is no offset is refused. -/
theorem offset_eq_error (nonempty : text ≠ "")
    (failed : Listing.offset (some text) = .error error) :
    error = .invalidInput (.notAnOffset text) := by
  simp only [Listing.offset, given_some nonempty] at failed
  split at failed
  · cases failed
  · exact (Except.error.inj failed).symm

/-! ### Fields -/

/-- The fields of a listing. -/
inductive Field where
  | id
  | set
  | timestamp
  | marked
  | search
  | order
  | offset

namespace Field

/-- The fields that ask for filters, in the order of their filters. -/
def filtering : List Field :=
  [.id, .set, .timestamp, .marked, .search]

/-- All fields, in the order in which they are read. -/
def inOrder : List Field :=
  filtering ++ [.order, .offset]

/-- Every field is read. -/
theorem mem_inOrder (field : Field) : field ∈ inOrder := by
  cases field <;> simp [inOrder, filtering]

/-- The text asks for the filter. -/
inductive Asks : Field → String → Predicate → Prop
  | id {text : String} {operator : Operator} {n : Int64}
      (compares : Compares (fun inner => Decimal.Signed inner.toList n.toInt) text operator) :
      Asks .id text (.leaf ⟨"id", operator, .int n⟩)
  | set {text : String} {operator : Operator} {n : Int64}
      (compares : Compares (fun inner => Decimal.Signed inner.toList n.toInt) text operator) :
      Asks .set text (.leaf ⟨"set", operator, .int n⟩)
  | timestamp {text : String} {operator : Operator} {time : Timestamp}
      (compares : Compares (Shows · time) text operator) :
      Asks .timestamp text (.leaf ⟨"timestamp", operator, .timestamp time⟩)
  | marked : Asks .marked "true" (.leaf ⟨"marked", .eq, .bool true⟩)
  | unmarked : Asks .marked "false" (.leaf ⟨"marked", .eq, .bool false⟩)
  | search (text : String) :
      Asks .search text (.leaf ⟨"body", .like, .text (LikePattern.containing text)⟩)

/-- The text is one that the field can have. -/
inductive Accepts : Field → String → Prop
  | filter {field : Field} {text : String} {filter : Predicate} (asks : field.Asks text filter) :
      Accepts field text
  | order {text : String} {order : SortOrder} (orders : Orders text order) : Accepts .order text
  | offset {text : String} {n : UInt64} (numeral : Decimal.Unsigned text.toList n.toNat) :
      Accepts .offset text

/-- What is said of a text that the field cannot have. A search can be for any text. -/
inductive Complains : Field → String → InputFault → Prop
  | id {text rest : String} {operator : Operator} (heads : operator.Heads text rest) :
      Complains .id text (.notAnInteger "id" rest)
  | set {text rest : String} {operator : Operator} (heads : operator.Heads text rest) :
      Complains .set text (.notAnInteger "set" rest)
  | timestamp {text rest : String} {operator : Operator} (heads : operator.Heads text rest) :
      Complains .timestamp text (.notATimestamp "timestamp" rest)
  | marked (text : String) : Complains .marked text (.notABoolean "marked" text)
  | order (text : String) : Complains .order text (.notAnOrder text)
  | offset (text : String) : Complains .offset text (.notAnOffset text)

variable {field : Field}

/-- A text has one complaint at most. -/
theorem Complains.unique {fault other : InputFault} (complains : field.Complains text fault)
    (complains' : field.Complains text other) : fault = other := by
  cases complains with
  | id heads | set heads | timestamp heads =>
      cases complains'
      next heads' => rw [(heads.unique heads').2]
  | marked | order | offset =>
      cases complains'
      rfl

/-! ### Reading fields -/

/-- Reads the text of a field and keeps only whether it can be read. -/
def check : Field → String → Except Error Unit
  | .id, text => discard (comparison "id" integer text)
  | .set, text => discard (comparison "set" integer text)
  | .timestamp, text => discard (comparison "timestamp" Listing.timestamp text)
  | .marked, text => discard (boolean "marked" text)
  | .search, _ => .ok ()
  | .order, text => discard (Listing.order (some text))
  | .offset, text => discard (Listing.offset (some text))

/-- The filter of the id is read from the texts that ask for it. -/
theorem id_eq_ok_iff :
    comparison "id" integer text = .ok filter ↔ Field.id.Asks text filter := by
  rw [comparison_integer_eq_ok_iff]
  constructor
  · rintro ⟨operator, n, rfl, compares⟩
    exact .id compares
  · intro asks
    cases asks with
    | id compares => exact ⟨_, _, rfl, compares⟩

/-- The filter of the set is read from the texts that ask for it. -/
theorem set_eq_ok_iff :
    comparison "set" integer text = .ok filter ↔ Field.set.Asks text filter := by
  rw [comparison_integer_eq_ok_iff]
  constructor
  · rintro ⟨operator, n, rfl, compares⟩
    exact .set compares
  · intro asks
    cases asks with
    | set compares => exact ⟨_, _, rfl, compares⟩

/-- The filter of the timestamp is read from the texts that ask for it. -/
theorem timestamp_eq_ok_iff :
    comparison "timestamp" Listing.timestamp text = .ok filter ↔
      Field.timestamp.Asks text filter := by
  rw [comparison_timestamp_eq_ok_iff]
  constructor
  · rintro ⟨operator, time, rfl, compares⟩
    exact .timestamp compares
  · intro asks
    cases asks with
    | timestamp compares => exact ⟨_, _, rfl, compares⟩

/-- The filter of the mark is read from the texts that ask for it. -/
theorem marked_eq_ok_iff :
    (boolean "marked" text >>= fun value => pure (Predicate.eq "marked" value)) = .ok filter ↔
      Field.marked.Asks text filter := by
  rw [Except.bind_eq_ok_iff]
  constructor
  · rintro ⟨value, read, same⟩
    cases same
    obtain ⟨rfl, rfl⟩ | ⟨rfl, rfl⟩ := boolean_eq_ok_iff.mp read
    · exact .marked
    · exact .unmarked
  · intro asks
    cases asks with
    | marked => exact ⟨_, rfl, rfl⟩
    | unmarked => exact ⟨_, rfl, rfl⟩

/-- A field that asks for filters accepts the texts that ask for one. -/
theorem accepts_iff_exists_asks {reading : Except Error Predicate}
    (asked : ∀ filter, reading = .ok filter ↔ field.Asks text filter)
    (filtering : field ∈ Field.filtering) :
    (∃ filter, reading = .ok filter) ↔ field.Accepts text := by
  constructor
  · rintro ⟨filter, read⟩
    exact .filter ((asked filter).mp read)
  · intro accepts
    cases accepts with
    | filter asks => exact ⟨_, (asked _).mpr asks⟩
    | order | offset => simp [Field.filtering] at filtering

/-- The text of a field is read if it is one that the field can have. -/
theorem check_eq_ok_iff (nonempty : text ≠ "") :
    field.check text = .ok () ↔ field.Accepts text := by
  cases field with
  | search => exact ⟨fun _ => .filter (.search text), fun _ => rfl⟩
  | id =>
      rw [check, Except.discard_eq_ok_iff]
      exact accepts_iff_exists_asks (fun _ => id_eq_ok_iff) (by simp [filtering])
  | set =>
      rw [check, Except.discard_eq_ok_iff]
      exact accepts_iff_exists_asks (fun _ => set_eq_ok_iff) (by simp [filtering])
  | timestamp =>
      rw [check, Except.discard_eq_ok_iff]
      exact accepts_iff_exists_asks (fun _ => timestamp_eq_ok_iff) (by simp [filtering])
  | marked =>
      rw [check, Except.discard_eq_ok_iff, ← accepts_iff_exists_asks (fun _ => marked_eq_ok_iff)
        (by simp [filtering])]
      simp only [Except.bind_eq_ok_iff]
      constructor
      · rintro ⟨value, read⟩
        exact ⟨_, value, read, rfl⟩
      · rintro ⟨filter, value, read, _⟩
        exact ⟨value, read⟩
  | order =>
      rw [check, Except.discard_eq_ok_iff]
      simp only [order_eq_ok_iff nonempty]
      constructor
      · rintro ⟨order, orders⟩
        exact .order orders
      · intro accepts
        cases accepts with
        | filter asks => cases asks
        | order orders => exact ⟨_, orders⟩
  | offset =>
      rw [check, Except.discard_eq_ok_iff]
      simp only [offset_eq_ok_iff nonempty]
      constructor
      · rintro ⟨_, n, rfl, numeral⟩
        exact .offset numeral
      · intro accepts
        cases accepts with
        | filter asks => cases asks
        | offset numeral => exact ⟨_, _, rfl, numeral⟩

/-- If the text of a field cannot be read, there is a complaint about it. -/
theorem complains_of_check (nonempty : text ≠ "") (failed : field.check text = .error error) :
    ∃ fault, field.Complains text fault ∧ error = .invalidInput fault := by
  cases field with
  | search => cases failed
  | id =>
      rw [check, Except.discard_eq_error_iff] at failed
      obtain ⟨operator, rest, heads, failed⟩ := comparison_eq_error failed
      exact ⟨_, .id heads, integer_eq_error failed⟩
  | set =>
      rw [check, Except.discard_eq_error_iff] at failed
      obtain ⟨operator, rest, heads, failed⟩ := comparison_eq_error failed
      exact ⟨_, .set heads, integer_eq_error failed⟩
  | timestamp =>
      rw [check, Except.discard_eq_error_iff] at failed
      obtain ⟨operator, rest, heads, failed⟩ := comparison_eq_error failed
      exact ⟨_, .timestamp heads, timestamp_eq_error failed⟩
  | marked =>
      rw [check, Except.discard_eq_error_iff] at failed
      exact ⟨_, .marked text, boolean_eq_error failed⟩
  | order =>
      rw [check, Except.discard_eq_error_iff] at failed
      exact ⟨_, .order text, order_eq_error nonempty failed⟩
  | offset =>
      rw [check, Except.discard_eq_error_iff] at failed
      exact ⟨_, .offset text, offset_eq_error nonempty failed⟩

/-- The text of a field is complained about if it is not one that the field can have. -/
theorem check_eq_error_iff (nonempty : text ≠ "") :
    field.check text = .error error ↔
      ¬ field.Accepts text ∧ ∃ fault, field.Complains text fault ∧ error = .invalidInput fault := by
  constructor
  · intro failed
    refine ⟨?_, complains_of_check nonempty failed⟩
    intro accepts
    cases failed.symm.trans ((check_eq_ok_iff nonempty).mpr accepts)
  · rintro ⟨unaccepted, fault, complains, rfl⟩
    cases result : field.check text with
    | ok => exact absurd ((check_eq_ok_iff nonempty).mp result) unaccepted
    | error other =>
        obtain ⟨fault', complains', rfl⟩ := complains_of_check nonempty result
        rw [complains.unique complains']

end Field

end Listing

end Notebook
