import Notebook.Listing.Query
import Notebook.Proofs.Text.Utf8
import Notebook.Proofs.Time.Strict

/-!
# The plus sign of an offset

Form decoding leaves a blank where an unescaped plus sign stood. In a timestamp such a blank
can be told from all others by the hours and minutes behind it, up to the end of the text. The
strict reader accepts no text that ends like this, so putting the sign back changes none of the
texts that were readable already, and what is readable afterwards is RFC 3339 text but for this
one character (`plus_is_restored_exactly`).

The sign is also found by looking at the last six bytes only. The text is cut in front of them
and behind the first, and neither cut goes through a character, whatever the text is.
-/

namespace Notebook.Listing

open Notebook.Timestamp (HoursMinutes)

/-! ### Characters -/

/-- A blank in front of hours and minutes at the end is a plus sign. -/
theorem restorePlus_append {back : List Char} (shown : HoursMinutes back) (front : List Char) :
    restorePlus (front ++ ' ' :: back) = front ++ '+' :: back := by
  obtain ⟨digits⟩ := shown
  simp only [List.forall_mem_cons] at digits
  obtain ⟨h₁, h₂, m₁, m₂, _⟩ := digits
  simp [restorePlus, h₁, h₂, m₁, m₂]

/-- All other texts stay as they are. -/
theorem restorePlus_eq_self {cs : List Char}
    (apart : ∀ front back, cs = front ++ ' ' :: back → ¬ HoursMinutes back) :
    restorePlus cs = cs := by
  unfold restorePlus
  split
  next m₂ m₁ h₂ h₁ rest mirrored =>
    split
    next digits =>
      have whole : cs = rest.reverse ++ ' ' :: [h₁, h₂, ':', m₁, m₂] := by
        rw [← List.reverse_reverse cs, mirrored]
        simp
      refine absurd (.mk ?_) (apart _ _ whole)
      simp only [Bool.and_eq_true] at digits
      simp [digits]
    next => rfl
  next => rfl

/-! ### The timestamps that are read -/

/-- A text shows an instant if it is RFC 3339 text for it, or such text with a blank for a plus
sign. -/
inductive Shows (text : String) (time : Timestamp) : Prop
  | strictly (read : Timestamp.strict? text = some time)
  | blank {front back : String} (whole : text = front ++ " " ++ back)
      (read : Timestamp.strict? (front ++ "+" ++ back) = some time)

variable {text : String} {time : Timestamp}

/-- RFC 3339 text stays as it is. -/
theorem restorePlus_of_strict (read : Timestamp.strict? text = some time) :
    restorePlus text.toList = text.toList :=
  restorePlus_eq_self fun _ _ => Timestamp.not_hoursMinutes_of_strict read

/-- A blank becomes the plus sign that RFC 3339 text has in its place. -/
theorem restorePlus_of_strict_plus {front back : String}
    (read : Timestamp.strict? (front ++ "+" ++ back) = some time) :
    restorePlus (front ++ " " ++ back).toList = (front ++ "+" ++ back).toList := by
  have restored := restorePlus_append (Timestamp.hoursMinutes_of_strict read) front.toList
  simpa using restored

/-- A text has the sign put back and is read as RFC 3339 text exactly if it shows an instant. -/
theorem strict?_restorePlus_eq_some_iff :
    Timestamp.strict? (String.ofList (restorePlus text.toList)) = some time ↔ Shows text time := by
  constructor
  · intro read
    by_cases blank : ∃ front back, text.toList = front ++ ' ' :: back ∧ HoursMinutes back
    · obtain ⟨front, back, whole, shown⟩ := blank
      rw [whole, restorePlus_append shown] at read
      have same : text = String.ofList front ++ " " ++ String.ofList back := by
        simp [← String.toList_inj, whole]
      refine .blank same ?_
      have plus : String.ofList front ++ "+" ++ String.ofList back =
          String.ofList (front ++ '+' :: back) := by
        simp [← String.toList_inj]
      rwa [plus]
    · simp only [not_exists, not_and] at blank
      rw [restorePlus_eq_self blank, String.ofList_toList] at read
      exact .strictly read
  · intro shows
    cases shows with
    | strictly read => rwa [restorePlus_of_strict read, String.ofList_toList]
    | blank whole read => rwa [whole, restorePlus_of_strict_plus read, String.ofList_toList]

/-- A text that shows an instant has no blanks at its ends. -/
theorem Shows.tight (shows : Shows text time) : Text.Tight text.toList := by
  cases shows with
  | strictly read => exact Timestamp.tight_of_strict read
  | @blank front back whole read =>
      have shown := Timestamp.hoursMinutes_of_strict read
      obtain ⟨head, _⟩ := Timestamp.tight_of_strict read
      obtain ⟨first, body, written, split, digit, _⟩ := Timestamp.exists_zone_of_strict read
      rw [whole]
      simp only [String.toList_append, List.append_assoc] at head split ⊢
      generalize back.toList = ending at *
      cases start : front.toList with
      | nil =>
          rw [start] at split
          obtain ⟨rfl, _⟩ := List.cons.inj split
          cases digit
      | cons c rest =>
          rw [start] at head
          refine ⟨by simpa using head, ?_⟩
          obtain ⟨digits⟩ := shown
          intro last member
          cases member
          exact Text.isBlank_of_isDigit (digits _ (by simp))

/-- The instant that a field holds is the one that its text shows between blanks. -/
theorem timestamp_eq_ok_iff {field : String} {value : Value} :
    timestamp field text = .ok value ↔
      ∃ time, value = .timestamp time ∧ Shows (Text.trim text) time := by
  simp only [← strict?_restorePlus_eq_some_iff]
  unfold timestamp
  cases Timestamp.strict? (String.ofList (restorePlus (Text.trim text).toList)) <;> simp [eq_comm]

/-! ### Bytes -/

/-- The byte is a decimal digit. -/
def isDigitByte (byte : UInt8) : Bool :=
  0x30 ≤ byte && byte ≤ 0x39

/-- Puts the plus sign back by looking at the last six bytes only. There is no result if a cut
goes through a character or a byte is looked for that is not there. -/
def restorePlusBytes? (cs : List Char) : Option (List Char) :=
  let size := (Utf8.encode cs).length
  if size < 6 then some cs
  else
    match Utf8.cut? (size - 6) cs with
    -- The last six bytes begin inside a character, so they are no offset.
    | none => some cs
    | some (front, offset) =>
        match Utf8.encode offset with
        | [blank, h₁, h₂, colon, m₁, m₂] =>
            if blank == 0x20 && isDigitByte h₁ && isDigitByte h₂ && colon == 0x3A &&
                isDigitByte m₁ && isDigitByte m₂ then
              (Utf8.cut? (size - 6 + 1) cs).map fun (_, shown) => front ++ '+' :: shown
            else some cs
        | _ => none

/-- A digit is one byte. -/
theorem encodeChar_of_isDigit {c : Char} (digit : c.isDigit = true) :
    ∃ byte, String.utf8EncodeChar c = [byte] ∧ isDigitByte byte = true := by
  obtain ⟨lower, upper⟩ := Decimal.isDigit_iff_toNat.mp digit
  have number : (UInt8.ofNat c.toNat).toNat = c.toNat := by
    rw [UInt8.toNat_ofNat']
    exact Nat.mod_eq_of_lt (by omega)
  rcases Utf8.encodeChar_cases c with ⟨_, bytes⟩ | ⟨large, _⟩
  · refine ⟨_, bytes, ?_⟩
    simp only [isDigitByte, Bool.and_eq_true, decide_eq_true_eq, UInt8.le_iff_toNat_le, number]
    exact ⟨lower, upper⟩
  · omega

/-- A byte that is a digit stands for a digit. -/
theorem isDigit_of_isDigitByte {byte : UInt8} (digit : isDigitByte byte = true) :
    byte < 0x80 ∧ (Char.ofNat byte.toNat).isDigit = true := by
  simp only [isDigitByte, Bool.and_eq_true, decide_eq_true_eq, UInt8.le_iff_toNat_le] at digit
  obtain ⟨lower, upper⟩ : 0x30 ≤ byte.toNat ∧ byte.toNat ≤ 0x39 := digit
  have digits : ∀ n < 0x3A, 0x30 ≤ n → (Char.ofNat n).isDigit = true := by decide
  refine ⟨?_, digits byte.toNat (Nat.lt_succ_of_le upper) lower⟩
  rw [UInt8.lt_iff_toNat_lt]
  exact Nat.lt_of_le_of_lt upper (by decide)

/-- A blank in front of hours and minutes is found by its byte, and what is behind the blank is
cut off between two characters. -/
theorem restorePlusBytes?_append {back : List Char} (shown : HoursMinutes back)
    (front : List Char) :
    restorePlusBytes? (front ++ ' ' :: back) = some (front ++ '+' :: back) := by
  obtain @⟨h₁, h₂, m₁, m₂, digits⟩ := shown
  obtain ⟨hour, bytes₁, digit₁⟩ := encodeChar_of_isDigit (digits h₁ (by simp))
  obtain ⟨hour', bytes₂, digit₂⟩ := encodeChar_of_isDigit (digits h₂ (by simp))
  obtain ⟨minute, bytes₃, digit₃⟩ := encodeChar_of_isDigit (digits m₁ (by simp))
  obtain ⟨minute', bytes₄, digit₄⟩ := encodeChar_of_isDigit (digits m₂ (by simp))
  have blank : String.utf8EncodeChar ' ' = [0x20] := rfl
  have colon : String.utf8EncodeChar ':' = [0x3A] := rfl
  have offset : Utf8.encode (' ' :: [h₁, h₂, ':', m₁, m₂]) =
      [0x20, hour, hour', 0x3A, minute, minute'] := by
    simp [Utf8.encode, blank, colon, bytes₁, bytes₂, bytes₃, bytes₄]
  have size : (Utf8.encode (front ++ ' ' :: [h₁, h₂, ':', m₁, m₂])).length =
      (Utf8.encode front).length + 6 := by
    rw [Utf8.encode_append, offset, List.length_append]
    rfl
  have cut := Utf8.cut?_append front (' ' :: [h₁, h₂, ':', m₁, m₂])
  have behind := Utf8.cut?_append (front ++ [' ']) [h₁, h₂, ':', m₁, m₂]
  rw [Utf8.encode_append, List.length_append, List.append_assoc] at behind
  have next : (Utf8.encode [' ']).length = 1 := rfl
  rw [next, List.singleton_append] at behind
  simp only [restorePlusBytes?, size, Nat.not_lt.mpr (Nat.le_add_left 6 _), if_false,
    Nat.add_sub_cancel, cut, offset, digit₁, digit₂, digit₃, digit₄, behind]
  rfl

/-- Other texts stay as they are. -/
theorem restorePlusBytes?_eq_self {cs : List Char}
    (apart : ∀ front back, cs = front ++ ' ' :: back → ¬ HoursMinutes back) :
    restorePlusBytes? cs = some cs := by
  simp only [restorePlusBytes?]
  split
  next => rfl
  next large =>
    split
    next => rfl
    next front offset cut =>
      obtain ⟨whole, length⟩ := Utf8.cut?_eq_some_iff.mp cut
      split
      next blank h₁ h₂ colon m₁ m₂ bytes =>
        split
        next shown =>
          simp only [Bool.and_eq_true, beq_iff_eq] at shown
          obtain ⟨⟨⟨⟨⟨rfl, first⟩, second⟩, rfl⟩, third⟩, fourth⟩ := shown
          obtain ⟨ascii₁, digit₁⟩ := isDigit_of_isDigitByte first
          obtain ⟨ascii₂, digit₂⟩ := isDigit_of_isDigitByte second
          obtain ⟨ascii₃, digit₃⟩ := isDigit_of_isDigitByte third
          obtain ⟨ascii₄, digit₄⟩ := isDigit_of_isDigitByte fourth
          have characters := Utf8.eq_map_of_encode_ascii bytes
            (by simp [ascii₁, ascii₂, ascii₃, ascii₄])
          rw [characters] at whole
          exact absurd (.mk (by simp [digit₁, digit₂, digit₃, digit₄])) (apart _ _ whole)
        next => rfl
      next other =>
        -- What is left behind the cut are six bytes.
        have six : (Utf8.encode offset).length = 6 := by
          rw [whole, Utf8.encode_append, List.length_append] at length large
          omega
        generalize Utf8.encode offset = bytes at six other
        match bytes, six with
        | [b₁, b₂, b₃, b₄, b₅, b₆], _ => exact absurd rfl (other b₁ b₂ b₃ b₄ b₅ b₆)

/-- Looking at bytes finds the same sign as looking at characters. -/
theorem restorePlusBytes?_eq (cs : List Char) :
    restorePlusBytes? cs = some (restorePlus cs) := by
  by_cases blank : ∃ front back, cs = front ++ ' ' :: back ∧ HoursMinutes back
  · obtain ⟨front, back, rfl, shown⟩ := blank
    rw [restorePlusBytes?_append shown, restorePlus_append shown]
  · simp only [not_exists, not_and] at blank
    rw [restorePlusBytes?_eq_self blank, restorePlus_eq_self blank]

/-! ### Main statement -/

/-- Putting the plus sign back is exact. Where RFC 3339 text has a plus sign, it is read with a
blank in its place, and every RFC 3339 text is read as it is, both times as its own instant.
Nothing else is read, but for blanks around it. And the sign can be found in the last six
bytes without ever cutting through a character. -/
theorem plus_is_restored_exactly (field : String) :
    (∀ front back time, Timestamp.strict? (front ++ "+" ++ back) = some time →
      timestamp field (front ++ " " ++ back) = .ok (.timestamp time)) ∧
    (∀ text time, Timestamp.strict? text = some time →
      timestamp field text = .ok (.timestamp time)) ∧
    (∀ text value, timestamp field text = .ok value → ∃ time, value = .timestamp time ∧
      (Timestamp.strict? (Text.trim text) = some time ∨
        ∃ front back, Text.trim text = front ++ " " ++ back ∧
          Timestamp.strict? (front ++ "+" ++ back) = some time)) ∧
    ∀ cs, restorePlusBytes? cs = some (restorePlus cs) := by
  have readable {text : String} {time : Timestamp} (shows : Shows text time) :
      timestamp field text = .ok (.timestamp time) := by
    rw [timestamp_eq_ok_iff, Text.trim_eq_self shows.tight]
    exact ⟨time, rfl, shows⟩
  refine ⟨?_, ?_, ?_, restorePlusBytes?_eq⟩
  · intro front back time read
    exact readable (.blank rfl read)
  · intro text time read
    exact readable (.strictly read)
  · intro text value read
    obtain ⟨time, rfl, shows⟩ := timestamp_eq_ok_iff.mp read
    refine ⟨time, rfl, ?_⟩
    cases shows with
    | strictly read => exact .inl read
    | blank whole read => exact .inr ⟨_, _, whole, read⟩

/-- A plus sign that became a blank, with the date left of it as it was. -/
theorem plus_is_restored_exactly_two_hours :
    ∃ time, Timestamp.strict? "2024-01-01T00:00:00+02:00" = some time ∧
      timestamp "timestamp" "2024-01-01T00:00:00 02:00" = .ok (.timestamp time) ∧
      (time.date.year, time.hour) = (2023, 22) := by
  obtain ⟨time, read, clock⟩ : ∃ time, Timestamp.strict? "2024-01-01T00:00:00+02:00" = some time ∧
      (time.date.year, time.hour) = (2023, 22) := ⟨_, rfl, by decide⟩
  exact ⟨time, read,
    (plus_is_restored_exactly "timestamp").1 "2024-01-01T00:00:00" "02:00" time read, clock⟩

end Notebook.Listing
