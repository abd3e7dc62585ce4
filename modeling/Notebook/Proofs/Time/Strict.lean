import Notebook.Proofs.Time.Reading

/-!
# RFC 3339 text

The strict reader takes a text from its start to its end: the numbers of date and time with the
signs between them, and then a zone. So a plus sign can only stand in front of the hours and
minutes of an offset, where no blank can stand, and neither end of the text is a blank.

A timestamp of the years 0 to 9999 is read back from its printed form, but for a leap second
that is not at the end of a minute.
-/

namespace Notebook.Timestamp

/-! ### What the readers take -/

/-- The characters of date and time. -/
def IsClockChar (c : Char) : Prop :=
  c.isDigit = true ∨ c = '-' ∨ c = ':' ∨ c = '.' ∨ c = 'T' ∨ c = 't' ∨ c = ' '

/-- The rest is left over when some characters of date and time are taken. -/
def Leaves (cs rest : List Char) : Prop :=
  ∃ taken, cs = taken ++ rest ∧ ∀ c ∈ taken, IsClockChar c

/-- Hours and minutes of an offset, as they are written. -/
inductive HoursMinutes : (cs : List Char) → Prop
  | mk {h₁ h₂ m₁ m₂ : Char} (digits : ∀ c ∈ [h₁, h₂, m₁, m₂], c.isDigit = true) :
      HoursMinutes [h₁, h₂, ':', m₁, m₂]

/-- A zone as it is written: universal time, or an offset behind its sign. -/
inductive ZoneText : (cs : List Char) → Prop
  | universal {c : Char} (letter : c = 'Z' ∨ c = 'z') : ZoneText [c]
  | offset {sign : Char} {cs : List Char} (signed : sign = '+' ∨ sign = '-' ∨ sign = '\u2212')
      (shown : HoursMinutes cs) : ZoneText (sign :: cs)

variable {cs middle rest : List Char}

/-- What two readers take one after the other is taken by both. -/
theorem Leaves.trans (first : Leaves cs middle) (second : Leaves middle rest) :
    Leaves cs rest := by
  obtain ⟨front, rfl, clock⟩ := first
  obtain ⟨back, rfl, clock'⟩ := second
  refine ⟨front ++ back, (List.append_assoc ..).symm, ?_⟩
  intro c member
  exact (List.mem_append.mp member).elim (clock c) (clock' c)

/-- One character of date and time is taken. -/
theorem Leaves.cons {c : Char} (clock : IsClockChar c) : Leaves (c :: rest) rest :=
  ⟨[c], rfl, by simpa using clock⟩

/-- A number is a run of digits with as many as are wanted. -/
theorem number_eq_some {least most n : Nat} (read : number least most cs = some (n, rest)) :
    ∃ run, cs = run ++ rest ∧ (∀ c ∈ run, c.isDigit = true) ∧
      least ≤ run.length ∧ run.length ≤ most := by
  unfold number at read
  rw [Option.ite_none_right_eq_some, Option.some.injEq, Prod.mk.injEq] at read
  obtain ⟨enough, _, rfl⟩ := read
  refine ⟨(cs.take most).takeWhile Char.isDigit, ?_, fun c => List.mem_takeWhile_imp, enough, ?_⟩
  · have front : (cs.take most).takeWhile Char.isDigit <+: cs :=
      (List.takeWhile_prefix _).trans (List.take_prefix _ _)
    exact (List.prefix_iff_eq_append.mp front).symm
  · exact (List.takeWhile_prefix _).length_le.trans (List.length_take_le _ _)

/-- A number takes digits. -/
theorem leaves_of_number {least most n : Nat} (read : number least most cs = some (n, rest)) :
    Leaves cs rest := by
  obtain ⟨run, rfl, digits, _⟩ := number_eq_some read
  exact ⟨run, rfl, fun c member => .inl (digits c member)⟩

/-- One character is read if the text begins with it. -/
theorem exactly_eq_some_iff {c : Char} : exactly c cs = some rest ↔ cs = c :: rest := by
  cases cs with
  | nil => simp [exactly]
  | cons first others =>
      rw [exactly, Option.ite_none_right_eq_some, Option.some.injEq, List.cons.injEq]

/-- A sign between numbers is taken. -/
theorem leaves_of_exactly {c : Char} (clock : IsClockChar c)
    (read : exactly c cs = some rest) : Leaves cs rest := by
  rw [exactly_eq_some_iff.mp read]
  exact .cons clock

/-- The character between date and time is taken. -/
theorem leaves_of_separator (read : separator cs = some rest) : Leaves cs rest := by
  cases cs with
  | nil => cases read
  | cons first others =>
      rw [separator, Option.ite_none_right_eq_some, Option.some.injEq] at read
      obtain ⟨rfl | rfl | rfl, rfl⟩ := read
      all_goals exact .cons (by simp [IsClockChar])

/-- A fraction takes a point and digits, or nothing. -/
theorem leaves_of_fraction {n : Nat} (read : fraction cs = some (n, rest)) : Leaves cs rest := by
  unfold fraction at read
  split at read
  next behind =>
    rw [Option.ite_none_left_eq_some, Option.some.injEq, Prod.mk.injEq] at read
    obtain ⟨_, _, rfl⟩ := read
    have point : Leaves ('.' :: behind) behind := .cons (by simp [IsClockChar])
    refine point.trans ⟨behind.takeWhile Char.isDigit, ?_, ?_⟩
    · exact (List.prefix_iff_eq_append.mp (List.takeWhile_prefix _)).symm
    · exact fun c member => .inl (List.mem_takeWhile_imp member)
  next =>
    cases read
    exact ⟨[], rfl, by simp⟩

/-- A number of two digits takes two. -/
theorem number_two_eq_some {n : Nat} (read : number 2 2 cs = some (n, rest)) :
    ∃ first second, cs = first :: second :: rest ∧
      (first.isDigit = true ∧ second.isDigit = true) := by
  obtain ⟨run, rfl, digits, least, most⟩ := number_eq_some read
  obtain ⟨first, second, rfl⟩ := List.length_eq_two.mp (Nat.le_antisymm most least)
  exact ⟨first, second, rfl, digits first (by simp), digits second (by simp)⟩

/-- Behind the sign of an offset are hours and minutes. -/
theorem exists_hoursMinutes {sign n : Int}
    (read : (do
      let (hours, rest) ← number 2 2 cs
      let rest ← exactly ':' rest
      let (minutes, rest) ← number 2 2 rest
      if minutes < 60 then some (sign * (hours * 60 + minutes : Nat), rest) else none) =
        some (n, rest)) :
    ∃ shown, cs = shown ++ rest ∧ HoursMinutes shown := by
  simp only [Option.bind_eq_bind, Option.bind_eq_some_iff] at read
  obtain ⟨⟨hours, behind⟩, readHours, between, colon, ⟨minutes, last⟩, readMinutes, ends⟩ := read
  rw [Option.ite_none_right_eq_some, Option.some.injEq, Prod.mk.injEq] at ends
  obtain ⟨_, _, rfl⟩ := ends
  obtain ⟨h₁, h₂, rfl, digits⟩ := number_two_eq_some readHours
  obtain rfl := exactly_eq_some_iff.mp colon
  obtain ⟨m₁, m₂, rfl, digits'⟩ := number_two_eq_some readMinutes
  exact ⟨[h₁, h₂, ':', m₁, m₂], rfl, .mk (by simp [digits, digits'])⟩

/-- A zone takes what is written for one. -/
theorem zone_eq_some {n : Int} (read : zone (exactly ':') cs = some (n, rest)) :
    ∃ written, cs = written ++ rest ∧ ZoneText written := by
  cases cs with
  | nil => cases read
  | cons first others =>
      by_cases letter : first = 'Z' ∨ first = 'z'
      · rw [zone, if_pos letter] at read
        cases read
        exact ⟨[first], rfl, .universal letter⟩
      · rw [zone, if_neg letter] at read
        by_cases plus : first = '+'
        · rw [if_pos plus] at read
          obtain ⟨shown, rfl, numbers⟩ := exists_hoursMinutes read
          exact ⟨first :: shown, rfl, .offset (.inl plus) numbers⟩
        · rw [if_neg plus] at read
          by_cases minus : first = '-' ∨ first = '\u2212'
          · rw [if_pos minus] at read
            obtain ⟨shown, rfl, numbers⟩ := exists_hoursMinutes read
            exact ⟨first :: shown, rfl, .offset (.inr minus) numbers⟩
          · rw [if_neg minus] at read
            cases read

/-! ### What the strict reader accepts -/

/-- An RFC 3339 text begins with a digit and ends in a zone, and in front of the zone are
characters of date and time. -/
theorem exists_zone_of_strict {text : String} {time : Timestamp}
    (read : strict? text = some time) :
    ∃ first front written, text.toList = first :: front ++ written ∧ first.isDigit = true ∧
      (∀ c ∈ first :: front, IsClockChar c) ∧ ZoneText written := by
  obtain ⟨fields, read, _⟩ := Option.bind_eq_some_iff.mp read
  obtain ⟨⟨year, cs₁⟩, readYear, read⟩ := Option.bind_eq_some_iff.mp read
  obtain ⟨cs₂, hyphen, read⟩ := Option.bind_eq_some_iff.mp read
  obtain ⟨⟨month, cs₃⟩, readMonth, read⟩ := Option.bind_eq_some_iff.mp read
  obtain ⟨cs₄, hyphen', read⟩ := Option.bind_eq_some_iff.mp read
  obtain ⟨⟨day, cs₅⟩, readDay, read⟩ := Option.bind_eq_some_iff.mp read
  obtain ⟨cs₆, letter, read⟩ := Option.bind_eq_some_iff.mp read
  obtain ⟨⟨hour, cs₇⟩, readHour, read⟩ := Option.bind_eq_some_iff.mp read
  obtain ⟨cs₈, colon, read⟩ := Option.bind_eq_some_iff.mp read
  obtain ⟨⟨minute, cs₉⟩, readMinute, read⟩ := Option.bind_eq_some_iff.mp read
  obtain ⟨cs₁₀, colon', read⟩ := Option.bind_eq_some_iff.mp read
  obtain ⟨⟨second, cs₁₁⟩, readSecond, read⟩ := Option.bind_eq_some_iff.mp read
  obtain ⟨⟨nanosecond, cs₁₂⟩, readFraction, read⟩ := Option.bind_eq_some_iff.mp read
  obtain ⟨⟨offset, cs₁₃⟩, readZone, ends⟩ := Option.bind_eq_some_iff.mp read
  have hyphenClock : IsClockChar '-' := by simp [IsClockChar]
  have colonClock : IsClockChar ':' := by simp [IsClockChar]
  have taken : Leaves cs₁ cs₁₂ :=
    (leaves_of_exactly hyphenClock hyphen).trans <| (leaves_of_number readMonth).trans <|
    (leaves_of_exactly hyphenClock hyphen').trans <| (leaves_of_number readDay).trans <|
    (leaves_of_separator letter).trans <| (leaves_of_number readHour).trans <|
    (leaves_of_exactly colonClock colon).trans <| (leaves_of_number readMinute).trans <|
    (leaves_of_exactly colonClock colon').trans <| (leaves_of_number readSecond).trans <|
    leaves_of_fraction readFraction
  obtain ⟨run, whole, digits, four, _⟩ := number_eq_some readYear
  obtain ⟨front, rfl, clock⟩ := taken
  obtain ⟨written, rfl, zoned⟩ := zone_eq_some readZone
  rw [Option.ite_none_right_eq_some, List.isEmpty_iff] at ends
  obtain ⟨rfl, _⟩ := ends
  cases run with
  | nil => simp at four
  | cons first run =>
      refine ⟨first, run ++ front, written, ?_, digits first (by simp), ?_, zoned⟩
      · simpa using whole
      · intro c member
        rw [← List.cons_append, List.mem_append] at member
        exact member.elim (fun digit => .inl (digits c digit)) (clock c)

/-- There is no plus sign in hours and minutes. -/
theorem HoursMinutes.plus_not_mem (shown : HoursMinutes cs) : '+' ∉ cs := by
  obtain ⟨digits⟩ := shown
  intro member
  have digit : '+'.isDigit = true := digits '+' (by simpa using member)
  cases digit

/-- A plus sign in a zone is the sign of an offset. -/
theorem ZoneText.hoursMinutes_of_plus {front back : List Char}
    (zoned : ZoneText (front ++ '+' :: back)) : HoursMinutes back := by
  generalize whole : front ++ '+' :: back = written at zoned
  cases zoned with
  | universal letter =>
      cases front with
      | nil =>
          cases whole
          simp at letter
      | cons c others => simp at whole
  | offset signed shown =>
      cases front with
      | nil =>
          cases whole
          exact shown
      | cons c others =>
          cases whole
          exact absurd (by simp) shown.plus_not_mem

/-- Behind a plus sign in RFC 3339 text are the hours and minutes of an offset. -/
theorem hoursMinutes_of_strict {front back : String} {time : Timestamp}
    (read : strict? (front ++ "+" ++ back) = some time) : HoursMinutes back.toList := by
  obtain ⟨first, body, written, whole, _, clock, zoned⟩ := exists_zone_of_strict read
  have apart : '+' ∉ first :: body := fun member =>
    absurd (clock '+' member) (by simp [IsClockChar])
  have plus : "+".toList = ['+'] := rfl
  rw [String.toList_append, String.toList_append, plus, List.append_assoc,
    List.singleton_append] at whole
  rcases List.append_eq_append_iff.mp whole with ⟨inside, same, rest⟩ | ⟨inside, _, rest⟩
  · cases inside with
    | nil =>
        rw [List.nil_append] at rest
        have signed : ZoneText ([] ++ '+' :: back.toList) := rest ▸ zoned
        exact signed.hoursMinutes_of_plus
    | cons c others =>
        obtain ⟨rfl, _⟩ := List.cons.inj rest
        exact absurd (by simp [same]) apart
  · rw [rest] at zoned
    exact zoned.hoursMinutes_of_plus

variable {text : String} {time : Timestamp}

/-- No blank stands in front of the hours and minutes in RFC 3339 text. -/
theorem not_hoursMinutes_of_strict (read : strict? text = some time) {front back : List Char}
    (whole : text.toList = front ++ ' ' :: back) : ¬ HoursMinutes back := by
  intro shown
  obtain ⟨first, body, written, split, _, _, zoned⟩ := exists_zone_of_strict read
  rw [whole] at split
  obtain @⟨h₁, h₂, m₁, m₂, digits⟩ := shown
  cases zoned with
  | @universal c letter =>
      have ends : (front ++ [' ', h₁, h₂, ':', m₁]) ++ [m₂] = (first :: body) ++ [c] := by
        simpa using split
      obtain ⟨_, same⟩ := List.append_inj' ends rfl
      have digit : c.isDigit = true := by
        rw [← List.singleton_inj.mp same]
        exact digits m₂ (by simp)
      rcases letter with rfl | rfl <;> cases digit
  | @offset sign cs signed shown' =>
      obtain ⟨_⟩ := shown'
      obtain ⟨_, same⟩ := List.append_inj' split rfl
      obtain ⟨rfl, _⟩ := List.cons.inj same
      simp at signed

/-- RFC 3339 text has no blanks to trim. -/
theorem tight_of_strict (read : strict? text = some time) : Text.Tight text.toList := by
  obtain ⟨first, front, written, whole, digit, _, zoned⟩ := exists_zone_of_strict read
  rw [whole]
  refine ⟨by simpa using Text.isBlank_of_isDigit digit, ?_⟩
  cases zoned with
  | @universal c letter =>
      rw [List.getLast?_append]
      intro final last
      cases last
      rcases letter with rfl | rfl <;> decide
  | offset _ shown =>
      obtain ⟨digits⟩ := shown
      rw [List.getLast?_append]
      intro c last
      cases last
      exact Text.isBlank_of_isDigit (digits _ (by simp))

/-! ### What is printed is RFC 3339 text -/

/-- A printed month, day, hour, minute or second is read back. -/
theorem number_two_padded {n : Nat} (fits : n < 100) (rest : List Char) :
    number 2 2 (Decimal.padded 2 n ++ rest) = some (n, rest) :=
  number_padded (by decide) (by decide) fits rest

/-- A printed year of four digits is read back. -/
theorem number_yearText {year : Int} (first : 0 ≤ year) (last : year ≤ 9999)
    (rest : List Char) : number 4 4 (yearText year ++ rest) = some (year.toNat, rest) := by
  have fits : year.natAbs < Nat.pow 10 4 := by
    rw [Nat.pow_eq]
    omega
  have value : year.natAbs = year.toNat := by omega
  rw [yearText, if_pos ⟨first, last⟩, number_padded (by decide) (by decide) fits, value]

/-- The strict reader finds the fields that were printed, in the years that have four
digits. -/
theorem strictFields?_chars (time : Timestamp) (first : 0 ≤ time.date.year)
    (last : time.date.year ≤ 9999) : strictFields? time.chars = some time.fields := by
  have month := time.date.month_bounds
  have day := time.date.day_le
  have hour := time.hour.isLt
  have minute := time.minute.isLt
  have second := time.shownSecond_le
  have sign (c : Char) (rest : List Char) : exactly c (c :: rest) = some rest :=
    exactly_eq_some_iff.mpr rfl
  have letter (rest : List Char) : separator ('T' :: rest) = some rest := rfl
  have fraction := fraction_fractionText time.shownNanosecond_lt []
  have ends : zone (exactly ':') ['Z'] = some (0, []) := by decide
  have year : ((time.date.year.toNat : Nat) : Int) = time.date.year := Int.toNat_of_nonneg first
  simp only [chars, List.append_assoc, List.cons_append]
  refine Option.bind_eq_some_iff.mpr ⟨_, number_yearText first last _, ?_⟩
  refine Option.bind_eq_some_iff.mpr ⟨_, sign '-' _, ?_⟩
  refine Option.bind_eq_some_iff.mpr ⟨_, number_two_padded (by omega) _, ?_⟩
  refine Option.bind_eq_some_iff.mpr ⟨_, sign '-' _, ?_⟩
  refine Option.bind_eq_some_iff.mpr ⟨_, number_two_padded (by omega) _, ?_⟩
  refine Option.bind_eq_some_iff.mpr ⟨_, letter _, ?_⟩
  refine Option.bind_eq_some_iff.mpr ⟨_, number_two_padded (by omega) _, ?_⟩
  refine Option.bind_eq_some_iff.mpr ⟨_, sign ':' _, ?_⟩
  refine Option.bind_eq_some_iff.mpr ⟨_, number_two_padded (by omega) _, ?_⟩
  refine Option.bind_eq_some_iff.mpr ⟨_, sign ':' _, ?_⟩
  refine Option.bind_eq_some_iff.mpr ⟨_, number_two_padded (by omega) _, ?_⟩
  refine Option.bind_eq_some_iff.mpr ⟨_, fraction, ?_⟩
  refine Option.bind_eq_some_iff.mpr ⟨_, ends, ?_⟩
  simp only [year]
  rfl

/-- What is read from the printed form of a timestamp of the years 0 to 9999 is the timestamp
settled. -/
theorem strict?_text (time : Timestamp) (first : 0 ≤ time.date.year)
    (last : time.date.year ≤ 9999) : strict? time.text = some time.settled := by
  rw [strict?, text, String.toList_ofList, strictFields?_chars time first last]
  exact timestamp?_fields time

end Notebook.Timestamp
