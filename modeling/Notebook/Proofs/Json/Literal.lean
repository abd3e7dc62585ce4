import Notebook.Json.Basic
import Notebook.Json.Token
import Notebook.Proofs.Text.Decimal
import Notebook.Proofs.Text.Numeral

/-!
# JSON strings and numbers

What JSON strings and numbers look like, and that they are read as what they stand for. The
characters of a string may be written in several ways: as themselves, behind a backslash, or by
the digits of their code units, which for most characters is one and for the others a pair. A
number has a whole part without superfluous zeros, and at most one fraction and one exponent.
-/

namespace Notebook.Json

/-! ### Strings -/

/-- The letters behind a backslash and the characters that they stand for. -/
def escapes : List (Char × Char) :=
  [('"', '"'), ('\\', '\\'), ('/', '/'), ('b', '\x08'), ('f', '\x0c'), ('n', '\n'), ('r', '\r'),
    ('t', '\t')]

/-- The character is the hexadecimal digit of a number, in lower or in upper case. -/
def IsHexDigit (n : Nat) (c : Char) : Prop :=
  n < 16 ∧ (c = hexDigit n ∨ c = (hexDigit n).toUpper)

/-- The text names a code unit by four hexadecimal digits. -/
inductive HexText : Nat → List Char → Prop
  | digits {first second third last : Nat} {a b c d : Char} (isFirst : IsHexDigit first a)
      (isSecond : IsHexDigit second b) (isThird : IsHexDigit third c)
      (isLast : IsHexDigit last d) :
      HexText (16 * (16 * (16 * first + second) + third) + last) ['\\', 'u', a, b, c, d]

/-- The text is one unit of a string. -/
inductive UnitText : Nat → List Char → Prop
  | plain {c : Char} (printable : ¬ c.toNat < 0x20) (quote : c ≠ '"') (backslash : c ≠ '\\') :
      UnitText c.toNat [c]
  | short {letter c : Char} (escape : (letter, c) ∈ escapes) : UnitText c.toNat ['\\', letter]
  | hex {unit : Nat} {text : List Char} (hex : HexText unit text) : UnitText unit text

/-- The text is the units of a string one after the other. -/
inductive UnitsText : List Nat → List Char → Prop
  | nil : UnitsText [] []
  | cons {unit : Nat} {units : List Nat} {text more : List Char} (first : UnitText unit text)
      (later : UnitsText units more) : UnitsText (unit :: units) (text ++ more)

/-- The text stands for a character in a string. -/
inductive CharText : Char → List Char → Prop
  | unit {c : Char} {text : List Char} (unit : UnitText c.toNat text) : CharText c text
  /-- A character behind the first `2 ^ 16` is a pair of surrogates. -/
  | pair {c : Char} {high low : Nat} {text more : List Char} (first : HexText (0xD800 + high) text)
      (second : HexText (0xDC00 + low) more) (highSize : high < 0x400) (lowSize : low < 0x400)
      (joined : c.toNat = 0x10000 + high * 0x400 + low) : CharText c (text ++ more)

/-- The text stands for these characters between the quotes of a string. -/
inductive StringText : List Char → List Char → Prop
  | nil : StringText [] []
  | cons {c : Char} {cs text more : List Char} (first : CharText c text)
      (later : StringText cs more) : StringText (c :: cs) (text ++ more)

/-! ### Reading strings -/

/-- One more unit in front of what a string spells. -/
def addUnit (unit : Nat) (spelt : List Nat × List Char) : List Nat × List Char :=
  (unit :: spelt.1, spelt.2)

/-- A hexadecimal digit has its value. -/
theorem IsHexDigit.digit? {n : Nat} {c : Char} (digit : IsHexDigit n c) :
    Hexadecimal.digit? c = some n := by
  have values : ∀ n < 16, Hexadecimal.digit? (hexDigit n) = some n ∧
      Hexadecimal.digit? (hexDigit n).toUpper = some n := by
    decide
  obtain ⟨small, rfl | rfl⟩ := digit
  · exact (values n small).1
  · exact (values n small).2

/-- Four hexadecimal digits have their value to the base sixteen. -/
theorem hexUnit?_digits {first second third last : Nat} {a b c d : Char}
    (isFirst : IsHexDigit first a) (isSecond : IsHexDigit second b) (isThird : IsHexDigit third c)
    (isLast : IsHexDigit last d) :
    hexUnit? a b c d = some (16 * (16 * (16 * first + second) + third) + last) := by
  simp [hexUnit?, Hexadecimal.valueInBase?, isFirst.digit?, isSecond.digit?, isThird.digit?,
    isLast.digit?, isFirst.1, isSecond.1, isThird.1, isLast.1]

/-- A unit is read from its digits. -/
theorem units?_hex {unit : Nat} {text : List Char} (hex : HexText unit text) (rest : List Char) :
    units? (text ++ rest) = (units? rest).map (addUnit unit) := by
  cases hex with
  | digits isFirst isSecond isThird isLast =>
      have named := hexUnit?_digits isFirst isSecond isThird isLast
      simp only [List.cons_append, List.nil_append, units?, named]
      cases units? rest <;> rfl

/-- A one-letter escape is read as the character it stands for. -/
theorem units?_short {letter c : Char} (escape : (letter, c) ∈ escapes) (rest : List Char) :
    units? ('\\' :: letter :: rest) = (units? rest).map (addUnit c.toNat) := by
  have named : escaped? letter = some c := by
    have all : ∀ escape ∈ escapes, escaped? escape.1 = some escape.2 := by decide
    exact all (letter, c) escape
  have noUnit : letter ≠ 'u' := by
    rintro rfl
    cases named
  rw [units?.eq_def]
  split
  case h_4 same =>
    obtain ⟨-, rfl, rfl⟩ : '\\' = '\\' ∧ _ ∧ _ := by simpa using same
    rw [named]
    cases units? rest <;> rfl
  case h_5 noEscape same =>
    obtain ⟨rfl, rfl⟩ := List.cons.inj same
    exact absurd rfl (noEscape letter rest rfl)
  all_goals simp_all

/-- A character that needs no escape is read as itself. -/
theorem units?_plain {c : Char} (printable : ¬ c.toNat < 0x20) (quote : c ≠ '"')
    (backslash : c ≠ '\\') (rest : List Char) :
    units? (c :: rest) = (units? rest).map (addUnit c.toNat) := by
  rw [units?.eq_def]
  split
  case h_5 same =>
    obtain ⟨rfl, rfl⟩ := List.cons.inj same
    rw [if_neg (by simp [printable, backslash])]
    cases units? rest <;> rfl
  all_goals simp_all

/-- A string is read as its units, up to its closing quote. -/
theorem UnitsText.read {units : List Nat} {text : List Char} (spells : UnitsText units text)
    (rest : List Char) : units? (text ++ '"' :: rest) = some (units, rest) := by
  induction spells with
  | nil => rfl
  | cons first later inductionHypothesis =>
      rw [List.append_assoc]
      cases first with
      | plain printable quote backslash =>
          rw [List.singleton_append, units?_plain printable quote backslash, inductionHypothesis]
          rfl
      | short escape =>
          rw [List.cons_append, List.singleton_append, units?_short escape, inductionHypothesis]
          rfl
      | hex hex =>
          rw [units?_hex hex, inductionHypothesis]
          rfl

/-- A character is no half of a surrogate pair. -/
theorem not_surrogate (c : Char) :
    isHighSurrogate c.toNat = false ∧ isLowSurrogate c.toNat = false := by
  have valid : c.toNat < 0xD800 ∨ 0xDFFF < c.toNat ∧ c.toNat < 0x110000 := c.valid
  simp only [isHighSurrogate, isLowSurrogate, Bool.and_eq_false_iff, decide_eq_false_iff_not]
  omega

/-- A character stands for itself among the units of a text. -/
theorem joinUnits?_cons (c : Char) (units : List Nat) :
    joinUnits? (c.toNat :: units) = (joinUnits? units).map (c :: ·) := by
  obtain ⟨high, low⟩ := not_surrogate c
  cases units with
  | nil => simp [joinUnits?, high, low, Char.ofNat_toNat]
  | cons next units => simp [joinUnits?, high, low, Char.ofNat_toNat]

/-- A pair of surrogates stands for one character. -/
theorem joinUnits?_pair {c : Char} {high low : Nat} (highSize : high < 0x400)
    (lowSize : low < 0x400) (joined : c.toNat = 0x10000 + high * 0x400 + low)
    (units : List Nat) :
    joinUnits? ((0xD800 + high) :: (0xDC00 + low) :: units) =
      (joinUnits? units).map (c :: ·) := by
  have isHigh : isHighSurrogate (0xD800 + high) = true := by
    simp only [isHighSurrogate, Bool.and_eq_true, decide_eq_true_eq]
    omega
  have isLow : isLowSurrogate (0xDC00 + low) = true := by
    simp only [isLowSurrogate, Bool.and_eq_true, decide_eq_true_eq]
    omega
  have value : Char.ofNat (0x10000 + high * 0x400 + low) = c := by
    rw [← joined, Char.ofNat_toNat]
  simp only [joinUnits?, isHigh, isLow, if_true, Nat.add_sub_cancel_left, value]

/-- A string has units that are joined to its characters. -/
theorem StringText.exists_units {cs text : List Char} (spells : StringText cs text) :
    ∃ units, UnitsText units text ∧ joinUnits? units = some cs := by
  induction spells with
  | nil => exact ⟨[], .nil, rfl⟩
  | cons first later inductionHypothesis =>
      obtain ⟨units, more, joins⟩ := inductionHypothesis
      cases first with
      | unit unit =>
          refine ⟨_, .cons unit more, ?_⟩
          rw [joinUnits?_cons, joins]
          rfl
      | pair first second highSize lowSize joined =>
          rw [List.append_assoc]
          refine ⟨_, .cons (.hex first) (.cons (.hex second) more), ?_⟩
          rw [joinUnits?_pair highSize lowSize joined, joins]
          rfl

/-- A string is read as the token of its units joined. -/
theorem token?_units {units : List Nat} {text : List Char} (spells : UnitsText units text)
    (rest : List Char) :
    token? ('"' :: text ++ '"' :: rest) =
      some (.text ((joinUnits? units).map String.ofList), rest) := by
  simp only [List.cons_append, token?, spells.read rest, Option.map_some]

/-! ### Writing strings -/

/-- A character is written as one unit. -/
theorem unitText_escapeChar (c : Char) : UnitText c.toNat (escapeChar c) := by
  unfold escapeChar
  split
  case h_8 quote backslash _ _ _ _ _ =>
    split
    case isTrue control =>
      have high : c.toNat / 16 < 16 := by omega
      have low : c.toNat % 16 < 16 := by omega
      have value : 16 * (16 * (16 * 0 + 0) + c.toNat / 16) + c.toNat % 16 = c.toNat := by omega
      have hex : HexText (16 * (16 * (16 * 0 + 0) + c.toNat / 16) + c.toNat % 16) _ :=
        .digits ⟨by decide, .inl rfl⟩ ⟨by decide, .inl rfl⟩ ⟨high, .inl rfl⟩ ⟨low, .inl rfl⟩
      rw [value] at hex
      exact .hex hex
    case isFalse printable => exact .plain printable quote backslash
  all_goals exact .short (by decide)

/-- A written text stands for its characters. -/
theorem stringText_escape (cs : List Char) : StringText cs (cs.flatMap escapeChar) := by
  induction cs with
  | nil => exact .nil
  | cons c cs inductionHypothesis =>
      rw [List.flatMap_cons]
      exact .cons (.unit (unitText_escapeChar c)) inductionHypothesis

/-! ### Numbers -/

/-- The text is the digits of a whole part, which starts with a zero only if it is zero. -/
structure WholeText (digits : List Char) : Prop where
  run : Decimal.Run digits
  tight : digits.head? = some '0' → digits = ['0']

/-- The text is a fraction with these digits, or there is none. -/
inductive FractionText : Option (List Char) → List Char → Prop
  | absent : FractionText none []
  | present {digits : List Char} (run : Decimal.Run digits) :
      FractionText (some digits) ('.' :: digits)

/-- The text is this exponent, or there is none. -/
inductive ExponentText : Option Int → List Char → Prop
  | absent : ExponentText none []
  | present {letter : Char} {digits : List Char} {n : Int}
      (isLetter : letter = 'e' ∨ letter = 'E') (numeral : Decimal.Signed digits n) :
      ExponentText (some n) (letter :: digits)

/-- What a number with these parts is to a reader of integers. -/
def Number.ofParts (negative : Bool) (whole : List Char) (fraction : Option (List Char))
    (exponent : Option Int) : Number :=
  if overflows (whole ++ fraction.getD []) (exponent.getD 0 - (fraction.getD []).length) then
    .tooLarge
  else if fraction.isSome || exponent.isSome then .real
  else if negative then
    if Decimal.value whole = 0 then .real else .integer (-(Decimal.value whole : Int))
  else .integer (Decimal.value whole)

/-- The text is a number. -/
inductive NumberText : Number → List Char → Prop
  | parts (negative : Bool) {whole text more : List Char} {fraction : Option (List Char)}
      {exponent : Option Int} (isWhole : WholeText whole)
      (isFraction : FractionText fraction text) (isExponent : ExponentText exponent more) :
      NumberText (.ofParts negative whole fraction exponent)
        ((if negative then ['-'] else []) ++ (whole ++ (text ++ more)))

/-! ### Reading numbers -/

/-- The text does not go on with a number in front of it. -/
def Apart (text : List Char) : Prop :=
  ∀ c ∈ text.head?, c.isDigit = false ∧ c ≠ '.' ∧ c ≠ 'e' ∧ c ≠ 'E'

/-- The end of a text is apart from what is in front of it. -/
theorem Apart.nil : Apart [] := by
  simp [Apart]

/-- What is apart stays so with something behind it. -/
theorem Apart.append {text rest : List Char} (front : Apart text) (back : Apart rest) :
    Apart (text ++ rest) := by
  cases text with
  | nil => exact back
  | cons c text => exact front

variable {digits text rest : List Char}

/-- A run of digits is read up to where it ends. -/
theorem digitRun_append (run : Decimal.Run digits) (ends : ∀ c ∈ rest.head?, c.isDigit = false) :
    digitRun (digits ++ rest) = (digits, rest) := by
  rw [digitRun, Decimal.takeWhile_isDigit_append run.digitsOnly ends,
    Decimal.dropWhile_isDigit_append run.digitsOnly ends]

/-- A whole part is read up to where its digits end. -/
theorem WholeText.read (whole : WholeText digits) (ends : ∀ c ∈ rest.head?, c.isDigit = false) :
    wholePart? (digits ++ rest) = some (digits, rest) := by
  rw [wholePart?, digitRun_append whole.run ends]
  split
  case h_1 none => exact absurd (Prod.mk.inj none).1 whole.run.filled
  case h_2 zero =>
    have digits := (Prod.mk.inj zero).1
    have alone := whole.tight (by rw [digits]; rfl)
    rw [digits] at alone
    cases alone
  case h_3 same =>
    obtain ⟨rfl, rfl⟩ := Prod.mk.inj same
    rfl

/-- A fraction is read up to where its digits end, and none where there is no point. -/
theorem FractionText.read {fraction : Option (List Char)} (isFraction : FractionText fraction text)
    (ends : ∀ c ∈ rest.head?, c.isDigit = false ∧ c ≠ '.') :
    fractionPart? (text ++ rest) = some (fraction, rest) := by
  cases isFraction with
  | absent =>
      rw [List.nil_append]
      unfold fractionPart?
      split
      case h_1 => exact absurd rfl (ends '.' rfl).2
      case h_2 => rfl
  | present run =>
      rw [List.cons_append, fractionPart?, digitRun_append run fun c first => (ends c first).1]
      split
      case h_1 none => exact absurd (Prod.mk.inj none).1 run.filled
      case h_2 same =>
        obtain ⟨rfl, rfl⟩ := Prod.mk.inj same
        rfl

/-- The digits of an exponent are read up to where they end, with the sign in front of them. -/
theorem signedRun?_append {n : Int} (numeral : Decimal.Signed digits n)
    (ends : ∀ c ∈ rest.head?, c.isDigit = false) :
    signedRun? (digits ++ rest) = some (n, rest) := by
  cases numeral with
  | @minus run isRun =>
      have split := digitRun_append isRun ends
      obtain ⟨first, more, rfl⟩ := List.exists_cons_of_ne_nil isRun.filled
      simp only [List.cons_append] at split ⊢
      simp only [signedRun?, split]
  | unsigned numeral =>
      cases numeral with
      | @plus run isRun =>
          have split := digitRun_append isRun ends
          obtain ⟨first, more, rfl⟩ := List.exists_cons_of_ne_nil isRun.filled
          simp only [List.cons_append] at split ⊢
          simp [signedRun?, split]
      | bare isRun =>
          have split := digitRun_append isRun ends
          obtain ⟨first, more, rfl⟩ := List.exists_cons_of_ne_nil isRun.filled
          have digit := isRun.head
          have plus : first ≠ '+' := by rintro rfl; cases digit
          have minus : first ≠ '-' := by rintro rfl; cases digit
          simp only [List.cons_append] at split ⊢
          simp [signedRun?, plus, minus, split]

/-- An exponent is read up to where its digits end, and none where there is no letter for it. -/
theorem ExponentText.read {exponent : Option Int} (isExponent : ExponentText exponent text)
    (apart : Apart rest) : exponentPart? (text ++ rest) = some (exponent, rest) := by
  cases isExponent with
  | absent =>
      cases rest with
      | nil => rfl
      | cons c rest =>
          obtain ⟨-, -, lower, upper⟩ := apart c rfl
          simp [exponentPart?, lower, upper]
  | present isLetter numeral =>
      rw [List.cons_append, exponentPart?, if_pos isLetter,
        signedRun?_append numeral fun c first => (apart c first).1]
      rfl

/-- Where an exponent or the rest of the text starts, there is no digit and no point. -/
theorem ExponentText.ends {exponent : Option Int} (isExponent : ExponentText exponent text)
    (apart : Apart rest) : ∀ c ∈ (text ++ rest).head?, c.isDigit = false ∧ c ≠ '.' := by
  cases isExponent with
  | absent => exact fun c first => ⟨(apart c first).1, (apart c first).2.1⟩
  | present isLetter =>
      rintro c first
      cases first
      rcases isLetter with rfl | rfl <;> decide

/-- Where a fraction or what is behind it starts, there is no digit. -/
theorem FractionText.ends {fraction : Option (List Char)} (isFraction : FractionText fraction text)
    (ends : ∀ c ∈ rest.head?, c.isDigit = false) :
    ∀ c ∈ (text ++ rest).head?, c.isDigit = false := by
  cases isFraction with
  | absent => exact ends
  | present =>
      rintro c first
      cases first
      decide

/-- A number is read up to where it ends. -/
theorem NumberText.read {number : Number} (isNumber : NumberText number text)
    (apart : Apart rest) : number? (text ++ rest) = some (number, rest) := by
  cases isNumber with
  | @parts negative whole text more fraction exponent isWhole isFraction isExponent =>
      have behind := isExponent.ends apart
      have parts : magnitude? negative (whole ++ (text ++ (more ++ rest))) =
          some (.ofParts negative whole fraction exponent, rest) := by
        simp only [magnitude?, Option.bind_eq_bind,
          isWhole.read (isFraction.ends fun c first => (behind c first).1), Option.bind_some,
          isFraction.read behind, isExponent.read apart]
        rfl
      simp only [List.append_assoc]
      cases negative with
      | true => exact parts
      | false =>
          obtain ⟨first, digits, rfl⟩ := List.exists_cons_of_ne_nil isWhole.run.filled
          have digit := isWhole.run.head
          have minus : first ≠ '-' := by rintro rfl; cases digit
          simp only [List.cons_append] at parts
          simp [number?, minus, parts]

/-- A number starts with a digit or with a minus sign. -/
theorem NumberText.eq_cons {number : Number} (isNumber : NumberText number text) :
    ∃ c cs, text = c :: cs ∧ (c.isDigit = true ∨ c = '-') := by
  cases isNumber with
  | parts negative isWhole =>
      cases negative with
      | true => exact ⟨_, _, rfl, .inr rfl⟩
      | false =>
          obtain ⟨first, digits, rfl⟩ := List.exists_cons_of_ne_nil isWhole.run.filled
          exact ⟨_, _, rfl, .inl isWhole.run.head⟩

/-! ### Writing numbers -/

/-- The digits of a number are a whole part. -/
theorem wholeText_digits (n : Nat) : WholeText (Decimal.digits n) where
  run := ⟨Decimal.digits_ne_nil n, fun _ member => Decimal.isDigit_of_mem_digits member⟩
  tight := by
    obtain ⟨first, more, same, _⟩ := Decimal.digits_eq_cons n
    intro zero
    rw [same, List.head?_cons] at zero
    cases zero
    cases more with
    | nil => exact same
    | cons next more => exact absurd same (Decimal.digits_ne_zero_cons n next more)

/-- A number of at most 308 digits does not overflow. -/
theorem overflows_digits {n : Nat} (few : (Decimal.digits n).length ≤ 308) :
    overflows (Decimal.digits n) 0 = false := by
  have fewer := (List.dropWhile_sublist (l := Decimal.digits n) (· == '0')).length_le
  have below : (0 : Int) + ((Decimal.digits n).dropWhile (· == '0')).length < 309 := by omega
  simp only [overflows, decide_eq_true below, Bool.or_true, if_true]

/-- The digits of a number are what it is, with a sign in front of them unless it is zero. -/
theorem Number.ofParts_digits {n : Nat} (few : (Decimal.digits n).length ≤ 308) (negative : Bool)
    (signed : negative = true → n ≠ 0) :
    ofParts negative (Decimal.digits n) none none = .integer (if negative then -n else n) := by
  cases negative with
  | false => simp [ofParts, overflows_digits few, Decimal.value_digits]
  | true => simp [ofParts, overflows_digits few, Decimal.value_digits, signed rfl]

/-- The numeral of an integer is a number unless it has too many digits. -/
theorem numberText_ofInt {n : Int} (few : (Decimal.digits n.natAbs).length ≤ 308) :
    NumberText (.integer n) (Decimal.ofInt n).toList := by
  have number (negative : Bool) : NumberText _ _ :=
    .parts negative (wholeText_digits n.natAbs) .absent .absent
  unfold Decimal.ofInt
  split
  case isTrue negative =>
    have value : -(n.natAbs : Int) = n := by omega
    have isNumber := number true
    rw [Number.ofParts_digits few true (by omega), if_pos rfl, value, if_pos rfl,
      List.nil_append, List.append_nil] at isNumber
    rwa [String.toList_ofList]
  case isFalse =>
    have value : (n.natAbs : Int) = n := by omega
    have isNumber := number false
    rw [Number.ofParts_digits few false (fun same => nomatch same), if_neg Bool.false_ne_true,
      value, if_neg Bool.false_ne_true, List.nil_append, List.nil_append, List.append_nil]
      at isNumber
    rwa [Decimal.ofNat, String.toList_ofList]

end Notebook.Json
