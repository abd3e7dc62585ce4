import Notebook.Proofs.Text.Blank

/-!
# Which texts are numerals

A numeral is one or more decimal digits, behind a sign at most: a plus sign anywhere, a minus
sign only where negative numbers are wanted. The readers accept exactly the numerals whose
value is in their range, and give this value.
-/

namespace Notebook.Decimal

/-- One or more decimal digits. -/
structure Run (digits : List Char) : Prop where
  filled : digits ≠ []
  digitsOnly : ∀ c ∈ digits, c.isDigit = true

/-- The characters are a numeral without a minus sign, and this is its value. -/
inductive Unsigned : (cs : List Char) → (n : Nat) → Prop
  | bare {digits : List Char} (run : Run digits) : Unsigned digits (value digits)
  | plus {digits : List Char} (run : Run digits) : Unsigned ('+' :: digits) (value digits)

/-- The characters are a numeral, and this is its value. -/
inductive Signed : (cs : List Char) → (n : Int) → Prop
  | unsigned {cs : List Char} {n : Nat} (numeral : Unsigned cs n) : Signed cs n
  | minus {digits : List Char} (run : Run digits) :
      Signed ('-' :: digits) (-(value digits : Int))

/-- A run of digits starts with a digit. -/
theorem Run.head {c : Char} {rest : List Char} (run : Run (c :: rest)) : c.isDigit = true :=
  run.digitsOnly c (by simp)

variable {text : String} {cs : List Char}

/-- A run of digits has no blanks at its ends. -/
theorem Run.tight (run : Run cs) : Text.Tight cs :=
  ⟨fun c first => Text.isBlank_of_isDigit (run.digitsOnly c (List.mem_of_mem_head? first)),
    fun c last => Text.isBlank_of_isDigit (run.digitsOnly c (List.mem_of_getLast? last))⟩

/-- A sign in front of digits is no blank, either. -/
theorem Run.tight_cons (run : Run cs) {sign : Char} (visible : Text.isBlank sign = false) :
    Text.Tight (sign :: cs) := by
  refine ⟨by simpa using visible, ?_⟩
  obtain ⟨first, rest, rfl⟩ := List.exists_cons_of_ne_nil run.filled
  exact run.tight.2

/-- A numeral has no blanks at its ends. -/
theorem Signed.tight {n : Int} (numeral : Signed cs n) : Text.Tight cs := by
  cases numeral with
  | unsigned numeral =>
      cases numeral with
      | bare run => exact run.tight
      | plus run => exact run.tight_cons (by decide)
  | minus run => exact run.tight_cons (by decide)

/-- Digits are read if there are any and there is nothing else. -/
theorem natural?_eq_some_iff {n : Nat} : natural? cs = some n ↔ Run cs ∧ value cs = n := by
  have accepted : (!cs.isEmpty && cs.all Char.isDigit) = true ↔ Run cs := by
    rw [Bool.and_eq_true, Bool.not_eq_true', List.isEmpty_eq_false_iff, List.all_eq_true]
    exact ⟨fun ⟨filled, digitsOnly⟩ => ⟨filled, digitsOnly⟩, fun run => ⟨run.1, run.2⟩⟩
  rw [natural?, Option.ite_none_right_eq_some, accepted, Option.some.injEq]

/-- The same digits are read where an integer is wanted. -/
theorem natural?_integer_eq_some_iff {n : Int} :
    (do
      let size ← natural? cs
      pure (size : Int)) = some n ↔ Run cs ∧ (value cs : Int) = n := by
  rw [Option.bind_eq_bind, Option.bind_eq_some_iff]
  constructor
  · rintro ⟨size, read, same⟩
    obtain ⟨run, rfl⟩ := natural?_eq_some_iff.mp read
    exact ⟨run, Option.some.inj same⟩
  · rintro ⟨run, rfl⟩
    exact ⟨_, natural?_eq_some_iff.mpr ⟨run, rfl⟩, rfl⟩

/-- An unsigned numeral is read as its value, and nothing else is read. -/
theorem unsigned?_eq_some_iff {n : Nat} : unsigned? text = some n ↔ Unsigned text.toList n := by
  unfold unsigned?
  split
  next digits whole =>
    rw [natural?_eq_some_iff, whole]
    constructor
    · rintro ⟨run, rfl⟩
      exact .plus run
    · intro numeral
      cases numeral with
      | bare run => cases run.head
      | plus run => exact ⟨run, rfl⟩
  next unsigned =>
    rw [natural?_eq_some_iff]
    constructor
    · rintro ⟨run, rfl⟩
      exact .bare run
    · intro numeral
      generalize text.toList = cs at numeral unsigned
      cases numeral with
      | bare run => exact ⟨run, rfl⟩
      | plus run => exact absurd rfl (unsigned _)

/-- A numeral is read as its value, and nothing else is read. -/
theorem signed?_eq_some_iff {n : Int} : signed? text = some n ↔ Signed text.toList n := by
  unfold signed?
  split
  next digits whole =>
    rw [Option.map_eq_some_iff, whole]
    constructor
    · rintro ⟨size, read, rfl⟩
      obtain ⟨run, rfl⟩ := natural?_integer_eq_some_iff.mp read
      exact .minus run
    · intro numeral
      cases numeral with
      | unsigned numeral =>
          cases numeral with
          | bare run => cases run.head
      | minus run => exact ⟨_, natural?_integer_eq_some_iff.mpr ⟨run, rfl⟩, rfl⟩
  next digits whole =>
    rw [Option.map_eq_some_iff, whole]
    constructor
    · rintro ⟨size, read, rfl⟩
      obtain ⟨run, rfl⟩ := natural?_integer_eq_some_iff.mp read
      exact .unsigned (.plus run)
    · intro numeral
      cases numeral with
      | unsigned numeral =>
          cases numeral with
          | bare run => cases run.head
          | plus run => exact ⟨_, natural?_integer_eq_some_iff.mpr ⟨run, rfl⟩, rfl⟩
  next noMinus noPlus =>
    rw [Option.map_eq_some_iff]
    constructor
    · rintro ⟨size, read, rfl⟩
      obtain ⟨run, rfl⟩ := natural?_integer_eq_some_iff.mp read
      exact .unsigned (.bare run)
    · intro numeral
      generalize text.toList = cs at numeral noMinus noPlus
      cases numeral with
      | unsigned numeral =>
          cases numeral with
          | bare run => exact ⟨_, natural?_integer_eq_some_iff.mpr ⟨run, rfl⟩, rfl⟩
          | plus run => exact absurd rfl (noPlus _)
      | minus run => exact absurd rfl (noMinus _)

/-- A 64-bit integer is found by its value only. -/
theorem toInt64?_eq_some_iff {m : Int} {n : Int64} : toInt64? m = some n ↔ n.toInt = m := by
  constructor
  · intro found
    rw [toInt64?, Option.ite_none_right_eq_some, Option.some.injEq] at found
    obtain ⟨⟨lower, upper⟩, rfl⟩ := found
    exact Int64.toInt_ofInt_of_le lower (Int.lt_of_le_of_lt upper (by decide))
  · rintro rfl
    exact toInt64?_toInt n

/-- A 64-bit integer is read from the numerals with its value. -/
theorem int64?_eq_some_iff {n : Int64} : int64? text = some n ↔ Signed text.toList n.toInt := by
  rw [int64?, Option.bind_eq_some_iff]
  constructor
  · rintro ⟨m, read, found⟩
    rw [toInt64?_eq_some_iff.mp found]
    exact signed?_eq_some_iff.mp read
  · intro numeral
    exact ⟨_, signed?_eq_some_iff.mpr numeral, toInt64?_toInt n⟩

/-- The words of a width are read from the unsigned numerals with their values. -/
theorem word_eq_some_iff {α : Type} {size : Nat} {ofNatLT : (n : Nat) → n < size → α}
    {toNat : α → Nat} (toNat_ofNatLT : ∀ n small, toNat (ofNatLT n small) = n)
    (ofNatLT_toNat : ∀ word, ∃ small, ofNatLT (toNat word) small = word) {word : α} :
    ((unsigned? text).bind fun n => if small : n < size then some (ofNatLT n small) else none) =
        some word ↔
      Unsigned text.toList (toNat word) := by
  rw [Option.bind_eq_some_iff]
  constructor
  · rintro ⟨n, read, found⟩
    split at found
    next small =>
      cases found
      rw [toNat_ofNatLT]
      exact unsigned?_eq_some_iff.mp read
    next => cases found
  · intro numeral
    obtain ⟨small, same⟩ := ofNatLT_toNat word
    refine ⟨_, unsigned?_eq_some_iff.mpr numeral, ?_⟩
    rw [dif_pos small, same]

/-- A 16-bit number is read from the unsigned numerals with its value. -/
theorem uint16?_eq_some_iff {n : UInt16} :
    uint16? text = some n ↔ Unsigned text.toList n.toNat := by
  refine word_eq_some_iff (fun _ _ => UInt16.toNat_ofNatLT) ?_
  exact fun word => ⟨word.toNat_lt_size, word.ofNatLT_toNat⟩

/-- A 32-bit number is read from the unsigned numerals with its value. -/
theorem uint32?_eq_some_iff {n : UInt32} :
    uint32? text = some n ↔ Unsigned text.toList n.toNat := by
  refine word_eq_some_iff (fun _ _ => UInt32.toNat_ofNatLT) ?_
  exact fun word => ⟨word.toNat_lt_size, word.ofNatLT_toNat⟩

/-- A 64-bit number is read from the unsigned numerals with its value. -/
theorem uint64?_eq_some_iff {n : UInt64} :
    uint64? text = some n ↔ Unsigned text.toList n.toNat := by
  refine word_eq_some_iff (fun _ _ => UInt64.toNat_ofNatLT) ?_
  exact fun word => ⟨word.toNat_lt_size, word.ofNatLT_toNat⟩

end Notebook.Decimal
