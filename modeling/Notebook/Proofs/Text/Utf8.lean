import Notebook.Text.Utf8

/-!
# Bytes of texts

A text is cut at a byte only where a character ends, which is where the bytes in front of the
cut are those of the characters in front of it (`cut?_eq_some_iff`). Bytes below 128 stand for
themselves: no part of another character looks like them, so characters are read off them one
by one.

The bytes of a text are read back as its characters, with no ill-formed run among them
(`pieces_encode`): the first byte of a character says how many there are, and each of the others
adds six bits.
-/

namespace Notebook.Utf8

/-! ### Cutting texts -/

/-- The two parts of a text around a byte. There are none if a character lies across the cut
or the text ends in front of it. -/
def cut? : (bytes : Nat) → (cs : List Char) → Option (List Char × List Char)
  | 0, cs => some ([], cs)
  | _ + 1, [] => none
  | bytes + 1, c :: cs =>
      if (String.utf8EncodeChar c).length ≤ bytes + 1 then
        (cut? (bytes + 1 - (String.utf8EncodeChar c).length) cs).map
          fun (front, back) => (c :: front, back)
      else none

variable {bytes : Nat} {cs front back : List Char}

/-- The bytes of two texts follow one another. -/
theorem encode_append (first second : List Char) :
    encode (first ++ second) = encode first ++ encode second := by
  simp [encode]

/-- The bytes of a character come before those of the rest. -/
theorem encode_cons (c : Char) (cs : List Char) :
    encode (c :: cs) = String.utf8EncodeChar c ++ encode cs := by
  simp [encode]

/-- Every character has a byte. -/
theorem length_encodeChar_pos (c : Char) : 0 < (String.utf8EncodeChar c).length := by
  rw [String.length_utf8EncodeChar]
  exact c.utf8Size_pos

/-- A cut behind a character is a cut in what follows it. -/
theorem cut?_cons (bytes : Nat) (c : Char) (cs : List Char) :
    cut? ((String.utf8EncodeChar c).length + bytes) (c :: cs) =
      (cut? bytes cs).map fun (front, back) => (c :: front, back) := by
  obtain ⟨more, size⟩ := Nat.exists_eq_add_of_lt (length_encodeChar_pos c)
  have behind : (String.utf8EncodeChar c).length + bytes = more + bytes + 1 := by omega
  rw [behind, cut?, ← behind, if_pos (Nat.le_add_right _ _), Nat.add_sub_cancel_left]

/-- A text is cut behind any of its characters by the number of bytes up to there. -/
theorem cut?_append (front back : List Char) :
    cut? (encode front).length (front ++ back) = some (front, back) := by
  induction front with
  | nil => cases back <;> rfl
  | cons c front inductionHypothesis =>
      rw [encode_cons, List.length_append, List.cons_append, cut?_cons, inductionHypothesis]
      rfl

/-- A text is cut at a byte if the characters in front of it have this number of bytes. -/
theorem cut?_eq_some_iff :
    cut? bytes cs = some (front, back) ↔ cs = front ++ back ∧ (encode front).length = bytes := by
  constructor
  · intro cut
    fun_induction cut? bytes cs generalizing front back with
    | case1 cs =>
        cases cut
        exact ⟨rfl, rfl⟩
    | case2 => cases cut
    | case3 bytes c cs fits inductionHypothesis =>
        obtain ⟨⟨inner, last⟩, cut, same⟩ := Option.map_eq_some_iff.mp cut
        cases same
        obtain ⟨rfl, length⟩ := inductionHypothesis cut
        refine ⟨rfl, ?_⟩
        rw [encode_cons, List.length_append, length]
        omega
    | case4 => cases cut
  · rintro ⟨rfl, rfl⟩
    exact cut?_append front back

/-! ### Bytes below 128 -/

/-- A character below 128 is one byte, its number; the first byte of any other is greater. -/
theorem encodeChar_cases (c : Char) :
    (c.toNat < 0x80 ∧ String.utf8EncodeChar c = [UInt8.ofNat c.toNat]) ∨
      0x80 ≤ c.toNat ∧ ∃ lead more, String.utf8EncodeChar c = UInt8.ofNat lead :: more ∧
        0x80 ≤ lead ∧ lead < 256 := by
  have number : c.val.toNat = c.toNat := rfl
  by_cases ascii : c.toNat ≤ 0x7F
  · refine .inl ⟨by omega, ?_⟩
    simp only [String.utf8EncodeChar, number, if_pos ascii]
  · refine .inr ⟨by omega, ?_⟩
    simp only [String.utf8EncodeChar, number, if_neg ascii]
    split
    · exact ⟨_, _, rfl, by omega, by omega⟩
    · split
      · exact ⟨_, _, rfl, by omega, by omega⟩
      · exact ⟨_, _, rfl, by omega, by omega⟩

/-- Bytes below 128 are the characters with their numbers. -/
theorem eq_map_of_encode_ascii {written : List UInt8} (encoded : encode cs = written)
    (ascii : ∀ byte ∈ written, byte < 0x80) :
    cs = written.map fun byte => Char.ofNat byte.toNat := by
  induction cs generalizing written with
  | nil =>
      subst encoded
      rfl
  | cons c cs inductionHypothesis =>
      subst encoded
      rw [encode_cons] at ascii ⊢
      rcases encodeChar_cases c with ⟨small, single⟩ | ⟨_, lead, more, bytes, large, byte⟩
      · have number : (UInt8.ofNat c.toNat).toNat = c.toNat := by
          rw [UInt8.toNat_ofNat']
          exact Nat.mod_eq_of_lt (by omega)
        have rest := inductionHypothesis rfl fun byte member => ascii byte (by simp [member])
        rw [single, List.singleton_append, List.map_cons, number, Char.ofNat_toNat, ← rest]
      · have lower := ascii (UInt8.ofNat lead) (by simp [bytes])
        rw [UInt8.lt_iff_toNat_lt, UInt8.toNat_ofNat', Nat.mod_eq_of_lt byte] at lower
        exact absurd lower (Nat.not_lt_of_le large)

/-! ### Bytes of texts read back -/

/-- The first of two bytes has five bits of the character. -/
theorem start_two : ∀ n < 0x20, 2 ≤ n →
    start (UInt8.ofNat (n + 0xC0)) = .pending ⟨n, 0, 0x80, 0xBF⟩ := by
  decide

/-- The first of three bytes has four bits of the character, by which the second is bounded. -/
theorem start_three : ∀ n < 0x10, start (UInt8.ofNat (n + 0xE0)) =
    .pending ⟨n, 1, if n = 0 then 0xA0 else 0x80, if n = 0xD then 0x9F else 0xBF⟩ := by
  decide

/-- The first of four bytes has three bits of the character, by which the second is bounded. -/
theorem start_four : ∀ n < 5, start (UInt8.ofNat (n + 0xF0)) =
    .pending ⟨n, 2, if n = 0 then 0x90 else 0x80, if n = 4 then 0x8F else 0xBF⟩ := by
  decide

/-- A character is begun by its first byte. -/
theorem piecesAfter_start {byte : UInt8} {pending : Pending}
    (begins : start byte = .pending pending) (rest : List UInt8) :
    piecesAfter none (byte :: rest) = piecesAfter (some pending) rest := by
  simp only [piecesAfter, begins]

variable {bits n more : Nat} {least greatest : UInt8}

/-- A byte that is due adds six bits if it is within its bounds. -/
theorem piecesAfter_due (small : n < 0x40) (lower : least.toNat ≤ n + 0x80)
    (upper : n + 0x80 ≤ greatest.toNat) (rest : List UInt8) :
    piecesAfter (some ⟨bits, more, least, greatest⟩) (UInt8.ofNat (n + 0x80) :: rest) =
      match more with
      | 0 => some (Char.ofNat (bits * 64 + n)) :: piecesAfter none rest
      | more + 1 => piecesAfter (some ⟨bits * 64 + n, more, 0x80, 0xBF⟩) rest := by
  have number : (UInt8.ofNat (n + 0x80)).toNat = n + 0x80 := by
    rw [UInt8.toNat_ofNat']
    exact Nat.mod_eq_of_lt (by omega)
  have within : least ≤ UInt8.ofNat (n + 0x80) ∧ UInt8.ofNat (n + 0x80) ≤ greatest := by
    rw [UInt8.le_iff_toNat_le, UInt8.le_iff_toNat_le, number]
    exact ⟨lower, upper⟩
  cases more with
  | zero => simp only [piecesAfter, if_pos within, number, Nat.add_sub_cancel]
  | succ more => simp only [piecesAfter, if_pos within, number, Nat.add_sub_cancel]

/-- Behind the second byte all that is due is six more bits each time. -/
theorem piecesAfter_next (small : n < 0x40) (rest : List UInt8) :
    piecesAfter (some ⟨bits, more, 0x80, 0xBF⟩) (UInt8.ofNat (n + 0x80) :: rest) =
      match more with
      | 0 => some (Char.ofNat (bits * 64 + n)) :: piecesAfter none rest
      | more + 1 => piecesAfter (some ⟨bits * 64 + n, more, 0x80, 0xBF⟩) rest := by
  have lower : (0x80 : UInt8).toNat ≤ n + 0x80 := Nat.le_add_left _ _
  have upper : n + 0x80 ≤ (0xBF : UInt8).toNat :=
    Nat.add_le_add_right (Nat.le_of_lt_succ small) 0x80
  exact piecesAfter_due small lower upper rest

variable {lead second third fourth : Nat}

/-- Two bytes are read as one character. -/
theorem piecesAfter_two (least : 2 ≤ lead) (fits : lead < 0x20) (small : second < 0x40)
    (rest : List UInt8) :
    piecesAfter none (UInt8.ofNat (lead + 0xC0) :: UInt8.ofNat (second + 0x80) :: rest) =
      some (Char.ofNat (lead * 64 + second)) :: piecesAfter none rest := by
  rw [piecesAfter_start (start_two lead fits least), piecesAfter_next small]

/-- Three bytes are read as one character. Shorter forms and surrogates are left out. -/
theorem piecesAfter_three (fits : lead < 0x10) (small : second < 0x40) (small' : third < 0x40)
    (shortest : lead = 0 → 0x20 ≤ second) (single : lead = 0xD → second < 0x20)
    (rest : List UInt8) :
    piecesAfter none (UInt8.ofNat (lead + 0xE0) :: UInt8.ofNat (second + 0x80) ::
        UInt8.ofNat (third + 0x80) :: rest) =
      some (Char.ofNat ((lead * 64 + second) * 64 + third)) :: piecesAfter none rest := by
  have lower : (if lead = 0 then 0xA0 else 0x80 : UInt8).toNat ≤ second + 0x80 := by
    split
    case isTrue zero => exact Nat.add_le_add_right (shortest zero) 0x80
    case isFalse => exact Nat.le_add_left _ _
  have upper : second + 0x80 ≤ (if lead = 0xD then 0x9F else 0xBF : UInt8).toNat := by
    split
    case isTrue high => exact Nat.add_le_add_right (Nat.le_of_lt_succ (single high)) 0x80
    case isFalse => exact Nat.add_le_add_right (Nat.le_of_lt_succ small) 0x80
  rw [piecesAfter_start (start_three lead fits), piecesAfter_due small lower upper]
  exact piecesAfter_next small' rest

/-- Four bytes are read as one character. Shorter forms and what lies beyond the last character
are left out. -/
theorem piecesAfter_four (fits : lead < 5) (small : second < 0x40) (small' : third < 0x40)
    (small'' : fourth < 0x40) (shortest : lead = 0 → 0x10 ≤ second)
    (within : lead = 4 → second < 0x10) (rest : List UInt8) :
    piecesAfter none (UInt8.ofNat (lead + 0xF0) :: UInt8.ofNat (second + 0x80) ::
        UInt8.ofNat (third + 0x80) :: UInt8.ofNat (fourth + 0x80) :: rest) =
      some (Char.ofNat (((lead * 64 + second) * 64 + third) * 64 + fourth)) ::
        piecesAfter none rest := by
  have lower : (if lead = 0 then 0x90 else 0x80 : UInt8).toNat ≤ second + 0x80 := by
    split
    case isTrue zero => exact Nat.add_le_add_right (shortest zero) 0x80
    case isFalse => exact Nat.le_add_left _ _
  have upper : second + 0x80 ≤ (if lead = 4 then 0x8F else 0xBF : UInt8).toNat := by
    split
    case isTrue last => exact Nat.add_le_add_right (Nat.le_of_lt_succ (within last)) 0x80
    case isFalse => exact Nat.add_le_add_right (Nat.le_of_lt_succ small) 0x80
  rw [piecesAfter_start (start_four lead fits), piecesAfter_due small lower upper]
  exact (piecesAfter_next small' _).trans (piecesAfter_next small'' rest)

/-- A byte below 128 is read as the character with its number. -/
theorem piecesAfter_one (ascii : n < 0x80) (rest : List UInt8) :
    piecesAfter none (UInt8.ofNat n :: rest) = some (Char.ofNat n) :: piecesAfter none rest := by
  have number : (UInt8.ofNat n).toNat = n := by
    rw [UInt8.toNat_ofNat']
    exact Nat.mod_eq_of_lt (by omega)
  have small : UInt8.ofNat n < 0x80 := by
    rw [UInt8.lt_iff_toNat_lt, number]
    exact ascii
  simp only [piecesAfter, start, if_pos small, number]

/-- The bytes of a character are read as the character. -/
theorem piecesAfter_encodeChar (c : Char) (rest : List UInt8) :
    piecesAfter none (String.utf8EncodeChar c ++ rest) = some c :: piecesAfter none rest := by
  have valid : c.toNat < 0xD800 ∨ 0xDFFF < c.toNat ∧ c.toNat < 0x110000 := c.valid
  have number : c.val.toNat = c.toNat := rfl
  have back {n : Nat} (same : n = c.toNat) :
      some (Char.ofNat n) :: piecesAfter none rest = some c :: piecesAfter none rest := by
    rw [same, Char.ofNat_toNat]
  unfold String.utf8EncodeChar
  simp only [number]
  split
  case isTrue ascii => exact (piecesAfter_one (by omega) rest).trans (back rfl)
  case isFalse =>
    split
    case isTrue =>
      exact (piecesAfter_two (by omega) (by omega) (by omega) rest).trans (back (by omega))
    case isFalse =>
      split
      case isTrue =>
        exact (piecesAfter_three (by omega) (by omega) (by omega) (by omega) (by omega)
          rest).trans (back (by omega))
      case isFalse =>
        exact (piecesAfter_four (by omega) (by omega) (by omega) (by omega) (by omega) (by omega)
          rest).trans (back (by omega))

/-- The pieces of the bytes of a text are its characters. -/
theorem pieces_encode (cs : List Char) : pieces (encode cs) = cs.map some := by
  induction cs with
  | nil => rfl
  | cons c cs inductionHypothesis =>
      rw [encode_cons, pieces, piecesAfter_encodeChar, List.map_cons, ← inductionHypothesis, pieces]

end Notebook.Utf8
