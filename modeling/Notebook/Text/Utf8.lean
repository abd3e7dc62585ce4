import Notebook.Text.Decimal

/-!
# UTF-8

Bytes decoded as UTF-8 piece by piece. A piece is a character, or a longest run
of bytes that begins no character; such runs are either refused or replaced.
-/

namespace Notebook.Utf8

/-- A character of which some bytes were read. -/
structure Pending where
  /-- The bits read so far. -/
  bits : Nat
  /-- How many bytes are due after the next one. -/
  more : Nat
  /-- The least value the next byte may have. -/
  least : UInt8
  /-- The greatest value the next byte may have. -/
  greatest : UInt8
deriving DecidableEq

/-- What the first byte of a piece begins. -/
inductive Start where
  | character (c : Char)
  | pending (pending : Pending)
  | illFormed
deriving DecidableEq

/-- What a first byte begins. The bounds of the second byte leave out overlong
forms, surrogates and what lies beyond the last character. -/
def start (byte : UInt8) : Start :=
  if byte < 0x80 then .character (Char.ofNat byte.toNat)
  else if byte < 0xC2 then .illFormed
  else if byte < 0xE0 then .pending ⟨byte.toNat - 0xC0, 0, 0x80, 0xBF⟩
  else if byte = 0xE0 then .pending ⟨0, 1, 0xA0, 0xBF⟩
  else if byte = 0xED then .pending ⟨0xD, 1, 0x80, 0x9F⟩
  else if byte < 0xF0 then .pending ⟨byte.toNat - 0xE0, 1, 0x80, 0xBF⟩
  else if byte = 0xF0 then .pending ⟨0, 2, 0x90, 0xBF⟩
  else if byte < 0xF4 then .pending ⟨byte.toNat - 0xF0, 2, 0x80, 0xBF⟩
  else if byte = 0xF4 then .pending ⟨4, 2, 0x80, 0x8F⟩
  else .illFormed

/-- The pieces of a byte sequence behind a character that may be pending;
`none` stands for an ill-formed run. -/
def piecesAfter : Option Pending → List UInt8 → List (Option Char)
  | none, [] => []
  | some _, [] => [none]
  | none, byte :: rest =>
      match start byte with
      | .character c => some c :: piecesAfter none rest
      | .pending pending => piecesAfter (some pending) rest
      | .illFormed => none :: piecesAfter none rest
  | some pending, byte :: rest =>
      if pending.least ≤ byte ∧ byte ≤ pending.greatest then
        let bits := pending.bits * 64 + (byte.toNat - 0x80)
        match pending.more with
        | 0 => some (Char.ofNat bits) :: piecesAfter none rest
        | more + 1 => piecesAfter (some ⟨bits, more, 0x80, 0xBF⟩) rest
      else
        match start byte with
        | .character c => none :: some c :: piecesAfter none rest
        | .pending pending => none :: piecesAfter (some pending) rest
        | .illFormed => none :: none :: piecesAfter none rest

/-- The pieces of a byte sequence. -/
def pieces (bytes : List UInt8) : List (Option Char) :=
  piecesAfter none bytes

/-- The text of a byte sequence, with a replacement character for each
ill-formed run. -/
def decodeLossy (bytes : List UInt8) : String :=
  String.ofList ((pieces bytes).map fun piece => piece.getD '\uFFFD')

/-- The text of a byte sequence without ill-formed runs. -/
def decode? (bytes : List UInt8) : Option String :=
  ((pieces bytes).mapM id).map String.ofList

/-- Where a byte sequence stops being UTF-8. -/
structure Fault where
  /-- How many bytes are well-formed in front of the ill-formed run. -/
  index : Nat
  /-- The length of the run; absent if the sequence ends inside a character. -/
  length : Option Nat
deriving DecidableEq

/-- The wording of a fault. -/
def Fault.message (fault : Fault) : String :=
  match fault.length with
  | some length =>
      "invalid utf-8 sequence of " ++ Decimal.ofNat length ++ " bytes from index " ++
        Decimal.ofNat fault.index
  | none => "incomplete utf-8 byte sequence from index " ++ Decimal.ofNat fault.index

/-- The first fault behind `index` bytes and a character that may be pending,
with the number of its bytes that were read. -/
def faultFrom (index : Nat) : Option (Pending × Nat) → List UInt8 → Option Fault
  | none, [] => none
  | some _, [] => some ⟨index, none⟩
  | none, byte :: rest =>
      match start byte with
      | .character _ => faultFrom (index + 1) none rest
      | .pending pending => faultFrom index (some (pending, 1)) rest
      | .illFormed => some ⟨index, some 1⟩
  | some (pending, read), byte :: rest =>
      if pending.least ≤ byte ∧ byte ≤ pending.greatest then
        match pending.more with
        | 0 => faultFrom (index + read + 1) none rest
        | more + 1 => faultFrom index (some (⟨0, more, 0x80, 0xBF⟩, read + 1)) rest
      else some ⟨index, some read⟩

/-- The first fault of a byte sequence. -/
def fault? (bytes : List UInt8) : Option Fault :=
  faultFrom 0 none bytes

/-- The bytes of a text. -/
def encode (text : List Char) : List UInt8 :=
  text.flatMap String.utf8EncodeChar

end Notebook.Utf8
