import Notebook.Json.Record
import Notebook.Text.Utf8

/-!
# JSON in bytes

JSON is sent as UTF-8. Bytes that are no UTF-8 break the text between tokens. In
a string they are like a surrogate without its partner: they leave the string
without a text, which is only objectionable where it is read.
-/

namespace Notebook.Json

/-- The tokens of a text with ill-formed runs in it. Only a string can go on
across such a run. -/
def pieceTokens : Nat → List (Option Char) → List Token
  | 0, _ => []
  | steps + 1, pieces =>
      match pieces.dropWhile (Option.any isSpace) with
      | [] => []
      | pieces =>
          match token? (pieces.map fun piece => piece.getD '\uFFFD') with
          | some (token, rest) =>
              let length := pieces.length - rest.length
              let wellFormed := (pieces.take length).all Option.isSome
              (if wellFormed then token else .text none) ::
                pieceTokens steps (pieces.drop length)
          | none => [.broken]

/-- The tokens of a sequence of bytes. -/
def byteTokens (bytes : List UInt8) : List Token :=
  let pieces := Utf8.pieces bytes
  pieceTokens pieces.length pieces

/-- Reads the value that bytes start with, whatever follows it. -/
def readStart (read : Scan → Except Fault α) (bytes : List UInt8) : Except Fault α :=
  read (Scan.value (byteTokens bytes)).1

end Notebook.Json
