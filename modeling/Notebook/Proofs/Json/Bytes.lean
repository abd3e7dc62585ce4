import Notebook.Json.Bytes
import Notebook.Proofs.Text.Utf8

/-!
# The bytes of JSON texts

The bytes of a text are read as the text is (`readStart_encode`). They have no ill-formed run, and
a token leaves an end of the text, so the characters it takes are told by how many are left.
-/

namespace Notebook.Json

variable {cs rest : List Char}

/-! ### What a token leaves -/

/-- What is behind the units of a string is at the end of the text. -/
theorem suffix_of_units? {units : List Nat} (read : units? cs = some (units, rest)) :
    rest <:+ cs := by
  fun_induction units? cs generalizing units with
  | case1 => cases read
  | case2 rest =>
      cases read
      exact List.suffix_cons _ _
  | case3 a b c d behind inductionHypothesis =>
      obtain ⟨unit, _, read⟩ := Option.bind_eq_some_iff.mp read
      obtain ⟨⟨units, last⟩, inner, same⟩ := Option.bind_eq_some_iff.mp read
      cases same
      exact (inductionHypothesis inner).trans (List.suffix_append ['\\', 'u', a, b, c, d] behind)
  | case4 c behind _ inductionHypothesis =>
      obtain ⟨letter, _, read⟩ := Option.bind_eq_some_iff.mp read
      obtain ⟨⟨units, last⟩, inner, same⟩ := Option.bind_eq_some_iff.mp read
      cases same
      exact (inductionHypothesis inner).trans (List.suffix_append ['\\', c] behind)
  | case5 => cases read
  | case6 c behind _ _ _ _ inductionHypothesis =>
      obtain ⟨⟨units, last⟩, inner, same⟩ := Option.bind_eq_some_iff.mp read
      cases same
      exact (inductionHypothesis inner).trans (List.suffix_cons _ _)

/-- What is behind a run of digits is at the end of the text. -/
theorem suffix_of_digitRun {run : List Char} (split : digitRun cs = (run, rest)) : rest <:+ cs := by
  cases split
  exact List.dropWhile_suffix _

/-- What is behind a whole part is at the end of the text. -/
theorem suffix_of_wholePart? {whole : List Char} (read : wholePart? cs = some (whole, rest)) :
    rest <:+ cs := by
  unfold wholePart? at read
  split at read
  next => cases read
  next => cases read
  next split =>
    cases read
    exact suffix_of_digitRun split

/-- What is behind digits that have to be there is at the end of the text. -/
theorem suffix_of_filledRun {α : Type} {value : List Char → α} {found : α}
    (read : (match digitRun cs with
      | ([], _) => none
      | (run, rest) => some (value run, rest)) = some (found, rest)) : rest <:+ cs := by
  split at read
  next => cases read
  next split =>
    cases read
    exact suffix_of_digitRun split

/-- What is behind a fraction is at the end of the text. -/
theorem suffix_of_fractionPart? {fraction : Option (List Char)}
    (read : fractionPart? cs = some (fraction, rest)) : rest <:+ cs := by
  unfold fractionPart? at read
  split at read
  next => exact (suffix_of_filledRun read).trans (List.suffix_cons _ _)
  next =>
    cases read
    exact List.suffix_refl _

/-- What is behind the digits of an exponent is at the end of the text. -/
theorem suffix_of_signedRun? {n : Int} (read : signedRun? cs = some (n, rest)) : rest <:+ cs := by
  unfold signedRun? at read
  split at read
  next => exact (suffix_of_filledRun read).trans (List.suffix_cons _ _)
  next =>
    split at read
    next => exact (suffix_of_filledRun read).trans (List.suffix_cons _ _)
    next => exact suffix_of_filledRun read

/-- What is behind an exponent is at the end of the text. -/
theorem suffix_of_exponentPart? {exponent : Option Int}
    (read : exponentPart? cs = some (exponent, rest)) : rest <:+ cs := by
  unfold exponentPart? at read
  split at read
  next c digits =>
    split at read
    next =>
      obtain ⟨⟨n, last⟩, inner, same⟩ := Option.map_eq_some_iff.mp read
      cases same
      exact (suffix_of_signedRun? inner).trans (List.suffix_cons _ _)
    next =>
      cases read
      exact List.suffix_refl _
  next =>
    cases read
    exact List.suffix_refl _

/-- What is behind the magnitude of a number is at the end of the text. -/
theorem suffix_of_magnitude? {negative : Bool} {number : Number}
    (read : magnitude? negative cs = some (number, rest)) : rest <:+ cs := by
  obtain ⟨⟨whole, afterWhole⟩, isWhole, read⟩ := Option.bind_eq_some_iff.mp read
  obtain ⟨⟨fraction, afterFraction⟩, isFraction, read⟩ := Option.bind_eq_some_iff.mp read
  obtain ⟨⟨exponent, afterExponent⟩, isExponent, same⟩ := Option.bind_eq_some_iff.mp read
  cases same
  exact (suffix_of_exponentPart? isExponent).trans
    ((suffix_of_fractionPart? isFraction).trans (suffix_of_wholePart? isWhole))

/-- What is behind a number is at the end of the text. -/
theorem suffix_of_number? {number : Number} (read : number? cs = some (number, rest)) :
    rest <:+ cs := by
  unfold number? at read
  split at read
  next => exact (suffix_of_magnitude? read).trans (List.suffix_cons _ _)
  next => exact suffix_of_magnitude? read

/-- What is behind a token is at the end of the text. -/
theorem suffix_of_token? {token : Token} (read : token? cs = some (token, rest)) :
    rest <:+ cs := by
  unfold token? at read
  split at read
  case h_10 behind =>
    obtain ⟨⟨units, last⟩, inner, same⟩ := Option.map_eq_some_iff.mp read
    cases same
    exact (suffix_of_units? inner).trans (List.suffix_cons _ _)
  case h_11 =>
    obtain ⟨⟨number, last⟩, inner, same⟩ := Option.map_eq_some_iff.mp read
    cases same
    exact suffix_of_number? inner
  -- All others are known by their characters.
  all_goals
    cases read
    first
    | exact List.suffix_cons _ _
    | exact ⟨[_, _, _, _], rfl⟩
    | exact ⟨[_, _, _, _, _], rfl⟩

/-! ### Bytes of a text -/

/-- A text without ill-formed runs has the tokens of its characters. -/
theorem pieceTokens_map_some (steps : Nat) (cs : List Char) :
    pieceTokens steps (cs.map some) = tokensWithin steps cs := by
  induction steps generalizing cs with
  | zero => rfl
  | succ steps inductionHypothesis =>
      have blanks : (cs.map some).dropWhile (Option.any isSpace) =
          (cs.dropWhile isSpace).map some := by
        rw [List.dropWhile_map]
        rfl
      rw [pieceTokens, tokensWithin, blanks]
      cases cs.dropWhile isSpace with
      | nil => rfl
      | cons c behind =>
          have characters : ((c :: behind).map some).map (fun piece => piece.getD '\uFFFD') =
              c :: behind := by
            rw [List.map_map]
            exact List.map_id _
          rw [List.map_cons] at characters ⊢
          simp only [characters]
          cases read : token? (c :: behind) with
          | none => rfl
          | some found =>
              obtain ⟨token, rest⟩ := found
              have ends := List.suffix_iff_eq_drop.mp (suffix_of_token? read)
              simp only [← List.map_cons, List.length_map, ← List.map_take, ← List.map_drop,
                ← ends, inductionHypothesis, List.all_map]
              simp

/-- The bytes of a text are split into the tokens of the text. -/
theorem byteTokens_encode (text : String) :
    byteTokens (Utf8.encode text.toList) = tokens text := by
  rw [byteTokens, Utf8.pieces_encode, tokens, List.length_map, pieceTokens_map_some]

/-- The bytes of a text are read as what the text starts with. -/
theorem readStart_encode {α : Type} (read : Scan → Except Fault α) (text : String) :
    readStart read (Utf8.encode text.toList) = read (Scan.value (tokens text)).1 := by
  rw [readStart, byteTokens_encode]

end Notebook.Json
