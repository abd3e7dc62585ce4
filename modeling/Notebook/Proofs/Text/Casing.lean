import Mathlib.Data.List.Forall2

/-!
# Words in any case

A word in small letters is spelled in any case if each letter is itself or its capital. This
is so exactly if the text is the word once its capitals are made small. Only letters of ASCII
have a case here.
-/

namespace Notebook.Text

/-- The text is the word, each letter of it small or a capital. -/
def AnyCase (word text : List Char) : Prop :=
  List.Forall₂ (fun letter c => c = letter ∨ c = letter.toUpper) word text

/-- Capitals are made small by moving them 32 places up. -/
theorem toNat_toLower (c : Char) :
    c.toLower.toNat = if 65 ≤ c.toNat ∧ c.toNat ≤ 90 then c.toNat + 32 else c.toNat := by
  unfold Char.toLower
  split
  next capital =>
    obtain ⟨lower, upper⟩ : 65 ≤ c.toNat ∧ c.toNat ≤ 90 := capital
    have moved : (c.val + 32).toNat = (c.toNat + 32) % 2 ^ 32 := UInt32.toNat_add ..
    rw [if_pos ⟨lower, upper⟩]
    exact moved.trans (Nat.mod_eq_of_lt (by omega))
  next other => exact (if_neg fun capital => other capital).symm

/-- Small letters are made capitals by moving them 32 places down. -/
theorem toNat_toUpper (c : Char) :
    c.toUpper.toNat = if 97 ≤ c.toNat ∧ c.toNat ≤ 122 then c.toNat - 32 else c.toNat := by
  unfold Char.toUpper
  split
  next small =>
    obtain ⟨lower, upper⟩ : 97 ≤ c.toNat ∧ c.toNat ≤ 122 := small
    -- Moving down is an addition that wraps around.
    have moved : (c.val + 4294967264).toNat = (c.toNat + 4294967264) % 2 ^ 32 :=
      UInt32.toNat_add ..
    rw [if_pos ⟨lower, upper⟩]
    exact moved.trans (by omega)
  next other => exact (if_neg fun small => other small).symm

/-- A character is made a small letter if it is that letter or its capital. -/
theorem toLower_eq_iff {letter c : Char} (small : letter.isLower = true) :
    c.toLower = letter ↔ c = letter ∨ c = letter.toUpper := by
  obtain ⟨lower, upper⟩ := Bool.and_eq_true_iff.mp small
  replace lower : 97 ≤ letter.toNat := of_decide_eq_true lower
  replace upper : letter.toNat ≤ 122 := of_decide_eq_true upper
  have capital : letter.toUpper.toNat = letter.toNat - 32 := by
    rw [toNat_toUpper, if_pos ⟨lower, upper⟩]
  rw [← Char.toNat_inj, ← Char.toNat_inj, ← Char.toNat_inj, toNat_toLower]
  split <;> omega

/-- A text is made a word of small letters if it is that word in any case. -/
theorem map_toLower_eq_iff {word text : List Char} (small : ∀ c ∈ word, c.isLower = true) :
    text.map Char.toLower = word ↔ AnyCase word text := by
  induction word generalizing text with
  | nil => simp [AnyCase]
  | cons letter word inductionHypothesis =>
      obtain ⟨first, others⟩ := List.forall_mem_cons.mp small
      cases text with
      | nil => simp [AnyCase]
      | cons c text =>
          rw [AnyCase, List.forall₂_cons, List.map_cons, List.cons.injEq, toLower_eq_iff first,
            inductionHypothesis others, AnyCase]

end Notebook.Text
