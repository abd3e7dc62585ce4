import Notebook.Json.Record

/-!
# Tokens scanned

Which tokens a scan consumes for a value, for the items of an array and for the members of an
object. There is one rule for each way in which these are put together.
-/

namespace Notebook.Json

namespace Scan

variable {tokens rest behind : List Token} {found : Scan} {items : List Scan}
  {name : Option String} {members : List (Scan × Scan)}

/-- The tokens start with those of this value, and these follow. -/
def Takes (tokens : List Token) (found : Scan) (rest : List Token) : Prop :=
  ∃ shorter, value tokens = (found, some ⟨rest, shorter⟩)

/-- The tokens start with those of these items up to the end of their array. -/
def TakesItems (tokens : List Token) (found : List Scan) (rest : List Token) : Prop :=
  ∃ shorter, Scan.items tokens = (found, some ⟨rest, shorter⟩)

/-- The tokens start with those of these members up to the end of their object. -/
def TakesMembers (tokens : List Token) (found : List (Scan × Scan)) (rest : List Token) : Prop :=
  ∃ shorter, Scan.members tokens = (found, some ⟨rest, shorter⟩)

/-- A string is taken as one token. -/
theorem Takes.eq_cons_of_text {s : Option String} (takes : Takes tokens (.text s) rest) :
    tokens = .text s :: rest := by
  obtain ⟨shorter, takes⟩ := takes
  rw [value.eq_def] at takes
  split at takes
  case h_4 => cases takes; rfl
  all_goals cases takes

/-- An array without items is taken. -/
theorem Takes.array_nil : Takes (.beginArray :: .endArray :: rest) (.array [] true) rest :=
  ⟨by simp only [List.length_cons]; omega, by rw [value]⟩

/-- An array is taken with its items. -/
theorem Takes.array (filled : ∀ more, tokens ≠ .endArray :: more)
    (inner : TakesItems tokens items rest) :
    Takes (.beginArray :: tokens) (.array items true) rest := by
  obtain ⟨shorter, inner⟩ := inner
  refine ⟨Nat.lt_succ_of_lt shorter, ?_⟩
  rw [value, inner]
  · rfl
  · exact filled

/-- An object without members is taken. -/
theorem Takes.object_nil : Takes (.beginObject :: .endObject :: rest) (.object [] true) rest :=
  ⟨by simp only [List.length_cons]; omega, by rw [value]⟩

/-- An object is taken with its members. -/
theorem Takes.object (filled : ∀ more, tokens ≠ .endObject :: more)
    (inner : TakesMembers tokens members rest) :
    Takes (.beginObject :: tokens) (.object members true) rest := by
  obtain ⟨shorter, inner⟩ := inner
  refine ⟨Nat.lt_succ_of_lt shorter, ?_⟩
  rw [value, inner]
  · rfl
  · exact filled

/-- The last item of an array is taken with the end of the array. -/
theorem TakesItems.last (item : Takes tokens found (.endArray :: rest)) :
    TakesItems tokens [found] rest := by
  obtain ⟨shorter, item⟩ := item
  refine ⟨Nat.lt_of_succ_lt shorter, ?_⟩
  rw [Scan.items, item]

/-- Another item of an array is taken with the comma and the items behind it. -/
theorem TakesItems.cons (item : Takes tokens found (.comma :: behind))
    (later : TakesItems behind items rest) : TakesItems tokens (found :: items) rest := by
  obtain ⟨shorter, item⟩ := item
  obtain ⟨shorter', later⟩ := later
  refine ⟨Nat.lt_trans shorter' (Nat.lt_of_succ_lt shorter), ?_⟩
  rw [Scan.items, item]
  simp only [later]
  rfl

/-- The last member of an object is taken with the end of the object. -/
theorem TakesMembers.last (item : Takes tokens found (.endObject :: rest)) :
    TakesMembers (.text name :: .colon :: tokens) [(.text name, found)] rest := by
  obtain ⟨shorter, item⟩ := item
  refine ⟨by simp only [List.length_cons] at shorter ⊢; omega, ?_⟩
  rw [Scan.members, item]

/-- Another member of an object is taken with the comma and the members behind it. -/
theorem TakesMembers.cons (item : Takes tokens found (.comma :: behind))
    (later : TakesMembers behind members rest) :
    TakesMembers (.text name :: .colon :: tokens) ((.text name, found) :: members) rest := by
  obtain ⟨shorter, item⟩ := item
  obtain ⟨shorter', later⟩ := later
  refine ⟨by simp only [List.length_cons] at shorter ⊢; omega, ?_⟩
  rw [Scan.members, item]
  simp only [later]
  rfl

end Scan

end Notebook.Json
