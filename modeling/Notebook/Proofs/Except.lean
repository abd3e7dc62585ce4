/-!
# Steps that may fail

Steps in a row succeed exactly if each of them does, so a result is taken apart
step by step. A list whose members are checked one after the other passes if each
of them does, and is refused for the first that does not.
-/

namespace Notebook.Except

variable {ε α β : Type}

/-- Two steps in a row succeed if the first does, and the second with its result. -/
theorem bind_eq_ok_iff {first : Except ε α} {next : α → Except ε β} {result : β} :
    (first >>= next) = .ok result ↔ ∃ value, first = .ok value ∧ next value = .ok result := by
  cases first with
  | error error =>
      constructor
      · intro built
        cases built
      · rintro ⟨value, passed, _⟩
        cases passed
  | ok value =>
      constructor
      · exact fun built => ⟨value, rfl, built⟩
      · rintro ⟨other, same, built⟩
        cases same
        exact built

/-- Two checks in a row pass if each of them does. -/
theorem check_eq_ok_iff {first second : Except ε Unit} :
    (first >>= fun _ => second) = .ok () ↔ first = .ok () ∧ second = .ok () := by
  rw [bind_eq_ok_iff]
  constructor
  · rintro ⟨value, passed, rest⟩
    exact ⟨passed, rest⟩
  · rintro ⟨passed, rest⟩
    exact ⟨(), passed, rest⟩

/-- A step that may be left out succeeds if it is left out or does. -/
theorem mapM_eq_ok_iff {found : Option α} {made : Option β} {read : α → Except ε β} :
    found.mapM read = .ok made ↔ Option.Rel (fun value result => read value = .ok result) found
      made := by
  constructor
  · intro readable
    cases found with
    | none =>
        cases readable
        exact .none
    | some value =>
        obtain ⟨result, read, same⟩ := bind_eq_ok_iff.mp readable
        cases same
        exact .some read
  · intro related
    cases related with
    | none => rfl
    | some read =>
        rw [Option.mapM_some, read]
        rfl

/-! ### Steps without results -/

/-- Without its result, a step succeeds as before. -/
theorem discard_eq_ok_iff {step : Except ε α} :
    discard step = .ok () ↔ ∃ value, step = .ok value := by
  cases step with
  | error error =>
      constructor
      · intro passed
        cases passed
      · rintro ⟨value, passed⟩
        cases passed
  | ok value => exact ⟨fun _ => ⟨value, rfl⟩, fun _ => rfl⟩

/-- Without its result, a step fails as before. -/
theorem discard_eq_error_iff {step : Except ε α} {error : ε} :
    discard step = .error error ↔ step = .error error := by
  cases step with
  | error other =>
      constructor
      · intro failed
        cases failed
        rfl
      · intro failed
        cases failed
        rfl
  | ok value =>
      constructor
      · intro failed
        cases failed
      · intro failed
        cases failed

/-- Without their results, two steps are two checks, if what the first one gives does not matter
to the second. -/
theorem discard_bind {first : Except ε α} {next : α → Except ε β} {check rest : Except ε Unit}
    (checked : discard first = check) (onward : ∀ value, discard (next value) = rest) :
    discard (first >>= next) = check >>= fun _ => rest := by
  subst checked
  cases first with
  | error error => rfl
  | ok value => exact onward value

/-- Without its result, a step that may be left out is a check that may be left out. -/
theorem discard_mapM {found : Option α} {read : α → Except ε β} {check : α → Except ε Unit}
    (checked : ∀ value, discard (read value) = check value) :
    discard (found.mapM read) = found.elim (.ok ()) check := by
  cases found with
  | none => rfl
  | some value =>
      rw [Option.elim_some, ← checked, Option.mapM_some]
      cases read value <;> rfl

/-- Without its result, a step with a default is a check that may be left out. -/
theorem discard_elim {found : Option α} {default : β} {read : α → Except ε β} :
    discard (found.elim (.ok default) read) =
      found.elim (.ok ()) fun value => discard (read value) := by
  cases found <;> rfl

/-! ### Checks of a list -/

variable {check : α → Except ε Unit} {xs : List α}

/-- All members of a list pass if each of them does. -/
theorem forM_eq_ok_iff : xs.forM check = .ok () ↔ ∀ x ∈ xs, check x = .ok () := by
  induction xs with
  | nil => simp [pure, Except.pure]
  | cons first rest inductionHypothesis =>
      have steps : (first :: rest).forM check = check first >>= fun _ => rest.forM check := rfl
      rw [steps, check_eq_ok_iff, inductionHypothesis, List.forall_mem_cons]

/-- A list is refused for its first member that does not pass; what is behind it is not looked
at. -/
theorem forM_eq_error_iff {error : ε} :
    xs.forM check = .error error ↔ ∃ before x after, xs = before ++ x :: after ∧
      (∀ earlier ∈ before, check earlier = .ok ()) ∧ check x = .error error := by
  induction xs with
  | nil => simp [pure, Except.pure]
  | cons first rest inductionHypothesis =>
      have steps : (first :: rest).forM check = check first >>= fun _ => rest.forM check := rfl
      rw [steps]
      cases passes : check first with
      | error fault =>
          constructor
          · intro refused
            cases refused
            exact ⟨[], first, rest, rfl, by simp, passes⟩
          · rintro ⟨before, x, after, split, passed, refused⟩
            cases before with
            | nil =>
                cases split
                exact passes.symm.trans refused
            | cons other before =>
                cases split
                cases passes.symm.trans (passed first (by simp))
      | ok =>
          have onward : (.ok () >>= fun _ => rest.forM check) = rest.forM check := rfl
          rw [onward, inductionHypothesis]
          constructor
          · rintro ⟨before, x, after, rfl, passed, refused⟩
            refine ⟨first :: before, x, after, rfl, ?_, refused⟩
            exact List.forall_mem_cons.mpr ⟨passes, passed⟩
          · rintro ⟨before, x, after, split, passed, refused⟩
            cases before with
            | nil =>
                cases split
                cases passes.symm.trans refused
            | cons other before =>
                cases split
                exact ⟨before, x, after, rfl, (List.forall_mem_cons.mp passed).2, refused⟩

end Notebook.Except
