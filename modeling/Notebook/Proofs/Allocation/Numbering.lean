import Notebook.Proofs.Store.Database

/-!
# Next ids

The next id of rows is beyond all of theirs, so no row has it. Rows that have the ids from zero
on, without a gap, still have no gap when one more row has the next id.
-/

namespace Notebook.Database

variable {rows : List Row} {row : Row} {id : Int64} {count : Nat}

/-- The next id is beyond all others. -/
theorem IsNextId.lt (next : IsNextId rows id) {number : Int}
    (member : number ∈ rows.filterMap idNumber?) : number < id.toInt := by
  unfold IsNextId at next
  cases maximal : (rows.filterMap idNumber?).max? with
  | none =>
      rw [List.max?_eq_none_iff.mp maximal] at member
      cases member
  | some greatest =>
      have bound := (List.max?_eq_some_iff.mp maximal).2 number member
      rw [maximal, Option.getD_some] at next
      omega

/-- No row has the next id. -/
theorem IsNextId.not_met (next : IsNextId rows id) (member : row ∈ rows) :
    row.get? "id" ≠ some (.int id) := by
  intro same
  have numbered : idNumber? row = some id.toInt := by rw [idNumber?, same]
  exact Int.lt_irrefl _ (next.lt (List.mem_filterMap.mpr ⟨row, member, numbered⟩))

/-- The rows have the ids from zero up to a number, each of them once. -/
def Numbered (rows : List Row) (count : Nat) : Prop :=
  (rows.map idNumber?).Perm ((List.range count).map fun number : Nat => some (number : Int))

/-- The next id of numbered rows is their number. -/
theorem Numbered.toInt_eq (numbered : Numbered rows count) (next : IsNextId rows id) :
    id.toInt = count := by
  have ids (number : Int) :
      number ∈ rows.filterMap idNumber? ↔ ∃ place < count, (place : Int) = number := by
    have member := numbered.mem_iff (a := some number)
    simp only [List.mem_map, List.mem_range, Option.some.injEq] at member
    rw [List.mem_filterMap, member]
  unfold IsNextId at next
  cases count with
  | zero =>
      have none : rows.filterMap idNumber? = [] :=
        List.eq_nil_iff_forall_not_mem.mpr fun number member => by
          obtain ⟨place, bound, _⟩ := (ids number).mp member
          exact absurd bound (Nat.not_lt_zero place)
      rw [next, none]
      rfl
  | succ last =>
      have maximal : (rows.filterMap idNumber?).max? = some (last : Int) := by
        refine List.max?_eq_some_iff.mpr ⟨(ids last).mpr ⟨last, Nat.lt_succ_self last, rfl⟩, ?_⟩
        intro number member
        obtain ⟨place, bound, rfl⟩ := (ids number).mp member
        omega
      rw [next, maximal]
      rfl

/-- Rows with a row under their next id are numbered, if the others are. -/
theorem Numbered.cons (numbered : Numbered rows count) (next : IsNextId rows id)
    (hasId : row.get? "id" = some (.int id)) : Numbered (row :: rows) (count + 1) := by
  have number : idNumber? row = some (count : Int) := by
    rw [idNumber?, hasId, ← numbered.toInt_eq next]
  rw [Numbered, List.map_cons, number, List.range_succ, List.map_append, List.map_singleton]
  exact (List.Perm.cons _ numbered).trans (List.perm_append_singleton _ _).symm

/-- Besides the rows that there were, exactly these are stored now, all under ids of their own,
and none is left out if none was. -/
structure Extends (before added now : List Row) : Prop where
  stored : now.Perm (added ++ before)
  ids : (now.map fun row => row.get? "id").Nodup
  numbered : ∀ count, Numbered before count → Numbered now (count + added.length)

namespace Extends

variable {before added now : List Row}

/-- Nothing is added to begin with. -/
theorem refl (ids : (before.map fun row => row.get? "id").Nodup) : Extends before [] before where
  stored := .refl before
  ids := ids
  numbered := fun _ numbered => numbered

/-- In which order rows were added does not matter. -/
theorem perm {added' : List Row} (extended : Extends before added now) (same : added'.Perm added) :
    Extends before added' now where
  stored := extended.stored.trans (same.symm.append_right before)
  ids := extended.ids
  numbered := fun count numbered => same.length_eq ▸ extended.numbered count numbered

/-- A row is added under the next id. -/
theorem cons (extended : Extends before added now) (next : IsNextId now id)
    (hasId : row.get? "id" = some (.int id)) : Extends before (row :: added) (row :: now) where
  stored := extended.stored.cons row
  ids := by
    refine List.nodup_cons.mpr ⟨fun member => ?_, extended.ids⟩
    obtain ⟨other, stored, same⟩ := List.mem_map.mp member
    exact next.not_met stored (same.trans hasId)
  numbered := fun count numbered => (extended.numbered count numbered).cons next hasId

end Extends

end Notebook.Database
