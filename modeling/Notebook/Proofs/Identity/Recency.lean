import Mathlib.Data.List.Nodup
import Notebook.Identity.Recency

/-!
# What recency maps keep

Which entries there are after each use of a bounded recency map. The order of use decides
only which entry a full map displaces, and `push` gives that entry back; so what is kept can
be said without the order.
-/

namespace Notebook.Recency

variable {Key Item : Type} [DecidableEq Key] {map : Recency Key Item} {key : Key}
  {item old : Item} {entry other : Key × Item}

/-! ### Finding -/

omit [DecidableEq Key] in
/-- A key has one entry. -/
theorem eq_of_mem (member : entry ∈ map.entries) (member' : other ∈ map.entries)
    (same : entry.1 = other.1) : entry = other :=
  List.inj_on_of_nodup_map map.keys_nodup member member' same

/-- The entry of a key is the one with that key. -/
theorem entry?_eq_some_iff : map.entry? key = some entry ↔ entry ∈ map.entries ∧ entry.1 = key := by
  constructor
  · intro found
    exact ⟨List.mem_of_find?_eq_some found, by simpa using List.find?_some found⟩
  · rintro ⟨member, rfl⟩
    have present : (map.entry? entry.1).isSome :=
      List.find?_isSome.mpr ⟨entry, member, by simp⟩
    obtain ⟨found, same⟩ := Option.isSome_iff_exists.mp present
    have key : found.1 = entry.1 := by simpa using List.find?_some same
    rw [same, eq_of_mem (List.mem_of_find?_eq_some same) member key]

/-- The item of a key is the one in its entry. -/
theorem get?_eq_some_iff : map.get? key = some item ↔ (key, item) ∈ map.entries := by
  unfold get?
  rw [Option.map_eq_some_iff]
  constructor
  · rintro ⟨entry, found, rfl⟩
    obtain ⟨member, rfl⟩ := entry?_eq_some_iff.mp found
    exact member
  · exact fun member => ⟨_, entry?_eq_some_iff.mpr ⟨member, rfl⟩, rfl⟩

/-- Using a key gives its item. -/
@[simp]
theorem use_fst (map : Recency Key Item) (key : Key) : (map.use key).1 = map.get? key := by
  unfold use get?
  split
  next entry found => exact (congrArg (Option.map Prod.snd) found).symm
  next absent => exact (congrArg (Option.map Prod.snd) absent).symm

/-! ### Changing -/

/-- Using a key changes the order only. -/
theorem mem_use_iff : entry ∈ (map.use key).2.entries ↔ entry ∈ map.entries := by
  unfold use
  split
  next found present =>
    obtain ⟨stored, rfl⟩ := entry?_eq_some_iff.mp present
    have kept : entry ∈ map.others found.1 ↔ entry ∈ map.entries ∧ entry.1 ≠ found.1 := by
      simp [others]
    rw [refresh, List.mem_cons, kept]
    constructor
    · rintro (rfl | ⟨member, _⟩)
      · exact stored
      · exact member
    · intro member
      by_cases same : entry.1 = found.1
      · exact .inl (eq_of_mem member stored same)
      · exact .inr ⟨member, same⟩
  next => exact Iff.rfl

/-- Erasing a key takes away its entry and no other. -/
theorem mem_erase_iff : entry ∈ (map.erase key).entries ↔ entry ∈ map.entries ∧ entry.1 ≠ key := by
  simp [erase, others]

/-- Erasing a key leaves the items of all others. -/
theorem get?_erase_of_ne {other : Key} (apart : other ≠ key) :
    (map.erase key).get? other = map.get? other := by
  ext item
  rw [get?_eq_some_iff, get?_eq_some_iff, mem_erase_iff]
  exact and_iff_left apart

/-- What is given back for a key that is present is its entry. -/
theorem push_fst_of_mem (member : (key, old) ∈ map.entries) (item : Item) :
    (map.push key item).1 = some (key, old) := by
  have present : map.entry? key = some (key, old) := entry?_eq_some_iff.mpr ⟨member, rfl⟩
  unfold push
  split
  next entry found =>
    rw [found] at present
    exact present
  next absent => rw [absent] at present; cases present

omit [DecidableEq Key] in
/-- Of distinct entries all but the last are kept if the last is dropped. -/
theorem mem_dropLast_iff {entries : List (Key × Item)} (distinct : entries.Nodup) :
    entry ∈ entries.dropLast ↔ entry ∈ entries ∧ entries.getLast? ≠ some entry := by
  rcases List.eq_nil_or_concat entries with rfl | ⟨front, last, rfl⟩
  · simp
  rw [List.concat_eq_append] at distinct ⊢
  have apart : last ∉ front := fun member =>
    (List.nodup_append.mp distinct).2.2 last member last (List.mem_singleton_self _) rfl
  simp only [List.dropLast_concat, List.getLast?_concat, List.mem_append, List.mem_singleton,
    ne_eq, Option.some.injEq]
  constructor
  · exact fun member => ⟨.inl member, fun same => apart (same ▸ member)⟩
  · rintro ⟨member | same, different⟩
    · exact member
    · exact absurd same.symm different

/-- Storing an item keeps all entries but the one that is given back. -/
theorem mem_push_iff :
    entry ∈ (map.push key item).2.entries ↔
      entry = (key, item) ∨ entry ∈ map.entries ∧ (map.push key item).1 ≠ some entry := by
  unfold push
  split
  next found present =>
    obtain ⟨stored, rfl⟩ := entry?_eq_some_iff.mp present
    have kept : entry ∈ map.others found.1 ↔ entry ∈ map.entries ∧ found ≠ entry := by
      simp only [others, List.mem_filter, decide_eq_true_eq, ne_eq]
      refine and_congr_right fun member => not_congr ⟨fun same => ?_, fun same => ?_⟩
      · exact (eq_of_mem member stored same).symm
      · rw [same]
    simp [refresh, kept]
  next absent =>
    have kept : entry ∈ map.entries.take (map.capacity - 1) ↔ entry ∈ map.entries ∧
        (if map.entries.length < map.capacity then none else map.entries.getLast?) ≠
          some entry := by
      have bound := map.size_le
      have positive := map.capacity_pos
      split
      next free => rw [List.take_of_length_le (by omega)]; simp
      next full =>
        have length : map.capacity = map.entries.length := by omega
        rw [length, ← List.dropLast_eq_take]
        exact mem_dropLast_iff map.keys_nodup.of_map
    simp [insertNew, kept]

/-- What is given back was there. -/
theorem mem_of_push (gone : (map.push key item).1 = some entry) : entry ∈ map.entries := by
  unfold push at gone
  split at gone
  next found present =>
    cases gone
    exact (entry?_eq_some_iff.mp present).1
  next =>
    split at gone
    next => cases gone
    next => exact List.mem_of_getLast? gone

/-- Nothing is displaced while there is room: what is given back is the old entry of the
key. -/
theorem key_of_push (room : map.get? key = none → map.size < map.capacity)
    (gone : (map.push key item).1 = some entry) : entry.1 = key := by
  unfold push at gone
  split at gone
  next found present =>
    cases gone
    exact (entry?_eq_some_iff.mp present).2
  next absent =>
    have free : map.entries.length < map.capacity := room (by rw [get?, absent]; rfl)
    rw [if_pos free] at gone
    cases gone

/-! ### The order of use -/

/-- A key without an entry has all entries for its others. -/
theorem others_of_absent (absent : map.get? key = none) : map.others key = map.entries := by
  rw [others, List.filter_eq_self]
  rintro ⟨other, item⟩ member
  have apart : other ≠ key := by
    rintro rfl
    rw [get?_eq_some_iff.mpr member] at absent
    cases absent
  simpa using apart

/-- Looking for a key without an entry changes nothing. -/
theorem use_of_absent (absent : map.get? key = none) : map.use key = (none, map) := by
  unfold use
  split
  next entry found => simp [get?, found] at absent
  next => rfl

/-- The entries with a new one for a key in front, as many as there is room for. -/
def inFront (map : Recency Key Item) (key : Key) (item : Item) : List (Key × Item) :=
  ((key, item) :: map.others key).take map.capacity

/-- There is room for all entries where the key had one. -/
theorem inFront_of_present {entry : Key × Item} (present : map.entry? key = some entry) :
    map.inFront key item = (key, item) :: map.others key :=
  List.take_of_length_le (Nat.le_trans (others_length_lt present) map.size_le)

/-- A key that is found has its entry in front. -/
theorem entries_use (found : map.get? key = some item) :
    (map.use key).2.entries = map.inFront key item := by
  obtain ⟨entry, present, rfl⟩ := Option.map_eq_some_iff.mp found
  rw [inFront_of_present present]
  unfold use
  split
  next other present' =>
    rw [present] at present'
    cases present'
    rfl
  next absent =>
    rw [present] at absent
    cases absent

/-- An item that is stored is in front. -/
theorem entries_push (map : Recency Key Item) (key : Key) (item : Item) :
    (map.push key item).2.entries = map.inFront key item := by
  unfold push
  split
  next entry present => exact (inFront_of_present present).symm
  next absent =>
    have all : map.others key = map.entries := others_of_absent (by rw [get?, absent]; rfl)
    obtain ⟨rest, capacity⟩ := Nat.exists_eq_succ_of_ne_zero (Nat.ne_of_gt map.capacity_pos)
    simp only [insertNew, inFront, all, capacity, List.take_succ_cons, Nat.succ_sub_one]

/-! ### Capacities -/

@[simp]
theorem capacity_use (map : Recency Key Item) (key : Key) :
    (map.use key).2.capacity = map.capacity := by
  unfold use
  split <;> rfl

@[simp]
theorem capacity_erase (map : Recency Key Item) (key : Key) :
    (map.erase key).capacity = map.capacity := rfl

@[simp]
theorem capacity_push (map : Recency Key Item) (key : Key) (item : Item) :
    (map.push key item).2.capacity = map.capacity := by
  unfold push
  split <;> rfl

end Notebook.Recency
