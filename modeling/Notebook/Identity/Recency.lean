/-!
# Bounded recency maps

A map that keeps at most `capacity` entries, the most recently used first.
Finding an entry by `use` and storing one by `push` make it the most recent; a
new entry in a full map displaces the least recent one. Keys are distinct and
the bound holds in every map, by type.
-/

namespace Notebook

/-- A bounded map whose entries are ordered by use, the most recent first. -/
structure Recency (Key Item : Type) where
  capacity : Nat
  entries : List (Key × Item)
  capacity_pos : 0 < capacity
  keys_nodup : (entries.map Prod.fst).Nodup
  size_le : entries.length ≤ capacity

namespace Recency

variable {Key Item : Type} [DecidableEq Key]

/-- A map without entries. -/
def empty (capacity : Nat) (capacity_pos : 0 < capacity) : Recency Key Item :=
  ⟨capacity, [], capacity_pos, List.nodup_nil, Nat.zero_le _⟩

/-- How many entries there are. -/
def size (map : Recency Key Item) : Nat :=
  map.entries.length

/-- The entry of a key, whatever its place. -/
def entry? (map : Recency Key Item) (key : Key) : Option (Key × Item) :=
  map.entries.find? fun entry => entry.1 = key

/-- The item of a key; the order of use stays as it is. -/
def get? (map : Recency Key Item) (key : Key) : Option Item :=
  (map.entry? key).map Prod.snd

/-- The entries of all other keys. -/
def others (map : Recency Key Item) (key : Key) : List (Key × Item) :=
  map.entries.filter fun entry => entry.1 ≠ key

/-- No other entry has the key. -/
theorem not_mem_others (map : Recency Key Item) (key : Key) :
    key ∉ (map.others key).map Prod.fst := by
  simp [others]

/-- The other entries still have distinct keys. -/
theorem others_nodup (map : Recency Key Item) (key : Key) :
    ((map.others key).map Prod.fst).Nodup :=
  map.keys_nodup.sublist (List.filter_sublist.map _)

/-- There are no more other entries than entries. -/
theorem others_length_le (map : Recency Key Item) (key : Key) :
    (map.others key).length ≤ map.entries.length :=
  List.length_filter_le _ _

/-- There are fewer other entries than entries if the key has one. -/
theorem others_length_lt {map : Recency Key Item} {key : Key} {entry : Key × Item}
    (found : map.entry? key = some entry) :
    (map.others key).length < map.entries.length := by
  refine List.length_filter_lt_length_iff_exists.2
    ⟨entry, List.mem_of_find?_eq_some found, ?_⟩
  have same := List.find?_some found
  simpa using same

/-- The map without the entry of a key. -/
def erase (map : Recency Key Item) (key : Key) : Recency Key Item where
  capacity := map.capacity
  entries := map.others key
  capacity_pos := map.capacity_pos
  keys_nodup := map.others_nodup key
  size_le := Nat.le_trans (map.others_length_le key) map.size_le

/-- The map with the entry of a present key replaced and made the most recent. -/
def refresh (map : Recency Key Item) (key : Key) (item : Item)
    (found : (map.entry? key).isSome) : Recency Key Item where
  capacity := map.capacity
  entries := (key, item) :: map.others key
  capacity_pos := map.capacity_pos
  keys_nodup := List.nodup_cons.2 ⟨map.not_mem_others key, map.others_nodup key⟩
  size_le := by
    obtain ⟨entry, found⟩ := Option.isSome_iff_exists.1 found
    exact Nat.le_trans (others_length_lt found) map.size_le

/-- The map with a further entry in front, which displaces the last one if the
map is full. -/
def insertNew (map : Recency Key Item) (key : Key) (item : Item)
    (absent : map.entry? key = none) : Recency Key Item where
  capacity := map.capacity
  entries := (key, item) :: map.entries.take (map.capacity - 1)
  capacity_pos := map.capacity_pos
  keys_nodup := by
    have kept : ((map.entries.take (map.capacity - 1)).map Prod.fst).Sublist
        (map.entries.map Prod.fst) := (List.take_sublist _ _).map _
    refine List.nodup_cons.2 ⟨fun member => ?_, map.keys_nodup.sublist kept⟩
    obtain ⟨entry, present, same⟩ := List.mem_map.1 (kept.subset member)
    have different := List.find?_eq_none.1 absent entry present
    exact different (by simpa using same)
  size_le := by
    have positive := map.capacity_pos
    simp only [List.length_cons, List.length_take]
    omega

/-- Finds the item of a key and makes its entry the most recent. -/
def use (map : Recency Key Item) (key : Key) : Option Item × Recency Key Item :=
  match found : map.entry? key with
  | some entry => (some entry.2, map.refresh key entry.2 (by simp [found]))
  | none => (none, map)

/-- Stores an item as the most recent. Gives back the entry that it replaces or
displaces: the old one of the key, else the least recent one of a full map. -/
def push (map : Recency Key Item) (key : Key) (item : Item) :
    Option (Key × Item) × Recency Key Item :=
  match found : map.entry? key with
  | some entry => (some entry, map.refresh key item (by simp [found]))
  | none =>
      (if map.entries.length < map.capacity then none else map.entries.getLast?,
        map.insertNew key item found)

end Recency

end Notebook
