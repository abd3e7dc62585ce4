import Notebook.Proofs.Entity.Edit
import Notebook.Proofs.Json.Record

/-!
# Edits of notes read from JSON

An edit of a note is read from every text of an object that has one member for each field that is
given, in any order and among members of other names. For the set `null` is a value of its own,
which takes the note out of its set; for the other fields it is the same as their absence.

The edit that is read is the one that was written, with its timestamp settled
(`NoteChanges.ofScan_ofMembers`). So it is the same one if its timestamp is in no leap second but
one at the end of a minute.
-/

namespace Notebook.NoteChanges

open Notebook.Json

/-! ### Members -/

/-- The fields that an edit may give. -/
def names : List String := ["set", "timestamp", "body", "marked"]

/-- The fields for which `null` is the same as their absence. -/
def nullable : List String := ["timestamp", "body", "marked"]

/-- The fields of an edit: under each name what is written for it, if it is given. -/
def written (changes : NoteChanges) : List (String × Option Json) :=
  [("set", changes.set.map fun set => (set.map fun id => Json.int id.toInt).getD .null),
    ("timestamp", changes.timestamp.map fun time => .text time.text),
    ("body", changes.body.map .text), ("marked", changes.marked.map .bool)]

/-- The members that an edit is written as, one for each field that is given. -/
def members (changes : NoteChanges) : List (String × Json) :=
  Table.assigned changes.written

/-- The members of an edit, and `null` for other fields. -/
def membersWith (changes : NoteChanges) (nulls : List String) : List (String × Json) :=
  changes.members ++ nulls.map fun name => (name, .null)

/-- These are different fields that the edit does not give, and would not give as `null`. -/
structure LeavesOut (changes : NoteChanges) (nulls : List String) : Prop where
  distinct : nulls.Nodup
  nullable : ∀ name ∈ nulls, name ∈ nullable
  absent : ∀ name ∈ nulls, name ∉ changes.members.map Prod.fst

variable {changes : NoteChanges} {nulls : List String} {name : String}

/-- Only fields that an edit may give are given, each at most once. -/
theorem members_sublist (changes : NoteChanges) : (changes.members.map Prod.fst).Sublist names :=
  Table.assigned_sublist changes.written

/-- A field is written as what is given for it. -/
theorem lookup_members (changes : NoteChanges) (name : String) :
    changes.members.lookup name = (changes.written.lookup name).join := by
  have distinct : (changes.written.map Prod.fst).Nodup := by
    change names.Nodup
    decide
  exact Table.lookup_assigned distinct name

/-- Where `null` is added, no name is there twice. -/
theorem LeavesOut.nodup (leavesOut : changes.LeavesOut nulls) :
    ((changes.membersWith nulls).map Prod.fst).Nodup := by
  have once : (changes.members.map Prod.fst).Nodup :=
    (changes.members_sublist).nodup (by decide)
  rw [membersWith, List.map_append, List.map_map]
  refine once.append (by simpa [Function.comp_def] using leavesOut.distinct) ?_
  intro name given added
  exact leavesOut.absent name (by simpa using added) given

/-- Where `null` is added, there are still only names of fields. -/
theorem LeavesOut.mem_names (leavesOut : changes.LeavesOut nulls)
    (member : name ∈ (changes.membersWith nulls).map Prod.fst) : name ∈ names := by
  rw [membersWith, List.map_append, List.mem_append] at member
  rcases member with given | added
  · exact changes.members_sublist.subset given
  · have left := leavesOut.nullable name (by simpa using added)
    exact List.mem_cons_of_mem _ left

/-! ### Reading -/

/-- The edit with its timestamp settled. -/
def settled (changes : NoteChanges) : NoteChanges :=
  { changes with timestamp := changes.timestamp.map Timestamp.settled }

/-- An edit to a timestamp that is in no leap second but one at the end of a minute stays as it
is. -/
theorem settled_eq_self (leaps : ∀ time ∈ changes.timestamp, time.LeapsAtMinuteEnd) :
    changes.settled = changes := by
  have same : changes.timestamp.map Timestamp.settled = changes.timestamp := by
    cases given : changes.timestamp with
    | none => rfl
    | some time => exact congrArg some (Timestamp.settled_eq_self_iff.mpr (leaps time given))
  rw [settled, same]

/-- The fields as they are read. -/
def checks : List (Json.Field Unit) :=
  [setField.check, timestampField.check, bodyField.check, markedField.check]

/-- What is scanned for the members of an edit and those that are added. -/
def scanned (changes : NoteChanges) (nulls : List String) : Given :=
  Scan.named (changes.membersWith nulls)

/-- What is scanned where `null` was added. -/
def added (nulls : List String) : Given :=
  nulls.map fun name => (name, Scan.null)

/-- What is found where `null` was added is `null`. -/
theorem eq_null_of_lookup {found : Scan} (looked : (added nulls).lookup name = some found) :
    found = .null := by
  obtain ⟨front, back, split, _⟩ := List.lookup_eq_some_iff.mp looked
  have member : (name, found) ∈ added nulls := by
    rw [split]
    simp
  obtain ⟨_, _, same⟩ := List.mem_map.mp member
  exact (Prod.mk.inj same).2.symm

/-- What is found under the name of a field is what is given for it, or else what was added. -/
theorem lookup_scanned {value : Option Json} (field : changes.written.lookup name = some value) :
    (changes.scanned nulls).lookup name =
      (value.map Json.scanned).or ((added nulls).lookup name) := by
  have given : (Scan.named changes.members).lookup name =
      (changes.members.lookup name).map Json.scanned :=
    Row.lookup_map changes.members (fun _ json => json.scanned) name
  have nulled : Scan.named (nulls.map fun name => (name, Json.null)) = added nulls := by
    simp [Scan.named, added, Json.scanned]
  have split : changes.scanned nulls = Scan.named changes.members ++ added nulls := by
    rw [← nulled]
    exact List.map_append
  rw [split, List.lookup_append, given, lookup_members, field, Option.join_some]

/-- The set is read as it is given, `null` as well. -/
theorem given?_set (leavesOut : changes.LeavesOut nulls) :
    (changes.scanned nulls).given? setField = .ok changes.set := by
  have absent : (added nulls).lookup "set" = none := by
    refine Row.lookup_eq_none fun member => ?_
    have left := leavesOut.nullable "set" (by simpa [added, Function.comp_def] using member)
    exact absurd left (by decide)
  have looked : (changes.scanned nulls).lookup "set" = _ := lookup_scanned rfl
  rw [absent, Option.or_none, Option.map_map] at looked
  cases given : changes.set with
  | none =>
      rw [given, Option.map_none] at looked
      exact Given.given?_eq_none looked
  | some set =>
      rw [given, Option.map_some] at looked
      exact Given.given?_eq_some looked (Scan.optional_int64_scanned set)

/-- A field for which `null` is the same as its absence is read as what is given back for it. -/
theorem nullable_scanned {α : Type} {field : Json.Field (Option α)} {read : Scan → Except Fault α}
    {write : α → Json} {back : α → α} {value : Option α}
    (written : changes.written.lookup field.name = some (value.map write))
    (reader : field.read = Scan.optional read)
    (reads : ∀ value, read (write value).scanned = .ok (back value))
    (present : ∀ value, (write value).scanned ≠ .null) :
    (changes.scanned nulls).nullable field = .ok (value.map back) := by
  have looked : (changes.scanned nulls).lookup field.name = _ := lookup_scanned written
  rw [Option.map_map] at looked
  exact Given.nullable_optional reader reads present (fun _ => eq_null_of_lookup) looked

/-- The timestamp is read settled. -/
theorem nullable_timestamp (changes : NoteChanges) (nulls : List String) :
    (changes.scanned nulls).nullable timestampField = .ok changes.settled.timestamp :=
  nullable_scanned rfl rfl Scan.timestamp_scanned fun _ => by simp [Json.scanned]

/-- The body is read as it is given. -/
theorem nullable_body (changes : NoteChanges) (nulls : List String) :
    (changes.scanned nulls).nullable bodyField = .ok changes.body := by
  simpa using nullable_scanned rfl rfl Scan.string_scanned fun _ => by simp [Json.scanned]

/-- The mark is read as it is given. -/
theorem nullable_marked (changes : NoteChanges) (nulls : List String) :
    (changes.scanned nulls).nullable markedField = .ok changes.marked := by
  simpa using nullable_scanned rfl rfl Scan.boolean_scanned fun _ => by simp [Json.scanned]

/-- What is scanned under each name. -/
theorem map_fst_scanned (changes : NoteChanges) (nulls : List String) :
    (changes.scanned nulls).map Prod.fst = (changes.membersWith nulls).map Prod.fst := by
  simp [scanned, Scan.named, Function.comp_def]

/-- The members of an edit and those that are added fit their fields. -/
theorem fits_scanned (leavesOut : changes.LeavesOut nulls) {member : String × Scan}
    (inside : member ∈ changes.scanned nulls) : Scan.Fits checks member := by
  obtain ⟨name, found⟩ := member
  have names := map_fst_scanned changes nulls
  have once : ((changes.scanned nulls).map Prod.fst).Nodup := by
    rw [names]
    exact leavesOut.nodup
  have known : name ∈ (changes.scanned nulls).map Prod.fst := List.mem_map_of_mem inside
  rw [names] at known
  have looked := Given.lookup_of_mem once inside
  have field := leavesOut.mem_names known
  simp only [NoteChanges.names, List.mem_cons, List.not_mem_nil, or_false] at field
  rcases field with rfl | rfl | rfl | rfl
  · exact Given.check_of_given? (given?_set leavesOut) looked
  · exact Given.check_of_nullable (nullable_timestamp changes nulls) looked
  · exact Given.check_of_nullable (nullable_body changes nulls) looked
  · exact Given.check_of_nullable (nullable_marked changes nulls) looked

/-- An edit is read from its members and those that are added, in any order and among members of
other names, with its timestamp settled. -/
theorem ofScan_ofMembers (leavesOut : changes.LeavesOut nulls)
    {others members : List (String × Scan)} (unknown : ∀ member ∈ others, member.1 ∉ names)
    (order : members.Perm (changes.scanned nulls ++ others))
    (whole : ∀ member ∈ members, member.2.isWhole = true) :
    ofScan (.ofMembers members) = .ok changes.settled := by
  have fit : ∀ member ∈ members, Scan.Fits checks member := by
    intro member inside
    rcases List.mem_append.mp (order.mem_iff.mp inside) with given | other
    · exact fits_scanned leavesOut given
    · exact Scan.fits_of_unknown (unknown member other) (whole member inside)
  have kept : (Scan.kept checks members).Perm (changes.scanned nulls) := by
    have fields : Scan.kept checks (changes.scanned nulls) = changes.scanned nulls := by
      refine List.filter_eq_self.mpr fun member inside => Scan.isKnown_iff.mpr ?_
      have known := List.mem_map_of_mem (f := Prod.fst) inside
      rw [map_fst_scanned] at known
      exact leavesOut.mem_names known
    have none : Scan.kept checks others = [] := by
      refine List.filter_eq_nil_iff.mpr fun member other known => ?_
      exact unknown member other (Scan.isKnown_iff.mp known)
    have filtered := order.filter fun member => Scan.isKnown checks member.1
    rwa [List.filter_append, ← Scan.kept, ← Scan.kept, ← Scan.kept, fields, none,
      List.append_nil] at filtered
  have once : ((Scan.kept checks members).map Prod.fst).Nodup := by
    rw [(kept.map Prod.fst).nodup_iff, map_fst_scanned]
    exact leavesOut.nodup
  have looked (name : String) := Given.lookup_perm kept once name
  rw [Scan.map_fst_kept] at once
  refine Except.bind_eq_ok_iff.mpr ⟨Scan.kept checks members, Scan.record_ofMembers fit once, ?_⟩
  refine Except.bind_eq_ok_iff.mpr ⟨changes.set, ?set, ?_⟩
  case set => rw [Given.given?_congr (looked _), given?_set leavesOut]
  refine Except.bind_eq_ok_iff.mpr ⟨changes.settled.timestamp, ?timestamp, ?_⟩
  case timestamp => rw [Given.nullable_congr (looked _), nullable_timestamp]
  refine Except.bind_eq_ok_iff.mpr ⟨changes.body, ?body, ?_⟩
  case body => rw [Given.nullable_congr (looked _), nullable_body]
  refine Except.bind_eq_ok_iff.mpr ⟨changes.marked, ?marked, rfl⟩
  case marked => rw [Given.nullable_congr (looked _), nullable_marked]

/-- An object with two members for one field is not read. -/
theorem ofScan_of_twice {members : List (String × Scan)} (field : name ∈ names)
    (twice : 1 < (members.map Prod.fst).count name) :
    ∃ fault, ofScan (.ofMembers members) = .error fault := by
  have known : Scan.isKnown checks name = true := Scan.isKnown_iff.mpr field
  obtain ⟨fault, failed⟩ := Scan.record_of_twice known twice
  cases read : ofScan (.ofMembers members) with
  | error fault => exact ⟨fault, rfl⟩
  | ok changes =>
      obtain ⟨given, passed, _⟩ := Except.bind_eq_ok_iff.mp read
      cases failed.symm.trans passed

/-- The edit that also takes the note out of its set. -/
def clearing (changes : NoteChanges) : NoteChanges :=
  { changes with set := some none }

/-- To take the note out of its set as well is written as one more member. -/
theorem members_clearing (absent : changes.set = none) :
    changes.clearing.members = ("set", .null) :: changes.members := by
  simp [members, written, clearing, absent, Table.assigned]

/-- Where the set is given as well, the same fields are left out. -/
theorem LeavesOut.clearing (leavesOut : changes.LeavesOut nulls) (absent : changes.set = none) :
    changes.clearing.LeavesOut nulls where
  distinct := leavesOut.distinct
  nullable := leavesOut.nullable
  absent := by
    intro name member
    rw [members_clearing absent, List.map_cons, List.mem_cons, not_or]
    refine ⟨?_, leavesOut.absent name member⟩
    rintro rfl
    exact absurd (leavesOut.nullable _ member) (by decide)

/-! ### The result -/

/-- An edit is read from every text of an object that has one member for each field that the edit
gives, in any order and among members of other names. It makes no difference if `null` is added
for fields that are not given, except for the set: there it is read as taking the note out of its
set. This holds of edits to a timestamp that is in no leap second but one at the end of a minute.
No text of an object with two members for one field is read. -/
theorem null_is_given_for_set_alone {others : List (String × Scan)}
    (leavesOut : changes.LeavesOut nulls) (unknown : ∀ member ∈ others, member.1 ∉ names) :
    ((∀ time ∈ changes.timestamp, time.LeapsAtMinuteEnd) →
      (∀ (members : List (String × Scan)) (text : String),
        members.Perm (Scan.named (changes.membersWith nulls) ++ others) →
        HasText (.value (.ofMembers members)) text.toList →
        readWhole ofScan text = .ok changes) ∧
      (changes.set = none → ∀ (members : List (String × Scan)) (text : String),
        members.Perm (("set", .null) :: Scan.named (changes.membersWith nulls) ++ others) →
        HasText (.value (.ofMembers members)) text.toList →
        readWhole ofScan text = .ok { changes with set := some none })) ∧
    ∀ (members : List (String × Scan)) (text : String), ∀ name ∈ names,
      1 < (members.map Prod.fst).count name →
      HasText (.value (.ofMembers members)) text.toList →
      ∃ fault, readWhole ofScan text = .error fault := by
  refine ⟨fun leaps => ⟨?given, ?cleared⟩, ?twice⟩
  case given =>
    intro members text order isText
    have whole := Scan.isWhole_ofMembers.mp isText.isWhole
    rw [isText.readWhole, ofScan_ofMembers leavesOut unknown order whole, settled_eq_self leaps]
  case cleared =>
    intro absent members text order isText
    have whole := Scan.isWhole_ofMembers.mp isText.isWhole
    have cleared : members.Perm (changes.clearing.scanned nulls ++ others) := by
      rwa [scanned, membersWith, members_clearing absent]
    rw [isText.readWhole, ofScan_ofMembers (leavesOut.clearing absent) unknown cleared whole]
    exact congrArg Except.ok (settled_eq_self leaps)
  case twice =>
    intro members text name field twice isText
    rw [isText.readWhole]
    exact ofScan_of_twice field twice

/-- An edit to a timestamp in a leap second in the middle of a minute is read as another one, the
edit to the second after it. -/
theorem not_given_of_stray_leap :
    let changes : NoteChanges := { timestamp := some .strayLeap }
    let text := "\x7b\"timestamp\":\"2024-05-06T07:08:31.500Z\"\x7d"
    changes.LeavesOut [] ∧
      HasText (.value (.ofMembers (Scan.named (changes.membersWith [])))) text.toList ∧
      readWhole ofScan text ≠ .ok changes := by
  intro changes text
  have leavesOut : changes.LeavesOut [] := ⟨by decide, by decide, by decide⟩
  have printed : Timestamp.strayLeap.text = "2024-05-06T07:08:31.500Z" := by decide
  have members : Scan.named (changes.membersWith []) =
      [("timestamp", .text (some "2024-05-06T07:08:31.500Z"))] := by
    rw [← printed]
    simp [Scan.named, membersWith, NoteChanges.members, written, changes, Table.assigned,
      Json.scanned]
  have isText :
      HasText (.value (.ofMembers (Scan.named (changes.membersWith [])))) text.toList := by
    have split : text.toList =
        '{' :: (quote "timestamp" ++ ':' :: quote "2024-05-06T07:08:31.500Z") ++ ['}'] := by
      decide
    rw [members, split]
    exact .object (.lastMember (hasText_quote _) (hasText_quote _))
  have unknown : ∀ member ∈ ([] : List (String × Scan)), member.1 ∉ names := by simp
  have read := ofScan_ofMembers leavesOut unknown (by simp [scanned])
    (Scan.isWhole_ofMembers.mp isText.isWhole)
  refine ⟨leavesOut, isText, fun same => ?_⟩
  rw [isText.readWhole, read] at same
  have settled : changes.settled = changes := Except.ok.inj same
  exact absurd settled (by decide)

/-- The body is given with an escaped letter, and the set and the timestamp as `null`, between
which there is a member of another name. -/
theorem null_is_given_for_set_alone_clearing :
    let changes : NoteChanges := { body := some "milk" }
    let text := "\x7b\"body\": \"m\\u0069lk\" ,\"set\":null,\"size\":-1.5e+3,\"timestamp\":null\x7d"
    changes.LeavesOut ["timestamp"] ∧ "size" ∉ names ∧
      readWhole ofScan text = .ok { set := some none, body := some "milk" } := by
  intro changes text
  have leavesOut : changes.LeavesOut ["timestamp"] := ⟨by decide, by decide, by decide⟩
  have unknown : ∀ member ∈ [("size", Scan.number .real)], member.1 ∉ names := by decide
  refine ⟨leavesOut, by decide, ?_⟩
  have milk : StringText "milk".toList "m\\u0069lk".toList := by
    have digits : HexText 'i'.toNat "\\u0069".toList :=
      @HexText.digits 0 0 6 9 _ _ _ _ ⟨by decide, .inl rfl⟩ ⟨by decide, .inl rfl⟩
        ⟨by decide, .inl rfl⟩ ⟨by decide, .inl rfl⟩
    have plain : UnitText 'm'.toNat ['m'] := .plain (by decide) (by decide) (by decide)
    exact .cons (.unit plain) (.cons (.unit (.hex digits)) (stringText_escape ['l', 'k']))
  have size : NumberText .real "-1.5e+3".toList := by
    have run {c : Char} (digit : c.isDigit = true) : Decimal.Run [c] :=
      ⟨List.cons_ne_nil _ _, List.forall_mem_singleton.mpr digit⟩
    have whole : WholeText ['1'] := ⟨run rfl, by decide⟩
    have fraction : FractionText (some ['5']) ['.', '5'] := .present (run rfl)
    have exponent : ExponentText (some 3) ['e', '+', '3'] :=
      .present (.inl rfl) (.unsigned (.plus (run rfl)))
    exact .parts true whole fraction exponent
  obtain ⟨written, same, isText⟩ : ∃ written, written = text.toList ∧
      HasText (.value (.ofMembers [("body", .text (some "milk")), ("set", .null),
        ("size", .number .real), ("timestamp", .null)])) written := by
    have blank : ∀ c ∈ [' '], isSpace c = true := List.forall_mem_singleton.mpr rfl
    refine ⟨_, ?_, .object (.member (hasText_quote "body") (.blanks blank (.text milk) blank)
      (.member (hasText_quote "set") .null (.member (hasText_quote "size") (.number size)
        (.lastMember (hasText_quote "timestamp") .null))))⟩
    decide
  rw [same] at isText
  refine ((null_is_given_for_set_alone leavesOut unknown).1 (by simp)).2 rfl _ text ?_ isText
  exact (List.Perm.swap _ _ _).trans (((List.Perm.swap _ _ _).cons _).cons _)

end Notebook.NoteChanges
