import Mathlib.Data.List.Nodup
import Mathlib.Data.List.Perm.Basic
import Notebook.Proofs.Except
import Notebook.Proofs.Json.Written
import Notebook.Proofs.Time.Reading

/-!
# Written records read back

A record is read from any object that gives each of its fields at most once and
with a value the field fits. What is kept of it are the members of known names,
in the order in which they were written; each scalar is read back from how it
is written.
-/

namespace Notebook.Json

/-! ### Scalars -/

namespace Scan

/-- A 64-bit integer is read back. -/
theorem int64_scanned (n : Int64) : int64 (Json.int n.toInt).scanned = .ok n := by
  simp [scanned, int64, Decimal.toInt64?_toInt]

/-- A text is read back. -/
theorem string_scanned (s : String) : string (Json.text s).scanned = .ok s := by
  rw [scanned, string]

/-- A truth value is read back. -/
theorem boolean_scanned (b : Bool) : boolean (Json.bool b).scanned = .ok b := by
  rw [scanned, boolean]

/-- What is read from the printed form of a timestamp is the timestamp settled. -/
theorem timestamp_scanned (time : Timestamp) :
    timestamp (Json.text time.text).scanned = .ok time.settled := by
  rw [timestamp, string_scanned]
  simp [bind, Except.bind, Timestamp.lenient?_text, pure, Except.pure]

/-- Where something may be left out, it is read as it is where it may not. -/
theorem optional_eq {α : Type} {read : Scan → Except Fault α} {found : Scan} {value : α}
    (present : found ≠ .null) (reads : read found = .ok value) :
    optional read found = .ok (some value) := by
  cases found with
  | null => exact absurd rfl present
  | _ => rw [optional, reads]; all_goals simp [Except.map]

/-- An optional integer is read back, `null` as none. -/
theorem optional_int64_scanned (n : Option Int64) :
    optional int64 ((n.map fun n => Json.int n.toInt).getD .null).scanned = .ok n := by
  cases n with
  | none => rw [Option.map_none, Option.getD_none, scanned, optional]
  | some n => exact optional_eq (by simp [scanned]) (int64_scanned n)

end Scan

/-! ### Records -/

/-- The check of a field passes where its reader finds a value. -/
theorem Field.check_read {α : Type} {field : Field α} {found : Scan} {value : α}
    (read : field.read found = .ok value) : field.check.read found = .ok () := by
  simp [check, read, Except.map]

namespace Given

variable {α : Type} {given : Given} {found : Scan}

/-- A name that is given once in all is not given before. -/
theorem lookup_eq_none {name : String} {rest : Given}
    (once : ((given ++ (name, found) :: rest).map Prod.fst).Nodup) : given.lookup name = none := by
  rw [List.map_append, List.nodup_append] at once
  rw [List.lookup_eq_none_iff]
  intro other member
  have apart := once.2.2 other.1 (List.mem_map_of_mem member) name (by simp)
  simpa using Ne.symm apart

/-- What is given once is found under its name. -/
theorem lookup_of_mem {name : String} (once : (given.map Prod.fst).Nodup)
    (member : (name, found) ∈ given) : given.lookup name = some found := by
  obtain ⟨front, back, rfl⟩ := List.append_of_mem member
  refine List.lookup_eq_some_iff.mpr ⟨front, back, rfl, ?_⟩
  exact List.lookup_eq_none_iff.mp (lookup_eq_none once)

/-- The order of what is given does not matter if no field is given twice. -/
theorem lookup_perm {other : Given} (order : given.Perm other) (once : (given.map Prod.fst).Nodup)
    (name : String) : given.lookup name = other.lookup name := by
  cases looked : given.lookup name with
  | none =>
      rw [List.lookup_eq_none_iff] at looked
      refine (List.lookup_eq_none_iff.mpr fun entry member => ?_).symm
      exact looked entry (order.mem_iff.mpr member)
  | some found =>
      obtain ⟨front, back, rfl, _⟩ := List.lookup_eq_some_iff.mp looked
      have member : (name, found) ∈ other := order.mem_iff.mp (by simp)
      exact (lookup_of_mem ((order.map Prod.fst).nodup once) member).symm

/-- A field that was given is read. -/
theorem required_eq {field : Field α} {value : α} (written : given.lookup field.name = some found)
    (read : field.read found = .ok value) : given.required field = .ok value := by
  simp only [required, written, read]

/-- A field that was given is read, also as nothing. -/
theorem nullable_eq {field : Field (Option α)} {value : Option α}
    (written : given.lookup field.name = some found) (read : field.read found = .ok value) :
    given.nullable field = .ok value := by
  simp [nullable, given?, written, read, Except.map]

/-- A field that was not given is nothing. -/
theorem given?_eq_none {field : Field α} (absent : given.lookup field.name = none) :
    given.given? field = .ok none := by
  rw [given?, absent]

/-- A field that was given is read as something. -/
theorem given?_eq_some {field : Field α} {value : α}
    (written : given.lookup field.name = some found) (read : field.read found = .ok value) :
    given.given? field = .ok (some value) := by
  simp [given?, written, read, Except.map]

/-- A field that is found is read if what is given for it is. -/
theorem check_of_given? {field : Field α} {value : Option α}
    (reads : given.given? field = .ok value) (looked : given.lookup field.name = some found) :
    field.check.read found = .ok () := by
  simp only [given?, looked] at reads
  cases read : field.read found with
  | error fault =>
      rw [read] at reads
      cases reads
  | ok value => exact field.check_read read

/-- A field that is found, even as nothing, is read if what is given for it is. -/
theorem check_of_nullable {field : Field (Option α)} {value : Option α}
    (reads : given.nullable field = .ok value) (looked : given.lookup field.name = some found) :
    field.check.read found = .ok () := by
  cases read : given.given? field with
  | error fault =>
      rw [nullable, read] at reads
      cases reads
  | ok value => exact check_of_given? read looked

/-- What is read of a field is decided by what is found under its name. -/
theorem given?_congr {other : Given} {field : Field α}
    (same : given.lookup field.name = other.lookup field.name) :
    given.given? field = other.given? field := by
  rw [given?, given?, same]

/-- What is read of a field is decided by what is found under its name, also where `null` is the
same as its absence. -/
theorem nullable_congr {other : Given} {field : Field (Option α)}
    (same : given.lookup field.name = other.lookup field.name) :
    given.nullable field = other.nullable field := by
  rw [nullable, nullable, given?_congr same]

/-- A field for which `null` is the same as its absence is read as its reader gives back what is
given, and as nothing where there is `null`. -/
theorem nullable_optional {field : Field (Option α)} {read : Scan → Except Fault α}
    {write : α → Scan} {back : α → α} {value : Option α} {added : Option Scan}
    (reader : field.read = Scan.optional read)
    (reads : ∀ value, read (write value) = .ok (back value))
    (present : ∀ value, write value ≠ .null) (null : ∀ found ∈ added, found = .null)
    (looked : given.lookup field.name = (value.map write).or added) :
    given.nullable field = .ok (value.map back) := by
  cases value with
  | some value =>
      refine nullable_eq looked ?_
      rw [reader]
      exact Scan.optional_eq (present value) (reads value)
  | none =>
      rw [Option.map_none, Option.none_or] at looked
      cases added with
      | none => simp [nullable, given?, looked, Except.map]
      | some found =>
          cases null found rfl
          refine nullable_eq looked ?_
          rw [reader, Scan.optional, Option.map_none]

end Given

namespace Scan

variable {fields : List (Field Unit)}

/-- Holds if one of the fields has this name. -/
def isKnown (fields : List (Field Unit)) (name : String) : Bool :=
  (fields.find? fun field => field.name == name).isSome

/-- The names of the fields are known, and no others. -/
theorem isKnown_iff {name : String} :
    isKnown fields name = true ↔ name ∈ fields.map Field.name := by
  rw [isKnown, List.find?_isSome, List.mem_map]
  exact exists_congr fun field => and_congr_right fun _ => beq_iff_eq

/-- The member fits the field of its name; under other names it only has to be JSON. -/
def Fits (fields : List (Field Unit)) (member : String × Scan) : Prop :=
  match fields.find? fun field => field.name == member.1 with
  | none => member.2.isWhole = true
  | some field => field.read member.2 = .ok ()

/-- A member of another name fits if it is JSON. -/
theorem fits_of_unknown {member : String × Scan} (unknown : member.1 ∉ fields.map Field.name)
    (whole : member.2.isWhole = true) : Fits fields member := by
  rw [← isKnown_iff, isKnown, Bool.not_eq_true, Option.isSome_eq_false_iff,
    Option.isNone_iff_eq_none] at unknown
  simp only [Fits, unknown]
  exact whole

/-- The members of known names. -/
def kept (fields : List (Field Unit)) (members : List (String × Scan)) : Given :=
  members.filter fun member => isKnown fields member.1

/-- The names of the members of known names. -/
theorem map_fst_kept (members : List (String × Scan)) :
    (kept fields members).map Prod.fst = (members.map Prod.fst).filter (isKnown fields) := by
  simp [kept, List.filter_map, Function.comp_def]

/-- Members that fit and give no field twice are read, and those of known names kept. -/
theorem readMembers_eq {given : Given} {members : List (String × Scan)}
    (fit : ∀ member ∈ members, Fits fields member)
    (once : ((given ++ kept fields members).map Prod.fst).Nodup) :
    readMembers fields true given (members.map fun member => (.text (some member.1), member.2)) =
      .ok (given ++ kept fields members) := by
  induction members generalizing given with
  | nil => simp [readMembers, kept]
  | cons member members inductionHypothesis =>
      obtain ⟨name, found⟩ := member
      have later : ∀ member ∈ members, Fits fields member :=
        fun member inside => fit member (by simp [inside])
      have first := fit (name, found) (by simp)
      unfold Fits at first
      rw [List.map_cons, readMembers]
      cases known : fields.find? fun field => field.name == name with
      | none =>
          have rest : kept fields ((name, found) :: members) = kept fields members := by
            simp [kept, isKnown, known]
          rw [rest] at once ⊢
          simp only [known] at first
          simp only [first, if_true]
          exact inductionHypothesis later once
      | some field =>
          have rest : kept fields ((name, found) :: members) =
              (name, found) :: kept fields members := by
            simp [kept, isKnown, known]
          rw [rest] at once ⊢
          have fresh := Given.lookup_eq_none once
          have whole := List.append_cons given (name, found) (kept fields members)
          rw [whole] at once ⊢
          simp only [known] at first
          simp only [fresh, Option.isSome_none, Bool.false_eq_true, if_false, first]
          exact inductionHypothesis later once

/-- An object is whole if what is under each name is. -/
theorem isWhole_ofMembers {members : List (String × Scan)} :
    (ofMembers members).isWhole = true ↔ ∀ member ∈ members, member.2.isWhole = true := by
  rw [ofMembers, isWhole, Bool.true_and]
  induction members with
  | nil => simp [membersAreWhole]
  | cons member members inductionHypothesis =>
      rw [List.map_cons, membersAreWhole, Bool.and_eq_true, List.forall_mem_cons,
        inductionHypothesis]

/-- An object whose members fit and give no field twice is read as the members of known names. -/
theorem record_ofMembers {members : List (String × Scan)}
    (fit : ∀ member ∈ members, Fits fields member)
    (once : ((members.map Prod.fst).filter (isKnown fields)).Nodup) :
    record fields (ofMembers members) = .ok (kept fields members) := by
  have distinct : (([] ++ kept fields members).map Prod.fst).Nodup := by
    rwa [List.nil_append, map_fst_kept]
  rw [ofMembers, record]
  exact readMembers_eq fit distinct

/-- Members that are read give no field twice. -/
theorem nodup_of_readMembers {given result : Given} {members : List (String × Scan)}
    (reads : readMembers fields true given
      (members.map fun member => (.text (some member.1), member.2)) = .ok result)
    (once : (given.map Prod.fst).Nodup) :
    ((given ++ kept fields members).map Prod.fst).Nodup := by
  induction members generalizing given with
  | nil => simpa [kept] using once
  | cons member members inductionHypothesis =>
      obtain ⟨name, found⟩ := member
      rw [List.map_cons, readMembers] at reads
      cases known : fields.find? fun field => field.name == name with
      | none =>
          have rest : kept fields ((name, found) :: members) = kept fields members := by
            simp [kept, isKnown, known]
          simp only [known] at reads
          rw [rest]
          split at reads
          next => exact inductionHypothesis reads once
          next => cases reads
      | some field =>
          have rest : kept fields ((name, found) :: members) =
              (name, found) :: kept fields members := by
            simp [kept, isKnown, known]
          simp only [known] at reads
          rw [rest, List.append_cons]
          split at reads
          next => cases reads
          next fresh =>
            obtain ⟨_, _, later⟩ := Except.bind_eq_ok_iff.mp reads
            have apart : name ∉ given.map Prod.fst := by
              intro inside
              obtain ⟨entry, member, rfl⟩ := List.mem_map.mp inside
              have looked := Given.lookup_of_mem once member
              rw [looked] at fresh
              exact fresh rfl
            refine inductionHypothesis later ?_
            rw [List.map_append]
            exact List.Nodup.append once (List.nodup_singleton _) (by simpa using apart)

/-- An object with two members for one field is not read. -/
theorem record_of_twice {members : List (String × Scan)} {name : String}
    (known : isKnown fields name = true) (twice : 1 < (members.map Prod.fst).count name) :
    ∃ fault, record fields (ofMembers members) = .error fault := by
  rw [ofMembers, record]
  cases reads : readMembers fields true []
      (members.map fun member => (.text (some member.1), member.2)) with
  | error fault => exact ⟨fault, rfl⟩
  | ok result =>
      have once := nodup_of_readMembers reads List.nodup_nil
      rw [List.nil_append, map_fst_kept] at once
      have counted := List.nodup_iff_count_le_one.mp once name
      rw [List.count_filter known] at counted
      omega

/-- A written object whose members fit and give no field twice is read as the members of
known names. -/
theorem record_scanned {members : List (String × Json)}
    (fit : ∀ member ∈ members, Fits fields (member.1, member.2.scanned))
    (once : ((members.map Prod.fst).filter (isKnown fields)).Nodup) :
    record fields (Json.object members).scanned = .ok (kept fields (named members)) := by
  have fits : ∀ member ∈ named members, Fits fields member := by
    intro member scanned
    obtain ⟨written, inside, rfl⟩ := List.mem_map.mp scanned
    exact fit written inside
  rw [scanned_object]
  exact record_ofMembers fits (by simpa [named, Function.comp_def] using once)

end Scan

end Notebook.Json
