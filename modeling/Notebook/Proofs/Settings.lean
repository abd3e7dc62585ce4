import Mathlib.Data.List.Nodup
import Notebook.Proofs.Text.Numeral
import Notebook.Settings

/-!
# Settings and their variables

Each setting has a variable of its own, and `Setting.Follows` says what it should be: what the
text of the variable means for a setting of its kind, and the default if the text means nothing or
there is none. A reader for each kind finds what texts mean (`Kind.read?_eq_some_iff`).

In every environment all settings are like this, except that the switch for the migrations takes
a text that means nothing for a no (`Settings.fall_back_except_migrations`).
-/

namespace Notebook

/-! ### What texts mean -/

namespace Settings

/-- The kinds of settings. -/
inductive Kind where
  | verbatim
  | word16
  | word32
  | word64
  | truth
deriving DecidableEq

/-- What settings of a kind have for values. -/
abbrev Kind.Value : Kind → Type
  | .verbatim => String
  | .word16 => UInt16
  | .word32 => UInt32
  | .word64 => UInt64
  | .truth => Bool

/-- The texts that stand for a yes or a no. -/
def truths : List (String × Bool) :=
  [("true", true), ("1", true), ("false", false), ("0", false)]

/-- The text is an unsigned numeral with blanks around it at most, and this is its value. -/
def Spells (text : String) (n : Nat) : Prop :=
  ∃ numeral, Text.Surrounds text numeral ∧ Decimal.Unsigned numeral.toList n

/-- The text means this value for a setting of the kind. Numbers have to fit its width. -/
def Kind.Means : (kind : Kind) → String → kind.Value → Prop
  | .verbatim, text, value => value = text
  | .word16, text, value => Spells text (UInt16.toNat value)
  | .word32, text, value => Spells text (UInt32.toNat value)
  | .word64, text, value => Spells text (UInt64.toNat value)
  | .truth, text, value => (text, value) ∈ truths

end Settings

open Settings (Kind)

/-- The settings, one by one. -/
inductive Setting where
  | databaseUrl
  | host
  | port
  | maxConnections
  | minConnections
  | acquireTimeoutSeconds
  | idleTimeoutSeconds
  | maxLifetimeSeconds
  | userCacheCapacity
  | pageSize
  | idAllocationAttempts
  | runMigrations
deriving DecidableEq

namespace Setting

/-- The name of the variable of a setting. -/
def name : Setting → String
  | .databaseUrl => "DATABASE_URL"
  | .host => "HOST"
  | .port => "PORT"
  | .maxConnections => "DB_MAX_CONNECTIONS"
  | .minConnections => "DB_MIN_CONNECTIONS"
  | .acquireTimeoutSeconds => "DB_ACQUIRE_TIMEOUT_SECS"
  | .idleTimeoutSeconds => "DB_IDLE_TIMEOUT_SECS"
  | .maxLifetimeSeconds => "DB_MAX_LIFETIME_SECS"
  | .userCacheCapacity => "USER_CACHE_CAPACITY"
  | .pageSize => "NOTES_PAGE_SIZE"
  | .idAllocationAttempts => "ID_ALLOCATION_ATTEMPTS"
  | .runMigrations => "RUN_MIGRATIONS"

/-- What kind of setting it is. -/
abbrev kind : Setting → Kind
  | .databaseUrl | .host => .verbatim
  | .port => .word16
  | .maxConnections | .minConnections | .idAllocationAttempts => .word32
  | .acquireTimeoutSeconds | .idleTimeoutSeconds | .maxLifetimeSeconds | .userCacheCapacity
  | .pageSize => .word64
  | .runMigrations => .truth

/-- The value that a setting has. -/
def get : (setting : Setting) → Settings → setting.kind.Value
  | .databaseUrl, settings => settings.databaseUrl
  | .host, settings => settings.host
  | .port, settings => settings.port
  | .maxConnections, settings => settings.maxConnections
  | .minConnections, settings => settings.minConnections
  | .acquireTimeoutSeconds, settings => settings.acquireTimeoutSeconds
  | .idleTimeoutSeconds, settings => settings.idleTimeoutSeconds
  | .maxLifetimeSeconds, settings => settings.maxLifetimeSeconds
  | .userCacheCapacity, settings => settings.userCacheCapacity
  | .pageSize, settings => settings.pageSize
  | .idAllocationAttempts, settings => settings.idAllocationAttempts
  | .runMigrations, settings => settings.runMigrations

/-- The value of a setting where all variables have the same text, or none has any. -/
def reading (setting : Setting) (text? : Option String) : setting.kind.Value :=
  setting.get (Settings.ofEnvironment fun _ => text?)

/-- The value that a setting should have if its variable has this text or none. -/
inductive Follows (setting : Setting) : Option String → setting.kind.Value → Prop
  | read {text : String} {value : setting.kind.Value} (means : setting.kind.Means text value) :
      Follows setting (some text) value
  | unread {text : String} (meaningless : ∀ value, ¬ setting.kind.Means text value) :
      Follows setting (some text) (setting.get Settings.default)
  | unset : Follows setting none (setting.get Settings.default)

/-- All settings. -/
def all : List Setting :=
  [.databaseUrl, .host, .port, .maxConnections, .minConnections, .acquireTimeoutSeconds,
    .idleTimeoutSeconds, .maxLifetimeSeconds, .userCacheCapacity, .pageSize,
    .idAllocationAttempts, .runMigrations]

/-- Every setting is listed. -/
theorem mem_all (setting : Setting) : setting ∈ all := by
  cases setting <;> simp [all]

/-- No two settings have the same variable. -/
theorem name_injective : Function.Injective name := by
  intro first second same
  have once : (all.map name).Nodup := by decide
  exact List.inj_on_of_nodup_map once (mem_all first) (mem_all second) same

/-- A setting is read from its own variable, whatever the others are. -/
theorem get_ofEnvironment (setting : Setting) (environment : String → Option String) :
    setting.get (Settings.ofEnvironment environment) =
      setting.reading (environment setting.name) := by
  cases setting <;> rfl

end Setting

namespace Settings

/-! ### Reading a kind -/

/-- What a text means for a setting of the kind, if anything. -/
def Kind.read? : (kind : Kind) → String → Option kind.Value
  | .verbatim, text => some text
  | .word16, text => Decimal.uint16? (Text.trim text)
  | .word32, text => Decimal.uint32? (Text.trim text)
  | .word64, text => Decimal.uint64? (Text.trim text)
  | .truth, text => truths.lookup text

/-- What is read of a text without its blanks is a numeral with blanks around it. -/
theorem spells_of_reads {α : Type} {read? : String → Option α} {toNat : α → Nat}
    (reads : ∀ text value, read? text = some value ↔ Decimal.Unsigned text.toList (toNat value))
    (text : String) (value : α) :
    read? (Text.trim text) = some value ↔ Spells text (toNat value) := by
  rw [reads]
  constructor
  · exact fun numeral => ⟨_, Text.surrounds_trim text, numeral⟩
  · rintro ⟨numeral, surrounds, spelled⟩
    rwa [Text.trim_eq_of_surrounds surrounds (Decimal.Signed.unsigned spelled).tight]

/-- A text is looked up exactly if it stands for a yes or a no. -/
theorem lookup_truths_iff (text : String) (value : Bool) :
    truths.lookup text = some value ↔ (text, value) ∈ truths := by
  constructor
  · intro found
    obtain ⟨front, back, whole, _⟩ := List.lookup_eq_some_iff.mp found
    simp [whole]
  · intro member
    simp only [truths, List.mem_cons, Prod.mk.injEq, List.not_mem_nil, or_false] at member
    rcases member with ⟨rfl, rfl⟩ | ⟨rfl, rfl⟩ | ⟨rfl, rfl⟩ | ⟨rfl, rfl⟩ <;> rfl

/-- What is read of a text is what it means. -/
theorem Kind.read?_eq_some_iff (kind : Kind) (text : String) (value : kind.Value) :
    kind.read? text = some value ↔ kind.Means text value := by
  cases kind with
  | verbatim => exact Option.some_inj.trans eq_comm
  | word16 => exact spells_of_reads (fun _ _ => Decimal.uint16?_eq_some_iff) text value
  | word32 => exact spells_of_reads (fun _ _ => Decimal.uint32?_eq_some_iff) text value
  | word64 => exact spells_of_reads (fun _ _ => Decimal.uint64?_eq_some_iff) text value
  | truth => exact lookup_truths_iff text value

end Settings

/-! ### Reading with a default -/

namespace Setting

open Settings

variable {setting : Setting} {text? : Option String}

/-- A setting is as it should be if it is what the reader of its kind finds, and the default where
this finds nothing. -/
theorem follows_iff {value : setting.kind.Value} :
    setting.Follows text? value ↔
      (text?.bind setting.kind.read?).getD (setting.get Settings.default) = value := by
  cases text? with
  | none =>
      rw [Option.bind_none, Option.getD_none]
      constructor
      · rintro ⟨⟩
        rfl
      · rintro rfl
        exact .unset
  | some text =>
      rw [Option.bind_some]
      -- What the reader finds decides which of the two rules for a text can apply.
      cases found : setting.kind.read? text with
      | none =>
          have meaningless (value : setting.kind.Value) : ¬ setting.kind.Means text value := by
            rw [← Kind.read?_eq_some_iff, found]
            exact Option.some_ne_none value ∘ Eq.symm
          rw [Option.getD_none]
          constructor
          · rintro (means | _)
            · exact absurd means (meaningless value)
            · rfl
          · rintro rfl
            exact .unread meaningless
      | some said =>
          have means := (Kind.read?_eq_some_iff _ _ _).mp found
          rw [Option.getD_some]
          constructor
          · rintro (means' | meaningless)
            · rw [← Kind.read?_eq_some_iff, found] at means'
              exact Option.some.inj means'
            · exact absurd means (meaningless said)
          · rintro rfl
            exact .read means

/-- The switch for the migrations is off exactly if it has a text that does not stand for a
yes. -/
theorem truth_eq_false_iff :
    truth Settings.default.runMigrations text? = false ↔ ∃ text ∈ text?, (text, true) ∉ truths := by
  cases text? with
  | none => simp [truth, Settings.default]
  | some text => simp [truth, truths]

/-- A text that stands for a yes or a no is taken for what it stands for. -/
theorem truth_of_known (known : ∀ text ∈ text?, ∃ value, (text, value) ∈ truths)
    (fallback : Bool) : truth fallback text? = (text?.bind Kind.truth.read?).getD fallback := by
  cases text? with
  | none => rfl
  | some text =>
      obtain ⟨value, member⟩ := known text rfl
      have looked := (Kind.read?_eq_some_iff .truth text value).mpr member
      rw [Option.bind_some, looked, Option.getD_some]
      simp only [truths, List.mem_cons, Prod.mk.injEq, List.not_mem_nil, or_false] at member
      rcases member with ⟨rfl, rfl⟩ | ⟨rfl, rfl⟩ | ⟨rfl, rfl⟩ | ⟨rfl, rfl⟩ <;> rfl

/-- A setting is what the reader of its kind finds. The switch for the migrations is so if its
text stands for a yes or a no. -/
theorem reading_eq
    (known : setting = .runMigrations → ∀ text ∈ text?, ∃ value, (text, value) ∈ truths) :
    setting.reading text? =
      (text?.bind setting.kind.read?).getD (setting.get Settings.default) := by
  cases setting
  case runMigrations => exact truth_of_known (known rfl) _
  case databaseUrl | host => cases text? <;> rfl
  all_goals rfl

/-- A text that stands for neither switches the migrations off. -/
theorem reading_of_unknown {text : String} (unknown : ∀ value, (text, value) ∉ truths) :
    Setting.runMigrations.reading (some text) = false :=
  truth_eq_false_iff.mpr ⟨text, rfl, unknown true⟩

/-- The switch for the migrations is not as it should be if its text stands for neither, since the
default is on. -/
theorem not_follows_of_unknown {text : String} (unknown : ∀ value, (text, value) ∉ truths) :
    ¬ Setting.runMigrations.Follows (some text) (Setting.runMigrations.reading (some text)) := by
  have nothing : Kind.truth.read? text = none := by
    rw [Option.eq_none_iff_forall_ne_some]
    intro value found
    exact unknown value ((Kind.read?_eq_some_iff .truth text value).mp found)
  rw [follows_iff, reading_of_unknown unknown, Option.bind_some, nothing]
  decide

end Setting

namespace Settings

/-- Every setting is read from a variable of its own, whatever the others hold. It is what its
text means, and the default if the text means nothing or is missing, with one exception: the
switch for the migrations is like this exactly as long as its text stands for a yes or a no if
there is one, since it is off from any text that does not stand for a yes. -/
theorem fall_back_except_migrations (environment : String → Option String) :
    (∀ setting : Setting,
      setting.get (ofEnvironment environment) = setting.reading (environment setting.name) ∧
      ((∀ value, setting.Follows (environment setting.name) value ↔
          setting.get (ofEnvironment environment) = value) ↔
        (setting = .runMigrations →
          ∀ text ∈ environment setting.name, ∃ value, (text, value) ∈ truths))) ∧
    Function.Injective Setting.name ∧
    ((ofEnvironment environment).runMigrations = false ↔
      ∃ text ∈ environment Setting.runMigrations.name, (text, true) ∉ truths) := by
  refine ⟨?_, Setting.name_injective, Setting.truth_eq_false_iff⟩
  intro setting
  rw [setting.get_ofEnvironment]
  refine ⟨rfl, ?_, ?_⟩
  · rintro follows rfl text given
    by_contra unknown
    have missed := Setting.not_follows_of_unknown fun value member => unknown ⟨value, member⟩
    rw [given] at follows
    exact missed ((follows _).mpr rfl)
  · intro known value
    rw [Setting.follows_iff, Setting.reading_eq known]

/-- An environment where a yes is given in a word that does not stand for one. -/
def eager : String → Option String :=
  fun name => if name = "RUN_MIGRATIONS" then some "yes" else none

/-- A text that means nothing switches the migrations off, where the default is on. -/
theorem eager_not_follows :
    ¬ Setting.runMigrations.Follows (eager Setting.runMigrations.name)
      (Setting.runMigrations.get (ofEnvironment eager)) := by
  rw [Setting.get_ofEnvironment]
  exact Setting.not_follows_of_unknown (by decide)

end Settings

end Notebook
