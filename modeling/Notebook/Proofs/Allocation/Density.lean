import Mathlib.Data.List.Nodup
import Notebook.Proofs.Allocation.Registry
import Notebook.Proofs.Ownership.Isolation

/-!
# Ids are distinct and dense

However the commands of insertions are mixed, and whichever transactions are rolled back: no
row is inserted under an id that is there, every insertion that succeeds has committed its row
under the id that it gives, and no id is left out between those that were there and the last.
-/

namespace Notebook

open Notebook.Sql

namespace Insertion.Call

/-- A call has inserted a row exactly if it has got so far. -/
theorem row?_eq {call : Insertion.Call}
    (meets : Program.Meets call.insertion.Sends call.insertion.Ends call.said call.rest)
    (table : Table) :
    call.row? table = call.insertion.stored? table (call.insertion.phase call.said) := by
  obtain ⟨insertion, said, rest⟩ := call
  cases rest with
  | ask command next => exact (meets.allowed.stored? table).symm
  | done result =>
      have ended := meets.ended
      cases result with
      | ok id =>
          have finished : insertion.phase said = .finished id := ended
          simp only [finished]
          rfl
      | error error =>
          have outside : insertion.phase said = .outside := ended
          simp only [outside]
          rfl

end Insertion.Call

namespace Registry

/-! ### The invariant -/

/-- All calls keep to their course, whatever is open belongs to a call and agrees with how far
it has got, and besides the rows that there were, exactly those of calls that succeeded are
committed, under ids that are distinct and leave out none. -/
structure Sound (store : Database) (registry : Registry) : Prop where
  meets : ∀ call ∈ registry.calls,
    Program.Meets call.insertion.Sends call.insertion.Ends call.said call.rest
  agrees : ∀ session transaction, registry.engine.active session = some transaction →
    ∃ call, registry.calls[session]? = some call ∧ call.insertion.Agrees
      (registry.engine.committed.rows call.insertion.table)
      (call.insertion.phase call.said) transaction
  exclusive : registry.engine.Exclusive
  stored : ∀ table, Database.Extends (store.rows table) (registry.inserted table)
    (registry.engine.committed.rows table)

section Sound

variable {collation : Collation} {store : Database} {registry : Registry} {engine : Engine}
  {session : Nat} {insertion : Insertion} {said : Session.Talk} {command : Command}
  {next : command.Answer → Program Command Command.Answer (Except Error Int64)}
  {answer : command.Answer}

/-- What a call has open agrees with how far it has got. -/
theorem Sound.agrees_of_acting (sound : registry.Sound store) {call : Insertion.Call}
    (acting : registry.calls[session]? = some call) (transaction : Transaction)
    (active : registry.engine.active session = some transaction) :
    call.insertion.Agrees (registry.engine.committed.rows call.insertion.table)
      (call.insertion.phase call.said) transaction := by
  obtain ⟨found, here, agrees⟩ := sound.agrees session transaction active
  rw [acting] at here
  cases here
  exact agrees

/-- A call that goes on from where it had inserted nothing may have inserted its row. -/
theorem inserted_set {call later : Insertion.Call} {table : Table}
    (acting : registry.calls[session]? = some call) (nothing : call.row? table = none) :
    (inserted ⟨engine, registry.calls.set session later⟩ table).Perm
      ((later.row? table).toList ++ registry.inserted table) := by
  unfold inserted
  dsimp only
  generalize registry.calls = calls at acting
  induction calls generalizing session with
  | nil => cases acting
  | cons first rest inductionHypothesis =>
      cases session with
      | zero =>
          cases acting
          rw [List.set_cons_zero, List.filterMap_cons, List.filterMap_cons, nothing]
          cases later.row? table <;> exact .refl _
      | succ session =>
          have others := inductionHypothesis acting
          rw [List.set_cons_succ, List.filterMap_cons, List.filterMap_cons]
          cases first.row? table with
          | none => exact others
          | some row => exact (others.cons row).trans List.perm_middle.symm

/-- The next step of a call, where its command is answered. -/
theorem Sound.grows (sound : registry.Sound store)
    (acting : registry.calls[session]? = some ⟨insertion, said, .ask command next⟩)
    (answered : registry.engine.Answers collation session command answer engine)
    (table : Table) :
    insertion.Grows registry.engine session engine table
      (Insertion.Call.row? table ⟨insertion, said ++ [⟨command, answer⟩], next answer⟩) := by
  have meets := sound.meets _ (List.mem_of_getElem? acting)
  rw [Insertion.Call.row?_eq (meets.answered answer)]
  dsimp only
  rw [Insertion.phase_append]
  exact Insertion.Agrees.grows meets.allowed (sound.agrees_of_acting acting) answered table

/-- What is open after an answer belongs to a call and agrees with how far it has got. -/
theorem Sound.agrees_act (sound : registry.Sound store)
    (acting : registry.calls[session]? = some ⟨insertion, said, .ask command next⟩)
    (answered : registry.engine.Answers collation session command answer engine)
    {other : Nat} {transaction : Transaction} (active : engine.active other = some transaction) :
    ∃ call, (registry.calls.set session
        ⟨insertion, said ++ [⟨command, answer⟩], next answer⟩)[other]? = some call ∧
      call.insertion.Agrees (engine.committed.rows call.insertion.table)
        (call.insertion.phase call.said) transaction := by
  have meets := sound.meets _ (List.mem_of_getElem? acting)
  by_cases same : other = session
  · subst same
    have within := (List.getElem?_eq_some_iff.mp acting).1
    refine ⟨_, List.getElem?_set_self within, ?_⟩
    dsimp only
    rw [Insertion.phase_append]
    exact .answered meets.allowed (sound.agrees_of_acting acting) answered active
  · rw [answered.active_ne same] at active
    obtain ⟨call, called, agrees⟩ := sound.agrees other transaction active
    refine ⟨call, by rw [List.getElem?_set_ne (Ne.symm same), called], agrees.of_rows ?_⟩
    intro holds
    have grows := sound.grows acting answered call.insertion.table
    generalize Insertion.Call.row? _ _ = added at grows
    cases grows with
    | nothing unchanged => exact unchanged
    -- Whoever commits a row into the table holds the lock, so nobody else does.
    | row own active' holds' =>
        rw [own] at holds'
        exact absurd holds (sound.exclusive session other _ transaction _ (Ne.symm same) active'
          active holds')

/-- A registry stays sound when a command is answered. -/
theorem Sound.act (sound : registry.Sound store)
    (acting : registry.calls[session]? = some ⟨insertion, said, .ask command next⟩)
    (answered : registry.engine.Answers collation session command answer engine) :
    Sound store ⟨engine, registry.calls.set session
      ⟨insertion, said ++ [⟨command, answer⟩], next answer⟩⟩ := by
  have meets := sound.meets _ (List.mem_of_getElem? acting)
  refine ⟨?_, fun other transaction => sound.agrees_act acting answered,
    answered.exclusive sound.exclusive, fun table => ?_⟩
  · intro call member
    rcases List.mem_or_eq_of_mem_set member with old | rfl
    · exact sound.meets call old
    · exact meets.answered answer
  · have grows := sound.grows acting answered table
    refine Database.Extends.perm ?_ (inserted_set acting rfl)
    generalize Insertion.Call.row? _ _ = added at grows
    have stored := sound.stored table
    cases grows with
    | nothing unchanged =>
        rw [← unchanged] at stored
        exact stored
    | @row id _ _ _ _ next added =>
        dsimp only
        rw [added]
        exact stored.cons next (insertion.get?_row id)

/-- A registry stays sound when an insertion is called. -/
theorem Sound.call (sound : registry.Sound store) (around : World Unit) (insertion : Insertion) :
    Sound store { registry with calls := registry.calls ++ [.begin around insertion] } where
  meets := List.forall_mem_append.mpr
    ⟨sound.meets, List.forall_mem_singleton.mpr (insertion.meets around)⟩
  agrees := by
    intro session transaction active
    obtain ⟨call, called, agrees⟩ := sound.agrees session transaction active
    have within := (List.getElem?_eq_some_iff.mp called).1
    exact ⟨call, by rw [List.getElem?_append_left within, called], agrees⟩
  exclusive := sound.exclusive
  stored := by
    intro table
    have nothing : Insertion.Call.row? table (.begin around insertion) = none :=
      Insertion.Call.row?_eq (insertion.meets around) table
    refine (sound.stored table).perm ?_
    unfold inserted
    rw [List.filterMap_append, List.filterMap_cons_none nothing, List.filterMap_nil,
      List.append_nil]

/-- A registry stays sound when a transaction is rolled back. -/
theorem Sound.abort (sound : registry.Sound store) (session : Nat) :
    Sound store { registry with engine := registry.engine.put session none } where
  meets := sound.meets
  agrees := by
    intro other transaction active
    by_cases same : other = session
    · subst same
      rw [Engine.active_put_self] at active
      cases active
    · rw [Engine.active_put_ne _ _ same] at active
      exact sound.agrees other transaction active
  exclusive := sound.exclusive.put_none session
  stored := sound.stored

/-- A registry stays sound with every step. -/
theorem Step.sound {later : Registry} (step : Step collation registry later)
    (sound : registry.Sound store) : later.Sound store := by
  cases step with
  | call around insertion => exact sound.call around insertion
  | act acting answered => exact sound.act acting answered
  | abort session => exact sound.abort session

/-- A registry is always sound. -/
theorem Runs.sound (keyed : store.Keyed) (runs : Runs collation store registry) :
    registry.Sound store := by
  induction runs with
  | start =>
      exact ⟨fun _ member => (nomatch member), fun _ _ active => (nomatch active),
        fun _ _ _ _ _ _ active => (nomatch active), fun table => .refl (keyed.ids table)⟩
  | step _ step inductionHypothesis => exact step.sound inductionHypothesis

end Sound

/-! ### The result -/

section Result

variable {collation : Collation} {store : Database} {now : Registry}

/-- Whoever is about to insert a row meets no row with its id, not even one that is not
committed. -/
theorem Sound.not_met (sound : now.Sound store) {session : Nat} {insertion : Insertion}
    {said : Session.Talk} {statement : Statement}
    {next : Except DatabaseFault ServerReply →
      Program Command Command.Answer (Except Error Int64)}
    {transaction : Transaction} {table : Table} {values : List Value} {row : Row}
    (acting : now.calls[session]? = some ⟨insertion, said, .ask (.run statement) next⟩)
    (active : now.engine.active session = some transaction)
    (inserts : Operation.ofStatement? statement = some (.insert table values))
    (has : now.engine.Has table row) : row.get? "id" ≠ (table.row values).get? "id" := by
  have meets := sound.meets _ (List.mem_of_getElem? acting)
  have may : insertion.May (insertion.phase said) (.run statement) := meets.allowed
  have agrees := sound.agrees_of_acting acting transaction active
  dsimp only at agrees
  rcases may.reads with ⟨_, rfl⟩ | ⟨_, asks⟩ | ⟨id, looked, asks⟩
  · rw [Session.ofStatement?_taking] at inserts
    cases inserts
  · rw [asks] at inserts
    cases inserts
  rw [asks] at inserts
  cases inserts
  rw [looked] at agrees
  cases agrees with
  | looked holds unused next =>
      have hasId : (insertion.table.row (insertion.values id)).get? "id" = some (.int id) :=
        insertion.get?_row id
      rw [hasId]
      rcases has with committed | ⟨other, transaction', active', member⟩
      · exact next.not_met committed
      -- A row that waits for its commit would stand under the lock of the table.
      · obtain ⟨call, _, agrees'⟩ := sound.agrees other transaction' active'
        obtain ⟨own, holds'⟩ := agrees'.guarded _ member
        dsimp only at own
        rw [← own] at holds'
        by_cases same : other = session
        · subst same
          rw [active] at active'
          cases active'
          rw [unused] at member
          cases member
        · exact absurd holds' (sound.exclusive session other transaction transaction' _
            (Ne.symm same) active active' holds)

/-- However the commands of insertions are mixed, and whichever transactions are rolled back: an
insertion meets no row with its id, committed or not; one that succeeds has committed its row
under the id that it gives, as the only one with it; and besides the rows that there were,
exactly those of the insertions that succeeded are committed, under distinct ids, which leave
out none if those that there were did not. -/
theorem ids_distinct_and_dense (keyed : store.Keyed) (runs : Runs collation store now) :
    (∀ session insertion said statement next transaction table values row,
      now.calls[session]? = some ⟨insertion, said, .ask (.run statement) next⟩ →
      now.engine.active session = some transaction →
      Operation.ofStatement? statement = some (.insert table values) →
      now.engine.Has table row → row.get? "id" ≠ (table.row values).get? "id") ∧
    (∀ insertion said id, ⟨insertion, said, .done (.ok id)⟩ ∈ now.calls →
      (insertion.row id).get? "id" = some (.int id) ∧
      insertion.row id ∈ now.engine.committed.rows insertion.table ∧
      (now.engine.committed.rows insertion.table).countP
        (fun row => row.get? "id" = some (.int id)) = 1) ∧
    ∀ table, Database.Extends (store.rows table) (now.inserted table)
      (now.engine.committed.rows table) := by
  have sound := runs.sound keyed
  refine ⟨?_, fun insertion said id returned => ?_, sound.stored⟩
  · intro session insertion said statement next transaction table values row acting active inserts
    exact sound.not_met acting active inserts
  · have stored := sound.stored insertion.table
    have shown : Insertion.Call.row? insertion.table ⟨insertion, said, .done (.ok id)⟩ =
        some (insertion.row id) := if_pos rfl
    have added : insertion.row id ∈ now.inserted insertion.table :=
      List.mem_filterMap.mpr ⟨_, returned, shown⟩
    have member := stored.stored.mem_iff.mpr (List.mem_append_left _ added)
    refine ⟨insertion.get?_row id, member, ?_⟩
    have once := List.count_eq_one_of_mem stored.ids
      (List.mem_map.mpr ⟨_, member, insertion.get?_row id⟩)
    rw [List.count_eq_countP, List.countP_map] at once
    refine Eq.trans (List.countP_congr fun row _ => ?_) once
    simp

/-- The insertion of a user. -/
def signUp (identity : NewUser) : Insertion where
  table := .users
  attempts := 1
  values id := (identity.withId id).values
  arity := fun _ => rfl
  led := fun _ => rfl

/-- A command of a session is answered next. -/
theorem Runs.act {engine : Engine} {insertion : Insertion} {said : Session.Talk}
    {command : Command}
    {next : command.Answer → Program Command Command.Answer (Except Error Int64)}
    {answer : command.Answer} (runs : Runs collation store now) (session : Nat)
    (acting : now.calls[session]? = some ⟨insertion, said, .ask command next⟩)
    (answered : now.engine.Answers collation session command answer engine) :
    Runs collation store ⟨engine, now.calls.set session
      ⟨insertion, said ++ [⟨command, answer⟩], next answer⟩⟩ :=
  runs.step (.act acting answered)

/-- The insertion of subject `a` reads the next id, and then its transaction is rolled back by
the server; the one of subject `b`, which had waited for the lock, gets the same id. -/
theorem ids_distinct_and_dense_rolled_back :
    ∃ (now : Registry) (said : Session.Talk), Runs Service.plain .empty now ∧
      ⟨signUp ⟨"b", "B", "b@x"⟩, said, .done (.ok 0)⟩ ∈ now.calls ∧
      (now.engine.committed.rows .users).countP
        (fun row => row.get? "id" = some (.int 0)) = 1 ∧
      Database.Numbered (now.engine.committed.rows .users) 1 := by
  have built : Table.users.nextIdQuery.statement = .ok _ := rfl
  have called := ((Runs.start : Runs Service.plain .empty (start .empty)).step
    (.call ⟨(), .empty 1, noon⟩ (signUp ⟨"a", "A", "a@x"⟩))).step
    (.call ⟨(), .empty 1, noon⟩ (signUp ⟨"b", "B", "b@x"⟩))
  have begun := (called.act 0 rfl (.begun rfl)).act 1 rfl (.begun rfl)
  have locked := begun.act 0 rfl (.locked ⟨[], [], 0⟩ rfl (by
    intro other transaction different active
    simp only [Engine.put, start, if_neg different] at active
    split at active
    · cases active
      exact List.not_mem_nil
    · cases active))
  have looked := locked.act 0 rfl
    (.of_nextId built rfl rfl (show Database.IsNextId _ 0 from rfl))
  have locked' := (looked.step (.abort 0)).act 1 rfl (.locked ⟨[], [], 0⟩ rfl (by
    intro other transaction different active
    simp only [Engine.put, start, if_neg different] at active
    split at active <;> cases active))
  have looked' := locked'.act 1 rfl
    (.of_nextId built rfl rfl (show Database.IsNextId _ 0 from rfl))
  have drafted : (Draft.insert .users (User.values ⟨0, "B", "b@x", "b"⟩)).statement = .ok _ := rfl
  have inserted := looked'.act 1 rfl (.ran rfl
    (Operation.ofStatement?_insert drafted) (.insert rfl rfl (by decide)) rfl
    (show ∀ read, Session.reading _ (.ok ⟨[], [], 1⟩) = .ok read → read = _ from
      fun read same => by cases same; rfl))
  have committed := inserted.act 1 rfl (.committed rfl)
  have failed := (committed.act 0 rfl (.failed _ .workerCrashed)).act 0 rfl
    (.rolledBack (.ok ()))
  obtain ⟨_, returned, extended⟩ := ids_distinct_and_dense Database.filed_empty.keyed failed
  have nothing : Database.Numbered (Database.empty.rows .users) 0 := .refl _
  exact ⟨_, _, failed, List.mem_cons_of_mem _ List.mem_cons_self,
    (returned _ _ 0 (List.mem_cons_of_mem _ List.mem_cons_self)).2.2,
    (extended .users).numbered 0 nothing⟩

end Result

end Registry

end Notebook
