import Notebook.Proofs.Identity.Answers

/-!
# Calls that overlap

A directory is the repository of users with its surroundings and all calls that were made. The
steps of the calls are taken in any order; a history is all directories that there were, the
newest first. Which steps are admitted is a parameter.

`Directory.Edited` says that an edit has returned, and `Task.Overwrites` that one has
written and not yet returned.
-/

namespace Notebook

open Users

/-! ### Tasks -/

/-- A call with what was said for it and what is left of its work. -/
structure Task where
  call : Call
  said : Conversation
  rest : Work (Except Error call.Result)

namespace Task

/-- A call that was just made. -/
def begin (limits : Limits) (call : Call) : Task :=
  ⟨call, [], (call.job limits).run⟩

/-- The call has returned. -/
def Finished : Task → Prop
  | ⟨_, _, rest⟩ => ∃ result, rest = .done result

/-- The next step of the call is this use of the cache. -/
def IsAbout : Task → IdentityCache.Call → Prop
  | ⟨_, _, rest⟩, use => ∃ next, rest = .ask (.cache use) next

/-- The call edits the user with this id. -/
def Edits (task : Task) (id : Int64) : Prop :=
  ∃ changes, task.call = .edit id changes

/-- The call edits the user with this id, and is between its write and its return. -/
def Overwrites (task : Task) (id : Int64) : Prop :=
  task.Edits id ∧ ¬ task.Finished ∧ ∃ statement outcome,
    (⟨.store (.execute statement), .ok outcome⟩ : Program.Exchange Action Action.Answer) ∈ task.said

/-- What is left of the work asks what the call may ask, and ends as it may. -/
def Works (task : Task) : Prop :=
  Attempts (Asks task.call) task.call.Gives (fun said _ => task.call.Fails said) task.said
    (ExceptT.mk task.rest : Job task.call.Result)

/-- A call that was just made works as it should. -/
theorem works_begin (limits : Limits) (call : Call) : (begin limits call).Works :=
  call.attempts_job limits

variable {call : Call} {said : Conversation} {action : Action}
  {next : action.Answer → Work (Except Error call.Result)}

/-- What a call asks next, it may ask. -/
theorem Works.asks (works : Works ⟨call, said, .ask action next⟩) : Asks call said action :=
  Program.Meets.allowed works

/-- After any answer a call works as it should. -/
theorem Works.answered (works : Works ⟨call, said, .ask action next⟩) (answer : action.Answer) :
    Works ⟨call, said ++ [⟨action, answer⟩], next answer⟩ :=
  Program.Meets.answered works answer

/-- A call asks for the use of the cache that it is about to make. -/
theorem Works.asks_of_isAbout {task : Task} {use : IdentityCache.Call} (works : task.Works)
    (isAbout : task.IsAbout use) : Asks task.call task.said (.cache use) := by
  obtain ⟨call, said, rest⟩ := task
  obtain ⟨next, rfl⟩ := isAbout
  exact works.asks

/-- An edit returns right after its invalidation. -/
theorem Works.justInvalidated {task : Task} {id : Int64} (works : task.Works)
    (edits : task.Edits id) (finished : task.Finished) : task.said.JustInvalidated id := by
  obtain ⟨call, said, rest⟩ := task
  obtain ⟨result, rfl⟩ := finished
  obtain ⟨changes, same⟩ := edits
  cases same
  have ended := Program.Meets.ended works
  cases result with
  | ok value => exact ended
  | error error => exact ended

end Task

/-! ### Directories -/

/-- The repository of users with its surroundings, and all calls in the order in which they
were made. -/
structure Directory where
  world : World Database
  tasks : List Task

namespace Directory

/-- A new repository on a database. -/
def start (limits : Limits) (store : Database) (clock : Timestamp) : Directory where
  world := { store, cache := .empty limits.cacheCapacity, clock }
  tasks := []

/-- How many invalidations there were. -/
def invalidations (directory : Directory) : Nat :=
  (directory.tasks.flatMap Task.said).countP fun exchange => exchange.op.invalidates

/-- The edit that was called as this one is of the user with this id, and has returned. -/
def Edited (directory : Directory) (editor : Nat) (id : Int64) : Prop :=
  ∃ task, directory.tasks[editor]? = some task ∧ task.Edits id ∧ task.Finished

/-- The directory after a call got an answer. -/
def replied (directory : Directory) (later : World Database) (index : Nat) (task : Task) :
    Directory where
  world := later
  tasks := directory.tasks.set index task

/-- A call is made, or one action of one call, which is admitted, is answered. -/
inductive Step (collation : Collation) (limits : Limits) (admits : Directory → Action → Prop) :
    Directory → Directory → Prop
  | begin {directory : Directory} (call : Call) :
      Step collation limits admits directory
        { directory with tasks := directory.tasks ++ [.begin limits call] }
  | act {directory : Directory} {later : World Database} {index : Nat} {call : Call}
      {said : Conversation} {action : Action}
      {next : action.Answer → Work (Except Error call.Result)} {answer : action.Answer}
      (acting : directory.tasks[index]? = some ⟨call, said, .ask action next⟩)
      (admitted : admits directory action)
      (answered : action.Answered collation directory.world answer later) :
      Step collation limits admits directory
        (directory.replied later index ⟨call, said ++ [⟨action, answer⟩], next answer⟩)

/-- These directories can follow one another, the newest first, from a new repository on a
database that keeps its keys. -/
inductive History (collation : Collation) (limits : Limits)
    (admits : Directory → Action → Prop) : List Directory → Prop
  | start {store : Database} (keyed : store.Keyed) (clock : Timestamp) :
      History collation limits admits [start limits store clock]
  | step {now later : Directory} {past : List Directory}
      (history : History collation limits admits (now :: past))
      (step : Step collation limits admits now later) :
      History collation limits admits (later :: now :: past)

/-- Any action is admitted at any time. -/
def Anytime (_ : Directory) (_ : Action) : Prop :=
  True

/-! ### What lasts -/

variable {collation : Collation} {limits : Limits} {admits : Directory → Action → Prop}
  {directory later : Directory} {editor : Nat} {id : Int64}

/-- An edit that has returned has returned for good. -/
theorem Step.edited (step : Step collation limits admits directory later)
    (edited : directory.Edited editor id) : later.Edited editor id := by
  obtain ⟨task, called, edits, finished⟩ := edited
  have within := (List.getElem?_eq_some_iff.mp called).1
  cases step with
  | begin call => exact ⟨task, by rw [List.getElem?_append_left within, called], edits, finished⟩
  | @act _ index _ _ _ _ _ acting =>
      refine ⟨task, ?_, edits, finished⟩
      rw [replied, List.getElem?_set_ne, called]
      rintro rfl
      rw [acting] at called
      cases called
      obtain ⟨result, done⟩ := finished
      cases done

/-- An edit that has returned after an answer had returned before, or got that answer. -/
theorem edited_of_replied {world : World Database} {index : Nat} {task : Task}
    (edited : (directory.replied world index task).Edited editor id) :
    directory.Edited editor id ∨ task.Edits id ∧ task.Finished := by
  obtain ⟨edit, called, edits, finished⟩ := edited
  by_cases same : index = editor
  · subst same
    rw [replied, List.getElem?_set_self', Option.map_eq_map, Option.map_eq_some_iff] at called
    obtain ⟨_, _, rfl⟩ := called
    exact .inr ⟨edits, finished⟩
  · rw [replied, List.getElem?_set_ne same] at called
    exact .inl ⟨edit, called, edits, finished⟩

/-- Making a call invalidates nothing. -/
theorem invalidations_begin (directory : Directory) (limits : Limits) (call : Call) :
    invalidations { directory with tasks := directory.tasks ++ [.begin limits call] } =
      directory.invalidations := by
  simp [invalidations, Task.begin]

/-- Each answer to an invalidation is one more. -/
theorem invalidations_replied {world : World Database} {index : Nat} {call : Call}
    {said : Conversation} {rest later : Work (Except Error call.Result)}
    (acting : directory.tasks[index]? = some ⟨call, said, rest⟩)
    (exchange : Program.Exchange Action Action.Answer) :
    (directory.replied world index ⟨call, said ++ [exchange], later⟩).invalidations =
      directory.invalidations + if exchange.op.invalidates then 1 else 0 := by
  unfold invalidations replied
  dsimp only
  generalize directory.tasks = tasks at acting
  induction tasks generalizing index with
  | nil => cases acting
  | cons task others inductionHypothesis =>
      cases index with
      | zero =>
          cases acting
          simp only [List.set_cons_zero, List.flatMap_cons, List.countP_append,
            List.countP_singleton]
          omega
      | succ index =>
          have other := inductionHypothesis acting
          simp only [List.set_cons_succ, List.flatMap_cons, List.countP_append] at other ⊢
          omega

/-- An edit that has returned at some time has returned. -/
theorem History.edited {now earlier : Directory} {past : List Directory}
    (history : History collation limits admits (now :: past)) (member : earlier ∈ now :: past)
    (edited : earlier.Edited editor id) : now.Edited editor id := by
  generalize whole : now :: past = directories at history member
  induction history generalizing now past with
  | start =>
      cases whole
      rw [List.mem_singleton.mp member] at edited
      exact edited
  | step history step inductionHypothesis =>
      cases whole
      rcases List.mem_cons.mp member with rfl | before
      · exact edited
      · exact step.edited (inductionHypothesis rfl before)

/-- The keys of the tables hold at all times. -/
theorem History.keyed {now : Directory} {past : List Directory}
    (history : History collation limits admits (now :: past)) : now.world.store.Keyed := by
  generalize whole : now :: past = directories at history
  induction history generalizing now past with
  | start keyed => cases whole; exact keyed
  | step history step inductionHypothesis =>
      cases whole
      have keyed := inductionHypothesis rfl
      cases step with
      | begin => exact keyed
      | act _ _ answered => exact answered.keyed keyed

/-! ### Going on -/

/-- All of this can be answered like that, one after the other. -/
inductive Happens (collation : Collation) : Conversation → World Database → World Database → Prop
  | nil (world : World Database) : Happens collation [] world world
  | cons {action : Action} {answer : action.Answer} {more : Conversation}
      {world between later : World Database}
      (answered : action.Answered collation world answer between)
      (happens : Happens collation more between later) :
      Happens collation (⟨action, answer⟩ :: more) world later

/-- A call may go on while all others wait. -/
theorem History.resume {now : Directory} {past : List Directory} {index : Nat} {call : Call}
    {said more : Conversation} {work rest : Work (Except Error call.Result)}
    {world : World Database} (history : History collation limits admits (now :: past))
    (acting : now.tasks[index]? = some ⟨call, said, work⟩) (reaches : work.Reaches more rest)
    (happens : Happens collation more now.world world)
    (admitted : ∀ directory, ∀ exchange ∈ more, admits directory exchange.op) :
    ∃ older, History collation limits admits
        (now.replied world index ⟨call, said ++ more, rest⟩ :: older) ∧
      now :: past ⊆ now.replied world index ⟨call, said ++ more, rest⟩ :: older := by
  obtain ⟨within, found⟩ := List.getElem?_eq_some_iff.mp acting
  induction reaches generalizing now past said with
  | refl work =>
      cases happens
      have same : now.replied now.world index ⟨call, said ++ [], work⟩ = now := by
        rw [replied, List.append_nil, ← found, List.set_getElem_self]
      rw [same]
      exact ⟨past, history, List.Subset.refl _⟩
  | @ask action next more rest answer _ inductionHypothesis =>
      cases happens with
      | cons answered happens =>
          have first := admitted now _ List.mem_cons_self
          have later := history.step (.act acting first answered)
          have within' : index < (now.tasks.set index
              ⟨call, said ++ [⟨action, answer⟩], next answer⟩).length := by
            rwa [List.length_set]
          obtain ⟨older, reached, kept⟩ := inductionHypothesis later
            (List.getElem?_set_self within) happens
            (fun directory exchange member => admitted directory exchange
              (List.mem_cons_of_mem _ member)) within' (List.getElem_set_self within')
          rw [replied, replied, List.set_set, List.append_assoc] at reached kept
          exact ⟨older, reached, fun _ member => kept (List.mem_cons_of_mem _ member)⟩

/-- A call that is made may go on for a while. -/
theorem History.call {now : Directory} {past : List Directory} {call : Call}
    {said : Conversation} {rest : Work (Except Error call.Result)} {world : World Database}
    (history : History collation limits admits (now :: past))
    (reaches : (call.job limits).run.Reaches said rest)
    (happens : Happens collation said now.world world)
    (admitted : ∀ directory, ∀ exchange ∈ said, admits directory exchange.op) :
    ∃ older, History collation limits admits
        (⟨world, now.tasks ++ [⟨call, said, rest⟩]⟩ :: older) ∧
      now :: past ⊆ ⟨world, now.tasks ++ [⟨call, said, rest⟩]⟩ :: older := by
  have acting : (now.tasks ++ [Task.begin limits call])[now.tasks.length]? =
      some (Task.begin limits call) := List.getElem?_concat_length
  obtain ⟨older, reached, kept⟩ :=
    (history.step (.begin call)).resume acting reaches happens admitted
  rw [replied, List.set_append_right _ _ (Nat.le_refl _), Nat.sub_self] at reached kept
  exact ⟨older, reached, fun _ member => kept (List.mem_cons_of_mem _ member)⟩

end Directory

end Notebook
