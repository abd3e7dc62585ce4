import Notebook.Job

/-!
# Running jobs

What a run of a job comes to, part by part: a job goes on with the value that its first part
gives, and fails where that fails. There is one rule for each way in which jobs are put together.
-/

namespace Notebook

namespace World

variable {Store α β : Type} {answering : Answering Store} {world between : World Store}

/-- A job goes on with the value that its first part gives. -/
theorem run_bind_of_ok {first : Job α} {value : α}
    (given : World.run answering first.run world = (.ok value, between)) (next : α → Job β) :
    World.run answering (first >>= next).run world =
      World.run answering (next value).run between := by
  have split : (first >>= next).run = first.run >>= ExceptT.bindCont next := rfl
  rw [World.run] at given
  rw [split, World.run, Program.run_bind, given]
  rfl

/-- A job fails where its first part does. -/
theorem run_bind_of_error {first : Job α} {error : Error}
    (failed : World.run answering first.run world = (.error error, between))
    (next : α → Job β) :
    World.run answering (first >>= next).run world = (.error error, between) := by
  have split : (first >>= next).run = first.run >>= ExceptT.bindCont next := rfl
  rw [World.run] at failed
  rw [split, World.run, Program.run_bind, failed]
  rfl

/-- If a job succeeds, its first part did, and it went on with the value of that. -/
theorem of_run_bind_eq_ok {first : Job α} {next : α → Job β} {value : β} {after : World Store}
    (runs : World.run answering (first >>= next).run world = (.ok value, after)) :
    ∃ given between, World.run answering first.run world = (.ok given, between) ∧
      World.run answering (next given).run between = (.ok value, after) := by
  cases came : World.run answering first.run world with
  | mk result between =>
      cases result with
      | error error =>
          rw [run_bind_of_error came] at runs
          cases runs
      | ok given =>
          rw [run_bind_of_ok came] at runs
          exact ⟨given, between, rfl, runs⟩

/-- A job goes on with whatever came of the part that it looks at. -/
theorem run_observe_bind {first : Job α} {result : Except Error α}
    (came : World.run answering first.run world = (result, between))
    (next : Except Error α → Job β) :
    World.run answering (Job.observe first >>= next).run world =
      World.run answering (next result).run between := by
  have split : (Job.observe first >>= next).run =
      first.run >>= fun result => (next result).run := by
    have seen : (Job.observe first >>= next).run =
        (Except.ok <$> first.run) >>= ExceptT.bindCont next := rfl
    rw [seen, bind_map_left]
    rfl
  rw [World.run] at came
  rw [split, World.run, Program.run_bind, came]
  rfl

/-- A job goes on with what the cache answers. -/
theorem run_cache_bind (call : IdentityCache.Call) (next : call.Answer → Job β) :
    World.run answering (Job.cache call >>= next).run world =
      World.run answering (next (IdentityCache.perform call world.cache).1).run
        { world with cache := (IdentityCache.perform call world.cache).2 } := rfl

end World

end Notebook
