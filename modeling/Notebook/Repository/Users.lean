import Notebook.Repository.Allocation
import Notebook.Repository.Limits

/-!
# Users

Resolving, signing in and editing users. Users that were read or created are
kept in the identity cache; a user that was read is kept only if nothing was
invalidated since before the read, and an edit invalidates its user whatever
comes of it.
-/

namespace Notebook.Users

/-- The first user that meets a condition. -/
def find (condition : Predicate) : Job (Option User) := do
  let query ← Job.ofExcept <| Select.statement
    { table := .users, outputs := ["*"], condition := some condition, limit := 1 }
  let outcome ← Job.execute query
  Job.ofExcept (outcome.readFirst User.ofRow)

/-- The first user that meets a condition, kept in the cache unless something
was invalidated meanwhile. -/
def load (condition : Predicate) : Job (Option User) := do
  let epoch ← Job.cache .epoch
  let user ← find condition
  if let some user := user then
    let _ ← Job.cache (.insertIfCurrent user epoch)
  return user

/-- The user with an id, from the cache if it is there. -/
def resolve (id : Int64) : Job (Option User) := do
  match ← Job.cache (.useId id) with
  | some user => return some user
  | none => load (.eq "id" (.int id))

/-- The user with a subject, read from the store. -/
def loadSubject (gid : String) : Job (Option User) :=
  load (.eq "gid" (.text gid))

/-- Creates a user in at most `left` attempts. An attempt that violates a unique
constraint may have lost against a sign-in of the same subject, whose user is
then the answer. -/
def createWithin (identity : NewUser) (total : Nat) : (left : Nat) → Job User
  | 0 => throw (.conflict (.userIds total))
  | left + 1 => do
      match ← Job.observe (Table.users.allocate fun id => (identity.withId id).values) with
      | .ok id =>
          let user := identity.withId id
          Job.cache (.insert user)
          return user
      | .error error =>
          if error.isUniqueViolation then
            match ← loadSubject identity.gid with
            | some user => return user
            | none => createWithin identity total left
          else throw error

/-- The user with the subject of an identity: from the cache, else from the
store, else newly created. -/
def createOrGet (limits : Limits) (identity : NewUser) : Job User := do
  match ← Job.cache (.useGid identity.gid) with
  | some user => return user
  | none =>
      match ← loadSubject identity.gid with
      | some user => return user
      | none => createWithin identity limits.attempts limits.attempts

/-- The update of a user, not yet followed by the invalidation. -/
def update (id : Int64) (changes : UserChanges) : Job Outcome := do
  let statement ← Job.ofExcept
    (Table.users.updateStatement (.eq "id" (.int id)) changes.assignments)
  Job.execute statement

/-- Changes the profile of a user, who must exist. The user is invalidated after
every outcome, because the change may have reached the store. -/
def edit (id : Int64) (changes : UserChanges) : Job Unit := do
  let result ← Job.observe (update id changes)
  Job.cache (.invalidate id)
  let outcome ← Job.ofExcept result
  if outcome.count = 0 then
    throw (.notFound (.user id))

/-- The id that the next user would get. -/
def nextId : Job Int64 :=
  Table.users.nextId

end Notebook.Users
