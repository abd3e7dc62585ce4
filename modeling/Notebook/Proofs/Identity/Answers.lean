import Notebook.Proofs.Identity.Index
import Notebook.Proofs.Ownership.SignIn

/-!
# What the calls of the repository of users do

The effect of each action that a call may ask for on whether a user is stored, who is in the
cache and which epoch it is: whoever was just read or created is stored, only the edit of a
user changes how the user is stored, and only invalidations begin a new epoch.
-/

namespace Notebook

open Users

/-- The action invalidates a user. -/
def Action.invalidates : Action → Bool
  | .cache (.invalidate _) => true
  | _ => false

section Answers

variable {collation : Collation} {call : Call} {said : Conversation} {action : Action}
  {answer : action.Answer} {world later : World Database} {user : User}

/-- A user stays as it is, unless an edit of the user writes. -/
theorem Users.Asks.hasUser (asks : Asks call said action)
    (answered : action.Answered collation world answer later)
    (stored : world.store.HasUser user) :
    later.store.HasUser user ∨ ∃ changes statement outcome, call = .edit user.id changes ∧
      (⟨action, answer⟩ : Program.Exchange Action Action.Answer) =
        ⟨.store (.execute statement), .ok outcome⟩ := by
  cases asks with
  | useId => cases answered; exact .inl stored
  | useGid => cases answered; exact .inl stored
  | epoch => cases answered; exact .inl stored
  | keep => cases answered; exact .inl stored
  | insert => cases answered; exact .inl stored
  | invalidate => cases answered; exact .inl stored
  | look reads queries =>
      obtain ⟨statement, built, rfl⟩ := queries
      cases answered with
      | store answered =>
          rw [(answered.query built rfl).1]
          exact .inl stored
  | enroll allocates =>
      obtain ⟨query, built, rfl⟩ := allocates
      obtain ⟨row, member, readable⟩ := stored
      cases answered with
      | store answered =>
          rcases answered.allocate built with ⟨same, _⟩ | ⟨id, _, _, _, _, _, added⟩
          · rw [same]
            exact .inl ⟨row, member, readable⟩
          · rw [added]
            exact .inl ⟨row, Database.mem_replace_cons member _ _, readable⟩
  | @update id changes _ _ updates =>
      obtain ⟨statement, built, rfl⟩ := updates
      cases answered with
      | store answered =>
          cases answered with
          | refused => exact .inl stored
          | @executed _ _ _ outcome ran =>
              by_cases same : user.id = id
              · exact .inr ⟨changes, statement, outcome, by rw [same], rfl⟩
              refine .inl ?_
              obtain ⟨row, member, readable⟩ := stored
              rcases (Request.Answered.executed ran).update built with unchanged | ⟨_, changed⟩
              · rw [unchanged]
                exact ⟨row, member, readable⟩
              · rw [changed]
                refine ⟨row, ?_, readable⟩
                rw [Database.rows_replace_self]
                refine List.mem_map.mpr ⟨row, member, if_neg fun selected => same ?_⟩
                exact (Sql.Condition.selects_int_iff (User.get?_of_ofRow readable).1).mp selected

/-- A user that is read is stored. -/
theorem Action.Answered.hasUser_of_read {condition : Predicate} {statement : Statement}
    {outcome : Outcome} (built : (queryBy condition).statement = .ok statement)
    (readable : outcome.readFirst User.ofRow = .ok (some user))
    (answered : (Action.store (.execute statement)).Answered collation world (.ok outcome) later) :
    later.store = world.store ∧ world.store.HasUser user := by
  cases answered with
  | store answered =>
      obtain ⟨unchanged, rows⟩ := answered.query built rfl
      obtain ⟨row, member, readable⟩ := Outcome.mem_of_readFirst readable
      exact ⟨unchanged, row, (rows outcome rfl row member).1, readable⟩

/-- A user that was just read is stored. -/
theorem Conversation.JustRead.hasUser {condition : Predicate} {epoch : UInt64}
    (read : Conversation.JustRead (said ++ [⟨action, answer⟩]) (queryBy condition) epoch user)
    (answered : action.Answered collation world answer later) : later.store.HasUser user := by
  obtain ⟨front, statement, outcome, built, readable, whole⟩ := read
  obtain ⟨_, last⟩ := List.append_inj' whole rfl
  cases last
  obtain ⟨unchanged, stored⟩ := answered.hasUser_of_read built readable
  rwa [unchanged]

/-- A user that has been found was found before, or by the last action: in the cache, or by
reading the user. -/
theorem Conversation.Found.of_append {id : Int64}
    (found : Conversation.Found (said ++ [⟨action, answer⟩]) id user)
    (answered : action.Answered collation world answer later) :
    said.Found id user ∨ (id, user) ∈ world.cache.byId.entries ∨ world.store.HasUser user := by
  rcases found with hit | ⟨outcome, got, readable⟩
  · rcases List.mem_append.mp hit with before | last
    · exact .inl (.inl before)
    · cases List.mem_singleton.mp last
      generalize reply : some user = found at answered
      cases answered
      exact .inr (.inl (Recency.get?_eq_some_iff.mp
        ((IdentityCache.useId_fst world.cache id).symm.trans reply.symm)))
  · rcases got.of_append with before | ⟨statement, built, last⟩
    · exact .inl (.inr ⟨outcome, before, readable⟩)
    · cases last
      exact .inr (.inr (answered.hasUser_of_read built readable).2)

/-- A user that was just created is stored. -/
theorem Conversation.JustEnrolled.hasUser {identity : NewUser} {id : Int64}
    (enrolled : Conversation.JustEnrolled (said ++ [⟨action, answer⟩]) identity id)
    (answered : action.Answered collation world answer later) :
    later.store.HasUser (identity.withId id) := by
  obtain ⟨front, query, outcomes, built, readable, whole⟩ := enrolled
  obtain ⟨_, last⟩ := List.append_inj' whole rfl
  cases last
  cases answered with
  | store answered => exact answered.hasUser_of_enrolled built readable

/-- What was just invalidated was invalidated by the last action. -/
theorem Conversation.JustInvalidated.action_eq {id : Int64}
    (invalidated : Conversation.JustInvalidated (said ++ [⟨action, answer⟩]) id) :
    action = .cache (.invalidate id) := by
  obtain ⟨front, whole⟩ := invalidated
  obtain ⟨_, last⟩ := List.append_inj' whole rfl
  cases last
  rfl

/-- Only invalidations begin a new epoch. -/
theorem Action.Answered.epoch_eq (answered : action.Answered collation world answer later) :
    later.cache.epoch = world.cache.epoch + if action.invalidates then 1 else 0 := by
  cases answered with
  | store => exact (UInt64.add_zero _).symm
  | now => exact (UInt64.add_zero _).symm
  | cache use =>
      cases use with
      | invalidate id => rfl
      | useGid gid => exact ((world.cache.alike_useGid gid).epoch).trans (UInt64.add_zero _).symm
      | insertIfCurrent user epoch =>
          refine Eq.trans ?_ (UInt64.add_zero _).symm
          show (world.cache.insertIfCurrent user epoch).2.epoch = world.cache.epoch
          unfold IdentityCache.insertIfCurrent
          split <;> rfl
      | useId => exact (UInt64.add_zero _).symm
      | insert => exact (UInt64.add_zero _).symm
      | epoch => exact (UInt64.add_zero _).symm
      | size => exact (UInt64.add_zero _).symm

/-- Whoever a call is to keep was just read, with the epoch that still is, or just created. -/
theorem Users.Asks.of_inserted? {cache : IdentityCache} {use : IdentityCache.Call}
    (asks : Asks call said (.cache use)) (kept : cache.inserted? use = some user) :
    (use = .insertIfCurrent user cache.epoch ∧
      ∃ condition, said.JustRead (queryBy condition) cache.epoch user) ∨
    use = .insert user ∧ ∃ identity id, said.JustEnrolled identity id ∧
      user = identity.withId id := by
  cases asks with
  | useId => cases kept
  | useGid => cases kept
  | epoch => cases kept
  | invalidate => cases kept
  | look _ queries =>
      obtain ⟨_, _, same⟩ := queries
      cases same
  | enroll allocates =>
      obtain ⟨_, _, same⟩ := allocates
      cases same
  | update updates =>
      obtain ⟨_, _, same⟩ := updates
      cases same
  | @keep _ condition _ epoch _ _ read =>
      change (if cache.epoch = epoch then some _ else none) = some user at kept
      split at kept
      next current =>
        cases kept
        subst current
        exact .inl ⟨rfl, condition, read⟩
      next => cases kept
  | @insert identity _ id enrolled =>
      cases kept
      exact .inr ⟨rfl, identity, id, enrolled, rfl⟩

end Answers

end Notebook
