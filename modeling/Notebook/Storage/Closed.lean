import Notebook.Job

/-!
# Closed pools

A store whose pool was closed: whatever needs a connection fails, and whatever
is refused or answered before that is not affected.
-/

namespace Notebook

/-- A pool that was closed. -/
structure ClosedPool where

namespace ClosedPool

/-- The error of whatever needs a connection. -/
def error : Error :=
  .database .poolClosed

/-- Refuses every storage request. -/
def answering : World.Answering ClosedPool := fun request world =>
  (request.refuse error, world)

/-- Bringing the tables up to date fails as well. -/
def migrate (_ : ClosedPool) : Except Error Unit :=
  .error (.database (.migration .poolClosed))

end ClosedPool

end Notebook
