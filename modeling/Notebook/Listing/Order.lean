import Notebook.Json.Record
import Notebook.Sql.Select

/-!
# Orders in JSON

The names under which JSON asks for a direction.
-/

namespace Notebook.SortOrder

/-- The name of a direction. -/
def name : SortOrder → String
  | .asc => "asc"
  | .desc => "desc"

/-- Reads the name of a direction from JSON. -/
def ofScan : Json.Scan → Except Json.Fault SortOrder :=
  Json.Scan.choice ([SortOrder.asc, .desc].map fun order => (order.name, order))

end Notebook.SortOrder
