import Notebook.Http.Service
import Notebook.Listing.Order
import Notebook.LogField
import Notebook.Settings
import Notebook.Storage.Closed
import Notebook.Storage.Scripted
import Notebook.Storage.Server
import Notebook.Proofs.Listing.Scope
import Notebook.Proofs.Listing.Shape
import Notebook.Proofs.Sql.Acceptance
import Notebook.Proofs.Ownership.Gate
import Notebook.Proofs.Ownership.Isolation
import Notebook.Proofs.Ownership.Concealment
import Notebook.Proofs.Http.Anonymity
import Notebook.Proofs.Identity.Index
import Notebook.Proofs.Identity.Freshness
import Notebook.Proofs.Store.Session
import Notebook.Proofs.Store.Commit
import Notebook.Proofs.Allocation.Course
import Notebook.Proofs.Identity.Accounts
import Notebook.Proofs.Identity.Edit
import Notebook.Proofs.Identity.Epoch
import Notebook.Proofs.Store.Engine
import Notebook.Proofs.Allocation.Numbering
import Notebook.Proofs.Allocation.Registry
import Notebook.Proofs.Allocation.Density
import Notebook.Proofs.Time.Reading
import Notebook.Proofs.Json.Token
import Notebook.Proofs.Json.Record
import Notebook.Proofs.Entity.RoundTrip
import Notebook.Proofs.Allocation.Attempts
import Notebook.Proofs.Listing.Catalogue
import Notebook.Proofs.Store.Unfiled
import Notebook.Proofs.Listing.Search
import Notebook.Proofs.Entity.Edit
import Notebook.Proofs.Entity.Insertion
import Notebook.Proofs.Entity.Patch
import Notebook.Proofs.Predicate.Unique
import Notebook.Proofs.Listing.Printed
import Notebook.Proofs.Predicate.Tree
import Notebook.Proofs.Sql.Marker
import Notebook.Proofs.Settings
