import ModelCatalog.Main
import ModelCatalog.Files.Workspace
import ModelCatalog.Request.Handlers
import ModelCatalog.Proofs.Json.Dict
import ModelCatalog.Proofs.Json.Equality
import ModelCatalog.Proofs.Schema.Built
import ModelCatalog.Proofs.Schema.Completed
import ModelCatalog.Proofs.Schema.ClientNames
import ModelCatalog.Proofs.Schema.Notation
import ModelCatalog.Proofs.Store.AssignedKeys
import ModelCatalog.Proofs.Store.Join
import ModelCatalog.Proofs.Request.FailedWrites
import ModelCatalog.Proofs.Query.Conditions
import ModelCatalog.Proofs.Query.Selections
import ModelCatalog.Proofs.Client.LookupKeys
import ModelCatalog.Proofs.Request.Values
import ModelCatalog.Proofs.Paging
import ModelCatalog.Proofs.Request.ListForms
import ModelCatalog.Proofs.Request.Validation
import ModelCatalog.Proofs.Request.GetOrCreate
import ModelCatalog.Proofs.Request.ReadOnly
import ModelCatalog.Proofs.Request.ClientKeys
import ModelCatalog.Proofs.Store.Embedding
import ModelCatalog.Proofs.Client.Literal
import ModelCatalog.Proofs.Client.PrefetchKeys
import ModelCatalog.Proofs.Client.TypeNames
import ModelCatalog.Proofs.Client.Generation
import ModelCatalog.Proofs.Client.TypeOverrides
import ModelCatalog.Proofs.Request.ClientFields
import ModelCatalog.Proofs.Files.Publishing
import ModelCatalog.Proofs.Store.Columns
import ModelCatalog.Proofs.Number.Notation
import ModelCatalog.Proofs.Json.Order
import ModelCatalog.Proofs.Json.Shape
import ModelCatalog.Proofs.Schema.RoundTrip
import ModelCatalog.Proofs.Store.Sorting
import ModelCatalog.Proofs.Request.Parameters
import ModelCatalog.Proofs.Store.Distinct
import ModelCatalog.Proofs.Store.EmbeddedPaths
import ModelCatalog.Proofs.Request.PrefetchPaths
import ModelCatalog.Proofs.Client.SmallerPools
import ModelCatalog.Proofs.Query.Joining
import ModelCatalog.Proofs.Client.Readability
import ModelCatalog.Proofs.Query.IgnoringCase
import ModelCatalog.Proofs.Store.Integers
import ModelCatalog.Proofs.Settings.PageSizes
import ModelCatalog.Proofs.Schema.RegistrationOrder
import ModelCatalog.Proofs.Request.Arguments
import ModelCatalog.Proofs.Calendar.Dates
import ModelCatalog.Proofs.Query.DateParts
