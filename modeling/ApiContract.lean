import ApiContract.Contract
import ApiContract.Document.Load
import ApiContract.Failure.Report
import ApiContract.Json.Writer
import ApiContract.Proofs.Document.Keys
import ApiContract.Proofs.Operation.Axis
import ApiContract.Proofs.Route.Lookup
import ApiContract.Proofs.Route.Operations
import ApiContract.Proofs.Route.Listing
import ApiContract.Proofs.Schema.Renaming
import ApiContract.Proofs.Schema.Renaming.Prepare
import ApiContract.Proofs.Schema.Required
import ApiContract.Proofs.Schema.Visibility
import ApiContract.Proofs.Schema.Pair
import ApiContract.Proofs.Operation.Pair
import ApiContract.Proofs.Contract.Pair
import ApiContract.Proofs.Contract.Options
import ApiContract.Proofs.Contract.Accepted
import ApiContract.Proofs.Contract.Local
import ApiContract.Proofs.Contract.Dispatch
import ApiContract.Proofs.Parameter.Merge
import ApiContract.Proofs.Parameter.Override
import ApiContract.Proofs.Schema.Renaming.Telling
import ApiContract.Proofs.Schema.Renaming.Judge
import ApiContract.Proofs.Schema.Renaming.Rule.Branch
import ApiContract.Proofs.Schema.Renaming.Rule.List
import ApiContract.Proofs.Schema.Renaming.Rule.Object
import ApiContract.Proofs.Schema.Renaming.Unevaluated
import ApiContract.Proofs.Schema.Renaming.Evaluate
import ApiContract.Proofs.Schema.Mirror
import ApiContract.Proofs.Route.Instance
import ApiContract.Proofs.Contract.Found
import ApiContract.Proofs.Contract.Errors
import ApiContract.Proofs.Contract.Casing
import ApiContract.Proofs.Contract.Compilations
import ApiContract.Proofs.Schema.Position
import ApiContract.Proofs.Schema.Levels
import ApiContract.Proofs.Parameter.Conjunction
import ApiContract.Proofs.Schema.Kept
import ApiContract.Proofs.Schema.Forbidden
import ApiContract.Proofs.Body.Entries
import ApiContract.Proofs.Body.Negotiation
import ApiContract.Proofs.Body.Nameless
import ApiContract.Proofs.Route.Literal
import ApiContract.Proofs.Contract.ContentTypes
import ApiContract.Proofs.Schema.Objections
import ApiContract.Proofs.Schema.Strict
import ApiContract.Proofs.Contract.Selection
import ApiContract.Proofs.Parameter.Header
import ApiContract.Proofs.Schema.Discriminator
import ApiContract.Proofs.Schema.Inward
import ApiContract.Proofs.Schema.Located
import ApiContract.Proofs.Failure.Report
import ApiContract.Proofs.Failure.Path
