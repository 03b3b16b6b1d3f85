import IdentifierRegistrar.Program
import IdentifierRegistrar.Text.Blank
import IdentifierRegistrar.Identifier.Local
import IdentifierRegistrar.Identifier.Resource
import IdentifierRegistrar.Identifier.Value
import IdentifierRegistrar.Status
import IdentifierRegistrar.Json.Parser
import IdentifierRegistrar.Json.Printer
import IdentifierRegistrar.Resource.Json
import IdentifierRegistrar.Record
import IdentifierRegistrar.Payload
import IdentifierRegistrar.Store.Records
import IdentifierRegistrar.Http.Exchange
import IdentifierRegistrar.Agency.Connector
import IdentifierRegistrar.Directory.Memory
import IdentifierRegistrar.Directory.Rest
import IdentifierRegistrar.Config
import IdentifierRegistrar.Registrar.Context
import IdentifierRegistrar.Registrar.Views
import IdentifierRegistrar.Registrar.Json
import IdentifierRegistrar.Registrar.Worker
import IdentifierRegistrar.Proofs.Run.Confirmation
import IdentifierRegistrar.Proofs.Store.Copies
import IdentifierRegistrar.Proofs.Run.Sweeping
import IdentifierRegistrar.Proofs.Course.Rerun
import IdentifierRegistrar.Proofs.Course.Backed
import IdentifierRegistrar.Proofs.Agency.Apart
import IdentifierRegistrar.Proofs.Agency.Released
import IdentifierRegistrar.Proofs.Run.Malformed
import IdentifierRegistrar.Proofs.Run.Minting
import IdentifierRegistrar.Proofs.Course.LostAnswers
import IdentifierRegistrar.Proofs.Operation.Fitting
import IdentifierRegistrar.Proofs.Worker.Discipline
import IdentifierRegistrar.Proofs.Run.Queries
import IdentifierRegistrar.Proofs.Course.Outcomes
import IdentifierRegistrar.Proofs.Course.Orphans
import IdentifierRegistrar.Proofs.Store.Inverse
import IdentifierRegistrar.Proofs.Course.Failures
import IdentifierRegistrar.Proofs.Course.Releases
import IdentifierRegistrar.Proofs.Course.Mints
import IdentifierRegistrar.Proofs.Agency.Minter
import IdentifierRegistrar.Proofs.Agency.HandedOut
import IdentifierRegistrar.Proofs.Identifier.Order
import IdentifierRegistrar.Proofs.Identifier.Surplus
import IdentifierRegistrar.Proofs.Agency.Projection
import IdentifierRegistrar.Proofs.Agency.Rejection
import IdentifierRegistrar.Proofs.Agency.Traces
import IdentifierRegistrar.Proofs.Course.Faults
import IdentifierRegistrar.Proofs.Directory.Lookup
import IdentifierRegistrar.Proofs.Setup.Contacts
import IdentifierRegistrar.Proofs.Store.Listing
