import GameGateway.Event.Format
import GameGateway.Gateway.Events
import GameGateway.Http.Replay
import GameGateway.Main
import GameGateway.Proofs.Gateway.Run
import GameGateway.Proofs.Gateway.Growth
import GameGateway.Proofs.Record.Integrity
import GameGateway.Proofs.Gateway.Reconciliation
import GameGateway.Proofs.Gateway.Service
import GameGateway.Proofs.Gateway.Edits
import GameGateway.Proofs.Gateway.Ownership
import GameGateway.Proofs.Gateway.Deletion
import GameGateway.Proofs.Wire.RoundTrip
import GameGateway.Proofs.Except
import GameGateway.Proofs.Wire.Rewriting
import GameGateway.Proofs.Wire.Stream
import GameGateway.Proofs.Relay.Forwarding
import GameGateway.Proofs.Store.Durability
import GameGateway.Proofs.Json.Assembly
import GameGateway.Proofs.Json.Reading
import GameGateway.Proofs.Record.RoundTrip
import GameGateway.Proofs.Disk.Files
import GameGateway.Proofs.Gateway.Following
import GameGateway.Proofs.Gateway.Moves
import GameGateway.Proofs.Gateway.Grants
import GameGateway.Proofs.Event.RoundTrip
import GameGateway.Proofs.Gateway.Starting
import GameGateway.Proofs.Gateway.Failures
import GameGateway.Proofs.Relay.Sessions
import GameGateway.Proofs.Http.Treatment
import GameGateway.Proofs.Gateway.Removal
import GameGateway.Proofs.Gateway.Interleaving
import GameGateway.Proofs.Gateway.Replacement
import GameGateway.Proofs.Relay.Rereading
import GameGateway.Proofs.Route.Stability
import GameGateway.Proofs.Gateway.Withdrawal
import GameGateway.Proofs.Gateway.Commutation
import GameGateway.Proofs.Route.Mapping
import GameGateway.Proofs.Wire.Truncation
import GameGateway.Proofs.Store.Records
import GameGateway.Proofs.Gateway.Allocation
import GameGateway.Proofs.Relay.Lifetimes
import GameGateway.Proofs.Http.Upgrade
import GameGateway.Proofs.Http.Stripping
import GameGateway.Proofs.Http.Chain
import GameGateway.Proofs.Ident.Order
import GameGateway.Proofs.Gateway.Hosts
import GameGateway.Proofs.Wire.Base128
import GameGateway.Proofs.Hostname.Slug
