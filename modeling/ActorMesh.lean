import ActorMesh.Config.Document
import ActorMesh.Proofs.Envelope.RoundTrip
import ActorMesh.Proofs.Links.Accounting
import ActorMesh.Proofs.Proxy.WatchProtocol
import ActorMesh.Proofs.Routing.Conservation
import ActorMesh.Rehearsal.Ledger
import ActorMesh.Rehearsal.Loopback
import ActorMesh.Rehearsal.Recorder
import ActorMesh.Sample
import ActorMesh.Text.Hex
import ActorMesh.Proofs.Connections.Reassembly
import ActorMesh.Proofs.Connections.Streams
import ActorMesh.Proofs.Members.Actions
import ActorMesh.Proofs.Members.Connections
import ActorMesh.Proofs.Links.Gate
import ActorMesh.Proofs.Cluster.Network
import ActorMesh.Proofs.Links.Handshake
import ActorMesh.Proofs.Cluster.Agreement
import ActorMesh.Proofs.Envelope.Transport
import ActorMesh.Proofs.Members.Sending
import ActorMesh.Proofs.Links.Traffic
import ActorMesh.Proofs.Members.Lasting
import ActorMesh.Proofs.Cluster.Delivery
import ActorMesh.Proofs.Wire.Grammar
import ActorMesh.Proofs.Links.Roles
import ActorMesh.Proofs.Proxy.KeyText
import ActorMesh.Proofs.Routing.Diversion
import ActorMesh.Proofs.Routing.RemoteWatch
import ActorMesh.Proofs.Routing.Location
import ActorMesh.Proofs.Members.Operations
import ActorMesh.Proofs.Members.Tending
import ActorMesh.Proofs.Members.Lifecycles
import ActorMesh.Proofs.Members.Isolation
import ActorMesh.Proofs.Cluster.Completion
import ActorMesh.Proofs.Messages.Grammar
import ActorMesh.Proofs.Envelope.PartialFailure
import ActorMesh.Proofs.Proxy.FanOut
import ActorMesh.Proofs.Connections.Crossing
import ActorMesh.Proofs.Connections.Outgoing
import ActorMesh.Proofs.Connections.Lossless
import ActorMesh.Proofs.Members.Starting
import ActorMesh.Proofs.Links.Numbering
import ActorMesh.Proofs.Members.Queueing
import ActorMesh.Proofs.Routing.Spread
import ActorMesh.Proofs.Routing.OutsideRequests
import ActorMesh.Proofs.Proxy.Addresses
import ActorMesh.Proofs.Proxy.KeyGrammar
import ActorMesh.Proofs.Routing.Folding
