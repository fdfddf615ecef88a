import ActorMesh.Kind
import ActorMesh.LinkError
import ActorMesh.Message
import ActorMesh.Text.Numeral

/-!
# Failures of the cluster layer

Each failure is recorded by its cause; the wording is derived in `ClusterError.message`. Failures of
a link come in unchanged (`ClusterError.link`).

`isRetryable` tells the caller whether the same operation may succeed later: a peer that is away may
come back and a refused registration may be repeated, while a message that cannot be written never
can.
-/

namespace ActorMesh

/-- A breach of the protocol. -/
inductive ProtocolFault
  /-- A package with a mark that no kind has. -/
  | unknownPackage (byte : UInt8)
  /-- A package of the registration where actor traffic is expected. -/
  | handshakePackage (kind : PackageKind)
  /-- Message data too short for the type in front of it. -/
  | shortMessage (size : Nat)
  /-- The id of a proxy that does not tell type and id apart. -/
  | keyWithoutSeparator (key : String)
  /-- The id of a proxy with a type that is no number. -/
  | keyWithBadType (key : String) (fault : Text.Numeral.Fault)
  /-- A second link to a member. -/
  | alreadyLinked (peer : SystemId)
  /-- Any other breach, in words. -/
  | stated (text : String)
  deriving DecidableEq, Repr

/-- The wording of a breach. -/
def ProtocolFault.message : ProtocolFault → String
  | unknownPackage b => "unknown package type " ++ toString b.toNat
  | handshakePackage k => "handshake package " ++ k.inspect ++ " is not an envelope"
  | shortMessage size =>
    "message data of " ++ toString size ++ " bytes is shorter than its type prefix"
  | keyWithoutSeparator key => "proxy id " ++ Text.quote key ++ " has no type separator"
  | keyWithBadType key fault =>
    "proxy id " ++ Text.quote key ++ " has a bad type: " ++ fault.message
  | alreadyLinked peer => "peer " ++ peer.text ++ " already has a link"
  | stated text => text

/-- A fault of the configuration. -/
inductive ConfigFault
  /-- There are no members. -/
  | noMembers
  /-- A member has the number that stands for none. -/
  | reservedId
  /-- Two members have one number. -/
  | duplicateId (system : SystemId)
  /-- The local member is not among the members. -/
  | localMissing (system : SystemId)
  /-- No payload would be allowed. -/
  | zeroFrameLimit
  /-- The links are started a second time. -/
  | alreadyStarted
  /-- The member is to be dialed but does not listen. -/
  | listenerMissing
  /-- Any other fault, in words. -/
  | stated (text : String) (field : Option String)
  deriving DecidableEq, Repr

namespace ConfigFault

/-- The wording of a fault. -/
def message : ConfigFault → String
  | noMembers => "no cluster members configured"
  | reservedId => "system id 0 is reserved"
  | duplicateId s => "duplicate system id " ++ s.text
  | localMissing s => "local system " ++ s.text ++ " is not a cluster member"
  | zeroFrameLimit => "max frame size must be positive"
  | alreadyStarted => "cluster transport already started"
  | listenerMissing => "a listener is required for members that accept links"
  | stated text _ => text

/-- The setting that is at fault. -/
def field : ConfigFault → Option String
  | noMembers => some "systems"
  | reservedId | duplicateId _ => some "systems.system_id"
  | localMissing _ => some "local_system_id"
  | zeroFrameLimit => some "timings.max_frame_size"
  | alreadyStarted => none
  | listenerMissing => some "port"
  | stated _ field => field

end ConfigFault

/-- Why an actor cannot be placed. -/
inductive RoutingFault
  /-- No member hosts the type and none was given. -/
  | unhosted (actorType : ActorType) (id : String)
  /-- Any other cause, in words. -/
  | stated (text : String)
  deriving DecidableEq, Repr

/-- The wording of the cause. -/
def RoutingFault.message : RoutingFault → String
  | unhosted t id =>
    "actor type " ++ t.text ++ " is hosted by no system and no system was given for " ++ id
  | stated text => text

/-- A failure of the cluster layer. -/
inductive ClusterError
  /-- No type of messages is registered under the number. -/
  | notRegistered (type : MessageTypeId)
  /-- The message cannot be written. -/
  | notSerializable (why : Description)
  /-- None of the messages of a batch can be written. -/
  | noValidMessage
  /-- The member has no live link. -/
  | peerDisconnected (system : SystemId)
  /-- The member is not in the topology. -/
  | unknownSystem (system : SystemId)
  /-- The protocol is broken. -/
  | protocol (fault : ProtocolFault)
  /-- The peer refused the registration. -/
  | rejected (code : ErrorCode)
  /-- The kind of traffic never crosses to another member. -/
  | notTransportable (kind : EnvelopeKind)
  /-- Placement found no member. -/
  | routing (fault : RoutingFault)
  /-- The configuration is at fault. -/
  | configuration (fault : ConfigFault)
  /-- The link failed. -/
  | link (error : LinkError)
  /-- Octets hold no value of the expected layout. -/
  | serialization (fault : WireFault)
  deriving DecidableEq, Repr

namespace ClusterError

/-- The wording of a failure, given which reply slots are filled. -/
def message (filled : ReplyId → Bool) : ClusterError → String
  | notRegistered t => "Message type " ++ t.text ++ " not registered"
  | notSerializable why => "Message not serializable: " ++ why.render filled
  | noValidMessage => "No valid message to send"
  | peerDisconnected s => "Peer " ++ s.text ++ " disconnected"
  | unknownSystem s => "Unknown system " ++ s.text
  | protocol fault => "Protocol error: " ++ fault.message
  | rejected code => "Registration rejected with code " ++ code.text
  | notTransportable kind => "Envelope " ++ kind.text ++ " cannot be sent to a remote system"
  | routing fault => "Routing error: " ++ fault.message
  | configuration fault => "Configuration error: " ++ fault.message
  | link e => e.message
  | serialization fault => "Serialization failed: " ++ fault.message

/-- The kind of a failure in one word. -/
def category : ClusterError → String
  | notRegistered _ => "message_not_registered"
  | notSerializable _ => "message_not_serializable"
  | noValidMessage => "no_valid_message"
  | peerDisconnected _ => "peer_disconnected"
  | unknownSystem _ => "unknown_system"
  | protocol _ => "protocol"
  | rejected _ => "registration_rejected"
  | notTransportable _ => "not_transportable"
  | routing _ => "routing"
  | configuration _ => "configuration"
  | link _ => "transport"
  | serialization _ => "serialization"

/-- Whether the same operation may succeed later. -/
def isRetryable : ClusterError → Bool
  | peerDisconnected _ | rejected _ => true
  | link e => e.isRetryable
  | _ => false

/-- Whether the failure only says that a peer is out of reach for now. -/
def isTransient : ClusterError → Bool
  | link e => e.isTransient
  | _ => false

end ClusterError

/-- The kind of package that an octet marks; any other octet is a breach. -/
def PackageKind.ofMark (b : UInt8) : Except ClusterError PackageKind :=
  match ofByte? b with
  | some k => .ok k
  | none => .error (.protocol (.unknownPackage b))

end ActorMesh
