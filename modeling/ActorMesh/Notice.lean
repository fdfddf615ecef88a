/-!
# Notices

What the cluster layer reports to its operator. A notice is a **warning** when traffic or a link is
dropped and the layer goes on by itself, and an **error** when something that a caller or a peer
asked for cannot be done.
-/

namespace ActorMesh

/-- An event that is reported. -/
inductive Notice
  /-- A connection ended by a failure. -/
  | connectionFailed
  /-- A message that has no number cannot travel. -/
  | messageWithoutType
  /-- No type of messages is registered under a number. -/
  | typeNotRegistered
  /-- A registration replaced an older one. -/
  | typeReplaced
  /-- A message of a batch cannot be written and is left out. -/
  | batchMessageUnwritable
  /-- Nothing of a batch can be written. -/
  | batchEmpty
  /-- A message of a batch cannot be read and is left out. -/
  | batchMessageUnreadable
  /-- A package that arrived cannot be read. -/
  | inboundUnreadable
  /-- The part of an envelope for one member could not be sent. -/
  | groupUndelivered
  /-- An envelope could not be routed. -/
  | routingFailed
  /-- A watch proxy cannot tell whom it watches. -/
  | watcheeUnresolved
  /-- A watch proxy that watches nobody got a message. -/
  | watcheeMissing
  /-- A watch was asked for by nobody. -/
  | watcherMissing
  /-- A queue that is full or closed lost its subscription. -/
  | queueDropped
  /-- An answer came for a reply slot that takes none. -/
  | replyTaken
  /-- A listener was given to a member that nobody dials. -/
  | listenerUnused
  /-- An attempt to link to a peer failed. -/
  | linkAttemptFailed
  /-- The answer to a registration cannot be read. -/
  | responseMalformed
  /-- A registration cannot be read. -/
  | requestMalformed
  /-- A registration came on a session that already has one. -/
  | registrationRepeated
  /-- A registration was refused. -/
  | registrationRejected
  /-- Actor traffic came before the registration. -/
  | trafficTooEarly
  deriving DecidableEq, Repr

namespace Notice

/-- The wording of a notice, its level first. -/
def text : Notice → String
  | connectionFailed => "WARN Connection closed on error"
  | messageWithoutType => "ERROR Message has no wire type"
  | typeNotRegistered => "ERROR Message type not registered"
  | typeReplaced => "WARN Message type id re-registered"
  | batchMessageUnwritable => "WARN Dropping unmarshalable batch message"
  | batchEmpty => "ERROR No valid message in batch"
  | batchMessageUnreadable => "WARN Dropping undecodable batch message"
  | inboundUnreadable => "ERROR Failed to decode inbound envelope"
  | groupUndelivered => "ERROR Failed to deliver group"
  | routingFailed => "ERROR Router error"
  | watcheeUnresolved => "ERROR Watch proxy cannot resolve its watchee"
  | watcheeMissing => "WARN Watch proxy without watchee ignores message"
  | watcherMissing => "WARN Watch instruction without a watcher"
  | queueDropped => "WARN Dropping full or closed watch queue"
  | replyTaken => "WARN Request reply already completed or abandoned"
  | listenerUnused => "WARN Last member accepts no links, dropping listener"
  | linkAttemptFailed => "WARN Peer link attempt failed"
  | responseMalformed => "WARN Malformed registration response"
  | requestMalformed => "WARN Malformed registration request"
  | registrationRepeated => "WARN Repeated registration on a bound session"
  | registrationRejected => "WARN Registration rejected"
  | trafficTooEarly => "WARN Traffic before registration"

end Notice

end ActorMesh
