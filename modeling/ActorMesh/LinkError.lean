import ActorMesh.Address

/-!
# Failures of links

What can go wrong between two ends of a link: the network, the connection, the framing, the
configuration of the link and the limits set on it.

A failure may name the failure that lies under it (`LinkError.source?`); a copy that is handed on
(`LinkError.withoutSource`) keeps the wording only.
-/

namespace ActorMesh

/-- A failure of a link. -/
inductive LinkError
  /-- The network refused or lost the peer. -/
  | network (message : String) (source : Option String)
  /-- An established connection failed. -/
  | connection (message : String) (remote : Option Address) (source : Option String)
  /-- The peer broke the rules of the link. -/
  | protocol (message : String) (source : Option String)
  /-- A payload of `size` octets where at most `limit` are taken. -/
  | frameTooLarge (size limit : Nat)
  /-- The link is set up wrongly. -/
  | configuration (message : String) (field : Option String)
  /-- The operation took longer than allowed. -/
  | timeout (operation : String) (millis : Nat)
  /-- The connection has ended and takes no more frames. -/
  | closed (remote : Option Address)
  /-- Any other failure of input or output. -/
  | io (message : String)
  deriving DecidableEq, Repr

namespace LinkError

/-- The wording of a failure. -/
def message : LinkError → String
  | network m _ => "Network error: " ++ m
  | connection m remote _ =>
    "Connection error: " ++ m ++ " (remote: " ++ Address.inspect remote ++ ")"
  | protocol m _ => "Protocol error: " ++ m
  | frameTooLarge size limit =>
    "Frame of " ++ toString size ++ " bytes exceeds maximum " ++ toString limit
  | configuration m _ => "Configuration error: " ++ m
  | timeout operation millis =>
    "Timeout error: " ++ operation ++ " exceeded " ++ toString millis ++ "ms"
  | closed remote => "Connection closed (remote: " ++ Address.inspect remote ++ ")"
  | io m => "I/O error: " ++ m

/-- The kind of a failure in one word. -/
def category : LinkError → String
  | network .. => "network"
  | connection .. => "connection"
  | protocol .. => "protocol"
  | frameTooLarge .. => "frame_too_large"
  | configuration .. => "configuration"
  | timeout .. => "timeout"
  | closed .. => "closed"
  | io .. => "io"

/-- Whether the same attempt may succeed later. -/
def isRetryable : LinkError → Bool
  | network .. | connection .. | timeout .. | closed .. | io .. => true
  | protocol .. | frameTooLarge .. | configuration .. => false

/-- Whether the failure only says that the peer is out of reach for now. -/
def isTransient : LinkError → Bool
  | network .. | connection .. | timeout .. => true
  | _ => false

/-- The failure under this one. -/
def source? : LinkError → Option String
  | network _ source => source
  | connection _ _ source => source
  | protocol _ source => source
  | io m => some m
  | _ => none

/-- The failure with its wording only; one of input or output is its own source. -/
def withoutSource : LinkError → LinkError
  | network m _ => network m none
  | connection m remote _ => connection m remote none
  | protocol m _ => protocol m none
  | e => e

end LinkError

end ActorMesh
