import ActorMesh.Config

/-!
# Dialing and listening

The settings with which a member dials over the network, where it can listen, and how either failing
is told.

For every peer that a member dials there is a **lifecycle**: it dials, registers, serves until the
link drops, rests for a while and starts over. It never gives up.
-/

namespace ActorMesh

/-- How a member dials. -/
structure DialSettings where
  /-- How long dialing may take, in milliseconds. -/
  connectTimeout : Nat := 5000
  /-- Whether small frames go out at once. -/
  noDelay : Bool := true
  deriving DecidableEq, Repr

namespace DialSettings

/-- Nobody listens at an address; `cause` is what the network says. -/
def refusal (host port cause : String) : LinkError :=
  .network ("Failed to connect to " ++ host ++ ":" ++ port) (some cause)

end DialSettings

namespace Listening

/-- Whether a text is a number of at most 255, without a zero in front. -/
def isOctetText (s : String) : Bool :=
  s.toList.all Char.isDigit && decide (s.toNat?.getD 256 ≤ 255) &&
    (s.length == 1 || s.toList.head? != some '0')

/-- Whether a host is the machine itself: its name, any address of the loopback network, or the
address that stands for all of its own. -/
def isOwnHost (host : String) : Bool :=
  host == "localhost" || host == "0.0.0.0" ||
    match host.splitOn "." with
    | ["127", b, c, d] => isOctetText b && isOctetText c && isOctetText d
    | _ => false

/-- A member cannot listen; `cause` is what the network says. -/
def failure (cause : String) : LinkError := .network "Failed to bind TCP listener" (some cause)

end Listening

/-! ### Lifecycles of dialed links -/

/-- The stages of a lifecycle, as they are named in diagnostics. -/
inductive LifecycleStage
  | dialing
  | registering
  | awaitingAck
  | ready
  | draining
  deriving DecidableEq, Repr

/-- The name of a stage. -/
def LifecycleStage.text : LifecycleStage → String
  | dialing => "dialing"
  | registering => "registering"
  | awaitingAck => "awaiting_ack"
  | ready => "ready"
  | draining => "draining"

/-- All stages, in the order in which a link goes through them. -/
def LifecycleStage.all : List LifecycleStage := [dialing, registering, awaitingAck, ready, draining]

/-- Where a lifecycle is. -/
inductive Lifecycle.State
  /-- It is about to dial. -/
  | due
  /-- It waits for the network. -/
  | dialing
  /-- It has registered on a connection and waits for the answer. -/
  | registering (c : ConnectionId)
  /-- The link is up on a connection. -/
  | serving (c : ConnectionId)
  /-- It dials again at a time. -/
  | resting (wake : Nat)
  deriving DecidableEq, Repr

/-- Whether a lifecycle rests. -/
def Lifecycle.State.isResting : Lifecycle.State → Bool
  | .resting _ => true
  | _ => false

/-- The lifecycle of the link to a peer. -/
structure Lifecycle where
  peer : MemberConfig
  state : Lifecycle.State
  deriving DecidableEq, Repr

end ActorMesh
