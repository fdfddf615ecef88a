import ActorMesh.Frame
import ActorMesh.Text.Diagnostic

/-!
# Outlets

The sending side of a connection. Frames are queued in the order in which they are accepted; a
request to close takes its place among them. Once the connection has stopped, its outlet accepts
nothing more (`Outlet.send` fails), and what was accepted before stays queued.
-/

namespace ActorMesh

/-- What waits in an outlet. -/
inductive Command
  /-- A frame, as octets. -/
  | frame (bytes : Octets)
  /-- The end of the connection. -/
  | close
  deriving DecidableEq, Repr

/-- The sending side of a connection. -/
structure Outlet where
  /-- The address of the far end. -/
  peer : Option Address
  /-- The longest payload. -/
  limit : Nat
  /-- Whether the connection still takes commands. -/
  accepting : Bool
  /-- What was accepted and not taken up yet, oldest first. -/
  queue : List Command
  deriving DecidableEq, Repr

namespace Outlet

/-- The outlet of a new connection. -/
def new (peer : Option Address) (limit : Nat) : Outlet := ⟨peer, limit, true, []⟩

/-- Queues a frame. -/
def send (o : Outlet) (f : Frame) : Except LinkError Outlet :=
  match f.encode o.limit with
  | .error e => .error e
  | .ok bytes =>
    if o.accepting then .ok { o with queue := o.queue ++ [.frame bytes] }
    else .error (.closed o.peer)

/-- A frame is queued if it fits and the outlet accepts it. -/
theorem send_eq_ok_iff {o o' : Outlet} {f : Frame} :
    o.send f = .ok o' ↔ ∃ bytes, f.encode o.limit = .ok bytes ∧ o.accepting = true ∧
      o' = { o with queue := o.queue ++ [.frame bytes] } := by
  unfold send
  cases f.encode o.limit with
  | error e => simp
  | ok bytes =>
    cases o.accepting with
    | true => simp [eq_comm]
    | false => simp

/-- Asks for the end of the connection, after the frames queued so far. -/
def close (o : Outlet) : Outlet :=
  if o.accepting then { o with queue := o.queue ++ [.close] } else o

/-- Takes no more commands. -/
def refuse (o : Outlet) : Outlet := { o with accepting := false }

/-- Whether commands are refused. -/
def isClosed (o : Outlet) : Bool := !o.accepting

/-- Queues frames until one fails. -/
def sendAll (o : Outlet) : List Frame → Outlet × Option LinkError
  | [] => (o, none)
  | f :: rest =>
    match o.send f with
    | .ok o' => o'.sendAll rest
    | .error e => (o, some e)

/-- The text for diagnostics. -/
def inspect (o : Outlet) : String :=
  Text.record "ConnectionHandle"
    [("peer_addr", Address.inspect o.peer), ("closed", Text.truth o.isClosed)]

end Outlet

end ActorMesh
