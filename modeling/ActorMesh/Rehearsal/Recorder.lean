import ActorMesh.Rehearsal.Pipe

/-!
# A handler that writes down what it sees

A scripted user of a connection: it may greet when the connection opens, answer frames by their
mark, and reject some. It keeps a record of all that reaches it.

A `Recording` is a connection over a pipe with that record. The far end of the pipe is in hand.
-/

namespace ActorMesh.Rehearsal

/-- What reached the handler. -/
inductive Recorded
  | opened
  | frame (f : Frame)
  /-- The stream is gone; whether the outlet refuses frames. -/
  | closed (refusing : Bool)
  deriving DecidableEq, Repr

/-- What the handler does. -/
structure Script where
  /-- What it sends first. -/
  greeting : Option Frame
  /-- What it answers to frames with a mark, in order. -/
  replies : List (UInt8 × Frame)
  /-- The marks of frames that it rejects after that. -/
  rejected : List UInt8
  deriving DecidableEq, Repr

/-- The handler that follows a script. It records the newest first. -/
def Script.handler (sc : Script) : Handler (List Recorded) where
  opened seen o := (.opened :: seen, (o.sendAll sc.greeting.toList).1)
  frame seen o f :=
    let answers := (sc.replies.filter fun r => r.1 = f.mark).map (·.2)
    let (o', fault) := o.sendAll answers
    let rejection : Option LinkError :=
      if f.mark ∈ sc.rejected then some (.protocol "rejected" none) else none
    ⟨.frame f :: seen, o', [], fault <|> rejection⟩
  closed seen o := .closed o.isClosed :: seen

/-- A connection over a pipe, what reached its handler and what was reported. -/
abbrev Recording : Type := Endpoint.Progress (List Recorded)

namespace Recording

/-- A connection that does not run yet. -/
def new (peer : Option Address) (limit : Nat) : Recording := ⟨[], .new peer limit, []⟩

/-- What reached the handler, oldest first. -/
def events (r : Recording) : List Recorded := r.state.reverse

/-- Something is done to the connection or its pipe. -/
def change (f : Endpoint → Endpoint) (r : Recording) : Recording :=
  { r with endpoint := f r.endpoint }

/-- The connection goes on until it has nothing to do. -/
def goOn (sc : Script) (r : Recording) : Recording :=
  let more := r.endpoint.settle sc.handler r.state
  { more with notices := r.notices ++ more.notices }

/-- The far end writes. -/
def pour (sc : Script) (r : Recording) (bytes : Octets) : Push × Recording :=
  Endpoint.pour (·.endpoint) change (goOn sc) r bytes

/-- The connection is given a frame to send. -/
def send (r : Recording) (f : Frame) : Except LinkError Unit × Recording :=
  match r.endpoint.connection.outlet.send f with
  | .ok outlet => (.ok (), r.change (·.withOutlet outlet))
  | .error e => (.error e, r)

/-- Forgets what was recorded, written and reported so far. -/
def forget (r : Recording) : Recording := ⟨[], r.endpoint.collect.2, []⟩

end Recording

end ActorMesh.Rehearsal
