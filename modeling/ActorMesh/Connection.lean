import ActorMesh.Connection.Outlet
import ActorMesh.Notice

/-!
# Connections

A connection owns one stream of octets in each direction. It cuts what arrives into frames and hands
them to a **handler**, and it writes what its outlet queued.

* It serves until the stream ends, something fails, the handler rejects a frame or a close comes up
  in the queue. While it writes a frame it does not read.
* Then it accepts no more, writes what is still queued until a write fails, and shuts the stream
  down.
* The handler sees one opening, then the frames in order, then one closing.

What the stream does is given as events (`Connection.Event`), so `Connection.step` says all a
connection does, for any stream and any handler.
-/

namespace ActorMesh

/-- What handling a frame came to. -/
structure Reaction (σ : Type) where
  state : σ
  outlet : Outlet
  notices : List Notice
  /-- Why the frame was rejected, if it was. -/
  fault : Option LinkError

/-- The user of a connection, with a state `σ`. It may send through the outlet at any time. -/
structure Handler (σ : Type) where
  /-- The connection begins to serve. -/
  opened : σ → Outlet → σ × Outlet
  /-- A frame arrived. -/
  frame : σ → Outlet → Frame → Reaction σ
  /-- The stream is gone. -/
  closed : σ → Outlet → σ

namespace Connection

/-- How far the writing of a frame has come. -/
inductive Writing
  /-- Nothing is being written. -/
  | idle
  /-- These octets are still to be written. -/
  | bytes (rest : Octets)
  /-- All is written and has to be flushed. -/
  | flush
  deriving DecidableEq, Repr

/-- Where a connection is in its life. -/
inductive Phase
  /-- It does not run yet. -/
  | made
  /-- It reads, or writes a frame. -/
  | serving (w : Writing)
  /-- It writes what is still queued. -/
  | draining (w : Writing)
  /-- It shuts the stream down. -/
  | closing
  /-- The stream is gone. -/
  | ended
  deriving DecidableEq, Repr

/-- What happens to a connection. -/
inductive Event
  /-- It begins to run. -/
  | started
  /-- It is thrown away before it runs. -/
  | discarded
  /-- Octets arrived. -/
  | received (bytes : Octets)
  /-- No more octets will arrive. -/
  | inputEnded
  /-- Reading failed. -/
  | readFailed
  /-- It looks into its queue. -/
  | polled
  /-- The stream took so many octets. -/
  | wrote (count : Nat)
  /-- The stream is flushed. -/
  | flushed
  /-- Writing or flushing failed. -/
  | writeFailed
  /-- The stream is shut down, or failed to be. -/
  | shutDown
  deriving DecidableEq, Repr

end Connection

/-- A connection. -/
structure Connection where
  outlet : Outlet
  phase : Connection.Phase
  /-- What arrived and is no complete frame yet. -/
  buffer : Octets
  deriving DecidableEq, Repr

namespace Connection

variable {σ : Type}

/-- A connection that does not run yet. -/
def new (peer : Option Address) (limit : Nat) : Connection := ⟨.new peer limit, .made, []⟩

/-- What handing on the frames of a buffer came to. -/
structure Dispatch (σ : Type) where
  reaction : Reaction σ
  /-- What is left of the buffer. -/
  rest : Octets

/-- Hands the complete frames of a buffer to the handler, until it rejects one or the buffer is
broken. -/
def dispatch (h : Handler σ) (limit : Nat) (s : σ) (o : Outlet) (buffer : Octets) : Dispatch σ :=
  match hd : Frame.decode limit buffer with
  | .error e => ⟨⟨s, o, [], some e⟩, buffer⟩
  | .ok none => ⟨⟨s, o, [], none⟩, buffer⟩
  | .ok (some (f, rest)) =>
    have : rest.length < buffer.length := Frame.length_lt_of_decode hd
    let r := h.frame s o f
    match r.fault with
    | some _ => ⟨r, rest⟩
    | none =>
      let more := dispatch h limit r.state r.outlet rest
      ⟨{ more.reaction with notices := r.notices ++ more.reaction.notices }, more.rest⟩
termination_by buffer.length

/-- What a step came to. -/
structure Step (σ : Type) where
  state : σ
  connection : Connection
  notices : List Notice

/-- The connection stops serving. -/
def stop (c : Connection) : Connection :=
  { c with outlet := c.outlet.refuse, phase := .draining .idle }

/-- How far writing has come when the stream has taken `count` more octets. -/
def Writing.advance (count : Nat) : Writing → Writing
  | bytes rest => if rest.length ≤ count then flush else bytes (rest.drop count)
  | w => w

/-- The connection takes up what is first in its queue. -/
def poll (c : Connection) : Connection :=
  match c.phase, c.outlet.queue with
  | .serving .idle, .frame bytes :: rest =>
    { c with outlet := { c.outlet with queue := rest }, phase := .serving (.bytes bytes) }
  | .serving .idle, .close :: rest => stop { c with outlet := { c.outlet with queue := rest } }
  | .draining .idle, .frame bytes :: rest =>
    { c with outlet := { c.outlet with queue := rest }, phase := .draining (.bytes bytes) }
  -- it drains already, so one more request to close means nothing
  | .draining .idle, .close :: rest => { c with outlet := { c.outlet with queue := rest } }
  | .draining .idle, [] => { c with phase := .closing }
  | _, _ => c

/-- Octets arrive at a connection that reads. -/
def receive (h : Handler σ) (s : σ) (c : Connection) (bytes : Octets) : Step σ :=
  let d := dispatch h c.outlet.limit s c.outlet (c.buffer ++ bytes)
  let c' : Connection := { c with outlet := d.reaction.outlet, buffer := d.rest }
  match d.reaction.fault with
  | none => ⟨d.reaction.state, c', d.reaction.notices⟩
  | some _ => ⟨d.reaction.state, stop c', d.reaction.notices ++ [.connectionFailed]⟩

/-- What an event does to a connection. An event that its phase does not wait for does nothing. -/
def step (h : Handler σ) (s : σ) (c : Connection) (e : Event) : Step σ :=
  match c.phase, e with
  | .made, .started =>
    let (s', o) := h.opened s c.outlet
    ⟨s', { c with outlet := o, phase := .serving .idle }, []⟩
  | .made, .discarded => ⟨s, { c with outlet := c.outlet.refuse, phase := .ended }, []⟩
  -- nothing is read while a frame is written
  | .serving .idle, .received bytes => receive h s c bytes
  | .serving .idle, .inputEnded => ⟨s, stop c, []⟩
  | .serving .idle, .readFailed => ⟨s, stop c, [.connectionFailed]⟩
  | .serving .idle, .polled => ⟨s, poll c, []⟩
  | .draining .idle, .polled => ⟨s, poll c, []⟩
  | .serving (.bytes rest), .wrote n =>
    ⟨s, { c with phase := .serving (Writing.advance n (.bytes rest)) }, []⟩
  | .draining (.bytes rest), .wrote n =>
    ⟨s, { c with phase := .draining (Writing.advance n (.bytes rest)) }, []⟩
  | .serving .flush, .flushed => ⟨s, { c with phase := .serving .idle }, []⟩
  | .draining .flush, .flushed => ⟨s, { c with phase := .draining .idle }, []⟩
  | .serving (.bytes _), .writeFailed | .serving .flush, .writeFailed =>
    ⟨s, stop c, [.connectionFailed]⟩
  | .draining (.bytes _), .writeFailed | .draining .flush, .writeFailed =>
    ⟨s, { c with phase := .closing }, []⟩
  | .closing, .shutDown => ⟨h.closed s c.outlet, { c with phase := .ended }, []⟩
  | _, _ => ⟨s, c, []⟩

end Connection

end ActorMesh
