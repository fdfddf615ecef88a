import ActorMesh.Connection
import ActorMesh.Envelope.Codec
import ActorMesh.Link.Table

/-!
# Roles of connections

A connection of a member is either inbound, with its session, or outbound, with what is known of it.
The role decides what its frames do (`Role.handler`).

A member that dials another one registers first: it sends its number in a frame, and the other
answers with a code. Both frames are the same for all members.

* A connection that a peer opened is a session. Nothing from it reaches the local runtime before the
  peer has registered. Every registration is answered; one that is refused ends the connection, as
  does any frame that may not come here. A package that cannot be read does not.
* On a connection that this member dialed, the first answer to the registration is kept for the one
  who dialed; later ones change nothing. Actor traffic is delivered at any time.

All connections of a member work on its link table, read messages under its registry and deliver to
its local runtime (`Core`). What the runtime got is kept in order of arrival.
-/

namespace ActorMesh

/-! ### What the connections of a member share -/

/-- The part of a member that its connections work on. -/
structure Core (α : Type) where
  registry : Registry α
  table : LinkTable
  /-- What was delivered to the local runtime, the newest first. -/
  arrivals : List (Envelope α)

namespace Core

variable {α : Type}

/-- What was delivered to the local runtime, oldest first. -/
def delivered (core : Core α) : List (Envelope α) := core.arrivals.reverse

/-- Delivers an envelope to the local runtime. -/
def deliver (core : Core α) (e : Envelope α) : Core α :=
  { core with arrivals := e :: core.arrivals }

@[simp] theorem delivered_deliver (core : Core α) (e : Envelope α) :
    (core.deliver e).delivered = core.delivered ++ [e] := by
  simp [deliver, delivered]

/-- Forgets what was delivered. -/
def forget (core : Core α) : Core α := { core with arrivals := [] }

/-- Delivers what arrived in a package; what cannot be read is reported and passed over. -/
def deliverInbound [Vocabulary α] (core : Core α) (k : PackageKind) (payload : Octets) :
    Core α × List Notice :=
  let seen := Envelope.decodeNotices core.registry k payload
  match Envelope.decode core.registry k payload with
  | .ok e => (core.deliver e, seen)
  | .error _ => (core, seen ++ [.inboundUnreadable])

end Core

/-! ### Registration -/

namespace Registration

/-- The frame by which a member registers. -/
def request (s : SystemId) : Frame := ⟨PackageKind.registerRequest.byte, SystemId.layout.write s⟩

/-- The frame that answers a registration. -/
def response (c : ErrorCode) : Frame :=
  ⟨PackageKind.registerResponse.byte, ErrorCode.layout.write c⟩

/-- The failure of a link by a breach of the protocol. -/
def breach (fault : ProtocolFault) : LinkError :=
  .protocol ((ClusterError.protocol fault).message fun _ => false) none

/-- The failure of a link by a frame that may not come there. -/
def misplaced (text : String) : LinkError := .protocol text none

end Registration

/-! ### Inbound connections -/

namespace Inbound

variable {α : Type}

/-- What a registration comes to: the code of the answer. -/
def admission (table : LinkTable) (k : Ticket) (payload : Octets) :
    ErrorCode × LinkTable × List Notice :=
  match SystemId.layout.decode payload with
  | .error _ => (.malformedRequest, table, [.requestMalformed])
  | .ok s =>
    if (table.sessions.binding? k).isSome then
      (.duplicateRegistration, table, [.registrationRepeated])
    else
      match table.bindSession s k with
      | .ok table' => (.success, table', [])
      | .error code => (code, table, [])

/-- Answers a registration. -/
def register (k : Ticket) (core : Core α) (o : Outlet) (payload : Octets) : Reaction (Core α) :=
  let (code, table, notices) := admission core.table k payload
  let core' := { core with table := table }
  -- a peer that was admitted stays so even if the answer cannot be sent; the end of the
  -- connection takes its link down
  match o.send (Registration.response code) with
  | .error e => ⟨core', o, notices, some e⟩
  | .ok o' =>
    if code.isSuccess then ⟨core', o', notices, none⟩
    else ⟨core', o', notices ++ [.registrationRejected],
      some (Registration.misplaced ("registration rejected with code " ++ code.text))⟩

/-- Handles a frame. -/
def frame [Vocabulary α] (k : Ticket) (core : Core α) (o : Outlet) (f : Frame) :
    Reaction (Core α) :=
  match PackageKind.ofByte? f.mark with
  | none => ⟨core, o, [], some (Registration.breach (.unknownPackage f.mark))⟩
  | some .registerRequest => register k core o f.payload
  | some .registerResponse =>
    ⟨core, o, [], some (Registration.misplaced "registration response on an inbound link")⟩
  | some (.parcel kind) =>
    if (core.table.sessions.binding? k).isSome then
      let (core', notices) := core.deliverInbound (.parcel kind) f.payload
      ⟨core', o, notices, none⟩
    else
      ⟨core, o, [.trafficTooEarly], some (Registration.misplaced "traffic before registration")⟩

/-- The connection is gone. -/
def closed (k : Ticket) (core : Core α) : Core α := { core with table := core.table.endSession k }

end Inbound

/-! ### Outbound connections -/

/-- What is known of a dialed connection. -/
structure Dialed where
  /-- The first answer to the registration. -/
  answer : Option ErrorCode
  /-- Whether the connection is gone. -/
  gone : Bool
  deriving DecidableEq, Repr, Inhabited

namespace Outbound

variable {α : Type}

/-- The code in an answer; one that cannot be read counts as malformed. -/
def answerCode (payload : Octets) : ErrorCode × List Notice :=
  match ErrorCode.layout.decode payload with
  | .ok code => (code, [])
  | .error _ => (.malformedRequest, [.responseMalformed])

/-- Handles a frame. -/
def frame [Vocabulary α] (core : Core α) (d : Dialed) (o : Outlet) (f : Frame) :
    Reaction (Core α × Dialed) :=
  match PackageKind.ofByte? f.mark with
  | none => ⟨(core, d), o, [], some (Registration.breach (.unknownPackage f.mark))⟩
  | some .registerResponse =>
    let (code, notices) := answerCode f.payload
    ⟨(core, { d with answer := d.answer <|> some code }), o, notices, none⟩
  | some .registerRequest =>
    ⟨(core, d), o, [], some (Registration.misplaced "registration request on an outbound link")⟩
  | some (.parcel kind) =>
    let (core', notices) := core.deliverInbound (.parcel kind) f.payload
    ⟨(core', d), o, notices, none⟩

end Outbound

/-! ### Either of them -/

/-- What a connection is to its member. -/
inductive Role
  /-- A peer opened it. -/
  | inbound (session : Ticket)
  /-- This member dialed it. -/
  | outbound (d : Dialed)
  deriving DecidableEq, Repr

namespace Role

variable {α : Type}

/-- The handler of the connections of a member. -/
def handler [Vocabulary α] : Handler (Core α × Role) where
  opened s o := (s, o)
  frame s o f :=
    match s with
    | (core, .inbound k) =>
      let r := Inbound.frame k core o f
      ⟨(r.state, .inbound k), r.outlet, r.notices, r.fault⟩
    | (core, .outbound d) =>
      let r := Outbound.frame core d o f
      ⟨(r.state.1, .outbound r.state.2), r.outlet, r.notices, r.fault⟩
  closed s _ :=
    match s with
    | (core, .inbound k) => (Inbound.closed k core, .inbound k)
    | (core, .outbound d) => (core, .outbound { d with gone := true })

end Role

end ActorMesh
