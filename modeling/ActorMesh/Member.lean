import ActorMesh.Link.Dialing
import ActorMesh.Link.Role
import ActorMesh.Proxy.Actor
import ActorMesh.Router

/-!
# Members

A member of a cluster: its links, its router, and the tasks that keep the links up. Time and the
network are outside: the functions below are told the time in milliseconds, what dialing came to and
what happened to a connection, and say what the member does.

* `start` counts the member itself, begins a lifecycle for every peer it dials, and waits until all
  members are linked.
* `accept` takes a connection that a peer opened, `dialed` what the network answered to a lifecycle.
* `send` puts an envelope on the link of another member, `route` sends one wherever it belongs.
-/

namespace ActorMesh

/-- A connection of a member. -/
structure LinkEnd where
  role : Role
  connection : Connection
  deriving DecidableEq, Repr

/-- How far the start of a member is. -/
inductive Startup
  | notAsked
  /-- It looks again at a time. -/
  | waiting (wake : Nat)
  /-- All members were linked. -/
  | complete
  deriving DecidableEq, Repr

/-- A member of a cluster. -/
structure Member (α : Type) where
  config : Config
  core : Core α
  router : Router
  /-- Its connections, by number. -/
  ends : List LinkEnd
  lifecycles : List Lifecycle
  startup : Startup
  /-- The types of actors it can make, in order of registration. -/
  actorTypes : List ActorType

namespace Member

variable {α : Type}

/-- The local member of a configuration that is valid. -/
def ofConfig (c : Config) : Except ClusterError (Member α) :=
  match c.validate with
  | .error fault => .error (.configuration fault)
  | .ok () =>
    match LinkTable.ofConfig c with
    | .error e => .error e
    | .ok table =>
      .ok ⟨c, ⟨.empty, table, []⟩, .new c.localId (.ofConfig c), [], [], .notAsked,
        [.watchProxy, .requestProxy]⟩

/-- The links of a member. -/
def table (m : Member α) : LinkTable := m.core.table

/-- Changes the links of a member. -/
def withTable (m : Member α) (t : LinkTable) : Member α :=
  { m with core := { m.core with table := t } }

/-- Registers a type of messages. -/
def registerMessage (m : Member α) (i : MessageTypeId) (t : MessageType α) :
    Member α × List Notice :=
  ({ m with core := { m.core with registry := m.core.registry.register i t } },
    m.core.registry.registerNotices i)

/-- Registers types of messages one after another. -/
def registerMessages (m : Member α) :
    List (MessageTypeId × MessageType α) → Member α × List Notice
  | [] => (m, [])
  | (i, t) :: rest =>
    let (m', notices) := m.registerMessage i t
    let (last, more) := m'.registerMessages rest
    (last, notices ++ more)

/-! ### Actors -/

/-- Why a type of actors cannot be registered: it belongs to the runtime. -/
def reservedType (t : ActorType) : String :=
  "actor type " ++ t.text ++ " is below " ++ ActorType.firstFree.text

/-- Registers a type of actors of the application. -/
def registerActor (m : Member α) (t : ActorType) : Except String (Member α) :=
  if t.isReserved then .error (reservedType t)
  else .ok { m with actorTypes := m.actorTypes ++ [t] }

/-- A new actor of a type that is registered. An application's own actors relay requests. -/
def makeActor? (m : Member α) (t : ActorType) : Option ProxyActor :=
  if t ∉ m.actorTypes then none
  else if t = .watchProxy then some (.watch (.new m.config.timings.watchProxyIdle))
  else some .request

/-! ### Connections -/

/-- The outlet of a connection. -/
def outlet? (m : Member α) (c : ConnectionId) : Option Outlet :=
  (m.ends[c.value]?).map (·.connection.outlet)

/-- Replaces the outlet of a connection. -/
def setOutlet (m : Member α) (c : ConnectionId) (o : Outlet) : Member α :=
  { m with ends := m.ends.modify c.value fun e =>
      { e with connection := { e.connection with outlet := o } } }

/-- The connection of a link. -/
def connectionOf? (m : Member α) : PeerLink → Option ConnectionId
  | .disconnected => none
  | .client c => some c
  | .session t => (m.table.sessions.get? t).map (·.connection)

/-- The connection of the link to a peer. -/
def linkConnection? (m : Member α) (s : SystemId) : Option ConnectionId :=
  (m.table.link? s).bind m.connectionOf?

/-- How a link looks from outside. -/
inductive LinkView
  /-- The member itself. -/
  | self
  | none
  /-- A connection that the member dialed. -/
  | client (closed : Bool)
  /-- A session, by number, and the peer that it is bound to. -/
  | session (id : Option UInt32) (binding : Option SystemId)
  deriving DecidableEq, Repr

/-- How the link to a member looks. -/
def linkView (m : Member α) (s : SystemId) : LinkView :=
  if s = m.table.localId then .self
  else
    match m.table.link? s with
    | some (.client c) => .client ((m.outlet? c).any (·.isClosed))
    | some (.session t) =>
      .session ((m.table.sessions.get? t).map (·.id)) (m.table.sessions.binding? t)
    | _ => .none

/-- Asks a connection to close. -/
def close (m : Member α) (c : ConnectionId) : Member α :=
  match m.outlet? c with
  | some o => m.setOutlet c o.close
  | none => m

/-- Adds a connection that does not run yet. -/
def addEnd (m : Member α) (role : Role) (peer : Option Address) : Member α :=
  { m with ends := m.ends ++ [⟨role, .new peer m.config.timings.maxFrameSize⟩] }

/-- The number of the next connection. -/
def nextConnection (m : Member α) : ConnectionId := ⟨m.ends.length⟩

/-- Takes a connection that a peer opened. -/
def accept (m : Member α) (peer : Option Address) : Ticket × Member α :=
  let (k, sessions) := m.table.sessions.create m.nextConnection peer
  (k, (m.withTable { m.table with sessions := sessions }).addEnd (.inbound k) peer)

/-- Something happens to a connection. -/
def happen [Vocabulary α] (m : Member α) (c : ConnectionId) (e : Connection.Event) :
    Member α × List Notice :=
  match m.ends[c.value]? with
  | none => (m, [])
  | some e' =>
    let r := e'.connection.step Role.handler (m.core, e'.role) e
    ({ m with core := r.state.1, ends := m.ends.set c.value ⟨r.state.2, r.connection⟩ }, r.notices)

/-! ### Sending -/

/-- Queues an envelope on the link of another member. -/
def send [Vocabulary α] (m : Member α) (target : SystemId) (e : Envelope α) :
    Except ClusterError (Member α) :=
  match Envelope.encode m.core.registry e with
  | .error fault => .error fault
  | .ok encoded =>
    match m.table.peers.get? target with
    | none => .error (.unknownSystem target)
    | some peer =>
      match m.connectionOf? peer.link with
      | none => .error (.peerDisconnected target)
      | some c =>
        match m.outlet? c with
        | none => .error (.peerDisconnected target)
        | some o =>
          match o.send ⟨encoded.kind.byte, encoded.payload⟩ with
          | .ok o' => .ok (m.setOutlet c o')
          | .error fault => .error (.link fault)

/-- How the router of a member hands envelopes on. -/
def carrier [Vocabulary α] : Carrier (Member α) α where
  deliver e m := { m with core := m.core.deliver e }
  remit s e m :=
    let seen := Envelope.encodeNotices m.core.registry e
    match m.send s e with
    | .ok m' => (.ok (), seen, m')
    | .error fault => (.error fault, seen, m)

/-- Routes an envelope. -/
def route [Vocabulary α] (m : Member α) (e : Envelope α) :
    Except ClusterError Unit × List Notice × Member α :=
  let r := m.router.route carrier m e
  (r.result, r.notices, { r.state with router := r.router })

/-! ### Lifecycles -/

/-- Begins the lifecycle of the link to a peer. -/
def beginLifecycle (m : Member α) (p : Peer) : Member α :=
  { m with lifecycles := m.lifecycles ++ [⟨p.config, .due⟩] }

/-- Sets the state of a lifecycle. -/
def setLifecycle (m : Member α) (i : Nat) (s : Lifecycle.State) : Member α :=
  { m with lifecycles := m.lifecycles.modify i fun l => { l with state := s } }

/-- A lifecycle whose connection is gone rests, and without an interval to rest it dials at once. -/
def rest (m : Member α) (i now : Nat) : Member α :=
  m.setLifecycle i <|
    if m.config.timings.reconnectInterval = 0 then .due
    else .resting (now + m.config.timings.reconnectInterval)

/-- A lifecycle that could not connect rests in any case: to dial the same port once more helps only
if something else happened before. -/
def restUnreached (m : Member α) (i now : Nat) : Member α :=
  m.setLifecycle i (.resting (now + m.config.timings.reconnectInterval))

/-- What a failed attempt reports; that the peer is out of reach is no news. -/
def attemptNotices (e : ClusterError) : List Notice :=
  if e.isTransient then [] else [.linkAttemptFailed]

/-- The network has answered to a lifecycle that dialed: with a connection to an address, on which
the member registers, or with a failure. -/
def dialed (m : Member α) (i now : Nat) :
    Except LinkError (Option Address) → Member α × List Notice
  | .error e => (m.restUnreached i now, attemptNotices (.link e))
  | .ok peer =>
    let c := m.nextConnection
    let m' := m.addEnd (.outbound default) peer
    match (Outlet.new peer m.config.timings.maxFrameSize).send
        (Registration.request m.table.localId) with
    | .ok o => ((m'.setOutlet c o).setLifecycle i (.registering c), [])
    | .error e => ((m'.close c).rest i now, attemptNotices (.link e))

/-- An attempt failed after the connection was made. -/
def giveUp (m : Member α) (i now : Nat) (c : ConnectionId) (e : ClusterError) :
    Member α × List Notice :=
  ((m.close c).rest i now, attemptNotices e)

/-- What is known of a dialed connection. -/
def dialedState? (m : Member α) (c : ConnectionId) : Option Dialed :=
  match m.ends[c.value]? with
  | some ⟨.outbound d, _⟩ => some d
  | _ => none

/-- Whether a lifecycle has something to do. -/
def isReady (m : Member α) (now : Nat) : Lifecycle.State → Bool
  | .due => true
  | .dialing => false
  | .registering c => (m.dialedState? c).any fun d => d.answer.isSome || d.gone
  | .serving c => (m.dialedState? c).any (·.gone)
  | .resting wake => decide (wake ≤ now)

/-- Whether a lifecycle has something to do other than to repeat, without a pause, an attempt that
could not connect. -/
def canProceed (m : Member α) (now : Nat) : Lifecycle.State → Bool
  | .resting wake => decide (wake ≤ now) && m.config.timings.reconnectInterval != 0
  | s => m.isReady now s

/-- A lifecycle goes on. One that is due to dial is left to the network. -/
def proceed (m : Member α) (i now : Nat) : Member α × List Notice :=
  match m.lifecycles[i]? with
  | none => (m, [])
  | some l =>
    if m.isReady now l.state then
      match l.state with
      | .due | .dialing => (m, [])
      | .resting _ => (m.setLifecycle i .due, [])
      | .serving c => ((m.withTable (m.table.clearClient l.peer.id c)).rest i now, [])
      | .registering c =>
        match (m.dialedState? c).bind (·.answer) with
        | none => (m.rest i now, attemptNotices (.peerDisconnected l.peer.id))
        | some code =>
          if code.isSuccess then
            match m.table.installClient l.peer.id c with
            | some t => ((m.withTable t).setLifecycle i (.serving c), [])
            | none => m.giveUp i now c (.protocol (.alreadyLinked l.peer.id))
          else m.giveUp i now c (.rejected code)
    else (m, [])

/-! ### Starting -/

/-- Looks whether all members are linked, and otherwise looks again later. -/
def lookAround (m : Member α) (now : Nat) : Member α :=
  { m with startup := if m.table.isComplete then .complete
      else .waiting (now + m.config.timings.startupPollInterval) }

/-- Asks the member to start, with a listener or without one. -/
def start (m : Member α) (hasListener : Bool) (now : Nat) :
    Except ClusterError Unit × List Notice × Member α :=
  let s := m.table.start hasListener
  let m' := m.withTable s.table
  match s.result with
  | .error e => (.error e, s.notices, m')
  | .ok () => (.ok (), s.notices, ((m'.table.passivePeers.foldl beginLifecycle m').lookAround now))

/-- Goes on with a start that is due to look again. -/
def proceedStartup (m : Member α) (now : Nat) : Member α :=
  match m.startup with
  | .waiting wake => if wake ≤ now then m.lookAround now else m
  | _ => m

/-- Whether a start is due to look again, other than to find without a pause what it found. -/
def canLook (m : Member α) (now : Nat) : Bool :=
  match m.startup with
  | .waiting wake => decide (wake ≤ now) &&
      (m.config.timings.startupPollInterval != 0 || m.table.isComplete)
  | _ => false

/-- The next time after `now` at which the member does something by itself. -/
def nextWake? (m : Member α) (now : Nat) : Option Nat :=
  let rests := m.lifecycles.filterMap fun l =>
    match l.state with
    | .resting wake => some wake
    | _ => none
  let looks := match m.startup with
    | .waiting wake => [wake]
    | _ => []
  ((rests ++ looks).filter (now < ·)).min?

end Member

end ActorMesh
