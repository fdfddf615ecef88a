import ActorMesh.Link.Dialing
import ActorMesh.Member
import ActorMesh.Rehearsal.Pipe

/-!
# Members in a rehearsal

A **network** in memory: members, the pipes of their connections, a clock, and what dialing a port
comes to. The far end of a pipe is either another member or in the hands of whoever rehearses.

Between two actions of the rehearsal the members go on until nothing is left to do (`settle`); no
time passes then. Time passes only in `advance`, which stops at every moment at which a member
wakes.
-/

namespace ActorMesh.Rehearsal

/-- What dialing a port comes to. -/
inductive Reach
  /-- Nobody listens. -/
  | refuse
  /-- A connection whose far end is in hand. -/
  | accept
  /-- No answer. -/
  | hang
  | timeout
  | closed
  | protocol
  /-- A connection to a member. -/
  | station (place : Nat)
  deriving DecidableEq, Repr

/-- The pipe of a connection. -/
structure Lane where
  pipe : Pipe := {}
  /-- The member and its connection at the far end, if it is one. -/
  far : Option (Nat × ConnectionId) := none
  deriving DecidableEq, Repr

/-- A member with the pipes of its connections. -/
structure Station (α : Type) where
  member : Member α
  lanes : List Lane
  /-- Whether it was asked to start. -/
  asked : Bool
  /-- Whether it listens on the port of its configuration. -/
  listening : Bool
  /-- What the latest start to report came to. -/
  report : Option (Except ClusterError Unit)

/-- A port that a member dialed. -/
structure DialRecord where
  host : String
  port : UInt16
  time : Nat
  deriving DecidableEq, Repr

/-- Members, their pipes and a clock. -/
structure Network (α : Type) where
  stations : List (Station α)
  now : Nat
  reach : Table UInt16 Reach
  /-- The lifecycles that rest, by the place of their member and their own place there, in the order
  in which they came to rest. -/
  resting : List (Nat × Nat)
  /-- The ports that were dialed, oldest first. -/
  dials : List DialRecord
  /-- What was reported, oldest first. -/
  notices : List Notice

namespace Network

variable {α : Type} [Vocabulary α]

/-- A network of members without connections, each of which registers types of messages first. -/
def ofMembers (members : List (Member α × List (MessageTypeId × MessageType α))) : Network α :=
  let registered := members.map fun (m, types) => m.registerMessages types
  { stations := registered.map fun (m, _) => ⟨m, [], false, false, none⟩
    now := 0
    reach := .empty
    resting := []
    dials := []
    notices := registered.flatMap (·.2) }

/-- Changes a station. -/
def modifyStation (n : Network α) (i : Nat) (f : Station α → Station α) : Network α :=
  { n with stations := n.stations.modify i f }

/-- Changes a member. -/
def modifyMember (n : Network α) (i : Nat) (f : Member α → Member α) : Network α :=
  n.modifyStation i fun s => { s with member := f s.member }

/-- Changes the pipe of a connection. -/
def modifyLane (n : Network α) (i : Nat) (c : ConnectionId) (f : Lane → Lane) : Network α :=
  n.modifyStation i fun s => { s with lanes := s.lanes.modify c.value f }

/-- Adds to what was reported. -/
def reporting (n : Network α) (ns : List Notice) : Network α :=
  { n with notices := n.notices ++ ns }

/-- A connection of a member with its pipe. -/
def endpoint? (n : Network α) (i : Nat) (c : ConnectionId) : Option Endpoint := do
  let s ← n.stations[i]?
  let e ← s.member.ends[c.value]?
  let lane ← s.lanes[c.value]?
  return ⟨e.connection, lane.pipe, true⟩

/-- Replaces a connection of a member and its pipe. -/
def setEndpoint (n : Network α) (i : Nat) (c : ConnectionId) (ep : Endpoint) : Network α :=
  let changed := n.modifyMember i fun m =>
    { m with ends := m.ends.modify c.value fun e => { e with connection := ep.connection } }
  changed.modifyLane i c fun lane => { lane with pipe := ep.pipe }

/-- Changes a connection of a member and its pipe. -/
def modifyEndpoint (n : Network α) (i : Nat) (c : ConnectionId) (f : Endpoint → Endpoint) :
    Network α :=
  match n.endpoint? i c with
  | some ep => n.setEndpoint i c (f ep)
  | none => n

/-- Carries what a connection wrote to the member at the far end, and its end. -/
def carry (n : Network α) (i : Nat) (c : ConnectionId) : Network α :=
  match n.endpoint? i c, (n.stations[i]?).bind fun s => s.lanes[c.value]? with
  | some ep, some lane =>
    match lane.far with
    | none => n
    | some (j, d) =>
      let (bytes, emptied) := ep.collect
      let sent := (n.setEndpoint i c emptied).modifyEndpoint j d (·.push bytes)
      if ep.connection.phase = .ended then sent.modifyEndpoint j d (·.hangUp) else sent
  | _, _ => n

/-- A connection goes on until it has nothing to do. -/
def runEnd (n : Network α) (i : Nat) (c : ConnectionId) : Network α :=
  match n.stations[i]? with
  | none => n
  | some s =>
    match s.member.ends[c.value]?, n.endpoint? i c with
    | some e, some ep =>
      if ep.next?.isNone then n
      else
        let r := ep.settle Role.handler (s.member.core, e.role)
        let changed := n.modifyMember i fun m =>
          { m with
            core := r.state.1
            ends := m.ends.set c.value ⟨r.state.2, r.endpoint.connection⟩ }
        ((changed.modifyLane i c fun lane => { lane with pipe := r.endpoint.pipe }).reporting
          r.notices).carry i c
    | _, _ => n

/-! ### Dialing -/

/-- What the network answers to one who dials, unless it connects to a member. -/
def answerOf (host : String) (port : UInt16) : Reach → Option (Except LinkError (Option Address))
  | .refuse =>
    some (.error (.network (host ++ ":" ++ toString port.toNat ++ " refused") none))
  | .accept | .station _ => some (.ok none)
  | .hang => none
  | .timeout => some (.error (.timeout "TCP connect" 1000))
  | .closed => some (.error (.closed none))
  | .protocol => some (.error (.protocol "protocol" none))

/-- Adds the pipe of a connection to a member. -/
def addLane (n : Network α) (i : Nat) (lane : Lane) : Network α :=
  n.modifyStation i fun s => { s with lanes := s.lanes ++ [lane] }

/-- A member takes a connection from an address. -/
def accept (n : Network α) (i : Nat) (peer : Option Address) (far : Option (Nat × ConnectionId)) :
    Network α :=
  (n.modifyMember i fun m => (m.accept peer).2).addLane i { far := far }

/-- A lifecycle that is due dials. -/
def dial (n : Network α) (i l : Nat) : Network α :=
  match n.stations[i]? with
  | none => n
  | some s =>
    match s.member.lifecycles[l]? with
    | none => n
    | some cycle =>
      let port := cycle.peer.port
      let reach := (n.reach.get? port).getD .refuse
      let logged : Network α := { n with dials := n.dials ++ [⟨cycle.peer.host, port, n.now⟩] }
      match answerOf cycle.peer.host port reach with
      | none => logged.modifyMember i fun m => m.setLifecycle l .dialing
      | some answer =>
        let (member, notices) := s.member.dialed l n.now answer
        let changed := (logged.modifyMember i fun _ => member).reporting notices
        let mine := s.member.nextConnection
        match answer, reach with
        | .error _, _ => changed
        | .ok _, .station j =>
          match changed.stations[j]? with
          | none => changed
          | some other =>
            let theirs := other.member.nextConnection
            (changed.addLane i { far := some (j, theirs) }).accept j none (some (i, mine))
        | .ok _, _ => changed.addLane i {}

/-! ### Going on -/

/-- Keeps the order of the lifecycles that rest, after one of them went on. One that rests again
without a connection in between stays where it is. -/
def keepOrder (n : Network α) (i l : Nat) : Network α :=
  let rests := ((n.stations[i]?).bind (·.member.lifecycles[l]?)).any (·.state.isResting)
  if !rests then { n with resting := n.resting.filter (· ≠ (i, l)) }
  else if (i, l) ∈ n.resting then n
  else { n with resting := n.resting ++ [(i, l)] }

/-- A lifecycle goes on, up to dialing. -/
def runLifecycle (n : Network α) (i l : Nat) : Network α :=
  match n.stations[i]? with
  | none => n
  | some s =>
    let (member, notices) := s.member.proceed l n.now
    let changed := (n.modifyMember i fun _ => member).reporting notices
    let isDue := (member.lifecycles[l]?).any (·.state = .due)
    keepOrder (if isDue then changed.dial i l else changed) i l

/-- A start goes on; it reports when all members are linked. -/
def runStartup (n : Network α) (i : Nat) : Network α :=
  n.modifyStation i fun s =>
    let member := s.member.proceedStartup n.now
    { s with
      member := member
      report := if s.member.startup ≠ .complete && member.startup = .complete then some (.ok ())
        else s.report }

/-- The lifecycles of a member that have something new to do. -/
def eager (n : Network α) (i : Nat) : List Nat :=
  match n.stations[i]? with
  | none => []
  | some s => (List.range s.member.lifecycles.length).filter fun l =>
      (s.member.lifecycles[l]?).any fun c => s.member.canProceed n.now c.state

/-- One round: everything at a member goes on once. -/
def runStation (n : Network α) (i : Nat) : Network α :=
  let started := n.runStartup i
  let dialed := (started.eager i).foldl (fun n l => n.runLifecycle i l) started
  let ends := ((dialed.stations[i]?).map (·.member.ends.length)).getD 0
  (List.range ends).foldl (fun n c => n.runEnd i ⟨c⟩) dialed

/-- Whether a member has something new to do. -/
def isBusy (n : Network α) (i : Nat) : Bool :=
  match n.stations[i]? with
  | none => false
  | some s =>
    !(n.eager i).isEmpty || s.member.canLook n.now ||
      (List.range s.member.ends.length).any fun c =>
        (n.endpoint? i ⟨c⟩).any (·.next?.isSome)

/-- Lets all members go on until none has anything new to do, for at most so many rounds. -/
def settleWithin : Nat → Network α → Network α
  | 0, n => n
  | rounds + 1, n =>
    let places := List.range n.stations.length
    if places.any n.isBusy then settleWithin rounds (places.foldl runStation n) else n

/-- More rounds than any exchange between members takes: a registration and its answer, closing
after it, and one round for each envelope that crosses. -/
def manyRounds : Nat := 1000

/-- The lifecycles that have rested long enough go on, in the order in which they came to rest. One
that does not pause makes another attempt here: what happened before may have helped it. -/
def wakeUp (n : Network α) : Network α :=
  n.resting.foldl (fun n p => n.runLifecycle p.1 p.2) n

/-- Lets all members go on until none has anything new to do. -/
def settle (n : Network α) : Network α := settleWithin manyRounds n.wakeUp

/-- The next time at which a member wakes. -/
def nextWake? (n : Network α) : Option Nat :=
  (n.stations.filterMap fun s => s.member.nextWake? n.now).min?

/-- Lets time pass up to a moment, stopping at most so many times on the way. -/
def advanceWithin : Nat → Nat → Network α → Network α
  | 0, moment, n => { n with now := moment }
  | stops + 1, moment, n =>
    match n.nextWake? with
    | some wake =>
      if wake ≤ moment then advanceWithin stops moment (settle { n with now := wake })
      else { n with now := moment }
    | none => { n with now := moment }

/-- Lets time pass. Members wake at whole milliseconds, so there are no more stops than those. -/
def advance (n : Network α) (millis : Nat) : Network α :=
  advanceWithin (millis + 1) (n.now + millis) n

/-! ### Actions -/

/-- The far end of a connection, which is in hand, writes. -/
def pour (n : Network α) (i : Nat) (c : ConnectionId) (bytes : Octets) :
    Option (Push × Network α) := do
  let ep ← n.endpoint? i c
  return Endpoint.pour (fun n => (n.endpoint? i c).getD ep) (fun f n => n.modifyEndpoint i c f)
    settle n bytes

/-- Asks a member to start, with a listener or without one. -/
def start (n : Network α) (i : Nat) (hasListener : Bool) : Network α :=
  match n.stations[i]? with
  | none => n
  | some s =>
    let (result, notices, member) := s.member.start hasListener n.now
    let report := match result with
      | .error e => some (.error e)
      | .ok () => if member.startup = .complete then some (.ok ()) else s.report
    (n.modifyStation i fun s =>
      { s with member := member, asked := true, report := report }).reporting notices

/-- Asks a member to listen on the port of its configuration, if it is dialed, and to start. Nothing
else happens if it cannot listen: the host has to be its own, and a port serves one listener, save
port 0, which stands for any that is free. -/
def startListening (n : Network α) (i : Nat) : Network α :=
  match n.stations[i]? with
  | none => n
  | some s =>
    match s.member.table.listenAddress with
    | none => n.start i false
    | some (host, port) =>
      if Listening.isOwnHost host && !(s.listening && port ≠ 0) then
        (n.modifyStation i fun s =>
          { s with listening := s.listening || !s.member.table.started }).start i true
      else
        let failure : ClusterError := .link (Listening.failure "unavailable")
        n.modifyStation i fun s => { s with asked := true, report := some (.error failure) }

/-- Begins one more lifecycle for a peer. -/
def beginLifecycle (n : Network α) (i : Nat) (peer : SystemId) : Option (Network α) := do
  let s ← n.stations[i]?
  let p ← s.member.table.peers.get? peer
  return n.modifyMember i (·.beginLifecycle p)

/-- Asks the connection of the link to a peer to close. -/
def closeLink (n : Network α) (i : Nat) (peer : SystemId) : Option (Network α) := do
  let s ← n.stations[i]?
  let c ← s.member.linkConnection? peer
  return n.modifyMember i (·.close c)

/-- Asks the connection of a live session to close. -/
def closeSession (n : Network α) (i : Nat) (id : UInt32) : Option (Network α) := do
  let s ← n.stations[i]?
  let k ← s.member.table.sessions.find? id
  let session ← s.member.table.sessions.get? k
  return n.modifyMember i (·.close session.connection)

/-- A member routes an envelope. -/
def route (n : Network α) (i : Nat) (e : Envelope α) : Except ClusterError Unit × Network α :=
  match n.stations[i]? with
  | none => (.ok (), n)
  | some s =>
    let (result, notices, member) := s.member.route e
    (result, (n.modifyMember i fun _ => member).reporting notices)

/-- A member sends an envelope to another. -/
def send (n : Network α) (i : Nat) (target : SystemId) (e : Envelope α) :
    Except ClusterError Unit × Network α :=
  match n.stations[i]? with
  | none => (.ok (), n)
  | some s =>
    let seen := n.reporting (Envelope.encodeNotices s.member.core.registry e)
    match s.member.send target e with
    | .ok member => (.ok (), seen.modifyMember i fun _ => member)
    | .error fault => (.error fault, seen)

/-- A member is handed a package as if it had arrived. -/
def deliverInbound (n : Network α) (i : Nat) (k : PackageKind) (payload : Octets) : Network α :=
  match n.stations[i]? with
  | none => n
  | some s =>
    let (core, notices) := s.member.core.deliverInbound k payload
    (n.modifyMember i fun m => { m with core := core }).reporting notices

/-- The ports that were dialed, by time and then by port. -/
def dialsByTime (n : Network α) : List DialRecord :=
  n.dials.mergeSort fun a b => a.time < b.time || (a.time == b.time && a.port ≤ b.port)

/-- What was reported, in the order of the texts. -/
def noticeTexts (n : Network α) : List String :=
  (n.notices.map Notice.text).mergeSort fun a b => a ≤ b

/-- Forgets what was delivered, written, dialed and reported so far. -/
def forget (n : Network α) : Network α :=
  { n with
    dials := []
    notices := []
    stations := n.stations.map fun s =>
      { s with
        member := { s.member with core := s.member.core.forget }
        lanes := s.lanes.map fun lane => { lane with pipe := { lane.pipe with written := [] } } } }

end Network

end ActorMesh.Rehearsal
