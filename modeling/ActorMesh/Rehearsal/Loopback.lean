import ActorMesh.Link.Dialing
import ActorMesh.Rehearsal.Network

/-!
# Whole clusters and echoes

Rehearsals in which every member takes part from the beginning, and a far end that sends frames
back.
-/

namespace ActorMesh.Rehearsal

/-- What a far end sends back for a frame: the payload under the next mark. -/
def echo (f : Frame) : Frame := ⟨f.mark + 1, f.payload⟩

/-- What comes back for frames that are sent one after another under a limit. -/
def echoes (limit : Nat) (sent : List Frame) : List Frame :=
  let written := (Outlet.new none limit).sendAll sent
  let arrived := written.1.queue.flatMap fun
    | .frame bytes => bytes
    | .close => []
  (Frame.split limit arrived).frames.map echo

/-- A configuration in which every member listens on a port of its own, from `firstPort` on. -/
def onDistinctPorts (firstPort : Nat) (c : Config) : Config :=
  { c with members := c.members.mapIdx fun i m =>
      { m with host := "127.0.0.1", port := UInt16.ofNat (firstPort + i) } }

/-- One member for every member of a configuration. -/
def everyMember {α : Type} (c : Config) : Except ClusterError (List (Member α)) :=
  c.memberIds.mapM fun s => Member.ofConfig { c with localId := s }

namespace Network

variable {α : Type} [Vocabulary α]

/-- The place of the member with a number. -/
def place? (n : Network α) (s : SystemId) : Option Nat :=
  n.stations.findIdx? fun st => st.member.table.localId = s

/-- A member starts, with a listener if it is dialed; from now on its port leads to it. -/
def startReachable (n : Network α) (i : Nat) : Network α :=
  match n.stations[i]? with
  | none => n
  | some s =>
    let reachable := match s.member.config.local? with
      | some m => { n with reach := n.reach.insert m.port (.station i) }
      | none => n
    reachable.start i s.member.table.acceptsInbound

/-- The member on a port can no longer be dialed. -/
def unlist (n : Network α) (i : Nat) : Network α :=
  match (n.stations[i]?).bind fun s => s.member.config.local? with
  | none => n
  | some m => { n with reach := n.reach.erase m.port }

/-- All members start; then time passes until every one has looked whether all are linked. -/
def gather (n : Network α) : Network α :=
  let started := (List.range n.stations.length).foldl startReachable n
  let longest (f : Timings → Nat) : Nat :=
    (n.stations.map fun s => f s.member.config.timings).foldl max 1
  (settle started).advance (longest (·.reconnectInterval) + longest (·.startupPollInterval))

end Network

end ActorMesh.Rehearsal
