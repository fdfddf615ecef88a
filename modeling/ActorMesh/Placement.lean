import ActorMesh.Config
import ActorMesh.Placement.Hash

/-!
# Placement

Where an actor lives follows from its type, its id and the members that host the type, so every
member of a cluster computes the same address.

The members that host a type are taken in the order of the configuration, one as often as it names
the type. The hash of the id picks one of them, and what is left of the hash picks the slot there.
An explicit member takes the place of the one that is picked; the slot stays.
-/

namespace ActorMesh

/-- Which member hosts which type, in order. -/
structure Placement where
  listings : List (ActorType × SystemId)
  deriving DecidableEq, Repr, Inhabited

namespace Placement

/-- The placement that a configuration describes. -/
def ofConfig (c : Config) : Placement :=
  ⟨c.members.flatMap fun m => m.actorTypes.map fun t => (t, m.id)⟩

/-- The members that host a type, in order; one that names the type twice stands twice. -/
def hosts (p : Placement) (t : ActorType) : List SystemId :=
  (p.listings.filter fun l => l.1 = t).map (·.2)

/-- The slot that a number picks; slots are counted from 1. -/
def slot (n : UInt32) : GroupSlot := ⟨(n &&& 0xFFFF) + 1⟩

/-- The address of an actor, on the member given or, for none in particular, on the one that the
hash picks. -/
def place (p : Placement) (s : SystemId) (t : ActorType) (id : String) :
    Except ClusterError ActorRef :=
  let hash := idHash (Octets.ofText id)
  match p.hosts t with
  | [] => if s.isNone then .error (.routing (.unhosted t id)) else .ok ⟨s, t, id, slot hash⟩
  | first :: others =>
    let hosts := first :: others
    let count := UInt32.ofNat hosts.length
    let chosen := if s.isNone then hosts.getD (hash % count).toNat first else s
    .ok ⟨chosen, t, id, slot (hash / count)⟩

/-- For a member in particular there is always an address, on that member. -/
theorem exists_place_eq_ok {s : SystemId} (hs : s.isNone = false) (p : Placement) (t : ActorType)
    (id : String) : ∃ slot, p.place s t id = .ok ⟨s, t, id, slot⟩ := by
  unfold place
  simp only [hs]
  split
  · exact ⟨_, rfl⟩
  · exact ⟨_, rfl⟩

end Placement

end ActorMesh
