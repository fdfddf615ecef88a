import ActorMesh.Placement
import ActorMesh.Table

/-!
# The directory of proxies

A proxy stands in for one remote actor. Its own id is the text of a **key**: the type of that actor,
a dash, and its id, so one actor has one proxy of a kind.

The directory holds the addresses of the local proxies that were asked for so far. The address
follows from the kind of the proxy and the key of its target; the directory keeps it once it is
known.
-/

namespace ActorMesh

/-- The actor a proxy stands in for. -/
structure ProxyKey where
  actorType : ActorType
  id : String
  deriving DecidableEq, Repr, Inhabited

namespace ProxyKey

/-- The key for an actor. -/
def ofTarget (r : ActorRef) : ProxyKey := ⟨r.actorType, r.id⟩

/-- The mark between type and id. -/
def separator : Char := '-'

/-- The characters before the first separator, and those behind it. -/
def cutAt : List Char → Option (List Char × List Char)
  | [] => none
  | c :: rest =>
    if c = separator then some ([], rest) else (cutAt rest).map fun (a, b) => (c :: a, b)

/-- The text of a key, which is the id of the proxy. -/
def text (k : ProxyKey) : String :=
  Text.Numeral.render k.actorType.value ++ separator.toString ++ k.id

/-- The key that a text spells. -/
def parse (s : String) : Except ClusterError ProxyKey :=
  match cutAt s.toList with
  | none => .error (.protocol (.keyWithoutSeparator s))
  | some (front, back) =>
    match Text.Numeral.parse front with
    | .ok n => .ok ⟨⟨n⟩, String.ofList back⟩
    | .error fault => .error (.protocol (.keyWithBadType s fault))

end ProxyKey

/-- Addresses of local proxies by kind and key. -/
structure ProxyDirectory where
  localId : SystemId
  placement : Placement
  entries : Table (ActorType × ProxyKey) ActorRef
  deriving DecidableEq

namespace ProxyDirectory

/-- The directory of a member before anything is asked for. -/
def new (localId : SystemId) (placement : Placement) : ProxyDirectory :=
  ⟨localId, placement, .empty⟩

instance : Inhabited ProxyDirectory := ⟨new default default⟩

/-- How many addresses are known. -/
def size (d : ProxyDirectory) : Nat := d.entries.size

/-- The local proxy of a kind for a target, and the directory that knows it. -/
def resolve (d : ProxyDirectory) (kind : ActorType) (target : ActorRef) :
    Except ClusterError (ActorRef × ProxyDirectory) :=
  let key := ProxyKey.ofTarget target
  match d.entries.get? (kind, key) with
  | some found => .ok (found, d)
  | none =>
    match d.placement.place d.localId kind key.text with
    | .ok proxy => .ok (proxy, { d with entries := d.entries.insert (kind, key) proxy })
    | .error e => .error e

/-- The addresses that are kept are those that the placement gives. -/
def Faithful (d : ProxyDirectory) : Prop :=
  ∀ kind key proxy, d.entries.get? (kind, key) = some proxy →
    d.placement.place d.localId kind key.text = .ok proxy

theorem faithful_new (localId : SystemId) (placement : Placement) :
    (new localId placement).Faithful :=
  fun _ _ _ h => by cases h

/-- A member that is one in particular finds the local proxy for any target, known or not. -/
theorem Faithful.exists_resolve_eq_ok {d : ProxyDirectory} (h : d.Faithful)
    (hid : d.localId.isNone = false) (kind : ActorType) (target : ActorRef) :
    ∃ proxy d', d.resolve kind target = .ok (proxy, d') ∧
      d.placement.place d.localId kind (ProxyKey.ofTarget target).text = .ok proxy ∧
      d'.localId = d.localId ∧ d'.placement = d.placement ∧ d'.Faithful := by
  unfold resolve
  cases hfound : d.entries.get? (kind, ProxyKey.ofTarget target) with
  | some proxy => exact ⟨proxy, d, by simp only [hfound], h _ _ _ hfound, rfl, rfl, h⟩
  | none =>
    obtain ⟨proxy, hplace⟩ :
        ∃ proxy, d.placement.place d.localId kind (ProxyKey.ofTarget target).text = .ok proxy := by
      obtain ⟨slot, hslot⟩ :=
        d.placement.exists_place_eq_ok hid kind (ProxyKey.ofTarget target).text
      exact ⟨_, hslot⟩
    refine ⟨proxy, { d with entries := d.entries.insert (kind, ProxyKey.ofTarget target) proxy },
      by simp only [hfound, hplace], hplace, rfl, rfl, ?_⟩
    intro kind' key' proxy' hget
    rw [Table.get?_insert] at hget
    split at hget
    · rename_i heq
      cases heq
      cases hget
      exact hplace
    · exact h _ _ _ hget

end ProxyDirectory

end ActorMesh
