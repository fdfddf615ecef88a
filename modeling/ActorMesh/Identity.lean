import ActorMesh.Text.Diagnostic
import ActorMesh.Wire.Layout

/-!
# Identifiers

The names by which members, actors, watches, messages and failures are told apart. Each is a type of
its own around a number or a text, so none can stand for another.

* A member of the cluster has a `SystemId`; 0 means "no particular member".
* An actor has an `ActorType` and, within it, an id text; `ActorRef` adds the member it lives on and
  its slot there.
* The types below `ActorType.firstFree` belong to the runtime. Two of them are the proxies that
  speak for actors on other members.
-/

namespace ActorMesh

/-- A member of the cluster; 0 stands for none in particular. -/
structure SystemId where
  value : UInt32
  deriving DecidableEq, Repr, Inhabited

namespace SystemId

/-- No particular member. -/
def none : SystemId := ⟨0⟩

/-- Whether no particular member is meant. -/
def isNone (s : SystemId) : Bool := s.value = 0

/-- The number in text. -/
def text (s : SystemId) : String := toString s.value.toNat

/-- The text for diagnostics. -/
def inspect (s : SystemId) : String := "SystemId(" ++ s.text ++ ")"

end SystemId

/-- The type of an actor. -/
structure ActorType where
  value : UInt32
  deriving DecidableEq, Repr, Inhabited

namespace ActorType

/-- The proxy that relays requests from outside the actor system. -/
def requestProxy : ActorType := ⟨101⟩
/-- The proxy that holds the local watches of a remote actor. -/
def watchProxy : ActorType := ⟨102⟩
/-- The lowest type that an application may use. -/
def firstFree : ActorType := ⟨110⟩

/-- Whether the type belongs to the runtime. -/
def isReserved (t : ActorType) : Bool := t.value < firstFree.value

/-- The number in text. -/
def text (t : ActorType) : String := toString t.value.toNat

/-- The text for diagnostics. -/
def inspect (t : ActorType) : String := "ActorType(" ++ t.text ++ ")"

end ActorType

/-- The slot of an actor on its member; a placed actor has a positive one. -/
structure GroupSlot where
  value : UInt32
  deriving DecidableEq, Repr, Inhabited

/-- What a watcher asks to be told about. -/
structure WatchType where
  value : UInt32
  deriving DecidableEq, Repr, Inhabited

/-- The text for diagnostics. -/
def WatchType.inspect (w : WatchType) : String := "WatchType(" ++ toString w.value.toNat ++ ")"

/-- What a notification is about. -/
structure NotifyType where
  value : UInt32
  deriving DecidableEq, Repr, Inhabited

/-- The number under which a type of messages is registered and by which it travels. -/
structure MessageTypeId where
  value : UInt32
  deriving DecidableEq, Repr, Inhabited

/-- The number in text. -/
def MessageTypeId.text (i : MessageTypeId) : String := toString i.value.toNat

/-- The code of an outcome in responses and registration answers; 0 is success. -/
structure ErrorCode where
  value : Int32
  deriving DecidableEq, Repr, Inhabited

namespace ErrorCode

/-- No error. -/
def success : ErrorCode := ⟨0⟩
/-- An error without a code of its own. -/
def normal : ErrorCode := ⟨1⟩
/-- A registration from a member that is not in the topology. -/
def unknownSystem : ErrorCode := ⟨2⟩
/-- A registration from a member that this one dials itself. -/
def passiveSystem : ErrorCode := ⟨3⟩
/-- A registration while the member is already linked. -/
def duplicateRegistration : ErrorCode := ⟨4⟩
/-- A registration that cannot be read. -/
def malformedRequest : ErrorCode := ⟨5⟩

/-- Whether the code stands for success. -/
def isSuccess (c : ErrorCode) : Bool := c = success

/-- The number in text. -/
def text (c : ErrorCode) : String := toString c.value.toInt

end ErrorCode

/-- The bounded queue of a subscriber that is no actor. -/
structure QueueId where
  value : Nat
  deriving DecidableEq, Repr, Inhabited

/-- The place where the answer to a request from outside the actor system is put. -/
structure ReplyId where
  value : Nat
  deriving DecidableEq, Repr, Inhabited

/-- A connection of a member; they are counted from 0 in the order in which they are made. -/
structure ConnectionId where
  value : Nat
  deriving DecidableEq, Repr, Inhabited

/-- The address of an actor: the member it lives on, its type, its id and its slot there. -/
structure ActorRef where
  system : SystemId
  actorType : ActorType
  id : String
  slot : GroupSlot
  deriving DecidableEq, Repr, Inhabited

namespace ActorRef

/-- The address in text: member, type, id and slot. -/
def text (r : ActorRef) : String :=
  r.system.text ++ "/" ++ r.actorType.text ++ ":" ++ r.id ++ "#" ++ toString r.slot.value.toNat

/-- The text for diagnostics. -/
def inspect (r : ActorRef) : String :=
  Text.record "ActorRef"
    [("system_id", r.system.inspect), ("actor_type", r.actorType.inspect),
      ("actor_id", "ActorId(" ++ Text.quote r.id ++ ")"),
      ("group_slot", "GroupSlot(" ++ toString r.slot.value.toNat ++ ")")]

/-- On the wire the slot comes second and the id last. -/
def layout : Layout ActorRef :=
  (Layout.word32.both <| Layout.word32.both <| Layout.word32.both Layout.text).via
    (fun (system, slot, actorType, id) => ⟨⟨system⟩, ⟨actorType⟩, id, ⟨slot⟩⟩)
    (fun r => (r.system.value, r.slot.value, r.actorType.value, r.id))

theorem layout_lawful : layout.Lawful :=
  Layout.via_lawful
    (Layout.both_lawful Layout.word32_lawful <| Layout.both_lawful Layout.word32_lawful <|
      Layout.both_lawful Layout.word32_lawful Layout.text_lawful)
    (fun _ => rfl) (fun _ => rfl)

end ActorRef

/-- The layout of a watch type. -/
def WatchType.layout : Layout WatchType := Layout.word32.via WatchType.mk WatchType.value
/-- The layout of a notification type. -/
def NotifyType.layout : Layout NotifyType := Layout.word32.via NotifyType.mk NotifyType.value
/-- The layout of an outcome's code. -/
def ErrorCode.layout : Layout ErrorCode := Layout.int32.via ErrorCode.mk ErrorCode.value
/-- The layout of a member's number. -/
def SystemId.layout : Layout SystemId := Layout.word32.via SystemId.mk SystemId.value

theorem WatchType.layout_lawful : WatchType.layout.Lawful :=
  Layout.via_lawful Layout.word32_lawful (fun _ => rfl) (fun _ => rfl)
theorem NotifyType.layout_lawful : NotifyType.layout.Lawful :=
  Layout.via_lawful Layout.word32_lawful (fun _ => rfl) (fun _ => rfl)
theorem ErrorCode.layout_lawful : ErrorCode.layout.Lawful :=
  Layout.via_lawful Layout.int32_lawful (fun _ => rfl) (fun _ => rfl)
theorem SystemId.layout_lawful : SystemId.layout.Lawful :=
  Layout.via_lawful Layout.word32_lawful (fun _ => rfl) (fun _ => rfl)

end ActorMesh
