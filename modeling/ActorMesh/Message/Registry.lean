import ActorMesh.ClusterError
import ActorMesh.Message
import ActorMesh.Notice
import ActorMesh.Table
import ActorMesh.Wire.Layout

/-!
# The registry of message types

A message that travels is a number and data: the number again, most significant octet first, and
behind it the octets of the message. Which octets belong to which message is settled by the **type**
registered under the number. A type writes its own messages only, so a message whose number is
registered for another type cannot be written (`Registry.marshal`).

`unmarshal_marshal` is the law of a round trip from one registry to another: a message that is
written under the one is read under the other if the type registered there reads the octets back.
-/

namespace ActorMesh

/-- A message on the wire. -/
structure WireMessage where
  /-- The number of its type. -/
  type : UInt32
  /-- The number once more, and the octets of the message. -/
  data : Octets
  deriving DecidableEq, Repr, Inhabited

/-- A type of messages of the application. -/
structure MessageType (α : Type) where
  /-- Its name in diagnostics. -/
  name : String
  /-- The octets of a message of this type; none for other messages. -/
  encode? : α → Option Octets
  /-- The message of this type that octets begin with. -/
  decode : Octets → Except WireFault α

/-- The types of messages by the number under which they travel. -/
structure Registry (α : Type) where
  types : Table MessageTypeId (MessageType α)

namespace Registry

variable {α : Type}

/-- The registry without types. -/
def empty : Registry α := ⟨.empty⟩

instance : Inhabited (Registry α) := ⟨empty⟩

/-- Registers a type; a number that is already taken goes over to it. -/
def register (r : Registry α) (i : MessageTypeId) (t : MessageType α) : Registry α :=
  ⟨r.types.insert i t⟩

/-- What registering under a number reports. -/
def registerNotices (r : Registry α) (i : MessageTypeId) : List Notice :=
  if r.types.contains i then [.typeReplaced] else []

/-- Whether a type is registered under the number. -/
def isRegistered (r : Registry α) (i : MessageTypeId) : Bool := r.types.contains i

/-- How many types are registered. -/
def size (r : Registry α) : Nat := r.types.size

/-- The type registered under a number. -/
def find (r : Registry α) (i : MessageTypeId) : Except ClusterError (MessageType α) :=
  match r.types.get? i with
  | some t => .ok t
  | none => .error (.notRegistered i)

/-- What looking for the type of a number reports. -/
def findNotices (r : Registry α) (i : MessageTypeId) : List Notice :=
  if r.types.contains i then [] else [.typeNotRegistered]

/-- How many octets the number takes in front of a message. -/
def numberWidth : Nat := 4

/-- The octets of a message under a type. -/
def MessageType.encode [Vocabulary α] (t : MessageType α) (m : Message α) :
    Except ClusterError Octets :=
  match m with
  | .app a =>
    match t.encode? a with
    | some body => .ok body
    | none => .error (.notSerializable (m.describe ++ [.text (" is registered as " ++ t.name)]))
  | _ => .error (.notSerializable (m.describe ++ [.text (" is registered as " ++ t.name)]))

/-- A message as it travels. -/
def marshal [Vocabulary α] (r : Registry α) (m : Message α) : Except ClusterError WireMessage :=
  match m.typeId? with
  | none => .error (.notSerializable (m.describe ++ [.text " has no wire type"]))
  | some i => do
    let t ← r.find i
    let body ← MessageType.encode t m
    return ⟨i.value, Octets.be numberWidth i.value.toNat ++ body⟩

/-- What writing a message reports. -/
def marshalNotices [Vocabulary α] (r : Registry α) (m : Message α) : List Notice :=
  match m.typeId? with
  | none => [.messageWithoutType]
  | some i => r.findNotices i

/-- The message that travelled. The number in front of the data is passed over. -/
def unmarshal (r : Registry α) (w : WireMessage) : Except ClusterError (Message α) :=
  if w.data.length < numberWidth then .error (.protocol (.shortMessage w.data.length))
  else do
    let t ← r.find ⟨w.type⟩
    match t.decode (w.data.drop numberWidth) with
    | .ok a => return .app a
    | .error fault => .error (.serialization fault)

/-- What reading a message reports. -/
def unmarshalNotices (r : Registry α) (w : WireMessage) : List Notice :=
  if w.data.length < numberWidth then [] else r.findNotices ⟨w.type⟩

/-- Smaller number first; for one number, smaller name first. -/
def entryLE (a b : Nat × String) : Bool := a.1 < b.1 || (a.1 == b.1 && a.2 ≤ b.2)

/-- The text of a registry for diagnostics: numbers and names in ascending order. -/
def inspect (r : Registry α) : String :=
  let entries := (r.types.entries.map fun e => (e.1.value.toNat, e.2.name)).mergeSort entryLE
  Text.record "MessageRegistry"
    [("entries",
      Text.sequence (entries.map fun e => "(" ++ toString e.1 ++ ", " ++ Text.quote e.2 ++ ")"))]

/-! ### Round trips -/

theorem marshal_eq_ok_iff [Vocabulary α] {r : Registry α} {m : Message α} {w : WireMessage} :
    r.marshal m = .ok w ↔ ∃ i t a body, m = .app a ∧ Vocabulary.typeId? a = some i ∧
      r.types.get? i = some t ∧ t.encode? a = some body ∧
      w = ⟨i.value, Octets.be numberWidth i.value.toNat ++ body⟩ := by
  constructor
  · intro h
    unfold marshal at h
    split at h
    · cases h
    · rename_i i hi
      cases m with
      | app a =>
        simp only [Message.typeId?] at hi
        cases hg : r.types.get? i with
        | none => simp [find, hg, bind, Except.bind] at h
        | some t =>
          cases he : t.encode? a with
          | none => simp [find, hg, MessageType.encode, he, bind, Except.bind] at h
          | some body =>
            simp [find, hg, MessageType.encode, he, bind, Except.bind, pure, Except.pure] at h
            exact ⟨i, t, a, body, rfl, hi, hg, he, h.symm⟩
      | _ => cases hi
  · rintro ⟨i, t, a, body, rfl, hi, hg, he, rfl⟩
    simp [marshal, Message.typeId?, hi, find, hg, MessageType.encode, he, bind, Except.bind, pure,
      Except.pure]

theorem unmarshal_eq_ok_iff {r : Registry α} {w : WireMessage} {m : Message α} :
    r.unmarshal w = .ok m ↔ numberWidth ≤ w.data.length ∧ ∃ t a, r.types.get? ⟨w.type⟩ = some t ∧
      t.decode (w.data.drop numberWidth) = .ok a ∧ m = .app a := by
  unfold unmarshal
  by_cases hlen : w.data.length < numberWidth
  · rw [if_pos hlen]
    exact iff_of_false (fun h => by cases h) fun h => Nat.not_lt.2 h.1 hlen
  · rw [if_neg hlen]
    cases ht : r.types.get? ⟨w.type⟩ with
    | none => simp [find, ht, bind, Except.bind]
    | some t =>
      cases ha : t.decode (w.data.drop numberWidth) with
      | error fault => simp [find, ht, ha, bind, Except.bind]
      | ok a =>
        simpa [find, ht, ha, bind, Except.bind, pure, Except.pure, Nat.not_lt.1 hlen] using
          eq_comm

theorem unmarshal_marshal [Vocabulary α] {r s : Registry α} {m : Message α} {w : WireMessage}
    (h : r.marshal m = .ok w)
    (hs : ∀ t a, m = .app a → s.types.get? ⟨w.type⟩ = some t →
      t.decode (w.data.drop numberWidth) = .ok a)
    (hk : s.isRegistered ⟨w.type⟩ = true) : s.unmarshal w = .ok m := by
  obtain ⟨i, t, a, body, rfl, -, -, -, rfl⟩ := marshal_eq_ok_iff.1 h
  simp only [isRegistered, Table.contains, Option.isSome_iff_exists] at hk
  obtain ⟨t', ht'⟩ := hk
  have hd := hs t' a rfl ht'
  have hi : (⟨i.value⟩ : MessageTypeId) = i := rfl
  simp only [hi] at ht' hd
  simp only [unmarshal, find, hi, ht']
  rw [if_neg (by simp [numberWidth])]
  simp only [bind, Except.bind, hd, pure, Except.pure]

end Registry

end ActorMesh
