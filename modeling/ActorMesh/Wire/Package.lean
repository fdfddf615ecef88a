import ActorMesh.Message.Registry
import ActorMesh.Parcel

/-!
# Packages

What travels inside the frames of a link: the registration of a member, its answer, and parcels.
Each is the layout of its fields in a fixed order; the mark of the frame tells which one to expect.

`Package.decode_eq_ok_iff` is the grammar of parcels: octets decode to a parcel exactly if they
begin with what `Package.write` makes of it, whatever follows. For the other packages the same is
`Layout.decode_eq_ok_iff` with the laws of their layouts.
-/

namespace ActorMesh

/-- The layout of a message. -/
def WireMessage.layout : Layout WireMessage :=
  (Layout.word32.both Layout.octets).via (fun (type, data) => ⟨type, data⟩)
    (fun w => (w.type, w.data))

theorem WireMessage.layout_lawful : WireMessage.layout.Lawful :=
  Layout.via_lawful (Layout.both_lawful Layout.word32_lawful Layout.octets_lawful)
    (fun _ => rfl) (fun _ => rfl)

/-- A response on the wire. -/
structure WireResponse where
  /-- How the request went. -/
  code : ErrorCode
  /-- The answer, if there is one. -/
  message : Option WireMessage
  deriving DecidableEq, Repr, Inhabited

/-- The layout of a response. -/
def WireResponse.layout : Layout WireResponse :=
  (ErrorCode.layout.both WireMessage.layout.optional).via (fun (code, message) => ⟨code, message⟩)
    (fun w => (w.code, w.message))

theorem WireResponse.layout_lawful : WireResponse.layout.Lawful :=
  Layout.via_lawful
    (Layout.both_lawful ErrorCode.layout_lawful (Layout.optional_lawful WireMessage.layout_lawful))
    (fun _ => rfl) (fun _ => rfl)

/-- The layout of a callback. -/
def Callback.layout : Layout Callback :=
  (Layout.word32.both Layout.text).via (fun (id, address) => ⟨id, address⟩)
    (fun c => (c.id, c.address))

theorem Callback.layout_lawful : Callback.layout.Lawful :=
  Layout.via_lawful (Layout.both_lawful Layout.word32_lawful Layout.text_lawful)
    (fun _ => rfl) (fun _ => rfl)

/-- A parcel on the wire. -/
abbrev Package := Parcel WireMessage WireResponse

namespace Package

open Layout

/-! ### The fields of each kind -/

/-- The sender comes first in every parcel. -/
abbrev sender : Layout (Option ActorRef) := ActorRef.layout.optional

/-- Sender, receiver and message. -/
def plain : Layout (Option ActorRef × ActorRef × WireMessage) :=
  sender.both (ActorRef.layout.both WireMessage.layout)

/-- Sender, receivers and messages. -/
def batch : Layout (Option ActorRef × List ActorRef × List WireMessage) :=
  sender.both (ActorRef.layout.list.both WireMessage.layout.list)

/-- Sender, receiver and response. -/
def answer : Layout (Option ActorRef × ActorRef × WireResponse) :=
  sender.both (ActorRef.layout.both WireResponse.layout)

/-- Sender, receiver, message and callback. -/
def plainAsync : Layout (Option ActorRef × ActorRef × WireMessage × Callback) :=
  sender.both (ActorRef.layout.both (WireMessage.layout.both Callback.layout))

/-- Sender, receiver, response and callback. -/
def answerAsync : Layout (Option ActorRef × ActorRef × WireResponse × Callback) :=
  sender.both (ActorRef.layout.both (WireResponse.layout.both Callback.layout))

/-- Sender, receiver, type of the watch and whether it starts. -/
def watching : Layout (Option ActorRef × ActorRef × WatchType × Bool) :=
  sender.both (ActorRef.layout.both (WatchType.layout.both truth))

/-- Sender, receivers, type of the notification, its subject, type of the watch and message. -/
def notification :
    Layout (Option ActorRef × List ActorRef × NotifyType × ActorRef × WatchType × WireMessage) :=
  sender.both (ActorRef.layout.list.both (NotifyType.layout.both
    (ActorRef.layout.both (WatchType.layout.both WireMessage.layout))))

/-- Sender, receiver, type of the notification, type of the watch and message. -/
def firing : Layout (Option ActorRef × ActorRef × NotifyType × WatchType × WireMessage) :=
  sender.both (ActorRef.layout.both (NotifyType.layout.both
    (WatchType.layout.both WireMessage.layout)))

/-! ### Parcels -/

/-- The octets of a parcel. -/
def write : Package → Octets
  | .send s target m | .request s target m => plain.write (s, target, m)
  | .batchSend s targets ms => batch.write (s, targets, ms)
  | .response s target r => answer.write (s, target, r)
  | .requestAsync s target m c => plainAsync.write (s, target, m, c)
  | .responseAsync s target r c => answerAsync.write (s, target, r, c)
  | .watch s target w on => watching.write (s, target, w, on)
  | .notify s targets about subject w m => notification.write (s, targets, about, subject, w, m)
  | .fireNotify s target about w m => firing.write (s, target, about, w, m)

/-- Whether the lengths in a parcel can be written down. -/
def Fits : Package → Prop
  | .send s target m | .request s target m => plain.fits (s, target, m)
  | .batchSend s targets ms => batch.fits (s, targets, ms)
  | .response s target r => answer.fits (s, target, r)
  | .requestAsync s target m c => plainAsync.fits (s, target, m, c)
  | .responseAsync s target r c => answerAsync.fits (s, target, r, c)
  | .watch s target w on => watching.fits (s, target, w, on)
  | .notify s targets about subject w m => notification.fits (s, targets, about, subject, w, m)
  | .fireNotify s target about w m => firing.fits (s, target, about, w, m)

/-- The parcel of the given kind that octets begin with. -/
def decode (k : ParcelKind) (bs : Octets) : Except WireFault Package :=
  match k with
  | .send => (plain.decode bs).map fun (s, target, m) => .send s target m
  | .batchSend => (batch.decode bs).map fun (s, targets, ms) => .batchSend s targets ms
  | .request => (plain.decode bs).map fun (s, target, m) => .request s target m
  | .response => (answer.decode bs).map fun (s, target, r) => .response s target r
  | .requestAsync => (plainAsync.decode bs).map fun (s, target, m, c) => .requestAsync s target m c
  | .responseAsync =>
    (answerAsync.decode bs).map fun (s, target, r, c) => .responseAsync s target r c
  | .watch => (watching.decode bs).map fun (s, target, w, on) => .watch s target w on
  | .notify => (notification.decode bs).map fun (s, targets, about, subject, w, m) =>
      .notify s targets about subject w m
  | .fireNotify =>
    (firing.decode bs).map fun (s, target, about, w, m) => .fireNotify s target about w m

/-! ### The grammar -/

theorem sender_lawful : sender.Lawful := optional_lawful ActorRef.layout_lawful

theorem plain_lawful : plain.Lawful :=
  both_lawful sender_lawful (both_lawful ActorRef.layout_lawful WireMessage.layout_lawful)

theorem batch_lawful : batch.Lawful :=
  both_lawful sender_lawful
    (both_lawful (list_lawful ActorRef.layout_lawful) (list_lawful WireMessage.layout_lawful))

theorem answer_lawful : answer.Lawful :=
  both_lawful sender_lawful (both_lawful ActorRef.layout_lawful WireResponse.layout_lawful)

theorem plainAsync_lawful : plainAsync.Lawful :=
  both_lawful sender_lawful (both_lawful ActorRef.layout_lawful
    (both_lawful WireMessage.layout_lawful Callback.layout_lawful))

theorem answerAsync_lawful : answerAsync.Lawful :=
  both_lawful sender_lawful (both_lawful ActorRef.layout_lawful
    (both_lawful WireResponse.layout_lawful Callback.layout_lawful))

theorem watching_lawful : watching.Lawful :=
  both_lawful sender_lawful (both_lawful ActorRef.layout_lawful
    (both_lawful WatchType.layout_lawful truth_lawful))

theorem notification_lawful : notification.Lawful :=
  both_lawful sender_lawful (both_lawful (list_lawful ActorRef.layout_lawful)
    (both_lawful NotifyType.layout_lawful (both_lawful ActorRef.layout_lawful
      (both_lawful WatchType.layout_lawful WireMessage.layout_lawful))))

theorem firing_lawful : firing.Lawful :=
  both_lawful sender_lawful (both_lawful ActorRef.layout_lawful
    (both_lawful NotifyType.layout_lawful
      (both_lawful WatchType.layout_lawful WireMessage.layout_lawful)))

theorem map_eq_ok_iff {ε α β : Type} {x : Except ε α} {f : α → β} {b : β} :
    x.map f = .ok b ↔ ∃ a, x = .ok a ∧ f a = b := by
  cases x <;> simp [Except.map]

/-- Octets decode to a parcel of a kind exactly if they begin with the parcel as written. -/
theorem decode_eq_ok_iff {k : ParcelKind} {bs : Octets} {p : Package} :
    decode k bs = .ok p ↔ p.kind = k ∧ p.Fits ∧ p.write <+: bs := by
  constructor
  · intro h
    cases k <;> obtain ⟨a, ha, rfl⟩ := map_eq_ok_iff.1 h
    · exact ⟨rfl, (Layout.decode_eq_ok_iff plain_lawful).1 ha⟩
    · exact ⟨rfl, (Layout.decode_eq_ok_iff batch_lawful).1 ha⟩
    · exact ⟨rfl, (Layout.decode_eq_ok_iff plain_lawful).1 ha⟩
    · exact ⟨rfl, (Layout.decode_eq_ok_iff answer_lawful).1 ha⟩
    · exact ⟨rfl, (Layout.decode_eq_ok_iff plainAsync_lawful).1 ha⟩
    · exact ⟨rfl, (Layout.decode_eq_ok_iff answerAsync_lawful).1 ha⟩
    · exact ⟨rfl, (Layout.decode_eq_ok_iff watching_lawful).1 ha⟩
    · exact ⟨rfl, (Layout.decode_eq_ok_iff notification_lawful).1 ha⟩
    · exact ⟨rfl, (Layout.decode_eq_ok_iff firing_lawful).1 ha⟩
  · rintro ⟨rfl, h⟩
    cases p
    · exact map_eq_ok_iff.2 ⟨_, (Layout.decode_eq_ok_iff plain_lawful).2 h, rfl⟩
    · exact map_eq_ok_iff.2 ⟨_, (Layout.decode_eq_ok_iff batch_lawful).2 h, rfl⟩
    · exact map_eq_ok_iff.2 ⟨_, (Layout.decode_eq_ok_iff plain_lawful).2 h, rfl⟩
    · exact map_eq_ok_iff.2 ⟨_, (Layout.decode_eq_ok_iff answer_lawful).2 h, rfl⟩
    · exact map_eq_ok_iff.2 ⟨_, (Layout.decode_eq_ok_iff plainAsync_lawful).2 h, rfl⟩
    · exact map_eq_ok_iff.2 ⟨_, (Layout.decode_eq_ok_iff answerAsync_lawful).2 h, rfl⟩
    · exact map_eq_ok_iff.2 ⟨_, (Layout.decode_eq_ok_iff watching_lawful).2 h, rfl⟩
    · exact map_eq_ok_iff.2 ⟨_, (Layout.decode_eq_ok_iff notification_lawful).2 h, rfl⟩
    · exact map_eq_ok_iff.2 ⟨_, (Layout.decode_eq_ok_iff firing_lawful).2 h, rfl⟩

end Package

end ActorMesh
