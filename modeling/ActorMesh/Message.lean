import ActorMesh.Identity

/-!
# Messages

What an actor receives. An application brings its own type `α` of messages with a `Vocabulary`: the
number, if any, under which each travels, and its text for diagnostics. The cluster layer adds five
messages of its own, which never leave the member: instructions and requests for the proxies, and
the notifications that watchers get.

A message is described for diagnostics by a text. A message that carries a reply slot shows whether
the slot is already filled, which is known only where the slots are, so a description is text with
holes for that; `Description.render` fills them in.
-/

namespace ActorMesh

/-- A part of a description. -/
inductive Piece
  /-- Text that stands as it is. -/
  | text (s : String)
  /-- Whether a reply slot is filled. -/
  | replyState (reply : ReplyId)
  deriving DecidableEq, Repr

/-- Text with holes for the state of reply slots. -/
abbrev Description := List Piece

namespace Description

/-- A description without holes. -/
def ofText (s : String) : Description := [.text s]

/-- A record whose fields are described. -/
def record (name : String) : List (String × Description) → Description
  | [] => [.text (name ++ " \x7b \x7d")]
  | (field, d) :: rest =>
    .text (name ++ " \x7b " ++ field ++ ": ") :: d ++
      (rest.flatMap fun f => .text (", " ++ f.1 ++ ": ") :: f.2) ++ [.text " \x7d"]

/-- The text of a description, given which reply slots are filled. -/
def render (filled : ReplyId → Bool) (d : Description) : String :=
  String.join (d.map fun
    | .text s => s
    | .replyState r => Text.record "ReplySender" [("completed", Text.truth (filled r))])

end Description

/-- What the cluster layer has to know of the messages of an application. -/
class Vocabulary (α : Type) where
  /-- The number of a message; one without a number stays on its member. -/
  typeId? : α → Option MessageTypeId
  /-- The text of a message for diagnostics. -/
  describe : α → String

/-- A message of the application `α` or of the cluster layer. -/
inductive Message (α : Type) where
  /-- A message of the application. -/
  | app (message : α)
  /-- Asks a watch proxy to start (`on`) or end a watch for its sender. -/
  | watchInstruction (watch : WatchType) (on : Bool)
  /-- Asks a watch proxy to start or end the subscription of a queue. -/
  | subscription (watch : WatchType) (on : Bool) (queue : QueueId)
  /-- Asks a request proxy to put a request to an actor and its answer into a reply slot. -/
  | externalRequest (target : ActorRef) (message : Message α) (reply : ReplyId)
    (timeout : Option Nat)
  /-- What the actor `subject` tells those who watch it. -/
  | watchNotification (subject : ActorRef) (watch : WatchType) (message : Message α)
  /-- An event for those who subscribed to it. -/
  | eventNotification (event : WatchType) (message : Message α)
  deriving DecidableEq, Repr

namespace Message

instance {α : Type} : Inhabited (Message α) := ⟨.watchInstruction default false⟩

variable {α : Type} [Vocabulary α]

/-- The number under which a message travels; those of the cluster layer have none. -/
def typeId? : Message α → Option MessageTypeId
  | app a => Vocabulary.typeId? a
  | _ => none

/-- The description of a message for diagnostics. -/
def describe : Message α → Description
  | app a => .ofText (Vocabulary.describe a)
  | watchInstruction watch on =>
    .record "WatchInstruction"
      [("watch_type", .ofText watch.inspect), ("is_watch", .ofText (Text.truth on))]
  | subscription watch on queue =>
    .record "SubscriptionInstruction"
      [("watch_type", .ofText watch.inspect), ("is_watch", .ofText (Text.truth on)),
        ("queue", .ofText (Text.record "WatchQueue" [("id", toString queue.value)]))]
  | externalRequest target message reply timeout =>
    .record "ExternalRequest"
      [("to", .ofText target.inspect), ("message", message.describe),
        ("reply", [.replyState reply]),
        ("timeout", .ofText (Text.optional (timeout.map Text.span)))]
  | watchNotification subject watch message =>
    .record "WatchNotification"
      [("actor_ref", .ofText subject.inspect), ("watch_type", .ofText watch.inspect),
        ("message", message.describe)]
  | eventNotification event message =>
    .record "EventNotification"
      [("event_id", .ofText event.inspect), ("message", message.describe)]

end Message

end ActorMesh
