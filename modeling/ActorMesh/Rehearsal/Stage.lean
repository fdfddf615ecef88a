import ActorMesh.Proxy.Actor

/-!
# Proxies on stage

A **stage** hosts one proxy without a runtime: messages are handed to it one by one, what it asks
for is written down, and the queues and reply slots it works on can be looked at from the other
side.
-/

namespace ActorMesh.Rehearsal

/-- Queues and reply slots as seen from outside. -/
structure Props (α : Type) where
  queues : Queues (Message α)
  replies : Replies (Response α)

namespace Props

variable {α : Type}

/-- The capacity of a queue that is named before it is set up. -/
def usualCapacity : Nat := 4

/-- Queues with the given capacities, and no reply slots. -/
def ofCapacities (capacities : List Nat) : Props α :=
  ⟨.ofList (capacities.mapIdx fun i c => (⟨i⟩, .new c)), .empty⟩

instance : Inhabited (Props α) := ⟨ofCapacities []⟩

/-- Sets up a queue that is named for the first time. -/
def provideQueue (p : Props α) (q : QueueId) : Props α :=
  if p.queues.contains q then p else { p with queues := p.queues.insert q (.new usualCapacity) }

/-- Sets up a reply slot that is named for the first time. -/
def provideReply (p : Props α) (r : ReplyId) : Props α :=
  if p.replies.contains r then p else { p with replies := p.replies.insert r .new }

/-- Sets up the queues and slots that a message names. -/
def provide (p : Props α) : Message α → Props α
  | .app _ | .watchInstruction .. => p
  | .subscription _ _ q => p.provideQueue q
  | .externalRequest _ m r _ => (p.provide m).provideReply r
  | .watchNotification _ _ m | .eventNotification _ m => p.provide m

/-- Sets up the queues and slots that an envelope names. -/
def provideEnvelope (p : Props α) : Envelope α → Props α
  | .outerWatch _ _ _ q => p.provideQueue q
  | .outerRequest _ m r _ => (p.provide m).provideReply r
  | .parcel (.batchSend _ _ ms) => ms.foldl provide p
  | .parcel (.send _ _ m) | .parcel (.request _ _ m) | .parcel (.requestAsync _ _ m _)
  | .parcel (.notify _ _ _ _ _ m) | .parcel (.fireNotify _ _ _ _ m) => p.provide m
  | .parcel (.response _ _ r) | .parcel (.responseAsync _ _ r _) => (r.message.map p.provide).getD p
  | .parcel (.watch ..) => p

/-- The queue with a number. -/
def queue (p : Props α) (q : QueueId) : BoundedQueue (Message α) :=
  (p.queues.get? q).getD (.new usualCapacity)

/-- The reply slot with a number. -/
def reply (p : Props α) (r : ReplyId) : ReplySlot (Response α) := (p.replies.get? r).getD .new

/-- Whether an answer came into a slot. -/
def filled (p : Props α) (r : ReplyId) : Bool := p.replies.isCompleted r

/-- Puts a message into a queue; whether the queue takes it. -/
def enqueue (p : Props α) (q : QueueId) (m : Message α) : Bool × Props α :=
  ((p.queue q).accepts, { p with queues := p.queues.insert q ((p.queue q).push m) })

/-- Reads from a queue. -/
def dequeue (p : Props α) (q : QueueId) : Option (Message α) × Props α :=
  match (p.queue q).pop? with
  | some (m, rest) => (some m, { p with queues := p.queues.insert q rest })
  | none => (none, p)

/-- The reader of a queue goes away. -/
def closeQueue (p : Props α) (q : QueueId) : Props α :=
  { p with queues := p.queues.insert q (p.queue q).close }

/-- Puts an answer into a reply slot; whether it is delivered. -/
def complete (p : Props α) (r : ReplyId) (a : Response α) : Bool × Props α :=
  ((p.reply r).accepts, { p with replies := p.replies.insert r ((p.reply r).complete a) })

/-- Looks into a reply slot. -/
def receive (p : Props α) (r : ReplyId) : Reception (Response α) × Props α :=
  let (found, slot) := (p.reply r).receive
  (found, { p with replies := p.replies.insert r slot })

/-- The one who waits at a reply slot goes away. -/
def abandon (p : Props α) (r : ReplyId) : Props α :=
  { p with replies := p.replies.insert r (p.reply r).abandon }

end Props

/-- Whether a target comes before another: by member, type, name and slot. -/
def targetLE (a b : ActorRef) : Bool :=
  let place (r : ActorRef) : Nat × Nat := (r.system.value.toNat, r.actorType.value.toNat)
  let order := ((compare (place a).1 (place b).1).then (compare (place a).2 (place b).2)).then
    ((compare a.id b.id).then (compare a.slot.value.toNat b.slot.value.toNat))
  order != .gt

/-- An envelope with the targets of a batch in order, whatever order they came in. -/
def orderTargets {α : Type} : Envelope α → Envelope α
  | .parcel (.batchSend s targets ms) => .parcel (.batchSend s (targets.mergeSort targetLE) ms)
  | e => e

/-- A proxy with its surroundings. -/
structure Stage (α : Type) where
  placement : Placement
  /-- The address of the proxy. -/
  me : ActorRef
  actor : ProxyActor
  props : Props α
  /-- The reply slots of the requests it made, in order, until they are answered. -/
  requests : List (Option ReplyId)
  /-- What was reported before and is still to be told. -/
  pending : List Notice

namespace Stage

variable {α : Type}

/-- The reply slots of requests among actions. -/
def requestsIn : List (Action α) → List (Option ReplyId)
  | [] => []
  | .request _ _ _ r :: rest => some r :: requestsIn rest
  | _ :: rest => requestsIn rest

/-- What there is to tell after some actions: before them goes what was still to be told. -/
def tell (s : Stage α) (actions : List (Action α)) : Stage α × List (Action α) :=
  ({ s with pending := [] }, s.pending.map .report ++ actions)

/-- The proxy starts. -/
def start (s : Stage α) : Stage α × List (Action α) :=
  let (actor, actions) := s.actor.start s.placement s.me.id
  ({ s with actor := actor }, actions)

/-- The proxy handles a message. -/
def perform (s : Stage α) (sender : Option ActorRef) (m : Message α) : Stage α × List (Action α) :=
  let props := s.props.provide m
  let (actor, queues, actions) := s.actor.handle props.queues sender m
  ({ s with
    actor := actor
    props := { props with queues := queues }
    requests := s.requests ++ requestsIn actions }, actions)

/-- The n-th request is answered, if it is there and was not answered before. -/
def answer (s : Stage α) (n : Nat) (r : Response α) : Option (Stage α × List Notice) :=
  match s.requests[n]? with
  | some (some reply) =>
    let (replies, notices) := RequestProxy.answer s.props.replies reply r
    some ({ s with
      props := { s.props with replies := replies }
      requests := s.requests.set n none }, notices)
  | _ => none

end Stage

end ActorMesh.Rehearsal
