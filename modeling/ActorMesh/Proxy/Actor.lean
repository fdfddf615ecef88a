import ActorMesh.Envelope
import ActorMesh.Mailbox.Queue
import ActorMesh.Mailbox.Reply
import ActorMesh.Notice
import ActorMesh.Proxy.Directory

/-!
# Proxies as actors

While it handles a message, an actor asks the runtime for **actions**. An actor of this library is a
function from its state and a message to its next state and these actions, in order. There are two,
behind one interface (`ProxyActor`).

A **request proxy** relays requests from outside the actor system. It keeps no state: each request
becomes one request to the target, and the answer to that goes into the reply slot of the one who
asked.

A **watch proxy** holds all local subscriptions to one remote actor, its **watchee**, and keeps
exactly one watch on it for every type that somebody listens for. Subscribers are actors
(`watchers`) and queues. The first subscriber of a type arms it: the proxy starts a watch and
cancels a stop that was planned. The last one to leave disarms it: the watch ends, and if no type is
armed any more the proxy plans to stop after a grace period. A queue that refuses a message loses
its subscription.
-/

namespace ActorMesh

/-- What an actor asks of the runtime that hosts it. -/
inductive Action (α : Type) where
  /-- Watch an actor. -/
  | watch (target : ActorRef) (watch : WatchType)
  /-- End a watch. -/
  | unwatch (target : ActorRef) (watch : WatchType)
  /-- Stop this actor after a while, or no longer. -/
  | stopAfter (millis : Option Nat)
  /-- Put a request to an actor, and the answer into a reply slot. -/
  | request (target : ActorRef) (message : Message α) (timeout : Option Nat) (reply : ReplyId)
  /-- Deliver an envelope on this member. -/
  | route (e : Envelope α)
  /-- Report something. -/
  | report (n : Notice)
  deriving DecidableEq, Repr

/-! ### Request proxies -/

namespace RequestProxy

variable {α : Type}

/-- The proxy handles a message. -/
def handle : Message α → List (Action α)
  | .externalRequest target message reply timeout => [.request target message timeout reply]
  | _ => []

/-- The answer to a relayed request arrives. -/
def answer (replies : Replies (Response α)) (reply : ReplyId) (r : Response α) :
    Replies (Response α) × List Notice :=
  let slot := (replies.get? reply).getD .new
  (replies.insert reply (slot.complete r), if slot.accepts then [] else [.replyTaken])

end RequestProxy

/-! ### Subscriptions -/

/-- The subscribers of one kind by the type they listen for. A type that nobody listens for is not
held. -/
abbrev Subscriptions (β : Type) := Table WatchType (List β)

namespace Subscriptions

variable {β : Type} [DecidableEq β]

/-- The subscribers for a type. -/
def listeners (ss : Subscriptions β) (w : WatchType) : List β := (ss.get? w).getD []

/-- Adds a subscriber for a type; one that is there is not added again. -/
def add (ss : Subscriptions β) (w : WatchType) (b : β) : Subscriptions β :=
  ss.insert w (if b ∈ ss.listeners w then ss.listeners w else ss.listeners w ++ [b])

/-- Removes a subscriber for a type, and with the last one the type. -/
def drop (ss : Subscriptions β) (w : WatchType) (b : β) : Subscriptions β :=
  if b ∈ ss.listeners w then
    let rest := (ss.listeners w).filter fun b' => decide (b' ≠ b)
    if rest.isEmpty then ss.erase w else ss.insert w rest
  else ss

/-- Adds (`on`) or removes a subscriber. -/
def change (on : Bool) (w : WatchType) (b : β) (ss : Subscriptions β) : Subscriptions β :=
  if on then ss.add w b else ss.drop w b

/-- No type is held without subscribers, and none of them twice. -/
structure Tidy (ss : Subscriptions β) : Prop where
  ne_nil : ∀ {w bs}, ss.get? w = some bs → bs ≠ []
  nodup : ∀ w, (ss.listeners w).Nodup

omit [DecidableEq β] in
theorem tidy_empty : Tidy (.empty : Subscriptions β) :=
  ⟨fun h => by simp at h, fun _ => List.nodup_nil⟩

omit [DecidableEq β] in
/-- A type is held exactly if somebody listens for it. -/
theorem Tidy.contains_iff {ss : Subscriptions β} (h : ss.Tidy) {w : WatchType} :
    ss.contains w = true ↔ ss.listeners w ≠ [] := by
  simp only [Table.contains, listeners]
  cases hw : ss.get? w with
  | none => simp
  | some bs => simpa using h.ne_nil hw

theorem listeners_add (ss : Subscriptions β) (w w' : WatchType) (b : β) :
    (ss.add w b).listeners w' =
      if w' = w then if b ∈ ss.listeners w then ss.listeners w else ss.listeners w ++ [b]
      else ss.listeners w' := by
  simp only [listeners, add, Table.get?_insert]
  by_cases h : w' = w <;> simp [h]

theorem listeners_drop (ss : Subscriptions β) (w w' : WatchType) (b : β) :
    (ss.drop w b).listeners w' =
      if w' = w then (ss.listeners w).filter fun b' => decide (b' ≠ b) else ss.listeners w' := by
  unfold drop
  by_cases hb : b ∈ ss.listeners w
  · rw [if_pos hb]
    simp only
    split
    · rename_i hrest
      by_cases h : w' = w
      · rw [if_pos h, List.isEmpty_iff.1 hrest, listeners, Table.get?_erase, if_pos h]
        rfl
      · simp [listeners, Table.get?_erase, h]
    · simp only [listeners, Table.get?_insert]
      by_cases h : w' = w <;> simp [h]
  · rw [if_neg hb]
    split
    · rename_i h
      have hall : ∀ b' ∈ ss.listeners w, decide (b' ≠ b) = true := by
        intro b' hb'
        rw [decide_eq_true_eq]
        rintro rfl
        exact hb hb'
      rw [h, List.filter_eq_self.2 hall]
    · rfl

/-- Other types are left alone. -/
theorem get?_change_of_ne {on : Bool} {w w' : WatchType} (h : w' ≠ w) (b : β)
    (ss : Subscriptions β) : (ss.change on w b).get? w' = ss.get? w' := by
  unfold change add drop
  split
  · exact Table.get?_insert_of_ne _ _ h
  · split
    · simp only
      split
      · rw [Table.get?_erase, if_neg h]
      · exact Table.get?_insert_of_ne _ _ h
    · rfl

theorem mem_listeners_change {on : Bool} {w w' : WatchType} {b b' : β} {ss : Subscriptions β} :
    b' ∈ (ss.change on w b).listeners w' ↔
      if w' = w ∧ b' = b then on = true else b' ∈ ss.listeners w' := by
  unfold change
  cases on with
  | true =>
    rw [if_pos rfl, listeners_add]
    by_cases hw : w' = w
    · subst hw
      by_cases hb : b' = b
      · subst hb
        by_cases hm : b' ∈ ss.listeners w' <;> simp [hm]
      · by_cases hm : b ∈ ss.listeners w' <;> simp [hm, hb]
    · simp [hw]
  | false =>
    rw [if_neg (by simp), listeners_drop]
    by_cases hw : w' = w
    · subst hw
      by_cases hb : b' = b <;> simp [hb]
    · simp [hw]

theorem Tidy.change {ss : Subscriptions β} (h : ss.Tidy) (on : Bool) (w : WatchType) (b : β) :
    (ss.change on w b).Tidy := by
  unfold Subscriptions.change
  cases on with
  | true =>
    refine ⟨fun {w'} {bs} hw => ?_, fun w' => ?_⟩
    · simp only [if_true, add, Table.get?_insert] at hw
      split at hw
      · cases hw
        split
        · rename_i hb
          exact List.ne_nil_of_mem hb
        · simp
      · exact h.ne_nil hw
    · rw [if_pos rfl, listeners_add]
      split
      · split
        · exact h.nodup w
        · rename_i hb
          refine List.nodup_append.2 ⟨h.nodup w, by simp, ?_⟩
          rintro x hx y hy rfl
          exact hb (List.mem_singleton.1 hy ▸ hx)
      · exact h.nodup w'
  | false =>
    refine ⟨fun {w'} {bs} hw => ?_, fun w' => ?_⟩
    · simp only [Bool.false_eq_true, if_false, drop] at hw
      split at hw
      · split at hw
        · rw [Table.get?_erase] at hw
          split at hw
          · cases hw
          · exact h.ne_nil hw
        · rename_i hrest
          rw [Table.get?_insert] at hw
          split at hw
          · cases hw
            exact fun hnil => hrest (List.isEmpty_iff.2 hnil)
          · exact h.ne_nil hw
      · exact h.ne_nil hw
    · rw [if_neg (by simp), listeners_drop]
      split
      · exact (h.nodup w).filter _
      · exact h.nodup w'

end Subscriptions

/-! ### Watch proxies -/

/-- The state of a watch proxy. -/
structure WatchProxy where
  /-- How long the proxy stays when nobody needs it. -/
  grace : Nat
  /-- The actor that is watched, once it is known. -/
  watchee : Option ActorRef
  /-- Which queues listen for which type. -/
  queues : Subscriptions QueueId
  /-- Which actors listen for which type. -/
  watchers : Subscriptions ActorRef
  deriving DecidableEq, Repr

namespace WatchProxy

variable {α : Type}

/-- A proxy before it starts. -/
def new (grace : Nat) : WatchProxy := ⟨grace, none, .empty, .empty⟩

/-- How many listen for a type. -/
def subscriberCount (p : WatchProxy) (w : WatchType) : Nat :=
  (p.queues.listeners w).length + (p.watchers.listeners w).length

/-- Whether anyone listens for a type. -/
def isArmed (p : WatchProxy) (w : WatchType) : Bool :=
  p.queues.contains w || p.watchers.contains w

/-- Whether no one listens for anything. -/
def isIdle (p : WatchProxy) : Bool := p.queues.isEmpty && p.watchers.isEmpty

/-- What follows for a type from a change of its subscriptions. -/
def transition (before after : WatchProxy) (w : WatchType) : List (Action α) :=
  match after.watchee with
  | none => []
  | some watchee =>
    if !before.isArmed w && after.isArmed w then [.stopAfter none, .watch watchee w]
    else if before.isArmed w && !after.isArmed w then
      (if after.isIdle then [.stopAfter (some after.grace)] else []) ++ [.unwatch watchee w]
    else []

/-- Starts (`on`) or ends the subscription of an actor. -/
def updateWatcher (p : WatchProxy) (w : WatchType) (on : Bool) (watcher : ActorRef) :
    WatchProxy × List (Action α) :=
  let p' := { p with watchers := p.watchers.change on w watcher }
  (p', transition p p' w)

/-- Starts (`on`) or ends the subscription of a queue. -/
def updateQueue (p : WatchProxy) (w : WatchType) (on : Bool) (queue : QueueId) :
    WatchProxy × List (Action α) :=
  let p' := { p with queues := p.queues.change on w queue }
  (p', transition p p' w)

/-- Ends the subscriptions of queues that refused a message. -/
def dropQueues (p : WatchProxy) (w : WatchType) : List QueueId → WatchProxy × List (Action α)
  | [] => (p, [])
  | q :: rest =>
    let (p', actions) := p.updateQueue w false q
    let (p'', more) := p'.dropQueues w rest
    (p'', .report .queueDropped :: actions ++ more)

/-- Hands a message to everyone who listens for a type: `queued` to the queues, and `forwarded` in
one envelope to the actors. -/
def fanOut (p : WatchProxy) (watchee : ActorRef) (qs : Queues (Message α)) (w : WatchType)
    (queued forwarded : Message α) : WatchProxy × Queues (Message α) × List (Action α) :=
  let queues := p.queues.listeners w
  -- the message goes to all queues at once, so none is refused on account of another
  let refused := queues.filter fun q => !qs.accepts q
  let (p', actions) := p.dropQueues w refused
  let watchers := p'.watchers.listeners w
  let routed := if watchers.isEmpty then []
    else [.route (.parcel (.batchSend (some watchee) watchers [forwarded]))]
  (p', qs.pushAll queues queued, actions ++ routed)

/-- The proxy with the id `id` finds out whom it watches. -/
def start (placement : Placement) (id : String) (p : WatchProxy) : WatchProxy × List (Action α) :=
  let resolved := do
    let key ← ProxyKey.parse id
    placement.place .none key.actorType key.id
  match resolved with
  | .ok watchee => ({ p with watchee := some watchee }, [])
  | .error _ => (p, [.report .watcheeUnresolved])

/-- The proxy handles a message. -/
def handle (p : WatchProxy) (qs : Queues (Message α)) (sender : Option ActorRef) (m : Message α) :
    WatchProxy × Queues (Message α) × List (Action α) :=
  match p.watchee with
  | none => (p, qs, [.report .watcheeMissing])
  | some watchee =>
    match m with
    | .watchInstruction w on =>
      match sender with
      | some watcher => let (p', actions) := p.updateWatcher w on watcher; (p', qs, actions)
      | none => (p, qs, [.report .watcherMissing])
    | .subscription w on queue => let (p', actions) := p.updateQueue w on queue; (p', qs, actions)
    | .watchNotification _ w inner =>
      p.fanOut watchee qs w (.watchNotification watchee w inner) m
    | .eventNotification w _ => p.fanOut watchee qs w m m
    | _ => (p, qs, [])

end WatchProxy

/-! ### Either of them -/

/-- A proxy. -/
inductive ProxyActor
  | watch (p : WatchProxy)
  | request
  deriving DecidableEq, Repr

namespace ProxyActor

variable {α : Type}

/-- The proxy with the id `id` starts. -/
def start (placement : Placement) (id : String) : ProxyActor → ProxyActor × List (Action α)
  | watch p => let (p', actions) := p.start placement id; (watch p', actions)
  | request => (request, [])

/-- The proxy handles a message. -/
def handle (queues : Queues (Message α)) (sender : Option ActorRef) (m : Message α) :
    ProxyActor → ProxyActor × Queues (Message α) × List (Action α)
  | watch p => let (p', queues', actions) := p.handle queues sender m; (watch p', queues', actions)
  | request => (request, queues, RequestProxy.handle m)

end ProxyActor

end ActorMesh
