import ActorMesh.Proxy.Actor
import Mathlib.Data.List.Chain
import Mathlib.Data.List.Induction

/-!
# The protocol of a watch proxy

A watch proxy that knows its watchee handles any messages, in any order, while the queues of its
subscribers fill up and close as they like. Whatever happened, its state is told by the last word of
every subscriber, and the watches it asked for by its state: for every type they are started and
ended in turn, and one is running exactly while somebody listens (`keepsProtocol_of_history`).

A subscription ends in three ways: by an instruction of an actor, by one for a queue, and by a queue
that refuses a message. All of them are one change of the subscriptions with the `transition` that
follows from it, so the invariant `InStep` is shown once for a change and carried from there to all
that a message does.
-/

namespace ActorMesh.WatchProxy

variable {α : Type}

/-! ### What is asked for -/

/-- Whether an action starts (`true`) or ends (`false`) a watch of a type. -/
def watchCall? (w : WatchType) : Action α → Option Bool
  | .watch _ w' => if w' = w then some true else none
  | .unwatch _ w' => if w' = w then some false else none
  | _ => none

/-- The watches of a type that are started and ended, in order. -/
def watchCalls (w : WatchType) (as : List (Action α)) : List Bool := as.filterMap (watchCall? w)

/-- The plan to stop that an action makes: after a while, or no longer. -/
def stopCall? : Action α → Option (Option Nat)
  | .stopAfter millis => some millis
  | _ => none

/-- The plans to stop, in order. -/
def stopCalls (as : List (Action α)) : List (Option Nat) := as.filterMap stopCall?

/-- An action that neither starts or ends a watch nor plans a stop. -/
def IsSilent : Action α → Prop
  | .report _ | .route _ | .request .. => True
  | .watch .. | .unwatch .. | .stopAfter _ => False

@[simp] theorem watchCalls_append (w : WatchType) (as bs : List (Action α)) :
    watchCalls w (as ++ bs) = watchCalls w as ++ watchCalls w bs :=
  List.filterMap_append

@[simp] theorem stopCalls_append (as bs : List (Action α)) :
    stopCalls (as ++ bs) = stopCalls as ++ stopCalls bs :=
  List.filterMap_append

theorem IsSilent.calls {a : Action α} (h : IsSilent a) (w : WatchType) :
    watchCall? w a = none ∧ stopCall? a = none := by
  cases a with
  | report | route | request => exact ⟨rfl, rfl⟩
  | watch | unwatch | stopAfter => cases h

theorem watchCalls_eq_nil {w : WatchType} {as : List (Action α)} (h : ∀ a ∈ as, IsSilent a) :
    watchCalls w as = [] :=
  List.filterMap_eq_nil_iff.2 fun a ha => ((h a ha).calls w).1

theorem stopCalls_eq_nil {as : List (Action α)} (h : ∀ a ∈ as, IsSilent a) : stopCalls as = [] :=
  List.filterMap_eq_nil_iff.2 fun a ha => ((h a ha).calls default).2

/-! ### The invariant -/

/-- No type is held without subscribers. -/
def Tidy (p : WatchProxy) : Prop := p.queues.Tidy ∧ p.watchers.Tidy

theorem isIdle_iff (p : WatchProxy) : p.isIdle = true ↔ ∀ w, p.isArmed w = false := by
  simp only [isIdle, isArmed, Bool.and_eq_true, Bool.or_eq_false_iff, Table.isEmpty_iff]
  exact ⟨fun h w => ⟨h.1 w, h.2 w⟩, fun h => ⟨fun w => (h w).1, fun w => (h w).2⟩⟩

/-- A proxy with an armed type is needed. -/
theorem isIdle_eq_false {p : WatchProxy} {w : WatchType} (h : p.isArmed w = true) :
    p.isIdle = false := by
  refine Bool.eq_false_iff.2 fun hidle => ?_
  rw [(isIdle_iff p).1 hidle w] at h
  cases h

theorem isIdle_congr {p p' : WatchProxy} (h : ∀ w, p'.isArmed w = p.isArmed w) :
    p'.isIdle = p.isIdle := by
  rw [Bool.eq_iff_iff, isIdle_iff, isIdle_iff]
  simp only [h]

/-- A type is armed exactly if somebody listens for it. -/
theorem isArmed_iff {p : WatchProxy} (h : p.Tidy) {w : WatchType} :
    p.isArmed w = true ↔ 0 < p.subscriberCount w := by
  rw [isArmed, Bool.or_eq_true, h.1.contains_iff, h.2.contains_iff, subscriberCount]
  simp only [← List.length_pos_iff]
  omega

/-- The state of a proxy and what it asked for so far agree. -/
structure InStep (watchee : ActorRef) (grace : Nat) (p : WatchProxy) (as : List (Action α)) :
    Prop where
  watchee_eq : p.watchee = some watchee
  grace_eq : p.grace = grace
  tidy : p.Tidy
  /-- Only the watchee is watched. -/
  target : ∀ {target w}, Action.watch target w ∈ as ∨ Action.unwatch target w ∈ as →
    target = watchee
  /-- Watches of a type are started and ended in turn. -/
  chain : ∀ w, (false :: watchCalls w as).IsChain (· ≠ ·)
  /-- A watch runs exactly while the type is armed. -/
  last : ∀ w, (false :: watchCalls w as).getLast? = some (p.isArmed w)
  /-- A proxy that is needed does not plan to stop. -/
  busy : p.isIdle = false → (stopCalls as).getLast? = some none
  /-- One that was needed and is not any more plans to stop. -/
  idle : p.isIdle = true → (∃ w, watchCalls w as ≠ []) →
    (stopCalls as).getLast? = some (some grace)

section

variable {watchee : ActorRef} {grace : Nat} {p p' : WatchProxy} {as more : List (Action α)}

/-- One more call that changes what the last one did. -/
theorem chain_concat {fs : List Bool} {b b' : Bool} (hc : (false :: fs).IsChain (· ≠ ·))
    (hl : (false :: fs).getLast? = some b) (hb : b' ≠ b) :
    (false :: (fs ++ [b'])).IsChain (· ≠ ·) ∧ (false :: (fs ++ [b'])).getLast? = some b' := by
  rw [← List.cons_append]
  refine ⟨List.isChain_append.2 ⟨hc, List.isChain_singleton _, ?_⟩, List.getLast?_concat⟩
  intro x hx y hy
  rw [Option.mem_def, hl] at hx
  cases hx
  cases hy
  exact hb.symm

/-- What is asked for on the way to a next state keeps the agreement, if it starts or ends a watch
of exactly the types that are armed or disarmed by it. -/
theorem InStep.extend (h : InStep watchee grace p as) (hw : p'.watchee = p.watchee)
    (hg : p'.grace = p.grace) (ht : p'.Tidy)
    (htarget : ∀ target w, Action.watch target w ∈ more ∨ Action.unwatch target w ∈ more →
      target = watchee)
    (hcalls : ∀ w, watchCalls w more =
      if p'.isArmed w = p.isArmed w then [] else [p'.isArmed w])
    (hbusy : p'.isIdle = false → (stopCalls (as ++ more)).getLast? = some none)
    (hidle : p'.isIdle = true → (∃ w, watchCalls w (as ++ more) ≠ []) →
      (stopCalls (as ++ more)).getLast? = some (some grace)) :
    InStep watchee grace p' (as ++ more) := by
  have hboth : ∀ w, (false :: watchCalls w (as ++ more)).IsChain (· ≠ ·) ∧
      (false :: watchCalls w (as ++ more)).getLast? = some (p'.isArmed w) := by
    intro w
    rw [watchCalls_append, hcalls]
    split
    · rename_i heq
      rw [List.append_nil, heq]
      exact ⟨h.chain w, h.last w⟩
    · rename_i hne
      exact chain_concat (h.chain w) (h.last w) hne
  refine ⟨hw.trans h.watchee_eq, hg.trans h.grace_eq, ht, ?_, fun w => (hboth w).1,
    fun w => (hboth w).2, hbusy, hidle⟩
  intro target w hmem
  simp only [List.mem_append] at hmem
  rcases hmem with (hmem | hmem) | (hmem | hmem)
  · exact h.target (.inl hmem)
  · exact htarget target w (.inl hmem)
  · exact h.target (.inr hmem)
  · exact htarget target w (.inr hmem)

/-- Where nothing is asked for that matters and no type changes, everything stays as it is. -/
theorem InStep.append_silent (h : InStep watchee grace p as) (hm : ∀ a ∈ more, IsSilent a) :
    InStep watchee grace p (as ++ more) := by
  have hstops : stopCalls (as ++ more) = stopCalls as := by
    rw [stopCalls_append, stopCalls_eq_nil hm, List.append_nil]
  refine h.extend rfl rfl h.tidy ?_ (fun w => ?_) (hstops ▸ h.busy) ?_
  · rintro target w (hmem | hmem) <;> cases hm _ hmem
  · rw [watchCalls_eq_nil hm, if_pos rfl]
  · simp only [watchCalls_append, watchCalls_eq_nil hm, List.append_nil, hstops]
    exact h.idle

/-- All that can follow for a type from a change of its subscriptions. -/
theorem transition_cases {w : WatchType} (hwatchee : p'.watchee = some watchee) :
    p.isArmed w = p'.isArmed w ∧ transition (α := α) p p' w = [] ∨
    p.isArmed w = false ∧ p'.isArmed w = true ∧
      transition (α := α) p p' w = [.stopAfter none, .watch watchee w] ∨
    p.isArmed w = true ∧ p'.isArmed w = false ∧ p'.isIdle = true ∧
      transition (α := α) p p' w = [.stopAfter (some p'.grace), .unwatch watchee w] ∨
    p.isArmed w = true ∧ p'.isArmed w = false ∧ p'.isIdle = false ∧
      transition (α := α) p p' w = [.unwatch watchee w] := by
  unfold transition
  rw [hwatchee]
  cases hp : p.isArmed w <;> cases hp' : p'.isArmed w <;> cases hi : p'.isIdle <;> simp

/-- Where one type keeps its state and the others do, all do. -/
theorem isArmed_congr {w : WatchType} (h : p.isArmed w = p'.isArmed w)
    (ho : ∀ w', w' ≠ w → p'.isArmed w' = p.isArmed w') (w' : WatchType) :
    p'.isArmed w' = p.isArmed w' := by
  by_cases heq : w' = w
  · rw [heq, h]
  · exact ho w' heq

/-- What follows for a type calls for a watch exactly if the type is armed or disarmed. -/
theorem watchCalls_transition {w : WatchType} (hwatchee : p'.watchee = some watchee)
    (ho : ∀ w', w' ≠ w → p'.isArmed w' = p.isArmed w') (w' : WatchType) :
    watchCalls w' (transition (α := α) p p' w) =
      if p'.isArmed w' = p.isArmed w' then [] else [p'.isArmed w'] := by
  by_cases heq : w' = w
  · subst heq
    rcases transition_cases (α := α) (p := p) (w := w') hwatchee with
      ⟨h, heq⟩ | ⟨h, h', heq⟩ | ⟨h, h', _, heq⟩ | ⟨h, h', _, heq⟩ <;>
    simp [*, watchCalls, watchCall?, List.filterMap_cons]
  · rw [if_pos (ho w' heq)]
    rcases transition_cases (α := α) (p := p) (w := w) hwatchee with
      ⟨_, h⟩ | ⟨_, _, h⟩ | ⟨_, _, _, h⟩ | ⟨_, _, _, h⟩ <;>
    simp [h, watchCalls, watchCall?, List.filterMap_cons, Ne.symm heq]

/-- What follows for a type addresses the watchee. -/
theorem target_transition {w w' : WatchType} {target : ActorRef}
    (hwatchee : p'.watchee = some watchee)
    (hmem : Action.watch target w' ∈ transition (α := α) p p' w ∨
      Action.unwatch target w' ∈ transition (α := α) p p' w) : target = watchee := by
  rcases transition_cases (α := α) (p := p) (w := w) hwatchee with
    ⟨_, h⟩ | ⟨_, _, h⟩ | ⟨_, _, _, h⟩ | ⟨_, _, _, h⟩ <;>
  simp_all

/-- A change of the subscriptions for one type, with what follows from it. -/
theorem InStep.change (h : InStep watchee grace p as) {w : WatchType}
    (hw : p'.watchee = p.watchee) (hg : p'.grace = p.grace) (ht : p'.Tidy)
    (ho : ∀ w', w' ≠ w → p'.isArmed w' = p.isArmed w') :
    InStep watchee grace p' (as ++ transition p p' w) := by
  have hwatchee := hw.trans h.watchee_eq
  have hgrace := hg.trans h.grace_eq
  have hcalls := watchCalls_transition (α := α) hwatchee ho
  have hcases := transition_cases (α := α) (p := p) (w := w) hwatchee
  refine h.extend hw hg ht (fun _ _ => target_transition hwatchee) hcalls ?_ ?_
  · intro hbusy
    rcases hcases with ⟨harmed, hmore⟩ | ⟨_, _, hmore⟩ | ⟨_, _, hidle, _⟩ | ⟨harmed, _, _, hmore⟩
    · rw [hmore, List.append_nil]
      exact h.busy (isIdle_congr (isArmed_congr harmed ho) ▸ hbusy)
    · simp [hmore, stopCalls, stopCall?, List.filterMap_cons]
    · rw [hidle] at hbusy
      cases hbusy
    · -- the proxy was needed for this type already, and no stop is planned since
      simpa [hmore, stopCalls, stopCall?, List.filterMap_cons] using h.busy (isIdle_eq_false harmed)
  · intro hidle hcalled
    rcases hcases with ⟨harmed, hmore⟩ | ⟨_, harmed, _⟩ | ⟨_, _, _, hmore⟩ | ⟨_, _, hbusy, _⟩
    · rw [hmore, List.append_nil] at hcalled ⊢
      exact h.idle (isIdle_congr (isArmed_congr harmed ho) ▸ hidle) hcalled
    · rw [isIdle_eq_false harmed] at hidle
      cases hidle
    · simp [hmore, stopCalls, stopCall?, List.filterMap_cons, hgrace]
    · rw [hidle] at hbusy
      cases hbusy

/-- The change of an actor's subscription keeps the agreement. -/
theorem InStep.updateWatcher (h : InStep watchee grace p as) (w : WatchType) (on : Bool)
    (watcher : ActorRef) :
    InStep watchee grace (p.updateWatcher (α := α) w on watcher).1
      (as ++ (p.updateWatcher w on watcher).2) :=
  h.change rfl rfl ⟨h.tidy.1, h.tidy.2.change on w watcher⟩ fun w' hne => by
    simp only [WatchProxy.updateWatcher, isArmed, Table.contains,
      Subscriptions.get?_change_of_ne hne]

/-- The change of a queue's subscription keeps the agreement. -/
theorem InStep.updateQueue (h : InStep watchee grace p as) (w : WatchType) (on : Bool)
    (queue : QueueId) :
    InStep watchee grace (p.updateQueue (α := α) w on queue).1
      (as ++ (p.updateQueue w on queue).2) :=
  h.change rfl rfl ⟨h.tidy.1.change on w queue, h.tidy.2⟩ fun w' hne => by
    simp only [WatchProxy.updateQueue, isArmed, Table.contains,
      Subscriptions.get?_change_of_ne hne]

/-- Queues that refused a message leave one by one. -/
theorem InStep.dropQueues (w : WatchType) (refused : List QueueId)
    (h : InStep watchee grace p as) :
    InStep watchee grace (p.dropQueues (α := α) w refused).1
      (as ++ (p.dropQueues w refused).2) := by
  induction refused generalizing p as with
  | nil => simpa [WatchProxy.dropQueues] using h
  | cons q rest ih =>
    -- one change for the queue in front, with a report before what follows from it
    have hreport : ∀ a ∈ [(.report .queueDropped : Action α)], IsSilent a := by simp [IsSilent]
    simpa [WatchProxy.dropQueues] using ih ((h.append_silent hreport).updateQueue w false q)

/-- Handing a message on keeps the agreement. -/
theorem InStep.fanOut (h : InStep watchee grace p as) (qs : Queues (Message α)) (w : WatchType)
    (queued forwarded : Message α) :
    InStep watchee grace (p.fanOut watchee qs w queued forwarded).1
      (as ++ (p.fanOut watchee qs w queued forwarded).2.2) := by
  -- the envelope for the actors comes last and neither watches anyone nor plans a stop
  simp only [WatchProxy.fanOut, ← List.append_assoc]
  refine (h.dropQueues w _).append_silent fun a ha => ?_
  split at ha
  · cases ha
  · rw [List.mem_singleton.1 ha]
    trivial

/-- Whatever a proxy handles, its state and what it asked for keep agreeing. -/
theorem InStep.handle (h : InStep watchee grace p as) (qs : Queues (Message α))
    (sender : Option ActorRef) (m : Message α) :
    InStep watchee grace (p.handle qs sender m).1 (as ++ (p.handle qs sender m).2.2) := by
  have hnone : InStep watchee grace p (as ++ []) := by rwa [List.append_nil]
  unfold WatchProxy.handle
  rw [h.watchee_eq]
  cases m with
  | watchInstruction w on =>
    cases sender with
    | none => exact h.append_silent (by simp [IsSilent])
    | some watcher => exact h.updateWatcher w on watcher
  | subscription w on queue => exact h.updateQueue w on queue
  | watchNotification _ w inner => exact h.fanOut qs w _ _
  | eventNotification w _ => exact h.fanOut qs w _ _
  | _ => exact hnone

end

/-! ### Who listens -/

/-- A message with what it comes with: its sender, and the queues of the member as they are then. -/
structure Occasion (α : Type) where
  queues : Queues (Message α)
  sender : Option ActorRef
  message : Message α

/-- What an occasion says about whether an actor listens for a type. -/
def watcherWord (w : WatchType) (r : ActorRef) (o : Occasion α) : Option Bool :=
  match o.message with
  | .watchInstruction w' on => if w' = w ∧ o.sender = some r then some on else none
  | _ => none

/-- What an occasion says about whether a queue listens for a type: a queue that takes nothing
leaves as soon as there is something for it. -/
def queueWord (w : WatchType) (q : QueueId) (o : Occasion α) : Option Bool :=
  match o.message with
  | .subscription w' on q' => if w' = w ∧ q' = q then some on else none
  | .watchNotification _ w' _ | .eventNotification w' _ =>
    if w' = w ∧ o.queues.accepts q = false then some false else none
  | _ => none

/-- The last word of a history. -/
def lastWord (word : Occasion α → Option Bool) (history : List (Occasion α)) : Option Bool :=
  (history.filterMap word).getLast?

theorem lastWord_concat (word : Occasion α → Option Bool) (history : List (Occasion α))
    (o : Occasion α) : lastWord word (history ++ [o]) = (word o).or (lastWord word history) := by
  rw [lastWord, List.filterMap_append, List.getLast?_append]
  cases h : word o <;> simp [h, lastWord]

theorem watchers_dropQueues (p : WatchProxy) (w : WatchType) (refused : List QueueId) :
    (p.dropQueues (α := α) w refused).1.watchers = p.watchers := by
  induction refused generalizing p with
  | nil => rfl
  | cons q rest ih => exact ih (p.updateQueue (α := α) w false q).1

theorem mem_queues_dropQueues {p : WatchProxy} {w w' : WatchType} {refused : List QueueId}
    {q : QueueId} :
    q ∈ (p.dropQueues (α := α) w refused).1.queues.listeners w' ↔
      q ∈ p.queues.listeners w' ∧ ¬(w' = w ∧ q ∈ refused) := by
  induction refused generalizing p with
  | nil => simp [dropQueues]
  | cons q' rest ih =>
    have hstep : q ∈ (p.queues.change false w q').listeners w' ↔
        q ∈ p.queues.listeners w' ∧ ¬(w' = w ∧ q = q') := by
      rw [Subscriptions.mem_listeners_change]
      split <;> simp_all
    refine (ih.trans (and_congr_left' hstep)).trans ?_
    rw [List.mem_cons]
    tauto

section

variable {p : WatchProxy} {watchee : ActorRef} {o : Occasion α}

/-- One message changes the actors that listen as it says. -/
theorem mem_watchers_handle (h : p.watchee = some watchee) (w : WatchType) (r : ActorRef) :
    r ∈ (p.handle o.queues o.sender o.message).1.watchers.listeners w ↔
      (watcherWord w r o).getD (decide (r ∈ p.watchers.listeners w)) = true := by
  obtain ⟨qs, sender, m⟩ := o
  unfold handle watcherWord
  rw [h]
  cases m with
  | watchInstruction w' on =>
    cases sender with
    | none => simp
    | some r' =>
      refine Subscriptions.mem_listeners_change.trans ?_
      by_cases heq : w = w' ∧ r = r'
      · simp [heq.1, heq.2]
      · have heq' : ¬(w' = w ∧ r' = r) := fun hr => heq ⟨hr.1.symm, hr.2.symm⟩
        simp [heq, heq']
  | watchNotification _ w' _ => simp [fanOut, watchers_dropQueues]
  | eventNotification w' _ => simp [fanOut, watchers_dropQueues]
  | _ => simp [updateQueue]

/-- One message changes the queues that listen as it says, and takes away those that refuse it. -/
theorem mem_queues_handle (h : p.watchee = some watchee) (w : WatchType) (q : QueueId) :
    q ∈ (p.handle o.queues o.sender o.message).1.queues.listeners w ↔
      (queueWord w q o).getD (decide (q ∈ p.queues.listeners w)) = true := by
  have hfan : ∀ (w' : WatchType) (queued forwarded : Message α),
      q ∈ (p.fanOut watchee o.queues w' queued forwarded).1.queues.listeners w ↔
        (if w' = w ∧ o.queues.accepts q = false then some false else none).getD
          (decide (q ∈ p.queues.listeners w)) = true := by
    intro w' queued forwarded
    refine mem_queues_dropQueues.trans ?_
    by_cases hw : w' = w
    · subst hw
      cases ha : o.queues.accepts q <;> simp [ha]
    · simp [hw, Ne.symm hw]
  obtain ⟨qs, sender, m⟩ := o
  unfold handle queueWord
  rw [h]
  cases m with
  | watchInstruction w' on => cases sender <;> simp [updateWatcher]
  | subscription w' on q' =>
    refine Subscriptions.mem_listeners_change.trans ?_
    by_cases heq : w = w' ∧ q = q'
    · simp [heq.1, heq.2]
    · have heq' : ¬(w' = w ∧ q' = q) := fun hq => heq ⟨hq.1.symm, hq.2.symm⟩
      simp [heq, heq']
  | watchNotification _ w' _ => exact hfan w' _ _
  | eventNotification w' _ => exact hfan w' _ _
  | _ => simp

end

/-! ### Runs -/

/-- The proxy handles a message; what it asks for comes after what it asked for before. -/
def attend (s : WatchProxy × List (Action α)) (o : Occasion α) : WatchProxy × List (Action α) :=
  let (p, _, more) := s.1.handle o.queues o.sender o.message
  (p, s.2 ++ more)

/-- The proxy with the id `id`, and what it asked for, after it started and handled messages. -/
def attended (placement : Placement) (grace : Nat) (id : String) (history : List (Occasion α)) :
    WatchProxy × List (Action α) :=
  history.foldl attend ((new grace).start placement id)

/-- What the state of a proxy is after a history, and what it asked for up to then. -/
structure KeepsProtocol (placement : Placement) (grace : Nat) (id : String) (watchee : ActorRef)
    (history : List (Occasion α)) (p : WatchProxy) (as : List (Action α)) : Prop where
  /-- An actor listens for a type exactly if its last instruction for it was a watch. -/
  watchers : ∀ w r, r ∈ p.watchers.listeners w ↔ lastWord (watcherWord w r) history = some true
  /-- A queue listens for a type exactly if its last instruction for it was a subscription and it
  did not refuse anything for that type since. -/
  queues : ∀ w q, q ∈ p.queues.listeners w ↔ lastWord (queueWord w q) history = some true
  /-- Nobody is counted twice. -/
  nodup : ∀ w, (p.watchers.listeners w).Nodup ∧ (p.queues.listeners w).Nodup
  /-- A type is armed exactly if somebody listens for it. -/
  armed : ∀ w, p.isArmed w = true ↔ 0 < p.subscriberCount w
  /-- Only the watchee is watched. -/
  target : ∀ {target w}, Action.watch target w ∈ as ∨ Action.unwatch target w ∈ as →
    target = watchee
  /-- Watches of a type are started and ended in turn, beginning with a start. -/
  chain : ∀ w, (false :: watchCalls w as).IsChain (· ≠ ·)
  /-- The last one was started exactly if the type is armed. -/
  running : ∀ w, (watchCalls w as).getLast? = some true ↔ p.isArmed w = true
  /-- While any type is armed, the last word on a stop is that none is planned. -/
  staying : (∃ w, p.isArmed w = true) → (stopCalls as).getLast? = some none
  /-- Once no type is armed any more, it is the grace period. -/
  leaving : (∀ w, p.isArmed w = false) →
    (∃ n w, (attended placement grace id (history.take n)).1.isArmed w = true) →
    (stopCalls as).getLast? = some (some grace)

section

variable {placement : Placement} {grace : Nat} {id : String} {watchee : ActorRef}

theorem attended_concat (history : List (Occasion α)) (o : Occasion α) :
    attended placement grace id (history ++ [o]) = attend (attended placement grace id history) o :=
  List.foldl_concat ..

/-- What was asked for before a history is still there after it. -/
theorem prefix_foldl_attend (history : List (Occasion α)) (s : WatchProxy × List (Action α)) :
    s.2 <+: (history.foldl attend s).2 := by
  induction history generalizing s with
  | nil => exact List.prefix_rfl
  | cons o rest ih => exact (List.prefix_append s.2 _).trans (ih (attend s o))

theorem prefix_attended (history : List (Occasion α)) (n : Nat) :
    (attended placement grace id (history.take n)).2 <+:
      (attended placement grace id history).2 := by
  conv_rhs => rw [← List.take_append_drop n history, attended, List.foldl_append]
  exact prefix_foldl_attend ..

/-- A proxy that starts knows whom it watches, or stays as it was. -/
theorem start_eq (h : ((new grace).start (α := α) placement id).1.watchee = some watchee) :
    (new grace).start (α := α) placement id = ({ new grace with watchee := some watchee }, []) := by
  unfold start at h ⊢
  simp only at h ⊢
  split at h
  · cases h
    rfl
  · cases h

/-- A proxy that starts and knows its watchee has asked for nothing, and nobody listens yet. -/
theorem inStep_start (h : ((new grace).start (α := α) placement id).1.watchee = some watchee) :
    InStep watchee grace ((new grace).start (α := α) placement id).1
      ((new grace).start (α := α) placement id).2 := by
  rw [start_eq h]
  refine ⟨rfl, rfl, ⟨Subscriptions.tidy_empty, Subscriptions.tidy_empty⟩, ?_, ?_, ?_, ?_, ?_⟩
  · rintro target w (hmem | hmem) <;> cases hmem
  · exact fun w => List.isChain_singleton _
  · exact fun w => rfl
  · intro hbusy
    cases hbusy
  · rintro - ⟨w, hcalls⟩
    exact absurd rfl hcalls

/-- The agreement holds after any history. -/
theorem inStep_attended
    (h : ((new grace).start (α := α) placement id).1.watchee = some watchee)
    (history : List (Occasion α)) :
    InStep watchee grace (attended placement grace id history).1
      (attended placement grace id history).2 := by
  induction history using List.reverseRecOn with
  | nil => exact inStep_start h
  | append_singleton earlier o ih =>
    rw [attended_concat]
    exact ih.handle o.queues o.sender o.message

/-- What does not hold at first and changes with every message as that says is told by the last
word of a history. -/
theorem holds_attended_iff
    (h : ((new grace).start (α := α) placement id).1.watchee = some watchee)
    (holds : WatchProxy → Prop) [DecidablePred holds] (word : Occasion α → Option Bool)
    (hstart : ¬ holds { new grace with watchee := some watchee })
    (hstep : ∀ {p : WatchProxy} {o : Occasion α}, p.watchee = some watchee →
      (holds (p.handle o.queues o.sender o.message).1 ↔
        (word o).getD (decide (holds p)) = true))
    (history : List (Occasion α)) :
    holds (attended placement grace id history).1 ↔ lastWord word history = some true := by
  induction history using List.reverseRecOn with
  | nil =>
    rw [attended, List.foldl_nil, start_eq h]
    exact iff_of_false hstart fun hlast => by cases hlast
  | append_singleton earlier o ih =>
    rw [attended_concat, lastWord_concat]
    refine (hstep (inStep_attended h earlier).watchee_eq).trans ?_
    cases word o <;> simp [ih]

/-- A watch runs exactly while its type is armed. -/
theorem InStep.running_iff {p : WatchProxy} {as : List (Action α)}
    (h : InStep watchee grace p as) (w : WatchType) :
    (watchCalls w as).getLast? = some true ↔ p.isArmed w = true := by
  have hlast := h.last w
  cases hcalls : watchCalls w as with
  | nil =>
    rw [hcalls] at hlast
    simp [← Option.some.inj hlast]
  | cons b rest =>
    rw [hcalls, List.getLast?_cons_cons] at hlast
    rw [hlast, Option.some.injEq]

/-- Once any type was armed, something was asked for it. -/
theorem exists_watchCalls_ne_nil
    (h : ((new grace).start (α := α) placement id).1.watchee = some watchee)
    (history : List (Occasion α)) {n : Nat} {w : WatchType}
    (harmed : (attended placement grace id (history.take n)).1.isArmed w = true) :
    watchCalls w (attended placement grace id history).2 ≠ [] := by
  intro hnil
  have hprefix : watchCalls w (attended placement grace id (history.take n)).2 <+: [] :=
    hnil ▸ (prefix_attended history n).filterMap (watchCall? w)
  have hrunning := ((inStep_attended h (history.take n)).running_iff w).2 harmed
  rw [List.prefix_nil.1 hprefix] at hrunning
  cases hrunning

/-- A watch proxy that knows its watchee keeps its protocol, whatever it handles. -/
theorem keepsProtocol_of_history
    (h : ((new grace).start (α := α) placement id).1.watchee = some watchee)
    (history : List (Occasion α)) :
    KeepsProtocol placement grace id watchee history (attended placement grace id history).1
      (attended placement grace id history).2 := by
  have hstep := inStep_attended h history
  exact {
    watchers := fun w r => holds_attended_iff h (fun p => r ∈ p.watchers.listeners w)
      (watcherWord w r) List.not_mem_nil (fun hp => mem_watchers_handle hp w r) history
    queues := fun w q => holds_attended_iff h (fun p => q ∈ p.queues.listeners w)
      (queueWord w q) List.not_mem_nil (fun hp => mem_queues_handle hp w q) history
    nodup := fun w => ⟨hstep.tidy.2.nodup w, hstep.tidy.1.nodup w⟩
    armed := fun w => isArmed_iff hstep.tidy
    target := hstep.target
    chain := hstep.chain
    running := hstep.running_iff
    staying := fun ⟨w, harmed⟩ => hstep.busy (isIdle_eq_false harmed)
    leaving := fun hidle ⟨n, w, harmed⟩ =>
      hstep.idle ((isIdle_iff _).2 hidle) ⟨w, exists_watchCalls_ne_nil h history harmed⟩ }

end

/-- A queue and an actor listen; the queue refuses what it is told, and the actor leaves. -/
def refusalThenLeave : List (Occasion Nat) :=
  let watcher : ActorRef := ⟨⟨1⟩, ⟨120⟩, "b", ⟨4⟩⟩
  [⟨.empty, none, .subscription ⟨7⟩ true ⟨0⟩⟩, ⟨.empty, some watcher, .watchInstruction ⟨7⟩ true⟩,
    ⟨.empty, none, .eventNotification ⟨7⟩ (.app 3)⟩,
    ⟨.empty, some watcher, .watchInstruction ⟨7⟩ false⟩]

/-- On that history the one watch is ended with the last subscription, and the proxy leaves. -/
theorem keepsProtocol_refusalThenLeave :
    let placement : Placement := ⟨[(⟨120⟩, ⟨2⟩)]⟩
    let watchee : ActorRef := ⟨⟨2⟩, ⟨120⟩, "a", ⟨98⟩⟩
    let s := attended placement 5000 "120-a" refusalThenLeave
    ((new 5000).start (α := Nat) placement "120-a").1.watchee = some watchee ∧
      KeepsProtocol placement 5000 "120-a" watchee refusalThenLeave s.1 s.2 ∧
      watchCalls ⟨7⟩ s.2 = [true, false] ∧ stopCalls s.2 = [none, some 5000] := by
  have hwatchee : ((new 5000).start (α := Nat) ⟨[(⟨120⟩, ⟨2⟩)]⟩ "120-a").1.watchee =
      some ⟨⟨2⟩, ⟨120⟩, "a", ⟨98⟩⟩ := by decide +kernel
  exact ⟨hwatchee, keepsProtocol_of_history hwatchee refusalThenLeave, by decide +kernel,
    by decide +kernel⟩

end ActorMesh.WatchProxy
