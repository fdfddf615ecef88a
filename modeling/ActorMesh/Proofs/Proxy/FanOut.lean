import ActorMesh.Proofs.Proxy.WatchProtocol

/-!
# What a watch proxy does with a notification

A watch proxy that knows its watchee hands every notification on. Each queue that listens for its
type is offered one message: one with room holds it behind what it held, and one that is full or not
read any more stays as it was and stops listening. The actors that listen get what arrived, all of
them in one envelope; and where nobody is left, the watch ends (`fansOut_of_reached`).

The queues that refuse leave one after another, each by the same change of subscriptions as if it
had asked to leave. That is the same as if all of them left at once (`calls_dropQueues`): only the
last one can end the watch, and what comes after it finds nothing to change.

A proxy holds its subscribers in no particular order. Ours stand in a list, and so the states that
it reaches are closed under rearranging them (`Reached`).
-/

namespace ActorMesh

namespace Subscriptions

/-- The same subscribers of every type, in any order. -/
def Rearranged {β : Type} (ss ss' : Subscriptions β) : Prop :=
  ∀ w, Option.Rel List.Perm (ss.get? w) (ss'.get? w)

variable {β : Type}

theorem Rearranged.listeners {ss ss' : Subscriptions β} (h : ss.Rearranged ss') (w : WatchType) :
    (ss.listeners w).Perm (ss'.listeners w) := by
  have hw := h w
  unfold Subscriptions.listeners
  generalize ss.get? w = bs?, ss'.get? w = bs'? at hw
  cases hw with
  | some hperm => exact hperm
  | none => exact .refl _

theorem Tidy.rearranged {ss ss' : Subscriptions β} (ht : ss.Tidy) (h : ss.Rearranged ss') :
    ss'.Tidy := by
  refine ⟨fun {w bs'} hbs' hnil => ?_, fun w => (h.listeners w).nodup_iff.1 (ht.nodup w)⟩
  have hw := h w
  rw [hbs', hnil] at hw
  generalize hss : ss.get? w = bs? at hw
  cases hw with
  | some hperm => exact ht.ne_nil hss hperm.eq_nil

variable [DecidableEq β]

/-- Who does not listen cannot leave. -/
theorem drop_of_notMem {ss : Subscriptions β} {w : WatchType} {b : β}
    (h : b ∉ ss.listeners w) : ss.drop w b = ss := if_neg h

end Subscriptions

namespace WatchProxy

variable {α : Type}

/-! ### The states that a proxy reaches -/

/-- The same proxy with its subscribers in any order. -/
structure Rearranged (p p' : WatchProxy) : Prop where
  grace_eq : p'.grace = p.grace
  watchee_eq : p'.watchee = p.watchee
  queues : p.queues.Rearranged p'.queues
  watchers : p.watchers.Rearranged p'.watchers

/-- The states of the proxy with the id `id`: it starts, handles messages of an application `α` as
they come, and at any time its subscribers stand in another order. -/
inductive Reached (α : Type) (placement : Placement) (grace : Nat) (id : String) :
    WatchProxy → Prop
  | started : Reached α placement grace id ((new grace).start (α := α) placement id).1
  | handled {p : WatchProxy} (h : Reached α placement grace id p) (o : Occasion α) :
    Reached α placement grace id (p.handle o.queues o.sender o.message).1
  | rearranged {p p' : WatchProxy} (h : Reached α placement grace id p) (hr : p.Rearranged p') :
    Reached α placement grace id p'

theorem Tidy.rearranged {p p' : WatchProxy} (h : p.Tidy) (hr : p.Rearranged p') : p'.Tidy :=
  ⟨h.1.rearranged hr.queues, h.2.rearranged hr.watchers⟩

theorem Tidy.dropQueues {p : WatchProxy} (h : p.Tidy) (w : WatchType) (refused : List QueueId) :
    (p.dropQueues (α := α) w refused).1.Tidy := by
  induction refused generalizing p with
  | nil => exact h
  | cons q rest ih => exact ih ⟨h.1.change false w q, h.2⟩

theorem Tidy.handle {p : WatchProxy} (h : p.Tidy) (o : Occasion α) :
    (p.handle o.queues o.sender o.message).1.Tidy := by
  obtain ⟨qs, sender, m⟩ := o
  unfold WatchProxy.handle
  cases p.watchee with
  | none => exact h
  | some watchee =>
    cases m with
    | watchInstruction w on =>
      cases sender with
      | none => exact h
      | some watcher => exact ⟨h.1, h.2.change on w watcher⟩
    | subscription w on queue => exact ⟨h.1.change on w queue, h.2⟩
    | watchNotification _ w inner => exact h.dropQueues w _
    | eventNotification w _ => exact h.dropQueues w _
    | app | externalRequest => exact h

/-- Without a rearrangement these are the states after a history. -/
theorem reached_attended (placement : Placement) (grace : Nat) (id : String)
    (history : List (Occasion α)) :
    Reached α placement grace id (attended placement grace id history).1 := by
  induction history using List.reverseRecOn with
  | nil => exact .started
  | append_singleton earlier o ih =>
    rw [attended_concat]
    exact ih.handled o

theorem Reached.tidy {placement : Placement} {grace : Nat} {id : String} {p : WatchProxy}
    (h : Reached α placement grace id p) : p.Tidy := by
  induction h with
  | started =>
    unfold start
    dsimp only
    split <;> exact ⟨Subscriptions.tidy_empty, Subscriptions.tidy_empty⟩
  | handled _ o ih => exact ih.handle o
  | rearranged _ hr ih => exact ih.rearranged hr

/-! ### Queues that leave one by one -/

section

variable {p p' : WatchProxy} {w : WatchType} {refused : List QueueId}

/-- Nothing but the subscriptions of queues changes. -/
theorem dropQueues_eq (p : WatchProxy) (w : WatchType) (refused : List QueueId) :
    (p.dropQueues (α := α) w refused).1 =
      { p with queues := (p.dropQueues (α := α) w refused).1.queues } := by
  induction refused generalizing p with
  | nil => rfl
  | cons q rest ih => exact ih (p.updateQueue (α := α) w false q).1

/-- The queues of other types are left alone. -/
theorem get?_queues_dropQueues {w' : WatchType} (hne : w' ≠ w) :
    (p.dropQueues (α := α) w refused).1.queues.get? w' = p.queues.get? w' := by
  induction refused generalizing p with
  | nil => rfl
  | cons q rest ih => exact ih.trans (Subscriptions.get?_change_of_ne hne q p.queues)

/-- Of the queues of the type, the others stay, in their order. -/
theorem listeners_dropQueues :
    (p.dropQueues (α := α) w refused).1.queues.listeners w =
      (p.queues.listeners w).filter fun q => decide (q ∉ refused) := by
  induction refused generalizing p with
  | nil => simp [dropQueues]
  | cons q rest ih =>
    have hstep : (p.queues.change false w q).listeners w =
        (p.queues.listeners w).filter fun q' => decide (q' ≠ q) := by
      rw [Subscriptions.change, if_neg Bool.false_ne_true, Subscriptions.listeners_drop, if_pos rfl]
    refine ih.trans ?_
    change ((p.queues.change false w q).listeners w).filter _ = _
    rw [hstep, List.filter_filter]
    refine List.filter_congr fun q' _ => ?_
    rw [← Bool.decide_and, decide_eq_decide, List.mem_cons]
    tauto

/-- Where no queue listens, none leaves. -/
theorem updateQueue_of_listeners_eq_nil (h : p.queues.listeners w = []) (q : QueueId) :
    (p.updateQueue (α := α) w false q).1 = p := by
  have hq : q ∉ p.queues.listeners w := h ▸ List.not_mem_nil
  rw [updateQueue, Subscriptions.change, if_neg Bool.false_ne_true,
    Subscriptions.drop_of_notMem hq]

theorem dropQueues_of_listeners_eq_nil (h : p.queues.listeners w = []) :
    (p.dropQueues (α := α) w refused).1 = p := by
  induction refused with
  | nil => rfl
  | cons q rest ih =>
    change ((p.updateQueue (α := α) w false q).1.dropQueues (α := α) w rest).1 = p
    rw [updateQueue_of_listeners_eq_nil h q, ih]

/-- A type that is not armed has no queues. -/
theorem listeners_eq_nil_of_isArmed (h : p.isArmed w = false) : p.queues.listeners w = [] := by
  rw [isArmed, Bool.or_eq_false_iff, Table.contains, Option.isSome_eq_false_iff] at h
  rw [Subscriptions.listeners, Option.isNone_iff_eq_none.1 h.1, Option.getD_none]

/-- Nothing follows where the type keeps its state. -/
theorem transition_of_isArmed_eq (h : p'.isArmed w = p.isArmed w) :
    transition (α := α) p p' w = [] := by
  unfold transition
  rw [h]
  cases p.isArmed w <;> cases p'.watchee <;> rfl

/-- A type that is disarmed is not watched any more, and a proxy without types plans to stop. -/
theorem transition_of_disarmed {watchee : ActorRef} (hw : p'.watchee = some watchee)
    (h : p.isArmed w = true) (h' : p'.isArmed w = false) : transition (α := α) p p' w =
      (if p'.isIdle then [.stopAfter (some p'.grace)] else []) ++ [.unwatch watchee w] := by
  unfold transition
  rw [hw, h, h']
  rfl

/-- What follows from a change depends on the state before only by whether the type was armed. -/
theorem transition_congr {p₁ : WatchProxy} (h : p₁.isArmed w = p.isArmed w) :
    transition (α := α) p₁ p' w = transition p p' w := by
  unfold transition
  rw [h]

/-- Whether a proxy asks the runtime for more than to report or to deliver. -/
def isCall : Action α → Bool
  | .report _ | .route _ => false
  | .watch .. | .unwatch .. | .stopAfter _ | .request .. => true

/-- What a proxy asks for besides reports and deliveries. -/
def calls (as : List (Action α)) : List (Action α) := as.filter isCall

/-- What is routed, in order. -/
def routed (as : List (Action α)) : List (Envelope α) := as.filterMap fun
  | .route e => some e
  | _ => none

@[simp] theorem calls_append (as bs : List (Action α)) : calls (as ++ bs) = calls as ++ calls bs :=
  List.filter_append ..

@[simp] theorem routed_append (as bs : List (Action α)) :
    routed (as ++ bs) = routed as ++ routed bs :=
  List.filterMap_append

theorem isCall_of_mem_transition {a : Action α} (h : a ∈ transition p p' w) : isCall a = true := by
  unfold transition at h
  split at h
  · cases h
  · split at h
    · rcases List.mem_pair.1 h with rfl | rfl <;> rfl
    · split at h
      · rcases List.mem_append.1 h with h | h
        · split at h
          · rw [List.mem_singleton.1 h, isCall]
          · cases h
        · rw [List.mem_singleton.1 h, isCall]
      · cases h

theorem calls_transition : calls (transition (α := α) p p' w) = transition p p' w :=
  List.filter_eq_self.2 fun _ => isCall_of_mem_transition

theorem routed_transition : routed (transition (α := α) p p' w) = [] :=
  List.filterMap_eq_nil_iff.2 fun a ha => by
    have hcall := isCall_of_mem_transition ha
    cases a with
    | route => cases hcall
    | _ => rfl

/-- Queues that leave one by one ask for what they would ask for if they left at once. -/
theorem calls_dropQueues (p : WatchProxy) (w : WatchType) (refused : List QueueId) :
    calls (p.dropQueues (α := α) w refused).2 =
      transition p (p.dropQueues (α := α) w refused).1 w := by
  induction refused generalizing p with
  | nil => exact (transition_of_isArmed_eq rfl).symm
  | cons q rest ih =>
    let p₁ := (p.updateQueue (α := α) w false q).1
    let p₂ := (p₁.dropQueues (α := α) w rest).1
    have hcalls : calls (p.dropQueues (α := α) w (q :: rest)).2 =
        transition p p₁ w ++ transition p₁ p₂ w := by
      calc calls (p.dropQueues (α := α) w (q :: rest)).2
          = calls (transition p p₁ w ++ (p₁.dropQueues (α := α) w rest).2) := rfl
        _ = transition p p₁ w ++ transition p₁ p₂ w := by
          rw [calls_append, calls_transition, ih p₁]
    refine hcalls.trans (?_ : _ = transition p p₂ w)
    cases hp₁ : p₁.isArmed w with
    | true =>
      -- the type was armed before as well, and so the queue in front changes nothing that matters
      have hp : p.isArmed w = true := by
        by_contra hp
        have hnil := listeners_eq_nil_of_isArmed (Bool.eq_false_iff.2 hp)
        have hsame : p₁ = p := updateQueue_of_listeners_eq_nil hnil q
        exact hp (hsame ▸ hp₁)
      have heq := hp₁.trans hp.symm
      rw [transition_of_isArmed_eq heq, List.nil_append, transition_congr heq]
    | false =>
      -- nothing is left that the queues behind could change
      have hsame : p₂ = p₁ := dropQueues_of_listeners_eq_nil (listeners_eq_nil_of_isArmed hp₁)
      rw [hsame, transition_of_isArmed_eq (rfl : p₁.isArmed w = _), List.append_nil]

/-- Queues that leave route nothing. -/
theorem routed_dropQueues (p : WatchProxy) (w : WatchType) (refused : List QueueId) :
    routed (p.dropQueues (α := α) w refused).2 = [] := by
  induction refused generalizing p with
  | nil => rfl
  | cons q rest ih =>
    let p₁ := (p.updateQueue (α := α) w false q).1
    calc routed (p.dropQueues (α := α) w (q :: rest)).2
        = routed (transition p p₁ w ++ (p₁.dropQueues (α := α) w rest).2) := rfl
      _ = [] := by rw [routed_append, routed_transition, ih p₁, List.append_nil]

end

/-! ### A notification -/

/-- The type of a notification, and what the queues that listen for it are given: what the watchee
told is passed on in its name, and an event as it is. -/
def notice? (watchee : ActorRef) : Message α → Option (WatchType × Message α)
  | .watchNotification _ w inner => some (w, .watchNotification watchee w inner)
  | .eventNotification w inner => some (w, .eventNotification w inner)
  | _ => none

/-- Somebody listens for a type, no actor among them, and every queue refuses what comes next. -/
def Forsaken (p : WatchProxy) (qs : Queues (Message α)) (w : WatchType) : Prop :=
  0 < p.subscriberCount w ∧ p.watchers.listeners w = [] ∧
    ∀ q ∈ p.queues.listeners w, qs.accepts q = false

instance (p : WatchProxy) (qs : Queues (Message α)) (w : WatchType) :
    Decidable (p.Forsaken qs w) := inferInstanceAs (Decidable (_ ∧ _ ∧ _))

/-- What a proxy does with the notification `m` of type `w`, of which it gives the queues `queued`:
the state and the queues before, those after, and what it asks for. -/
structure FansOut (watchee : ActorRef) (w : WatchType) (queued m : Message α) (p : WatchProxy)
    (qs : Queues (Message α)) (p' : WatchProxy) (qs' : Queues (Message α))
    (as : List (Action α)) : Prop where
  /-- Every queue that listens for the type is offered one message, and no other queue is. -/
  offered : ∀ q, qs'.get? q =
    (qs.get? q).map fun b => if q ∈ p.queues.listeners w then b.push queued else b
  /-- One that is read and has room holds the message behind what it held, and goes on listening. -/
  taken : ∀ q ∈ p.queues.listeners w, ∀ b, qs.get? q = some b → b.isOpen = true →
    b.items.length < b.capacity →
      qs'.get? q = some { b with items := b.items ++ [queued] } ∧ q ∈ p'.queues.listeners w
  /-- One that is full or not read any more stays as it was, and listens no longer. -/
  refused : ∀ q ∈ p.queues.listeners w, ∀ b, qs.get? q = some b →
    b.isOpen = false ∨ b.capacity ≤ b.items.length →
      qs'.get? q = some b ∧ q ∉ p'.queues.listeners w
  /-- Of the queues that listened for the type, exactly those that refused do no longer. -/
  kept : p'.queues.listeners w = (p.queues.listeners w).filter qs.accepts
  /-- All other subscriptions stay. -/
  others : p'.watchers = p.watchers ∧ ∀ w', w' ≠ w → p'.queues.get? w' = p.queues.get? w'
  /-- The type is armed from then on exactly if somebody is left. -/
  armed : p'.isArmed w = true ↔ 0 < p'.subscriberCount w
  /-- The actors that listen get what arrived, in one envelope. -/
  routed_eq : routed as = if p.watchers.listeners w = [] then []
    else [.parcel (.batchSend (some watchee) (p.watchers.listeners w) [m])]
  /-- None of them gets it twice. -/
  nodup : (p.watchers.listeners w).Nodup
  /-- While somebody is left, nothing is asked for. -/
  attended : ¬ p.Forsaken qs w → calls as = []
  /-- If nobody is left, the watch ends; ... -/
  ended : p.Forsaken qs w → (∃ w', w' ≠ w ∧ p.isArmed w' = true) → calls as = [.unwatch watchee w]
  /-- ... and if no other type is armed, the proxy plans to stop as well. -/
  leaving : p.Forsaken qs w → (∀ w', w' ≠ w → p.isArmed w' = false) →
    calls as = [.stopAfter (some p.grace), .unwatch watchee w]

section

variable {p p' : WatchProxy} {watchee : ActorRef} {w : WatchType} {queued m : Message α}
  {qs : Queues (Message α)}

/-- A type is forsaken exactly if it was armed and, once the queues that refuse are gone, is not. -/
theorem forsaken_iff (h : p.Tidy) (h' : p'.Tidy)
    (hkept : p'.queues.listeners w = (p.queues.listeners w).filter qs.accepts)
    (hwatchers : p'.watchers = p.watchers) :
    p.Forsaken qs w ↔ p.isArmed w = true ∧ p'.isArmed w = false := by
  have hleft : p'.isArmed w = false ↔
      p.watchers.listeners w = [] ∧ ∀ q ∈ p.queues.listeners w, qs.accepts q = false := by
    rw [← Bool.not_eq_true, isArmed_iff h', subscriberCount, hkept, hwatchers, Nat.not_lt,
      Nat.le_zero, Nat.add_eq_zero_iff, List.length_eq_zero_iff, List.length_eq_zero_iff,
      List.filter_eq_nil_iff, and_comm]
    simp only [Bool.not_eq_true]
  rw [Forsaken, isArmed_iff h, hleft]

/-- A proxy without the type `w` is idle exactly if no other type is armed. -/
theorem isIdle_iff_of_isArmed_eq_false (h : p'.isArmed w = false)
    (ho : ∀ w', w' ≠ w → p'.isArmed w' = p.isArmed w') :
    p'.isIdle = true ↔ ∀ w', w' ≠ w → p.isArmed w' = false := by
  rw [isIdle_iff]
  refine ⟨fun hall w' hne => ho w' hne ▸ hall w', fun hall w' => ?_⟩
  by_cases hw : w' = w
  · rwa [hw]
  · rw [ho w' hw, hall w' hw]

theorem fansOut (h : p.Tidy) (hw : p.watchee = some watchee) :
    FansOut watchee w queued m p qs (p.fanOut watchee qs w queued m).1
      (p.fanOut watchee qs w queued m).2.1 (p.fanOut watchee qs w queued m).2.2 := by
  let refused := (p.queues.listeners w).filter fun q => !qs.accepts q
  let p' := (p.dropQueues (α := α) w refused).1
  have htidy : p'.Tidy := h.dropQueues w refused
  have hwatchers : p'.watchers = p.watchers := watchers_dropQueues p w refused
  have hqueues : ∀ w', w' ≠ w → p'.queues.get? w' = p.queues.get? w' :=
    fun w' => get?_queues_dropQueues
  have hkept : p'.queues.listeners w = (p.queues.listeners w).filter qs.accepts := by
    refine listeners_dropQueues.trans (List.filter_congr fun q hq => ?_)
    simp [refused, hq]
  have hothers : ∀ w', w' ≠ w → p'.isArmed w' = p.isArmed w' := fun w' hne => by
    rw [isArmed, isArmed, Table.contains, hqueues w' hne, hwatchers]
    rfl
  -- the envelope for the actors is no call, and all else that is asked for follows from the drop
  have hcalls : calls (p.fanOut watchee qs w queued m).2.2 = transition p p' w := by
    refine (calls_append _ _).trans ?_
    rw [calls_dropQueues]
    split
    · exact List.append_nil _
    · exact List.append_nil _
  have hoffered {q : QueueId} (hq : q ∈ p.queues.listeners w) {b : BoundedQueue (Message α)}
      (hb : qs.get? q = some b) :
      (p.fanOut watchee qs w queued m).2.1.get? q = some (b.push queued) := by
    refine (Queues.get?_pushAll (h.1.nodup w) qs q queued).trans ?_
    rw [hb, Option.map_some, if_pos hq]
  have hforsaken := forsaken_iff h htidy hkept hwatchers
  have hknown : p'.watchee = some watchee := by
    rw [show p' = _ from dropQueues_eq p w refused]
    exact hw
  have hgrace : p'.grace = p.grace := by
    rw [show p' = _ from dropQueues_eq p w refused]
  have hidle (hf : p.Forsaken qs w) :=
    isIdle_iff_of_isArmed_eq_false (hforsaken.1 hf).2 hothers
  have htransition (hf : p.Forsaken qs w) : transition (α := α) p p' w =
      (if p'.isIdle then [.stopAfter (some p.grace)] else []) ++ [.unwatch watchee w] := by
    rw [← hgrace]
    exact transition_of_disarmed hknown (hforsaken.1 hf).1 (hforsaken.1 hf).2
  exact {
    offered := fun q => Queues.get?_pushAll (h.1.nodup w) qs q queued
    taken := fun q hq b hb hopen hroom => by
      have haccepts : b.accepts = true := BoundedQueue.accepts_iff.2 ⟨hopen, hroom⟩
      rw [hoffered hq hb, BoundedQueue.push_of_accepts haccepts]
      refine ⟨rfl, hkept ▸ List.mem_filter.2 ⟨hq, ?_⟩⟩
      rw [Queues.accepts_of_get? hb, haccepts]
    refused := fun q hq b hb hfull => by
      have hrefuses : b.accepts = false := BoundedQueue.accepts_eq_false_iff.2 hfull
      rw [hoffered hq hb, BoundedQueue.push_of_refuses hrefuses]
      refine ⟨rfl, fun hstays => ?_⟩
      have haccepts := (List.mem_filter.1 (hkept ▸ hstays)).2
      rw [Queues.accepts_of_get? hb, hrefuses] at haccepts
      cases haccepts
    kept := hkept
    others := ⟨hwatchers, hqueues⟩
    armed := isArmed_iff htidy
    routed_eq := by
      refine (routed_append _ _).trans ?_
      rw [routed_dropQueues, List.nil_append, hwatchers]
      cases p.watchers.listeners w <;> rfl
    nodup := h.2.nodup w
    attended := fun hf => by
      refine hcalls.trans (transition_of_isArmed_eq ?_)
      cases harmed : p.isArmed w with
      | true => exact Bool.of_not_eq_false fun harmed' => hf (hforsaken.2 ⟨harmed, harmed'⟩)
      | false =>
        have hsame : p' = p := dropQueues_of_listeners_eq_nil (listeners_eq_nil_of_isArmed harmed)
        rw [hsame, harmed]
    ended := fun hf hother => by
      obtain ⟨w', hne, harmed⟩ := hother
      have hbusy : p'.isIdle = false := isIdle_eq_false ((hothers w' hne).trans harmed)
      rw [hcalls, htransition hf, hbusy]
      rfl
    leaving := fun hf hall => by
      rw [hcalls, htransition hf, (hidle hf).2 hall]
      rfl }

/-- A watch proxy that knows its watchee fans out every notification exactly, whatever led to its
state and however its subscribers stand. -/
theorem fansOut_of_reached {placement : Placement} {grace : Nat} {id : String}
    (h : Reached α placement grace id p) (hw : p.watchee = some watchee)
    (hm : notice? watchee m = some (w, queued)) (qs : Queues (Message α))
    (sender : Option ActorRef) :
    FansOut watchee w queued m p qs (p.handle qs sender m).1 (p.handle qs sender m).2.1
      (p.handle qs sender m).2.2 := by
  unfold handle
  rw [hw]
  cases m with
  | watchNotification _ w' inner =>
    cases hm
    exact fansOut h.tidy hw
  | eventNotification w' inner =>
    cases hm
    exact fansOut h.tidy hw
  | app | watchInstruction | subscription | externalRequest => cases hm

end

/-- Three queues listen for one type. -/
def threeQueues : List (Occasion Nat) :=
  [⟨.empty, none, .subscription ⟨7⟩ true ⟨0⟩⟩, ⟨.empty, none, .subscription ⟨7⟩ true ⟨1⟩⟩,
    ⟨.empty, none, .subscription ⟨7⟩ true ⟨2⟩⟩]

/-- One is full, one is closed, and one takes the message; it is left as the only one that listens.
Where it is full as well, the notification ends the watch. -/
theorem fansOut_threeQueues :
    let watchee : ActorRef := ⟨⟨2⟩, ⟨120⟩, "a", ⟨98⟩⟩
    let p := (attended ⟨[(⟨120⟩, ⟨2⟩)]⟩ 5000 "120-a" threeQueues).1
    let queues (capacity : Nat) : Queues (Message Nat) :=
      .ofList [(⟨0⟩, ⟨1, [.app 9], true⟩), (⟨1⟩, ⟨1, [], false⟩), (⟨2⟩, ⟨capacity, [.app 5], true⟩)]
    let m : Message Nat := .watchNotification ⟨⟨2⟩, ⟨120⟩, "b", ⟨4⟩⟩ ⟨7⟩ (.app 3)
    let queued : Message Nat := .watchNotification watchee ⟨7⟩ (.app 3)
    let holds qs := FansOut watchee ⟨7⟩ queued m p qs (p.handle qs none m).1
      (p.handle qs none m).2.1 (p.handle qs none m).2.2
    p.watchee = some watchee ∧ notice? watchee m = some (⟨7⟩, queued) ∧
      holds (queues 2) ∧ holds (queues 1) ∧
      (p.handle (queues 2) none m).2.1.get? ⟨2⟩ = some ⟨2, [.app 5, queued], true⟩ ∧
      (p.handle (queues 2) none m).2.1.get? ⟨0⟩ = some ⟨1, [.app 9], true⟩ ∧
      (p.handle (queues 2) none m).1.queues.listeners ⟨7⟩ = [⟨2⟩] ∧
      p.Forsaken (queues 1) ⟨7⟩ := by
  intro watchee p queues m queued holds
  have hw : p.watchee = some watchee := by decide +kernel
  have hfans (qs : Queues (Message Nat)) : holds qs :=
    fansOut_of_reached (reached_attended _ 5000 _ threeQueues) hw rfl qs none
  have taken := (hfans (queues 2)).taken ⟨2⟩ (by decide +kernel) _ rfl rfl (by decide)
  have refused := (hfans (queues 2)).refused ⟨0⟩ (by decide +kernel) _ rfl (.inr (by decide))
  refine ⟨hw, rfl, hfans _, hfans _, taken.1, refused.1, ?_, by decide +kernel⟩
  rw [(hfans (queues 2)).kept]
  decide +kernel

end WatchProxy

end ActorMesh
