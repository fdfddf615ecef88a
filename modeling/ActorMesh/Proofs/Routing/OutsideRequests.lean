import ActorMesh.Proofs.Routing.Diversion
import ActorMesh.Proxy.Actor
import Mathlib.Data.List.Forall2
import Mathlib.Data.List.Nodup

/-!
# Requests from outside

Whoever asks an actor of another member from outside the actor system waits at a reply slot. The
request goes through the router to a request proxy, which passes it on; when an answer is there, the
runtime calls back and it is put into the slot. Several requests may hold one slot, and answers come
in any order or never. Nevertheless a slot delivers one answer at most, the first one that was put
into it by a request that holds it, and all later ones come to nothing (`answered_of_run`).

The runtime of the member is not modelled; what it may do is a choice at each step of `Run`. It
attends to what was delivered in any order, once to each, and calls back in any order, once at most
for each request. At any time those who wait look for their answers, or go away.
-/

namespace ActorMesh

/-! ### The history of a slot -/

/-- What was taken out of a slot. -/
def Reception.taken {ρ : Type} : Reception ρ → List ρ
  | answer r => [r]
  | empty | closed | gone => []

/-- What a slot looks like that the answers `answers` were put into, of which `taken` were taken. -/
structure ReplySlot.Records {ρ : Type} (s : ReplySlot ρ) (answers taken : List ρ) : Prop where
  completed_iff : s.completed = true ↔ answers ≠ []
  /-- What is taken is the first answer, once. -/
  first : taken = [] ∨ ∃ r, answers.head? = some r ∧ taken = [r]
  /-- It is there for the one who waits ... -/
  listening : s.waiting = .listening → s.answer = answers.head? ∧ taken = []
  served : s.waiting = .served → taken ≠ []
  /-- ... and for nobody else. -/
  away : s.waiting ≠ .listening → s.answer = none

namespace ReplySlot

variable {ρ : Type} {s : ReplySlot ρ} {answers taken : List ρ}

theorem records_new : (new : ReplySlot ρ).Records [] [] where
  completed_iff := by simp [new]
  first := .inl rfl
  listening _ := ⟨rfl, rfl⟩
  served := nofun
  away h := absurd rfl h

/-- A slot that is used up takes no answer. -/
theorem complete_of_completed (h : s.completed = true) (r : ρ) : s.complete r = s := by
  rw [complete, if_pos h]

theorem accepts_of_completed (h : s.completed = true) : s.accepts = false := by
  rw [accepts, h]
  rfl

theorem waiting_complete (s : ReplySlot ρ) (r : ρ) : (s.complete r).waiting = s.waiting := by
  unfold complete
  split <;> rfl

/-- Of the answers that are put into a slot the first one stays. -/
theorem Records.complete (h : s.Records answers taken) (r : ρ) :
    (s.complete r).Records (answers ++ [r]) taken := by
  cases hc : s.completed with
  | true =>
    rw [complete_of_completed hc]
    obtain ⟨r', later, rfl⟩ := List.exists_cons_of_ne_nil (h.completed_iff.1 hc)
    exact {
      completed_iff := iff_of_true hc (by simp)
      first := h.first
      listening := h.listening
      served := h.served
      away := h.away }
  | false =>
    have hnone : answers = [] := by
      rw [← Classical.not_not (a := answers = []), ← ne_eq, ← h.completed_iff, hc]
      exact Bool.false_ne_true
    subst hnone
    have htaken : taken = [] := by
      obtain htaken | ⟨r', hfirst, -⟩ := h.first
      · exact htaken
      · cases hfirst
    rw [ReplySlot.complete, hc, if_neg Bool.false_ne_true]
    exact {
      completed_iff := by simp
      first := .inl htaken
      listening := fun hw => ⟨if_pos hw, htaken⟩
      served := h.served
      away := fun hw => if_neg hw }

/-- The first answer for a slot is delivered, unless nobody waits any more. -/
theorem Records.accepts_or_gone (h : s.Records [] taken) :
    s.accepts = true ∨ s.waiting = .gone := by
  have hopen : s.completed = false := by
    rw [← Bool.not_eq_true, h.completed_iff]
    exact fun hne => hne rfl
  cases hw : s.waiting with
  | gone => exact .inr rfl
  | listening => exact .inl (by simp [accepts, hopen, hw])
  | served =>
    obtain htaken | ⟨r, hfirst, -⟩ := h.first
    · exact absurd htaken (h.served hw)
    · cases hfirst

/-- The one who waits gets the first answer, and no other one later. -/
theorem Records.receive (h : s.Records answers taken) :
    s.receive.2.Records answers (taken ++ s.receive.1.taken) := by
  have hnothing : s.Records answers (taken ++ []) := by rwa [List.append_nil]
  unfold ReplySlot.receive
  cases hw : s.waiting with
  | gone | served => exact hnothing
  | listening =>
    obtain ⟨hanswer, rfl⟩ := h.listening hw
    cases ha : s.answer with
    | none => exact hnothing
    | some r =>
      exact {
        completed_iff := h.completed_iff
        first := .inr ⟨r, hanswer.symm.trans ha, rfl⟩
        listening := nofun
        served := fun _ => List.cons_ne_nil r []
        away := fun _ => rfl }

/-- Whoever goes away gets nothing any more. -/
theorem Records.abandon (h : s.Records answers taken) : s.abandon.Records answers taken where
  completed_iff := h.completed_iff
  first := h.first
  listening := nofun
  served := nofun
  away _ := rfl

end ReplySlot

namespace OutsideRequest

variable {σ α : Type}

/-! ### The member -/

/-- A request from outside. -/
structure Inquiry (α : Type) where
  target : ActorRef
  message : Message α
  reply : ReplyId
  timeout : Option Nat

namespace Inquiry

/-- The envelope of a request. -/
def envelope (x : Inquiry α) : Envelope α :=
  .outerRequest x.target x.message x.reply x.timeout

/-- What a proxy is told. -/
def told (x : Inquiry α) : Message α :=
  .externalRequest x.target x.message x.reply x.timeout

/-- What a proxy asks for. -/
def call (x : Inquiry α) : Action α := .request x.target x.message x.timeout x.reply

/-- Whether a request was handed to the local proxy for its target, with success. -/
def IsHanded (localId : SystemId) (placement : Placement) (x : Inquiry α) (a : Attempt α) : Prop :=
  ∃ proxy, placement.place localId .requestProxy (ProxyKey.ofTarget x.target).text = .ok proxy ∧
    a = (.deliver (.parcel (.send none proxy x.told)), .ok ())

/-- What proxies ask for that attend to requests in the given order. -/
def calls (xs : List (Inquiry α)) (attended : List Nat) : List (Nat × Action α) :=
  attended.filterMap fun i => (xs[i]?).map fun x => (i, x.call)

end Inquiry

/-- The runtime called back. -/
structure Firing (α : Type) where
  /-- Which of the calls that proxies asked for was answered. -/
  call : Nat
  /-- The slot that the answer is for. -/
  reply : ReplyId
  response : Response α
  /-- What was reported: nothing if the answer was delivered. -/
  notices : List Notice

/-- The router of a member, what its runtime does about requests, and the reply slots. -/
structure Desk (α : Type) where
  router : Router
  /-- What the router handed on. -/
  log : List (Attempt α)
  /-- Which of that the runtime attended to. -/
  attended : List Nat
  /-- What proxies asked for, and when they attended to what. -/
  asked : List (Nat × Action α)
  fired : List (Firing α)
  replies : Replies (Response α)
  /-- The answers that were taken out of slots. -/
  received : List (ReplyId × Response α)

namespace Desk

/-- A member on which nothing waits. -/
def new (r : Router) : Desk α := ⟨r, [], [], [], [], .empty, []⟩

/-- A reply slot; it is made where it is first used. -/
def slot (d : Desk α) (reply : ReplyId) : ReplySlot (Response α) :=
  (d.replies.get? reply).getD .new

/-- The callbacks for a slot, in order. -/
def firedFor (d : Desk α) (reply : ReplyId) : List (Firing α) :=
  d.fired.filter fun f => f.reply = reply

/-- What was taken out of a slot. -/
def receivedFrom (d : Desk α) (reply : ReplyId) : List (Response α) :=
  (d.received.filter fun x => x.1 = reply).map (·.2)

/-- A request goes through the router. -/
def route (d : Desk α) (carrier : Carrier σ α) (st : σ) (x : Inquiry α) : Desk α :=
  { d with
    router := (d.router.route carrier st x.envelope).router
    log := d.log ++ d.router.attempts carrier st x.envelope }

/-- The runtime attends to a delivery: a message for a request proxy is handed to that. -/
def attend (d : Desk α) (i : Nat) (e : Envelope α) : Desk α :=
  match e with
  | .parcel (.send _ a m) =>
    { d with
      attended := d.attended ++ [i]
      asked := d.asked ++ if a.actorType = .requestProxy then (RequestProxy.handle m).map (i, ·)
        else [] }
  | _ => { d with attended := d.attended ++ [i] }

/-- The runtime calls back, with an answer for a slot. -/
def fire (d : Desk α) (call : Nat) (reply : ReplyId) (r : Response α) : Desk α :=
  let answered := RequestProxy.answer d.replies reply r
  { d with
    fired := d.fired ++ [⟨call, reply, r, answered.2⟩]
    replies := answered.1 }

/-- Somebody looks for the answer in a slot. -/
def receive (d : Desk α) (reply : ReplyId) : Desk α :=
  let found := (d.slot reply).receive
  { d with
    replies := d.replies.insert reply found.2
    received := d.received ++ found.1.taken.map (reply, ·) }

/-- Whoever waits at a slot goes away. -/
def abandon (d : Desk α) (reply : ReplyId) : Desk α :=
  { d with replies := d.replies.insert reply (d.slot reply).abandon }

end Desk

/-- A run of a member after any other traffic, with the requests so far. -/
inductive Run (localId : SystemId) (placement : Placement) : List (Inquiry α) → Desk α → Prop
  | start {r : Router} (h : Router.Reached localId placement r) :
    Run localId placement [] (.new r)
  | request {σ : Type} {xs : List (Inquiry α)} {d : Desk α} (h : Run localId placement xs d)
    {x : Inquiry α} (remote : x.target.system ≠ localId) (carrier : Carrier σ α) (st : σ) :
    Run localId placement (xs ++ [x]) (d.route carrier st x)
  | attend {xs : List (Inquiry α)} {d : Desk α} (h : Run localId placement xs d) {i : Nat}
    (once : i ∉ d.attended) {e : Envelope α} {result : Except ClusterError Unit}
    (delivered : d.log[i]? = some (.deliver e, result)) :
    Run localId placement xs (d.attend i e)
  | fire {xs : List (Inquiry α)} {d : Desk α} (h : Run localId placement xs d) {call i : Nat}
    (once : ∀ f ∈ d.fired, f.call ≠ call) {target : ActorRef} {message : Message α}
    {timeout : Option Nat} {reply : ReplyId}
    (asked : d.asked[call]? = some (i, .request target message timeout reply)) (r : Response α) :
    Run localId placement xs (d.fire call reply r)
  | receive {xs : List (Inquiry α)} {d : Desk α} (h : Run localId placement xs d)
    (reply : ReplyId) : Run localId placement xs (d.receive reply)
  | abandon {xs : List (Inquiry α)} {d : Desk α} (h : Run localId placement xs d)
    (reply : ReplyId) : Run localId placement xs (d.abandon reply)

/-- What became of requests: each of them is passed on once, and each slot delivers one answer at
most. -/
structure Answered (localId : SystemId) (placement : Placement) (xs : List (Inquiry α))
    (d : Desk α) : Prop where
  /-- Each request goes to a proxy of this member, and nowhere else. -/
  handed : List.Forall₂ (Inquiry.IsHanded localId placement) xs d.log
  /-- A proxy that attends to a request asks for one call, with the target, the message and the
  timeout of the request, ... -/
  asked : ∀ i x, xs[i]? = some x →
    d.asked.filter (fun y => y.1 = i) = if i ∈ d.attended then [(i, x.call)] else []
  /-- ... and for nothing else. -/
  only : ∀ y ∈ d.asked, ∃ x, xs[y.1]? = some x ∧ y.2 = x.call
  /-- Callbacks belong to different calls, and put the answer into the slot of their request. -/
  once : (d.fired.map (·.call)).Nodup
  fired : ∀ f ∈ d.fired, ∃ i x, xs[i]? = some x ∧ d.asked[f.call]? = some (i, x.call) ∧
    f.reply = x.reply
  /-- Nothing is taken out of a slot but the first answer for it, once. -/
  received : ∀ reply, d.receivedFrom reply = [] ∨
    ∃ f, (d.firedFor reply).head? = some f ∧ d.receivedFrom reply = [f.response]
  /-- It is there for whoever still waits. -/
  waiting : ∀ reply, (d.slot reply).waiting = .listening →
    (d.slot reply).receive.1 = ((d.firedFor reply).head?).elim .empty fun f => .answer f.response
  /-- The first callback for a slot delivers its answer, unless nobody waits any more; no later one
  does. -/
  told : ∀ reply f later, d.firedFor reply = f :: later →
    (f.notices = [] ∨ (d.slot reply).waiting = .gone) ∧ ∀ g ∈ later, g.notices = [.replyTaken]
  /-- A further answer for a slot is not accepted, and changes no slot. -/
  late : ∀ reply r, d.firedFor reply ≠ [] →
    (d.slot reply).accepts = false ∧ (RequestProxy.answer d.replies reply r).2 = [.replyTaken] ∧
      ∀ reply', (RequestProxy.answer d.replies reply r).1.get? reply' = d.replies.get? reply'
  /-- A slot is used up exactly if the callback of a request that holds it was fired. -/
  isCompleted_iff : ∀ reply, d.replies.isCompleted reply = true ↔ ∃ f ∈ d.fired, f.reply = reply

/-! ### Slots and calls -/

section

variable {localId : SystemId} {placement : Placement} {xs : List (Inquiry α)} {d : Desk α}

namespace Desk

theorem slot_insert (d : Desk α) (reply reply' : ReplyId) (s : ReplySlot (Response α)) :
    ((d.replies.insert reply s).get? reply').getD .new =
      if reply' = reply then s else d.slot reply' := by
  rw [Table.get?_insert]
  split
  · rfl
  · rfl

theorem firedFor_fire (d : Desk α) (call : Nat) (reply reply' : ReplyId) (r : Response α) :
    (d.fire call reply r).firedFor reply' = d.firedFor reply' ++ if reply' = reply then
      [⟨call, reply, r, (RequestProxy.answer d.replies reply r).2⟩] else [] := by
  rw [firedFor, fire, List.filter_append, firedFor]
  by_cases hreply : reply' = reply
  · simp [hreply]
  · simp [hreply, Ne.symm hreply]

theorem receivedFrom_append (d : Desk α) (replies : Replies (Response α)) (reply reply' : ReplyId)
    (more : List (Response α)) :
    { d with
      replies := replies
      received := d.received ++ more.map (reply, ·) }.receivedFrom reply' =
      d.receivedFrom reply' ++ if reply' = reply then more else [] := by
  simp only [receivedFrom, List.filter_append, List.map_append, List.filter_map, List.map_map]
  by_cases hreply : reply' = reply
  · simp [hreply, Function.comp_def]
  · simp [hreply, Ne.symm hreply, Function.comp_def]

/-- A slot that is used up is there. -/
theorem get?_of_completed {reply : ReplyId} (h : (d.slot reply).completed = true) :
    d.replies.get? reply = some (d.slot reply) := by
  unfold slot at h ⊢
  cases hslot : d.replies.get? reply with
  | none =>
    rw [hslot] at h
    cases h
  | some s => rfl

theorem isCompleted_eq (d : Desk α) (reply : ReplyId) :
    d.replies.isCompleted reply = (d.slot reply).completed := by
  unfold Replies.isCompleted slot
  cases d.replies.get? reply <;> rfl

end Desk

namespace Inquiry

/-- A request becomes one message to the proxy for its target. -/
theorem exists_attempts_eq {r : Router} (hr : r.Sound localId placement)
    (hid : localId.isNone = false) {x : Inquiry α} (remote : x.target.system ≠ localId)
    (carrier : Carrier σ α) (st : σ) :
    ∃ a, x.IsHanded localId placement a ∧ r.attempts carrier st x.envelope = [a] := by
  obtain ⟨slot, proxies, hplace, hdivert, -⟩ :=
    hr.divert (α := α) hid .requestProxy x.target none x.told
  have hplan : r.plan x.envelope = r.divert .requestProxy x.target none x.told := by
    simp only [envelope, told, Router.plan, hr.localId_eq, if_neg remote]
  exact ⟨_, ⟨_, hplace, rfl⟩, (Router.attempts_one (hplan.trans hdivert) carrier st).1⟩

/-- The proxy that attends to a request asks for its call. -/
theorem IsHanded.attend (hid : localId.isNone = false) {x : Inquiry α} {e : Envelope α}
    {result : Except ClusterError Unit} (h : x.IsHanded localId placement (.deliver e, result))
    (d : Desk α) (i : Nat) :
    d.attend i e = { d with attended := d.attended ++ [i], asked := d.asked ++ [(i, x.call)] } := by
  obtain ⟨proxy, hproxy, heq⟩ := h
  cases heq
  obtain ⟨slot, hslot⟩ := placement.exists_place_eq_ok hid .requestProxy
    (ProxyKey.ofTarget x.target).text
  obtain rfl := Except.ok.inj (hslot.symm.trans hproxy)
  rfl

/-- Requests that come later do not matter to those that were attended to. -/
theorem calls_append {attended : List Nat} (h : ∀ i ∈ attended, i < xs.length)
    (more : List (Inquiry α)) : calls (xs ++ more) attended = calls xs attended := by
  refine List.filterMap_congr fun i hi => ?_
  rw [List.getElem?_append_left (h i hi)]

theorem calls_concat {i : Nat} {x : Inquiry α} (h : xs[i]? = some x) (attended : List Nat) :
    calls xs (attended ++ [i]) = calls xs attended ++ [(i, x.call)] := by
  simp [calls, List.filterMap_append, h]

theorem exists_of_mem_calls {attended : List Nat} {y : Nat × Action α}
    (h : y ∈ calls xs attended) : ∃ x, xs[y.1]? = some x ∧ y.2 = x.call := by
  obtain ⟨i, -, hi⟩ := List.mem_filterMap.1 h
  obtain ⟨x, hx, rfl⟩ := Option.map_eq_some_iff.1 hi
  exact ⟨x, hx, rfl⟩

/-- What is asked for on behalf of one request. -/
theorem filter_calls {attended : List Nat} (nodup : attended.Nodup) {i : Nat} {x : Inquiry α}
    (hx : xs[i]? = some x) :
    (calls xs attended).filter (fun y => y.1 = i) =
      if i ∈ attended then [(i, x.call)] else [] := by
  induction attended with
  | nil => rfl
  | cons j rest ih =>
    obtain ⟨hj, hrest⟩ := List.nodup_cons.1 nodup
    have hcons : calls xs (j :: rest) =
        ((xs[j]?).map fun x => (j, x.call)).toList ++ calls xs rest := by
      unfold calls
      rw [List.filterMap_cons]
      cases (xs[j]?).map fun x => (j, x.call) <;> rfl
    rw [hcons, List.filter_append, ih hrest]
    by_cases heq : i = j
    · subst heq
      rw [hx, if_neg hj, if_pos List.mem_cons_self]
      simp
    · have hother :
          (((xs[j]?).map fun x => (j, x.call)).toList).filter (fun y => y.1 = i) = [] := by
        cases xs[j]? <;> simp [Ne.symm heq]
      rw [hother, List.nil_append]
      simp only [List.mem_cons, heq, false_or]

end Inquiry

/-! ### The invariant -/

/-- What is true of a member at any time. -/
structure Kept (localId : SystemId) (placement : Placement) (xs : List (Inquiry α)) (d : Desk α) :
    Prop where
  sound : d.router.Sound localId placement
  handed : List.Forall₂ (Inquiry.IsHanded localId placement) xs d.log
  /-- Requests are attended to once, ... -/
  nodup : d.attended.Nodup
  lt : ∀ i ∈ d.attended, i < xs.length
  /-- ... and that is all that proxies ask for. -/
  asked_eq : d.asked = Inquiry.calls xs d.attended
  once : (d.fired.map (·.call)).Nodup
  fired : ∀ f ∈ d.fired, ∃ i x, xs[i]? = some x ∧ d.asked[f.call]? = some (i, x.call) ∧
    f.reply = x.reply
  records : ∀ reply, (d.slot reply).Records ((d.firedFor reply).map (·.response))
    (d.receivedFrom reply)
  told : ∀ reply f later, d.firedFor reply = f :: later →
    (f.notices = [] ∨ (d.slot reply).waiting = .gone) ∧ ∀ g ∈ later, g.notices = [.replyTaken]

namespace Kept

theorem new {r : Router} (hr : r.Sound localId placement) :
    Kept localId placement [] (Desk.new r : Desk α) where
  sound := hr
  handed := .nil
  nodup := .nil
  lt := nofun
  asked_eq := rfl
  once := .nil
  fired := nofun
  records _ := ReplySlot.records_new
  told := nofun

/-- A request is handed to its proxy, and waits there. -/
theorem request (h : Kept localId placement xs d) (hid : localId.isNone = false) {x : Inquiry α}
    (remote : x.target.system ≠ localId) (carrier : Carrier σ α) (st : σ) :
    Kept localId placement (xs ++ [x]) (d.route carrier st x) := by
  obtain ⟨a, hhanded, hattempts⟩ := Inquiry.exists_attempts_eq h.sound hid remote carrier st
  exact { h with
    sound := h.sound.route hid carrier st x.envelope
    handed := by
      rw [Desk.route, hattempts]
      exact List.rel_append h.handed (.cons hhanded .nil)
    lt := by
      intro i hi
      rw [List.length_append]
      exact Nat.lt_add_right _ (h.lt i hi)
    asked_eq := h.asked_eq.trans (Inquiry.calls_append h.lt [x]).symm
    fired := by
      intro f hf
      obtain ⟨i, y, hy, hasked, hreply⟩ := h.fired f hf
      have hlt := (List.getElem?_eq_some_iff.1 hy).1
      exact ⟨i, y, (List.getElem?_append_left hlt).trans hy, hasked, hreply⟩ }

/-- What the router handed on for a request. -/
theorem isHanded (h : Kept localId placement xs d) {i : Nat} {x : Inquiry α} {a : Attempt α}
    (hx : xs[i]? = some x) (ha : d.log[i]? = some a) : x.IsHanded localId placement a := by
  obtain ⟨hlt, rfl⟩ := List.getElem?_eq_some_iff.1 hx
  obtain ⟨hlt', rfl⟩ := List.getElem?_eq_some_iff.1 ha
  exact h.handed.get hlt hlt'

/-- A proxy that attends to a request asks for its call. -/
theorem attend (h : Kept localId placement xs d) (hid : localId.isNone = false) {i : Nat}
    (once : i ∉ d.attended) {e : Envelope α} {result : Except ClusterError Unit}
    (delivered : d.log[i]? = some (.deliver e, result)) :
    Kept localId placement xs (d.attend i e) := by
  have hlt : i < xs.length := h.handed.length_eq ▸ (List.getElem?_eq_some_iff.1 delivered).1
  have hx := List.getElem?_eq_getElem hlt
  rw [(h.isHanded hx delivered).attend hid d i]
  exact { h with
    nodup := by
      rw [← List.concat_eq_append]
      exact h.nodup.concat once
    lt := by
      intro j hj
      obtain hj | hj := List.mem_append.1 hj
      · exact h.lt j hj
      · exact List.mem_singleton.1 hj ▸ hlt
    asked_eq := by rw [Inquiry.calls_concat hx, h.asked_eq]
    fired := by
      intro f hf
      obtain ⟨j, y, hy, hasked, hreply⟩ := h.fired f hf
      have hlt := (List.getElem?_eq_some_iff.1 hasked).1
      exact ⟨j, y, hy, (List.getElem?_append_left hlt).trans hasked, hreply⟩ }

/-- An answer is put into the slot of its request, and no other slot changes. -/
theorem fire (h : Kept localId placement xs d) {call i : Nat}
    (once : ∀ f ∈ d.fired, f.call ≠ call) {target : ActorRef} {message : Message α}
    {timeout : Option Nat} {reply : ReplyId}
    (asked : d.asked[call]? = some (i, .request target message timeout reply)) (r : Response α) :
    Kept localId placement xs (d.fire call reply r) := by
  have hslot : ∀ reply', (d.fire call reply r).slot reply' =
      if reply' = reply then (d.slot reply).complete r else d.slot reply' :=
    fun reply' => d.slot_insert reply reply' _
  exact { h with
    once := by
      rw [Desk.fire, List.map_append, List.map_singleton, ← List.concat_eq_append]
      refine h.once.concat fun hmem => ?_
      obtain ⟨f, hf, hcall⟩ := List.mem_map.1 hmem
      exact once f hf hcall
    fired := by
      intro f hf
      obtain hf | hf := List.mem_append.1 hf
      · exact h.fired f hf
      · have hmem := List.mem_of_getElem? asked
        rw [h.asked_eq] at hmem
        obtain ⟨x, hx, hcall⟩ := Inquiry.exists_of_mem_calls hmem
        rw [List.mem_singleton.1 hf]
        refine ⟨i, x, hx, asked.trans (congrArg (fun a => some (i, a)) hcall), ?_⟩
        cases hcall
        rfl
    records := by
      intro reply'
      rw [hslot, Desk.firedFor_fire]
      by_cases hreply : reply' = reply
      · rw [if_pos hreply, if_pos hreply, List.map_append, hreply]
        exact (h.records reply).complete r
      · rw [if_neg hreply, if_neg hreply, List.append_nil]
        exact h.records reply'
    told := by
      intro reply' f later hfired
      rw [Desk.firedFor_fire] at hfired
      rw [hslot]
      by_cases hreply : reply' = reply
      · subst hreply
        rw [if_pos rfl] at hfired
        rw [if_pos rfl, ReplySlot.waiting_complete]
        have hrecords := h.records reply'
        cases hbefore : d.firedFor reply' with
        | nil =>
          -- the first answer is delivered to the one who waits
          rw [hbefore] at hfired hrecords
          obtain ⟨rfl, rfl⟩ := List.cons.inj hfired
          exact ⟨(hrecords.accepts_or_gone).imp_left fun haccepts => if_pos haccepts, nofun⟩
        | cons g rest =>
          rw [hbefore] at hfired hrecords
          obtain ⟨rfl, rfl⟩ := List.cons.inj hfired
          obtain ⟨hfirst, hlater⟩ := h.told reply' g rest hbefore
          refine ⟨hfirst, fun g' hg' => ?_⟩
          obtain hg' | hg' := List.mem_append.1 hg'
          · exact hlater g' hg'
          · have hcompleted := hrecords.completed_iff.2 (by simp)
            rw [List.mem_singleton.1 hg']
            exact if_neg (Bool.eq_false_iff.1 (ReplySlot.accepts_of_completed hcompleted))
      · rw [if_neg hreply, List.append_nil] at hfired
        rw [if_neg hreply]
        exact h.told reply' f later hfired }

/-- What somebody does at a slot leaves the other slots alone. -/
theorem visit (h : Kept localId placement xs d) (reply : ReplyId) {s : ReplySlot (Response α)}
    (more : List (Response α))
    (records : s.Records ((d.firedFor reply).map (·.response)) (d.receivedFrom reply ++ more))
    (gone : (d.slot reply).waiting = .gone → s.waiting = .gone) :
    Kept localId placement xs { d with
      replies := d.replies.insert reply s
      received := d.received ++ more.map (reply, ·) } := by
  have hslot := fun reply' => d.slot_insert reply reply' s
  exact { h with
    records := by
      intro reply'
      rw [Desk.slot, hslot, Desk.receivedFrom_append]
      by_cases hreply : reply' = reply
      · rw [if_pos hreply, if_pos hreply, hreply]
        exact records
      · rw [if_neg hreply, if_neg hreply, List.append_nil]
        exact h.records reply'
    told := by
      intro reply' f later hfired
      obtain ⟨hfirst, hlater⟩ := h.told reply' f later hfired
      refine ⟨hfirst.imp_right fun hgone => ?_, hlater⟩
      rw [Desk.slot, hslot]
      by_cases hreply : reply' = reply
      · rw [if_pos hreply]
        exact gone (hreply ▸ hgone)
      · rw [if_neg hreply]
        exact hgone }

theorem receive (h : Kept localId placement xs d) (reply : ReplyId) :
    Kept localId placement xs (d.receive reply) := by
  refine h.visit reply _ (h.records reply).receive fun hgone => ?_
  rw [ReplySlot.receive, hgone]
  exact hgone

theorem abandon (h : Kept localId placement xs d) (reply : ReplyId) :
    Kept localId placement xs (d.abandon reply) := by
  have hrecords : (d.slot reply).abandon.Records ((d.firedFor reply).map (·.response))
      (d.receivedFrom reply ++ []) := by
    rw [List.append_nil]
    exact (h.records reply).abandon
  have hkept := h.visit reply [] hrecords fun _ => rfl
  rwa [List.map_nil, List.append_nil] at hkept

end Kept

theorem Run.kept (h : Run localId placement xs d) (hid : localId.isNone = false) :
    Kept localId placement xs d := by
  induction h with
  | start h => exact .new (h.sound hid)
  | request _ remote carrier st ih => exact ih.request hid remote carrier st
  | attend _ once delivered ih => exact ih.attend hid once delivered
  | fire _ once asked r ih => exact ih.fire once asked r
  | receive _ reply ih => exact ih.receive reply
  | abandon _ reply ih => exact ih.abandon reply

/-! ### The result -/

theorem Kept.completed_iff (h : Kept localId placement xs d) (reply : ReplyId) :
    (d.slot reply).completed = true ↔ d.firedFor reply ≠ [] := by
  rw [(h.records reply).completed_iff, ne_eq, List.map_eq_nil_iff]

theorem Kept.answered (h : Kept localId placement xs d) : Answered localId placement xs d where
  handed := h.handed
  asked i x hx := by
    rw [h.asked_eq]
    exact Inquiry.filter_calls h.nodup hx
  only y hy := by
    rw [h.asked_eq] at hy
    exact Inquiry.exists_of_mem_calls hy
  once := h.once
  fired := h.fired
  received reply := by
    refine (h.records reply).first.imp_right fun htaken => ?_
    obtain ⟨r, hfirst, hreceived⟩ := htaken
    rw [List.head?_map] at hfirst
    obtain ⟨f, hf, rfl⟩ := Option.map_eq_some_iff.1 hfirst
    exact ⟨f, hf, hreceived⟩
  waiting reply hw := by
    have hanswer := ((h.records reply).listening hw).1
    rw [List.head?_map] at hanswer
    rw [ReplySlot.receive, hw, hanswer]
    cases (d.firedFor reply).head? <;> rfl
  told := h.told
  late reply r hfired := by
    have hcompleted := (h.completed_iff reply).2 hfired
    have hrefused := ReplySlot.accepts_of_completed hcompleted
    refine ⟨hrefused, if_neg (Bool.eq_false_iff.1 hrefused), fun reply' => ?_⟩
    have hsame : (d.slot reply).complete r = d.slot reply :=
      ReplySlot.complete_of_completed hcompleted r
    refine (Table.get?_insert d.replies reply reply' ((d.slot reply).complete r)).trans ?_
    rw [hsame]
    split
    · next heq => rw [heq, Desk.get?_of_completed hcompleted]
    · rfl
  isCompleted_iff reply := by
    rw [d.isCompleted_eq, h.completed_iff, ← List.length_pos_iff,
      List.length_pos_iff_exists_mem]
    simp only [Desk.firedFor, List.mem_filter, decide_eq_true_eq]

/-- The runtime can attend to any request that it did not attend to. -/
theorem Run.attend_request (h : Run localId placement xs d) (hid : localId.isNone = false) {i : Nat}
    {x : Inquiry α} (hx : xs[i]? = some x) (once : i ∉ d.attended) :
    Run localId placement xs
      { d with attended := d.attended ++ [i], asked := d.asked ++ [(i, x.call)] } := by
  have hkept := h.kept hid
  have hlt : i < d.log.length := hkept.handed.length_eq ▸ (List.getElem?_eq_some_iff.1 hx).1
  have hat := List.getElem?_eq_getElem hlt
  have hhanded := hkept.isHanded hx hat
  obtain ⟨e, heq⟩ : ∃ e, d.log[i] = (.deliver e, .ok ()) := by
    obtain ⟨proxy, -, heq⟩ := hhanded
    exact ⟨_, heq⟩
  rw [heq] at hat hhanded
  rw [← hhanded.attend hid d i]
  exact h.attend once hat

/-- Whatever happened, the runtime can attend to all requests. -/
theorem Run.exists_attended (h : Run localId placement xs d) (hid : localId.isNone = false)
    {n : Nat} (hn : n ≤ xs.length) :
    ∃ d', Run localId placement xs d' ∧ d'.log = d.log ∧ d'.fired = d.fired ∧
      d'.received = d.received ∧ ∀ i < n, i ∈ d'.attended := by
  induction n with
  | zero => exact ⟨d, h, rfl, rfl, rfl, nofun⟩
  | succ n ih =>
    obtain ⟨d', hrun, hlog, hfired, hreceived, hall⟩ := ih (Nat.le_of_succ_le hn)
    by_cases hattended : n ∈ d'.attended
    · refine ⟨d', hrun, hlog, hfired, hreceived, fun i hi => ?_⟩
      obtain hi | rfl := Nat.lt_or_eq_of_le (Nat.le_of_lt_succ hi)
      · exact hall i hi
      · exact hattended
    · refine ⟨_, hrun.attend_request hid (List.getElem?_eq_getElem hn) hattended, hlog, hfired,
        hreceived, fun i hi => ?_⟩
      obtain hi | rfl := Nat.lt_or_eq_of_le (Nat.le_of_lt_succ hi)
      · exact List.mem_append_left [n] (hall i hi)
      · exact List.mem_append_right _ List.mem_cons_self

/-- Requests from outside for actors of other members are passed on once each, whatever was routed
before; and whatever the runtime does, every slot delivers one answer at most, the first for it. -/
theorem answered_of_run (hid : localId.isNone = false) (h : Run localId placement xs d) :
    Answered localId placement xs d ∧ ∃ d', Run localId placement xs d' ∧ d'.log = d.log ∧
      d'.fired = d.fired ∧ d'.received = d.received ∧ ∀ i < xs.length, i ∈ d'.attended :=
  ⟨(h.kept hid).answered, h.exists_attended hid (Nat.le_refl _)⟩

end

/-- Two requests hold one slot. The second one is attended to first and answered first, so its
answer is the one that the slot delivers, though the asker looks for it only after both came. -/
theorem answered_sharedSlot :
    let placement : Placement := ⟨[]⟩
    let x : Inquiry Nat := ⟨⟨⟨2⟩, ⟨120⟩, "a", ⟨1⟩⟩, .app 5, ⟨0⟩, none⟩
    let y : Inquiry Nat := ⟨⟨⟨3⟩, ⟨120⟩, "b", ⟨1⟩⟩, .app 6, ⟨0⟩, some 1500⟩
    let early : Response Nat := ⟨some (.app 7), none⟩
    let late : Response Nat := ⟨none, some (.other "lost")⟩
    SystemId.isNone ⟨1⟩ = false ∧ ∃ d : Desk Nat, Run ⟨1⟩ placement [x, y] d ∧
      Answered ⟨1⟩ placement [x, y] d ∧ d.asked = [(1, y.call), (0, x.call)] ∧
      (d.firedFor ⟨0⟩).map (fun f => (f.response, f.notices)) =
        [(early, []), (late, [.replyTaken])] ∧ d.receivedFrom ⟨0⟩ = [early] := by
  intro placement x y early late
  have hid : SystemId.isNone ⟨1⟩ = false := rfl
  let carrier : Carrier Unit Nat := ⟨fun _ st => st, fun _ _ st => (.ok (), [], st)⟩
  have hstart : Run ⟨1⟩ placement [] (Desk.new (.new ⟨1⟩ placement) : Desk Nat) := .start .new
  have hrouted : Run ⟨1⟩ placement [x, y] _ :=
    (hstart.request (x := x) (by decide) carrier ()).request (x := y) (by decide) carrier ()
  have hasked := (hrouted.attend_request hid (i := 1) (x := y) rfl (by decide)).attend_request hid
    (i := 0) (x := x) rfl (by decide)
  have once : ∀ f ∈ [(⟨0, ⟨0⟩, early, []⟩ : Firing Nat)], f.call ≠ 1 := by
    intro f hf
    rw [List.mem_singleton.1 hf]
    decide
  have hcall : [(1, y.call), (0, x.call)][0]? = some (1, y.call) := rfl
  have hcall' : [(1, y.call), (0, x.call)][1]? = some (0, x.call) := rfl
  have hfired := (hasked.fire nofun hcall early).fire once hcall' late
  have hrun := hfired.receive ⟨0⟩
  exact ⟨hid, _, hrun, (answered_of_run hid hrun).1, rfl, rfl, rfl⟩

end OutsideRequest

end ActorMesh
