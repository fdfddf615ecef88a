import ActorMesh.Proofs.Proxy.WatchProtocol
import ActorMesh.Proofs.Routing.Diversion

/-!
# One watch for many

Actors and queues of one member listen to an actor on another one. Their wishes go through the
router to a watch proxy, and what the proxy asks for goes through the router again. However many
listen, for whatever types, and however the runtime interleaves all this, the other member sees one
watcher, whose watches of each type begin and end in turn (`oneWatch_of_run`).

The runtime of the member is not modelled; what it may do with a proxy is a choice at each step of
`Run`. It attends to what was delivered in the order of delivery. It starts a proxy when a message
for it comes, hands it the messages one by one, and takes it away if it likes once it planned to
stop. What a proxy asks for is routed in order, at any time later. The member that the watches cross
to may be reached or not.
-/

namespace ActorMesh.RemoteWatch

variable {σ α : Type}

/-! ### Wishes -/

/-- Who may listen. -/
inductive Subscriber
  | actor (r : ActorRef)
  | queue (q : QueueId)
  deriving DecidableEq

/-- A subscriber begins (`on`) or ceases to listen for a type. -/
structure Wish where
  subscriber : Subscriber
  watch : WatchType
  on : Bool

namespace Wish

/-- The envelope in which a wish leaves its subscriber. -/
def envelope (target : ActorRef) (x : Wish) : Envelope α :=
  match x.subscriber with
  | .actor r => .parcel (.watch (some r) target x.watch x.on)
  | .queue q => .outerWatch target x.watch x.on q

/-- The sender of a wish: a queue has no address. -/
def sender (x : Wish) : Option ActorRef :=
  match x.subscriber with
  | .actor r => some r
  | .queue _ => none

/-- What a proxy is told. -/
def message (x : Wish) : Message α :=
  match x.subscriber with
  | .actor _ => .watchInstruction x.watch x.on
  | .queue q => .subscription x.watch x.on q

/-- The envelope in which a proxy is told. -/
def errand (proxy : ActorRef) (x : Wish) : Envelope α := .parcel (.send x.sender proxy x.message)

/-- Not the wish of a proxy. -/
def IsPlain (x : Wish) : Prop := Router.isWatchProxy x.sender = false

/-- The last word of a subscriber on a type. -/
def last (w : WatchType) (b : Subscriber) (xs : List Wish) : Option Bool :=
  (xs.filterMap fun x => if x.subscriber = b ∧ x.watch = w then some x.on else none).getLast?

theorem last_concat (w : WatchType) (b : Subscriber) (xs : List Wish) (x : Wish) :
    last w b (xs ++ [x]) = if x.subscriber = b ∧ x.watch = w then some x.on else last w b xs := by
  rw [last, List.filterMap_append, List.getLast?_append]
  split <;> rename_i h <;> simp [h, last]

end Wish

/-- Whether a subscriber of a proxy listens for a type. -/
def Listens (p : WatchProxy) (w : WatchType) : Subscriber → Prop
  | .actor r => r ∈ p.watchers.listeners w
  | .queue q => q ∈ p.queues.listeners w

/-- A proxy that is told of a wish does as it says, and leaves all others alone. -/
theorem listens_handle {p : WatchProxy} {watchee : ActorRef} (h : p.watchee = some watchee)
    (x : Wish) (qs : Queues (Message α)) (w : WatchType) (b : Subscriber) :
    Listens (p.handle qs x.sender x.message).1 w b ↔
      if x.subscriber = b ∧ x.watch = w then x.on = true else Listens p w b := by
  obtain ⟨subscriber, w', on⟩ := x
  cases b with
  | actor r =>
    refine (WatchProxy.mem_watchers_handle (o := ⟨qs, _, _⟩) h w r).trans ?_
    cases subscriber with
    | actor r' =>
      by_cases heq : r' = r ∧ w' = w
      · simp [WatchProxy.watcherWord, heq.1, heq.2]
      · have heq' : ¬(w' = w ∧ r' = r) := fun h => heq h.symm
        simp [WatchProxy.watcherWord, heq, heq', Listens]
    | queue q' => simp [WatchProxy.watcherWord, Listens]
  | queue q =>
    refine (WatchProxy.mem_queues_handle (o := ⟨qs, _, _⟩) h w q).trans ?_
    cases subscriber with
    | actor r' => simp [WatchProxy.queueWord, Listens]
    | queue q' =>
      by_cases heq : q' = q ∧ w' = w
      · simp [WatchProxy.queueWord, heq.1, heq.2]
      · have heq' : ¬(w' = w ∧ q' = q) := fun h => heq h.symm
        simp [WatchProxy.queueWord, heq, heq', Listens]

theorem exists_listens_iff (p : WatchProxy) (w : WatchType) :
    (∃ b, Listens p w b) ↔ 0 < p.subscriberCount w := by
  rw [WatchProxy.subscriberCount, Nat.add_pos_iff_pos_or_pos, List.length_pos_iff_exists_mem,
    List.length_pos_iff_exists_mem]
  constructor
  · rintro ⟨r | q, h⟩
    · exact .inr ⟨r, h⟩
    · exact .inl ⟨q, h⟩
  · rintro (⟨q, h⟩ | ⟨r, h⟩)
    · exact ⟨.queue q, h⟩
    · exact ⟨.actor r, h⟩

/-! ### The member -/

/-- The local deliveries among what was handed on. -/
def deliveries (log : List (Attempt α)) : List (Envelope α) :=
  log.filterMap fun a => match a.1 with
    | .deliver e => some e
    | .remit _ _ => none

/-- What was handed on for other members. -/
def remittances (log : List (Attempt α)) : List (SystemId × Envelope α) :=
  log.filterMap fun a => match a.1 with
    | .deliver _ => none
    | .remit member e => some (member, e)

/-- The watch envelope that the runtime makes of what a proxy asks for, if that is a watch. -/
def crossing? : ActorRef × Action α → Option (Envelope α)
  | (proxy, .watch target w) => some (.parcel (.watch (some proxy) target w true))
  | (proxy, .unwatch target w) => some (.parcel (.watch (some proxy) target w false))
  | _ => none

/-- The watches that proxies asked for, as envelopes. -/
def crossings (asked : List (ActorRef × Action α)) : List (Envelope α) :=
  asked.filterMap crossing?

/-- Whether an envelope begins (`true`) or ends (`false`) a watch of a type. -/
def flag? (w : WatchType) : Envelope α → Option Bool
  | .parcel (.watch _ _ w' on) => if w' = w then some on else none
  | _ => none

/-- The watches of a type that begin and end, in order. -/
def flags (w : WatchType) (es : List (Envelope α)) : List Bool := es.filterMap (flag? w)

/-- The router of a member and what its runtime does about watch proxies. -/
structure Site (α : Type) where
  router : Router
  /-- What the router handed on. -/
  log : List (Attempt α)
  /-- How many of the local deliveries the runtime attended to. -/
  attended : Nat
  /-- The proxies that run. -/
  proxies : Table ActorRef WatchProxy
  /-- What proxies asked for, and which. -/
  asked : List (ActorRef × Action α)
  /-- How many of the watches that proxies asked for were routed. -/
  crossed : Nat

namespace Site

/-- A member on which no proxy runs and nothing waits. -/
def new (r : Router) : Site α := ⟨r, [], 0, .empty, [], 0⟩

/-- An envelope goes through the router. -/
def route (s : Site α) (carrier : Carrier σ α) (st : σ) (e : Envelope α) : Site α :=
  { s with
    router := (s.router.route carrier st e).router
    log := s.log ++ s.router.attempts carrier st e }

/-- The proxy at an address, and what it asked for if it has to start. -/
def proxyAt (placement : Placement) (grace : Nat) (s : Site α) (a : ActorRef) :
    WatchProxy × List (Action α) :=
  match s.proxies.get? a with
  | some p => (p, [])
  | none => (WatchProxy.new grace).start placement a.id

/-- The runtime attends to a delivery: a message for a watch proxy is handed to that. -/
def attend (placement : Placement) (grace : Nat) (qs : Queues (Message α)) (s : Site α)
    (e : Envelope α) : Site α :=
  match e with
  | .parcel (.send sender a m) =>
    if a.actorType = .watchProxy then
      let (p, started) := s.proxyAt placement grace a
      let (p', _, actions) := p.handle qs sender m
      { s with
        attended := s.attended + 1
        proxies := s.proxies.insert a p'
        asked := s.asked ++ (started ++ actions).map (a, ·) }
    else { s with attended := s.attended + 1 }
  | _ => { s with attended := s.attended + 1 }

/-- What a proxy said last about its stop. -/
def stopPlan? (s : Site α) (a : ActorRef) : Option (Option Nat) :=
  (WatchProxy.stopCalls ((s.asked.filter (·.1 = a)).map (·.2))).getLast?

/-- Nothing waits for the runtime. -/
def IsSettled (s : Site α) : Prop :=
  s.attended = (deliveries s.log).length ∧ s.crossed = (crossings s.asked).length

end Site

/-- A run of a member after any other traffic, with the wishes about a target so far. -/
inductive Run (c : Config) (grace : Nat) (target : ActorRef) : List Wish → Site α → Prop
  | start {r : Router} (h : Router.Reached c.localId (.ofConfig c) r) :
    Run c grace target [] (.new r)
  | wish {σ : Type} {xs : List Wish} {s : Site α} (h : Run c grace target xs s) {x : Wish}
    (hx : x.IsPlain) (carrier : Carrier σ α) (st : σ) :
    Run c grace target (xs ++ [x]) (s.route carrier st (x.envelope target))
  | attend {xs : List Wish} {s : Site α} (h : Run c grace target xs s) {e : Envelope α}
    (he : (deliveries s.log)[s.attended]? = some e) (qs : Queues (Message α)) :
    Run c grace target xs (s.attend (.ofConfig c) grace qs e)
  | cross {σ : Type} {xs : List Wish} {s : Site α} (h : Run c grace target xs s) {e : Envelope α}
    (he : (crossings s.asked)[s.crossed]? = some e) (carrier : Carrier σ α) (st : σ) :
    Run c grace target xs { s.route carrier st e with crossed := s.crossed + 1 }
  | retire {xs : List Wish} {s : Site α} (h : Run c grace target xs s) {a : ActorRef} {millis : Nat}
    (ha : s.stopPlan? a = some (some millis)) :
    Run c grace target xs { s with proxies := s.proxies.erase a }

/-- What the wishes about a target came to: one proxy on this member, one watcher over there. -/
structure OneWatch (target : ActorRef) (xs : List Wish) (s : Site α) (proxy : ActorRef) : Prop where
  /-- The proxy is told of all wishes, in order, and nothing else is delivered: its own watches do
  not come back. -/
  delivered : deliveries s.log = xs.map (·.errand proxy)
  /-- No other proxy runs. -/
  only : ∀ a p, s.proxies.get? a = some p → a = proxy
  /-- Those listen whose last wish was to do so, as far as the proxy was told. -/
  listens : ∀ w b, (∃ p, s.proxies.get? proxy = some p ∧ Listens p w b) ↔
    Wish.last w b (xs.take s.attended) = some true
  /-- Nothing but watches of the target by the proxy crosses, and they cross to its member. -/
  remitted : ∀ member e, (member, e) ∈ remittances s.log →
    member = target.system ∧ ∃ w on, e = .parcel (.watch (some proxy) target w on)
  /-- Watches of a type begin and end in turn. -/
  chain : ∀ w, (false :: flags w ((remittances s.log).map (·.2))).IsChain (· ≠ ·)
  /-- Once nothing waits, one is there exactly if somebody wishes so. -/
  last : s.IsSettled → ∀ w, (flags w ((remittances s.log).map (·.2))).getLast? = some true ↔
    ∃ b, Wish.last w b xs = some true

/-! ### The two ways through the router -/

/-- A target on another member that lives where the placement puts it, and the proxy for it. -/
structure Setting (c : Config) (target proxy : ActorRef) : Prop where
  particular : c.localId.isNone = false
  remote : target.system ≠ c.localId
  proxy_eq : (Placement.ofConfig c).place c.localId .watchProxy (ProxyKey.ofTarget target).text =
    .ok proxy
  target_eq : (Placement.ofConfig c).place .none target.actorType target.id = .ok target

section

variable {c : Config} {grace : Nat} {target proxy : ActorRef} {r : Router}

theorem Setting.eq_proxy (hs : Setting c target proxy) :
    ∃ slot, proxy = ⟨c.localId, .watchProxy, (ProxyKey.ofTarget target).text, slot⟩ := by
  obtain ⟨slot, hplace⟩ := (Placement.ofConfig c).exists_place_eq_ok hs.particular .watchProxy
    (ProxyKey.ofTarget target).text
  exact ⟨slot, Except.ok.inj (hs.proxy_eq.symm.trans hplace)⟩

/-- The proxy that starts watches the target. -/
theorem Setting.start_eq (hs : Setting c target proxy) :
    (WatchProxy.new grace).start (α := α) (.ofConfig c) proxy.id =
      ({ WatchProxy.new grace with watchee := some target }, []) := by
  obtain ⟨slot, rfl⟩ := hs.eq_proxy
  refine WatchProxy.start_eq ((WatchProxy.watchee_start _ grace (.ofTarget target)).trans ?_)
  rw [ProxyKey.ofTarget, hs.target_eq]
  rfl

/-- A wish becomes one message to the proxy. -/
theorem Setting.attempts_wish (hs : Setting c target proxy)
    (hr : r.Sound c.localId (.ofConfig c)) {x : Wish} (hx : x.IsPlain) (carrier : Carrier σ α)
    (st : σ) :
    r.attempts carrier st (x.envelope target) = [(.deliver (x.errand proxy), .ok ())] := by
  have hserves := hr.serves hs.particular hs.remote hs.proxy_eq
  obtain ⟨subscriber, w, on⟩ := x
  cases subscriber with
  | actor r => exact hserves.watch carrier st (some r) w on hx
  | queue q => exact hserves.outerWatch carrier st w on q

/-- A watch by the proxy crosses. -/
theorem Setting.attempts_watch (hs : Setting c target proxy)
    (hr : r.Sound c.localId (.ofConfig c)) (w : WatchType) (on : Bool) (carrier : Carrier σ α)
    (st : σ) :
    ∃ result, r.attempts carrier st (.parcel (.watch (some proxy) target w on)) =
      [(.remit target.system (.parcel (.watch (some proxy) target w on)), result)] := by
  obtain ⟨slot, rfl⟩ := hs.eq_proxy
  let proxy : ActorRef := ⟨c.localId, .watchProxy, (ProxyKey.ofTarget target).text, slot⟩
  have hplan : r.plan (α := α) (.parcel (.watch (some proxy) target w on)) =
      .ok (.one (.remit target.system (.parcel (.watch (some proxy) target w on))), r.proxies) := by
    rw [Router.plan, if_pos (.inr rfl), Router.emit, hr.localId_eq, if_neg hs.remote]
  exact ⟨_, (Router.attempts_one hplan carrier st).1⟩

end

/-! ### The invariant -/

@[simp] theorem deliveries_append (log more : List (Attempt α)) :
    deliveries (log ++ more) = deliveries log ++ deliveries more :=
  List.filterMap_append

@[simp] theorem remittances_append (log more : List (Attempt α)) :
    remittances (log ++ more) = remittances log ++ remittances more :=
  List.filterMap_append

@[simp] theorem crossings_append (asked more : List (ActorRef × Action α)) :
    crossings (asked ++ more) = crossings asked ++ crossings more :=
  List.filterMap_append

/-- The envelopes that cross begin and end watches as the proxies asked for. -/
theorem flags_crossings (w : WatchType) (asked : List (ActorRef × Action α)) :
    flags w (crossings asked) = WatchProxy.watchCalls w (asked.map (·.2)) := by
  rw [flags, crossings, List.filterMap_filterMap, WatchProxy.watchCalls, List.filterMap_map]
  refine List.filterMap_congr fun x _ => ?_
  obtain ⟨a, action⟩ := x
  cases action <;> rfl

/-- What is true of a member at any time. -/
structure Kept (c : Config) (grace : Nat) (target proxy : ActorRef) (xs : List Wish) (s : Site α) :
    Prop where
  sound : s.router.Sound c.localId (.ofConfig c)
  delivered : deliveries s.log = xs.map (·.errand proxy)
  attended_le : s.attended ≤ xs.length
  only : ∀ a p, s.proxies.get? a = some p → a = proxy
  asker : ∀ x ∈ s.asked, x.1 = proxy
  /-- The proxy, if it runs or were to start now, and what was asked for agree. -/
  inStep : WatchProxy.InStep target grace (s.proxyAt (.ofConfig c) grace proxy).1 (s.asked.map (·.2))
  listens : ∀ w b, Listens (s.proxyAt (.ofConfig c) grace proxy).1 w b ↔
    Wish.last w b (xs.take s.attended) = some true
  crossed_le : s.crossed ≤ (crossings s.asked).length
  remitted : remittances s.log = ((crossings s.asked).take s.crossed).map (target.system, ·)

section

variable {c : Config} {grace : Nat} {target proxy : ActorRef} {xs : List Wish} {s : Site α}

/-- Nobody listens to a proxy that just started. -/
theorem not_listens_start (w : WatchType) (b : Subscriber) :
    ¬ Listens { WatchProxy.new grace with watchee := some target } w b := by
  cases b <;> exact List.not_mem_nil

/-- Nobody listens to an idle proxy. -/
theorem not_listens_of_isIdle {p : WatchProxy} (ht : p.Tidy) (h : p.isIdle = true) (w : WatchType)
    (b : Subscriber) : ¬ Listens p w b := by
  intro hb
  have harmed := (WatchProxy.isArmed_iff ht).2 ((exists_listens_iff p w).1 ⟨b, hb⟩)
  rw [(WatchProxy.isIdle_iff p).1 h w] at harmed
  cases harmed

/-- In place of an idle proxy a new one may start. -/
theorem inStep_restart {p : WatchProxy} {as : List (Action α)}
    (h : WatchProxy.InStep target grace p as) (hidle : p.isIdle = true) :
    WatchProxy.InStep target grace { WatchProxy.new grace with watchee := some target } as where
  watchee_eq := rfl
  grace_eq := rfl
  tidy := ⟨Subscriptions.tidy_empty, Subscriptions.tidy_empty⟩
  target := h.target
  chain := h.chain
  last w := by
    rw [h.last w, (WatchProxy.isIdle_iff p).1 hidle w]
    rfl
  busy := nofun
  idle _ := h.idle hidle

theorem Site.proxyAt_eq (hs : Setting c target proxy) (s : Site α) :
    s.proxyAt (.ofConfig c) grace proxy =
      ((s.proxies.get? proxy).getD { WatchProxy.new grace with watchee := some target }, []) := by
  rw [Site.proxyAt]
  cases s.proxies.get? proxy with
  | some p => rfl
  | none => exact hs.start_eq

theorem Site.proxyAt_of_get? {placement : Placement} {s : Site α} {a : ActorRef} {p : WatchProxy}
    (h : s.proxies.get? a = some p) : s.proxyAt placement grace a = (p, []) := by
  rw [Site.proxyAt, h]

/-- A message with a wish is handed to the proxy, which starts for it if it has to. -/
theorem Site.attend_errand (hs : Setting c target proxy) (s : Site α) (x : Wish)
    (qs : Queues (Message α)) :
    s.attend (.ofConfig c) grace qs (x.errand proxy) =
      { s with
        attended := s.attended + 1
        proxies := s.proxies.insert proxy
          ((s.proxyAt (.ofConfig c) grace proxy).1.handle qs x.sender x.message).1
        asked := s.asked ++
          ((s.proxyAt (.ofConfig c) grace proxy).1.handle qs x.sender x.message).2.2.map
            (proxy, ·) } := by
  have htype : proxy.actorType = .watchProxy := by
    obtain ⟨slot, rfl⟩ := hs.eq_proxy
    rfl
  rw [Site.proxyAt_eq hs, Wish.errand, Site.attend, if_pos htype, Site.proxyAt_eq hs]
  rfl

theorem Kept.new (hs : Setting c target proxy) {r : Router} (hr : r.Sound c.localId (.ofConfig c)) :
    Kept c grace target proxy [] (Site.new r : Site α) := by
  have hwatchee : ((WatchProxy.new grace).start (α := α) (.ofConfig c) proxy.id).1.watchee =
      some target := by
    rw [hs.start_eq]
  exact {
    sound := hr
    delivered := rfl
    attended_le := Nat.le_refl 0
    only := nofun
    asker := nofun
    inStep := by
      have hstart := WatchProxy.inStep_start hwatchee
      rw [hs.start_eq] at hstart
      rw [Site.proxyAt_eq hs]
      exact hstart
    listens := by
      intro w b
      rw [Site.proxyAt_eq hs]
      exact iff_of_false (not_listens_start w b) nofun
    crossed_le := Nat.le_refl 0
    remitted := rfl }

/-- A wish is delivered to the proxy, and waits there. -/
theorem Kept.wish (hs : Setting c target proxy) (h : Kept c grace target proxy xs s) {x : Wish}
    (hx : x.IsPlain) (carrier : Carrier σ α) (st : σ) :
    Kept c grace target proxy (xs ++ [x]) (s.route carrier st (x.envelope target)) := by
  have hattempts := hs.attempts_wish h.sound hx carrier st
  exact {
    sound := h.sound.route hs.particular carrier st _
    delivered := by
      simp only [Site.route, hattempts, deliveries_append, h.delivered, List.map_append]
      rfl
    attended_le := by
      rw [List.length_append]
      exact Nat.le_add_right_of_le h.attended_le
    only := h.only
    asker := h.asker
    inStep := h.inStep
    listens := by
      -- what the proxy was told of so far lies before the new wish
      have htake : (xs ++ [x]).take s.attended = xs.take s.attended :=
        List.take_append_of_le_length h.attended_le
      intro w b
      rw [Site.route, htake]
      exact h.listens w b
    crossed_le := h.crossed_le
    remitted := by
      simp only [Site.route, hattempts, remittances_append, h.remitted]
      exact List.append_nil _ }

/-- What is delivered next is a wish that the proxy was not told of yet. -/
theorem Kept.next_delivery (h : Kept c grace target proxy xs s) {e : Envelope α}
    (he : (deliveries s.log)[s.attended]? = some e) :
    ∃ x, xs[s.attended]? = some x ∧ e = x.errand proxy := by
  rw [h.delivered, List.getElem?_map, Option.map_eq_some_iff] at he
  obtain ⟨x, hx, rfl⟩ := he
  exact ⟨x, hx, rfl⟩

/-- The proxy is told of a wish. -/
theorem Kept.attend (hs : Setting c target proxy) (h : Kept c grace target proxy xs s)
    {e : Envelope α} (he : (deliveries s.log)[s.attended]? = some e) (qs : Queues (Message α)) :
    Kept c grace target proxy xs (s.attend (.ofConfig c) grace qs e) := by
  obtain ⟨x, hx, rfl⟩ := h.next_delivery he
  have hnext := h.inStep.handle qs x.sender x.message
  have hstep := listens_handle h.inStep.watchee_eq x qs
  rw [Site.attend_errand hs]
  generalize (s.proxyAt (.ofConfig c) grace proxy).1.handle qs x.sender x.message = out
    at hnext hstep ⊢
  obtain ⟨p, qs', actions⟩ := out
  have hget : (s.proxies.insert proxy p).get? proxy = some p := Table.get?_insert_self ..
  exact {
    sound := h.sound
    delivered := h.delivered
    attended_le := (List.getElem?_eq_some_iff.1 hx).1
    only := by
      intro a q hq
      by_contra hne
      rw [Table.get?_insert_of_ne _ _ hne] at hq
      exact hne (h.only a q hq)
    asker := by
      intro y hy
      rcases List.mem_append.1 hy with hy | hy
      · exact h.asker y hy
      · obtain ⟨action, -, rfl⟩ := List.mem_map.1 hy
        rfl
    inStep := by
      have hasked : (s.asked ++ actions.map (proxy, ·)).map (·.2) =
          s.asked.map (·.2) ++ actions := by
        simp [Function.comp_def]
      rw [Site.proxyAt_of_get? hget, hasked]
      exact hnext
    listens := by
      have htake : xs.take (s.attended + 1) = xs.take s.attended ++ [x] := by
        rw [List.take_add_one, hx]
        rfl
      intro w b
      rw [Site.proxyAt_of_get? hget, htake, Wish.last_concat]
      refine (hstep w b).trans ?_
      split
      · rw [Option.some_inj]
      · exact h.listens w b
    crossed_le := by
      rw [crossings_append, List.length_append]
      exact Nat.le_add_right_of_le h.crossed_le
    remitted := by
      rw [crossings_append, List.take_append_of_le_length h.crossed_le]
      exact h.remitted }

/-- All that crosses are watches of the target by the proxy. -/
theorem Kept.mem_crossings (h : Kept c grace target proxy xs s) {e : Envelope α}
    (he : e ∈ crossings s.asked) : ∃ w on, e = .parcel (.watch (some proxy) target w on) := by
  obtain ⟨⟨a, action⟩, hmem, hcrossing⟩ := List.mem_filterMap.1 he
  obtain rfl : a = proxy := h.asker _ hmem
  have haction : action ∈ s.asked.map (·.2) := List.mem_map.2 ⟨_, hmem, rfl⟩
  cases action with
  | watch watched w =>
    cases h.inStep.target (.inl haction)
    exact ⟨w, true, (Option.some.inj hcrossing).symm⟩
  | unwatch watched w =>
    cases h.inStep.target (.inr haction)
    exact ⟨w, false, (Option.some.inj hcrossing).symm⟩
  | _ => cases hcrossing

/-- What the proxy asked for crosses to the member of the target. -/
theorem Kept.cross (hs : Setting c target proxy) (h : Kept c grace target proxy xs s)
    {e : Envelope α} (he : (crossings s.asked)[s.crossed]? = some e) (carrier : Carrier σ α)
    (st : σ) :
    Kept c grace target proxy xs { s.route carrier st e with crossed := s.crossed + 1 } := by
  obtain ⟨w, on, rfl⟩ := h.mem_crossings (List.mem_of_getElem? he)
  obtain ⟨result, hattempts⟩ := hs.attempts_watch h.sound w on carrier st
  exact {
    sound := h.sound.route hs.particular carrier st _
    delivered := by
      simp only [Site.route, hattempts, deliveries_append, h.delivered]
      exact List.append_nil _
    attended_le := h.attended_le
    only := h.only
    asker := h.asker
    inStep := h.inStep
    listens := h.listens
    crossed_le := (List.getElem?_eq_some_iff.1 he).1
    remitted := by
      simp only [Site.route, hattempts, remittances_append, h.remitted]
      rw [List.take_add_one, he, List.map_append]
      rfl }

/-- Nobody but the proxy plans to stop, and nobody listens to it then. -/
theorem Kept.of_stopPlan (h : Kept c grace target proxy xs s) {a : ActorRef} {millis : Nat}
    (ha : s.stopPlan? a = some (some millis)) :
    a = proxy ∧ (s.proxyAt (.ofConfig c) grace proxy).1.isIdle = true := by
  have hmine : s.asked.filter (·.1 = a) ≠ [] := by
    intro hnil
    rw [Site.stopPlan?, hnil] at ha
    cases ha
  obtain ⟨x, hx⟩ := List.exists_mem_of_ne_nil _ hmine
  obtain ⟨hmem, heq⟩ := List.mem_filter.1 hx
  obtain rfl : a = proxy := (of_decide_eq_true heq).symm.trans (h.asker x hmem)
  have hall : s.asked.filter (·.1 = a) = s.asked :=
    List.filter_eq_self.2 fun y hy => decide_eq_true (h.asker y hy)
  rw [Site.stopPlan?, hall] at ha
  refine ⟨rfl, ?_⟩
  -- one that is needed said last that it does not plan to stop
  by_contra hbusy
  rw [h.inStep.busy (Bool.eq_false_iff.2 hbusy)] at ha
  cases ha

/-- A proxy that is taken away was idle, and one that starts in its place agrees with what was asked
for so far. -/
theorem Kept.retire (hs : Setting c target proxy) (h : Kept c grace target proxy xs s)
    {a : ActorRef} {millis : Nat} (ha : s.stopPlan? a = some (some millis)) :
    Kept c grace target proxy xs { s with proxies := s.proxies.erase a } := by
  obtain ⟨rfl, hidle⟩ := h.of_stopPlan ha
  have hafter : Site.proxyAt (.ofConfig c) grace { s with proxies := s.proxies.erase a } a =
      ({ WatchProxy.new grace with watchee := some target }, []) := by
    rw [Site.proxyAt_eq hs, Table.get?_erase, if_pos rfl]
    rfl
  exact {
    sound := h.sound
    delivered := h.delivered
    attended_le := h.attended_le
    only := by
      intro b q hq
      rw [Table.get?_erase] at hq
      split at hq
      · cases hq
      · exact h.only b q hq
    asker := h.asker
    inStep := by
      rw [hafter]
      exact inStep_restart h.inStep hidle
    listens := by
      intro w b
      rw [hafter]
      refine iff_of_false (not_listens_start w b) fun hlast => ?_
      exact not_listens_of_isIdle h.inStep.tidy hidle w b ((h.listens w b).2 hlast)
    crossed_le := h.crossed_le
    remitted := h.remitted }

theorem Run.kept (hs : Setting c target proxy) (h : Run c grace target xs s) :
    Kept c grace target proxy xs s := by
  induction h with
  | start hr => exact .new hs (hr.sound hs.particular)
  | wish _ hx carrier st ih => exact ih.wish hs hx carrier st
  | attend _ he qs ih => exact ih.attend hs he qs
  | cross _ he carrier st ih => exact ih.cross hs he carrier st
  | retire _ ha ih => exact ih.retire hs ha

/-! ### Coming to rest -/

theorem Site.attend_log (placement : Placement) (qs : Queues (Message α)) (s : Site α)
    (e : Envelope α) : (s.attend placement grace qs e).log = s.log := by
  unfold Site.attend
  split
  · split <;> rfl
  · rfl

theorem Site.attend_attended (placement : Placement) (qs : Queues (Message α)) (s : Site α)
    (e : Envelope α) : (s.attend placement grace qs e).attended = s.attended + 1 := by
  unfold Site.attend
  split
  · split <;> rfl
  · rfl

/-- The proxy can be told of all wishes. -/
theorem Run.exists_attended (hs : Setting c target proxy) (h : Run c grace target xs s) :
    ∃ s' : Site α, Run c grace target xs s' ∧ s'.log = s.log ∧ s'.attended = xs.length := by
  induction hn : xs.length - s.attended generalizing s with
  | zero => exact ⟨s, h, rfl, Nat.le_antisymm (h.kept hs).attended_le (Nat.sub_eq_zero_iff_le.1 hn)⟩
  | succ n ih =>
    have hlt : s.attended < xs.length := by omega
    have he : (deliveries s.log)[s.attended]? = some (xs[s.attended].errand proxy) := by
      rw [(h.kept hs).delivered, List.getElem?_map, List.getElem?_eq_getElem hlt]
      rfl
    obtain ⟨s', hrun, hlog, hattended⟩ := ih (h.attend he .empty) (by
      rw [Site.attend_attended]
      omega)
    exact ⟨s', hrun, hlog.trans (Site.attend_log ..), hattended⟩

/-- All that was asked for can cross. -/
theorem Run.exists_crossed (hs : Setting c target proxy) (h : Run c grace target xs s) :
    ∃ s' : Site α, Run c grace target xs s' ∧ s.log <+: s'.log ∧ s'.attended = s.attended ∧
      s'.crossed = (crossings s'.asked).length := by
  induction hn : (crossings s.asked).length - s.crossed generalizing s with
  | zero =>
    exact ⟨s, h, List.prefix_rfl, rfl,
      Nat.le_antisymm (h.kept hs).crossed_le (Nat.sub_eq_zero_iff_le.1 hn)⟩
  | succ n ih =>
    have hlt : s.crossed < (crossings s.asked).length := by omega
    let carrier : Carrier Unit α := ⟨fun _ st => st, fun _ _ st => (.ok (), [], st)⟩
    obtain ⟨s', hrun, hlog, hattended, hcrossed⟩ :=
      ih (h.cross (List.getElem?_eq_getElem hlt) carrier ()) (by
        show (crossings s.asked).length - (s.crossed + 1) = n
        omega)
    exact ⟨s', hrun, (List.prefix_append _ _).trans hlog, hattended, hcrossed⟩

/-- Whatever happened, nothing need wait. -/
theorem Run.exists_settled (hs : Setting c target proxy) (h : Run c grace target xs s) :
    ∃ s' : Site α, Run c grace target xs s' ∧ s.log <+: s'.log ∧ s'.IsSettled := by
  obtain ⟨s₁, h₁, hlog₁, hattended₁⟩ := h.exists_attended hs
  obtain ⟨s₂, h₂, hlog₂, hattended₂, hcrossed⟩ := h₁.exists_crossed hs
  refine ⟨s₂, h₂, hlog₁ ▸ hlog₂, ?_, hcrossed⟩
  rw [hattended₂, hattended₁, (h₂.kept hs).delivered, List.length_map]

/-! ### The result -/

theorem Kept.map_remittances (h : Kept c grace target proxy xs s) :
    (remittances s.log).map (·.2) = (crossings s.asked).take s.crossed := by
  rw [h.remitted, List.map_map]
  exact List.map_id _

theorem Kept.oneWatch (hs : Setting c target proxy) (h : Kept c grace target proxy xs s) :
    OneWatch target xs s proxy where
  delivered := h.delivered
  only := h.only
  listens w b := by
    refine Iff.trans ?_ (h.listens w b)
    rw [Site.proxyAt_eq hs]
    cases s.proxies.get? proxy with
    | some p => simp
    | none => exact iff_of_false (by simp) (not_listens_start w b)
  remitted member e hmem := by
    rw [h.remitted] at hmem
    obtain ⟨e', he', heq⟩ := List.mem_map.1 hmem
    cases heq
    exact ⟨rfl, h.mem_crossings (List.mem_of_mem_take he')⟩
  chain w := by
    -- what crossed so far is the beginning of what was asked for
    obtain ⟨rest, hrest⟩ : flags w ((remittances s.log).map (·.2)) <+:
        WatchProxy.watchCalls w (s.asked.map (·.2)) := by
      rw [h.map_remittances, ← flags_crossings]
      exact (List.take_prefix _ _).filterMap _
    have hchain := h.inStep.chain w
    rw [← hrest, ← List.cons_append] at hchain
    exact (List.isChain_append.1 hchain).1
  last hsettled w := by
    obtain ⟨hattended, hcrossed⟩ := hsettled
    have hall : xs.take s.attended = xs := by
      rw [hattended, h.delivered, List.length_map, List.take_length]
    rw [h.map_remittances, hcrossed, List.take_length, flags_crossings, h.inStep.running_iff,
      WatchProxy.isArmed_iff h.inStep.tidy, ← exists_listens_iff]
    exact exists_congr fun b => (h.listens w b).trans (by rw [hall])

end

/-- However many listen to a target on another member that lives where the placement puts it, and
however they begin and cease to: one proxy listens for them all. -/
theorem oneWatch_of_run {c : Config} (hc : c.validate = .ok ()) {target : ActorRef}
    (hremote : target.system ≠ c.localId)
    (htarget : (Placement.ofConfig c).place .none target.actorType target.id = .ok target)
    (grace : Nat) :
    ∃ proxy : ActorRef, proxy.system = c.localId ∧ proxy.actorType = .watchProxy ∧
      ∀ (xs : List Wish) (s : Site α), Run c grace target xs s → OneWatch target xs s proxy ∧
        ∃ s', Run c grace target xs s' ∧ s.log <+: s'.log ∧ s'.IsSettled := by
  have hid := Config.isNone_localId hc
  obtain ⟨slot, hproxy⟩ := (Placement.ofConfig c).exists_place_eq_ok hid .watchProxy
    (ProxyKey.ofTarget target).text
  have hs : Setting c target ⟨c.localId, .watchProxy, (ProxyKey.ofTarget target).text, slot⟩ :=
    ⟨hid, hremote, hproxy, htarget⟩
  refine ⟨⟨c.localId, .watchProxy, (ProxyKey.ofTarget target).text, slot⟩, rfl, rfl, ?_⟩
  intro xs s hrun
  exact ⟨(hrun.kept hs).oneWatch hs, hrun.exists_settled hs⟩

/-- An actor and a queue listen to the same target, whose id holds a separator; then the actor
ceases to. Once nothing waits the target is still watched. -/
theorem oneWatch_sharedTarget :
    let c := Router.twoHosts
    let target : ActorRef := ⟨⟨2⟩, ⟨120⟩, "room-7", ⟨44973⟩⟩
    let actor : Subscriber := .actor ⟨⟨1⟩, ⟨110⟩, "w", ⟨1⟩⟩
    let xs : List Wish := [⟨actor, ⟨7⟩, true⟩, ⟨.queue ⟨0⟩, ⟨7⟩, true⟩, ⟨actor, ⟨7⟩, false⟩]
    c.validate = .ok () ∧ target.system ≠ c.localId ∧
      (Placement.ofConfig c).place .none target.actorType target.id = .ok target ∧
      ∃ (proxy : ActorRef) (s : Site Nat), Run c 5 target xs s ∧ s.IsSettled ∧
        OneWatch target xs s proxy ∧
        (flags ⟨7⟩ ((remittances s.log).map (·.2))).getLast? = some true := by
  intro c target actor xs
  have hvalid : c.validate = .ok () := rfl
  have hremote : target.system ≠ c.localId := by decide
  have htarget : (Placement.ofConfig c).place .none target.actorType target.id = .ok target := by
    decide +kernel
  obtain ⟨proxy, -, -, hall⟩ := oneWatch_of_run (α := Nat) hvalid hremote htarget 5
  let carrier : Carrier Unit Nat :=
    ⟨fun _ st => st, fun member _ st => (.error (.peerDisconnected member), [], st)⟩
  have hstart : Run c 5 target [] (.new (.new ⟨1⟩ (.ofConfig c)) : Site Nat) := .start .new
  have hrun := ((hstart.wish (x := ⟨actor, ⟨7⟩, true⟩) rfl carrier ()).wish
    (x := ⟨.queue ⟨0⟩, ⟨7⟩, true⟩) rfl carrier ()).wish (x := ⟨actor, ⟨7⟩, false⟩) rfl carrier ()
  obtain ⟨s, hrun', -, hsettled⟩ := (hall xs _ hrun).2
  have hone := (hall xs s hrun').1
  exact ⟨hvalid, hremote, htarget, proxy, s, hrun', hsettled, hone,
    (hone.last hsettled ⟨7⟩).2 ⟨.queue ⟨0⟩, by decide⟩⟩

end ActorMesh.RemoteWatch
