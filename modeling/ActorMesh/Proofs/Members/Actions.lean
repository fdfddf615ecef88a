import ActorMesh.Member
import ActorMesh.Proofs.Frames.Splitting
import ActorMesh.Proofs.Links.Runs

/-!
# What members do

Everything that happens at a member is one of its **actions** (`Member.act`): its owner registers
types, starts it, routes and sends, the network answers to a lifecycle or brings a connection, a
lifecycle goes on, something happens to a connection.

Most actions are **quiet** (`Member.Quiet`): they change no link and no session, and all that they
do to a connection is to queue packages on it, if it is the connection of a link, or its end. The
others are told apart by `Member.act_cases`, and everything that holds of all actions is read off
that.
-/

namespace ActorMesh

/-- The connection that a lifecycle is concerned with. -/
def Lifecycle.State.connection? : Lifecycle.State → Option ConnectionId
  | .registering c | .serving c => some c
  | .due | .dialing | .resting _ => none

/-- Whether a lifecycle is about to dial, or waits for the network. -/
def Lifecycle.State.isDialing : Lifecycle.State → Bool
  | .due | .dialing => true
  | _ => false

namespace Member

variable {α : Type}

/-- What happens at a member. Whatever depends on time is told the time. -/
inductive Action (α : Type) where
  | registerMessage (i : MessageTypeId) (t : MessageType α)
  | registerActor (t : ActorType)
  /-- It is asked to start. -/
  | start (hasListener : Bool) (now : Nat)
  /-- Its start looks whether all members are linked. -/
  | lookAgain (now : Nat)
  /-- A lifecycle that is due begins to dial. -/
  | dialing (i : Nat)
  /-- The network answers to a lifecycle. -/
  | dialed (i now : Nat) (answer : Except LinkError (Option Address))
  | proceed (i now : Nat)
  /-- A lifecycle notices that its connection is gone before it notices the answer. -/
  | overlook (i now : Nat)
  /-- A peer opened a connection. -/
  | accept (peer : Option Address)
  /-- Something happens to a connection. -/
  | event (c : ConnectionId) (e : Connection.Event)
  | close (c : ConnectionId)
  | send (target : SystemId) (e : Envelope α)
  | route (e : Envelope α)

/-- A member after an action. An action that nothing at the member waits for does nothing. -/
def act [Vocabulary α] (m : Member α) : Action α → Member α
  | .registerMessage i t => (m.registerMessage i t).1
  | .registerActor t => (m.registerActor t).toOption.getD m
  | .start hasListener now => (m.start hasListener now).2.2
  | .lookAgain now => m.proceedStartup now
  | .dialing i => if (m.lifecycles[i]?).any (·.state = .due) then m.setLifecycle i .dialing else m
  | .dialed i now answer =>
    if (m.lifecycles[i]?).any (·.state.isDialing) then (m.dialed i now answer).1 else m
  | .proceed i now => (m.proceed i now).1
  | .overlook i now =>
    match m.lifecycles[i]? with
    | some ⟨_, .registering c⟩ => if (m.dialedState? c).any (·.gone) then m.rest i now else m
    | _ => m
  | .accept peer => (m.accept peer).2
  | .event c e => (m.happen c e).1
  | .close c => m.close c
  | .send target e => (m.send target e).toOption.getD m
  | .route e => (m.route e).2.2

end Member

/-! ### What is queued on a connection -/

/-- Whether a command is a package of actor traffic. -/
def Command.IsTraffic (limit : Nat) (x : Command) : Prop :=
  ∃ (kind : ParcelKind) (payload : Octets) (bytes : Octets), x = .frame bytes ∧
    Frame.encode limit ⟨(PackageKind.parcel kind).byte, payload⟩ = .ok bytes

/-- An outlet on which more was queued while it accepted: its end, and packages of actor traffic if
its connection is linked. -/
def Outlet.Fed (linked : Prop) (o o' : Outlet) : Prop :=
  ∃ more, o' = { o with queue := o.queue ++ more } ∧ (more ≠ [] → o.accepting = true) ∧
    ∀ x ∈ more, x = .close ∨ (linked ∧ x.IsTraffic o.limit)

namespace Outlet

variable {linked : Prop} {o o' o'' : Outlet}

theorem Fed.refl (linked : Prop) (o : Outlet) : Fed linked o o :=
  ⟨[], by simp, by simp, by simp⟩

theorem Fed.trans (h : Fed linked o o') (h' : Fed linked o' o'') : Fed linked o o'' := by
  obtain ⟨more, rfl, haccepting, hmore⟩ := h
  obtain ⟨later, rfl, haccepting', hlater⟩ := h'
  refine ⟨more ++ later, by simp, fun hne => ?_, fun x hx => ?_⟩
  · rcases more with _ | ⟨x, more⟩
    · exact haccepting' (by simpa using hne)
    · exact haccepting (List.cons_ne_nil x more)
  · rcases List.mem_append.1 hx with hx | hx
    · exact hmore x hx
    · exact hlater x hx

theorem Fed.mono {linked' : Prop} (h : Fed linked o o') (himp : linked → linked') :
    Fed linked' o o' := by
  obtain ⟨more, ho, haccepting, hmore⟩ := h
  exact ⟨more, ho, haccepting, fun x hx => (hmore x hx).imp_right fun ⟨hl, ht⟩ => ⟨himp hl, ht⟩⟩

theorem fed_close (linked : Prop) (o : Outlet) : Fed linked o o.close := by
  unfold close
  split
  · rename_i haccepting
    exact ⟨[.close], rfl, fun _ => haccepting, by simp⟩
  · exact .refl linked o

theorem fed_send {kind : ParcelKind} {payload : Octets} (hlinked : linked)
    (h : o.send ⟨(PackageKind.parcel kind).byte, payload⟩ = .ok o') : Fed linked o o' := by
  obtain ⟨bytes, hbytes, haccepting, rfl⟩ := send_eq_ok_iff.1 h
  refine ⟨[.frame bytes], rfl, fun _ => haccepting, fun x hx => .inr ⟨hlinked, ?_⟩⟩
  rw [List.mem_singleton.1 hx]
  exact ⟨kind, payload, bytes, rfl, hbytes⟩

end Outlet

/-- A connection on whose outlet more was queued. -/
def LinkEnd.Fed (linked : Prop) (e e' : LinkEnd) : Prop :=
  ∃ o, e.connection.outlet.Fed linked o ∧
    e' = { e with connection := { e.connection with outlet := o } }

namespace LinkEnd

variable {linked : Prop} {e e' e'' : LinkEnd}

theorem Fed.refl (linked : Prop) (e : LinkEnd) : Fed linked e e := ⟨_, .refl linked _, rfl⟩

theorem Fed.trans (h : Fed linked e e') (h' : Fed linked e' e'') : Fed linked e e'' := by
  obtain ⟨o, ho, rfl⟩ := h
  obtain ⟨o', ho', rfl⟩ := h'
  exact ⟨o', ho.trans ho', rfl⟩

end LinkEnd

namespace Member

variable {α : Type} {m m' m'' : Member α}

/-! ### Quiet actions -/

/-- Whether a connection is that of a link. -/
def HasLink (m : Member α) (c : ConnectionId) : Prop := ∃ s, m.linkConnection? s = some c

/-- An action that changes no link, no session and no connection, but for what it queues. -/
structure Quiet (m m' : Member α) : Prop where
  config : m'.config = m.config
  localId : m'.table.localId = m.table.localId
  peers : m'.table.peers = m.table.peers
  sessions : m'.table.sessions = m.table.sessions
  /-- No lifecycle takes up a connection. -/
  lifecycles : ∀ l ∈ m'.lifecycles, l.state.connection? ≠ none → l ∈ m.lifecycles
  length : m'.ends.length = m.ends.length
  fed : ∀ (c : ConnectionId) e, m.ends[c.value]? = some e →
    ∃ e', m'.ends[c.value]? = some e' ∧ e.Fed (m.HasLink c) e'

theorem linkConnection?_congr (peers : m'.table.peers = m.table.peers)
    (sessions : m'.table.sessions = m.table.sessions) (s : SystemId) :
    m'.linkConnection? s = m.linkConnection? s := by
  have hof : m'.connectionOf? = m.connectionOf? := by
    funext l
    cases l <;> simp only [connectionOf?, sessions]
  simp only [linkConnection?, LinkTable.link?, peers, hof]

theorem Quiet.hasLink_iff (h : Quiet m m') (c : ConnectionId) : m'.HasLink c ↔ m.HasLink c := by
  simp only [HasLink, linkConnection?_congr h.peers h.sessions]

/-- What only changes other things is quiet. -/
theorem Quiet.of_ends_eq (config : m'.config = m.config)
    (localId : m'.table.localId = m.table.localId) (peers : m'.table.peers = m.table.peers)
    (sessions : m'.table.sessions = m.table.sessions)
    (lifecycles : ∀ l ∈ m'.lifecycles, l.state.connection? ≠ none → l ∈ m.lifecycles)
    (ends : m'.ends = m.ends) : Quiet m m' := by
  refine ⟨config, localId, peers, sessions, lifecycles, by rw [ends], fun c e he => ?_⟩
  rw [ends]
  exact ⟨e, he, .refl _ e⟩

theorem Quiet.refl (m : Member α) : Quiet m m := .of_ends_eq rfl rfl rfl rfl (fun _ hl _ => hl) rfl

theorem Quiet.trans (h : Quiet m m') (h' : Quiet m' m'') : Quiet m m'' := by
  refine ⟨h'.config.trans h.config, h'.localId.trans h.localId, h'.peers.trans h.peers,
    h'.sessions.trans h.sessions, fun l hl hc => h.lifecycles l (h'.lifecycles l hl hc) hc,
    h'.length.trans h.length, fun c e he => ?_⟩
  obtain ⟨e', he', hfed⟩ := h.fed c e he
  obtain ⟨e'', he'', hfed'⟩ := h'.fed c e' he'
  exact ⟨e'', he'', hfed.trans (propext (h.hasLink_iff c) ▸ hfed')⟩

/-- Only the connection itself gets the outlet. -/
theorem getElem?_ends_setOutlet (m : Member α) (c d : ConnectionId) (o : Outlet) :
    (m.setOutlet c o).ends[d.value]? =
      if d = c then (m.ends[d.value]?).map fun e =>
        { e with connection := { e.connection with outlet := o } }
      else m.ends[d.value]? := by
  obtain ⟨c⟩ := c
  obtain ⟨d⟩ := d
  simp only [setOutlet, List.getElem?_modify, ConnectionId.mk.injEq]
  by_cases h : d = c
  · subst h
    simp
  · simp [h, Ne.symm h]

theorem quiet_setOutlet {c : ConnectionId} {o o' : Outlet} (ho : m.outlet? c = some o)
    (hfed : o.Fed (m.HasLink c) o') : Quiet m (m.setOutlet c o') := by
  refine ⟨rfl, rfl, rfl, rfl, fun _ hl _ => hl, List.length_modify _ _ _, fun d e he => ?_⟩
  rw [getElem?_ends_setOutlet]
  split
  · rename_i hd
    subst hd
    have hout : e.connection.outlet = o := by simpa [outlet?, he] using ho
    rw [he]
    exact ⟨_, rfl, o', hout ▸ hfed, rfl⟩
  · exact ⟨e, he, .refl _ e⟩

theorem quiet_close (m : Member α) (c : ConnectionId) : Quiet m (m.close c) := by
  unfold close
  split
  · rename_i o ho
    exact quiet_setOutlet ho (o.fed_close _)
  · exact .refl m

theorem mem_setLifecycle {m : Member α} {i : Nat} {s : Lifecycle.State} {l : Lifecycle}
    (h : l ∈ (m.setLifecycle i s).lifecycles) :
    l ∈ m.lifecycles ∨ ∃ l₀, m.lifecycles[i]? = some l₀ ∧ l = { l₀ with state := s } := by
  obtain ⟨n, hn⟩ := List.mem_iff_getElem?.1 h
  simp only [setLifecycle, List.getElem?_modify] at hn
  split at hn
  · rename_i hi
    obtain ⟨l₀, hl₀, rfl⟩ := Option.map_eq_some_iff.1 hn
    exact .inr ⟨l₀, by rw [hi, hl₀], rfl⟩
  · simp only [Option.map_eq_map, Option.map_id_fun', id_eq] at hn
    exact .inl (List.mem_of_getElem? hn)

/-- A lifecycle that leaves its connection changes nothing else. -/
theorem quiet_setLifecycle (m : Member α) (i : Nat) {s : Lifecycle.State}
    (hs : s.connection? = none) : Quiet m (m.setLifecycle i s) := by
  refine .of_ends_eq rfl rfl rfl rfl (fun l hl hc => ?_) rfl
  rcases mem_setLifecycle hl with hl | ⟨l₀, -, rfl⟩
  · exact hl
  · exact absurd hs hc

theorem quiet_rest (m : Member α) (i now : Nat) : Quiet m (m.rest i now) := by
  unfold rest
  split <;> exact quiet_setLifecycle m i rfl

/-- An envelope goes out as a package on the connection of a link that accepts it. -/
theorem send_eq_ok_iff [Vocabulary α] {s : SystemId} {e : Envelope α} :
    m.send s e = .ok m' ↔ ∃ p pk c o o', e = .parcel p ∧
      Envelope.toPackage m.core.registry p = .ok pk ∧ m.linkConnection? s = some c ∧
      m.outlet? c = some o ∧ o.send ⟨(PackageKind.parcel pk.kind).byte, pk.write⟩ = .ok o' ∧
      m' = m.setOutlet c o' := by
  constructor
  · intro h
    cases e with
    | outerWatch | outerRequest => cases h
    | parcel p =>
      cases hpk : Envelope.toPackage m.core.registry p with
      | error fault => simp [send, Envelope.encode, hpk, Except.map] at h
      | ok pk =>
        simp only [send, Envelope.encode, hpk, Except.map] at h
        split at h
        · cases h
        · rename_i peer hpeer
          split at h
          · cases h
          · rename_i c hc
            have hlink : m.linkConnection? s = some c := by
              simp [linkConnection?, LinkTable.link?, hpeer, hc]
            split at h
            · cases h
            · rename_i o ho
              split at h
              · rename_i o' hsend
                cases h
                exact ⟨p, pk, c, o, o', rfl, hpk, hlink, ho, hsend, rfl⟩
              · cases h
  · rintro ⟨p, pk, c, o, o', rfl, hpk, hlink, ho, hsend, rfl⟩
    obtain ⟨l, hl, hc⟩ := Option.bind_eq_some_iff.1 hlink
    obtain ⟨peer, hpeer, rfl⟩ := Option.map_eq_some_iff.1 hl
    simp only [send, Envelope.encode, hpk, Except.map, hpeer, hc, ho, hsend]

/-- An envelope is queued on the connection of a link. -/
theorem quiet_send [Vocabulary α] {s : SystemId} {e : Envelope α} (h : m.send s e = .ok m') :
    Quiet m m' := by
  obtain ⟨p, pk, c, o, o', -, -, hc, ho, hsend, rfl⟩ := send_eq_ok_iff.1 h
  exact quiet_setOutlet ho (Outlet.fed_send ⟨s, hc⟩ hsend)

theorem quiet_remit [Vocabulary α] (m : Member α) (s : SystemId) (e : Envelope α) :
    Quiet m (carrier.remit s e m).2.2 := by
  simp only [carrier]
  split
  · rename_i h
    exact quiet_send h
  · exact .refl m

theorem quiet_perform [Vocabulary α] (m : Member α) (e : Emission α) :
    Quiet m (Router.perform carrier m e).2.2 := by
  cases e with
  | deliver e => exact .of_ends_eq rfl rfl rfl rfl (fun _ hl _ => hl) rfl
  | remit s e => exact quiet_remit m s e

theorem quiet_performAll [Vocabulary α] (m : Member α) (result : Except ClusterError Unit)
    (es : List (Emission α)) : Quiet m (Router.performAll carrier m result es).2.2 := by
  induction es generalizing m result with
  | nil => exact .refl m
  | cons e rest ih =>
    have hfirst := quiet_perform m e
    unfold Router.performAll
    split
    · rename_i m' h
      rw [h] at hfirst
      exact hfirst.trans (ih m' _)
    · rename_i m' h
      rw [h] at hfirst
      exact hfirst.trans (ih m' _)

theorem quiet_route [Vocabulary α] (m : Member α) (e : Envelope α) : Quiet m (m.route e).2.2 := by
  have hrouter : ∀ (m' : Member α) r, Quiet m m' → Quiet m { m' with router := r } :=
    fun m' r h => h.trans (.of_ends_eq rfl rfl rfl rfl (fun _ hl _ => hl) rfl)
  simp only [route, Router.route]
  split
  · exact hrouter m _ (.refl m)
  · rename_i plan _ _
    cases plan with
    | one e => exact hrouter _ _ (quiet_perform m e)
    | each es => exact hrouter _ _ (quiet_performAll m _ es)

/-- Lifecycles that begin are about to dial. -/
theorem quiet_beginLifecycles (m : Member α) (ps : List Peer) :
    Quiet m (ps.foldl beginLifecycle m) := by
  induction ps generalizing m with
  | nil => exact .refl m
  | cons p rest ih =>
    have hfirst : Quiet m (m.beginLifecycle p) := by
      refine .of_ends_eq rfl rfl rfl rfl (fun l hl hc => ?_) rfl
      rcases List.mem_append.1 hl with hl | hl
      · exact hl
      · rw [List.mem_singleton.1 hl] at hc
        exact absurd rfl hc
    exact hfirst.trans (ih _)

theorem quiet_start (m : Member α) (hasListener : Bool) (now : Nat) :
    Quiet m (m.start hasListener now).2.2 := by
  have htable : Quiet m (m.withTable (m.table.start hasListener).table) := by
    have hsame : (m.table.start hasListener).table.localId = m.table.localId ∧
        (m.table.start hasListener).table.peers = m.table.peers ∧
        (m.table.start hasListener).table.sessions = m.table.sessions := by
      unfold LinkTable.start
      split
      · exact ⟨rfl, rfl, rfl⟩
      · dsimp only
        split <;> exact ⟨rfl, rfl, rfl⟩
    exact .of_ends_eq rfl hsame.1 hsame.2.1 hsame.2.2 (fun _ hl _ => hl) rfl
  unfold start
  dsimp only
  split
  · exact htable
  · exact (htable.trans (quiet_beginLifecycles _ _)).trans
      (.of_ends_eq rfl rfl rfl rfl (fun _ hl _ => hl) rfl)

/-! ### All actions -/

/-- What dialing comes to when the network brings a connection: the member registers on it, or gives
up at once because its registration does not fit. -/
structure Dials (m : Member α) (i : Nat) (peer : Option Address) (m' : Member α) : Prop where
  config : m'.config = m.config
  core : m'.core = m.core
  ends : ∃ queue : List Command,
    (queue = [.frame (Registration.request m.table.localId).write] ∨ queue = [.close]) ∧
    m'.ends = m.ends ++ [⟨.outbound default,
      ⟨⟨peer, m.config.timings.maxFrameSize, true, queue⟩, .made, []⟩⟩]
  lifecycles : ∀ l ∈ m'.lifecycles, l.state.connection? ≠ none → l ∈ m.lifecycles ∨
    l.state = .registering m.nextConnection ∧ ∃ l₀, m.lifecycles[i]? = some l₀ ∧ l.peer = l₀.peer

/-- What an action may make of a member. -/
inductive Change [Vocabulary α] (m : Member α) : Action α → Member α → Prop
  | quiet {a : Action α} {m' : Member α} (h : Quiet m m') : Change m a m'
  /-- A peer opens a session. -/
  | accept (peer : Option Address) : Change m (.accept peer) (m.accept peer).2
  /-- A lifecycle gets a connection. -/
  | dialed {i now : Nat} {peer : Option Address} {l : Lifecycle} {m' : Member α}
      (before : m.lifecycles[i]? = some l) (idle : l.state.isDialing = true)
      (h : Dials m i peer m') : Change m (.dialed i now (.ok peer)) m'
  /-- A connection on which the registration was accepted becomes the link of the peer. -/
  | install {a : Action α} {i : Nat} {l : Lifecycle} {c : ConnectionId} {t : LinkTable}
      (before : m.lifecycles[i]? = some l) (registering : l.state = .registering c)
      (answer : (m.dialedState? c).bind (·.answer) = some .success)
      (link : m.table.installClient l.peer.id c = some t) :
      Change m a ((m.withTable t).setLifecycle i (.serving c))
  /-- A link whose connection is gone is taken down. -/
  | clear {a : Action α} {i : Nat} {l : Lifecycle} {c : ConnectionId} {m' : Member α}
      (before : m.lifecycles[i]? = some l) (serving : l.state = .serving c)
      (gone : (m.dialedState? c).any (·.gone) = true)
      (h : Quiet (m.withTable (m.table.clearClient l.peer.id c)) m') : Change m a m'
  /-- Something happens to a connection. -/
  | event (c : ConnectionId) (e : Connection.Event) : Change m (.event c e) (m.happen c e).1

/-- The outlet of the newest connection is set. -/
theorem ends_setOutlet_addEnd (m : Member α) (role : Role) (peer : Option Address) (o : Outlet) :
    ((m.addEnd role peer).setOutlet m.nextConnection o).ends =
      m.ends ++ [⟨role, ⟨o, .made, []⟩⟩] := by
  simp [setOutlet, addEnd, nextConnection, List.modify_eq_take_cons_drop, Connection.new]

theorem dials_dialed (m : Member α) (i now : Nat) (peer : Option Address) :
    Dials m i peer (m.dialed i now (.ok peer)).1 := by
  have hends := ends_setOutlet_addEnd m (.outbound default) peer
  have hout : (m.addEnd (.outbound default) peer).outlet? m.nextConnection =
      some (.new peer m.config.timings.maxFrameSize) := by
    simp [outlet?, addEnd, nextConnection, Connection.new]
  cases hsend : (Outlet.new peer m.config.timings.maxFrameSize).send
      (Registration.request m.table.localId) with
  | ok o =>
    obtain ⟨bytes, hbytes, -, rfl⟩ := Outlet.send_eq_ok_iff.1 hsend
    obtain ⟨-, -, rfl⟩ := Frame.encode_eq_ok_iff.1 hbytes
    simp only [dialed, hsend]
    refine ⟨rfl, rfl, ⟨_, .inl rfl, hends _⟩, fun l hl hc => ?_⟩
    rcases mem_setLifecycle hl with hl | ⟨l₀, hl₀, rfl⟩
    · exact .inl hl
    · exact .inr ⟨rfl, l₀, hl₀, rfl⟩
  | error e =>
    simp only [dialed, hsend, close, hout]
    have hrest := quiet_rest ((m.addEnd (.outbound default) peer).setOutlet m.nextConnection
      (Outlet.new peer m.config.timings.maxFrameSize).close) i now
    have hrest_ends : ∀ m' : Member α, (m'.rest i now).ends = m'.ends := fun m' => by
      unfold rest
      split <;> rfl
    have hrest_core : ∀ m' : Member α, (m'.rest i now).core = m'.core := fun m' => by
      unfold rest
      split <;> rfl
    refine ⟨hrest.config, hrest_core _, ⟨_, .inr rfl, ?_⟩, fun l hl hc => .inl ?_⟩
    · rw [hrest_ends, hends]
      rfl
    · exact hrest.lifecycles l hl hc

theorem change_proceed [Vocabulary α] (m : Member α) (i now : Nat) :
    Change m (.proceed i now) (m.proceed i now).1 := by
  unfold proceed
  split
  · exact .quiet (.refl m)
  · rename_i l hl
    split
    · rename_i hready
      obtain ⟨peer, state⟩ := l
      cases state with
      | due | dialing => exact .quiet (.refl m)
      | resting wake => exact .quiet (quiet_setLifecycle m i rfl)
      | serving c => exact .clear hl rfl hready (quiet_rest _ i now)
      | registering c =>
        dsimp only
        split
        · exact .quiet (quiet_rest m i now)
        · rename_i code hcode
          split
          · rename_i hsuccess
            obtain rfl : code = .success := of_decide_eq_true hsuccess
            split
            · rename_i t ht
              exact .install hl rfl hcode ht
            · exact .quiet ((quiet_close m c).trans (quiet_rest _ i now))
          · exact .quiet ((quiet_close m c).trans (quiet_rest _ i now))
    · exact .quiet (.refl m)

/-- What an action makes of a member. -/
theorem change_act [Vocabulary α] (m : Member α) (a : Action α) : Change m a (m.act a) := by
  cases a with
  | registerMessage i t =>
    exact .quiet (.of_ends_eq rfl rfl rfl rfl (fun _ hl _ => hl) rfl)
  | registerActor t =>
    simp only [act, registerActor]
    split <;> exact .quiet (.of_ends_eq rfl rfl rfl rfl (fun _ hl _ => hl) rfl)
  | start hasListener now => exact .quiet (quiet_start m hasListener now)
  | lookAgain now =>
    refine .quiet ?_
    simp only [act, proceedStartup]
    split
    · split <;> exact .of_ends_eq rfl rfl rfl rfl (fun _ hl _ => hl) rfl
    · exact .refl m
  | dialing i =>
    refine .quiet ?_
    simp only [act]
    split
    · exact quiet_setLifecycle m i rfl
    · exact .refl m
  | dialed i now answer =>
    simp only [act]
    split
    · rename_i h
      obtain ⟨l, hl, hidle⟩ := (Option.any_eq_true _ _).1 h
      cases answer with
      | error e => exact .quiet (quiet_setLifecycle m i rfl)
      | ok peer => exact .dialed hl hidle (dials_dialed m i now peer)
    · exact .quiet (.refl m)
  | proceed i now => exact change_proceed m i now
  | overlook i now =>
    refine .quiet ?_
    simp only [act]
    split
    · split
      · exact quiet_rest m i now
      · exact .refl m
    · exact .refl m
  | accept peer => exact .accept peer
  | event c e => exact .event c e
  | close c => exact .quiet (quiet_close m c)
  | send target e =>
    refine .quiet ?_
    simp only [act]
    cases h : m.send target e with
    | error fault => exact .refl m
    | ok m' => exact quiet_send h
  | route e => exact .quiet (quiet_route m e)

end Member

end ActorMesh
