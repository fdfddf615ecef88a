import ActorMesh.Proofs.Links.Accounting
import ActorMesh.Proofs.Members.Connections

/-!
# What actions do to links and lifecycles

To the link table of a member an action is one operation at most, and it moves at most one of its
lifecycles (`Member.Course`). Two kinds of actions touch the links: what happens to an inbound
connection registers its session or ends it, however much was read at once
(`Member.exists_operation_of_happen`), and a lifecycle **calls** for its connection to be installed
or cleared (`Member.call?`). Everything else that is said here is read off that.

Who the peers are, and which of them are dialed, no operation changes (`LinkTable.SamePeers`).
-/

namespace ActorMesh

/-! ### The peers of a table -/

namespace LinkTable

/-- Tables with the same peers, whatever their links. -/
structure SamePeers (t t' : LinkTable) : Prop where
  members : t'.members = t.members
  localIndex : t'.localIndex = t.localIndex
  peer : ∀ s, (t'.peers.get? s).map (fun p => (p.config, p.passive)) =
    (t.peers.get? s).map fun p => (p.config, p.passive)

theorem SamePeers.refl (t : LinkTable) : SamePeers t t := ⟨rfl, rfl, fun _ => rfl⟩

/-- The peers to dial stay the same. -/
theorem SamePeers.configs {t t' : LinkTable} (h : SamePeers t t') :
    t'.passivePeers.map (·.config) = t.passivePeers.map (·.config) := by
  have hconfig : ∀ s, (t'.peers.get? s).map (·.config) = (t.peers.get? s).map (·.config) := by
    intro s
    have hfst := congrArg (Option.map Prod.fst) (h.peer s)
    simpa only [Option.map_map, Function.comp_def] using hfst
  simp only [passivePeers, List.map_filterMap, h.members, h.localIndex, hconfig]

theorem samePeers_setLink (t : LinkTable) (s : SystemId) (l : PeerLink) :
    SamePeers t (t.setLink s l) := by
  refine ⟨rfl, rfl, fun s' => ?_⟩
  simp only [setLink, Table.get?_modify]
  split
  · rename_i h
    subst h
    cases t.peers.get? s' <;> rfl
  · rfl

theorem samePeers_releaseSession (t : LinkTable) (s : SystemId) (k : Ticket) :
    SamePeers t (t.releaseSession s k) := by
  unfold releaseSession
  split
  · have hset := samePeers_setLink t s .disconnected
    exact ⟨hset.members, hset.localIndex, hset.peer⟩
  · exact .refl t

/-- No operation changes who the peers are. -/
theorem samePeers_after (t : LinkTable) (op : Operation) : SamePeers t (t.after op) := by
  have hlink : ∀ {t' : LinkTable} (s : SystemId) (l : PeerLink), t'.members = t.members →
      t'.localIndex = t.localIndex → t'.peers = (t.setLink s l).peers → SamePeers t t' :=
    fun s l hm hi hp => ⟨hm, hi, fun s' => by rw [hp, (samePeers_setLink t s l).peer]⟩
  cases op with
  | start hasListener =>
    simp only [after, LinkTable.start]
    split
    · exact .refl t
    · split <;> exact ⟨rfl, rfl, fun _ => rfl⟩
  | accept c peer => exact ⟨rfl, rfl, fun _ => rfl⟩
  | register k payload =>
    simp only [after]
    rcases table_admission t k payload with hsame | ⟨s, -, hbind⟩
    · rw [hsame]
      exact .refl t
    · obtain ⟨-, -, -, htable⟩ := bindSession_eq_ok_iff.1 hbind
      rw [htable]
      exact hlink s (.session k) rfl rfl rfl
  | disconnect k =>
    simp only [after]
    cases hk : t.sessions.get? k with
    | none =>
      rw [endSession_of_get?_eq_none hk]
      exact .refl t
    | some x =>
      rw [endSession_eq hk]
      cases x.binding with
      | none => exact ⟨rfl, rfl, fun _ => rfl⟩
      | some s =>
        have hrelease := samePeers_releaseSession t s k
        exact ⟨hrelease.members, hrelease.localIndex, hrelease.peer⟩
  | install s c =>
    simp only [after]
    cases h : t.installClient s c with
    | none => exact .refl t
    | some t' =>
      obtain ⟨-, rfl⟩ := installClient_eq_some_iff.1 h
      exact hlink s (.client c) rfl rfl rfl
  | clear s c =>
    simp only [after, clearClient]
    split
    · exact hlink s .disconnected rfl rfl rfl
    · exact .refl t

end LinkTable

/-! ### What happens to a connection -/

section

variable {α : Type} [Vocabulary α]

/-- What a session has done to the links before it is bound: nothing, or it has just been bound. -/
def Role.Wrought (t : LinkTable) (k : Ticket) (s : Core α × Role) : Prop :=
  s.2 = .inbound k ∧ (s.1.table = t ∨ s.1.table.sessions.binding? k ≠ none ∧
    ∃ payload, s.1.table = (Inbound.admission t k payload).2.1)

/-- However many frames arrive on a session, one of them registers it at most. -/
theorem Role.Wrought.frame {t : LinkTable} {k : Ticket} (hk : k.value < t.sessions.made.length)
    {s : Core α × Role} (h : Wrought t k s) (o : Outlet) (f : Frame) :
    Wrought t k (handler.frame s o f).state := by
  obtain ⟨core, r⟩ := s
  obtain ⟨hr, htable⟩ := h
  obtain rfl : r = .inbound k := hr
  refine ⟨rfl, ?_⟩
  rcases htable with htable | ⟨hbound, payload, htable⟩
  · obtain rfl : core.table = t := htable
    rcases Inbound.table_frame k core o f with hsame | hadmission
    · exact .inl hsame
    · rcases LinkTable.table_admission core.table k f.payload with hsame | ⟨s, -, hbind⟩
      · exact .inl (hadmission.trans hsame)
      · refine .inr ⟨?_, f.payload, hadmission⟩
        obtain ⟨-, -, -, htable⟩ := LinkTable.bindSession_eq_ok_iff.1 hbind
        have hafter : (Inbound.frame k core o f).state.table = _ := hadmission.trans htable
        simp only [handler, hafter, Sessions.binding?_bind s hk, if_true]
        exact Option.some_ne_none s
  · have hsame : (Inbound.frame k core o f).state.table = core.table :=
      Inbound.table_frame_of_bound hbound o f
    refine .inr ⟨?_, payload, hsame.trans htable⟩
    simp only [handler, hsame]
    exact hbound

/-- An event leaves the links alone, or it is one operation on the session of its connection. -/
theorem LinkEnd.table_step {core : Core α} {x : LinkEnd} (h : Role.Has core.table x.role)
    (e : Connection.Event) :
    (x.step core e).state.1.table = core.table ∨ ∃ k op, x.role = .inbound k ∧
      ((∃ payload, op = .register k payload) ∨ op = .disconnect k) ∧
      (x.step core e).state.1.table = core.table.after op := by
  by_cases he : ∃ bytes, x.connection.phase = .serving .idle ∧ e = .received bytes
  · obtain ⟨bytes, hphase, rfl⟩ := he
    have hreceive : (x.step core (.received bytes)).state =
        (x.connection.receive Role.handler (core, x.role) bytes).state := by
      simp only [LinkEnd.step, Connection.step, hphase]
    rw [hreceive]
    cases hrole : x.role with
    | outbound d =>
      refine .inl ?_
      refine (Connection.receive_keeps (P := fun s : Core α × Role =>
        s.1.table = core.table ∧ ∃ d, s.2 = .outbound d) ?_ ⟨rfl, d, rfl⟩ _ _).1
      rintro ⟨core', r⟩ o f ⟨htable, d, hr⟩
      obtain rfl : r = .outbound d := hr
      exact ⟨(Outbound.table_frame core' d o f).trans htable, _, rfl⟩
    | inbound k =>
      obtain ⟨c, hc⟩ := h k (by rw [hrole]; rfl)
      have hk := LinkTable.lt_of_connection? hc
      obtain ⟨-, hsame | ⟨-, payload, hadmission⟩⟩ :=
        Connection.receive_keeps (P := Role.Wrought core.table k)
          (fun s o f hs => hs.frame hk o f) (s := (core, .inbound k)) ⟨rfl, .inl rfl⟩ x.connection
          bytes
      · exact .inl hsame
      · exact .inr ⟨k, .register k payload, rfl, .inl ⟨payload, rfl⟩, hadmission⟩
  · have he' := fun bytes hbytes => he ⟨bytes, hbytes⟩
    rcases Connection.step_state_calm (h := Role.handler) (fun _ _ => rfl) (core, x.role) he' with
      hstate | ⟨hstate, -⟩
    · rw [LinkEnd.step, hstate]
      exact .inl rfl
    · rw [LinkEnd.step, hstate]
      cases hrole : x.role with
      | outbound d => exact .inl rfl
      | inbound k => exact .inr ⟨k, .disconnect k, rfl, .inr rfl, rfl⟩

end

namespace Member

variable {α : Type} [Vocabulary α] {m m' : Member α}

/-- An event leaves the links alone, or it is one operation on the session of its connection. -/
theorem exists_operation_of_happen (h : m.Sound) (c : ConnectionId) (e : Connection.Event) :
    (m.happen c e).1.table = m.table ∨ ∃ x k op, m.ends[c.value]? = some x ∧
      x.role = .inbound k ∧ ((∃ payload, op = .register k payload) ∨ op = .disconnect k) ∧
      (m.happen c e).1.table = m.table.after op := by
  cases hx : m.ends[c.value]? with
  | none =>
    rw [happen_of_none hx]
    exact .inl rfl
  | some x =>
    rw [table, core_happen hx]
    rcases LinkEnd.table_step (fun k hk => ⟨c, h.session c x k hx hk⟩) e with
      hsame | ⟨k, op, hrole, hop, htable⟩
    · exact .inl hsame
    · exact .inr ⟨x, k, op, rfl, hrole, hop, htable⟩

/-! ### Calls of lifecycles -/

end Member

/-- What a lifecycle does that the links of its member depend on. -/
inductive Lifecycle.Call
  /-- It got a connection, and an attempt begins. -/
  | dial (c : ConnectionId)
  /-- It calls for the connection to be installed as the link, which succeeds or does not. -/
  | install (c : ConnectionId) (done : Bool)
  /-- It calls for the link to be cleared, which succeeds if it is the connection. -/
  | clear (c : ConnectionId) (done : Bool)
  deriving DecidableEq, Repr

namespace Member

variable {α : Type}

/-- The call of a lifecycle, with its number, in an action. -/
def call? (m : Member α) : Action α → Option (Nat × Lifecycle.Call)
  | .dialed i _ (.ok _) =>
    if (m.lifecycles[i]?).any (·.state.isDialing) then some (i, .dial m.nextConnection) else none
  | .proceed i _ =>
    match m.lifecycles[i]? with
    | some ⟨peer, .registering c⟩ =>
      if (m.dialedState? c).bind (·.answer) = some .success then
        some (i, .install c (m.table.installClient peer.id c).isSome)
      else none
    | some ⟨peer, .serving c⟩ =>
      if (m.dialedState? c).any (·.gone) then
        some (i, .clear c (decide (m.table.link? peer.id = some (.client c))))
      else none
    | _ => none
  | _ => none

/-- Whether an action may come to an operation on the links that is not called for by a lifecycle:
a peer opens a session, registers on it or is gone. -/
inductive Admitting (m : Member α) : Action α → LinkTable.Operation → Prop
  | accept (peer : Option Address) :
    Admitting m (.accept peer) (.accept m.nextConnection peer)
  | register {c : ConnectionId} {x : LinkEnd} {k : Ticket} (e : Connection.Event)
    (payload : Octets) (hx : m.ends[c.value]? = some x) (hrole : x.role = .inbound k) :
    Admitting m (.event c e) (.register k payload)
  | disconnect {c : ConnectionId} {x : LinkEnd} {k : Ticket} (e : Connection.Event)
    (hx : m.ends[c.value]? = some x) (hrole : x.role = .inbound k) :
    Admitting m (.event c e) (.disconnect k)

/-- What an action makes of links and lifecycles, and which call there was. -/
inductive Course (m : Member α) :
    Action α → Member α → Option (Nat × Lifecycle.Call) → Prop
  /-- It is about something else. -/
  | aside {a : Action α} {m' : Member α} (table : m'.table = m.table)
      (lifecycles : m'.lifecycles = m.lifecycles) : Course m a m' none
  /-- The member is asked to start: lifecycles begin if it has not been asked before. -/
  | start {hasListener : Bool} {now : Nat} {m' : Member α} {begun : List Lifecycle}
      (table : m'.table = m.table.after (.start hasListener))
      (lifecycles : m'.lifecycles = m.lifecycles ++ begun)
      (once : begun = [] ∨ m.table.started = false ∧
        begun = m.table.passivePeers.map fun p => ⟨p.config, .due⟩) :
      Course m (.start hasListener now) m' none
  | inbound {a : Action α} {m' : Member α} {op : LinkTable.Operation} (admitting : m.Admitting a op)
      (table : m'.table = m.table.after op) (lifecycles : m'.lifecycles = m.lifecycles) :
      Course m a m' none
  /-- A lifecycle without a link goes where it has no connection. -/
  | roams {a : Action α} {m' : Member α} {i : Nat} {l : Lifecycle} {s : Lifecycle.State}
      (before : m.lifecycles[i]? = some l) (down : ∀ c, l.state ≠ .serving c)
      (away : s.connection? = none) (table : m'.table = m.table)
      (lifecycles : m'.lifecycles = (m.setLifecycle i s).lifecycles) : Course m a m' none
  /-- A lifecycle gets a connection, and registers on it unless its registration does not fit. -/
  | dialed {i now : Nat} {peer : Option Address} {m' : Member α} {l : Lifecycle}
      {s : Lifecycle.State} (before : m.lifecycles[i]? = some l) (idle : l.state.isDialing = true)
      (next : s = .registering m.nextConnection ∨ s.connection? = none)
      (table : m'.table = m.table) (lifecycles : m'.lifecycles = (m.setLifecycle i s).lifecycles) :
      Course m (.dialed i now (.ok peer)) m' (some (i, .dial m.nextConnection))
  | installed {i now : Nat} {m' : Member α} {l : Lifecycle} {c : ConnectionId}
      (before : m.lifecycles[i]? = some l) (registering : l.state = .registering c)
      (answer : (m.dialedState? c).bind (·.answer) = some .success)
      (link : m.table.installClient l.peer.id c = some m'.table)
      (lifecycles : m'.lifecycles = (m.setLifecycle i (.serving c)).lifecycles) :
      Course m (.proceed i now) m' (some (i, .install c true))
  | refused {i now : Nat} {m' : Member α} {l : Lifecycle} {c : ConnectionId}
      {s : Lifecycle.State} (before : m.lifecycles[i]? = some l)
      (registering : l.state = .registering c)
      (link : m.table.installClient l.peer.id c = none) (away : s.connection? = none)
      (table : m'.table = m.table) (lifecycles : m'.lifecycles = (m.setLifecycle i s).lifecycles) :
      Course m (.proceed i now) m' (some (i, .install c false))
  | cleared {i now : Nat} {m' : Member α} {l : Lifecycle} {c : ConnectionId}
      {s : Lifecycle.State} (before : m.lifecycles[i]? = some l) (serving : l.state = .serving c)
      (away : s.connection? = none) (table : m'.table = m.table.clearClient l.peer.id c)
      (lifecycles : m'.lifecycles = (m.setLifecycle i s).lifecycles) :
      Course m (.proceed i now) m'
        (some (i, .clear c (decide (m.table.link? l.peer.id = some (.client c)))))

/-! ### Actions that are about something else -/

theorem table_close (m : Member α) (c : ConnectionId) :
    (m.close c).table = m.table ∧ (m.close c).lifecycles = m.lifecycles := by
  unfold close
  split <;> exact ⟨rfl, rfl⟩

theorem exists_rest (m : Member α) (i now : Nat) :
    ∃ s : Lifecycle.State, s.connection? = none ∧ m.rest i now = m.setLifecycle i s := by
  unfold rest
  split
  · exact ⟨.due, rfl, rfl⟩
  · exact ⟨.resting _, rfl, rfl⟩

/-- Giving up an attempt is about its lifecycle only. -/
theorem exists_giveUp (m : Member α) (i now : Nat) (c : ConnectionId) (e : ClusterError) :
    ∃ s : Lifecycle.State, s.connection? = none ∧ (m.giveUp i now c e).1.table = m.table ∧
      (m.giveUp i now c e).1.lifecycles = (m.setLifecycle i s).lifecycles := by
  obtain ⟨htable, hlifecycles⟩ := table_close m c
  obtain ⟨s, hs, hrest⟩ := exists_rest (m.close c) i now
  refine ⟨s, hs, ?_, ?_⟩
  · simp only [giveUp, hrest]
    exact htable
  · simp only [giveUp, hrest, setLifecycle, hlifecycles]

variable [Vocabulary α] {m m' : Member α}

theorem table_send {s : SystemId} {e : Envelope α} (h : m.send s e = .ok m') :
    m'.table = m.table ∧ m'.lifecycles = m.lifecycles := by
  obtain ⟨p, pk, c, o, o', -, -, -, -, -, rfl⟩ := send_eq_ok_iff.1 h
  exact ⟨rfl, rfl⟩

theorem table_perform (m : Member α) (em : Emission α) :
    (Router.perform carrier m em).2.2.table = m.table ∧
      (Router.perform carrier m em).2.2.lifecycles = m.lifecycles := by
  cases em with
  | deliver e => exact ⟨rfl, rfl⟩
  | remit s e =>
    simp only [Router.perform, carrier]
    split
    · rename_i hsend
      exact table_send hsend
    · exact ⟨rfl, rfl⟩

theorem table_performAll (m : Member α) (result : Except ClusterError Unit)
    (es : List (Emission α)) :
    (Router.performAll carrier m result es).2.2.table = m.table ∧
      (Router.performAll carrier m result es).2.2.lifecycles = m.lifecycles := by
  induction es generalizing m result with
  | nil => exact ⟨rfl, rfl⟩
  | cons em rest ih =>
    obtain ⟨htable, hlifecycles⟩ := table_perform m em
    unfold Router.performAll
    split
    all_goals
      rename_i h
      rw [h] at htable hlifecycles
      obtain ⟨htable', hlifecycles'⟩ := ih _ _
      exact ⟨htable'.trans htable, hlifecycles'.trans hlifecycles⟩

theorem lifecycles_happen (m : Member α) (c : ConnectionId) (e : Connection.Event) :
    (m.happen c e).1.lifecycles = m.lifecycles := by
  unfold happen
  split <;> rfl

/-- Routing is not about links. -/
theorem table_route (m : Member α) (e : Envelope α) :
    (m.route e).2.2.table = m.table ∧ (m.route e).2.2.lifecycles = m.lifecycles := by
  simp only [route, Router.route]
  split
  · exact ⟨rfl, rfl⟩
  · rename_i plan _ _
    cases plan with
    | one em => exact table_perform m em
    | each es => exact table_performAll m _ es

/-! ### All actions -/

omit [Vocabulary α] in
theorem lifecycles_beginLifecycles (m : Member α) (ps : List Peer) :
    (ps.foldl beginLifecycle m).table = m.table ∧ (ps.foldl beginLifecycle m).lifecycles =
      m.lifecycles ++ ps.map fun p => ⟨p.config, .due⟩ := by
  induction ps generalizing m with
  | nil => exact ⟨rfl, (List.append_nil _).symm⟩
  | cons p rest ih =>
    obtain ⟨htable, hlifecycles⟩ := ih (m.beginLifecycle p)
    refine ⟨htable, hlifecycles.trans ?_⟩
    simp [beginLifecycle]

omit [Vocabulary α] in
theorem course_start (m : Member α) (hasListener : Bool) (now : Nat) :
    Course m (.start hasListener now) (m.start hasListener now).2.2 none := by
  unfold start
  dsimp only
  split
  · exact .start rfl (List.append_nil _).symm (.inl rfl)
  · rename_i hok
    obtain ⟨htable, hlifecycles⟩ := lifecycles_beginLifecycles
      (m.withTable (m.table.start hasListener).table) (m.table.start hasListener).table.passivePeers
    have hfresh : m.table.started = false := by
      rw [← Bool.not_eq_true]
      intro hstarted
      simp only [LinkTable.start, hstarted, if_true] at hok
      cases hok
    have hpeers : (m.table.start hasListener).table.passivePeers = m.table.passivePeers := by
      simp only [LinkTable.start, hfresh, Bool.false_eq_true, if_false]
      split <;> rfl
    refine .start htable hlifecycles (.inr ⟨hfresh, ?_⟩)
    rw [hpeers]

omit [Vocabulary α] in
theorem course_dialed (m : Member α) {i : Nat} {l : Lifecycle} (now : Nat) (peer : Option Address)
    (before : m.lifecycles[i]? = some l) (idle : l.state.isDialing = true) :
    Course m (.dialed i now (.ok peer)) (m.dialed i now (.ok peer)).1
      (some (i, .dial m.nextConnection)) := by
  cases hsend : (Outlet.new peer m.config.timings.maxFrameSize).send
      (Registration.request m.table.localId) with
  | ok o =>
    simp only [dialed, hsend]
    exact .dialed before idle (.inl rfl) rfl rfl
  | error e =>
    simp only [dialed, hsend]
    obtain ⟨s, hs, hrest⟩ :=
      exists_rest ((m.addEnd (.outbound default) peer).close m.nextConnection) i now
    obtain ⟨htable, hlifecycles⟩ :=
      table_close (m.addEnd (.outbound default) peer) m.nextConnection
    rw [hrest]
    refine .dialed before idle (.inr hs) htable ?_
    show List.modify _ i _ = List.modify _ i _
    rw [hlifecycles]
    rfl

omit [Vocabulary α] in
theorem course_proceed (m : Member α) (i now : Nat) :
    Course m (.proceed i now) (m.proceed i now).1 (m.call? (.proceed i now)) := by
  unfold proceed
  cases hl : m.lifecycles[i]? with
  | none =>
    simp only [call?, hl]
    exact .aside rfl rfl
  | some l =>
    obtain ⟨peer, state⟩ := l
    cases state with
    | due | dialing =>
      simp only [call?, hl, ite_self]
      exact .aside rfl rfl
    | resting wake =>
      simp only [call?, hl]
      split
      · exact .roams hl (fun c => by simp) rfl rfl rfl
      · exact .aside rfl rfl
    | serving c =>
      have hready : m.isReady now (.serving c) = (m.dialedState? c).any (·.gone) := rfl
      cases hgone : (m.dialedState? c).any (·.gone) with
      | true =>
        obtain ⟨s, hs, hrest⟩ := exists_rest (m.withTable (m.table.clearClient peer.id c)) i now
        simp only [call?, hl, hready, hgone, if_true, hrest]
        exact .cleared hl rfl hs rfl rfl
      | false =>
        simp only [call?, hl, hready, hgone, Bool.false_eq_true, if_false]
        exact .aside rfl rfl
    | registering c =>
      have hdrop : Course m (.proceed i now) (m.rest i now) none := by
        obtain ⟨s, hs, hrest⟩ := exists_rest m i now
        rw [hrest]
        exact .roams hl (fun c => by simp) hs rfl rfl
      simp only [call?, hl, isReady]
      cases hanswer : (m.dialedState? c).bind (·.answer) with
      | none =>
        simp only [reduceCtorEq, if_false]
        split
        · exact hdrop
        · exact .aside rfl rfl
      | some code =>
        have hready : (m.dialedState? c).any (fun d => d.answer.isSome || d.gone) = true := by
          obtain ⟨d, hd, hcode⟩ := Option.bind_eq_some_iff.1 hanswer
          simp [hd, hcode]
        simp only [hready, if_true, Option.some.injEq, ErrorCode.isSuccess, decide_eq_true_eq]
        by_cases hsuccess : code = .success
        · rw [if_pos hsuccess, if_pos hsuccess]
          cases hinstall : m.table.installClient peer.id c with
          | some t =>
            exact .installed hl rfl (by rw [hanswer, hsuccess]) hinstall rfl
          | none =>
            obtain ⟨s, hs, htable, hlifecycles⟩ :=
              exists_giveUp m i now c (.protocol (.alreadyLinked peer.id))
            exact .refused hl rfl hinstall hs htable hlifecycles
        · rw [if_neg hsuccess, if_neg hsuccess]
          obtain ⟨s, hs, htable, hlifecycles⟩ := exists_giveUp m i now c (.rejected code)
          exact .roams hl (fun c => by simp) hs htable hlifecycles

/-- What an action makes of links and lifecycles. -/
theorem course_act (h : m.Sound) (a : Action α) : Course m a (m.act a) (m.call? a) := by
  cases a with
  | registerMessage i t => exact .aside rfl rfl
  | registerActor t =>
    simp only [act, registerActor]
    split <;> exact .aside rfl rfl
  | start hasListener now => exact course_start m hasListener now
  | lookAgain now =>
    simp only [act, proceedStartup]
    split
    · split <;> exact .aside rfl rfl
    · exact .aside rfl rfl
  | dialing i =>
    simp only [act]
    split
    · rename_i hdue
      obtain ⟨l, hl, hdue⟩ := (Option.any_eq_true _ _).1 hdue
      refine .roams hl (fun c hc => ?_) rfl rfl rfl
      simp [hc] at hdue
    · exact .aside rfl rfl
  | dialed i now answer =>
    simp only [act]
    by_cases hidle : (m.lifecycles[i]?).any (·.state.isDialing) = true
    · rw [if_pos hidle]
      obtain ⟨l, hl, hl'⟩ := (Option.any_eq_true _ _).1 hidle
      cases answer with
      | error e =>
        refine .roams hl (fun c hc => ?_) rfl rfl rfl
        rw [hc] at hl'
        cases hl'
      | ok peer =>
        simp only [call?, if_pos hidle]
        exact course_dialed m now peer hl hl'
    · rw [if_neg hidle]
      cases answer with
      | error e => exact .aside rfl rfl
      | ok peer =>
        simp only [call?, if_neg hidle]
        exact .aside rfl rfl
  | proceed i now => exact course_proceed m i now
  | overlook i now =>
    simp only [act]
    split
    · rename_i peer c hl
      split
      · obtain ⟨s, hs, hrest⟩ := exists_rest m i now
        rw [hrest]
        exact .roams hl (fun c => by simp) hs rfl rfl
      · exact .aside rfl rfl
    · exact .aside rfl rfl
  | accept peer => exact .inbound (.accept peer) rfl rfl
  | event c e =>
    have hlifecycles := m.lifecycles_happen c e
    rcases exists_operation_of_happen h c e with
      hsame | ⟨x, k, op, hx, hrole, ⟨payload, rfl⟩ | rfl, htable⟩
    · exact .aside hsame hlifecycles
    · exact .inbound (.register e payload hx hrole) htable hlifecycles
    · exact .inbound (.disconnect e hx hrole) htable hlifecycles
  | close c =>
    obtain ⟨htable, hlifecycles⟩ := table_close m c
    exact .aside htable hlifecycles
  | send target e =>
    simp only [act]
    cases hsend : m.send target e with
    | error fault => exact .aside rfl rfl
    | ok m' =>
      obtain ⟨htable, hlifecycles⟩ := table_send hsend
      exact .aside htable hlifecycles
  | route e =>
    obtain ⟨htable, hlifecycles⟩ := table_route m e
    exact .aside htable hlifecycles

end Member

end ActorMesh
