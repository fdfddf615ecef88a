import ActorMesh.Proofs.Links.Numbering
import ActorMesh.Proofs.Members.Lifecycles

/-!
# Peers do not get in each other's way

A peer may send anything on its connection, and may claim to be anybody. All that this changes at a
member is the link that the connection has or gets, which is one at most (`Member.Isolated`). What
the other peers have stays as it is: their links, the sessions that hold them, what is queued for
them, and the sessions that are nobody's link yet.

A session is found under its number, and numbers start over when all were used. So that the end of
one session does not remove another one from the table is said for as many sessions as there are
numbers (`Sessions.Numbered.eq_of_id_eq`).
-/

namespace ActorMesh

namespace Member

variable {α : Type} {m m' : Member α} {c : ConnectionId}

/-! ### What is about a connection -/

/-- Whether an action is about a connection: something happens to it, or the lifecycle that has it
goes on. -/
def Concerns (m : Member α) (c : ConnectionId) : Action α → Prop
  | .event d _ => d = c
  | .proceed i _ | .overlook i _ =>
    ∃ l, m.lifecycles[i]? = some l ∧ l.state.connection? = some c
  | _ => False

/-- Whether a connection is or becomes the link to a peer. -/
def Holds (c : ConnectionId) (m m' : Member α) (s : SystemId) : Prop :=
  m.linkConnection? s = some c ∨ m'.linkConnection? s = some c

/-- What only a connection has changed: nothing but the link that it has or gets. -/
structure Isolated (c : ConnectionId) (m m' : Member α) : Prop where
  /-- There is one such link at most. -/
  one : ∀ s s', Holds c m m' s → Holds c m m' s' → s = s'
  /-- The other peers keep their links. -/
  link : ∀ s, ¬ Holds c m m' s → m'.table.link? s = m.table.link? s ∧
    m'.linkConnection? s = m.linkConnection? s
  /-- The sessions that hold these links stay bound. -/
  binding : ∀ s, ¬ Holds c m m' s → ∀ k, m.table.link? s = some (.session k) →
    m'.table.sessions.binding? k = m.table.sessions.binding? k
  /-- What is queued on other connections stays, as does all that is known of them. -/
  ends : ∀ d, d ≠ c → m'.ends[d.value]? = m.ends[d.value]?
  /-- The sessions of other connections are found and bound as before. -/
  session : ∀ k, m.table.connection? k ≠ some c →
    m'.table.sessions.binding? k = m.table.sessions.binding? k ∧
    (m.table.sessions.made.length ≤ UInt32.size → ∀ n, m.table.sessions.find? n = some k →
      m'.table.sessions.find? n = some k)
  /-- The count changes as that one link does, and if there is none it stays. -/
  connected : ∀ s, Holds c m m' s →
    m'.table.connected + (if m.table.isUp s then 1 else 0) =
      m.table.connected + if m'.table.isUp s then 1 else 0
  unconnected : (∀ s, ¬ Holds c m m' s) → m'.table.connected = m.table.connected

/-- What a connection may have to do with the links that change. -/
structure Wields (c : ConnectionId) (m m' : Member α) : Prop where
  effect : LinkTable.Effect m.table m'.table
  started : m'.table.started = m.table.started
  connection : ∀ k, m'.table.connection? k = m.table.connection? k
  /-- It is the link that comes up, or the one that goes down. -/
  up : ∀ s l, m.table.link? s = some .disconnected → l ≠ .disconnected →
    m'.table.link? s = some l → m'.connectionOf? l = some c
  down : ∀ s l, m.table.link? s = some l → l ≠ .disconnected →
    m'.table.link? s = some .disconnected → m.connectionOf? l = some c
  ends : ∀ d, d ≠ c → m'.ends[d.value]? = m.ends[d.value]?
  binding : ∀ k, m.table.connection? k ≠ some c →
    m'.table.sessions.binding? k = m.table.sessions.binding? k
  found : m.table.sessions.made.length ≤ UInt32.size → ∀ k n, m.table.connection? k ≠ some c →
    m.table.sessions.find? n = some k → m'.table.sessions.find? n = some k

/-- A connection is the link to one peer at most. -/
theorem Tended.eq_of_linkConnection? (h : m.Tended) {s s' : SystemId}
    (hs : m.linkConnection? s = some c) (hs' : m.linkConnection? s' = some c) : s = s' := by
  -- a connection is dialed or has a session, and not both
  have hone : ∀ {s : SystemId} {k : Ticket}, m.table.link? s = some (.client c) →
      m.table.connection? k = some c → False := fun {s k} hclient hk => by
    obtain ⟨x, hx, hanswer⟩ := h.sound.client s c hclient
    obtain ⟨y, hy, hsession⟩ := h.sound.inbound k c hk
    cases hx.symm.trans hy
    rw [Role.eq_inbound_of_session? hsession] at hanswer
    cases hanswer
  rcases linkConnection?_eq_some_iff.1 hs with hs | ⟨k, hs, hk⟩
  · rcases linkConnection?_eq_some_iff.1 hs' with hs' | ⟨k', hs', hk'⟩
    · obtain ⟨l, hl, rfl⟩ := h.tended s c hs
      obtain ⟨l', hl', rfl⟩ := h.tended s' c hs'
      obtain ⟨i, hi⟩ := List.mem_iff_getElem?.1 hl
      obtain ⟨j, hj⟩ := List.mem_iff_getElem?.1 hl'
      have hserving := (h.served i l hi c).1 hs
      have hserving' := (h.served j l' hj c).1 hs'
      obtain rfl := h.apart i j l l' c hi hj (by rw [hserving]; rfl) (by rw [hserving']; rfl)
      cases hi.symm.trans hj
      rfl
    · exact (hone hs hk').elim
  · rcases linkConnection?_eq_some_iff.1 hs' with hs' | ⟨k', hs', hk'⟩
    · exact (hone hs' hk).elim
    · obtain ⟨x, hx, hsession⟩ := h.sound.inbound k c hk
      obtain ⟨y, hy, hsession'⟩ := h.sound.inbound k' c hk'
      cases hx.symm.trans hy
      cases hsession.symm.trans hsession'
      have hbound := (h.sound.paired s k).1 hs
      rw [(h.sound.paired s' k).1 hs'] at hbound
      exact (Option.some.inj hbound).symm

/-- Where a link stays, so does its connection. -/
theorem Wields.linkConnection?_eq (h : Wields c m m') {s : SystemId}
    (hlink : m'.table.link? s = m.table.link? s) : m'.linkConnection? s = m.linkConnection? s := by
  unfold linkConnection?
  rw [hlink]
  cases m.table.link? s with
  | none => rfl
  | some l =>
    cases l with
    | disconnected | client d => rfl
    | session k => exact h.connection k

theorem Wields.not_started (h : Wields c m m') (before : m.table.started = false) :
    m'.table.started ≠ true := by
  rw [h.started, before]
  exact Bool.false_ne_true

/-- A link that comes up is that of the connection. -/
theorem Wields.holds_of_up (h : Wields c m m') {s : SystemId} {l : PeerLink}
    (isUp : l ≠ .disconnected) (before : m.table.link? s = some .disconnected)
    (after : m'.table.link? s = some l) : Holds c m m' s := by
  right
  rw [linkConnection?, after]
  exact h.up s l before isUp after

/-- A link that goes down was that of the connection. -/
theorem Wields.holds_of_down (h : Wields c m m') {s : SystemId} {l : PeerLink}
    (isUp : l ≠ .disconnected) (before : m.table.link? s = some l)
    (after : m'.table.link? s = some .disconnected) : Holds c m m' s := by
  left
  rw [linkConnection?, before]
  exact h.down s l before isUp after

/-- A link that the connection does not have stays. -/
theorem Wields.link?_eq (h : Wields c m m') {s : SystemId} (hs : ¬ Holds c m m' s) :
    m'.table.link? s = m.table.link? s := by
  cases h.effect with
  | none link => exact link s
  | start link => exact link s
  | up s₀ l _ _ _ isUp before _ link =>
    rw [link]
    split
    · rename_i heq
      subst heq
      exact absurd (h.holds_of_up isUp before (by rw [link, if_pos rfl])) hs
    · rfl
  | down s₀ l isUp before link =>
    rw [link]
    split
    · rename_i heq
      subst heq
      exact absurd (h.holds_of_down isUp before (by rw [link, if_pos rfl])) hs
    · rfl

/-- A connection is not the link to one peer before and to another one after. -/
theorem Wields.eq_of_linkConnection? (h : Wields c m m') (hm : m.Tended) (hm' : m'.Tended)
    {s s' : SystemId} (hs : m.linkConnection? s = some c) (hs' : m'.linkConnection? s' = some c) :
    s = s' := by
  by_cases hlink : m'.table.link? s' = m.table.link? s'
  · rw [h.linkConnection?_eq hlink] at hs'
    exact hm.eq_of_linkConnection? hs hs'
  · -- only one link changes, so if it is that of the second peer the first one keeps its own
    refine Classical.byContradiction fun hne => hne ?_
    have hkept : m'.table.link? s = m.table.link? s := by
      cases h.effect with
      | none link => exact link s
      | start link => exact link s
      | up s₀ l _ _ _ _ _ _ link =>
        have hs₀ : s' = s₀ := Classical.byContradiction fun hs₀ => hlink (by
          rw [link, if_neg hs₀])
        rw [link, if_neg fun heq => hne (heq.trans hs₀.symm)]
      | down s₀ l _ _ link =>
        have hs₀ : s' = s₀ := Classical.byContradiction fun hs₀ => hlink (by
          rw [link, if_neg hs₀])
        rw [link, if_neg fun heq => hne (heq.trans hs₀.symm)]
    rw [← h.linkConnection?_eq hkept] at hs
    exact hm'.eq_of_linkConnection? hs hs'

/-- A connection is or becomes the link to one peer at most. -/
theorem Wields.eq_of_holds (h : Wields c m m') (hm : m.Tended) (hm' : m'.Tended) {s s' : SystemId}
    (hs : Holds c m m' s) (hs' : Holds c m m' s') : s = s' := by
  rcases hs with hs | hs
  · rcases hs' with hs' | hs'
    · exact hm.eq_of_linkConnection? hs hs'
    · exact h.eq_of_linkConnection? hm hm' hs hs'
  · rcases hs' with hs' | hs'
    · exact (h.eq_of_linkConnection? hm hm' hs' hs).symm
    · exact hm'.eq_of_linkConnection? hs hs'

/-- The count changes as the link does that the connection has or gets. -/
theorem Wields.connected_add (h : Wields c m m') (hm : m.Tended) (hm' : m'.Tended) {s : SystemId}
    (hs : Holds c m m' s) :
    m'.table.connected + (if m.table.isUp s then 1 else 0) =
      m.table.connected + if m'.table.isUp s then 1 else 0 := by
  cases h.effect with
  | none link _ _ connected => rw [connected, LinkTable.isUp, LinkTable.isUp, link]
  | start _ _ before started => exact (h.not_started before started).elim
  | up s₀ l _ _ _ isUp before _ link _ _ connected =>
    have hl : m'.table.link? s₀ = some l := by rw [link, if_pos rfl]
    obtain rfl := h.eq_of_holds hm hm' hs (h.holds_of_up isUp before hl)
    have hup : l.isConnected = true := by simpa [PeerLink.isConnected] using isUp
    rw [LinkTable.isUp_eq before, LinkTable.isUp_eq hl, hup, connected]
    rfl
  | down s₀ l isUp before link _ _ connected =>
    have hl : m'.table.link? s₀ = some .disconnected := by rw [link, if_pos rfl]
    obtain rfl := h.eq_of_holds hm hm' hs (h.holds_of_down isUp before hl)
    have hup : m.table.isUp s = true := by
      rw [LinkTable.isUp_eq before]
      simpa [PeerLink.isConnected] using isUp
    have hpos := hm.links.connected_pos hup
    have hdown : m'.table.isUp s = false := LinkTable.isUp_eq hl
    rw [hup, hdown, connected]
    simp only [if_true, Bool.false_eq_true, if_false]
    omega

/-- What a connection wields is one link at most, and nothing else changes. -/
theorem Wields.isolated (h : Wields c m m') (hm : m.Tended) (hm' : m'.Tended) :
    Isolated c m m' where
  one _ _ hs hs' := h.eq_of_holds hm hm' hs hs'
  link _ hs := ⟨h.link?_eq hs, h.linkConnection?_eq (h.link?_eq hs)⟩
  binding _ hs k hk := h.binding k fun hc =>
    hs (.inl (linkConnection?_eq_some_iff.2 (.inr ⟨k, hk, hc⟩)))
  ends := h.ends
  session k hk := ⟨h.binding k hk, fun few n => h.found few k n hk⟩
  connected _ hs := h.connected_add hm hm' hs
  unconnected hnone := by
    cases h.effect with
    | none _ _ _ connected => exact connected
    | start _ _ before started => exact (h.not_started before started).elim
    | up s₀ l _ _ _ isUp before _ link =>
      exact absurd (h.holds_of_up isUp before (by rw [link, if_pos rfl])) (hnone s₀)
    | down s₀ l isUp before link =>
      exact absurd (h.holds_of_down isUp before (by rw [link, if_pos rfl])) (hnone s₀)

/-- Where the links stay as they are, nothing is wielded. -/
theorem Wields.of_table_eq (table : m'.table = m.table)
    (ends : ∀ d, d ≠ c → m'.ends[d.value]? = m.ends[d.value]?) : Wields c m m' := by
  refine ⟨?_, by rw [table], fun k => by rw [table], fun s l before isUp after => ?_,
    fun s l before isUp after => ?_, ends, fun k _ => by rw [table], fun _ k n _ hn => ?_⟩
  · rw [table]
    exact .none (fun _ => rfl) (fun _ => rfl) rfl rfl
  · rw [table, before] at after
    exact absurd (Option.some.inj after).symm isUp
  · rw [table, before] at after
    exact absurd (Option.some.inj after) isUp
  · rw [table]
    exact hn

/-- Where one link changes and no session does, the connection has to have that link. -/
theorem Wields.of_link {p : SystemId} {l : PeerLink}
    (effect : LinkTable.Effect m.table m'.table) (started : m'.table.started = m.table.started)
    (sessions : m'.table.sessions = m.table.sessions)
    (link : ∀ s, m'.table.link? s = if s = p then some l else m.table.link? s)
    (up : l ≠ .disconnected → m'.connectionOf? l = some c)
    (down : ∀ l', m.table.link? p = some l' → l = .disconnected → m.connectionOf? l' = some c)
    (ends : ∀ d, d ≠ c → m'.ends[d.value]? = m.ends[d.value]?) : Wields c m m' := by
  have hconnection : ∀ k, m'.table.connection? k = m.table.connection? k := fun k => by
    rw [LinkTable.connection?, sessions, LinkTable.connection?]
  refine ⟨effect, started, hconnection, fun s l' before isUp after => ?_,
    fun s l' before isUp after => ?_, ends, fun k _ => by rw [sessions], fun _ k n _ hn => by
      rwa [sessions]⟩
  · rw [link] at after
    split at after
    · cases after
      exact up isUp
    · rw [before] at after
      exact absurd (Option.some.inj after).symm isUp
  · rw [link] at after
    split at after
    · rename_i hs
      subst hs
      exact down l' before (Option.some.inj after)
    · rw [before] at after
      exact absurd (Option.some.inj after) isUp

/-! ### Lifecycles -/

/-- Only the connection itself is closed. -/
theorem getElem?_ends_close (m : Member α) (c : ConnectionId) {d : ConnectionId} (hd : d ≠ c) :
    (m.close c).ends[d.value]? = m.ends[d.value]? := by
  unfold close
  split
  · rw [getElem?_ends_setOutlet, if_neg hd]
  · rfl

theorem ends_rest (m : Member α) (i now : Nat) : (m.rest i now).ends = m.ends := by
  unfold rest
  split <;> rfl

/-- A lifecycle touches no connection but its own. -/
theorem getElem?_ends_proceed {i now : Nat} {l : Lifecycle} (hl : m.lifecycles[i]? = some l)
    (hc : l.state.connection? = some c) {d : ConnectionId} (hd : d ≠ c) :
    (m.proceed i now).1.ends[d.value]? = m.ends[d.value]? := by
  obtain ⟨peer, state⟩ := l
  have hgiveUp : ∀ e, (m.giveUp i now c e).1.ends[d.value]? = m.ends[d.value]? := fun e => by
    rw [giveUp, ends_rest, getElem?_ends_close m c hd]
  simp only [proceed, hl]
  split
  · cases state with
    | due | dialing | resting => cases hc
    | serving c' =>
      rw [ends_rest]
      rfl
    | registering c' =>
      obtain rfl : c' = c := Option.some.inj hc
      dsimp only
      split
      · rw [ends_rest]
      · split
        · split
          · rfl
          · exact hgiveUp _
        · exact hgiveUp _
  · rfl

/-- A lifecycle that goes on wields its connection. -/
theorem wields_proceed {i now : Nat} {l : Lifecycle} (hm : m.Tended)
    (hl : m.lifecycles[i]? = some l) (hc : l.state.connection? = some c)
    {call : Option (Nat × Lifecycle.Call)} (h : Course m (.proceed i now) m' call)
    (ends : ∀ d, d ≠ c → m'.ends[d.value]? = m.ends[d.value]?) : Wields c m m' := by
  have heffect := (h.effect hm).2.2
  cases h with
  | aside table => exact .of_table_eq table ends
  | roams _ _ _ table => exact .of_table_eq table ends
  | refused _ _ _ _ table => exact .of_table_eq table ends
  | inbound admitting => cases admitting
  | @installed _ _ _ l₀ c' before registering _ link =>
    cases hl.symm.trans before
    obtain rfl : c' = c := by
      rw [registering] at hc
      exact Option.some.inj hc
    obtain ⟨-, htable⟩ := LinkTable.installClient_eq_some_iff.1 link
    refine .of_link (p := l.peer.id) (l := .client c') heffect ?_ ?_
      (LinkTable.link?_installClient link) (fun _ => rfl) (fun _ _ hdown => by cases hdown) ends
    · rw [htable]
      rfl
    · rw [htable]
      rfl
  | @cleared _ _ _ l₀ c' s before serving _ table =>
    cases hl.symm.trans before
    obtain rfl : c' = c := by
      rw [serving] at hc
      exact Option.some.inj hc
    have hup := (hm.served i l hl c').2 serving
    refine .of_link (p := l.peer.id) (l := .disconnected) heffect ?_ ?_ (fun s => ?_)
      (fun isUp => (isUp rfl).elim) (fun l' hl' _ => ?_) ends
    · rw [table, LinkTable.clearClient, if_pos hup]
      rfl
    · rw [table, LinkTable.sessions_clearClient]
    · rw [table, LinkTable.link?_clearClient]
      simp only [hup, and_true]
    · cases hup.symm.trans hl'
      rfl

/-- A lifecycle that misses an answer touches no link and no connection. -/
theorem wields_overlook [Vocabulary α] (m : Member α) (i now : Nat) (c : ConnectionId) :
    Wields c m (m.act (.overlook i now)) := by
  simp only [act]
  split
  · split
    · refine .of_table_eq ?_ fun d _ => by rw [ends_rest]
      obtain ⟨s, -, hrest⟩ := exists_rest m i now
      rw [hrest]
      rfl
    · exact .of_table_eq rfl fun _ _ => rfl
  · exact .of_table_eq rfl fun _ _ => rfl

/-! ### Events -/

variable [Vocabulary α]

/-- What happens to a connection starts nothing. -/
theorem started_happen (h : m.Sound) (c : ConnectionId) (e : Connection.Event) :
    (m.happen c e).1.table.started = m.table.started := by
  rcases exists_operation_of_happen h c e with hsame | ⟨x, k, op, -, -, hop, htable⟩
  · rw [hsame]
  · rw [htable, (LinkTable.kept_after m.table op).started]
    rcases hop with ⟨payload, rfl⟩ | rfl <;> exact Bool.or_false _

/-- What happens to a connection removes no session of another one. -/
theorem find?_happen (h : m.Sound) (hn : m.table.sessions.Numbered)
    (few : m.table.sessions.made.length ≤ UInt32.size) (e : Connection.Event) {k : Ticket}
    {n : UInt32} (hk : m.table.connection? k ≠ some c)
    (hfound : m.table.sessions.find? n = some k) :
    (m.happen c e).1.table.sessions.find? n = some k := by
  rcases exists_operation_of_happen h c e with hsame | ⟨x, k', op, hx, hrole, hop, htable⟩
  · rw [hsame]
    exact hfound
  · rw [htable]
    rcases hop with ⟨payload, rfl⟩ | rfl
    · exact (LinkTable.find?_admission m.table k' payload n).trans hfound
    · refine LinkTable.find?_endSession hn few (fun heq => hk ?_) hfound
      rw [heq]
      exact h.session c x k' hx (by rw [hrole]; rfl)

/-- What happens to a connection wields that. -/
theorem wields_event (hm : m.Tended) (hn : m.table.sessions.Numbered) (c : ConnectionId)
    (e : Connection.Event) : Wields c m (m.happen c e).1 := by
  cases hx : m.ends[c.value]? with
  | none =>
    rw [happen_of_none hx]
    exact .of_table_eq rfl fun _ _ => rfl
  | some x =>
    have hends : ∀ d, d ≠ c → (m.happen c e).1.ends[d.value]? = m.ends[d.value]? := fun d hd => by
      rw [getElem?_ends_happen hx, if_neg hd]
    have htable : (m.happen c e).1.table = (x.step m.core e).state.1.table := by
      rw [table, core_happen hx]
    have hserves := (Role.serves_step (r := x.role)
      (fun k hk => ⟨c, hm.sound.session c x k hx hk⟩) x.connection e).1
    have hcourse : Course m (.event c e) (m.happen c e).1 _ := course_act hm.sound (.event c e)
    have hm' : (m.happen c e).1.Sound := hm.sound.happen c e
    -- a session that changes, or loses its link, is that of the connection
    have hown : ∀ k, x.role.session? = some k → m.table.connection? k = some c := fun k hk =>
      hm.sound.session c x k hx hk
    have hconnection : ∀ k, (m.happen c e).1.table.connection? k = m.table.connection? k :=
      fun k => by rw [htable]; exact hserves.connection k
    refine ⟨(hcourse.effect hm).2.2, started_happen hm.sound c e, hconnection,
      fun s l before isUp after => ?_, fun s l before isUp after => ?_, hends, fun k hk => ?_,
      fun few k n hk hfound => find?_happen hm.sound hn few e hk hfound⟩
    · cases l with
      | disconnected => exact absurd rfl isUp
      | client d =>
        rw [htable] at after
        have hclient : m.table.link? s = some (.client d) := hserves.client s d after
        rw [before] at hclient
        cases hclient
      | session k =>
        refine (hconnection k).trans (Classical.byContradiction fun hk => ?_)
        have hbound := (hm'.paired s k).1 after
        have hkept : (m.happen c e).1.table.sessions.binding? k =
            m.table.sessions.binding? k := by
          rw [htable]
          exact hserves.binding k fun hk' => hk (hown k hk'.symm)
        rw [hkept] at hbound
        rw [(hm.sound.paired s k).2 hbound] at before
        cases before
    · refine Classical.byContradiction fun hc => ?_
      have hkept := hserves.link s l before isUp fun k hk heq => hc (by
        rw [heq]
        exact hown k hk)
      rw [← LinkEnd.step, ← htable, after] at hkept
      exact isUp (Option.some.inj hkept).symm
    · rw [htable]
      exact hserves.binding k fun hk' => hk (hown k hk'.symm)

/-! ### Whatever happens -/

omit [Vocabulary α] in
theorem Course.numbered {a : Action α} {call : Option (Nat × Lifecycle.Call)}
    (h : Course m a m' call) (hn : m.table.sessions.Numbered) : m'.table.sessions.Numbered := by
  cases h with
  | aside table => rwa [table]
  | roams _ _ _ table => rwa [table]
  | dialed _ _ _ table => rwa [table]
  | refused _ _ _ _ table => rwa [table]
  | start table =>
    rw [table]
    exact LinkTable.numbered_after hn _
  | inbound _ table =>
    rw [table]
    exact LinkTable.numbered_after hn _
  | installed _ _ _ link =>
    obtain ⟨-, htable⟩ := LinkTable.installClient_eq_some_iff.1 link
    rw [htable]
    exact hn
  | cleared _ _ _ table =>
    rwa [table, LinkTable.sessions_clearClient]

theorem numbered_run {config : Config} (h : ofConfig config = .ok m) (as : List (Action α)) :
    (m.run as).table.sessions.Numbered := by
  have hrun : ∀ {m : Member α}, m.Tended → m.table.sessions.Numbered →
      (m.run as).table.sessions.Numbered := by
    induction as with
    | nil => exact fun _ hn => hn
    | cons a as ih => exact fun hm hn => ih (hm.act a) ((course_act hm.sound a).numbered hn)
  refine hrun (tended_ofConfig h) ?_
  rw [(fresh_ofConfig h).sessions]
  exact .empty

/-- Whatever is about a connection wields that. -/
theorem wields_act (hm : m.Tended) (hn : m.table.sessions.Numbered) {a : Action α}
    (ha : m.Concerns c a) : Wields c m (m.act a) := by
  cases a with
  | event d e =>
    obtain rfl : d = c := ha
    exact wields_event hm hn d e
  | proceed i now =>
    obtain ⟨l, hl, hc⟩ := ha
    exact wields_proceed hm hl hc (course_act hm.sound (.proceed i now)) fun d hd =>
      getElem?_ends_proceed hl hc hd
  | overlook i now => exact wields_overlook m i now c
  | _ => exact ha.elim

/-- Whatever is about a connection changes no link but the one that it has or gets, and leaves what
belongs to the other peers alone. -/
theorem isolated_of_run {config : Config} {m₀ : Member α} (h₀ : ofConfig config = .ok m₀)
    (as : List (Action α)) {c : ConnectionId} {a : Action α} (ha : (m₀.run as).Concerns c a) :
    Isolated c (m₀.run as) ((m₀.run as).act a) := by
  have hm := (tended_ofConfig h₀).run as
  exact (wields_act hm (numbered_run h₀ as) ha).isolated hm (hm.act a)

/-- The last of three members registers, and then a second connection is there. -/
def claimed : List (Action Sample) :=
  [.start true 0, .accept none, .event ⟨0⟩ .started,
    .event ⟨0⟩ (.received (Registration.request ⟨3⟩).write), .accept none, .event ⟨1⟩ .started]

/-- That one claims to be the last member, too, and then sends what cannot be read. -/
def claim : Action Sample :=
  .event ⟨1⟩ (.received ((Registration.request ⟨3⟩).write ++ [255, 255, 255, 255]))

theorem isolated_claimed :
    ofConfig LinkTable.trio = .ok middle ∧ (middle.run claimed).Concerns ⟨1⟩ claim ∧
      Isolated ⟨1⟩ (middle.run claimed) ((middle.run claimed).act claim) ∧
      (middle.run claimed).linkConnection? ⟨3⟩ = some ⟨0⟩ ∧
      ((middle.run claimed).act claim).linkConnection? ⟨3⟩ = some ⟨0⟩ := by
  have h₀ : ofConfig LinkTable.trio = .ok middle := rfl
  have concerns : (middle.run claimed).Concerns ⟨1⟩ claim := rfl
  exact ⟨h₀, concerns, isolated_of_run h₀ claimed concerns, by decide +kernel, by decide +kernel⟩

end Member

end ActorMesh
