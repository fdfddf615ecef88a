import ActorMesh.Proofs.Connections.Streams
import ActorMesh.Proofs.Members.Actions

/-!
# What connections do to their member

All connections of a member work on its link table, but each one only changes what belongs to it: a
session is bound and freed by its own connection, and the links that other connections hold stay
(`LinkTable.Serves`). With this a few facts hold of a member whatever happens (`Member.Sound`): the
sessions that are linked are the ones that are bound, every session has one connection, and a dialed
connection is a link only if its registration was accepted.
-/

namespace ActorMesh

/-! ### Frames on an inbound link -/

namespace Inbound

variable {α : Type} [Vocabulary α] {k : Ticket} {core : Core α} {o : Outlet} {f : Frame}

theorem frame_of_unknown (hf : PackageKind.ofByte? f.mark = none) :
    frame k core o f = ⟨core, o, [], some (Registration.breach (.unknownPackage f.mark))⟩ := by
  simp only [frame, hf]

theorem frame_of_request (hf : PackageKind.ofByte? f.mark = some .registerRequest) :
    frame k core o f = register k core o f.payload := by
  simp only [frame, hf]

theorem frame_of_response (hf : PackageKind.ofByte? f.mark = some .registerResponse) :
    frame k core o f =
      ⟨core, o, [], some (Registration.misplaced "registration response on an inbound link")⟩ := by
  simp only [frame, hf]

theorem frame_of_early {kind : ParcelKind} (hf : PackageKind.ofByte? f.mark = some (.parcel kind))
    (hb : core.table.sessions.binding? k = none) :
    frame k core o f = ⟨core, o, [.trafficTooEarly],
      some (Registration.misplaced "traffic before registration")⟩ := by
  simp only [frame, hf, hb, Option.isSome_none, Bool.false_eq_true, if_false]

theorem frame_of_parcel {kind : ParcelKind} {s : SystemId}
    (hf : PackageKind.ofByte? f.mark = some (.parcel kind))
    (hb : core.table.sessions.binding? k = some s) :
    frame k core o f =
      ⟨(core.deliverInbound (.parcel kind) f.payload).1, o,
        (core.deliverInbound (.parcel kind) f.payload).2, none⟩ := by
  simp only [frame, hf, hb, Option.isSome_some, if_true]

omit [Vocabulary α] in
theorem table_register (k : Ticket) (core : Core α) (o : Outlet) (payload : Octets) :
    (register k core o payload).state =
      { core with table := (admission core.table k payload).2.1 } := by
  unfold register
  dsimp only
  split
  · rfl
  · split <;> rfl

end Inbound

@[simp] theorem Core.table_deliverInbound {α : Type} [Vocabulary α] (core : Core α)
    (kind : PackageKind) (payload : Octets) :
    (core.deliverInbound kind payload).1.table = core.table := by
  unfold deliverInbound
  dsimp only
  split <;> rfl

namespace Inbound

variable {α : Type} [Vocabulary α]

/-- The links change only by a registration. -/
theorem table_frame (k : Ticket) (core : Core α) (o : Outlet) (f : Frame) :
    (frame k core o f).state.table = core.table ∨
      (frame k core o f).state.table = (admission core.table k f.payload).2.1 := by
  unfold frame
  split
  · exact .inl rfl
  · rw [table_register]
    exact .inr rfl
  · exact .inl rfl
  · split
    · exact .inl (Core.table_deliverInbound ..)
    · exact .inl rfl

/-- On a bound session nothing that arrives changes a link. -/
theorem table_frame_of_bound {k : Ticket} {core : Core α}
    (hb : core.table.sessions.binding? k ≠ none) (o : Outlet) (f : Frame) :
    (frame k core o f).state.table = core.table := by
  rcases table_frame k core o f with htable | htable
  · exact htable
  · refine htable.trans (LinkTable.admission_of_not_admits fun s hs => ?_).2
    exact hb hs.2.2.2

end Inbound

@[simp] theorem Outbound.table_frame {α : Type} [Vocabulary α] (core : Core α) (d : Dialed)
    (o : Outlet) (f : Frame) : (Outbound.frame core d o f).state.1.table = core.table := by
  unfold Outbound.frame
  split
  · rfl
  · rfl
  · rfl
  · exact Core.table_deliverInbound ..

/-! ### What a session changes in the link table -/

namespace LinkTable

/-- The connection of a session. -/
def connection? (t : LinkTable) (k : Ticket) : Option ConnectionId :=
  (t.sessions.get? k).map (·.connection)

theorem connection?_modify (t : LinkTable) (k k' : Ticket)
    {f : Session SystemId → Session SystemId} (hf : ∀ x, (f x).connection = x.connection) :
    ((t.sessions.modify k f).get? k').map (·.connection) = t.connection? k' := by
  rw [Sessions.get?_modify, connection?]
  split
  · rename_i h
    rw [h, Option.map_map]
    cases t.sessions.get? k <;> simp [hf]
  · rfl

theorem connection?_create (t : LinkTable) (c : ConnectionId) (peer : Option Address) (k : Ticket) :
    { t with sessions := (t.sessions.create c peer).2 }.connection? k =
      if k = ⟨t.sessions.made.length⟩ then some c else t.connection? k := by
  obtain ⟨n⟩ := k
  simp only [connection?, Sessions.get?, Sessions.create, Ticket.mk.injEq]
  rcases Nat.lt_trichotomy n t.sessions.made.length with hlt | rfl | hgt
  · rw [List.getElem?_append_left hlt, if_neg (by omega)]
  · rw [List.getElem?_concat_length, if_pos rfl]
    rfl
  · rw [List.getElem?_eq_none (by simp; omega), List.getElem?_eq_none (by omega),
      if_neg (by omega)]

theorem lt_of_connection? {t : LinkTable} {k : Ticket} {c : ConnectionId}
    (h : t.connection? k = some c) : k.value < t.sessions.made.length := by
  obtain ⟨x, hx, -⟩ := Option.map_eq_some_iff.1 h
  exact Sessions.isSome_get?_iff.1 (Option.isSome_of_mem hx)

theorem Paired.of_effect {t t' : LinkTable} (h : t.Paired) (he : Effect t t') : t'.Paired := by
  cases he with
  | none link binding _ _ => exact fun s k => by rw [link, binding, h s k]
  | start link binding _ _ _ => exact fun s k => by rw [link, binding, h s k]
  | up _ _ _ _ _ _ before free link binding _ _ => exact paired_of_up h before free link binding
  | down _ _ _ before link binding _ _ => exact paired_of_down h before link binding

/-- What the connection of a session, or one without a session, may change in the link table. -/
structure Serves (k : Option Ticket) (t t' : LinkTable) : Prop where
  localId : t'.localId = t.localId
  connection : ∀ k', t'.connection? k' = t.connection? k'
  binding : ∀ k', some k' ≠ k → t'.sessions.binding? k' = t.sessions.binding? k'
  client : ∀ s c, t'.link? s = some (.client c) → t.link? s = some (.client c)
  /-- The links that others hold stay. -/
  link : ∀ s l, t.link? s = some l → l ≠ .disconnected → (∀ k', k = some k' → l ≠ .session k') →
    t'.link? s = some l
  paired : t.Paired → t'.Paired

variable {k : Option Ticket} {t t' t'' : LinkTable}

theorem Serves.refl (k : Option Ticket) (t : LinkTable) : Serves k t t :=
  ⟨rfl, fun _ => rfl, fun _ _ => rfl, fun _ _ => id, fun _ _ hl _ _ => hl, id⟩

theorem Serves.trans (h : Serves k t t') (h' : Serves k t' t'') : Serves k t t'' :=
  ⟨h'.localId.trans h.localId, fun k => (h'.connection k).trans (h.connection k),
    fun k hk => (h'.binding k hk).trans (h.binding k hk),
    fun s c hl => h.client s c (h'.client s c hl),
    fun s l hl hup hk => h'.link s l (h.link s l hl hup hk) hup hk,
    fun hp => h'.paired (h.paired hp)⟩

theorem serves_register {k : Ticket} (hk : k.value < t.sessions.made.length) (payload : Octets) :
    Serves (some k) t (Inbound.admission t k payload).2.1 := by
  rcases table_admission t k payload with hsame | ⟨s, -, hbind⟩
  · rw [hsame]
    exact .refl _ t
  · have hpaired := fun hp : t.Paired => hp.of_effect (effect_bindSession hk hbind)
    have hlinks := link?_bindSession hbind
    obtain ⟨-, hlink, -, htable⟩ := bindSession_eq_ok_iff.1 hbind
    rw [htable] at hlinks hpaired ⊢
    refine ⟨rfl, fun k' => connection?_modify t k k' fun _ => rfl, fun k' hk' => ?_,
      fun s' c hl => ?_, fun s' l hl hup _ => ?_, hpaired⟩
    · rw [Sessions.binding?_bind s hk, if_neg fun heq => hk' (congrArg some heq)]
    · rw [hlinks] at hl
      split at hl
      · cases hl
      · exact hl
    · rw [hlinks, if_neg fun heq => hup ?_, hl]
      rw [heq, hlink] at hl
      exact (Option.some.inj hl).symm

theorem serves_endSession (t : LinkTable) (k : Ticket) : Serves (some k) t (t.endSession k) := by
  have hrelease : ∀ s, (t.releaseSession s k).localId = t.localId := fun s => by
    unfold releaseSession
    split <;> rfl
  refine ⟨?_, fun k' => ?_, fun k' hk' => ?_, fun s c hl => ?_, fun s l hl _ hk => ?_,
    fun hp => hp.of_effect (effect_endSession hp k)⟩
  · cases hk : t.sessions.get? k with
    | none => rw [endSession_of_get?_eq_none hk]
    | some x =>
      rw [endSession_eq hk]
      cases x.binding with
      | none => rfl
      | some s => exact hrelease s
  · cases hk : t.sessions.get? k with
    | none => rw [endSession_of_get?_eq_none hk]
    | some x =>
      rw [endSession_eq hk]
      exact connection?_modify t k k' fun _ => rfl
  · rw [binding?_endSession, if_neg fun heq => hk' (congrArg some heq)]
  · rw [link?_endSession] at hl
    split at hl
    · cases hl
    · exact hl
  · rw [link?_endSession, if_neg fun h => hk k rfl ?_, hl]
    exact Option.some.inj (hl.symm.trans h.2)

end LinkTable

/-! ### What a connection changes -/

/-- The session of a connection, if it is inbound. -/
def Role.session? : Role → Option Ticket
  | .inbound k => some k
  | .outbound _ => none

/-- The answer that is known on a connection, if it is dialed. -/
def Role.answer? : Role → Option ErrorCode
  | .inbound _ => none
  | .outbound d => d.answer

/-- What becomes of the role of a connection: the session stays, and so does an answer. -/
def Role.Becomes (r r' : Role) : Prop :=
  r'.session? = r.session? ∧ ∀ code, r.answer? = some code → r'.answer? = some code

namespace Role

variable {α : Type} [Vocabulary α] {r r' r'' : Role}

theorem Becomes.refl (r : Role) : r.Becomes r := ⟨rfl, fun _ => id⟩

theorem Becomes.trans (h : r.Becomes r') (h' : r'.Becomes r'') : r.Becomes r'' :=
  ⟨h'.1.trans h.1, fun code hcode => h'.2 code (h.2 code hcode)⟩

/-- Whether what a connection works on is there: its session, if it is inbound. -/
def Has (t : LinkTable) (r : Role) : Prop :=
  ∀ k, r.session? = some k → ∃ c, t.connection? k = some c

theorem Has.serves {t t' : LinkTable} (h : Has t r) (hs : LinkTable.Serves r.session? t t')
    (hr : r.Becomes r') : Has t' r' := by
  intro k hk
  obtain ⟨c, hc⟩ := h k (hr.1 ▸ hk)
  exact ⟨c, by rw [hs.connection, hc]⟩

theorem serves_frame {core : Core α} (h : Has core.table r) (o : Outlet) (f : Frame) :
    let s := (handler.frame (core, r) o f).state
    LinkTable.Serves r.session? core.table s.1.table ∧ r.Becomes s.2 := by
  cases r with
  | inbound k =>
    refine ⟨?_, .refl _⟩
    obtain ⟨c, hc⟩ := h k rfl
    rcases Inbound.table_frame k core o f with htable | htable
    · simp only [handler, htable]
      exact .refl _ _
    · simp only [handler, htable]
      exact LinkTable.serves_register (LinkTable.lt_of_connection? hc) f.payload
  | outbound d =>
    refine ⟨?_, rfl, fun code hcode => ?_⟩
    · simp only [handler, Outbound.table_frame]
      exact .refl _ _
    · have hanswer : d.answer = some code := hcode
      simp only [handler, answer?, Outbound.frame]
      split <;> simp [hanswer]

theorem serves_closed (core : Core α) (r : Role) (o : Outlet) :
    let s := handler.closed (core, r) o
    LinkTable.Serves r.session? core.table s.1.table ∧ r.Becomes s.2 := by
  cases r with
  | inbound k => exact ⟨LinkTable.serves_endSession core.table k, .refl _⟩
  | outbound d => exact ⟨.refl _ _, rfl, fun _ => id⟩

/-- What the events of a connection make of what its member shares, and of its role. -/
theorem serves_step {core : Core α} (h : Has core.table r) (c : Connection)
    (e : Connection.Event) :
    let s := (c.step handler (core, r) e).state
    LinkTable.Serves r.session? core.table s.1.table ∧ r.Becomes s.2 := by
  refine Connection.step_keeps (P := fun s : Core α × Role =>
    LinkTable.Serves r.session? core.table s.1.table ∧ r.Becomes s.2) (fun _ _ hs => hs) ?_ ?_
    ⟨.refl _ _, .refl r⟩ c e
  · rintro ⟨core', r'⟩ o f ⟨hserves, hr⟩
    obtain ⟨hserves', hr'⟩ := serves_frame (h.serves hserves hr) o f
    exact ⟨hserves.trans (hr.1 ▸ hserves'), hr.trans hr'⟩
  · rintro ⟨core', r'⟩ o ⟨hserves, hr⟩
    obtain ⟨hserves', hr'⟩ := serves_closed core' r' o
    exact ⟨hserves.trans (hr.1 ▸ hserves'), hr.trans hr'⟩

/-- What is read on a bound session leaves the links alone. -/
theorem table_receive_of_bound {core : Core α} {k : Ticket}
    (hb : core.table.sessions.binding? k ≠ none) (c : Connection) (bytes : Octets) :
    (c.receive handler (core, .inbound k) bytes).state.1.table = core.table := by
  have hframe : ∀ (s : Core α × Role) (o : Outlet) (f : Frame),
      s.2 = .inbound k ∧ s.1.table = core.table →
      (handler.frame s o f).state.2 = .inbound k ∧
        (handler.frame s o f).state.1.table = core.table := by
    rintro ⟨core', r⟩ o f ⟨hr, htable⟩
    obtain rfl : r = .inbound k := hr
    have hkept : (Inbound.frame k core' o f).state.table = core'.table :=
      Inbound.table_frame_of_bound (by rw [htable]; exact hb) o f
    exact ⟨rfl, hkept.trans htable⟩
  exact (Connection.receive_keeps (P := fun s : Core α × Role =>
    s.2 = .inbound k ∧ s.1.table = core.table) hframe ⟨rfl, rfl⟩ c bytes).2

omit [Vocabulary α] in
theorem eq_inbound_of_session? {k : Ticket} (h : r.session? = some k) : r = .inbound k := by
  cases r with
  | inbound k' =>
    cases h
    rfl
  | outbound d => cases h

omit [Vocabulary α] in
theorem eq_outbound_of_session? (h : r.session? = none) : ∃ d, r = .outbound d := by
  cases r with
  | inbound k => cases h
  | outbound d => exact ⟨d, rfl⟩

end Role

/-- What an event makes of a connection of a member, and of what the member shares. -/
def LinkEnd.step {α : Type} [Vocabulary α] (x : LinkEnd) (core : Core α) (e : Connection.Event) :
    Connection.Step (Core α × Role) :=
  x.connection.step Role.handler (core, x.role) e

/-- An event other than a read leaves the answer and the session alone, unless it ends the
connection. -/
theorem LinkEnd.step_state_calm {α : Type} [Vocabulary α] (core : Core α) {x : LinkEnd}
    {e : Connection.Event}
    (he : ∀ bytes, ¬ (x.connection.phase = .serving .idle ∧ e = .received bytes)) :
    (x.step core e).state.2.answer? = x.role.answer? ∧
      ((x.step core e).state = (core, x.role) ∨ (x.step core e).connection.phase = .ended) := by
  rcases Connection.step_state_calm (h := Role.handler) (fun _ _ => rfl) (core, x.role) he with
    hstate | ⟨hstate, hended⟩
  · rw [LinkEnd.step, hstate]
    exact ⟨rfl, .inl rfl⟩
  · refine ⟨?_, .inr hended⟩
    rw [LinkEnd.step, hstate]
    cases x.role <;> rfl

/-! ### Members -/

namespace Member

variable {α : Type} [Vocabulary α] {m m' : Member α}

/-- What holds of a member whatever happens. -/
structure Sound (m : Member α) : Prop where
  paired : m.table.Paired
  /-- Every inbound connection has a session of its own. -/
  session : ∀ (c : ConnectionId) e k, m.ends[c.value]? = some e → e.role.session? = some k →
    m.table.connection? k = some c
  inbound : ∀ k c, m.table.connection? k = some c →
    ∃ e, m.ends[c.value]? = some e ∧ e.role.session? = some k
  /-- A dialed connection is a link only if the registration on it was accepted. -/
  client : ∀ s c, m.table.link? s = some (.client c) →
    ∃ e, m.ends[c.value]? = some e ∧ e.role.answer? = some .success

section

omit [Vocabulary α]

/-- A quiet action makes no connection. -/
theorem Quiet.exists_fed (h : Quiet m m') {c : ConnectionId} {e' : LinkEnd}
    (he' : m'.ends[c.value]? = some e') :
    ∃ e, m.ends[c.value]? = some e ∧ e.Fed (m.HasLink c) e' := by
  obtain ⟨hlt, -⟩ := List.getElem?_eq_some_iff.1 he'
  obtain ⟨e, he⟩ : ∃ e, m.ends[c.value]? = some e :=
    ⟨_, List.getElem?_eq_getElem (h.length ▸ hlt)⟩
  obtain ⟨e'', he'', hfed⟩ := h.fed c e he
  cases he'.symm.trans he''
  exact ⟨e, he, hfed⟩

theorem Quiet.sound (h : Quiet m m') (hs : m.Sound) : m'.Sound := by
  refine ⟨fun s k => ?_, fun c e' k he' hk => ?_, fun k c hc => ?_, fun s c hl => ?_⟩
  · simp only [LinkTable.link?, h.peers, h.sessions]
    exact hs.paired s k
  · obtain ⟨e, he, o, -, rfl⟩ := h.exists_fed he'
    simp only [LinkTable.connection?, h.sessions]
    exact hs.session c e k he hk
  · simp only [LinkTable.connection?, h.sessions] at hc
    obtain ⟨e, he, hk⟩ := hs.inbound k c hc
    obtain ⟨e', he', o, -, rfl⟩ := h.fed c e he
    exact ⟨_, he', hk⟩
  · simp only [LinkTable.link?, h.peers] at hl
    obtain ⟨e, he, hanswer⟩ := hs.client s c hl
    obtain ⟨e', he', o, -, rfl⟩ := h.fed c e he
    exact ⟨_, he', hanswer⟩

/-- What a member has whose newest connection is the last of these. -/
theorem getElem?_ends_append {ends : List LinkEnd} {e e' : LinkEnd} {c : ConnectionId}
    (h : (ends ++ [e])[c.value]? = some e') :
    ends[c.value]? = some e' ∨ c = ⟨ends.length⟩ ∧ e' = e := by
  rcases Nat.lt_trichotomy c.value ends.length with hlt | heq | hgt
  · rw [List.getElem?_append_left hlt] at h
    exact .inl h
  · rw [heq, List.getElem?_concat_length] at h
    exact .inr ⟨by rw [← heq], (Option.some.inj h).symm⟩
  · rw [List.getElem?_eq_none (by simp; omega)] at h
    cases h

theorem getElem?_ends_append_of_some {ends : List LinkEnd} {e e' : LinkEnd} {c : ConnectionId}
    (h : ends[c.value]? = some e') : (ends ++ [e])[c.value]? = some e' := by
  obtain ⟨hlt, -⟩ := List.getElem?_eq_some_iff.1 h
  rw [List.getElem?_append_left hlt, h]

end

theorem happen_of_none {c : ConnectionId} {e : Connection.Event} (h : m.ends[c.value]? = none) :
    (m.happen c e).1 = m := by
  simp only [happen, h]

theorem core_happen {c : ConnectionId} {e : Connection.Event} {x : LinkEnd}
    (h : m.ends[c.value]? = some x) : (m.happen c e).1.core = (x.step m.core e).state.1 := by
  simp only [happen, h, LinkEnd.step]

/-- Only the connection itself takes the step. -/
theorem getElem?_ends_happen {c : ConnectionId} {e : Connection.Event} {x : LinkEnd}
    (h : m.ends[c.value]? = some x) (d : ConnectionId) :
    (m.happen c e).1.ends[d.value]? =
      if d = c then some ⟨(x.step m.core e).state.2, (x.step m.core e).connection⟩
      else m.ends[d.value]? := by
  obtain ⟨c⟩ := c
  obtain ⟨d⟩ := d
  obtain ⟨hlt, -⟩ := List.getElem?_eq_some_iff.1 h
  simp only [happen, h, LinkEnd.step, ConnectionId.mk.injEq, List.getElem?_set]
  by_cases hd : d = c
  · rw [if_pos hd.symm, if_pos hlt, if_pos hd]
  · rw [if_neg (Ne.symm hd), if_neg hd]

namespace Sound

omit [Vocabulary α] in
theorem accept (h : m.Sound) (peer : Option Address) : (m.accept peer).2.Sound := by
  have hnew := m.table.connection?_create m.nextConnection peer
  refine ⟨h.paired.of_effect (LinkTable.effect_accept m.table m.nextConnection peer),
    fun c e k he hk => ?_, fun k c hc => ?_, fun s c hl => ?_⟩
  · refine (hnew k).trans ?_
    rcases getElem?_ends_append he with he | ⟨rfl, rfl⟩
    · have hc := h.session c e k he hk
      have hlt := LinkTable.lt_of_connection? hc
      rw [if_neg fun heq => by simp [heq] at hlt]
      exact hc
    · rw [if_pos (Option.some.inj hk).symm]
      rfl
  · replace hc := (hnew k).symm.trans hc
    split at hc
    · rename_i hk
      cases hc
      exact ⟨_, List.getElem?_concat_length, by rw [hk]; rfl⟩
    · obtain ⟨e, he, hk⟩ := h.inbound k c hc
      exact ⟨e, getElem?_ends_append_of_some he, hk⟩
  · obtain ⟨e, he, hanswer⟩ := h.client s c hl
    exact ⟨e, getElem?_ends_append_of_some he, hanswer⟩

omit [Vocabulary α] in
theorem dials {i : Nat} {peer : Option Address} (h : m.Sound) (hd : Dials m i peer m') :
    m'.Sound := by
  obtain ⟨queue, -, hends⟩ := hd.ends
  refine ⟨?_, fun c e k he hk => ?_, fun k c hc => ?_, fun s c hl => ?_⟩
  · rw [table, hd.core]
    exact h.paired
  · rw [table, hd.core]
    rw [hends] at he
    rcases getElem?_ends_append he with he | ⟨-, rfl⟩
    · exact h.session c e k he hk
    · cases hk
  · rw [table, hd.core] at hc
    obtain ⟨e, he, hk⟩ := h.inbound k c hc
    rw [hends]
    exact ⟨e, getElem?_ends_append_of_some he, hk⟩
  · rw [table, hd.core] at hl
    obtain ⟨e, he, hanswer⟩ := h.client s c hl
    rw [hends]
    exact ⟨e, getElem?_ends_append_of_some he, hanswer⟩

omit [Vocabulary α] in
theorem install {i : Nat} {s : SystemId} {c : ConnectionId} {t : LinkTable} (h : m.Sound)
    (hanswer : (m.dialedState? c).bind (·.answer) = some .success)
    (hlink : m.table.installClient s c = some t) :
    ((m.withTable t).setLifecycle i (.serving c)).Sound := by
  have hlinks := LinkTable.link?_installClient hlink
  obtain ⟨hdown, rfl⟩ := LinkTable.installClient_eq_some_iff.1 hlink
  refine ⟨LinkTable.paired_of_up h.paired hdown (by simp) hlinks (by intro; rfl), h.session,
    h.inbound, fun s' c' hl => ?_⟩
  replace hl := (hlinks s').symm.trans hl
  split at hl
  · cases hl
    obtain ⟨d, hd, hsuccess⟩ := Option.bind_eq_some_iff.1 hanswer
    unfold dialedState? at hd
    split at hd
    · rename_i he
      cases hd
      exact ⟨_, he, hsuccess⟩
    · cases hd
  · exact h.client s' c' hl

omit [Vocabulary α] in
theorem clear (h : m.Sound) (s : SystemId) (c : ConnectionId) :
    (m.withTable (m.table.clearClient s c)).Sound := by
  refine ⟨h.paired.of_effect (LinkTable.effect_clearClient m.table s c), fun d e k he hk => ?_,
    fun k d hd => ?_, fun s' d hl => ?_⟩
  · change ((m.table.clearClient s c).sessions.get? k).map (·.connection) = _
    rw [LinkTable.sessions_clearClient]
    exact h.session d e k he hk
  · change ((m.table.clearClient s c).sessions.get? k).map (·.connection) = _ at hd
    rw [LinkTable.sessions_clearClient] at hd
    exact h.inbound k d hd
  · change (m.table.clearClient s c).link? s' = _ at hl
    rw [LinkTable.link?_clearClient] at hl
    split at hl
    · cases hl
    · exact h.client s' d hl

theorem happen (h : m.Sound) (c : ConnectionId) (e : Connection.Event) :
    (m.happen c e).1.Sound := by
  cases hx : m.ends[c.value]? with
  | none => rwa [happen_of_none hx]
  | some x =>
    have hhas : Role.Has m.table x.role := fun k hk => ⟨c, h.session c x k hx hk⟩
    obtain ⟨hserves, hrole⟩ := Role.serves_step hhas x.connection e
    have htable : (m.happen c e).1.table = (x.step m.core e).state.1.table := by
      rw [table, core_happen hx]
    refine ⟨htable ▸ hserves.paired h.paired, fun d y k hy hk => ?_, fun k d hd => ?_,
      fun s d hl => ?_⟩
    · rw [htable]
      refine (hserves.connection k).trans ?_
      rw [getElem?_ends_happen hx] at hy
      split at hy
      · rename_i hd
        cases hy
        rw [hd]
        exact h.session c x k hx (hrole.1 ▸ hk)
      · exact h.session d y k hy hk
    · rw [htable] at hd
      obtain ⟨y, hy, hk⟩ := h.inbound k d ((hserves.connection k).symm.trans hd)
      rw [getElem?_ends_happen hx]
      split
      · rename_i hdc
        subst hdc
        cases hx.symm.trans hy
        exact ⟨_, rfl, hrole.1.trans hk⟩
      · exact ⟨y, hy, hk⟩
    · rw [htable] at hl
      obtain ⟨y, hy, hanswer⟩ := h.client s d (hserves.client s d hl)
      rw [getElem?_ends_happen hx]
      split
      · rename_i hd
        subst hd
        cases hx.symm.trans hy
        exact ⟨_, rfl, hrole.2 _ hanswer⟩
      · exact ⟨y, hy, hanswer⟩

/-- Whatever a member does, it stays sound. -/
theorem change {a : Action α} (h : m.Sound) (hc : Change m a m') : m'.Sound := by
  cases hc with
  | quiet hq => exact hq.sound h
  | accept peer => exact h.accept peer
  | dialed _ _ hd => exact h.dials hd
  | install _ _ answer link => exact h.install answer link
  | clear _ _ _ hq => exact hq.sound (h.clear _ _)
  | event c e => exact h.happen c e

end Sound

omit [Vocabulary α] in
/-- Taking a link down links nothing. -/
theorem hasLink_of_clearClient (s : SystemId) (c : ConnectionId) {d : ConnectionId}
    (h : (m.withTable (m.table.clearClient s c)).HasLink d) : m.HasLink d := by
  obtain ⟨s', hs'⟩ := h
  obtain ⟨l, hl, hd⟩ := Option.bind_eq_some_iff.1 hs'
  change (m.table.clearClient s c).link? s' = some l at hl
  rw [LinkTable.link?_clearClient] at hl
  split at hl
  · cases hl
    cases hd
  · refine ⟨s', Option.bind_eq_some_iff.2 ⟨l, hl, ?_⟩⟩
    cases l with
    | disconnected => exact hd
    | client c => exact hd
    | session k =>
      change ((m.table.clearClient s c).sessions.get? k).map (·.connection) = some d at hd
      rwa [LinkTable.sessions_clearClient] at hd

theorem Change.config {a : Action α} (hc : Change m a m') : m'.config = m.config := by
  cases hc with
  | quiet hq => exact hq.config
  | accept peer => rfl
  | dialed _ _ hd => exact hd.config
  | install _ _ _ link => rfl
  | clear _ _ _ hq => exact hq.config
  | event c e =>
    unfold happen
    split <;> rfl

theorem Change.localId {a : Action α} (h : m.Sound) (hc : Change m a m') :
    m'.table.localId = m.table.localId := by
  cases hc with
  | quiet hq => exact hq.localId
  | accept peer => rfl
  | dialed _ _ hd => rw [table, hd.core, table]
  | install _ _ _ link =>
    obtain ⟨-, rfl⟩ := LinkTable.installClient_eq_some_iff.1 link
    rfl
  | clear _ _ _ hq =>
    refine hq.localId.trans ?_
    show (m.table.clearClient _ _).localId = _
    unfold LinkTable.clearClient
    split <;> rfl
  | event c e =>
    cases hx : m.ends[c.value]? with
    | none => rw [happen_of_none hx]
    | some x =>
      rw [table, core_happen hx]
      exact (Role.serves_step (fun k hk => ⟨c, h.session c x k hx hk⟩) x.connection e).1.localId

/-- All that an action makes of a connection whose event it is not is to queue packages, if it is
linked, or its end; and it leaves the session of the connection alone. -/
theorem Sound.fed_of_change {a : Action α} {c : ConnectionId} {x : LinkEnd} (h : m.Sound)
    (hc : Change m a m') (ha : ∀ e, a ≠ .event c e) (hx : m.ends[c.value]? = some x) :
    ∃ x', m'.ends[c.value]? = some x' ∧ x.Fed (m.HasLink c) x' ∧
      ∀ k, x.role.session? = some k →
        m'.table.sessions.binding? k = m.table.sessions.binding? k := by
  have hsame := LinkEnd.Fed.refl (m.HasLink c) x
  cases hc with
  | quiet hq =>
    obtain ⟨x', hx', hfed⟩ := hq.fed c x hx
    exact ⟨x', hx', hfed, fun k _ => by rw [hq.sessions]⟩
  | accept peer =>
    exact ⟨x, getElem?_ends_append_of_some hx, hsame,
      fun k _ => Sessions.binding?_create m.table.sessions m.nextConnection peer k⟩
  | dialed _ _ hd =>
    obtain ⟨queue, -, hends⟩ := hd.ends
    refine ⟨x, ?_, hsame, fun k _ => by rw [table, hd.core, table]⟩
    rw [hends]
    exact getElem?_ends_append_of_some hx
  | install _ _ _ link =>
    obtain ⟨-, rfl⟩ := LinkTable.installClient_eq_some_iff.1 link
    exact ⟨x, hx, hsame, fun k _ => rfl⟩
  | clear _ _ _ hq =>
    obtain ⟨x', hx', o, hfed, rfl⟩ := hq.fed c x hx
    refine ⟨_, hx', ⟨o, hfed.mono (hasLink_of_clearClient _ _), rfl⟩, fun k _ => ?_⟩
    rw [hq.sessions]
    exact congrArg (·.binding? k) (LinkTable.sessions_clearClient m.table _ _)
  | event d e =>
    have hd : d ≠ c := fun heq => ha e (by rw [heq])
    cases hy : m.ends[d.value]? with
    | none =>
      rw [happen_of_none hy]
      exact ⟨x, hx, hsame, fun _ _ => rfl⟩
    | some y =>
      refine ⟨x, by rw [getElem?_ends_happen hy, if_neg hd.symm, hx], hsame, fun k hk => ?_⟩
      have hhas : Role.Has m.table y.role := fun k hk => ⟨d, h.session d y k hy hk⟩
      rw [table, core_happen hy]
      refine (Role.serves_step hhas y.connection e).1.binding k fun hk' => hd ?_
      -- a session has one connection
      have hc := h.session c x k hx hk
      rw [h.session d y k hy hk'.symm] at hc
      exact Option.some.inj hc

/-- No connection is ever forgotten, and none becomes that of another session. -/
theorem Sound.becomes_of_change {a : Action α} {c : ConnectionId} {x : LinkEnd} (h : m.Sound)
    (hc : Change m a m') (hx : m.ends[c.value]? = some x) :
    ∃ x', m'.ends[c.value]? = some x' ∧ x.role.Becomes x'.role := by
  by_cases ha : ∃ e, a = .event c e
  · obtain ⟨e, rfl⟩ := ha
    cases hc with
    | quiet hq =>
      obtain ⟨x', hx', o, -, rfl⟩ := hq.fed c x hx
      exact ⟨_, hx', .refl _⟩
    | install _ _ _ _ => exact ⟨x, hx, .refl _⟩
    | clear _ _ _ hq =>
      obtain ⟨x', hx', o, -, rfl⟩ := hq.fed c x hx
      exact ⟨_, hx', .refl _⟩
    | event c e =>
      rw [getElem?_ends_happen hx, if_pos rfl]
      exact ⟨_, rfl, (Role.serves_step (fun k hk => ⟨c, h.session c x k hx hk⟩) x.connection e).2⟩
  · obtain ⟨x', hx', ⟨o, -, rfl⟩, -⟩ := h.fed_of_change hc (fun e heq => ha ⟨e, heq⟩) hx
    exact ⟨_, hx', .refl _⟩

/-! ### The connections of links -/

omit [Vocabulary α] in
/-- The connection of a link is one that the member dialed, or that of a session. -/
theorem linkConnection?_eq_some_iff {s : SystemId} {c : ConnectionId} :
    m.linkConnection? s = some c ↔ m.table.link? s = some (.client c) ∨
      ∃ k, m.table.link? s = some (.session k) ∧ m.table.connection? k = some c := by
  unfold linkConnection?
  cases m.table.link? s with
  | none => simp
  | some l => cases l <;> simp [connectionOf?, LinkTable.connection?]

omit [Vocabulary α] in
/-- A dialed connection is linked only if its registration was accepted. -/
theorem Sound.answer_of_hasLink {c : ConnectionId} {x : LinkEnd} (h : m.Sound)
    (hx : m.ends[c.value]? = some x) (hrole : x.role.session? = none) (hlink : m.HasLink c) :
    x.role.answer? = some .success := by
  obtain ⟨s, hs⟩ := hlink
  rcases linkConnection?_eq_some_iff.1 hs with hclient | ⟨k, -, hk⟩
  · obtain ⟨y, hy, hanswer⟩ := h.client s c hclient
    cases hx.symm.trans hy
    exact hanswer
  · obtain ⟨y, hy, hsession⟩ := h.inbound k c hk
    cases hx.symm.trans hy
    rw [hrole] at hsession
    cases hsession

omit [Vocabulary α] in
/-- An inbound connection is linked only if its session is bound. -/
theorem Sound.bound_of_hasLink {c : ConnectionId} {x : LinkEnd} {k : Ticket} (h : m.Sound)
    (hx : m.ends[c.value]? = some x) (hrole : x.role = .inbound k) (hlink : m.HasLink c) :
    m.table.sessions.binding? k ≠ none := by
  obtain ⟨s, hs⟩ := hlink
  rcases linkConnection?_eq_some_iff.1 hs with hclient | ⟨k', hsession, hk⟩
  · obtain ⟨y, hy, hanswer⟩ := h.client s c hclient
    cases hx.symm.trans hy
    rw [hrole] at hanswer
    cases hanswer
  · obtain ⟨y, hy, hsession'⟩ := h.inbound k' c hk
    cases hx.symm.trans hy
    rw [hrole] at hsession'
    cases hsession'
    rw [(h.paired s k).1 hsession]
    simp

omit [Vocabulary α] in
/-- The connection of a session that is bound is a link. -/
theorem Sound.linkConnection?_of_bound {s : SystemId} {c : ConnectionId} {x : LinkEnd} {k : Ticket}
    (h : m.Sound) (hx : m.ends[c.value]? = some x) (hrole : x.role.session? = some k)
    (hb : m.table.sessions.binding? k = some s) : m.linkConnection? s = some c :=
  linkConnection?_eq_some_iff.2 (.inr ⟨k, (h.paired s k).2 hb, h.session c x k hx hrole⟩)

/-- A lifecycle gets a connection only by dialing. -/
theorem Change.errand {a : Action α} (hc : Change m a m') {l : Lifecycle} {c : ConnectionId}
    (hl : l ∈ m'.lifecycles) (hcon : l.state.connection? = some c) :
    (∃ l₀ ∈ m.lifecycles, l₀.peer = l.peer ∧ l₀.state.connection? = some c) ∨
      ∃ i now peer l₀, a = .dialed i now (.ok peer) ∧ m.lifecycles[i]? = some l₀ ∧
        l₀.peer = l.peer ∧ c = m.nextConnection ∧ ∃ x, m'.ends[c.value]? = some x := by
  have hsome : l.state.connection? ≠ none := by simp [hcon]
  cases hc with
  | quiet hq => exact .inl ⟨l, hq.lifecycles l hl hsome, rfl, hcon⟩
  | accept peer => exact .inl ⟨l, hl, rfl, hcon⟩
  | @dialed i now peer _ _ _ _ hd =>
    rcases hd.lifecycles l hl hsome with hl | ⟨hstate, l₀, hl₀, hpeer⟩
    · exact .inl ⟨l, hl, rfl, hcon⟩
    · rw [hstate] at hcon
      obtain rfl : m.nextConnection = c := Option.some.inj hcon
      obtain ⟨queue, -, hends⟩ := hd.ends
      refine .inr ⟨i, now, peer, l₀, rfl, hl₀, hpeer.symm, rfl, ?_⟩
      rw [hends]
      exact ⟨_, List.getElem?_concat_length⟩
  | @install _ i l₀ d t before registering _ _ =>
    rcases mem_setLifecycle hl with hl | ⟨l₁, hl₁, rfl⟩
    · exact .inl ⟨l, hl, rfl, hcon⟩
    · cases before.symm.trans hl₁
      exact .inl ⟨l₀, List.mem_of_getElem? before, rfl, by rw [registering]; exact hcon⟩
  | clear _ _ _ hq => exact .inl ⟨l, hq.lifecycles l hl hsome, rfl, hcon⟩
  | event d e =>
    unfold happen at hl
    split at hl <;> exact .inl ⟨l, hl, rfl, hcon⟩

/-- A dialed connection becomes a link only by the lifecycle that dialed it. -/
theorem Change.client {a : Action α} (hc : Change m a m') (h : m.Sound) {s : SystemId}
    {c : ConnectionId} (hl : m'.table.link? s = some (.client c)) :
    m.table.link? s = some (.client c) ∨
      ∃ l ∈ m.lifecycles, l.peer.id = s ∧ l.state.connection? = some c := by
  cases hc with
  | quiet hq =>
    simp only [LinkTable.link?, hq.peers] at hl
    exact .inl hl
  | accept peer => exact .inl hl
  | dialed _ _ hd =>
    rw [table, hd.core] at hl
    exact .inl hl
  | @install _ i l d t before registering _ link =>
    change t.link? s = _ at hl
    rw [LinkTable.link?_installClient link] at hl
    split at hl
    · rename_i hs
      cases hl
      exact .inr ⟨l, List.mem_of_getElem? before, hs.symm, by rw [registering]; rfl⟩
    · exact .inl hl
  | clear _ _ _ hq =>
    simp only [LinkTable.link?, hq.peers] at hl
    change (m.table.clearClient _ _).link? s = _ at hl
    rw [LinkTable.link?_clearClient] at hl
    split at hl
    · cases hl
    · exact .inl hl
  | event d e =>
    cases hx : m.ends[d.value]? with
    | none =>
      rw [happen_of_none hx] at hl
      exact .inl hl
    | some x =>
      rw [table, core_happen hx] at hl
      have hhas : Role.Has m.table x.role := fun k hk => ⟨d, h.session d x k hx hk⟩
      exact .inl ((Role.serves_step hhas x.connection e).1.client s c hl)

/-! ### Members before anything happens -/

/-- A member that has only been made. -/
structure Fresh (m : Member α) (c : Config) : Prop where
  valid : c.validate = .ok ()
  config : m.config = c
  localId : m.table.localId = c.localId
  router : m.router = .new c.localId (.ofConfig c)
  ends : m.ends = []
  lifecycles : m.lifecycles = []
  sessions : m.table.sessions = .empty
  link : ∀ {s l}, m.table.link? s = some l → l = .disconnected

omit [Vocabulary α] in
theorem fresh_ofConfig {c : Config} (h : ofConfig c = .ok m) : m.Fresh c := by
  unfold ofConfig at h
  split at h
  · cases h
  · rename_i valid
    split at h
    · cases h
    · rename_i t ht
      cases h
      unfold LinkTable.ofConfig at ht
      split at ht
      · cases ht
      · cases ht
        refine ⟨valid, rfl, rfl, rfl, rfl, rfl, rfl, fun hl => ?_⟩
        obtain ⟨p, hp, rfl⟩ := Option.map_eq_some_iff.1 hl
        obtain ⟨j, config, -, -, -, rfl⟩ := LinkTable.of_get?_initialPeers hp
        rfl

omit [Vocabulary α] in
/-- The number of a member is one. -/
theorem Fresh.isNone_localId {c : Config} (h : m.Fresh c) : c.localId.isNone = false :=
  Config.isNone_localId h.valid

omit [Vocabulary α] in
theorem Fresh.sound {c : Config} (h : m.Fresh c) : m.Sound := by
  refine ⟨fun s k => ?_, fun d e k he => ?_, fun k d hd => ?_, fun s d hl => ?_⟩
  · constructor
    · intro hl
      cases h.link hl
    · rw [h.sessions]
      intro hb
      cases hb
  · rw [h.ends] at he
    cases he
  · rw [LinkTable.connection?, h.sessions] at hd
    cases hd
  · cases h.link hl

end Member

end ActorMesh
