import ActorMesh.Link.Role

/-!
# Runs of a link table

Everything that happens to the links of a member is one of six **operations**, and a **run** is any
sequence of them, in any order, that the member's connections can cause: a frame comes in only on a
session that was opened and has not ended, and only a peer that is dialed gets a dialed connection.

An operation has one of four **effects** (`Effect`): it leaves links and bindings alone, it starts
the links, one link comes up or one link goes down. Everything that holds of a run is read off the
effects. What carries the induction is `Sound`: the sessions that are linked are the ones that are
bound, and `connected` counts what it is meant to count.
-/

namespace ActorMesh

/-- Whether a link is of the kind that a peer can have, given whether it is dialed. -/
def PeerLink.Suits (dialed : Bool) : PeerLink → Prop
  | .disconnected => True
  | .client _ => dialed = true
  | .session _ => dialed = false

namespace LinkTable

/-- What happens to the links of a member. -/
inductive Operation
  /-- They are asked to start, with a listener or without one. -/
  | start (hasListener : Bool)
  /-- A peer opens a connection. -/
  | accept (c : ConnectionId) (peer : Option Address)
  /-- A request for registration comes in on a session. -/
  | register (k : Ticket) (payload : Octets)
  /-- The connection of a session is gone. -/
  | disconnect (k : Ticket)
  /-- A peer accepted the registration on a dialed connection. -/
  | install (s : SystemId) (c : ConnectionId)
  /-- A dialed connection is gone. -/
  | clear (s : SystemId) (c : ConnectionId)
  deriving DecidableEq

namespace Operation

/-- Whether the links are asked to start. -/
def isStart : Operation → Bool
  | start _ => true
  | _ => false

/-- Whether a session is opened. -/
def isAccept : Operation → Bool
  | accept .. => true
  | _ => false

end Operation

/-- The table after an operation. -/
def after (t : LinkTable) : Operation → LinkTable
  | .start hasListener => (t.start hasListener).table
  | .accept c peer => { t with sessions := (t.sessions.create c peer).2 }
  | .register k payload => (Inbound.admission t k payload).2.1
  | .disconnect k => t.endSession k
  | .install s c => (t.installClient s c).getD t
  | .clear s c => t.clearClient s c

/-- A session is live if it was opened and has not ended. -/
def Live (ops : List Operation) (k : Ticket) : Prop :=
  k.value < ops.countP Operation.isAccept ∧ .disconnect k ∉ ops

instance (ops : List Operation) (k : Ticket) : Decidable (Live ops k) :=
  inferInstanceAs (Decidable (_ ∧ _))

/-- Whether an operation can follow those that led to a table. -/
def Possible (ops : List Operation) (t : LinkTable) : Operation → Prop
  | .register k _ => Live ops k
  | .install s _ | .clear s _ => t.dials? s = some true
  | .start _ | .accept .. | .disconnect _ => True

instance (ops : List Operation) (t : LinkTable) : (op : Operation) → Decidable (Possible ops t op)
  | .register k _ => inferInstanceAs (Decidable (Live ops k))
  | .install s _ | .clear s _ => inferInstanceAs (Decidable (t.dials? s = some true))
  | .start _ | .accept .. | .disconnect _ => inferInstanceAs (Decidable True)

/-- The tables that operations lead to, from a table on. -/
inductive Run (t₀ : LinkTable) : List Operation → LinkTable → Prop
  | nil : Run t₀ [] t₀
  | snoc {ops : List Operation} {t : LinkTable} (op : Operation) (run : Run t₀ ops t)
      (possible : Possible ops t op) : Run t₀ (ops ++ [op]) (t.after op)

/-! ### Registration -/

/-- The member that an inbound request registers, if it is one that can be linked. -/
def Admits (t : LinkTable) (k : Ticket) (payload : Octets) (s : SystemId) : Prop :=
  SystemId.layout.decode payload = .ok s ∧ t.dials? s = some false ∧
    t.link? s = some .disconnected ∧ t.sessions.binding? k = none

/-- A refused registration is not told as a success. -/
theorem ne_success_of_bindSession_eq_error {t : LinkTable} {s : SystemId} {k : Ticket}
    {code : ErrorCode} (h : t.bindSession s k = .error code) : code ≠ .success := by
  unfold bindSession at h
  repeat' split at h
  all_goals cases h
  all_goals decide

theorem admission_of_admits {t : LinkTable} {k : Ticket} {payload : Octets} {s : SystemId}
    (h : t.Admits k payload s) :
    ∃ t', t.bindSession s k = .ok t' ∧ Inbound.admission t k payload = (.success, t', []) := by
  obtain ⟨hd, hdials, hlink, hb⟩ := h
  have hbind := bindSession_eq_ok_iff.2 ⟨hdials, hlink, hb, rfl⟩
  exact ⟨_, hbind, by simp [Inbound.admission, hd, hb, hbind]⟩

/-- A registration that cannot be admitted is refused and changes nothing. -/
theorem admission_of_not_admits {t : LinkTable} {k : Ticket} {payload : Octets}
    (h : ∀ s, ¬ t.Admits k payload s) :
    (Inbound.admission t k payload).1 ≠ .success ∧ (Inbound.admission t k payload).2.1 = t := by
  unfold Inbound.admission
  cases hd : SystemId.layout.decode payload with
  | error e => exact ⟨by simp only [ne_eq]; decide, rfl⟩
  | ok s =>
    cases hb : t.sessions.binding? k with
    | some s' => exact ⟨by simp only [Option.isSome_some, if_true, ne_eq]; decide, by simp⟩
    | none =>
      cases hbind : t.bindSession s k with
      | ok t' =>
        obtain ⟨hdials, hlink, -, -⟩ := bindSession_eq_ok_iff.1 hbind
        exact absurd ⟨hd, hdials, hlink, hb⟩ (h s)
      | error code =>
        exact ⟨by simpa [hbind] using ne_success_of_bindSession_eq_error hbind, by simp [hbind]⟩

/-- A registration changes nothing, or it binds the session of whoever it admits. -/
theorem table_admission (t : LinkTable) (k : Ticket) (payload : Octets) :
    (Inbound.admission t k payload).2.1 = t ∨
      ∃ s, t.Admits k payload s ∧ t.bindSession s k = .ok (Inbound.admission t k payload).2.1 := by
  by_cases h : ∃ s, t.Admits k payload s
  · obtain ⟨s, hs⟩ := h
    obtain ⟨t', hbind, hadm⟩ := admission_of_admits hs
    refine .inr ⟨s, hs, ?_⟩
    rw [hadm]
    exact hbind
  · exact .inl (admission_of_not_admits fun s hs => h ⟨s, hs⟩).2

/-! ### Effects -/

/-- What an operation makes of a table. -/
inductive Effect (t t' : LinkTable) : Prop
  /-- No link changes. -/
  | none (link : ∀ s, t'.link? s = t.link? s)
      (binding : ∀ k, t'.sessions.binding? k = t.sessions.binding? k)
      (started : t'.started = t.started) (connected : t'.connected = t.connected)
  /-- The links start. -/
  | start (link : ∀ s, t'.link? s = t.link? s)
      (binding : ∀ k, t'.sessions.binding? k = t.sessions.binding? k)
      (before : t.started = false) (started : t'.started = true)
      (connected : t'.connected = t.connected + 1)
  /-- The link of a peer comes up; if it is a session, that is bound to the peer. -/
  | up (s : SystemId) (l : PeerLink) (dialed : Bool) (dials : t.dials? s = some dialed)
      (suits : l.Suits dialed) (isUp : l ≠ .disconnected) (before : t.link? s = some .disconnected)
      (free : ∀ k, l = .session k → t.sessions.binding? k = none)
      (link : ∀ s', t'.link? s' = if s' = s then some l else t.link? s')
      (binding : ∀ k, t'.sessions.binding? k =
        if l = .session k then some s else t.sessions.binding? k)
      (started : t'.started = t.started) (connected : t'.connected = t.connected + 1)
  /-- The link of a peer goes down; if it was a session, that is free. -/
  | down (s : SystemId) (l : PeerLink) (isUp : l ≠ .disconnected) (before : t.link? s = some l)
      (link : ∀ s', t'.link? s' = if s' = s then some .disconnected else t.link? s')
      (binding : ∀ k, t'.sessions.binding? k =
        if l = .session k then Option.none else t.sessions.binding? k)
      (started : t'.started = t.started) (connected : t'.connected = t.connected - 1)

/-- The sessions that are linked are those that are bound. -/
def Paired (t : LinkTable) : Prop :=
  ∀ s k, t.link? s = some (.session k) ↔ t.sessions.binding? k = some s

theorem effect_start (t : LinkTable) (hasListener : Bool) :
    Effect t (t.start hasListener).table := by
  unfold LinkTable.start
  cases hs : t.started with
  | true => exact .none (fun _ => rfl) (fun _ => rfl) rfl rfl
  | false =>
    have hup : Effect t { t with started := true, connected := t.connected + 1 } :=
      .start (fun _ => rfl) (fun _ => rfl) hs rfl rfl
    simp only [Bool.false_eq_true, if_false]
    split <;> exact hup

theorem effect_accept (t : LinkTable) (c : ConnectionId) (peer : Option Address) :
    Effect t { t with sessions := (t.sessions.create c peer).2 } :=
  .none (fun _ => rfl) (t.sessions.binding?_create c peer) rfl rfl

theorem effect_bindSession {t t' : LinkTable} {s : SystemId} {k : Ticket}
    (hk : k.value < t.sessions.made.length) (h : t.bindSession s k = .ok t') : Effect t t' := by
  have hlinks := link?_bindSession h
  obtain ⟨hdials, hlink, hfree, rfl⟩ := bindSession_eq_ok_iff.1 h
  refine .up s (.session k) false hdials rfl (by simp) hlink ?_ hlinks ?_ rfl rfl
  · rintro k' ⟨⟩
    exact hfree
  · intro k'
    rw [Sessions.binding?_bind s hk]
    simp [eq_comm]

theorem effect_register {t : LinkTable} {k : Ticket} (hk : k.value < t.sessions.made.length)
    (payload : Octets) : Effect t (Inbound.admission t k payload).2.1 := by
  rcases table_admission t k payload with hsame | ⟨s, -, hbind⟩
  · rw [hsame]
    exact .none (fun _ => rfl) (fun _ => rfl) rfl rfl
  · exact effect_bindSession hk hbind

/-- A bound session holds the link of its peer, so its end takes that down. -/
theorem effect_endSession {t : LinkTable} (hp : t.Paired) (k : Ticket) :
    Effect t (t.endSession k) := by
  cases hb : t.sessions.binding? k with
  | none =>
    -- nothing was bound to the session, so only the session itself is forgotten
    refine .none ?_ ?_ (started_endSession t k) ?_
    · intro s
      simp [link?_endSession, hb]
    · intro k'
      rw [binding?_endSession]
      split
      · rename_i h
        rw [h, hb]
      · rfl
    · simp [connected_endSession, hb]
  | some s =>
    have hlink := (hp s k).2 hb
    refine .down s (.session k) (by simp) hlink ?_ ?_ (started_endSession t k) ?_
    · intro s'
      rw [link?_endSession, hb]
      by_cases hs : s' = s
      · subst hs
        simp [hlink]
      · simp [hs, Ne.symm hs]
    · intro k'
      rw [binding?_endSession]
      simp [eq_comm]
    · rw [connected_endSession, if_pos ⟨s, hb, hlink⟩]

theorem effect_installClient {t : LinkTable} {s : SystemId} (hd : t.dials? s = some true)
    (c : ConnectionId) : Effect t ((t.installClient s c).getD t) := by
  cases h : t.installClient s c with
  | none => exact .none (fun _ => rfl) (fun _ => rfl) rfl rfl
  | some t' =>
    have hlinks := link?_installClient h
    obtain ⟨hlink, rfl⟩ := installClient_eq_some_iff.1 h
    exact .up s (.client c) true hd rfl (by simp) hlink (by simp) hlinks (by intro; rfl) rfl rfl

theorem effect_clearClient (t : LinkTable) (s : SystemId) (c : ConnectionId) :
    Effect t (t.clearClient s c) := by
  have hlinks := fun s' => link?_clearClient t s s' c
  unfold clearClient at hlinks ⊢
  by_cases h : t.link? s = some (.client c)
  · rw [if_pos h] at hlinks ⊢
    refine .down s (.client c) (by simp) h ?_ (by intro; rfl) rfl rfl
    intro s'
    rw [hlinks, h]
    simp
  · rw [if_neg h]
    exact .none (fun _ => rfl) (fun _ => rfl) rfl rfl

/-! ### What every operation keeps -/

/-- What an operation leaves alone: who dials whom never changes, only a request to start starts
the links, only a connection of a peer makes a session, and only registering on it binds one. -/
structure Kept (t t' : LinkTable) (op : Operation) : Prop where
  dials : ∀ s, t'.dials? s = t.dials? s
  started : t'.started = (t.started || op.isStart)
  made : t'.sessions.made.length = t.sessions.made.length + if op.isAccept then 1 else 0
  binding : ∀ k s, t'.sessions.binding? k = some s →
    t.sessions.binding? k = some s ∨ ∃ payload, op = .register k payload

theorem kept_self {t : LinkTable} {op : Operation} (hs : op.isStart = false)
    (ha : op.isAccept = false) : Kept t t op :=
  ⟨fun _ => rfl, by rw [hs, Bool.or_false], by rw [ha]; rfl, fun _ _ => .inl⟩

theorem kept_after (t : LinkTable) (op : Operation) : Kept t (t.after op) op := by
  cases op with
  | start hasListener =>
    have hup : Kept t { t with started := true, connected := t.connected + 1 }
        (.start hasListener) := ⟨fun _ => rfl, (Bool.or_true _).symm, rfl, fun _ _ => .inl⟩
    simp only [after, LinkTable.start]
    cases hs : t.started with
    | true => exact ⟨fun _ => rfl, by simp [Operation.isStart, hs], rfl, fun _ _ => .inl⟩
    | false =>
      simp only [Bool.false_eq_true, if_false]
      split <;> exact hup
  | accept c peer =>
    refine ⟨fun _ => rfl, (Bool.or_false _).symm, ?_, fun k s h => .inl ?_⟩
    · simp [after, Sessions.create, Operation.isAccept]
    · rwa [after, Sessions.binding?_create] at h
  | register k payload =>
    simp only [after]
    rcases table_admission t k payload with hsame | ⟨s, -, hbind⟩
    · rw [hsame]
      exact kept_self rfl rfl
    · obtain ⟨-, -, -, htable⟩ := bindSession_eq_ok_iff.1 hbind
      rw [htable]
      refine ⟨fun s' => dials?_setLink t s s' (.session k), (Bool.or_false _).symm,
        Sessions.length_made_modify t.sessions k _, fun k' s' h => ?_⟩
      by_cases hk : k' = k
      · exact .inr ⟨payload, by rw [hk]⟩
      · refine .inl ?_
        simpa [Sessions.binding?, Sessions.get?_modify, hk] using h
  | disconnect k =>
    refine ⟨dials?_endSession t k, by simp [after, Operation.isStart],
      length_made_endSession t k, fun k' s h => .inl ?_⟩
    rw [after, binding?_endSession] at h
    split at h
    · cases h
    · exact h
  | install s c =>
    simp only [after]
    cases h : t.installClient s c with
    | none => exact kept_self rfl rfl
    | some t' =>
      obtain ⟨-, rfl⟩ := installClient_eq_some_iff.1 h
      exact ⟨fun s' => dials?_setLink t s s' (.client c), (Bool.or_false _).symm, rfl,
        fun _ _ => .inl⟩
  | clear s c =>
    simp only [after, clearClient]
    split
    · exact ⟨fun s' => dials?_setLink t s s' .disconnected, (Bool.or_false _).symm, rfl,
        fun _ _ => .inl⟩
    · exact kept_self rfl rfl

/-! ### The invariant -/

/-- Whether the link of a peer is up. -/
def isUp (t : LinkTable) (s : SystemId) : Bool := (t.link? s).any (·.isConnected)

theorem isUp_eq {t : LinkTable} {s : SystemId} {l : PeerLink} (h : t.link? s = some l) :
    t.isUp s = l.isConnected := by
  simp [isUp, h]

/-- What holds after any operations: the sessions that are linked are the ones that are bound, every
link is of the kind its peer can have, and `connected` counts the links that are up, of the peers
with the given numbers, and the member itself once its links have been started. -/
structure Sound (ids : List SystemId) (t : LinkTable) : Prop where
  paired : t.Paired
  suits : ∀ {s dialed l}, t.dials? s = some dialed → t.link? s = some l → l.Suits dialed
  known : ∀ {s l}, t.link? s = some l → s ∈ ids
  connected : t.connected = (if t.started then 1 else 0) + ids.countP t.isUp

/-- One more element is counted where one comes to satisfy the predicate. -/
theorem countP_eq_succ {ids : List SystemId} {s : SystemId} {p q : SystemId → Bool}
    (hnd : ids.Nodup) (hs : s ∈ ids) (hp : p s = false) (hq : q s = true)
    (heq : ∀ x, x ≠ s → q x = p x) : ids.countP q = ids.countP p + 1 := by
  induction ids with
  | nil => cases hs
  | cons x rest ih =>
    obtain ⟨hx, hrest⟩ := List.nodup_cons.1 hnd
    rcases List.mem_cons.1 hs with rfl | hs
    · have hsame : rest.countP q = rest.countP p :=
        List.countP_congr fun y hy => by rw [heq y fun h => hx (h ▸ hy)]
      simp [hp, hq, hsame]
    · have hne : x ≠ s := fun h => hx (h ▸ hs)
      rw [List.countP_cons, List.countP_cons, heq x hne, ih hrest hs]
      omega

section

variable {ids : List SystemId} {t t' : LinkTable}

theorem Sound.countP_of_up (h : Sound ids t) (hnd : ids.Nodup) {s : SystemId} {l : PeerLink}
    (isUp : l ≠ .disconnected) (before : t.link? s = some .disconnected)
    (link : ∀ s', t'.link? s' = if s' = s then some l else t.link? s') :
    ids.countP t'.isUp = ids.countP t.isUp + 1 := by
  have hself : t'.link? s = some l := by simp [link]
  refine countP_eq_succ hnd (h.known before) (isUp_eq before) ?_ ?_
  · rw [isUp_eq hself]
    simpa [PeerLink.isConnected] using isUp
  · intro x hx
    simp only [LinkTable.isUp, link, if_neg hx]

theorem Sound.countP_of_down (h : Sound ids t) (hnd : ids.Nodup) {s : SystemId} {l : PeerLink}
    (isUp : l ≠ .disconnected) (before : t.link? s = some l)
    (link : ∀ s', t'.link? s' = if s' = s then some .disconnected else t.link? s') :
    ids.countP t.isUp = ids.countP t'.isUp + 1 := by
  have hself : t'.link? s = some .disconnected := by simp [link]
  refine countP_eq_succ hnd (h.known before) (isUp_eq hself) ?_ ?_
  · rw [isUp_eq before]
    simpa [PeerLink.isConnected] using isUp
  · intro x hx
    simp only [LinkTable.isUp, link, if_neg hx]

/-- A link that comes up takes no session that is linked elsewhere. -/
theorem paired_of_up (h : t.Paired) {s : SystemId} {l : PeerLink}
    (before : t.link? s = some .disconnected)
    (free : ∀ k, l = .session k → t.sessions.binding? k = none)
    (link : ∀ s', t'.link? s' = if s' = s then some l else t.link? s')
    (binding : ∀ k, t'.sessions.binding? k =
      if l = .session k then some s else t.sessions.binding? k) : t'.Paired := by
  intro s' k
  rw [link, binding]
  by_cases hs : s' = s
  · subst hs
    by_cases hl : l = .session k
    · simp [hl]
    · -- a session bound to the peer would have been its link, but that was down
      have hnot : t.sessions.binding? k ≠ some s' := fun hk => by
        simp [(h s' k).2 hk] at before
      simp [hl, hnot]
  · by_cases hl : l = .session k
    · have hnot : t.link? s' ≠ some (.session k) := fun hk => by
        have hbound := (h s' k).1 hk
        rw [free k hl] at hbound
        cases hbound
      simp [hl, hs, Ne.symm hs, hnot]
    · simp [hs, hl, h s' k]

/-- A link that goes down leaves no session bound that is not linked. -/
theorem paired_of_down (h : t.Paired) {s : SystemId} {l : PeerLink} (before : t.link? s = some l)
    (link : ∀ s', t'.link? s' = if s' = s then some .disconnected else t.link? s')
    (binding : ∀ k, t'.sessions.binding? k =
      if l = .session k then none else t.sessions.binding? k) : t'.Paired := by
  intro s' k
  rw [link, binding]
  by_cases hl : l = .session k
  · subst hl
    have hbound := (h s k).1 before
    by_cases hs : s' = s
    · simp [hs]
    · have hnot : t.link? s' ≠ some (.session k) := fun hk => by
        rw [(h s' k).1 hk] at hbound
        exact hs (Option.some.inj hbound)
      simp [hs, hnot]
  · by_cases hs : s' = s
    · subst hs
      have hnot : t.sessions.binding? k ≠ some s' := fun hk => by
        rw [(h s' k).2 hk] at before
        exact hl (Option.some.inj before).symm
      simp [hl, hnot]
    · simp [hs, hl, h s' k]

theorem Sound.of_effect (h : Sound ids t) (hnd : ids.Nodup)
    (hd : ∀ s, t'.dials? s = t.dials? s) (he : Effect t t') : Sound ids t' := by
  have hknown : ∀ {s l}, t'.link? s = some l → s ∈ ids := by
    intro s l hl
    -- who is dialed never changes, so whoever has a link now had one before
    have hsome : (t.link? s).isSome = true := by
      rw [isSome_link?, ← hd, ← isSome_link?, hl]
      rfl
    obtain ⟨l', hl'⟩ := Option.isSome_iff_exists.1 hsome
    exact h.known hl'
  have hsame : (∀ s, t'.link? s = t.link? s) → ids.countP t'.isUp = ids.countP t.isUp :=
    fun link => List.countP_congr fun s _ => by simp only [isUp, link]
  have hcount := h.connected
  cases he with
  | none link binding started connected =>
    refine ⟨fun s k => by rw [link, binding, h.paired s k], fun hs hl => ?_, hknown, ?_⟩
    · exact h.suits (by rw [← hd, hs]) (by rw [← link, hl])
    · rw [connected, started, hsame link, hcount]
  | start link binding before started connected =>
    refine ⟨fun s k => by rw [link, binding, h.paired s k], fun hs hl => ?_, hknown, ?_⟩
    · exact h.suits (by rw [← hd, hs]) (by rw [← link, hl])
    · rw [before] at hcount
      rw [connected, started, hsame link, hcount]
      simp only [Bool.false_eq_true, if_false, if_true]
      omega
  | up s l dialed dials suits isUp before free link binding started connected =>
    refine ⟨paired_of_up h.paired before free link binding, fun {s'} {d} {l'} hs hl => ?_, hknown,
      ?_⟩
    · rw [link] at hl
      split at hl
      · rename_i heq
        rw [hd, heq, dials] at hs
        cases hs
        cases hl
        exact suits
      · exact h.suits (by rw [← hd, hs]) hl
    · rw [connected, started, h.countP_of_up hnd isUp before link, hcount]
      omega
  | down s l isUp before link binding started connected =>
    refine ⟨paired_of_down h.paired before link binding, fun {s'} {d} {l'} hs hl => ?_, hknown, ?_⟩
    · rw [link] at hl
      split at hl
      · cases hl
        trivial
      · exact h.suits (by rw [← hd, hs]) hl
    · have hdown := h.countP_of_down hnd isUp before link
      rw [connected, started]
      omega

end

/-! ### Runs -/

/-- What a run from a table without links and sessions leads to. -/
structure Traced (t₀ : LinkTable) (ids : List SystemId) (ops : List Operation) (t : LinkTable) :
    Prop where
  sound : Sound ids t
  dials : ∀ s, t.dials? s = t₀.dials? s
  started : t.started = ops.any Operation.isStart
  made : t.sessions.made.length = ops.countP Operation.isAccept
  /-- A session that has ended is bound to nothing any more. -/
  ended : ∀ k, .disconnect k ∈ ops → t.sessions.binding? k = none

theorem effect_after {ids : List SystemId} {t₀ t : LinkTable} {ops : List Operation}
    {op : Operation} (h : Traced t₀ ids ops t) (possible : Possible ops t op) :
    Effect t (t.after op) := by
  cases op with
  | start hasListener => exact effect_start t hasListener
  | accept c peer => exact effect_accept t c peer
  | register k payload => exact effect_register (by rw [h.made]; exact possible.1) payload
  | disconnect k => exact effect_endSession h.sound.paired k
  | install s c => exact effect_installClient possible c
  | clear s c => exact effect_clearClient t s c

theorem Traced.snoc {ids : List SystemId} {t₀ t : LinkTable} {ops : List Operation}
    {op : Operation} (h : Traced t₀ ids ops t) (hnd : ids.Nodup)
    (possible : Possible ops t op) : Traced t₀ ids (ops ++ [op]) (t.after op) := by
  have kept := kept_after t op
  refine ⟨h.sound.of_effect hnd kept.dials (effect_after h possible),
    fun s => by rw [kept.dials, h.dials], by simp [kept.started, h.started], ?_, ?_⟩
  · simp only [kept.made, h.made, List.countP_append, List.countP_cons, List.countP_nil,
      Nat.zero_add]
  · intro k hended
    rcases List.mem_append.1 hended with hk | hk
    · -- the session had ended before, so this operation is no registration on it
      cases hb : (t.after op).sessions.binding? k with
      | none => rfl
      | some s =>
        rcases kept.binding k s hb with hb | ⟨payload, rfl⟩
        · rw [h.ended k hk] at hb
          cases hb
        · exact absurd hk possible.2
    · obtain rfl := List.mem_singleton.1 hk
      simp [after, binding?_endSession]

theorem Run.traced {ids : List SystemId} {t₀ t : LinkTable} {ops : List Operation}
    (h : Run t₀ ops t) (hnd : ids.Nodup) (h₀ : Traced t₀ ids [] t₀) : Traced t₀ ids ops t := by
  induction h with
  | nil => exact h₀
  | snoc op _ possible ih => exact ih.snoc hnd possible

end LinkTable

end ActorMesh
