import ActorMesh.Proofs.Cluster.Network
import ActorMesh.Proofs.Links.Accounting
import ActorMesh.Proofs.Links.Handshake
import ActorMesh.Sample
import Mathlib.Data.Fintype.Basic

/-!
# The two ends of a link agree

A member takes a connection that it dialed for the link to a peer when it has the answer of the
peer, and the peer takes the session for its link when it writes that answer; in between either end
may lose the connection, dial again or hear from somebody else who registers under the same number.
All the same the two ends agree (`Cluster.agree_of_run`): as long as the peer has not noticed the
end of the connection, its own link is the session of this very connection.

The invariant (`Cluster.Agreed`) tells how far the registration has come on each connection
(`Handshake`), and that what a lifecycle or a link knows as a connection to a member leads there.
-/

namespace ActorMesh.Cluster

variable {ι α : Type} {n n₀ : Cluster ι α}

/-- A connection that both of its members have as the link between them. -/
structure Joined (n : Cluster ι α) (a b : ι) (c d : ConnectionId) : Prop where
  far : n.far (a, c) = some (b, d)
  here : (n.member a).linkConnection? (n.systemId b) = some c
  there : (n.member b).linkConnection? (n.systemId a) = some d

/-- What a member `a` and a member `b` that it dials have in common about the link between them. -/
structure Agree (n : Cluster ι α) (a b : ι) : Prop where
  /-- A connection that `a` has as its link leads to `b`, and until `b` has noticed the end of it,
  it has the session of this connection as its own link, and no other session is bound to `a`. -/
  session : ∀ c, (n.member a).table.link? (n.systemId b) = some (.client c) →
    ∃ d k y, n.far (a, c) = some (b, d) ∧ n.end? (b, d) = some y ∧ y.role = .inbound k ∧
      (y.connection.phase ≠ .ended →
        (n.member b).table.link? (n.systemId a) = some (.session k) ∧
        (n.member b).table.connection? k = some d ∧
        ∀ k', (n.member b).table.sessions.binding? k' = some (n.systemId a) → k' = k)
  /-- If both have a link, it is the same connection, unless `b` has noticed that what `a` has as
  its link has ended. -/
  same : ∀ c d', (n.member a).table.link? (n.systemId b) = some (.client c) →
    (n.member b).linkConnection? (n.systemId a) = some d' → n.far (a, c) = some (b, d') ∨
      ∃ d y, n.far (a, c) = some (b, d) ∧ n.end? (b, d) = some y ∧ y.connection.phase = .ended
  /-- No two connections are linked at both ends. -/
  single : ∀ c d c' d', n.Joined a b c d → n.Joined a b c' d' → c = c' ∧ d = d'

/-- Whether a connection leads to the member with a number, if there is one, and to no other. -/
def Leads (n : Cluster ι α) (a : ι) (c : ConnectionId) (s : SystemId) : Prop :=
  ∀ b, s = n.systemId b ↔ ∃ d, n.far (a, c) = some (b, d)

/-- What holds of the registrations in a cluster, whatever happens. -/
structure Agreed (n : Cluster ι α) : Prop where
  wired : n.Wired
  /-- One end of a connection dialed. -/
  dialed : ∀ {p q x y}, n.far p = some q → n.end? p = some x → n.end? q = some y →
    x.role.session? = none ∨ y.role.session? = none
  /-- On every connection the registration has come so far and no further. -/
  handshake : ∀ {p q x y}, n.far p = some q → n.end? p = some x → n.end? q = some y →
    x.role.session? = none → ∃ k, y.role = .inbound k ∧
      Handshake (n.systemId p.1) k x y (n.member q.1).table (n.flying p) (n.flying q)
  /-- The connection of a lifecycle is there, and it leads to the peer and to nobody else. -/
  errand : ∀ {a l c}, l ∈ (n.member a).lifecycles → l.state.connection? = some c →
    (∃ x, n.end? (a, c) = some x) ∧ n.Leads a c l.peer.id
  client : ∀ {a s c}, (n.member a).table.link? s = some (.client c) → n.Leads a c s

namespace Agreed

variable [DecidableEq ι] [Vocabulary α] {m : Move ι α} {p q : Tip ι} {x y : LinkEnd}

/-- The registration on a connection goes on by what happens at either tip. -/
theorem handshake_after (h : n.Agreed) (possible : n.Possible m) (hfar : n.far p = some q)
    (hx : n.end? p = some x) (hy : n.end? q = some y) {x' y' : LinkEnd}
    (hx' : (n.after m).end? p = some x') (hy' : (n.after m).end? q = some y')
    (hrole : x'.role.session? = none) :
    ∃ k, y'.role = .inbound k ∧ Handshake (n.systemId p.1) k x' y' ((n.after m).member q.1).table
      ((n.after m).flying p) ((n.after m).flying q) := by
  obtain ⟨x'', hx'', hbecomes⟩ := h.wired.becomes_after hx m
  obtain ⟨y'', hy'', hbecomes'⟩ := h.wired.becomes_after hy m
  cases hx'.symm.trans hx''
  cases hy'.symm.trans hy''
  have houtbound : x.role.session? = none := hbecomes.1.symm.trans hrole
  obtain ⟨k, hk, hshake⟩ := h.handshake hfar hx hy houtbound
  have hsession : y.role.session? = some k := by
    rw [hk]
    rfl
  refine ⟨k, Role.eq_inbound_of_session? (hbecomes'.1.trans hsession), ?_⟩
  cases h.wired.passes possible hfar hx hy hx' hy' with
  | near e _ read _ other forth back =>
    rw [forth, back, other]
    exact hshake.dialer_step houtbound read
  | far e _ read core _ forth back =>
    rw [forth, back, Member.table, core]
    exact hshake.listener_step hk ((h.wired.sound q.1).session q.2 y k hy hsession) read
  | aside _ _ fed fed' binding forth back =>
    rw [forth, back]
    exact hshake.fed fed ((h.wired.sound p.1).answer_of_hasLink hx houtbound) fed'
      ((h.wired.sound q.1).bound_of_hasLink hy hk) (binding k hsession)

/-- A connection that is there leads where it led. -/
theorem leads_after (h : n.Agreed) (m : Move ι α) {a : ι} {c : ConnectionId} {s : SystemId}
    (hthere : ∃ x, n.end? (a, c) = some x) (hleads : n.Leads a c s) :
    (∃ x, (n.after m).end? (a, c) = some x) ∧ (n.after m).Leads a c s := by
  obtain ⟨x, hx⟩ := hthere
  obtain ⟨x', hx', -⟩ := h.wired.becomes_after hx m
  refine ⟨⟨x', hx'⟩, fun b => ?_⟩
  rw [h.wired.systemId_after, hleads b]
  refine exists_congr fun d => ⟨fun hd => h.wired.far_after hd m, fun hd => ?_⟩
  -- a move joins only connections that were not there
  have hnew : ∀ b, (a, c) ≠ n.nextTip b := fun b heq => by
    rw [heq, end?_nextTip] at hx
    cases hx
  rcases far_join hd with hd | ⟨a', b', i, now, peer, origin, -, ⟨heq, -⟩ | ⟨heq, -⟩⟩
  · exact hd
  · exact absurd heq (hnew a')
  · exact absurd heq (hnew b')

/-- Whoever dials a member reaches that member, and nobody else reaches one. -/
theorem leads_dialed (h : n.Agreed) (possible : n.Possible m) {a : ι} {i now : Nat}
    {peer : Option Address} {l : Lifecycle} (hm : m.at? a = some (.dialed i now (.ok peer)))
    (hl : (n.member a).lifecycles[i]? = some l) :
    (n.after m).Leads a (n.member a).nextConnection l.peer.id := by
  intro b
  rw [h.wired.systemId_after]
  cases m with
  | act a' y =>
    simp only [Move.at?] at hm
    split at hm
    · rename_i ha
      subst ha
      cases hm
      refine iff_of_false (fun hb => possible l hl b hb.symm) ?_
      rintro ⟨d, hd⟩
      exact h.wired.ne_nextTip (show n.far (n.nextTip a) = some (b, d) from hd) a rfl
    · cases hm
  | dial a' b' i' now' peer' origin =>
    simp only [Move.at?] at hm
    split at hm
    · cases hm
    · split at hm
      · rename_i ha
        subst ha
        cases hm
        obtain ⟨hne, l', hl', -, hreached⟩ := possible
        cases hl.symm.trans (Option.mem_def.1 hl')
        have hne' : n.nextTip a ≠ n.nextTip b' := fun heq => hne (congrArg Prod.fst heq)
        have hfar : (n.after (.dial a b' i now peer origin)).far
            (a, (n.member a).nextConnection) = some (n.nextTip b') := by
          refine Eq.trans (b := n.join (.dial a b' i now peer origin) (n.nextTip a)) rfl ?_
          simp only [join, Function.update_of_ne hne', Function.update_self]
        rw [hfar, hreached, h.wired.distinct.eq_iff]
        constructor
        · rintro rfl
          exact ⟨_, rfl⟩
        · rintro ⟨d, hd⟩
          exact congrArg Prod.fst (Option.some.inj hd)
      · cases hm

/-- Whatever happens, the registrations go as they should. -/
theorem after (h : n.Agreed) (possible : n.Possible m) : (n.after m).Agreed where
  wired := h.wired.after possible
  dialed {p q x' y'} hfar hx' hy' := by
    rcases far_join hfar with hfar | ⟨a, b, i, now, peer, origin, rfl, ⟨rfl, rfl⟩ | ⟨rfl, rfl⟩⟩
    · obtain ⟨x, hx⟩ := h.wired.there hfar
      obtain ⟨y, hy⟩ := h.wired.there (h.wired.symm hfar)
      obtain ⟨x'', hx'', hbecomes⟩ := h.wired.becomes_after hx m
      obtain ⟨y'', hy'', hbecomes'⟩ := h.wired.becomes_after hy m
      cases hx'.symm.trans hx''
      cases hy'.symm.trans hy''
      rw [hbecomes.1, hbecomes'.1]
      exact h.dialed hfar hx hy
    · obtain ⟨queue, -, hx⟩ := end?_dialing possible
      cases hx'.symm.trans hx
      exact .inl rfl
    · obtain ⟨queue, -, hy⟩ := end?_dialing possible
      cases hy'.symm.trans hy
      exact .inr rfl
  handshake {p q x' y'} hfar hx' hy' hrole := by
    rw [h.wired.systemId_after]
    rcases far_join hfar with hfar | ⟨a, b, i, now, peer, origin, rfl, ⟨rfl, rfl⟩ | ⟨rfl, rfl⟩⟩
    · obtain ⟨x, hx⟩ := h.wired.there hfar
      obtain ⟨y, hy⟩ := h.wired.there (h.wired.symm hfar)
      exact h.handshake_after possible hfar hx hy hx' hy' hrole
    · -- a connection that was just made
      obtain ⟨queue, hqueue, hx⟩ := end?_dialing possible
      have hy := n.end?_accepting a b i now peer origin
      cases hx'.symm.trans hx
      cases hy'.symm.trans hy
      have hne : n.nextTip a ≠ n.nextTip b := fun heq => possible.1 (congrArg Prod.fst heq)
      refine ⟨_, rfl, ?_⟩
      simp only [Cluster.after, flow, Function.update_self, Function.update_of_ne hne]
      refine .dialed hqueue rfl ⟨rfl, rfl, rfl⟩ ?_
      show ((n.after (.dial a b i now peer origin)).member b).table.sessions.binding? _ = none
      rw [member_accepting]
      refine (Sessions.binding?_create ..).trans ?_
      simp [Sessions.binding?, Sessions.get?]
    · have hx := n.end?_accepting a b i now peer origin
      cases hx'.symm.trans hx
      cases hrole
  errand {a l c} hl hcon := by
    rcases n.change_after m a with ⟨x, hx, hc⟩ | ⟨-, hsame⟩
    · rcases hc.errand hl hcon with ⟨l₀, hl₀, hpeer, hcon⟩ |
        ⟨i, now, peer, l₀, rfl, hl₀, hpeer, rfl, hthere⟩
      · rw [← hpeer]
        exact h.leads_after m (h.errand hl₀ hcon).1 (h.errand hl₀ hcon).2
      · -- the lifecycle has dialed just now
        rw [← hpeer]
        exact ⟨hthere, h.leads_dialed possible hx hl₀⟩
    · rw [hsame] at hl
      exact h.leads_after m (h.errand hl hcon).1 (h.errand hl hcon).2
  client {a s c} hl := by
    obtain ⟨hthere, hleads⟩ : (∃ x, n.end? (a, c) = some x) ∧ n.Leads a c s := by
      have hlinked : (n.member a).table.link? s = some (.client c) →
          (∃ x, n.end? (a, c) = some x) ∧ n.Leads a c s := fun hl => by
        obtain ⟨x, hx, -⟩ := (h.wired.sound a).client s c hl
        exact ⟨⟨x, hx⟩, h.client hl⟩
      rcases n.change_after m a with ⟨x, -, hc⟩ | ⟨-, hsame⟩
      · rcases hc.client (h.wired.sound a) hl with hl | ⟨l, hmem, rfl, hcon⟩
        · exact hlinked hl
        · exact h.errand hmem hcon
      · rw [hsame] at hl
        exact hlinked hl
    exact (h.leads_after m hthere hleads).2

omit [DecidableEq ι] [Vocabulary α] in
/-- Before anything happens there are no registrations. -/
theorem ofMembers {member : ι → Member α} {config : ι → Config}
    (h : ∀ a, Member.ofConfig (config a) = .ok (member a))
    (distinct : Function.Injective fun a => (config a).localId) : (ofMembers member).Agreed where
  wired := wired_ofMembers h distinct
  dialed hfar := by cases hfar
  handshake hfar := by cases hfar
  errand {a l c} hl := by
    change l ∈ (member a).lifecycles at hl
    rw [(Member.fresh_ofConfig (h a)).lifecycles] at hl
    cases hl
  client {a s c} hl := by cases (Member.fresh_ofConfig (h a)).link hl

theorem run (h₀ : n₀.Agreed) (run : n₀.Run n) : n.Agreed := by
  induction run with
  | start => exact h₀
  | move m _ possible ih => exact ih.after possible

omit [DecidableEq ι] [Vocabulary α] in
/-- What the ends of a link agree on. -/
theorem agree (h : n.Agreed) (a b : ι) : n.Agree a b := by
  have hsession : ∀ c, (n.member a).table.link? (n.systemId b) = some (.client c) →
      ∃ d k y, n.far (a, c) = some (b, d) ∧ n.end? (b, d) = some y ∧ y.role = .inbound k ∧
        (y.connection.phase ≠ .ended →
          (n.member b).table.link? (n.systemId a) = some (.session k) ∧
          (n.member b).table.connection? k = some d ∧
          ∀ k', (n.member b).table.sessions.binding? k' = some (n.systemId a) → k' = k) := by
    intro c hl
    obtain ⟨d, hd⟩ := (h.client hl b).1 rfl
    obtain ⟨x, hx, hanswer⟩ := (h.wired.sound a).client _ c hl
    obtain ⟨y, hy⟩ := h.wired.there (h.wired.symm hd)
    have houtbound : x.role.session? = none := by
      cases hrole : x.role with
      | inbound k =>
        rw [hrole] at hanswer
        cases hanswer
      | outbound d => rfl
    obtain ⟨k, hk, hshake⟩ := h.handshake hd hx hy houtbound
    refine ⟨d, k, y, hd, hy, hk, fun hended => ?_⟩
    have hpaired := (h.wired.sound b).paired
    cases hshake with
    | waiting _ unanswered =>
      rw [hanswer] at unanswered
      cases unanswered
    | refused _ _ answer => exact absurd hanswer answer
    | finished ended => exact absurd ended hended
    | admitted bound =>
      -- a member has one link to another, and the sessions that are bound to it are that link
      have hlink := (hpaired _ k).2 bound
      refine ⟨hlink, (h.wired.sound b).session d y k hy (by rw [hk]; rfl), fun k' hk' => ?_⟩
      have hlink' := (hpaired _ k').2 hk'
      cases hlink.symm.trans hlink'
      rfl
  refine ⟨hsession, fun c d' hl hd' => ?_, fun c d c' d' h h' => ⟨?_, ?_⟩⟩
  · obtain ⟨d, k, y, hd, hy, hk, hsame⟩ := hsession c hl
    by_cases hended : y.connection.phase = .ended
    · exact .inr ⟨d, y, hd, hy, hended⟩
    · obtain ⟨hlink, hconnection, -⟩ := hsame hended
      have hd'' : (n.member b).linkConnection? (n.systemId a) = some d := by
        simp only [Member.linkConnection?, hlink, Option.bind_some]
        exact hconnection
      cases hd'.symm.trans hd''
      exact .inl hd
  · exact Option.some.inj (h.here.symm.trans h'.here)
  · exact Option.some.inj (h.there.symm.trans h'.there)

end Agreed

/-- However the members of a cluster dial, register, lose connections and dial again, the ends of
every link agree. -/
theorem agree_of_run [DecidableEq ι] [Vocabulary α] {config : ι → Config} {member : ι → Member α}
    (h₀ : ∀ a, Member.ofConfig (config a) = .ok (member a))
    (distinct : Function.Injective fun a => (config a).localId)
    (run : (ofMembers member).Run n) (a b : ι) : n.Agree a b :=
  ((Agreed.ofMembers h₀ distinct).run run).agree a b

/-- The configuration of one of three members. -/
def trioConfig (a : Fin 3) : Config := { LinkTable.trio with localId := ⟨a.val.toUInt32 + 1⟩ }

/-- One of three members, before anything happens. -/
def trioMember (a : Fin 3) : Member Sample :=
  ⟨trioConfig a, ⟨.empty, ⟨⟨a.val.toUInt32 + 1⟩, a, LinkTable.trio.members,
    LinkTable.initialPeers a LinkTable.trio.members, 0, false, .empty⟩, []⟩,
    .new ⟨a.val.toUInt32 + 1⟩ (.ofConfig (trioConfig a)), [], [], .notAsked,
    [.watchProxy, .requestProxy]⟩

/-- The second member dials the first one and registers, and somebody else tries to register under
its number. -/
def linking : List (Move (Fin 3) Sample) :=
  let request := (Registration.request ⟨2⟩).write
  let response := (Registration.response .success).write
  [.act 1 (.start true 0), .act 1 (.dialing 0), .dial 1 0 0 0 none none,
    .event (1, ⟨0⟩) .started, .event (1, ⟨0⟩) .polled, .event (1, ⟨0⟩) (.wrote 9),
    .event (1, ⟨0⟩) .flushed, .event (0, ⟨0⟩) .started,
    .event (0, ⟨0⟩) (.received (request.take 3)), .event (0, ⟨0⟩) (.received (request.drop 3)),
    .act 0 (.accept none), .event (0, ⟨1⟩) .started, .event (0, ⟨1⟩) (.received request),
    .event (0, ⟨0⟩) .polled, .event (0, ⟨0⟩) (.wrote 9), .event (0, ⟨0⟩) .flushed,
    .event (1, ⟨0⟩) (.received response), .act 1 (.proceed 0 0)]

theorem agree_of_run_linking :
    ∃ n : Cluster (Fin 3) Sample, (∀ a, Member.ofConfig (trioConfig a) = .ok (trioMember a)) ∧
      (Function.Injective fun a => (trioConfig a).localId) ∧ (ofMembers trioMember).Run n ∧
      n.Agree 1 0 ∧ (n.member 1).table.link? (n.systemId 0) = some (.client ⟨0⟩) := by
  have h₀ : ∀ a, Member.ofConfig (trioConfig a) = .ok (trioMember a)
    | 0 => rfl
    | 1 => rfl
    | 2 => rfl
  have distinct : Function.Injective fun a => (trioConfig a).localId := by decide
  have possible : (ofMembers trioMember).PossibleAll linking := by decide +kernel
  have run := Run.start.afterAll possible
  exact ⟨_, h₀, distinct, run, agree_of_run h₀ distinct run 1 0, by decide +kernel⟩

end ActorMesh.Cluster
