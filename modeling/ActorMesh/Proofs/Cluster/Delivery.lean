import ActorMesh.Proofs.Cluster.Agreement
import ActorMesh.Proofs.Links.Traffic
import ActorMesh.Proofs.Members.Lasting

/-!
# Delivery over a link

As long as the link between two members is up, what the router of the one hands to the other arrives
there exactly once and in order (`Cluster.delivers_of_run`). At every moment what has arrived is the
front of what was handed over, and once all of it was written and read nothing is missing. It makes
no difference which of the two dialed, how the stream cuts the octets, or what else goes on.

What is on its way over the link is one row of envelopes (`Cluster.Carries`): routing appends to it,
and only what is read at the other end is taken off it. Other connections between the two members
come to nothing meanwhile: a second registration is refused, so nothing but the refusal is written
on them. What an earlier link had on its way when it was lost might still arrive; so the theorem is
about links that are up when nothing of that kind is left (`Cluster.Barren`). That is so as long as
the member that sends has never lost its link to the other (`Cluster.linked_of_unbroken`): whatever
happens, every other connection is as it was made or was refused (`Cluster.Clean`).
-/

namespace ActorMesh.Cluster

variable {ι α : Type}

/-- Whether a connection serves, or is about to, at one of its tips. -/
def Up (n : Cluster ι α) (p : Tip ι) : Prop := ∃ x ∈ n.end? p, x.connection.IsLive

instance (n : Cluster ι α) (p : Tip ι) : Decidable (n.Up p) :=
  inferInstanceAs (Decidable (∃ x ∈ n.end? p, x.connection.IsLive))

/-- Whether all that was queued at a tip has been written, and read at the other. -/
def Drained (n : Cluster ι α) (p : Tip ι) : Prop :=
  n.flying p = [] ∧ ∀ x ∈ n.end? p, x.connection.pieces = []

instance (n : Cluster ι α) (p : Tip ι) : Decidable (n.Drained p) :=
  inferInstanceAs (Decidable (n.flying p = [] ∧ ∀ x ∈ n.end? p, x.connection.pieces = []))

/-- On the other connections that the member of `q` dialed to that of `p`, nothing is on its way but
an answer to the registration. -/
def Barren (n : Cluster ι α) (p q : Tip ι) : Prop :=
  ∀ p' q' x y, n.far p' = some q' → p'.1 = p.1 → q'.1 = q.1 → q' ≠ q → n.end? p' = some x →
    n.end? q' = some y → y.role.session? = none → Handshake.Barren y x (n.flying p')

/-- Whether all connections that the member `b` dialed to the member `a`, the link of `a` to `b`
apart, have nothing on their way to `b` but an answer to the registration. -/
def Clean (n : Cluster ι α) (a b : ι) : Prop :=
  ∀ p q x y, n.far p = some q → p.1 = a → q.1 = b → n.end? p = some x → n.end? q = some y →
    y.role.session? = none → (n.member a).linkConnection? (n.systemId b) ≠ some p.2 →
      Handshake.Barren y x (n.flying p)

/-- A connection that both of its members have as their link, with nothing on its way from `p` to
`q`. -/
structure Linked (n : Cluster ι α) (p q : Tip ι) : Prop where
  joined : n.Joined p.1 q.1 p.2 q.2
  drained : n.Drained p
  unread : ∀ y ∈ n.end? q, y.connection.buffer = []
  others : n.Barren p q

/-- Whether a move leaves the registries of two members alone and puts nothing on a link of the
first one past its router. -/
def Move.Steady (a b : ι) : Move ι α → Prop
  | .act c (.registerMessage _ _) => c ≠ a ∧ c ≠ b
  | .act c (.send _ _) => c ≠ a
  | _ => True

variable [DecidableEq ι] [Vocabulary α]

/-- Whether the member `a` has the link to the member `b` after a move that it had before. -/
def Spares (n : Cluster ι α) (a b : ι) (m : Move ι α) : Prop :=
  ∀ c ∈ (n.member a).linkConnection? (n.systemId b),
    ((n.after m).member a).linkConnection? (n.systemId b) = some c

/-- Whether the member `a` never loses its link to the member `b` in moves one after another. -/
def Unbroken (n : Cluster ι α) (a b : ι) : List (Move ι α) → Prop
  | [] => True
  | m :: ms => n.Spares a b m ∧ (n.after m).Unbroken a b ms

instance decidableUnbroken (n : Cluster ι α) (a b : ι) :
    (ms : List (Move ι α)) → Decidable (n.Unbroken a b ms)
  | [] => .isTrue trivial
  | m :: ms =>
    have := decidableUnbroken (n.after m) a b ms
    inferInstanceAs (Decidable ((∀ c ∈ (n.member a).linkConnection? (n.systemId b),
      ((n.after m).member a).linkConnection? (n.systemId b) = some c) ∧
        (n.after m).Unbroken a b ms))

/-! ### What is handed over and what arrives -/

/-- What the router of `a` hands to the member `b` with success in a move. -/
def handed (n : Cluster ι α) (a b : ι) : Move ι α → List (Envelope α)
  | .act a' (.route e) =>
    if a' = a then
      Router.handedTo (n.systemId b) ((n.member a).router.attempts Member.carrier (n.member a) e)
    else []
  | _ => []

/-- What the local runtime of `b` gets in a move from a connection with `a`. -/
def landed (n : Cluster ι α) (a b : ι) (m : Move ι α) : List (Envelope α) :=
  match m with
  | .act b' (.event d _) =>
    if b' = b ∧ (n.far (b, d)).any (·.1 = a) then
      ((n.after m).member b).core.delivered.drop (n.member b).core.delivered.length
    else []
  | _ => []

/-- What the router of `a` hands to `b` with success in moves one after another. -/
def sent (n : Cluster ι α) (a b : ι) : List (Move ι α) → List (Envelope α)
  | [] => []
  | m :: ms => n.handed a b m ++ (n.after m).sent a b ms

/-- What the local runtime of `b` gets from `a` in moves one after another. -/
def received (n : Cluster ι α) (a b : ι) : List (Move ι α) → List (Envelope α)
  | [] => []
  | m :: ms => n.landed a b m ++ (n.after m).received a b ms

/-- What becomes of the envelopes from the member of `p` to the member of `q`. -/
structure Delivers (n : Cluster ι α) (p q : Tip ι) (registry : Registry α)
    (ms : List (Move ι α)) : Prop where
  /-- What has arrived is what was handed over, in order and each once, and some may follow. -/
  front : n.received p.1 q.1 ms <+: (n.sent p.1 q.1 ms).map (Envelope.transported registry)
  /-- Once all was written and read, all has arrived. -/
  whole : (n.afterAll ms).Drained p →
    n.received p.1 q.1 ms = (n.sent p.1 q.1 ms).map (Envelope.transported registry)
  /-- What arrives is for actors of the member. -/
  home : ∀ e ∈ n.received p.1 q.1 ms, ∀ t ∈ e.destinations, t.system = n.systemId q.1

section

variable {n n₀ : Cluster ι α} {m : Move ι α} {p q : Tip ι} {x y : LinkEnd} {s : SystemId}

namespace Move.Steady

variable {a b : ι}

omit [Vocabulary α] in
theorem ne_registerMessage (h : m.Steady a b) {c : ι} (hc : c = a ∨ c = b) {i : MessageTypeId}
    {t : MessageType α} : m.at? c ≠ some (.registerMessage i t) := by
  intro hm
  obtain rfl := eq_act_of_at? hm (by simp) (by simp)
  exact hc.elim h.1 h.2

omit [Vocabulary α] in
theorem ne_send (h : m.Steady a b) {s : SystemId} {e : Envelope α} :
    m.at? a ≠ some (.send s e) := by
  intro hm
  obtain rfl := eq_act_of_at? hm (by simp) (by simp)
  exact h rfl

end Move.Steady

/-- Two members write and read messages as before. -/
theorem registry_after {a b c : ι} (steady : m.Steady a b) (hc : c = a ∨ c = b) :
    ((n.after m).member c).core.registry = (n.member c).core.registry := by
  rcases n.member_after m c with ⟨y, hy, hact⟩ | ⟨-, hsame⟩
  · rw [hact]
    exact Member.registry_act _ fun i t heq => steady.ne_registerMessage hc (heq ▸ hy)
  · rw [hsame]

theorem registry_afterAll {a b c : ι} {ms : List (Move ι α)} (steady : ∀ m ∈ ms, m.Steady a b)
    (hc : c = a ∨ c = b) :
    ((n.afterAll ms).member c).core.registry = (n.member c).core.registry := by
  induction ms generalizing n with
  | nil => rfl
  | cons m ms ih =>
    exact (ih fun m' hm' => steady m' (List.mem_cons_of_mem _ hm')).trans
      (registry_after (steady m (List.mem_cons_self ..)) hc)

theorem handed_eq_nil {a b : ι} (hm : ∀ e, m ≠ .act a (.route e)) : n.handed a b m = [] := by
  unfold handed
  split
  · split
    · rename_i ha
      subst ha
      exact absurd rfl (hm _)
    · rfl
  · rfl

/-- Only routing, and what the connection writes itself, changes what there is to write. -/
theorem pieces_after {a b : ι} {c : ConnectionId} (steady : m.Steady a b)
    (hx : n.end? (a, c) = some x) (hm : ∀ e, m ≠ .event (a, c) e)
    (hroute : ∀ e, m ≠ .act a (.route e)) :
    ∃ x', (n.after m).end? (a, c) = some x' ∧ x'.connection.pieces = x.connection.pieces := by
  rcases n.member_after m a with ⟨y, hy, hact⟩ | ⟨-, hsame⟩
  · simp only [end?, hact]
    have hstill : y.IsSilent → ∃ x', ((n.member a).act y).ends[c.value]? = some x' ∧
        x'.connection.pieces = x.connection.pieces := fun hsilent => by
      obtain ⟨x', hx', hfed⟩ := (Member.still_act (n.member a) hsilent).ends c x hx
      exact ⟨x', hx', hfed.pieces_eq id⟩
    cases y with
    | registerMessage i t => exact absurd hy (steady.ne_registerMessage (.inl rfl))
    | send s e => exact absurd hy steady.ne_send
    | route e => exact absurd (eq_act_of_at? hy (by simp) (by simp)) (hroute e)
    | event d e =>
      refine ⟨x, ?_, rfl⟩
      have hd : c ≠ d := fun heq => hm e (at?_eq_event_iff.1 (by rw [heq]; exact hy))
      cases hz : (n.member a).ends[d.value]? with
      | none =>
        rw [Member.act, Member.happen_of_none hz]
        exact hx
      | some z =>
        rw [Member.act, Member.getElem?_ends_happen hz, if_neg hd]
        exact hx
    | _ => exact hstill trivial
  · exact ⟨x, by rw [end?, hsame]; exact hx, rfl⟩

/-! ### Connections that last -/

namespace Wired

/-- A connection that serves has served before. -/
theorem live_of_up (h : n.Wired) (hx : n.end? p = some x) (up : (n.after m).Up p) :
    x.connection.IsLive := by
  obtain ⟨x', hx', hlive⟩ := up
  by_cases hm : ∃ e, m = .event p e
  · obtain ⟨e, rfl⟩ := hm
    rw [end?_event hx, if_pos rfl] at hx'
    cases hx'
    by_cases he : ∃ bytes, x.connection.phase = .serving .idle ∧ e = .received bytes
    · obtain ⟨bytes, hphase, -⟩ := he
      rw [Connection.IsLive, hphase]
      trivial
    · exact ((Connection.step_calm (h := Role.handler) (fun _ _ => rfl) _
        fun bytes hbytes => he ⟨bytes, hbytes⟩).live hlive).1
  · obtain ⟨x'', hx'', hfed, -⟩ := h.fed_after hx fun e heq => hm ⟨e, heq⟩
    cases hx''.symm.trans hx'
    rwa [Connection.IsLive, hfed.same.2.1] at hlive

/-- A connection that serves in the end has served all the time. -/
theorem up_of_afterAll (h : n.Wired) {ms : List (Move ι α)} (possible : n.PossibleAll ms)
    (there : ∃ x, n.end? p = some x) (up : (n.afterAll ms).Up p) : n.Up p := by
  obtain ⟨x, hx⟩ := there
  induction ms generalizing n x with
  | nil => exact up
  | cons m ms ih =>
    obtain ⟨x', hx', -⟩ := h.becomes_after hx m
    exact ⟨x, hx, h.live_of_up hx (ih (h.after possible.1) possible.2 up x' hx')⟩

end Wired

/-- A link keeps its connection as long as that serves. -/
theorem linkConnection?_after (h : n.Wired) (orderly : ∀ a, (n.member a).Orderly)
    (hx : n.end? p = some x) (up : (n.after m).Up p)
    (hl : (n.member p.1).linkConnection? s = some p.2) :
    ((n.after m).member p.1).linkConnection? s = some p.2 := by
  have hlive := h.live_of_up hx up
  by_cases hm : ∃ e, m = .event p e
  · obtain ⟨e, rfl⟩ := hm
    rw [member_event, if_pos rfl]
    refine (h.sound p.1).linkConnection?_happen hx hl fun hended => ?_
    obtain ⟨x', hx', hlive'⟩ := up
    rw [end?_event hx, if_pos rfl] at hx'
    cases hx'
    rw [Connection.IsLive, hended] at hlive'
    exact hlive'
  · rcases n.change_after m p.1 with ⟨a, ha, hc⟩ | ⟨-, hsame⟩
    · refine (h.sound p.1).linkConnection?_of_change hc (fun e heq => hm ⟨e, ?_⟩) hx
        (fun d hd => ?_) hl
      · exact at?_eq_event_iff.1 (heq ▸ ha)
      · rw [← Bool.not_eq_true]
        intro hgone
        rw [Connection.IsLive, (orderly p.1 p.2 x hx).gone d hd hgone] at hlive
        exact hlive
    · rw [hsame, hl]

omit [DecidableEq ι] [Vocabulary α] in
/-- The connection of a link is that of no other link. -/
theorem Agreed.sole_link (h : n.Agreed) {a b : ι} {c d : ConnectionId} (joined : n.Joined a b c d)
    (hs : (n.member a).linkConnection? s = some c) : s = n.systemId b := by
  rcases Member.linkConnection?_eq_some_iff.1 hs with hclient | ⟨k, hsession, hk⟩
  · exact (h.client hclient b).2 ⟨d, joined.far⟩
  · -- the session of the connection is bound to one member
    obtain ⟨x, hx, hrole⟩ := (h.wired.sound a).inbound k c hk
    have hpaired := (h.wired.sound a).paired
    rcases Member.linkConnection?_eq_some_iff.1 joined.here with hclient | ⟨k', hsession', hk'⟩
    · obtain ⟨x', hx', hanswer⟩ := (h.wired.sound a).client _ c hclient
      cases hx.symm.trans hx'
      rw [Role.eq_inbound_of_session? hrole] at hanswer
      cases hanswer
    · obtain ⟨x', hx', hrole'⟩ := (h.wired.sound a).inbound k' c hk'
      cases hx.symm.trans hx'
      cases hrole.symm.trans hrole'
      have hbound := (hpaired s k).1 hsession
      rw [(hpaired (n.systemId b) k).1 hsession'] at hbound
      exact (Option.some.inj hbound).symm

/-! ### Connections beside the link -/

section

variable {a b : ι}

omit [DecidableEq ι] [Vocabulary α] in
/-- The session of a connection that is not the link to a member is not bound to that member. -/
theorem unbound_of_linkConnection? (h : n.Wired) (hx : n.end? p = some x) {k : Ticket}
    (hrole : x.role.session? = some k)
    (hlink : (n.member p.1).linkConnection? (n.systemId b) ≠ some p.2) :
    (n.member p.1).table.sessions.binding? k ≠ some (n.systemId b) :=
  fun hb => hlink ((h.sound p.1).linkConnection?_of_bound hx hrole hb)

/-- A connection on which nothing but an answer is on its way stays so in a move that does not make
it a link. -/
theorem barren_after (h : n.Agreed) (possible : n.Possible m) (hfar : n.far p = some q)
    (hx : n.end? p = some x) (hy : n.end? q = some y) {x' y' : LinkEnd}
    (hx' : (n.after m).end? p = some x') (hy' : (n.after m).end? q = some y')
    (hdialed : y.role.session? = none)
    (hlink : (n.member p.1).linkConnection? (n.systemId q.1) ≠ some p.2)
    (hlink' : ((n.after m).member p.1).linkConnection? (n.systemId q.1) ≠ some p.2)
    (hbarren : Handshake.Barren y x (n.flying p)) :
    Handshake.Barren y' x' ((n.after m).flying p) := by
  have hwired := h.wired
  obtain ⟨k, hk, hshake⟩ := h.handshake (hwired.symm hfar) hy hx hdialed
  have hsession : x.role.session? = some k := by
    rw [hk]
    rfl
  have free := unbound_of_linkConnection? hwired hx hsession hlink
  cases hwired.passes possible hfar hx hy hx' hy' with
  | near e _ read core _ forth _ =>
    obtain ⟨x'', hx'', hbecomes⟩ := hwired.becomes_after hx m
    cases hx'.symm.trans hx''
    rw [← hwired.systemId_after m] at hlink'
    have free' := unbound_of_linkConnection? (hwired.after possible) hx'
      (hbecomes.1.trans hsession) hlink'
    rw [hwired.systemId_after, Member.table, core] at free'
    rw [forth]
    exact hbarren.listener_step hshake hk ((hwired.sound p.1).session p.2 x k hx hsession) read
      free free'
  | far e _ read _ _ forth _ =>
    rw [forth]
    exact (hbarren.dialer_step hdialed read).2
  | aside _ _ fed fed' _ forth _ =>
    rw [forth]
    refine hbarren.fed fed' ?_
    -- the member of `p` queues nothing on a connection that is not its link
    have hbound := (hwired.sound p.1).bound_of_hasLink hx hk
    cases hshake with
    | waiting unbound => exact fed.pieces_eq fun hlink => hbound hlink unbound
    | admitted bound => exact absurd bound free
    | refused unbound => exact fed.pieces_eq fun hlink => hbound hlink unbound
    | finished ended => simp only [Connection.pieces, fed.same.2.1, ended]

namespace Clean

omit [DecidableEq ι] [Vocabulary α] in
theorem ofMembers {member : ι → Member α} (a b : ι) : (ofMembers member).Clean a b :=
  fun _ _ _ _ hfar => by cases hfar

/-- A connection beside the link comes to nothing, and while the link is not lost, it does not come
to be one beside it. -/
theorem after (hclean : n.Clean a b) (h : n.Agreed) (possible : n.Possible m)
    (spares : n.Spares a b m) : (n.after m).Clean a b := by
  intro p q x' y' hfar hp hq hx' hy' hdialed hlink'
  subst hp hq
  have hwired := h.wired
  rw [hwired.systemId_after] at hlink'
  rcases far_join hfar with hfar | ⟨a, b, i, now, peer, origin, rfl, ⟨rfl, rfl⟩ | ⟨rfl, rfl⟩⟩
  · obtain ⟨x, hx⟩ := hwired.there hfar
    obtain ⟨y, hy⟩ := hwired.there (hwired.symm hfar)
    obtain ⟨y'', hy'', hbecomes⟩ := hwired.becomes_after hy m
    cases hy'.symm.trans hy''
    have houtbound : y.role.session? = none := hbecomes.1.symm.trans hdialed
    have hlink : (n.member p.1).linkConnection? (n.systemId q.1) ≠ some p.2 :=
      fun hup => hlink' (spares _ hup)
    exact barren_after h possible hfar hx hy hx' hy' houtbound hlink hlink'
      (hclean p q x y hfar rfl rfl hx hy houtbound hlink)
  · -- the member of `q` was dialed
    have hy := n.end?_accepting a b i now peer origin
    cases hy'.symm.trans hy
    cases hdialed
  · have hx := n.end?_accepting a b i now peer origin
    obtain ⟨queue, -, hy⟩ := end?_dialing possible
    cases hx'.symm.trans hx
    cases hy'.symm.trans hy
    intro _
    refine ⟨.success, ?_⟩
    simp only [Cluster.after, flow, Function.update_self]
    exact Frame.along_nil _

/-- Whatever happens, nothing stale is on its way as long as the link is not lost. -/
theorem afterAll (hclean : n.Clean a b) (h : n.Agreed) {ms : List (Move ι α)}
    (possible : n.PossibleAll ms) (unbroken : n.Unbroken a b ms) : (n.afterAll ms).Clean a b := by
  induction ms generalizing n with
  | nil => exact hclean
  | cons m ms ih =>
    exact ih (hclean.after h possible.1 unbroken.1) (h.after possible.1) possible.2 unbroken.2

end Clean

end

/-! ### The link -/

omit [DecidableEq ι] [Vocabulary α] in
/-- The other connections of two members that are linked are those that are not their link. -/
theorem Joined.barren_iff (joined : n.Joined p.1 q.1 p.2 q.2) (h : n.Wired) :
    n.Barren p q ↔ n.Clean p.1 q.1 := by
  have hback := h.symm joined.far
  constructor
  · intro hbarren p' q' x y hfar hp hq hx hy hdialed hlink
    refine hbarren p' q' x y hfar hp hq (fun hsame => hlink ?_) hx hy hdialed
    -- the tip across from `q` is `p`
    have hback' := h.symm hfar
    rw [hsame] at hback'
    rw [Option.some.inj (hback'.symm.trans hback)]
    exact joined.here
  · intro hclean p' q' x y hfar hp hq hother hx hy hdialed
    refine hclean p' q' x y hfar hp hq hx hy hdialed fun hlink => hother ?_
    have hsame : p' = p := Prod.ext hp (Option.some.inj (hlink.symm.trans joined.here))
    rw [hsame] at hfar
    exact Option.some.inj (hfar.symm.trans joined.far)

/-- A link between two members that write and read messages alike. -/
structure Channel (n : Cluster ι α) (p q : Tip ι) (registry : Registry α) (limit : Nat) :
    Prop where
  agreed : n.Agreed
  orderly : ∀ a, (n.member a).Orderly
  joined : n.Joined p.1 q.1 p.2 q.2
  clean : n.Clean p.1 q.1
  registry : ∀ a, a = p.1 ∨ a = q.1 → (n.member a).core.registry = registry
  limit : ∀ a, a = p.1 ∨ a = q.1 → (n.member a).config.timings.maxFrameSize = limit

/-- Envelopes on their way over a link. -/
def Carries (n : Cluster ι α) (p q : Tip ι) (registry : Registry α) (limit : Nat)
    (es : List (Envelope α)) : Prop :=
  ∃ x ∈ n.end? p, ∃ y ∈ n.end? q, LinkEnd.Underway registry limit x y (n.flying p) es

variable {registry : Registry α} {limit : Nat} {es : List (Envelope α)}

namespace Channel

/-- Nothing arrives from a member but over the link. -/
theorem landed_eq_nil (h : n.Channel p q registry limit) (possible : n.Possible m)
    (hm : ∀ e, m ≠ .event q e) : n.landed p.1 q.1 m = [] := by
  unfold landed
  split
  · rename_i b d e
    split
    · rename_i hb
      obtain ⟨rfl, hfrom⟩ := hb
      obtain ⟨p', hback, hp⟩ := (Option.any_eq_true _ _).1 hfrom
      replace hp : p'.1 = p.1 := of_decide_eq_true hp
      have hwired := h.agreed.wired
      have hfar := hwired.symm hback
      have hother : (q.1, d) ≠ q := fun heq => hm e (by rw [← heq])
      obtain ⟨x, hx⟩ := hwired.there hfar
      obtain ⟨y, hy⟩ := hwired.there hback
      have hread : y.connection.heard e <+: n.flying p' := possible y hy p' hback
      have hsame : (y.step (n.member q.1).core e).state.1.delivered =
          (n.member q.1).core.delivered := by
        -- whoever dialed the other connection, its session is not bound
        rcases h.agreed.dialed hfar hx hy with hdialed | hdialed
        · obtain ⟨k, hk, hshake⟩ := h.agreed.handshake hfar hx hy hdialed
          have hsession : y.role.session? = some k := by
            rw [hk]
            rfl
          have hlink : (n.member q.1).linkConnection? (n.systemId p'.1) ≠ some d := fun hd => by
            rw [hp, h.joined.there] at hd
            exact hother (Prod.ext rfl (Option.some.inj hd).symm)
          exact hshake.delivered_listener hk
            (unbound_of_linkConnection? hwired hy hsession hlink) hread
        · have hlink : (n.member p.1).linkConnection? (n.systemId q.1) ≠ some p'.2 := fun hup => by
            obtain rfl : p' = p := Prod.ext hp (Option.some.inj (hup.symm.trans h.joined.here))
            exact hother (Option.some.inj (hfar.symm.trans h.joined.far))
          exact ((h.clean p' (q.1, d) x y hfar hp rfl hx hy hdialed hlink).dialer_step hdialed
            hread).1
      rw [show n.after (.act q.1 (.event d e)) = n.after (.event (q.1, d) e) from rfl,
        member_event, if_pos rfl, Member.core_happen hy, hsame, List.drop_length]
    · rfl
  · rfl

/-- A link that stays up stays the same link. -/
theorem joined_after (h : n.Channel p q registry limit) (up : (n.after m).Up p)
    (up' : (n.after m).Up q) : (n.after m).Joined p.1 q.1 p.2 q.2 := by
  have hwired := h.agreed.wired
  obtain ⟨x, hx⟩ := hwired.there h.joined.far
  obtain ⟨y, hy⟩ := hwired.there (hwired.symm h.joined.far)
  refine ⟨hwired.far_after h.joined.far m, ?_, ?_⟩
  · rw [hwired.systemId_after]
    exact linkConnection?_after hwired h.orderly hx up h.joined.here
  · rw [hwired.systemId_after]
    exact linkConnection?_after hwired h.orderly hy up' h.joined.there

/-- A link that stays the same link is not lost. -/
theorem spares (h : n.Channel p q registry limit)
    (joined : (n.after m).Joined p.1 q.1 p.2 q.2) : n.Spares p.1 q.1 m := by
  intro c hc
  cases (Option.mem_def.1 hc).symm.trans h.joined.here
  rw [← h.agreed.wired.systemId_after m]
  exact joined.here

/-- What holds of a link holds of it as long as it is up. -/
theorem after (h : n.Channel p q registry limit) (possible : n.Possible m)
    (steady : m.Steady p.1 q.1) (up : (n.after m).Up p) (up' : (n.after m).Up q) :
    (n.after m).Channel p q registry limit where
  agreed := h.agreed.after possible
  orderly a := after_keeps (fun m' y h' => h'.change (Member.change_act m' y)) (h.orderly a) m
  joined := h.joined_after up up'
  clean := h.clean.after h.agreed possible (h.spares (h.joined_after up up'))
  registry a ha := (registry_after steady ha).trans (h.registry a ha)
  limit a ha := after_keeps (P := fun m' => m'.config.timings.maxFrameSize = limit)
    (fun m' y h' => by rw [(Member.change_act m' y).config, h']) (h.limit a ha) m

end Channel

namespace Carries

/-- What is on the way over a link that stays up: what is handed over joins it at its end, and what
arrives is taken off its front. -/
theorem after (hc : n.Carries p q registry limit es) (h : n.Channel p q registry limit)
    (faithful : registry.Faithful) (possible : n.Possible m) (steady : m.Steady p.1 q.1)
    (up : (n.after m).Up p) (up' : (n.after m).Up q) :
    ∃ first later, es ++ n.handed p.1 q.1 m = first ++ later ∧
      n.landed p.1 q.1 m = first.map (Envelope.transported registry) ∧
      (n.after m).Carries p q registry limit later := by
  obtain ⟨x, hx, y, hy, hrow⟩ := hc
  have hwired := h.agreed.wired
  have hback := hwired.symm h.joined.far
  have hopen := (hwired.sound p.1).open_of_hasLink hx ⟨_, h.joined.here⟩
  have hopen' := (hwired.sound q.1).open_of_hasLink hy ⟨_, h.joined.there⟩
  have hbefore := hwired.live_of_up hx up
  obtain ⟨x', hx', hlive⟩ := up
  obtain ⟨y', hy', hlive'⟩ := up'
  cases hwired.passes possible h.joined.far hx hy hx' hy' with
  | near e move _ _ _ forth _ =>
    subst move
    have hne : ∀ e', Move.event p e ≠ (.event q e' : Move ι α) := fun e' heq =>
      hwired.apart h.joined.far (Move.act.inj heq).1
    refine ⟨[], es, by rw [handed_eq_nil (by simp), List.append_nil, List.nil_append],
      h.landed_eq_nil possible hne, _, hx', y, hy', ?_⟩
    rw [forth]
    exact hrow.writer_step hopen hlive
  | far e move read core _ forth _ =>
    subst move
    have hlimit : y.connection.outlet.limit = limit :=
      (h.orderly q.1 q.2 y hy).limit_eq.trans (h.limit q.1 (.inr rfl))
    obtain ⟨first, later, rfl, hdelivered, hrow'⟩ := hrow.reader_step faithful
      (h.registry q.1 (.inr rfl)) hlimit hopen' read hlive'
    refine ⟨first, later, by rw [handed_eq_nil (by simp), List.append_nil], ?_, x, hx', _, hy', ?_⟩
    · have hfrom : (n.far (q.1, q.2)).any (·.1 = p.1) = true := by
        rw [hback]
        exact decide_eq_true rfl
      simp only [landed, hfrom, and_self, if_true]
      rw [core, hdelivered, List.drop_left]
    · rw [forth]
      exact hrow'
  | aside near far _ fed' _ forth _ =>
    refine ⟨[], es ++ n.handed p.1 q.1 m, rfl, h.landed_eq_nil possible far, x', hx', y', hy', ?_⟩
    rw [forth]
    by_cases hroute : ∃ e, m = .act p.1 (.route e)
    · obtain ⟨e, rfl⟩ := hroute
      obtain ⟨fs, hframes, hfits, hends⟩ := Member.ends_route h.joined.here
        (fun s hs => h.agreed.sole_link h.joined hs) hx e
      rw [h.registry p.1 (.inl rfl)] at hframes
      rw [(h.orderly p.1 p.2 x hx).limit_eq, h.limit p.1 (.inl rfl)] at hfits
      have hpushed : (n.after (.act p.1 (.route e))).end? p = some (x.push fs) := by
        simp only [end?, Cluster.after, Move.at?, if_true]
        exact hends
      cases hx'.symm.trans hpushed
      have hrow' := hrow.push hbefore hframes hfits
      simp only [handed, if_true]
      exact hrow'.same rfl fed'.same.2.2
    · have hroute' := fun e heq => hroute ⟨e, heq⟩
      obtain ⟨x'', hx'', hpieces⟩ := pieces_after steady hx near hroute'
      cases hx'.symm.trans hx''
      rw [handed_eq_nil hroute', List.append_nil]
      exact hrow.same hpieces fed'.same.2.2

/-- What is on the way over a link that is up all the time. -/
theorem afterAll (hc : n.Carries p q registry limit es) (h : n.Channel p q registry limit)
    (faithful : registry.Faithful) {ms : List (Move ι α)} (possible : n.PossibleAll ms)
    (steady : ∀ m ∈ ms, m.Steady p.1 q.1) (up : (n.afterAll ms).Up p)
    (up' : (n.afterAll ms).Up q) :
    ∃ first later, es ++ n.sent p.1 q.1 ms = first ++ later ∧
      n.received p.1 q.1 ms = first.map (Envelope.transported registry) ∧
      (n.afterAll ms).Carries p q registry limit later := by
  induction ms generalizing n es with
  | nil => exact ⟨[], es, List.append_nil es, rfl, hc⟩
  | cons m ms ih =>
    have hwired := h.agreed.wired
    have hfar := h.joined.far
    have upNow := (hwired.after possible.1).up_of_afterAll possible.2
      ((hwired.after possible.1).there (hwired.far_after hfar m)) up
    have upNow' := (hwired.after possible.1).up_of_afterAll possible.2
      ((hwired.after possible.1).there (hwired.far_after (hwired.symm hfar) m)) up'
    have hsteady := steady m (List.mem_cons_self ..)
    obtain ⟨first, later, hrow, hlanded, hc'⟩ :=
      hc.after h faithful possible.1 hsteady upNow upNow'
    obtain ⟨first', later', hrow', hreceived, hc''⟩ :=
      ih hc' (h.after possible.1 hsteady upNow upNow') possible.2
        (fun m' hm' => steady m' (List.mem_cons_of_mem _ hm')) up up'
    refine ⟨first ++ first', later', ?_, ?_, hc''⟩
    · rw [sent, ← List.append_assoc, hrow, List.append_assoc, hrow', List.append_assoc]
    · rw [received, hlanded, hreceived, List.map_append]

end Carries

/-- What a router hands to a member is for actors of that member. -/
theorem system_of_sent {a b : ι} {placement : Placement} (h : n.Wired)
    (hrouter : (n.member a).router.Sound s placement) (hid : s.isNone = false)
    {ms : List (Move ι α)} (possible : n.PossibleAll ms) :
    ∀ e ∈ n.sent a b ms, ∀ t ∈ e.destinations, t.system = n.systemId b := by
  induction ms generalizing n with
  | nil =>
    intro e he
    cases he
  | cons m ms ih =>
    intro e he
    rcases List.mem_append.1 he with he | he
    · unfold handed at he
      split at he
      · split at he
        · exact hrouter.system_of_handed hid he
        · cases he
      · cases he
    · have hrouter' := after_keeps (P := fun m' => m'.router.Sound s placement)
        (fun m' y h' => Member.sound_router_act h' hid y) hrouter m
      rw [← h.systemId_after m b]
      exact ih (h.after possible.1) hrouter' possible.2 e he

section

variable {config : ι → Config} {member : ι → Member α}
  (h₀ : ∀ a, Member.ofConfig (config a) = .ok (member a)) (run : (ofMembers member).Run n)

include h₀ run

/-- The router of a member knows where everything goes. -/
theorem sound_router_of_run (a : ι) :
    (n.member a).router.Sound (config a).localId (.ofConfig (config a)) := by
  have hfresh := Member.fresh_ofConfig (h₀ a)
  refine run.keeps (P := fun m => m.router.Sound (config a).localId (.ofConfig (config a)))
    (fun m x h => Member.sound_router_act h hfresh.isNone_localId x) ?_
  rw [show ((ofMembers member).member a).router = _ from hfresh.router]
  exact Router.sound_new _ _

/-- A link between members that were made alike. -/
theorem channel_of_run (distinct : Function.Injective fun a => (config a).localId)
    (limits : ∀ a, (config a).timings.maxFrameSize = limit)
    (registries : ∀ a, (n.member a).core.registry = registry) (linked : n.Linked p q) :
    n.Channel p q registry limit where
  agreed := (Agreed.ofMembers h₀ distinct).run run
  orderly a := run.keeps (fun m x h => h.change (Member.change_act m x))
    (Member.fresh_ofConfig (h₀ a)).orderly
  joined := linked.joined
  clean := (linked.joined.barren_iff ((Agreed.ofMembers h₀ distinct).run run).wired).1 linked.others
  registry a _ := registries a
  limit a _ := by
    have hconfig : (n.member a).config = config a :=
      run.keeps (P := fun m => m.config = config a)
        (fun m x h => by rw [(Member.change_act m x).config, h])
        (Member.fresh_ofConfig (h₀ a)).config
    rw [hconfig, limits]

end

end

/-- Between members that were made alike, nothing stale is on its way beside a link, if the member
that sends has never lost its link to the other. -/
theorem linked_of_unbroken {config : ι → Config} {member : ι → Member α} {p q : Tip ι}
    {ms : List (Move ι α)} (h₀ : ∀ a, Member.ofConfig (config a) = .ok (member a))
    (distinct : Function.Injective fun a => (config a).localId)
    (possible : (ofMembers member).PossibleAll ms)
    (unbroken : (ofMembers member).Unbroken p.1 q.1 ms)
    (joined : ((ofMembers member).afterAll ms).Joined p.1 q.1 p.2 q.2)
    (drained : ((ofMembers member).afterAll ms).Drained p)
    (unread : ∀ y ∈ ((ofMembers member).afterAll ms).end? q, y.connection.buffer = []) :
    ((ofMembers member).afterAll ms).Linked p q := by
  have hagreed := Agreed.ofMembers h₀ distinct
  have hwired := (hagreed.run (Run.start.afterAll possible)).wired
  have hclean := (Clean.ofMembers p.1 q.1).afterAll hagreed possible unbroken
  exact ⟨joined, drained, unread, (joined.barren_iff hwired).2 hclean⟩

/-- What the router of one member hands to another over a link that stays up arrives exactly once
and in order. Where the link comes from does not matter; the first one that two members have is
`linked` as soon as nothing is on its way over it (`linked_of_unbroken`). -/
theorem delivers_of_run {config : ι → Config} {member : ι → Member α} {n : Cluster ι α}
    {p q : Tip ι} {registry : Registry α} {limit : Nat} {ms : List (Move ι α)}
    (h₀ : ∀ a, Member.ofConfig (config a) = .ok (member a))
    (distinct : Function.Injective fun a => (config a).localId)
    (limits : ∀ a, (config a).timings.maxFrameSize = limit) (run : (ofMembers member).Run n)
    (registries : ∀ a, (n.member a).core.registry = registry) (faithful : registry.Faithful)
    (linked : n.Linked p q) (possible : n.PossibleAll ms)
    (steady : ∀ m ∈ ms, m.Steady p.1 q.1) (up : (n.afterAll ms).Up p)
    (up' : (n.afterAll ms).Up q) : n.Delivers p q registry ms := by
  have hchannel := channel_of_run h₀ run distinct limits registries linked
  have hwired := hchannel.agreed.wired
  have hcarries : n.Carries p q registry limit [] := by
    obtain ⟨x, hx⟩ := hwired.there linked.joined.far
    obtain ⟨y, hy⟩ := hwired.there (hwired.symm linked.joined.far)
    refine ⟨x, hx, y, hy, ?_⟩
    rw [linked.drained.1]
    exact .nil (linked.drained.2 x hx) (linked.unread y hy)
  -- what was handed over is what has arrived, and behind it what is still on its way
  obtain ⟨first, later, hsent, hreceived, x, hx, y, hy, hrow⟩ :=
    hcarries.afterAll hchannel faithful possible steady up up'
  rw [List.nil_append] at hsent
  refine ⟨?_, fun hdrained => ?_, fun e he t ht => ?_⟩
  · rw [hreceived, hsent, List.map_append]
    exact List.prefix_append _ _
  · rw [hdrained.1] at hrow
    rw [hreceived, hsent, hrow.eq_nil (hdrained.2 x hx), List.append_nil]
  · rw [hreceived] at he
    obtain ⟨e', he', rfl⟩ := List.mem_map.1 he
    rw [Envelope.destinations_transported] at ht
    refine system_of_sent hwired (sound_router_of_run h₀ run p.1)
      (Member.fresh_ofConfig (h₀ p.1)).isNone_localId possible e' ?_ t ht
    rw [hsent]
    exact List.mem_append_left _ he'

/-- The types of messages that three members register. -/
def trioRegistry : Registry Sample := Registry.empty.register ⟨7⟩ (SampleType.hello.type "")

theorem faithful_trioRegistry : trioRegistry.Faithful := by
  refine Registry.faithful_empty.register ⟨7⟩ fun a body hbody => ?_
  cases a with
  | hello n =>
    cases hbody
    have hdecode : Layout.word32.decode (Layout.word32.write n) = .ok n :=
      (Layout.decode_eq_ok_iff Layout.word32_lawful).2 ⟨trivial, List.prefix_rfl⟩
    simp only [SampleType.type, SampleType.decode, hdecode, Except.map]
  | _ => cases hbody

/-- Members register the types of their messages. -/
def registering (members : List ι) : List (Move ι Sample) :=
  members.map fun a => .act a (.registerMessage ⟨7⟩ (SampleType.hello.type ""))

/-- The second of three members sends two messages, of which one cannot be written, to an actor of
the first one and to one of its own, and the frame arrives in two pieces. -/
def talking (p q : Tip ι) : List (Move ι Sample) :=
  let there : ActorRef := ⟨⟨1⟩, ⟨120⟩, "a", ⟨4⟩⟩
  let here : ActorRef := ⟨⟨2⟩, ⟨120⟩, "b", ⟨4⟩⟩
  let batch targets ms : Envelope Sample := .parcel (.batchSend none targets ms)
  let octets := ((batch [there] [.app (.hello 5)]).frame? trioRegistry).elim [] Frame.write
  [.act p.1 (.route (batch [there, here] [.app (.hello 5), .app .localOnly])), .event p .polled,
    .event p (.wrote 7), .event q (.received (octets.take 7)), .event p (.wrote 100),
    .event q (.received (octets.drop 7))]

theorem delivers_of_run_talking :
    let n := ((ofMembers trioMember).afterAll (registering [0, 1, 2])).afterAll linking
    let ms := talking (1, ⟨0⟩) (0, ⟨0⟩)
    (ofMembers trioMember).Run n ∧ n.Linked (1, ⟨0⟩) (0, ⟨0⟩) ∧
      n.Delivers (1, ⟨0⟩) (0, ⟨0⟩) trioRegistry ms ∧ n.received 1 0 ms =
        [.parcel (.batchSend none [⟨⟨1⟩, ⟨120⟩, "a", ⟨4⟩⟩] [.app (.hello 5)])] := by
  intro n ms
  have h₀ : ∀ a, Member.ofConfig (trioConfig a) = .ok (trioMember a)
    | 0 => rfl
    | 1 => rfl
    | 2 => rfl
  have distinct : Function.Injective fun a => (trioConfig a).localId := by decide
  have run : (ofMembers trioMember).Run n :=
    (Run.start.afterAll (by decide +kernel)).afterAll (by decide +kernel)
  have registries : ∀ a, (n.member a).core.registry = trioRegistry := by
    intro a
    have hsteady : ∀ m ∈ linking, m.Steady a a := by simp [linking, Move.Steady]
    refine (registry_afterAll hsteady (.inl rfl)).trans ?_
    match a with
    | 0 | 1 | 2 => rfl
  have linked : n.Linked (1, ⟨0⟩) (0, ⟨0⟩) := by
    have joined : n.Joined 1 0 ⟨0⟩ ⟨0⟩ := ⟨by decide +kernel, by decide +kernel, by decide +kernel⟩
    have drained : n.Drained (1, ⟨0⟩) := by decide +kernel
    have unread : ∀ y ∈ n.end? (0, ⟨0⟩), y.connection.buffer = [] := by decide +kernel
    have hn : (ofMembers trioMember).afterAll (registering [0, 1, 2] ++ linking) = n :=
      afterAll_append ..
    rw [← hn] at joined drained unread ⊢
    exact linked_of_unbroken h₀ distinct (by decide +kernel) (by decide +kernel) joined drained
      unread
  exact ⟨run, linked, delivers_of_run h₀ distinct (fun _ => rfl) run registries
    faithful_trioRegistry linked (by decide +kernel) (by simp [ms, talking, Move.Steady])
    (by decide +kernel) (by decide +kernel), by decide +kernel⟩

end ActorMesh.Cluster
