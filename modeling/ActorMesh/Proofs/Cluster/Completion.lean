import ActorMesh.Proofs.Cluster.Agreement
import ActorMesh.Proofs.Links.Exchange
import ActorMesh.Proofs.Members.Tending

/-!
# Registrations complete

A member that dials one before it gets a link, if neither has one to the other and the connection
loses nothing: once nothing is left to do both have the connection as their link, and each of them
counts one more (`Cluster.completes_of_run`). It makes no difference in which order the two get
their turns, nor how the streams cut the octets; and however they do, there is an end of it.

Both have to take payloads of four octets, as many as there are in a request and in an answer. A
configuration may allow less, and then the member never gets a link
(`Cluster.not_completes_narrow`).
-/

namespace ActorMesh

namespace LinkTable

variable {t t' t'' : LinkTable}

theorem SamePeers.trans (h : SamePeers t t') (h' : SamePeers t' t'') : SamePeers t t'' :=
  ⟨h'.members.trans h.members, h'.localIndex.trans h.localIndex,
    fun s => (h'.peer s).trans (h.peer s)⟩

theorem SamePeers.dials? (h : SamePeers t t') (s : SystemId) : t'.dials? s = t.dials? s := by
  have hsnd := congrArg (Option.map Prod.snd) (h.peer s)
  simpa only [LinkTable.dials?, Option.map_map, Function.comp_def] using hsnd

end LinkTable

namespace Member

variable {α : Type} [Vocabulary α] {m : Member α} {c : Config} {i j : Nat}

/-! ### What a member keeps of its configuration -/

/-- A member at its place in a configuration, whatever has happened to it. -/
structure Placed (c : Config) (m : Member α) : Prop where
  tended : m.Tended
  valid : c.validate = .ok ()
  config : m.config = c
  localId : m.table.localId = c.localId
  peers : ∃ t₀, LinkTable.ofConfig c = .ok t₀ ∧ LinkTable.SamePeers t₀ m.table

omit [Vocabulary α] in
theorem placed_ofConfig (h : ofConfig c = .ok m) : m.Placed c := by
  have hfresh := fresh_ofConfig h
  refine ⟨tended_ofConfig h, hfresh.valid, hfresh.config, hfresh.localId, m.table, ?_, .refl _⟩
  unfold ofConfig at h
  split at h
  · cases h
  · split at h
    · cases h
    · rename_i t ht
      cases h
      exact ht

theorem Placed.act (h : m.Placed c) (a : Action α) : (m.act a).Placed c := by
  obtain ⟨t₀, ht₀, hpeers⟩ := h.peers
  have hchange := change_act m a
  exact ⟨h.tended.act a, h.valid, hchange.config.trans h.config,
    (hchange.localId h.tended.sound).trans h.localId, t₀, ht₀,
    hpeers.trans ((course_act h.tended.sound a).effect h.tended).1⟩

omit [Vocabulary α] in
/-- The peers of the lifecycles are the members before the local one, in their order. -/
theorem Placed.peer (h : m.Placed c) (hj : c.localIndex? = some j) {l : Lifecycle}
    (hl : m.lifecycles[i]? = some l) : i < j ∧ c.members[i]? = some l.peer := by
  obtain ⟨t₀, ht₀, hsame⟩ := h.peers
  obtain ⟨j', hj', ⟨own, hown, -⟩, ht⟩ := LinkTable.ofConfig_of_validate h.valid
  obtain rfl : j' = j := Option.some.inj (hj'.symm.trans hj)
  obtain rfl := Except.ok.inj (ht.symm.trans ht₀)
  obtain ⟨hlt, -⟩ := List.getElem?_eq_some_iff.1 hown
  have hnodup := (Config.validate_eq_ok_iff.1 h.valid).2.1
  have hpassive := @LinkTable.passivePeers_ofPlace c.members ⟨j', hlt⟩ hnodup
  have hconfigs : (LinkTable.mk c.localId j' c.members
      (LinkTable.initialPeers j' c.members) 0 false .empty).passivePeers.map (·.config) =
      c.members.take j' := by
    refine (congrArg (List.map (·.config)) hpassive).trans ?_
    simp [Function.comp_def]
  rcases h.tended.begun with hnone | ⟨-, hbegun⟩
  · rw [hnone] at hl
    cases hl
  · have hpeer : (m.lifecycles.map (·.peer))[i]? = some l.peer := by simp [hl]
    rw [hbegun, hsame.configs, hconfigs, List.getElem?_take] at hpeer
    split at hpeer
    · rename_i hi
      exact ⟨hi, hpeer⟩
    · cases hpeer

omit [Vocabulary α] in
/-- Whom a member dials is a matter of places. -/
theorem Placed.dials? (h : m.Placed c) (hi : c.localIndex? = some i) {p : MemberConfig}
    (hp : c.members[j]? = some p) (hj : j ≠ i) : m.table.dials? p.id = some (decide (j < i)) := by
  obtain ⟨t₀, ht₀, hsame⟩ := h.peers
  rw [hsame.dials?, LinkTable.dials?_ofConfig h.valid hi ht₀ hp hj]

/-! ### Dialing and going on -/

omit [Vocabulary α] in
/-- A member that takes payloads of four octets registers on a connection that it gets. -/
theorem dialed_of_roomy (m : Member α) (i now : Nat) (peer : Option Address)
    (hroomy : 4 ≤ m.config.timings.maxFrameSize) :
    let m' := (m.dialed i now (.ok peer)).1
    m'.core = m.core ∧
      m'.lifecycles = (m.setLifecycle i (.registering m.nextConnection)).lifecycles ∧
      m'.ends = m.ends ++ [⟨.outbound default, ⟨⟨peer, m.config.timings.maxFrameSize, true,
        [.frame (Registration.request m.table.localId).write]⟩, .made, []⟩⟩] := by
  have hsend : (Outlet.new peer m.config.timings.maxFrameSize).send
      (Registration.request m.table.localId) = .ok ⟨peer, m.config.timings.maxFrameSize, true,
        [.frame (Registration.request m.table.localId).write]⟩ := by
    exact Outlet.send_eq_ok_iff.2 ⟨_, Registration.fits_request hroomy _, rfl, rfl⟩
  simp only [dialed, hsend]
  exact ⟨rfl, rfl, ends_setOutlet_addEnd m _ peer _⟩

omit [Vocabulary α] in
theorem dialedState?_eq {c : ConnectionId} {x : LinkEnd} {d : Dialed}
    (hx : m.ends[c.value]? = some x) (hrole : x.role = .outbound d) :
    m.dialedState? c = some d := by
  obtain ⟨role, connection⟩ := x
  obtain rfl : role = .outbound d := hrole
  rw [dialedState?, hx]

omit [Vocabulary α] in
/-- A lifecycle that has nothing to do does nothing. -/
theorem proceed_of_not_isReady {now : Nat} {l : Lifecycle} (hl : m.lifecycles[i]? = some l)
    (hready : m.isReady now l.state = false) : (m.proceed i now).1 = m := by
  simp only [proceed, hl, hready, Bool.false_eq_true, if_false]

omit [Vocabulary α] in
/-- A lifecycle that finds that it was admitted takes the connection for the link. -/
theorem proceed_of_admitted (now : Nat) {l : Lifecycle} {c : ConnectionId} {d : Dialed}
    {t : LinkTable} (hl : m.lifecycles[i]? = some l) (hstate : l.state = .registering c)
    (hd : m.dialedState? c = some d) (hanswer : d.answer = some .success)
    (hinstall : m.table.installClient l.peer.id c = some t) :
    (m.proceed i now).1 = (m.withTable t).setLifecycle i (.serving c) := by
  obtain ⟨peer, state⟩ := l
  obtain rfl : state = .registering c := hstate
  have hready : m.isReady now (.registering c) = true := by
    simp [isReady, hd, hanswer]
  simp only [proceed, hl, hready, hd, Option.bind_some, hanswer, hinstall, if_true]
  rfl

end Member

namespace Cluster

variable {ι α : Type}

/-! ### The exchange on a connection -/

/-- Whether a move is part of the registration on a connection from `p` to `q`, for the lifecycle
with the number `i`: something happens at one of the tips and nothing is lost, or the lifecycle goes
on. -/
def Move.Exchanges (p q : Tip ι) (i : Nat) : Move ι α → Prop
  | .act a (.event c e) => ((a, c) = p ∨ (a, c) = q) ∧ e.IsLossless
  | .act a (.proceed j _) => a = p.1 ∧ j = i
  | _ => False

instance [DecidableEq ι] (p q : Tip ι) (i : Nat) : (m : Move ι α) → Decidable (m.Exchanges p q i)
  | .act a (.event c e) => inferInstanceAs (Decidable (((a, c) = p ∨ (a, c) = q) ∧ e.IsLossless))
  | .act a (.proceed j _) => inferInstanceAs (Decidable (a = p.1 ∧ j = i))
  | .act _ (.registerMessage _ _) | .act _ (.registerActor _) | .act _ (.start _ _)
  | .act _ (.lookAgain _) | .act _ (.dialing _) | .act _ (.dialed _ _ _) | .act _ (.overlook _ _)
  | .act _ (.accept _) | .act _ (.close _) | .act _ (.send _ _) | .act _ (.route _)
  | .dial _ _ _ _ _ _ => .isFalse id

/-- Whether nothing is left to do of a registration, unless the members do something else. -/
structure Settled (n : Cluster ι α) (p q : Tip ι) (i : Nat) : Prop where
  forth : n.flying p = []
  back : n.flying q = []
  near : ∀ x ∈ n.end? p, x.connection.AtRest
  far : ∀ y ∈ n.end? q, y.connection.AtRest
  /-- The lifecycle does nothing about the connection that it has, if it has one. -/
  patient : ∀ l ∈ (n.member p.1).lifecycles[i]?, l.state.connection? ≠ none →
    ∀ now, (n.member p.1).isReady now l.state = false

/-- Two members that have a connection as the link between them and had none before. -/
structure Paired (before n : Cluster ι α) (p q : Tip ι) : Prop where
  client : (n.member p.1).table.link? (before.systemId q.1) = some (.client p.2)
  session : ∃ k, (n.member q.1).table.link? (before.systemId p.1) = some (.session k) ∧
    (n.member q.1).table.connection? k = some q.2
  dialer : (n.member p.1).table.connected = (before.member p.1).table.connected + 1
  listener : (n.member q.1).table.connected = (before.member q.1).table.connected + 1

variable [DecidableEq ι] [Vocabulary α]

/-- Whether moves can happen one after another and are part of the registration on a connection. -/
structure Pursues (n : Cluster ι α) (p q : Tip ι) (i : Nat) (ms : List (Move ι α)) : Prop where
  exchanges : ∀ m ∈ ms, m.Exchanges p q i
  possible : n.PossibleAll ms

/-- Whether each of some moves changes anything. -/
def Advances (n : Cluster ι α) : List (Move ι α) → Prop
  | [] => True
  | m :: ms => n.after m ≠ n ∧ (n.after m).Advances ms

/-- That the registration on a connection that has just been dialed ends with a link. -/
structure Completes (before n : Cluster ι α) (p q : Tip ι) (i : Nat) : Prop where
  /-- Once nothing is left to do, the connection is the link of both members. -/
  linked : ∀ ms, n.Pursues p q i ms → (n.afterAll ms).Settled p q i →
    before.Paired (n.afterAll ms) p q
  /-- As long as something is left to do, it can be done. -/
  onward : ∀ ms, n.Pursues p q i ms → ¬ (n.afterAll ms).Settled p q i →
    ∃ m, m.Exchanges p q i ∧ (n.afterAll ms).Possible m ∧
      (n.afterAll ms).after m ≠ n.afterAll ms
  /-- Only so much can be done. -/
  bounded : ∃ k, ∀ ms more, n.Pursues p q i (ms ++ more) → (n.afterAll ms).Advances more →
    more.length ≤ k

section

variable {n : Cluster ι α} {m : Move ι α} {p q : Tip ι} {i : Nat} {e : Connection.Event}
  {x y : LinkEnd}

omit [DecidableEq ι] [Vocabulary α] in
theorem exchanges_near (he : e.IsLossless) : (Move.event p e : Move ι α).Exchanges p q i :=
  ⟨.inl rfl, he⟩

omit [DecidableEq ι] [Vocabulary α] in
theorem exchanges_far (he : e.IsLossless) : (Move.event q e : Move ι α).Exchanges p q i :=
  ⟨.inr rfl, he⟩

omit [DecidableEq ι] [Vocabulary α] in
theorem Move.Exchanges.cases (h : m.Exchanges p q i) :
    (∃ e, e.IsLossless ∧ (m = .event p e ∨ m = .event q e)) ∨
      ∃ now, m = .act p.1 (.proceed i now) := by
  cases m with
  | dial => exact h.elim
  | act a z =>
    cases z with
    | event c e => exact .inl ⟨e, h.2, h.1.imp (fun hp => by rw [← hp]) fun hq => by rw [← hq]⟩
    | proceed j now =>
      obtain ⟨rfl, rfl⟩ := h
      exact .inr ⟨now, rfl⟩
    | _ => exact h.elim

theorem pursues_cons_iff {ms : List (Move ι α)} : n.Pursues p q i (m :: ms) ↔
    m.Exchanges p q i ∧ n.Possible m ∧ (n.after m).Pursues p q i ms := by
  constructor
  · rintro ⟨hexchanges, hpossible, hlater⟩
    obtain ⟨hfirst, hrest⟩ := List.forall_mem_cons.1 hexchanges
    exact ⟨hfirst, hpossible, hrest, hlater⟩
  · rintro ⟨hfirst, hpossible, hrest, hlater⟩
    exact ⟨List.forall_mem_cons.2 ⟨hfirst, hrest⟩, hpossible, hlater⟩

theorem Pursues.split {ms more : List (Move ι α)} (h : n.Pursues p q i (ms ++ more)) :
    n.Pursues p q i ms ∧ (n.afterAll ms).Pursues p q i more := by
  induction ms generalizing n with
  | nil => exact ⟨⟨fun _ hm => absurd hm List.not_mem_nil, trivial⟩, h⟩
  | cons m ms ih =>
    obtain ⟨hfirst, hpossible, hrest⟩ := pursues_cons_iff.1 h
    obtain ⟨hpursues, hlater⟩ := ih hrest
    exact ⟨pursues_cons_iff.2 ⟨hfirst, hpossible, hpursues⟩, hlater⟩

/-! ### Moves that do nothing -/

theorem member_act (n : Cluster ι α) (a : ι) (z : Member.Action α) (b : ι) :
    (n.after (.act a z)).member b = if b = a then (n.member b).act z else n.member b := by
  simp only [after, Move.at?]
  split <;> rfl

theorem after_act_of_eq {a : ι} {z : Member.Action α} (hact : (n.member a).act z = n.member a)
    (hflow : n.flow (.act a z) = n.flying) : n.after (.act a z) = n := by
  have hmember : (n.after (.act a z)).member = n.member := by
    funext b
    rw [member_act]
    split
    · rename_i heq
      rw [heq, hact]
    · rfl
  have hflying : (n.after (.act a z)).flying = n.flying := hflow
  show Cluster.mk (n.after (.act a z)).member n.far (n.after (.act a z)).flying = n
  rw [hmember, hflying]

theorem after_event_of_idles (hx : n.end? p = some x) (hfar : n.far p = some q)
    (h : x.Idles (n.member p.1).core e) : n.after (.event p e) = n := by
  refine after_act_of_eq ?_ ?_
  · have hx' : (n.member p.1).ends[p.2.value]? = some x := hx
    obtain ⟨hlt, hget⟩ := List.getElem?_eq_some_iff.1 hx'
    have hstep : x.connection.step Role.handler ((n.member p.1).core, x.role) e =
        x.step (n.member p.1).core e := rfl
    simp only [Member.act, Member.happen, hx', hstep, h.state, h.connection]
    rw [← hget, List.set_getElem_self]
  · show n.flowEvent p e = n.flying
    have hx' : n.end? (p.1, p.2) = some x := hx
    simp only [flowEvent, hx, hfar, h.heard, h.emitted, List.length_nil, List.drop_zero,
      List.append_nil, Function.update_eq_self]

/-! ### How far an attempt has come -/

/-- An attempt of a lifecycle to get a link: its connection, from the tip `near` of the member that
dialed to the tip `far`, and what becomes of the links of both members. -/
structure Attempt (ι : Type) where
  near : Tip ι
  far : Tip ι
  lifecycle : Nat
  peer : MemberConfig
  /-- The member that dialed. -/
  claimant : SystemId
  /-- The session of the connection at the other one. -/
  session : Ticket
  dialer : LinkTable
  linked : LinkTable
  listener : LinkTable
  admitted : LinkTable
  apart : near.1 ≠ far.1
  installs : dialer.installClient peer.id near.2 = some linked
  opened : listener.connection? session = some far.2
  admits : listener.bindSession claimant session = .ok admitted

namespace Attempt

variable {r : Attempt ι}

/-- How far the lifecycle has come: it waits for the answer, or it has taken the connection for the
link. -/
inductive Stage (r : Attempt ι) (n : Cluster ι α) (x : LinkEnd) : Prop
  | waiting (state : (n.member r.near.1).lifecycles[r.lifecycle]? =
        some ⟨r.peer, .registering r.near.2⟩) (table : (n.member r.near.1).table = r.dialer)
  | serving (state : (n.member r.near.1).lifecycles[r.lifecycle]? =
        some ⟨r.peer, .serving r.near.2⟩) (table : (n.member r.near.1).table = r.linked)
      (answer : x.role.answer? = some .success)

/-- How far an attempt has come, with the connection as its two members have it. -/
structure Reaches (r : Attempt ι) (n : Cluster ι α) (x y : LinkEnd) : Prop where
  forth : n.far r.near = some r.far
  back : n.far r.far = some r.near
  near : n.end? r.near = some x
  far : n.end? r.far = some y
  dialer : x.connection.Able
  listener : y.connection.Able
  session : y.role = .inbound r.session
  exchange : Exchange r.claimant r.listener r.admitted x y (n.member r.far.1).table
    (n.flying r.near) (n.flying r.far)
  stage : r.Stage n x

/-- What is left to do of an attempt. -/
def remaining (r : Attempt ι) (n : Cluster ι α) : Nat :=
  (match n.end? r.near, n.end? r.far with
    | some x, some y => Exchange.toil r.session x y (n.member r.far.1).table (n.flying r.near)
        (n.flying r.far)
    | _, _ => 0) +
  if (n.member r.near.1).lifecycles[r.lifecycle]? = some ⟨r.peer, .registering r.near.2⟩ then 1
  else 0

omit [DecidableEq ι] [Vocabulary α] in
theorem Reaches.remaining_eq (h : r.Reaches n x y) : r.remaining n =
    Exchange.toil r.session x y (n.member r.far.1).table (n.flying r.near) (n.flying r.far) +
      if (n.member r.near.1).lifecycles[r.lifecycle]? = some ⟨r.peer, .registering r.near.2⟩ then 1
      else 0 := by
  rw [remaining, h.near, h.far]

/-- An attempt goes on, and less of it is left. -/
def Proceeds (r : Attempt ι) (n n' : Cluster ι α) : Prop :=
  (∃ x y, r.Reaches n' x y) ∧ r.remaining n' < r.remaining n

/-- An event at the member that dialed. -/
theorem Reaches.near_step (h : r.Reaches n x y) (he : e.IsLossless)
    (possible : n.Possible (.event r.near e)) :
    n.after (.event r.near e) = n ∨ r.Proceeds n (n.after (.event r.near e)) := by
  have hne : r.far ≠ r.near := fun heq => r.apart (congrArg Prod.fst heq.symm)
  obtain ⟨hread, hcore, hother⟩ := passes_event possible h.forth r.apart h.near
  rcases h.exchange.dialer_step (n.member r.near.1).core r.session h.dialer he hread with
    hidles | ⟨hsame, hable, hexchange, hless⟩
  · exact .inl (after_event_of_idles h.near h.forth hidles)
  · obtain ⟨hforth, hback⟩ := flying_event (e := e) h.near h.forth hne
    have hnear := end?_event (e := e) h.near r.near
    have hfar := end?_event (e := e) h.near r.far
    rw [if_pos rfl] at hnear
    rw [if_neg hne, h.far] at hfar
    have hlifecycles : ((n.after (.event r.near e)).member r.near.1).lifecycles =
        (n.member r.near.1).lifecycles := by
      rw [member_event, if_pos rfl, Member.lifecycles_happen]
    have htable : ((n.after (.event r.near e)).member r.near.1).table =
        (n.member r.near.1).table := by
      rw [Member.table, hcore, hsame, Member.table]
    have hafter : r.Reaches (n.after (.event r.near e)) _ y := {
      forth := h.forth
      back := h.back
      near := hnear
      far := hfar
      dialer := hable
      listener := h.listener
      session := h.session
      exchange := by rwa [hforth, hback, hother]
      stage := by
        cases h.stage with
        | waiting state table => exact .waiting (hlifecycles ▸ state) (htable.trans table)
        | serving state table answer =>
          refine .serving (hlifecycles ▸ state) (htable.trans table) ?_
          exact (Role.serves_step (fun k hk => by simp [h.exchange.session?_eq_none] at hk)
            x.connection e).2.2 _ answer }
    refine .inr ⟨⟨_, y, hafter⟩, ?_⟩
    rw [hafter.remaining_eq, h.remaining_eq, hforth, hback, hother, hlifecycles]
    exact Nat.add_lt_add_right hless _

/-- An event at the member that was dialed. -/
theorem Reaches.far_step (h : r.Reaches n x y) (he : e.IsLossless)
    (possible : n.Possible (.event r.far e)) :
    n.after (.event r.far e) = n ∨ r.Proceeds n (n.after (.event r.far e)) := by
  have hne : r.near ≠ r.far := fun heq => r.apart (congrArg Prod.fst heq)
  obtain ⟨hread, hcore, hother⟩ := passes_event possible h.back r.apart.symm h.far
  rcases h.exchange.listener_step r.admits r.opened h.session h.listener he hread with
    hidles | ⟨hrole, hable, hexchange, hless⟩
  · exact .inl (after_event_of_idles h.far h.back hidles)
  · obtain ⟨hback, hforth⟩ := flying_event (e := e) h.far h.back hne
    have hnear := end?_event (e := e) h.far r.near
    have hfar := end?_event (e := e) h.far r.far
    rw [if_neg hne, h.near] at hnear
    rw [if_pos rfl] at hfar
    have hafter : r.Reaches (n.after (.event r.far e)) x _ := {
      forth := h.forth
      back := h.back
      near := hnear
      far := hfar
      dialer := h.dialer
      listener := hable
      session := hrole
      exchange := by rwa [hforth, hback, Member.table, hcore]
      stage := by
        cases h.stage with
        | waiting state table => exact .waiting (by rwa [hother]) (by rwa [hother])
        | serving state table answer => exact .serving (by rwa [hother]) (by rwa [hother]) answer }
    refine .inr ⟨⟨x, _, hafter⟩, ?_⟩
    rw [hafter.remaining_eq, h.remaining_eq, hforth, hback, hother, Member.table, hcore]
    exact Nat.add_lt_add_right hless _

/-- A lifecycle that waits takes the connection for the link once it has been admitted. -/
theorem Reaches.proceeds (h : r.Reaches n x y) (hrole : x.role = .outbound ⟨some .success, false⟩)
    (state : (n.member r.near.1).lifecycles[r.lifecycle]? =
      some ⟨r.peer, .registering r.near.2⟩)
    (table : (n.member r.near.1).table = r.dialer) (now : Nat) :
    r.Proceeds n (n.after (.act r.near.1 (.proceed r.lifecycle now))) := by
  have hinstalls : (n.member r.near.1).table.installClient r.peer.id r.near.2 =
      some r.linked := by
    rw [table]
    exact r.installs
  have hproceed := Member.proceed_of_admitted now state rfl (Member.dialedState?_eq h.near hrole)
    rfl hinstalls
  have hnear := n.member_act r.near.1 (.proceed r.lifecycle now) r.near.1
  have hfar := n.member_act r.near.1 (.proceed r.lifecycle now) r.far.1
  rw [if_pos rfl, Member.act, hproceed] at hnear
  rw [if_neg r.apart.symm] at hfar
  have hstate : ((n.after (.act r.near.1 (.proceed r.lifecycle now))).member
      r.near.1).lifecycles[r.lifecycle]? = some ⟨r.peer, .serving r.near.2⟩ := by
    rw [hnear, Member.getElem?_setLifecycle, if_pos rfl]
    show ((n.member r.near.1).lifecycles[r.lifecycle]?).map _ = _
    rw [state]
    rfl
  have hafter : r.Reaches (n.after (.act r.near.1 (.proceed r.lifecycle now))) x y := {
    forth := h.forth
    back := h.back
    near := by
      rw [end?, hnear]
      exact h.near
    far := by
      rw [end?, hfar]
      exact h.far
    dialer := h.dialer
    listener := h.listener
    session := h.session
    exchange := by
      rw [hfar]
      exact h.exchange
    stage := .serving hstate (by rw [hnear]; rfl) (by rw [hrole]; rfl) }
  refine ⟨⟨x, y, hafter⟩, ?_⟩
  rw [hafter.remaining_eq, h.remaining_eq, hstate, state, hfar]
  simp only [Option.some.injEq, Lifecycle.mk.injEq, true_and, reduceCtorEq, if_false, if_true]
  exact Nat.lt_succ_self _

/-- There is nothing to do for the lifecycle, or it has been admitted and goes on. -/
theorem Reaches.patient_or_proceeds (h : r.Reaches n x y) :
    (∃ l, (n.member r.near.1).lifecycles[r.lifecycle]? = some l ∧
      ∀ now, (n.member r.near.1).isReady now l.state = false) ∨
    ∀ now, r.Proceeds n (n.after (.act r.near.1 (.proceed r.lifecycle now))) := by
  rcases h.exchange.role_cases with hrole | hrole
  · have hdialed := Member.dialedState?_eq h.near hrole
    cases h.stage with
    | waiting state table =>
      refine .inl ⟨_, state, fun now => ?_⟩
      rw [Member.isReady, hdialed]
      rfl
    | serving state table answer =>
      rw [hrole] at answer
      cases answer
  · cases h.stage with
    | waiting state table => exact .inr (h.proceeds hrole state table)
    | serving state table answer =>
      refine .inl ⟨_, state, fun now => ?_⟩
      rw [Member.isReady, Member.dialedState?_eq h.near hrole]
      rfl

/-- Whatever is part of an attempt does nothing or brings it on. -/
theorem Reaches.step (h : r.Reaches n x y) (hm : m.Exchanges r.near r.far r.lifecycle)
    (possible : n.Possible m) : n.after m = n ∨ r.Proceeds n (n.after m) := by
  rcases hm.cases with ⟨e, he, rfl | rfl⟩ | ⟨now, rfl⟩
  · exact h.near_step he possible
  · exact h.far_step he possible
  · rcases h.patient_or_proceeds with ⟨l, hl, hpatient⟩ | hproceeds
    · exact .inl (after_act_of_eq (Member.proceed_of_not_isReady hl (hpatient now)) rfl)
    · exact .inr (hproceeds now)

/-- Whatever is done of an attempt, it goes on, and no more is left of it. -/
theorem Reaches.run {ms : List (Move ι α)} (h : r.Reaches n x y)
    (hms : n.Pursues r.near r.far r.lifecycle ms) :
    (∃ x' y', r.Reaches (n.afterAll ms) x' y') ∧ r.remaining (n.afterAll ms) ≤ r.remaining n := by
  induction ms generalizing n x y with
  | nil => exact ⟨⟨x, y, h⟩, Nat.le_refl _⟩
  | cons m ms ih =>
    obtain ⟨hfirst, hpossible, hrest⟩ := pursues_cons_iff.1 hms
    rcases h.step hfirst hpossible with hsame | ⟨⟨x', y', h'⟩, hless⟩
    · rw [hsame] at hrest
      rw [afterAll, hsame]
      exact ih h hrest
    · obtain ⟨hreaches, hle⟩ := ih h' hrest
      exact ⟨hreaches, Nat.le_trans hle (Nat.le_of_lt hless)⟩

/-- What advances an attempt takes some of what is left. -/
theorem Reaches.length_le {ms : List (Move ι α)} (h : r.Reaches n x y)
    (hms : n.Pursues r.near r.far r.lifecycle ms) (hadvances : n.Advances ms) :
    ms.length ≤ r.remaining n := by
  induction ms generalizing n x y with
  | nil => exact Nat.zero_le _
  | cons m ms ih =>
    obtain ⟨hfirst, hpossible, hrest⟩ := pursues_cons_iff.1 hms
    rcases h.step hfirst hpossible with hsame | ⟨⟨x', y', h'⟩, hless⟩
    · exact absurd hsame hadvances.1
    · have hle := ih h' hrest hadvances.2
      rw [List.length_cons]
      exact Nat.lt_of_le_of_lt hle hless

omit [DecidableEq ι] [Vocabulary α] in
/-- Where nothing is left to do of an attempt, the answer has been taken up. -/
theorem Reaches.settled (h : r.Reaches n x y) (hs : n.Settled r.near r.far r.lifecycle) :
    (n.member r.near.1).table = r.linked ∧ (n.member r.far.1).table = r.admitted := by
  obtain ⟨-, hx⟩ := h.dialer.idle_of_atRest (hs.near x h.near)
  obtain ⟨-, hy⟩ := h.listener.idle_of_atRest (hs.far y h.far)
  -- nothing is in flight and nothing is to be written, so what was on its way has arrived
  have harrived : ∀ {f : Frame} {c d : Connection} {stream : Octets}, f.Carried c stream d →
      c.pieces = [] → stream = [] → False := fun hcarried hpieces hstream =>
    hcarried.short (by simpa [hpieces, hstream] using hcarried.whole)
  cases h.exchange with
  | asking _ _ request => exact (harrived request hx hs.forth).elim
  | answering _ _ _ answer => exact (harrived answer hy hs.back).elim
  | answered table role =>
    refine ⟨?_, table⟩
    cases h.stage with
    | serving _ table => exact table
    | waiting state =>
      have hready := hs.patient _ state (Option.some_ne_none _) 0
      rw [Member.isReady, Member.dialedState?_eq h.near role] at hready
      cases hready

/-- An end that has something to do does it. -/
theorem exists_event (hx : n.end? p = some x) (hable : x.connection.Able)
    (hbusy : ¬ x.connection.AtRest) :
    ∃ e, e.IsLossless ∧ n.Possible (.event p e) ∧ n.after (.event p e) ≠ n := by
  obtain ⟨e, he, hheard, hne⟩ :=
    hable.exists_event hbusy Role.handler ((n.member p.1).core, x.role)
  refine ⟨e, he, fun x' hx' q _ => ?_, fun hsame => hne ?_⟩
  · cases hx.symm.trans hx'
    rw [hheard]
    exact List.nil_prefix
  · have hafter := end?_event (e := e) hx p
    rw [if_pos rfl, hsame, hx] at hafter
    exact congrArg LinkEnd.connection (Option.some.inj hafter).symm

/-- What is in flight arrives at an end that reads. -/
theorem arrives (hx : n.end? p = some x) (hfar : n.far p = some q) (hne : q ≠ p)
    (hphase : x.connection.phase = .serving .idle) (hflying : n.flying q ≠ []) :
    n.Possible (.event p (.received (n.flying q))) ∧
      n.after (.event p (.received (n.flying q))) ≠ n := by
  have hheard := x.connection.heard_received hphase (n.flying q)
  refine ⟨fun x' hx' q' hq' => ?_, fun hsame => hflying ?_⟩
  · cases hx.symm.trans hx'
    cases hfar.symm.trans hq'
    rw [hheard]
  · have hafter := (flying_event (e := .received (n.flying q)) hx hfar hne).2
    rwa [hsame, hheard, List.drop_length] at hafter

/-- As long as something is left to do of an attempt, it can be done. -/
theorem Reaches.onward (h : r.Reaches n x y) (hs : ¬ n.Settled r.near r.far r.lifecycle) :
    ∃ m : Move ι α, m.Exchanges r.near r.far r.lifecycle ∧ n.Possible m ∧ n.after m ≠ n := by
  have hne : r.far ≠ r.near := fun heq => r.apart (congrArg Prod.fst heq.symm)
  by_cases hx : x.connection.AtRest
  · by_cases hy : y.connection.AtRest
    · by_cases hforth : n.flying r.near = []
      · by_cases hback : n.flying r.far = []
        · -- only the lifecycle is left
          rcases h.patient_or_proceeds with ⟨l, hl, hpatient⟩ | hproceeds
          · refine absurd ⟨hforth, hback, fun x' hx' => ?_, fun y' hy' => ?_,
              fun l' hl' _ now => ?_⟩ hs
            · cases h.near.symm.trans hx'
              exact hx
            · cases h.far.symm.trans hy'
              exact hy
            · cases hl.symm.trans hl'
              exact hpatient now
          · refine ⟨.act r.near.1 (.proceed r.lifecycle 0), ⟨rfl, rfl⟩, trivial, fun hsame => ?_⟩
            have hless := (hproceeds 0).2
            rw [hsame] at hless
            exact Nat.lt_irrefl _ hless
        · obtain ⟨possible, hafter⟩ :=
            arrives h.near h.forth hne (h.dialer.idle_of_atRest hx).1 hback
          exact ⟨_, exchanges_near (e := .received _) trivial, possible, hafter⟩
      · obtain ⟨possible, hafter⟩ :=
          arrives h.far h.back hne.symm (h.listener.idle_of_atRest hy).1 hforth
        exact ⟨_, exchanges_far (e := .received _) trivial, possible, hafter⟩
    · obtain ⟨e, he, possible, hafter⟩ := exists_event h.far h.listener hy
      exact ⟨_, exchanges_far he, possible, hafter⟩
  · obtain ⟨e, he, possible, hafter⟩ := exists_event h.near h.dialer hx
    exact ⟨_, exchanges_near he, possible, hafter⟩

end Attempt

/-! ### Attempts that have just begun -/

/-- The end of an attempt is a link. -/
theorem Attempt.Reaches.completes {r : Attempt ι} {before : Cluster ι α} (h : r.Reaches n x y)
    (hlistener : r.peer.id = before.systemId r.far.1)
    (hdialer : r.claimant = before.systemId r.near.1)
    (hcount : r.dialer.connected = (before.member r.near.1).table.connected)
    (hcount' : r.listener.connected = (before.member r.far.1).table.connected) :
    before.Completes n r.near r.far r.lifecycle where
  linked ms hms hs := by
    obtain ⟨⟨x', y', h'⟩, -⟩ := h.run hms
    obtain ⟨hlinked, hadmitted⟩ := h'.settled hs
    obtain ⟨-, hinstalled⟩ := LinkTable.installClient_eq_some_iff.1 r.installs
    obtain ⟨-, -, -, hbound⟩ := LinkTable.bindSession_eq_ok_iff.1 r.admits
    refine ⟨?_, ⟨r.session, ?_, ?_⟩, ?_, ?_⟩
    · rw [hlinked, ← hlistener, LinkTable.link?_installClient r.installs, if_pos rfl]
    · rw [hadmitted, ← hdialer, LinkTable.link?_bindSession r.admits, if_pos rfl]
    · rw [hadmitted, hbound]
      exact (LinkTable.connection?_modify r.listener r.session r.session
        (f := fun x => { x with binding := some r.claimant }) fun _ => rfl).trans r.opened
    · rw [hlinked, hinstalled, ← hcount]
    · rw [hadmitted, hbound, ← hcount']
  onward ms hms hs := by
    obtain ⟨⟨x', y', h'⟩, -⟩ := h.run hms
    exact h'.onward hs
  bounded := by
    refine ⟨r.remaining n, fun ms more hms hadvances => ?_⟩
    obtain ⟨hfirst, hlater⟩ := hms.split
    obtain ⟨⟨x', y', h'⟩, hle⟩ := h.run hfirst
    exact Nat.le_trans (h'.length_le hlater hadvances) hle

section

variable {a b : ι} {now : Nat} {peer origin : Option Address}

theorem member_dialing (possible : n.Possible (.dial a b i now peer origin)) :
    (n.after (.dial a b i now peer origin)).member a =
      ((n.member a).dialed i now (.ok peer)).1 := by
  obtain ⟨hne, l, hl, hdialing, -⟩ := possible
  simp only [after, Move.at?, if_neg hne, if_true, Option.elim, Member.act, Option.mem_def.1 hl,
    Option.any_some, hdialing]

/-- The streams of a connection that has just been dialed are empty. -/
theorem flying_dialing (hne : a ≠ b) :
    (n.after (.dial a b i now peer origin)).flying (n.nextTip a) = [] ∧
      (n.after (.dial a b i now peer origin)).flying (n.nextTip b) = [] := by
  have hne' : n.nextTip a ≠ n.nextTip b := fun heq => hne (congrArg Prod.fst heq)
  simp only [after, flow]
  rw [Function.update_self, Function.update_of_ne hne', Function.update_self]
  exact ⟨rfl, rfl⟩

/-- The tips of a connection that has just been dialed. -/
theorem far_dialing (hne : a ≠ b) :
    (n.after (.dial a b i now peer origin)).far (n.nextTip a) = some (n.nextTip b) ∧
      (n.after (.dial a b i now peer origin)).far (n.nextTip b) = some (n.nextTip a) := by
  have hne' : n.nextTip a ≠ n.nextTip b := fun heq => hne (congrArg Prod.fst heq)
  simp only [after, join]
  rw [Function.update_of_ne hne', Function.update_self, Function.update_self]
  exact ⟨rfl, rfl⟩

/-- The attempt of a member `a` that dials a member `b`, with the links that both come to have. -/
def Attempt.ofDial (n : Cluster ι α) {a b : ι} (hne : a ≠ b) (i : Nat) (peer : MemberConfig)
    (origin : Option Address) {linked admitted : LinkTable}
    (installs : (n.member a).table.installClient peer.id (n.member a).nextConnection = some linked)
    (admits : ((n.member b).accept origin).2.table.bindSession (n.systemId a)
      ⟨(n.member b).table.sessions.made.length⟩ = .ok admitted) : Attempt ι where
  near := n.nextTip a
  far := n.nextTip b
  lifecycle := i
  peer := peer
  claimant := n.systemId a
  session := ⟨(n.member b).table.sessions.made.length⟩
  dialer := (n.member a).table
  linked := linked
  listener := ((n.member b).accept origin).2.table
  admitted := admitted
  apart := hne
  installs := installs
  opened := ((n.member b).table.connection?_create (n.member b).nextConnection origin _).trans
    (if_pos rfl)
  admits := admits

/-- What there is after dialing: the request waits to be written. -/
theorem Attempt.reaches_ofDial (hne : a ≠ b) {l : Lifecycle} {linked admitted : LinkTable}
    (installs : (n.member a).table.installClient l.peer.id (n.member a).nextConnection =
      some linked)
    (admits : ((n.member b).accept origin).2.table.bindSession (n.systemId a)
      ⟨(n.member b).table.sessions.made.length⟩ = .ok admitted)
    (possible : n.Possible (.dial a b i now peer origin))
    (hl : (n.member a).lifecycles[i]? = some l)
    (roomy : 4 ≤ (n.member a).config.timings.maxFrameSize)
    (roomy' : 4 ≤ (n.member b).config.timings.maxFrameSize) :
    ∃ x y, (Attempt.ofDial n hne i l.peer origin installs admits).Reaches
      (n.after (.dial a b i now peer origin)) x y := by
  obtain ⟨hcore, hlifecycles, hends⟩ := (n.member a).dialed_of_roomy i now peer roomy
  rw [← member_dialing possible] at hcore hlifecycles hends
  obtain ⟨hforth, hback⟩ := far_dialing (n := n) (i := i) hne
  obtain ⟨hforth', hback'⟩ := flying_dialing (n := n) (i := i) hne
  have hnear : (n.after (.dial a b i now peer origin)).end? (n.nextTip a) =
      some ⟨.outbound default, ⟨⟨peer, (n.member a).config.timings.maxFrameSize, true,
        [.frame (Registration.request (n.systemId a)).write]⟩, .made, []⟩⟩ := by
    rw [end?]
    show ((n.after _).member a).ends[(n.member a).ends.length]? = _
    rw [hends]
    exact List.getElem?_concat_length
  have hfar := n.end?_accepting a b i now peer origin
  have hstate : ((n.after (.dial a b i now peer origin)).member a).lifecycles[i]? =
      some ⟨l.peer, .registering (n.member a).nextConnection⟩ := by
    rw [hlifecycles, Member.getElem?_setLifecycle, if_pos rfl, hl]
    rfl
  refine ⟨_, _, ⟨hforth, hback, hnear, hfar, ⟨trivial, rfl, ?_, roomy⟩,
    ⟨trivial, rfl, List.not_mem_nil, roomy'⟩, rfl, .asking ?_ rfl ⟨?_, ?_⟩ ⟨rfl, hback', rfl⟩,
    .waiting hstate ?_⟩⟩
  · simp
  · show ((n.after _).member b).table = _
    rw [member_accepting]
    rfl
  · show [] ++ (n.after _).flying (n.nextTip a) ++ _ = _
    rw [hforth']
    exact List.append_nil _
  · exact (Frame.write_ne_nil _).symm
  · show ((n.after _).member a).table = _
    rw [Member.table, hcore]
    rfl

/-- A member that takes payloads of four octets begins an attempt by dialing, and that is an attempt
that ends with a link. -/
theorem completes_dial {c c' : Config} {j : Nat} (ha : (n.member a).Placed c)
    (hb : (n.member b).Placed c') (same : c.members = c'.members) (hj : c.localIndex? = some j)
    (hi : c'.localIndex? = some i) (roomy : 4 ≤ c.timings.maxFrameSize)
    (roomy' : 4 ≤ c'.timings.maxFrameSize)
    (dialing : ((n.member a).lifecycles[i]?).any (·.state.isDialing) = true)
    (free : (n.member b).table.link? (n.systemId a) = some .disconnected) :
    n.Possible (.dial a b i now peer origin) ∧
      n.Completes (n.after (.dial a b i now peer origin)) (n.nextTip a) (n.nextTip b) i := by
  obtain ⟨l, hl, hdialing⟩ := (Option.any_eq_true _ _).1 dialing
  obtain ⟨hij, hpeer⟩ := ha.peer hj hl
  have hlistener : l.peer.id = n.systemId b := by
    obtain ⟨i', hi', ⟨own, hown, hid⟩, -⟩ := LinkTable.ofConfig_of_validate hb.valid
    obtain rfl : i' = i := Option.some.inj (hi'.symm.trans hi)
    rw [same] at hpeer
    cases hpeer.symm.trans hown
    exact hid.trans hb.localId.symm
  have hdials : (n.member b).table.dials? (n.systemId a) = some false := by
    obtain ⟨j', hj', ⟨own, hown, hid⟩, -⟩ := LinkTable.ofConfig_of_validate ha.valid
    obtain rfl : j' = j := Option.some.inj (hj'.symm.trans hj)
    have hdials := hb.dials? hi (same ▸ hown) (Nat.ne_of_gt hij)
    rw [hid, ← ha.localId] at hdials
    exact hdials.trans (by simp [Nat.le_of_lt hij])
  have hne : a ≠ b := fun hab => by
    have hconfig : c = c' := ha.config.symm.trans (hab ▸ hb.config)
    rw [hconfig, hi] at hj
    exact Nat.ne_of_lt hij (Option.some.inj hj)
  have possible : n.Possible (.dial a b i now peer origin) := ⟨hne, l, hl, hdialing, hlistener⟩
  refine ⟨possible, ?_⟩
  have hdown := ha.tended.link?_eq_disconnected hl
    (Lifecycle.State.ne_serving (Lifecycle.State.connection?_of_isDialing hdialing))
  obtain ⟨linked, installs⟩ : ∃ t, (n.member a).table.installClient l.peer.id
      (n.member a).nextConnection = some t :=
    ⟨_, LinkTable.installClient_eq_some_iff.2 ⟨hdown, rfl⟩⟩
  obtain ⟨admitted, admits⟩ : ∃ t, ((n.member b).accept origin).2.table.bindSession
      (n.systemId a) ⟨(n.member b).table.sessions.made.length⟩ = .ok t := by
    refine ⟨_, LinkTable.bindSession_eq_ok_iff.2 ⟨hdials, free, ?_, rfl⟩⟩
    refine (Sessions.binding?_create ..).trans ?_
    simp [Sessions.binding?, Sessions.get?]
  rw [← ha.config] at roomy
  rw [← hb.config] at roomy'
  obtain ⟨x, y, hreaches⟩ :=
    Attempt.reaches_ofDial hne installs admits possible hl roomy roomy'
  exact hreaches.completes hlistener rfl rfl rfl

end

end

/-- Whichever members dialed, registered and lost their links before: where a member `a` is about to
dial a member `b` that comes before it, and `b` has no link to it, the registration of `a` ends with
a link, as long as both take payloads of four octets. -/
theorem completes_of_run {n : Cluster ι α} {config : ι → Config} {member : ι → Member α}
    (h₀ : ∀ a, Member.ofConfig (config a) = .ok (member a)) (run : (ofMembers member).Run n)
    {a b : ι} {i j : Nat} (same : (config a).members = (config b).members)
    (ha : (config a).localIndex? = some j) (hb : (config b).localIndex? = some i)
    (roomy : 4 ≤ (config a).timings.maxFrameSize) (roomy' : 4 ≤ (config b).timings.maxFrameSize)
    (dialing : ((n.member a).lifecycles[i]?).any (·.state.isDialing) = true)
    (free : (n.member b).table.link? (n.systemId a) = some .disconnected) (now : Nat)
    (peer origin : Option Address) :
    n.Possible (.dial a b i now peer origin) ∧
      n.Completes (n.after (.dial a b i now peer origin)) (n.nextTip a) (n.nextTip b) i := by
  have hplaced : ∀ c, (n.member c).Placed (config c) := fun c =>
    run.keeps (fun _ x h => h.act x) (Member.placed_ofConfig (h₀ c))
  exact completes_dial (hplaced a) (hplaced b) same ha hb roomy roomy' dialing free

/-- The configuration of one of two members, with a limit to the payloads of frames. -/
def pairConfig (limit : Nat) (a : Fin 2) : Config where
  localId := ⟨a.val.toUInt32 + 1⟩
  members := [⟨⟨1⟩, "a", 7001, []⟩, ⟨⟨2⟩, "b", 7002, []⟩]
  timings := { maxFrameSize := limit }

/-- One of two members, before anything happens. -/
def pairMember (limit : Nat) (a : Fin 2) : Member Sample :=
  ⟨pairConfig limit a, ⟨.empty, ⟨⟨a.val.toUInt32 + 1⟩, a, (pairConfig limit a).members,
    LinkTable.initialPeers a (pairConfig limit a).members, 0, false, .empty⟩, []⟩,
    .new ⟨a.val.toUInt32 + 1⟩ (.ofConfig (pairConfig limit a)), [], [], .notAsked,
    [.watchProxy, .requestProxy]⟩

/-- The members start, and the second one is about to dial the first one. -/
def reaching : List (Move (Fin 2) Sample) :=
  [.act 0 (.start true 0), .act 1 (.start false 0), .act 1 (.dialing 0)]

/-- Two members, the second of which is about to dial the first one. -/
def pair (limit : Nat) : Cluster (Fin 2) Sample := (ofMembers (pairMember limit)).afterAll reaching

/-- The two after that. -/
def pairDialed (limit : Nat) : Cluster (Fin 2) Sample :=
  (pair limit).after (.dial 1 0 0 0 none none)

/-- The request is written and read in two parts, and the answer is written in two parts, too. -/
def inParts : List (Move (Fin 2) Sample) :=
  let request := (Registration.request ⟨2⟩).write
  let response := (Registration.response .success).write
  [.event (1, ⟨0⟩) .started, .event (0, ⟨0⟩) .started, .event (1, ⟨0⟩) .polled,
    .event (1, ⟨0⟩) (.wrote 7), .event (0, ⟨0⟩) (.received (request.take 3)),
    .event (1, ⟨0⟩) (.wrote 2), .event (0, ⟨0⟩) (.received (request.drop 3)),
    .event (0, ⟨0⟩) .polled, .event (0, ⟨0⟩) (.wrote 4), .event (1, ⟨0⟩) .flushed,
    .event (1, ⟨0⟩) (.received (response.take 4)), .event (0, ⟨0⟩) (.wrote 5),
    .event (1, ⟨0⟩) (.received (response.drop 4)), .event (0, ⟨0⟩) .flushed,
    .act 1 (.proceed 0 0)]

theorem completes_of_run_pair :
    (∀ a, Member.ofConfig (pairConfig 4 a) = .ok (pairMember 4 a)) ∧
      (ofMembers (pairMember 4)).Run (pair 4) ∧ (pair 4).Possible (.dial 1 0 0 0 none none) ∧
      (pair 4).Completes (pairDialed 4) ((pair 4).nextTip 1) ((pair 4).nextTip 0) 0 ∧
      (pair 4).Paired ((pairDialed 4).afterAll inParts) ((pair 4).nextTip 1)
        ((pair 4).nextTip 0) := by
  have h₀ : ∀ a, Member.ofConfig (pairConfig 4 a) = .ok (pairMember 4 a)
    | 0 => rfl
    | 1 => rfl
  have possible : (ofMembers (pairMember 4)).PossibleAll reaching := by decide +kernel
  have run : (ofMembers (pairMember 4)).Run (pair 4) := Run.start.afterAll possible
  obtain ⟨hdial, hcompletes⟩ := completes_of_run h₀ run (a := 1) (b := 0) (i := 0) (j := 1) rfl
    rfl rfl (by decide) (by decide) (by decide +kernel) (by decide +kernel) 0 none none
  refine ⟨h₀, run, hdial, hcompletes, hcompletes.linked inParts
    ⟨by decide +kernel, by decide +kernel⟩ ⟨by decide +kernel, by decide +kernel,
      by decide +kernel, by decide +kernel, fun l hl _ now => ?_⟩⟩
  have hstate : (((pairDialed 4).afterAll inParts).member 1).lifecycles[0]? =
      some ⟨⟨⟨1⟩, "a", 7001, []⟩, .serving ⟨0⟩⟩ := by decide +kernel
  have hdialed : (((pairDialed 4).afterAll inParts).member 1).dialedState? ⟨0⟩ =
      some ⟨some .success, false⟩ := by decide +kernel
  cases hstate.symm.trans hl
  exact congrArg (Option.any (·.gone)) hdialed

/-- Two members that do not take payloads of four octets, as their configuration allows: the second
one cannot register, and gives up. -/
def failing : List (Move (Fin 2) Sample) :=
  [.event (1, ⟨0⟩) .started, .event (0, ⟨0⟩) .started, .event (1, ⟨0⟩) .polled,
    .event (1, ⟨0⟩) .polled, .event (1, ⟨0⟩) .shutDown]

theorem not_completes_narrow :
    (∀ a, (pairConfig 3 a).validate = .ok () ∧
        Member.ofConfig (pairConfig 3 a) = .ok (pairMember 3 a)) ∧
      (ofMembers (pairMember 3)).Run (pair 3) ∧
      (pairConfig 3 1).members = (pairConfig 3 0).members ∧
      (pairConfig 3 0).localIndex? = some 0 ∧ (pairConfig 3 1).localIndex? = some 1 ∧
      ((pair 3).member 1).table.link? ((pair 3).systemId 0) = some .disconnected ∧
      ((pair 3).member 0).table.link? ((pair 3).systemId 1) = some .disconnected ∧
      (pair 3).Possible (.dial 1 0 0 0 none none) ∧
      ¬ (pair 3).Completes (pairDialed 3) ((pair 3).nextTip 1) ((pair 3).nextTip 0) 0 := by
  have h₀ : ∀ a, (pairConfig 3 a).validate = .ok () ∧
      Member.ofConfig (pairConfig 3 a) = .ok (pairMember 3 a)
    | 0 => ⟨rfl, rfl⟩
    | 1 => ⟨rfl, rfl⟩
  have possible : (ofMembers (pairMember 3)).PossibleAll reaching := by decide +kernel
  refine ⟨h₀, Run.start.afterAll possible, rfl, rfl, rfl, by decide +kernel, by decide +kernel,
    by decide +kernel, fun hcompletes => ?_⟩
  have hpaired := hcompletes.linked failing ⟨by decide +kernel, by decide +kernel⟩
    ⟨by decide +kernel, by decide +kernel, by decide +kernel, by decide +kernel,
      fun l hl hbusy => ?_⟩
  · have hdown : (((pairDialed 3).afterAll failing).member 1).table.link? ((pair 3).systemId 0) =
        some .disconnected := by decide +kernel
    cases hdown.symm.trans hpaired.client
  · have hresting : (((pairDialed 3).afterAll failing).member 1).lifecycles[0]? =
        some ⟨⟨⟨1⟩, "a", 7001, []⟩, .resting 5000⟩ := by decide +kernel
    cases hresting.symm.trans hl
    exact absurd rfl hbusy

end Cluster

end ActorMesh
