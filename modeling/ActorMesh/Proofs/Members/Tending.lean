import ActorMesh.Proofs.Links.Roles
import ActorMesh.Proofs.Members.Operations

/-!
# Every dialed link has its lifecycle

The links to the peers that a member dials belong to its lifecycles: once the member was asked to
start there is one for every such peer, and the link is up exactly while that serves
(`Member.Tended`). No two lifecycles ever have one connection, and a connection that a lifecycle has
is one that the member dialed.
-/

namespace ActorMesh

namespace LinkTable

/-- Only installing and clearing change which connections are links; in particular, nothing that
comes from a peer does. -/
theorem link?_client_after (t : LinkTable) (op : Operation) (hop : op.isStart = true ∨
    op.isAccept = true ∨ (∃ k payload, op = .register k payload ∧
      k.value < t.sessions.made.length) ∨ ∃ k, op = .disconnect k) (s : SystemId)
    (c : ConnectionId) :
    (t.after op).link? s = some (.client c) ↔ t.link? s = some (.client c) := by
  have hserves : ∀ {k t'}, Serves (some k) t t' →
      (t'.link? s = some (.client c) ↔ t.link? s = some (.client c)) := fun h =>
    ⟨h.client s c, fun hl => h.link s _ hl (by simp) fun _ _ => by simp⟩
  rcases hop with hstart | haccept | ⟨k, payload, rfl, hk⟩ | ⟨k, rfl⟩
  · cases op with
    | start hasListener =>
      simp only [after, LinkTable.start]
      split
      · exact .rfl
      · split <;> exact .rfl
    | _ => cases hstart
  · cases op with
    | accept d peer => exact .rfl
    | _ => cases haccept
  · exact hserves (serves_register hk payload)
  · exact hserves (serves_endSession t k)

end LinkTable

namespace Lifecycle.State

theorem ne_serving {s : State} (away : s.connection? = none) (c : ConnectionId) :
    s ≠ .serving c := fun heq => by
  rw [heq] at away
  cases away

theorem ne_registering {s : State} (away : s.connection? = none) (c : ConnectionId) :
    s ≠ .registering c := fun heq => by
  rw [heq] at away
  cases away

theorem connection?_of_isDialing {s : State} (h : s.isDialing = true) : s.connection? = none := by
  cases s with
  | due | dialing | resting => rfl
  | registering | serving => cases h

end Lifecycle.State

namespace Member

variable {α : Type} {m m' : Member α} {a : Action α} {call : Option (Nat × Lifecycle.Call)}

/-- Only the lifecycle itself is set. -/
theorem getElem?_setLifecycle (m : Member α) (i j : Nat) (s : Lifecycle.State) :
    (m.setLifecycle i s).lifecycles[j]? =
      if j = i then (m.lifecycles[i]?).map fun l => { l with state := s }
      else m.lifecycles[j]? := by
  simp only [setLifecycle, List.getElem?_modify]
  by_cases h : j = i
  · subst h
    simp
  · simp [h, Ne.symm h]

theorem map_peer_setLifecycle (m : Member α) (i : Nat) (s : Lifecycle.State) :
    (m.setLifecycle i s).lifecycles.map (·.peer) = m.lifecycles.map (·.peer) := by
  refine List.ext_getElem? fun j => ?_
  rw [List.getElem?_map, List.getElem?_map, getElem?_setLifecycle]
  split
  · rename_i h
    rw [h]
    cases m.lifecycles[i]? <;> rfl
  · rfl

/-- What holds of the links and lifecycles of a member whatever happens. -/
structure Tended (m : Member α) : Prop where
  sound : m.Sound
  nodup : m.config.memberIds.Nodup
  links : m.table.Sound m.config.memberIds
  /-- No two peers to dial have one number. -/
  passive : (m.table.passivePeers.map (·.config.id)).Nodup
  dials : ∀ p ∈ m.table.passivePeers.map (·.config), m.table.dials? p.id = some true
  /-- All lifecycles begin at once, one for every peer to dial. -/
  begun : m.lifecycles = [] ∨ m.table.started = true ∧
    m.lifecycles.map (·.peer) = m.table.passivePeers.map (·.config)
  /-- The link is up on a connection exactly while the lifecycle serves on it. -/
  served : ∀ (i : Nat) l, m.lifecycles[i]? = some l → ∀ c,
    m.table.link? l.peer.id = some (.client c) ↔ l.state = .serving c
  tended : ∀ s c, m.table.link? s = some (.client c) → ∃ l ∈ m.lifecycles, l.peer.id = s
  /-- No two lifecycles have one connection. -/
  apart : ∀ (i j : Nat) l l' c, m.lifecycles[i]? = some l → m.lifecycles[j]? = some l' →
    l.state.connection? = some c → l'.state.connection? = some c → i = j
  /-- The connection of a lifecycle is one that the member dialed. -/
  dialed : ∀ l ∈ m.lifecycles, ∀ c, l.state.connection? = some c →
    ∃ x, m.ends[c.value]? = some x ∧ x.role.session? = none

namespace Tended

/-- A lifecycle has a peer that the member dials. -/
theorem dials?_peer (h : m.Tended) {l : Lifecycle} (hl : l ∈ m.lifecycles) :
    m.table.dials? l.peer.id = some true := by
  rcases h.begun with hnone | ⟨-, hpeers⟩
  · rw [hnone] at hl
    cases hl
  · exact h.dials l.peer (hpeers ▸ List.mem_map_of_mem hl)

/-- A peer has one lifecycle. -/
theorem only (h : m.Tended) {i j : Nat} {l l' : Lifecycle} (hl : m.lifecycles[i]? = some l)
    (hl' : m.lifecycles[j]? = some l') (heq : l.peer.id = l'.peer.id) : i = j := by
  rcases h.begun with hnone | ⟨-, hpeers⟩
  · rw [hnone] at hl
    cases hl
  · have hids : m.lifecycles.map (·.peer.id) = m.table.passivePeers.map (·.config.id) := by
      have hmap := congrArg (List.map MemberConfig.id) hpeers
      simpa only [List.map_map, Function.comp_def] using hmap
    have hnd := h.passive
    rw [← hids] at hnd
    have hi : (m.lifecycles.map (·.peer.id))[i]? = some l.peer.id := by simp [hl]
    have hj : (m.lifecycles.map (·.peer.id))[j]? = some l.peer.id := by simp [hl', heq]
    obtain ⟨hlt, -⟩ := List.getElem?_eq_some_iff.1 hi
    exact (List.getElem?_inj hlt hnd).1 (hi.trans hj.symm)

/-- Where the lifecycle does not serve, the link is down. -/
theorem link?_eq_disconnected (h : m.Tended) {i : Nat} {l : Lifecycle}
    (hl : m.lifecycles[i]? = some l) (hdown : ∀ c, l.state ≠ .serving c) :
    m.table.link? l.peer.id = some .disconnected := by
  have hdials := h.dials?_peer (List.mem_of_getElem? hl)
  have hsome : (m.table.link? l.peer.id).isSome = true := by
    rw [LinkTable.isSome_link?, hdials]
    rfl
  obtain ⟨link, hlink⟩ := Option.isSome_iff_exists.1 hsome
  have hsuits := h.links.suits hdials hlink
  cases link with
  | disconnected => exact hlink
  | client c => exact absurd ((h.served i l hl c).1 hlink) (hdown c)
  | session k => cases hsuits

end Tended

/-! ### Members that have only been made -/

theorem tended_ofConfig {c : Config} (h : ofConfig c = .ok m) : m.Tended := by
  have hfresh := fresh_ofConfig h
  have hnd := (Config.validate_eq_ok_iff.1 hfresh.valid).2.1
  obtain ⟨i, hi, ⟨own, hown, -⟩, ht⟩ := LinkTable.ofConfig_of_validate hfresh.valid
  have htable : m.table = ⟨c.localId, i, c.members, LinkTable.initialPeers i c.members, 0, false,
      .empty⟩ := by
    simp only [ofConfig, hfresh.valid, ht] at h
    cases h
    rfl
  obtain ⟨hlt, -⟩ := List.getElem?_eq_some_iff.1 hown
  have hpassive : m.table.passivePeers =
      (c.members.take i).map fun p => ⟨p, true, .disconnected⟩ := by
    rw [htable]
    exact LinkTable.passivePeers_ofPlace (i := ⟨i, hlt⟩) hnd
  refine {
    sound := hfresh.sound
    nodup := by rw [hfresh.config]; exact hnd
    links := ?_
    passive := ?_
    dials := fun p hp => ?_
    begun := .inl hfresh.lifecycles
    served := fun j l hl => ?_
    tended := fun s d hl => by cases hfresh.link hl
    apart := fun j j' l l' d hl => ?_
    dialed := fun l hl => ?_ }
  · rw [hfresh.config, htable]
    exact (LinkTable.traced_ofConfig hi ht).sound
  · rw [hpassive, List.map_map]
    exact ((List.take_sublist i c.members).map MemberConfig.id).nodup hnd
  · rw [hpassive, List.map_map] at hp
    obtain ⟨p', hp', rfl⟩ := List.mem_map.1 hp
    obtain ⟨j, hj, rfl⟩ := List.mem_take_iff_getElem.1 hp'
    obtain ⟨hji, hj⟩ := Nat.lt_min.1 hj
    have hdials := LinkTable.dials?_ofConfig hfresh.valid hi ht (List.getElem?_eq_getElem hj)
      (Nat.ne_of_lt hji)
    rw [htable]
    refine hdials.trans ?_
    rw [decide_eq_true hji]
  · rw [hfresh.lifecycles] at hl
    cases hl
  · rw [hfresh.lifecycles] at hl
    cases hl
  · rw [hfresh.lifecycles] at hl
    cases hl

/-! ### Actions -/

namespace Course

/-- To the links an action is one operation at most, and one that changes them in one place. -/
theorem effect (h : Course m a m' call) (hm : m.Tended) :
    LinkTable.SamePeers m.table m'.table ∧ (∀ s, m'.table.dials? s = m.table.dials? s) ∧
      LinkTable.Effect m.table m'.table := by
  have hsame : m'.table = m.table → LinkTable.SamePeers m.table m'.table ∧
      (∀ s, m'.table.dials? s = m.table.dials? s) ∧ LinkTable.Effect m.table m'.table :=
    fun heq => by
      rw [heq]
      exact ⟨.refl _, fun _ => rfl, .none (fun _ => rfl) (fun _ => rfl) rfl rfl⟩
  have hafter : ∀ op, m'.table = m.table.after op → LinkTable.Effect m.table (m.table.after op) →
      LinkTable.SamePeers m.table m'.table ∧
        (∀ s, m'.table.dials? s = m.table.dials? s) ∧ LinkTable.Effect m.table m'.table :=
    fun op heq heffect => by
      rw [heq]
      exact ⟨m.table.samePeers_after op, (LinkTable.kept_after m.table op).dials, heffect⟩
  cases h with
  | aside table => exact hsame table
  | roams _ _ _ table => exact hsame table
  | dialed _ _ _ table => exact hsame table
  | refused _ _ _ _ table => exact hsame table
  | start table => exact hafter _ table (LinkTable.effect_start ..)
  | @inbound _ _ op admitting table =>
    refine hafter op table ?_
    cases admitting with
    | accept peer => exact LinkTable.effect_accept ..
    | @register c x k e payload hx hrole =>
      have hk := LinkTable.lt_of_connection? (hm.sound.session c x k hx (by rw [hrole]; rfl))
      exact LinkTable.effect_register hk payload
    | disconnect e hx hrole => exact LinkTable.effect_endSession hm.sound.paired _
  | @installed i now m' l c before _ _ link =>
    have hdials := hm.dials?_peer (List.mem_of_getElem? before)
    refine hafter (.install l.peer.id c) ?_ (LinkTable.effect_installClient hdials c)
    simp only [LinkTable.after, link, Option.getD_some]
  | cleared before _ _ table =>
    exact hafter (.clear _ _) table (LinkTable.effect_clearClient ..)

/-- The lifecycles are those of the peers to dial, or there are none yet. -/
theorem begun (h : Course m a m' call) (hm : m.Tended) : m'.lifecycles = [] ∨
    m'.table.started = true ∧
      m'.lifecycles.map (·.peer) = m'.table.passivePeers.map (·.config) := by
  obtain ⟨hpeers, -, heffect⟩ := h.effect hm
  have hstarted : m.table.started = true → m'.table.started = true := fun hs => by
    cases heffect with
    | none _ _ started => exact started.trans hs
    | start _ _ _ started => exact started
    | up _ _ _ _ _ _ _ _ _ _ started => exact started.trans hs
    | down _ _ _ _ _ _ started => exact started.trans hs
  have hmoved : ∀ ls : List Lifecycle, m'.lifecycles = ls →
      ls.map (·.peer) = m.lifecycles.map (·.peer) → m'.lifecycles = [] ∨
        m'.table.started = true ∧
          m'.lifecycles.map (·.peer) = m'.table.passivePeers.map (·.config) :=
    fun ls hls hmap => by
      rw [hls, hpeers.configs, hmap]
      refine hm.begun.imp (fun hnone => ?_) fun ⟨hs, heq⟩ => ⟨hstarted hs, heq⟩
      rw [hnone] at hmap
      exact List.map_eq_nil_iff.1 hmap
  cases h with
  | aside _ lifecycles => exact hmoved _ lifecycles rfl
  | inbound _ _ lifecycles => exact hmoved _ lifecycles rfl
  | roams _ _ _ _ lifecycles => exact hmoved _ lifecycles (map_peer_setLifecycle ..)
  | dialed _ _ _ _ lifecycles => exact hmoved _ lifecycles (map_peer_setLifecycle ..)
  | installed _ _ _ _ lifecycles => exact hmoved _ lifecycles (map_peer_setLifecycle ..)
  | refused _ _ _ _ _ lifecycles => exact hmoved _ lifecycles (map_peer_setLifecycle ..)
  | cleared _ _ _ _ lifecycles => exact hmoved _ lifecycles (map_peer_setLifecycle ..)
  | @start hasListener now _ begun table lifecycles once =>
    rcases once with rfl | ⟨hfresh, rfl⟩
    · exact hmoved _ (lifecycles.trans (List.append_nil _)) rfl
    · have hnone := hm.begun.resolve_right fun hs => by simp [hs.1] at hfresh
      refine .inr ⟨?_, ?_⟩
      · rw [table, (LinkTable.kept_after m.table (.start hasListener)).started]
        simp [LinkTable.Operation.isStart]
      · rw [lifecycles, hnone, hpeers.configs]
        simp [Function.comp_def]

/-- A lifecycle keeps its connection or leaves it, unless it dials. -/
theorem errand (h : Course m a m' call) {j : Nat} {l' : Lifecycle} {d : ConnectionId}
    (hl' : m'.lifecycles[j]? = some l') (hd : l'.state.connection? = some d) :
    (∃ l, m.lifecycles[j]? = some l ∧ l.state.connection? = some d) ∨
      call = some (j, .dial d) ∧ d = m.nextConnection := by
  have hset : ∀ {i : Nat} {l : Lifecycle} {s : Lifecycle.State}, m.lifecycles[i]? = some l →
      m'.lifecycles = (m.setLifecycle i s).lifecycles →
      (∃ l, m.lifecycles[j]? = some l ∧ l.state.connection? = some d) ∨
        j = i ∧ s.connection? = some d := fun {i l s} before lifecycles => by
    rw [lifecycles, getElem?_setLifecycle] at hl'
    split at hl'
    · rename_i hj
      rw [before] at hl'
      cases hl'
      exact .inr ⟨hj, hd⟩
    · exact .inl ⟨l', hl', hd⟩
  have haway : ∀ {s : Lifecycle.State}, s.connection? = none → s.connection? ≠ some d :=
    fun hs => by simp [hs]
  cases h with
  | aside _ lifecycles => exact .inl ⟨l', lifecycles ▸ hl', hd⟩
  | inbound _ _ lifecycles => exact .inl ⟨l', lifecycles ▸ hl', hd⟩
  | @start hasListener now _ begun _ lifecycles once =>
    rw [lifecycles, List.getElem?_append] at hl'
    split at hl'
    · exact .inl ⟨l', hl', hd⟩
    · rcases once with rfl | ⟨-, rfl⟩
      · cases hl'
      · obtain ⟨p, -, rfl⟩ := List.mem_map.1 (List.mem_of_getElem? hl')
        cases hd
  | roams before _ away _ lifecycles =>
    exact .inl ((hset before lifecycles).resolve_right fun hj => haway away hj.2)
  | refused before _ _ away _ lifecycles =>
    exact .inl ((hset before lifecycles).resolve_right fun hj => haway away hj.2)
  | cleared before _ away _ lifecycles =>
    exact .inl ((hset before lifecycles).resolve_right fun hj => haway away hj.2)
  | installed before registering _ _ lifecycles =>
    refine .inl ((hset before lifecycles).elim id fun ⟨hj, hs⟩ => ?_)
    exact ⟨_, hj ▸ before, by rw [registering]; exact hs⟩
  | dialed before _ next _ lifecycles =>
    refine (hset before lifecycles).imp id fun ⟨hj, hs⟩ => ?_
    rcases next with rfl | haway'
    · cases hs
      exact ⟨by rw [hj], rfl⟩
    · exact absurd hs (haway haway')

end Course

/-- The links that a lifecycle sets are its own. -/
theorem Tended.set (hm : m.Tended) {i : Nat} {l : Lifecycle} {s : Lifecycle.State}
    (before : m.lifecycles[i]? = some l)
    (lifecycles : m'.lifecycles = (m.setLifecycle i s).lifecycles)
    (own : ∀ c, m'.table.link? l.peer.id = some (.client c) ↔ s = .serving c)
    (others : ∀ s', s' ≠ l.peer.id → m'.table.link? s' = m.table.link? s') :
    (∀ (j : Nat) l', m'.lifecycles[j]? = some l' → ∀ c,
      m'.table.link? l'.peer.id = some (.client c) ↔ l'.state = .serving c) ∧
    ∀ s c, m'.table.link? s = some (.client c) → ∃ l ∈ m'.lifecycles, l.peer.id = s := by
  have hkept : ∀ l₀ ∈ m.lifecycles, ∃ l' ∈ m'.lifecycles, l'.peer.id = l₀.peer.id := by
    intro l₀ hl₀
    have hmem : l₀.peer ∈ m'.lifecycles.map (·.peer) := by
      rw [lifecycles, map_peer_setLifecycle]
      exact List.mem_map_of_mem hl₀
    obtain ⟨l', hl', hpeer⟩ := List.mem_map.1 hmem
    exact ⟨l', hl', by rw [hpeer]⟩
  refine ⟨fun j l' hl' c => ?_, fun s' c hl' => ?_⟩
  · rw [lifecycles, getElem?_setLifecycle] at hl'
    split at hl'
    · rw [before] at hl'
      cases hl'
      exact own c
    · rename_i hj
      rw [others _ fun heq => hj (hm.only hl' before heq)]
      exact hm.served j l' hl' c
  · by_cases hs : s' = l.peer.id
    · rw [hs]
      exact hkept l (List.mem_of_getElem? before)
    · rw [others s' hs] at hl'
      obtain ⟨l₀, hl₀, hid⟩ := hm.tended s' c hl'
      obtain ⟨l', hl', hid'⟩ := hkept l₀ hl₀
      exact ⟨l', hl', hid'.trans hid⟩

/-- A link is up on a connection exactly while the lifecycle of its peer serves on that. -/
theorem Course.served (h : Course m a m' call) (hm : m.Tended) :
    (∀ (j : Nat) l', m'.lifecycles[j]? = some l' → ∀ c,
      m'.table.link? l'.peer.id = some (.client c) ↔ l'.state = .serving c) ∧
    ∀ s c, m'.table.link? s = some (.client c) → ∃ l ∈ m'.lifecycles, l.peer.id = s := by
  -- where only lifecycles that do not serve are touched, all links stay
  have hdown : ∀ {i : Nat} {l : Lifecycle} {s : Lifecycle.State}, m.lifecycles[i]? = some l →
      (∀ c, l.state ≠ .serving c) → (∀ c, s ≠ .serving c) → m'.table = m.table →
      m'.lifecycles = (m.setLifecycle i s).lifecycles → _ :=
    fun {i l s} before down down' table lifecycles => hm.set before lifecycles
      (fun c => by
        rw [table, hm.link?_eq_disconnected before down]
        simp [down' c])
      fun s' _ => by rw [table]
  cases h with
  | aside table lifecycles =>
    rw [table, lifecycles]
    exact ⟨hm.served, hm.tended⟩
  | @inbound _ _ op admitting table lifecycles =>
    have hclient := LinkTable.link?_client_after m.table op <| by
      cases admitting with
      | accept peer => exact .inr (.inl rfl)
      | @register c x k e payload hx hrole =>
        have hk := LinkTable.lt_of_connection? (hm.sound.session c x k hx (by rw [hrole]; rfl))
        exact .inr (.inr (.inl ⟨k, payload, rfl, hk⟩))
      | disconnect e hx hrole => exact .inr (.inr (.inr ⟨_, rfl⟩))
    rw [table, lifecycles]
    exact ⟨fun j l hl c => (hclient _ c).trans (hm.served j l hl c),
      fun s c hl => hm.tended s c ((hclient s c).1 hl)⟩
  | @start hasListener now _ begun table lifecycles once =>
    have hclient := LinkTable.link?_client_after m.table (.start hasListener) (.inl rfl)
    rw [table, lifecycles]
    refine ⟨fun j l hl c => (hclient _ c).trans ?_, fun s c hl => ?_⟩
    · rcases once with rfl | ⟨hfresh, rfl⟩
      · rw [List.append_nil] at hl
        exact hm.served j l hl c
      · -- there was no lifecycle before, and so no link that belonged to one
        have hnone := hm.begun.resolve_right fun hs => by simp [hs.1] at hfresh
        rw [hnone, List.nil_append] at hl
        obtain ⟨p, -, rfl⟩ := List.mem_map.1 (List.mem_of_getElem? hl)
        refine iff_of_false (fun hup => ?_) (by simp)
        obtain ⟨l₀, hl₀, -⟩ := hm.tended _ c hup
        rw [hnone] at hl₀
        cases hl₀
    · obtain ⟨l, hl, hid⟩ := hm.tended s c ((hclient s c).1 hl)
      exact ⟨l, List.mem_append_left _ hl, hid⟩
  | roams before down away table lifecycles =>
    exact hdown before down (Lifecycle.State.ne_serving away) table lifecycles
  | dialed before idle next table lifecycles =>
    have haway := Lifecycle.State.connection?_of_isDialing idle
    refine hdown before (Lifecycle.State.ne_serving haway) (fun c hc => ?_) table lifecycles
    rcases next with rfl | haway'
    · cases hc
    · exact Lifecycle.State.ne_serving haway' c hc
  | refused before registering _ away table lifecycles =>
    exact hdown before (fun c => by simp [registering]) (Lifecycle.State.ne_serving away) table
      lifecycles
  | @installed i now _ l c before registering _ link lifecycles =>
    have hlinks := LinkTable.link?_installClient link
    refine hm.set before lifecycles (fun d => ?_) fun s' hs' => by rw [hlinks, if_neg hs']
    rw [hlinks, if_pos rfl]
    simp
  | @cleared i now _ l c s before serving away table lifecycles =>
    have hup := (hm.served i l before c).2 serving
    refine hm.set before lifecycles (fun d => ?_) fun s' hs' => ?_
    · rw [table, LinkTable.link?_clearClient, if_pos ⟨rfl, hup⟩]
      exact iff_of_false (by simp) (Lifecycle.State.ne_serving away d)
    · rw [table, LinkTable.link?_clearClient, if_neg fun h => hs' h.1]

variable [Vocabulary α]

/-- Whatever a member does, its dialed links are tended. -/
theorem Tended.act (h : m.Tended) (a : Action α) : (m.act a).Tended := by
  have hchange := change_act m a
  have hcourse := course_act h.sound a
  obtain ⟨hpeers, hdials, heffect⟩ := hcourse.effect h
  obtain ⟨hserved, htended⟩ := hcourse.served h
  have hbounded : ∀ {l : Lifecycle} {d : ConnectionId}, l ∈ m.lifecycles →
      l.state.connection? = some d → d ≠ m.nextConnection := fun hl hd heq => by
    obtain ⟨x, hx, -⟩ := h.dialed _ hl _ hd
    rw [heq] at hx
    simp [nextConnection] at hx
  refine {
    sound := h.sound.change hchange
    nodup := by rw [hchange.config]; exact h.nodup
    links := by rw [hchange.config]; exact h.links.of_effect h.nodup hdials heffect
    passive := ?_
    dials := fun p hp => ?_
    begun := hcourse.begun h
    served := hserved
    tended := htended
    apart := fun i j l l' c hl hl' hc hc' => ?_
    dialed := fun l hl c hc => ?_ }
  · have hids := congrArg (List.map MemberConfig.id) hpeers.configs
    rw [List.map_map, List.map_map] at hids
    have hpassive := h.passive
    rw [← Function.comp_def, ← hids] at hpassive
    exact hpassive
  · rw [hpeers.configs] at hp
    rw [hdials]
    exact h.dials p hp
  · rcases hcourse.errand hl hc with ⟨l₀, hl₀, hd⟩ | ⟨hcall, hnew⟩
    · rcases hcourse.errand hl' hc' with ⟨l₁, hl₁, hd'⟩ | ⟨-, hnew⟩
      · exact h.apart i j l₀ l₁ c hl₀ hl₁ hd hd'
      · exact absurd hnew (hbounded (List.mem_of_getElem? hl₀) hd)
    · rcases hcourse.errand hl' hc' with ⟨l₁, hl₁, hd'⟩ | ⟨hcall', -⟩
      · exact absurd hnew (hbounded (List.mem_of_getElem? hl₁) hd')
      · rw [hcall] at hcall'
        cases hcall'
        rfl
  · obtain ⟨j, hj⟩ := List.mem_iff_getElem?.1 hl
    rcases hcourse.errand hj hc with ⟨l₀, hl₀, hd⟩ | ⟨hcall, rfl⟩
    · obtain ⟨x, hx, hrole⟩ := h.dialed l₀ (List.mem_of_getElem? hl₀) c hd
      obtain ⟨x', hx', hbecomes⟩ := h.sound.becomes_of_change hchange hx
      exact ⟨x', hx', hbecomes.1.trans hrole⟩
    · -- only a lifecycle to which the network answers dials
      cases a with
      | dialed i now answer =>
        cases answer with
        | error e => cases hcall
        | ok peer =>
          simp only [call?] at hcall
          split at hcall
          · rename_i hidle
            obtain ⟨queue, -, hends⟩ := (dials_dialed m i now peer).ends
            simp only [Member.act, hidle, if_true, hends]
            exact ⟨_, List.getElem?_concat_length, rfl⟩
          · cases hcall
      | proceed i now =>
        simp only [call?] at hcall
        split at hcall
        · split at hcall <;> cases hcall
        · split at hcall <;> cases hcall
        · cases hcall
      | _ => cases hcall

end Member

end ActorMesh
