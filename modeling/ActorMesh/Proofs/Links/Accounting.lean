import ActorMesh.Proofs.Links.Runs

/-!
# The account of the links

For a valid configuration, whatever happens to the links of its local member: the count is that of
the links that are up, every peer has the kind of link that its place in the configuration gives it,
and links and bound sessions belong together one to one. So no count is taken down that was not
taken up before, and a session or a connection that has lost its link cannot take down the link of
another one (`inAccount_of_run`).
-/

namespace ActorMesh.LinkTable

/-- What the links of the member at place `i` of a configuration come to after operations. -/
structure InAccount (c : Config) (i : Nat) (ops : List Operation) (t : LinkTable) : Prop where
  /-- The member itself counts once its links were asked to start, and every link that is up. -/
  connected : t.connected = (if ops.any Operation.isStart then 1 else 0) +
    c.members.countP fun m => t.isUp m.id
  /-- A link that can go down was counted. -/
  counted : ∀ s, t.isUp s = true → 0 < t.connected
  /-- The member has no link to itself. -/
  own : t.link? c.localId = none
  /-- A peer before the member is linked by a connection that the member dialed, if at all. -/
  before : ∀ {j m}, c.members[j]? = some m → j < i →
    t.link? m.id = some .disconnected ∨ ∃ conn, t.link? m.id = some (.client conn)
  /-- A peer behind the member is linked by a session, if at all. -/
  behind : ∀ {j m}, c.members[j]? = some m → i < j →
    t.link? m.id = some .disconnected ∨ ∃ k, t.link? m.id = some (.session k)
  /-- A session is the link of a peer exactly if it is bound to that. -/
  session_iff : ∀ s k, t.link? s = some (.session k) ↔ t.sessions.binding? k = some s
  /-- No two sessions hold one peer. -/
  session_unique : ∀ s k k', t.sessions.binding? k = some s → t.sessions.binding? k' = some s →
    k = k'
  /-- No session holds two peers. -/
  peer_unique : ∀ s s' k, t.link? s = some (.session k) → t.link? s' = some (.session k) → s = s'
  /-- A session that has ended holds none. -/
  ended : ∀ s k, .disconnect k ∈ ops → t.link? s ≠ some (.session k)
  /-- Registration succeeds exactly for a peer behind the member that has no link, on a session that
  is bound to none. -/
  admitted_iff : ∀ k payload, (Inbound.admission t k payload).1 = .success ↔
    ∃ j m, SystemId.layout.decode payload = .ok m.id ∧ c.members[j]? = some m ∧ i < j ∧
      t.link? m.id = some .disconnected ∧ t.sessions.binding? k = none
  /-- A refused registration changes nothing. -/
  refused : ∀ k payload, (Inbound.admission t k payload).1 ≠ .success →
    (Inbound.admission t k payload).2.1 = t
  /-- The end of a session takes down its own link and no other. -/
  disconnected : ∀ k s, (t.endSession k).link? s =
    if t.link? s = some (.session k) then some .disconnected else t.link? s
  /-- The end of a dialed connection takes down its own link and no other. -/
  cleared : ∀ conn s s', (t.clearClient s conn).link? s' =
    if s' = s ∧ t.link? s = some (.client conn) then some .disconnected else t.link? s'

/-! ### The table of a valid configuration -/

/-- The local member of a valid configuration has a place, and a table. -/
theorem ofConfig_of_validate {c : Config} (hc : c.validate = .ok ()) :
    ∃ i, c.localIndex? = some i ∧ (∃ m, c.members[i]? = some m ∧ m.id = c.localId) ∧
      ofConfig c = .ok ⟨c.localId, i, c.members, initialPeers i c.members, 0, false, .empty⟩ := by
  obtain ⟨-, -, hlocal, -⟩ := Config.validate_eq_ok_iff.1 hc
  obtain ⟨m, hm, hid⟩ := List.mem_map.1 hlocal
  cases hi : c.localIndex? with
  | none =>
    have := List.findIdx?_eq_none_iff.1 hi m hm
    simp [hid] at this
  | some i =>
    obtain ⟨hlt, hat, -⟩ := List.findIdx?_eq_some_iff_getElem.1 hi
    refine ⟨i, rfl, ⟨_, List.getElem?_eq_getElem hlt, by simpa using hat⟩, ?_⟩
    simp only [ofConfig, hi]

/-- Members of a valid configuration with the same number are at the same place. -/
theorem place_unique {c : Config} (hc : c.validate = .ok ()) {j j' : Nat} {m m' : MemberConfig}
    (hm : c.members[j]? = some m) (hm' : c.members[j']? = some m') (hid : m.id = m'.id) :
    j = j' := by
  obtain ⟨-, hnd, -, -⟩ := Config.validate_eq_ok_iff.1 hc
  have hj : c.memberIds[j]? = some m.id := by simp [Config.memberIds, hm]
  have hj' : c.memberIds[j']? = some m.id := by simp [Config.memberIds, hm', hid]
  obtain ⟨hlt, hget⟩ := List.getElem?_eq_some_iff.1 hj
  exact (List.getElem?_inj hlt hnd).1 (hj.trans hj'.symm)

section

variable {c : Config} {i : Nat} {t₀ : LinkTable}

/-- A peer is dialed exactly if it comes before the local member. -/
theorem dials?_ofConfig (hc : c.validate = .ok ()) (hi : c.localIndex? = some i)
    (h : ofConfig c = .ok t₀) {j : Nat} {m : MemberConfig} (hm : c.members[j]? = some m)
    (hj : j ≠ i) : t₀.dials? m.id = some (decide (j < i)) := by
  obtain ⟨-, hnd, -, -⟩ := Config.validate_eq_ok_iff.1 hc
  simp only [ofConfig, hi] at h
  cases h
  simp only [dials?, get?_initialPeers hnd hm hj]
  rfl

/-- Whoever it is known of whether it is dialed is a peer. -/
theorem of_dials?_ofConfig (hi : c.localIndex? = some i) (h : ofConfig c = .ok t₀)
    {s : SystemId} {dialed : Bool} (hd : t₀.dials? s = some dialed) :
    ∃ j m, c.members[j]? = some m ∧ j ≠ i ∧ m.id = s ∧ dialed = decide (j < i) := by
  simp only [ofConfig, hi] at h
  cases h
  obtain ⟨p, hp, rfl⟩ := Option.map_eq_some_iff.1 hd
  obtain ⟨j, m, hm, hj, hid, rfl⟩ := of_get?_initialPeers hp
  exact ⟨j, m, hm, hj, hid, rfl⟩

/-- The account before anything happens. -/
theorem traced_ofConfig (hi : c.localIndex? = some i) (h : ofConfig c = .ok t₀) :
    Traced t₀ c.memberIds [] t₀ := by
  have hlink : ∀ {s l}, t₀.link? s = some l → l = .disconnected ∧ s ∈ c.memberIds := by
    intro s l hl
    simp only [ofConfig, hi] at h
    cases h
    obtain ⟨p, hp, rfl⟩ := Option.map_eq_some_iff.1 hl
    obtain ⟨j, m, hm, -, rfl, rfl⟩ := of_get?_initialPeers hp
    exact ⟨rfl, List.mem_map_of_mem (List.mem_of_getElem? hm)⟩
  have hdown : ∀ s, t₀.isUp s = false := by
    intro s
    cases hl : t₀.link? s with
    | none => simp [isUp, hl]
    | some l =>
      rw [isUp_eq hl, (hlink hl).1]
      rfl
  have hcount : c.memberIds.countP t₀.isUp = 0 := List.countP_eq_zero.2 fun s _ => by simp [hdown]
  have hfresh : t₀.connected = 0 ∧ t₀.started = false ∧ t₀.sessions = .empty := by
    simp only [ofConfig, hi] at h
    cases h
    exact ⟨rfl, rfl, rfl⟩
  obtain ⟨hconnected, hstarted, hsessions⟩ := hfresh
  refine ⟨⟨?_, ?_, fun hl => (hlink hl).2, ?_⟩, fun _ => rfl, hstarted, ?_, by simp⟩
  · intro s k
    rw [hsessions]
    constructor
    · intro hl
      cases (hlink hl).1
    · intro hb
      cases hb
  · intro s dialed l _ hl
    rw [(hlink hl).1]
    trivial
  · rw [hconnected, hstarted, hcount]
    rfl
  · rw [hsessions]
    rfl

end

/-! ### The account of a run -/

/-- A link that is up was counted when it came up. -/
theorem Sound.connected_pos {ids : List SystemId} {t : LinkTable} (h : Sound ids t) {s : SystemId}
    (hup : t.isUp s = true) : 0 < t.connected := by
  have hknown : s ∈ ids := by
    cases hl : t.link? s with
    | none => simp [isUp, hl] at hup
    | some l => exact h.known hl
  have hpos : 0 < ids.countP t.isUp := List.countP_pos_iff.2 ⟨s, hknown, hup⟩
  rw [h.connected]
  omega

/-- Registration succeeds exactly for a member that can be linked. -/
theorem admission_eq_success_iff {t : LinkTable} {k : Ticket} {payload : Octets} :
    (Inbound.admission t k payload).1 = .success ↔ ∃ s, t.Admits k payload s := by
  constructor
  · intro h
    exact Classical.byContradiction fun hnone =>
      (admission_of_not_admits fun s hs => hnone ⟨s, hs⟩).1 h
  · rintro ⟨s, hs⟩
    obtain ⟨t', -, hadm⟩ := admission_of_admits hs
    rw [hadm]

section

variable {c : Config} {i : Nat} {t₀ t : LinkTable} {ops : List Operation}

/-- A peer has a link, up or down, of the kind that its place gives it. -/
theorem Traced.link_suits (h : Traced t₀ c.memberIds ops t) (hc : c.validate = .ok ())
    (hi : c.localIndex? = some i) (htable : ofConfig c = .ok t₀) {j : Nat} {m : MemberConfig}
    (hm : c.members[j]? = some m) (hj : j ≠ i) :
    ∃ l, t.link? m.id = some l ∧ l.Suits (decide (j < i)) := by
  have hdials : t.dials? m.id = some (decide (j < i)) := by
    rw [h.dials, dials?_ofConfig hc hi htable hm hj]
  have hsome : (t.link? m.id).isSome = true := by
    rw [isSome_link?, hdials]
    rfl
  obtain ⟨l, hl⟩ := Option.isSome_iff_exists.1 hsome
  exact ⟨l, hl, h.sound.suits hdials hl⟩

theorem Traced.link?_localId (h : Traced t₀ c.memberIds ops t) (hc : c.validate = .ok ())
    (hi : c.localIndex? = some i) (htable : ofConfig c = .ok t₀) {me : MemberConfig}
    (hme : c.members[i]? = some me) (hid : me.id = c.localId) : t.link? c.localId = none := by
  cases hd : t.dials? c.localId with
  | none =>
    have hnone : (t.link? c.localId).isSome = false := by
      rw [isSome_link?, hd]
      rfl
    simpa using hnone
  | some dialed =>
    rw [h.dials] at hd
    obtain ⟨j, m, hm, hj, heq, -⟩ := of_dials?_ofConfig hi htable hd
    exact absurd (place_unique hc hm hme (heq.trans hid.symm)) hj

/-- A member that can be linked by a session is one behind the local one. -/
theorem Traced.admits_iff (h : Traced t₀ c.memberIds ops t) (hc : c.validate = .ok ())
    (hi : c.localIndex? = some i) (htable : ofConfig c = .ok t₀) {k : Ticket} {payload : Octets} :
    (∃ s, t.Admits k payload s) ↔
      ∃ j m, SystemId.layout.decode payload = .ok m.id ∧ c.members[j]? = some m ∧ i < j ∧
        t.link? m.id = some .disconnected ∧ t.sessions.binding? k = none := by
  constructor
  · rintro ⟨s, hdecode, hdials, hlink, hfree⟩
    rw [h.dials] at hdials
    obtain ⟨j, m, hm, hj, rfl, hdialed⟩ := of_dials?_ofConfig hi htable hdials
    have hnot : ¬ j < i := by simpa using hdialed
    exact ⟨j, m, hdecode, hm, by omega, hlink, hfree⟩
  · rintro ⟨j, m, hdecode, hm, hj, hlink, hfree⟩
    have hnot : decide (j < i) = false := by simpa using Nat.le_of_lt hj
    refine ⟨m.id, hdecode, ?_, hlink, hfree⟩
    rw [h.dials, dials?_ofConfig hc hi htable hm (Nat.ne_of_gt hj), hnot]

end

/-- After any operations on the table of a valid configuration, the links are in account. -/
theorem inAccount_of_run {c : Config} (hc : c.validate = .ok ()) :
    ∃ i t₀, c.localIndex? = some i ∧ ofConfig c = .ok t₀ ∧
      ∀ ops t, Run t₀ ops t → InAccount c i ops t := by
  obtain ⟨-, hnd, -, -⟩ := Config.validate_eq_ok_iff.1 hc
  obtain ⟨i, hi, ⟨me, hme, hid⟩, htable⟩ := ofConfig_of_validate hc
  refine ⟨i, _, hi, htable, fun ops t run => ?_⟩
  have traced := run.traced hnd (traced_ofConfig hi htable)
  have paired := traced.sound.paired
  have hcount : c.memberIds.countP t.isUp = c.members.countP fun m => t.isUp m.id := by
    rw [Config.memberIds, List.countP_map]
    rfl
  refine {
    connected := by rw [traced.sound.connected, traced.started, hcount]
    counted := fun s => traced.sound.connected_pos
    own := traced.link?_localId hc hi htable hme hid
    before := fun hm hj => ?_
    behind := fun hm hj => ?_
    session_iff := paired
    session_unique := fun s k k' hk hk' => ?_
    peer_unique := fun s s' k hs hs' => ?_
    ended := fun s k hended hl => ?_
    admitted_iff := fun k payload => ?_
    refused := fun k payload hcode => ?_
    disconnected := fun k s => ?_
    cleared := fun conn s s' => link?_clearClient t s s' conn }
  · obtain ⟨l, hl, hsuits⟩ := traced.link_suits hc hi htable hm (Nat.ne_of_lt hj)
    cases l with
    | disconnected => exact .inl hl
    | client conn => exact .inr ⟨conn, hl⟩
    | session k => exact absurd hj (of_decide_eq_false hsuits)
  · obtain ⟨l, hl, hsuits⟩ := traced.link_suits hc hi htable hm (Nat.ne_of_gt hj)
    cases l with
    | disconnected => exact .inl hl
    | client conn => exact absurd (of_decide_eq_true hsuits) (Nat.lt_asymm hj)
    | session k => exact .inr ⟨k, hl⟩
  · -- both sessions would be the one link of the peer
    have hlink := ((paired s k).2 hk).symm.trans ((paired s k').2 hk')
    cases hlink
    rfl
  · exact Option.some.inj (((paired s k).1 hs).symm.trans ((paired s' k).1 hs'))
  · have hbound := (paired s k).1 hl
    rw [traced.ended k hended] at hbound
    cases hbound
  · rw [admission_eq_success_iff, traced.admits_iff hc hi htable]
  · refine (admission_of_not_admits fun s hs => hcode ?_).2
    exact admission_eq_success_iff.2 ⟨s, hs⟩
  · rw [link?_endSession]
    simp only [← paired s k, and_self]

/-- Three members, seen by the one in the middle. -/
def trio : Config where
  localId := ⟨2⟩
  members := [⟨⟨1⟩, "a", 7001, []⟩, ⟨⟨2⟩, "b", 7002, []⟩, ⟨⟨3⟩, "c", 7003, []⟩]
  timings := {}

/-- The one in the middle starts and dials the first one; the last one registers, its session ends,
and it registers again on another one. -/
def reconnection : List Operation :=
  [.start true, .accept ⟨0⟩ none, .register ⟨0⟩ [3, 0, 0, 0], .install ⟨1⟩ ⟨1⟩, .disconnect ⟨0⟩,
    .accept ⟨2⟩ none, .register ⟨1⟩ [3, 0, 0, 0]]

theorem inAccount_of_run_reconnection :
    trio.validate = .ok () ∧ ∃ t₀ t, ofConfig trio = .ok t₀ ∧ Run t₀ reconnection t ∧
      InAccount trio 1 reconnection t ∧ t.connected = 3 := by
  have hvalid : trio.validate = .ok () := rfl
  obtain ⟨i, t₀, hi, htable, account⟩ := inAccount_of_run hvalid
  obtain rfl : 1 = i := Option.some.inj ((by decide : trio.localIndex? = some 1).symm.trans hi)
  cases htable
  have init : Run ⟨⟨2⟩, 1, trio.members, initialPeers 1 trio.members, 0, false, .empty⟩ [] _ := .nil
  have run := init
    |>.snoc (.start true) (by decide +kernel)
    |>.snoc (.accept ⟨0⟩ none) (by decide +kernel)
    |>.snoc (.register ⟨0⟩ [3, 0, 0, 0]) (by decide +kernel)
    |>.snoc (.install ⟨1⟩ ⟨1⟩) (by decide +kernel)
    |>.snoc (.disconnect ⟨0⟩) (by decide +kernel)
    |>.snoc (.accept ⟨2⟩ none) (by decide +kernel)
    |>.snoc (.register ⟨1⟩ [3, 0, 0, 0]) (by decide +kernel)
  exact ⟨hvalid, _, _, rfl, run, account _ _ run, by decide +kernel⟩

end ActorMesh.LinkTable
