import ActorMesh.Proofs.Links.Accounting
import Mathlib.Data.List.Dedup
import Mathlib.Data.List.Range

/-!
# Who dials whom

Every member of a cluster finds its own place in the common list of members and takes from it whom
to dial, whom to wait for and whether to listen. The members never compare what they found. Where
each of them accepts the list, they agree nevertheless (`roles_of_validate`): of two members the
later one dials the earlier one, at the address where that listens, and the earlier one never dials
back.
-/

namespace ActorMesh

/-- The configuration of the member at a place of a list, with the timings of that member. -/
def Config.ofPlace (ms : List MemberConfig) (timings : Fin ms.length → Timings)
    (i : Fin ms.length) : Config :=
  ⟨ms[i].id, ms, timings i⟩

namespace LinkTable

/-- The links of the member at a place of a list before anything happens. -/
def ofPlace (ms : List MemberConfig) (i : Fin ms.length) : LinkTable :=
  ⟨ms[i].id, i, ms, initialPeers i ms, 0, false, .empty⟩

/-! ### The table of one member -/

section

variable {ms : List MemberConfig} {i j : Fin ms.length}

/-- The table of a member has what its place says, for a list that is valid for it. -/
theorem ofConfig_ofPlace {timings : Fin ms.length → Timings}
    (hc : (Config.ofPlace ms timings i).validate = .ok ()) :
    ofConfig (Config.ofPlace ms timings i) = .ok (ofPlace ms i) := by
  obtain ⟨j, -, ⟨m, hm, hid⟩, htable⟩ := ofConfig_of_validate hc
  have hi : (Config.ofPlace ms timings i).members[i.val]? = some ms[i] :=
    List.getElem?_eq_getElem i.isLt
  have hji : j = i.val := place_unique hc hm hi hid
  rw [htable, hji]
  rfl

/-- Every other member is a peer, dialed if it comes before. -/
theorem get?_peers_ofPlace (hnd : (ms.map (·.id)).Nodup) (hj : j ≠ i) :
    (ofPlace ms i).peers.get? ms[j].id = some ⟨ms[j], decide (j < i), .disconnected⟩ :=
  get?_initialPeers hnd (List.getElem?_eq_getElem j.isLt) fun h => hj (Fin.ext h)

/-- A number stands at one place only. -/
theorem place_eq_of_id_eq (hnd : (ms.map (·.id)).Nodup) (h : ms[i].id = ms[j].id) : i = j := by
  have hids : (ms.map (·.id))[i.val]? = (ms.map (·.id))[j.val]? := by
    simpa using h
  have hlt : i.val < (ms.map (·.id)).length := by
    rw [List.length_map]
    exact i.isLt
  exact Fin.ext ((List.getElem?_inj hlt hnd).1 hids)

/-- A member is no peer of itself. -/
theorem get?_peers_ofPlace_self (hnd : (ms.map (·.id)).Nodup) :
    (ofPlace ms i).peers.get? ms[i].id = none := by
  refine Option.eq_none_iff_forall_ne_some.2 fun p hp => ?_
  obtain ⟨j, m, hm, hj, hid, -⟩ := of_get?_initialPeers hp
  obtain ⟨hlt, rfl⟩ := List.getElem?_eq_some_iff.1 hm
  exact hj (congrArg Fin.val (place_eq_of_id_eq (i := ⟨j, hlt⟩) hnd hid))

/-- The places of a list other than a given one are one fewer. -/
theorem length_otherPlaces (ms : List MemberConfig) (i : Fin ms.length) :
    (ms.zipIdx.filter fun m => decide (m.2 ≠ i.val)).length + 1 = ms.length := by
  have hplaces : (ms.zipIdx.filter fun m => decide (m.2 ≠ i.val)).map Prod.snd =
      (List.range ms.length).erase i := by
    rw [List.nodup_range.erase_eq_filter, List.range_eq_range', ← List.zipIdx_map_snd 0 ms,
      List.filter_map]
    congr 1
    refine List.filter_congr fun m _ => ?_
    by_cases h : m.2 = i.val <;> simp [h]
  have hlength := congrArg List.length hplaces
  rw [List.length_map, List.length_erase_of_mem (List.mem_range.2 i.isLt), List.length_range]
    at hlength
  have hpos := i.isLt
  omega

/-- There is one entry for every other member. -/
theorem size_peers_ofPlace (hnd : (ms.map (·.id)).Nodup) :
    (ofPlace ms i).peers.size + 1 = ms.length := by
  have hsize := Table.size_ofList (nodup_initialPeers hnd i)
  rw [List.length_map] at hsize
  calc (ofPlace ms i).peers.size + 1
      = (ms.zipIdx.filter fun m => decide (m.2 ≠ i.val)).length + 1 := congrArg (· + 1) hsize
    _ = ms.length := length_otherPlaces ms i

/-- The members that are dialed are those before, in their order. -/
theorem passivePeers_ofPlace (hnd : (ms.map (·.id)).Nodup) :
    (ofPlace ms i).passivePeers = (ms.take i).map fun m => ⟨m, true, .disconnected⟩ := by
  rw [← List.filterMap_eq_map]
  refine List.filterMap_congr fun m hm => ?_
  obtain ⟨j, hlt, rfl⟩ := List.mem_take_iff_getElem.1 hm
  obtain ⟨hji, hj⟩ := Nat.lt_min.1 hlt
  have hji : j < i.val := hji
  have hpeer := get?_peers_ofPlace (i := i) (j := ⟨j, hj⟩) hnd
    fun h => Nat.ne_of_lt hji (congrArg Fin.val h)
  refine hpeer.trans ?_
  simp only [Fin.lt_def, hji, decide_true]
  rfl

/-- A member dials exactly those before it. -/
theorem mem_passivePeers_ofPlace_iff (hnd : (ms.map (·.id)).Nodup) {peer : Peer} :
    peer ∈ (ofPlace ms i).passivePeers ↔ ∃ j < i, peer = ⟨ms[j], true, .disconnected⟩ := by
  rw [passivePeers_ofPlace hnd, List.mem_map]
  constructor
  · rintro ⟨m, hm, rfl⟩
    obtain ⟨j, hlt, rfl⟩ := List.mem_take_iff_getElem.1 hm
    obtain ⟨hji, hj⟩ := Nat.lt_min.1 hlt
    exact ⟨⟨j, hj⟩, hji, rfl⟩
  · rintro ⟨j, hj, rfl⟩
    exact ⟨ms[j], List.mem_take_iff_getElem.2 ⟨j, Nat.lt_min.2 ⟨hj, j.isLt⟩, rfl⟩, rfl⟩

/-- A member is dialed by some other one exactly if it is not the last. -/
theorem acceptsInbound_ofPlace_iff :
    (ofPlace ms i).acceptsInbound = true ↔ ∃ j : Fin ms.length, i < j := by
  rw [acceptsInbound, decide_eq_true_eq]
  constructor
  · intro h
    exact ⟨⟨i + 1, h⟩, Nat.lt_succ_self i⟩
  · rintro ⟨j, hj⟩
    have hlt : i.val < j.val := hj
    have hbound := j.isLt
    change i.val + 1 < ms.length
    omega

/-- A member that is dialed listens at the address of its own entry. -/
theorem listenAddress_ofPlace (h : (ofPlace ms i).acceptsInbound = true) :
    (ofPlace ms i).listenAddress = some (ms[i].host, ms[i].port) := by
  rw [listenAddress, if_pos h]
  exact congrArg (Option.map _) (List.getElem?_eq_getElem i.isLt)

end

/-! ### Agreement -/

/-- Of two members the one at `b` dials the one at `a`, which waits for it. -/
structure OneDialer (ms : List MemberConfig) (a b : Fin ms.length) (ta tb : LinkTable) : Prop where
  /-- The dialer knows the other one as a peer that it dials, and under the address where that
  listens. -/
  dials : ∃ peer, peer ∈ tb.passivePeers ∧ tb.peers.get? ms[a].id = some peer ∧
    peer.config = ms[a] ∧ peer.passive = true ∧
    ta.listenAddress = some (peer.config.host, peer.config.port)
  /-- The other one knows the dialer as a peer that it does not dial. -/
  awaits : ∃ peer, ta.peers.get? ms[b].id = some peer ∧ peer.config = ms[b] ∧
    peer.passive = false
  notBack : ∀ peer ∈ ta.passivePeers, peer.config.id ≠ ms[b].id
  accepts : ta.acceptsInbound = true

/-- What the member at a place of a list makes of it, beside what the others do. -/
structure HasRole (ms : List MemberConfig) (table : Fin ms.length → LinkTable)
    (i : Fin ms.length) : Prop where
  /-- It dials the members before it, in their order. -/
  dialed : (table i).passivePeers.map (·.config) = ms.take i
  /-- There is an entry for each of the other members. -/
  size : (table i).peers.size + 1 = ms.length
  /-- There is none for the member itself. -/
  own : (table i).peers.get? ms[i].id = none
  /-- It takes connections exactly if some other member dials it. -/
  accepts_iff : (table i).acceptsInbound = true ↔
    ∃ j ≠ i, ∃ peer ∈ (table j).passivePeers, peer.config = ms[i]

section

variable {ms : List MemberConfig}

theorem oneDialer_ofPlace (hnd : (ms.map (·.id)).Nodup) {a b : Fin ms.length} (hab : a < b) :
    OneDialer ms a b (ofPlace ms a) (ofPlace ms b) where
  dials := by
    have hpeer := get?_peers_ofPlace hnd (Fin.ne_of_lt hab)
    rw [decide_eq_true hab] at hpeer
    have hlistens := listenAddress_ofPlace (acceptsInbound_ofPlace_iff.2 ⟨b, hab⟩)
    exact ⟨_, (mem_passivePeers_ofPlace_iff hnd).2 ⟨a, hab, rfl⟩, hpeer, rfl, rfl, hlistens⟩
  awaits := by
    have hpeer := get?_peers_ofPlace hnd (Fin.ne_of_gt hab)
    rw [decide_eq_false (Fin.lt_asymm hab)] at hpeer
    exact ⟨_, hpeer, rfl, rfl⟩
  notBack := by
    intro peer hpeer hid
    obtain ⟨j, hj, rfl⟩ := (mem_passivePeers_ofPlace_iff hnd).1 hpeer
    -- a member before `a` would have the number of one behind it
    have heq : j = b := place_eq_of_id_eq hnd hid
    exact Fin.lt_asymm hab (heq ▸ hj)
  accepts := acceptsInbound_ofPlace_iff.2 ⟨b, hab⟩

theorem hasRole_ofPlace (hnd : (ms.map (·.id)).Nodup) (i : Fin ms.length) :
    HasRole ms (ofPlace ms) i where
  dialed := by
    rw [passivePeers_ofPlace hnd, List.map_map]
    exact List.map_id _
  size := size_peers_ofPlace hnd
  own := get?_peers_ofPlace_self hnd
  accepts_iff := by
    rw [acceptsInbound_ofPlace_iff]
    constructor
    · rintro ⟨j, hj⟩
      exact ⟨j, Fin.ne_of_gt hj, _, (mem_passivePeers_ofPlace_iff hnd).2 ⟨i, hj, rfl⟩, rfl⟩
    · rintro ⟨j, -, peer, hpeer, hconfig⟩
      obtain ⟨k, hk, rfl⟩ := (mem_passivePeers_ofPlace_iff hnd).1 hpeer
      have heq : k = i := place_eq_of_id_eq hnd (congrArg MemberConfig.id hconfig)
      exact ⟨j, heq ▸ hk⟩

/-- Members that all accept one list find out who dials whom without asking each other. -/
theorem roles_of_validate {timings : Fin ms.length → Timings}
    (h : ∀ i, (Config.ofPlace ms timings i).validate = .ok ()) :
    ∃ table : Fin ms.length → LinkTable,
      (∀ i, ofConfig (Config.ofPlace ms timings i) = .ok (table i)) ∧
      (∀ a b, a < b → OneDialer ms a b (table a) (table b)) ∧
      ∀ i, HasRole ms table i := by
  refine ⟨ofPlace ms, fun i => ofConfig_ofPlace (h i), fun a b hab => ?_, fun i => ?_⟩
  · exact oneDialer_ofPlace (Config.validate_eq_ok_iff.1 (h a)).2.1 hab
  · exact hasRole_ofPlace (Config.validate_eq_ok_iff.1 (h i)).2.1 i

end

/-- Three members with timings of their own: the one in the middle listens, dials the first one
under its own host and port, and waits for the last. -/
theorem roles_threeMembers :
    let ms : List MemberConfig :=
      [⟨⟨7⟩, "a", 7001, []⟩, ⟨⟨2⟩, "b", 7002, [⟨120⟩]⟩, ⟨⟨5⟩, "c", 7003, []⟩]
    let timings : Fin ms.length → Timings := fun i => { maxFrameSize := i + 1 }
    (∀ i, (Config.ofPlace ms timings i).validate = .ok ()) ∧
      ∃ table : Fin ms.length → LinkTable,
        (∀ i, ofConfig (Config.ofPlace ms timings i) = .ok (table i)) ∧
        (∀ a b, a < b → OneDialer ms a b (table a) (table b)) ∧
        ∀ i, HasRole ms table i := by
  intro ms timings
  have h : ∀ i, (Config.ofPlace ms timings i).validate = .ok () := by
    show ∀ i : Fin 3, (Config.ofPlace ms timings i).validate = .ok ()
    intro i
    match i with
    | 0 => rfl
    | 1 => rfl
    | 2 => rfl
  exact ⟨h, roles_of_validate h⟩

end LinkTable

end ActorMesh
