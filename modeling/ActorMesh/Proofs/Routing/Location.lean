import ActorMesh.Proofs.Links.Roles
import ActorMesh.Proofs.Routing.Conservation

/-!
# Where an actor is found

No member asks another one where an actor lives: each computes it, from its own copy of the
configuration. What the copies have to share for this is little. The place of an actor depends on
the members that host its type, in their order and as often as they name it (`Config.hosting`), and
on nothing else: not on other members or their types, not on who computes it, not on any interval or
limit (`Placement.place_congr`).

So the members of a cluster find an actor of a hosted type on the same member, which delivers what
is for the actor, while all others send it there (`Placement.locates_of_hosting`).
-/

namespace ActorMesh

/-- The numbers of the members that host a type, in the order of the configuration; one that names
the type several times stands as often. -/
def Config.hosting (c : Config) (t : ActorType) : List SystemId :=
  c.members.flatMap fun m => .replicate (m.actorTypes.count t) m.id

/-- Whether an envelope is for one actor and goes there without a proxy. -/
def Envelope.IsDirect {α : Type} (e : Envelope α) (target : ActorRef) : Prop :=
  ∃ p, e = .parcel p ∧ p.target? = some target ∧ p.kind ≠ .watch

namespace Placement

/-! ### What a place depends on -/

/-- The table of hosts that a configuration describes. -/
theorem hosts_ofConfig (c : Config) (t : ActorType) : (ofConfig c).hosts t = c.hosting t := by
  obtain ⟨localId, members, timings⟩ := c
  simp only [ofConfig, hosts, Config.hosting]
  induction members with
  | nil => rfl
  | cons m rest ih =>
    have hown : ((m.actorTypes.map fun t' => (t', m.id)).filter fun l => decide (l.1 = t)).map
        (·.2) = List.replicate (m.actorTypes.count t) m.id := by
      rw [List.filter_map, List.map_map, List.count_eq_length_filter]
      exact List.map_const' ..
    rw [List.flatMap_cons, List.filter_append, List.map_append, ih, hown, List.flatMap_cons]

/-- A place depends on the hosts of the type only. -/
theorem place_congr {p p' : Placement} {t : ActorType} (h : p.hosts t = p'.hosts t) (s : SystemId)
    (id : String) : p.place s t id = p'.place s t id := by
  simp only [place, h]

/-- An actor of a type that is hosted has a place, on one of the hosts. -/
theorem exists_place_none {p : Placement} {t : ActorType} (h : p.hosts t ≠ []) (id : String) :
    ∃ host ∈ p.hosts t, ∃ slot, p.place .none t id = .ok ⟨host, t, id, slot⟩ := by
  have hnone : SystemId.none.isNone = true := rfl
  unfold place
  cases hhosts : p.hosts t with
  | nil => exact absurd hhosts h
  | cons first others =>
    simp only [hnone, if_true]
    refine ⟨_, ?_, _, rfl⟩
    rw [List.getD_eq_getElem?_getD]
    cases hpicked : (first :: others)[(idHash (Octets.ofText id) %
        UInt32.ofNat (first :: others).length).toNat]? with
    | none => exact List.mem_cons_self
    | some host => exact List.mem_of_getElem? hpicked

end Placement

/-- A member hosts a type if it is among the hosts. -/
theorem Config.mem_hosting_iff {c : Config} {t : ActorType} {s : SystemId} :
    s ∈ c.hosting t ↔ ∃ m ∈ c.members, t ∈ m.actorTypes ∧ m.id = s := by
  simp only [hosting, List.mem_flatMap, List.mem_replicate, ne_eq, List.count_eq_zero,
    Classical.not_not]
  exact exists_congr fun m => and_congr_right fun _ => and_congr_right fun _ => eq_comm

/-! ### What the routers make of it -/

namespace Router

variable {σ α : Type} {localId : SystemId} {placement : Placement} {r : Router}
  {target : ActorRef} {e : Envelope α}

/-- An envelope that needs no proxy is handed on once, to its target if that lives here and to the
member of its target otherwise. -/
theorem Reached.attempts_of_isDirect (h : Reached localId placement r)
    (hid : localId.isNone = false) (he : e.IsDirect target) (c : Carrier σ α) (s : σ) :
    (target.system = localId → r.attempts c s e = [(.deliver e, .ok ())]) ∧
      (target.system ≠ localId →
        r.attempts c s e = [(.remit target.system e, (r.route c s e).result)]) := by
  obtain ⟨plan, proxies, hplan, -, hplanned⟩ := (h.sound hid).exists_isPlanned hid e
  obtain ⟨p, rfl, htarget, hkind⟩ := he
  have hpieces : pieces? (.parcel p : Envelope α) = none := by
    cases p <;> first | rfl | cases htarget
  have herrand : errand? (.parcel p : Envelope α) = none := by
    cases p <;> first | rfl | exact absurd rfl hkind
  rw [IsPlanned, hpieces] at hplanned
  obtain ⟨target', em, htarget', hgoes, rfl⟩ := hplanned
  obtain rfl : target = target' := Option.some.inj (htarget.symm.trans htarget')
  rw [GoesTo, herrand] at hgoes
  obtain ⟨hattempts, hresult⟩ := attempts_one hplan c s
  constructor
  · intro hhere
    obtain rfl : em = .deliver (.parcel p) := by rwa [if_pos hhere] at hgoes
    exact hattempts
  · intro hthere
    obtain rfl : em = .remit target.system (.parcel p) := by rwa [if_neg hthere] at hgoes
    rw [hattempts, hresult]

end Router

/-! ### Agreement -/

/-- What the members of a list make of the actor of a type with an id: all of them find it under one
address, on the member at a place of the list. -/
structure Located (ms : List MemberConfig) (timings : Fin ms.length → Timings) (t : ActorType)
    (id : String) (host : Fin ms.length) (target : ActorRef) : Prop where
  placed : ∀ i, (Placement.ofConfig (Config.ofPlace ms timings i)).place .none t id = .ok target
  system : target.system = (ms.get host).id
  hosts : t ∈ (ms.get host).actorTypes
  /-- The router of that member delivers what is for the actor, whatever it routed before. -/
  delivered : ∀ {σ α : Type} {r : Router} {e : Envelope α},
    Router.Reached (ms.get host).id (.ofConfig (Config.ofPlace ms timings host)) r →
    e.IsDirect target → ∀ (c : Carrier σ α) (s : σ), r.attempts c s e = [(.deliver e, .ok ())]
  /-- The routers of all others send it to that member. -/
  remitted : ∀ {σ α : Type} {i : Fin ms.length} {r : Router} {e : Envelope α}, i ≠ host →
    Router.Reached (ms.get i).id (.ofConfig (Config.ofPlace ms timings i)) r →
    e.IsDirect target → ∀ (c : Carrier σ α) (s : σ),
      r.attempts c s e = [(.remit (ms.get host).id e, (r.route c s e).result)]

namespace Placement

/-- All members of a list compute the same place. -/
theorem place_ofPlace {ms : List MemberConfig} (timings : Fin ms.length → Timings)
    (i j : Fin ms.length) (s : SystemId) (t : ActorType) (id : String) :
    (ofConfig (Config.ofPlace ms timings i)).place s t id =
      (ofConfig (Config.ofPlace ms timings j)).place s t id := by
  refine place_congr ?_ s id
  rw [hosts_ofConfig, hosts_ofConfig]
  rfl

/-- Members that all accept one list find an actor of a hosted type on the same one of them. -/
theorem exists_located {ms : List MemberConfig} {timings : Fin ms.length → Timings}
    (h : ∀ i, (Config.ofPlace ms timings i).validate = .ok ()) {t : ActorType}
    (hosted : ∃ m ∈ ms, t ∈ m.actorTypes) (id : String) :
    ∃ host target, Located ms timings t id host target := by
  obtain ⟨m, hm, ht⟩ := hosted
  obtain ⟨n, hlt, rfl⟩ := List.mem_iff_getElem.1 hm
  let i : Fin ms.length := ⟨n, hlt⟩
  have hnonempty : (ofConfig (Config.ofPlace ms timings i)).hosts t ≠ [] := by
    rw [hosts_ofConfig]
    exact List.ne_nil_of_mem (Config.mem_hosting_iff.2 ⟨_, hm, ht, rfl⟩)
  obtain ⟨s, hs, slot, hplace⟩ := exists_place_none hnonempty id
  rw [hosts_ofConfig] at hs
  obtain ⟨m, hm, hhosts, rfl⟩ := Config.mem_hosting_iff.1 hs
  obtain ⟨k, hk, rfl⟩ := List.mem_iff_getElem.1 hm
  have hnd := (Config.validate_eq_ok_iff.1 (h i)).2.1
  have hids := fun i => Config.isNone_localId (h i)
  refine ⟨⟨k, hk⟩, _, {
    placed := fun j => (place_ofPlace timings j i .none t id).trans hplace
    system := rfl
    hosts := hhosts
    delivered := fun hr he c s => (hr.attempts_of_isDirect (hids ⟨k, hk⟩) he c s).1 rfl
    remitted := fun {_ _ j _ _} hj hr he c s => (hr.attempts_of_isDirect (hids j) he c s).2 ?_ }⟩
  intro heq
  exact hj (LinkTable.place_eq_of_id_eq (i := j) (j := ⟨k, hk⟩) hnd heq.symm)

/-- Configurations with the same hosts of a type place its actors alike, whatever else is in them.
So the members of a cluster agree on where an actor of a hosted type lives, and what is for it is
delivered there and sent there by everybody else. -/
theorem locates_of_hosting :
    (∀ (c c' : Config) (t : ActorType), c.hosting t = c'.hosting t → ∀ s id,
      (ofConfig c).place s t id = (ofConfig c').place s t id) ∧
    ∀ (ms : List MemberConfig) (timings : Fin ms.length → Timings),
      (∀ i, (Config.ofPlace ms timings i).validate = .ok ()) →
      ∀ t : ActorType, (∃ m ∈ ms, t ∈ m.actorTypes) → ∀ id,
        ∃ host target, Located ms timings t id host target := by
  refine ⟨fun c c' t same s id => place_congr ?_ s id, fun ms timings h t hosted id =>
    exists_located h hosted id⟩
  rw [hosts_ofConfig, hosts_ofConfig, same]

/-- Three members, of which the second hosts a type twice, and the same cluster once a member was
put in front that hosts another type: an actor keeps its place, and its member delivers what is for
it. -/
theorem locates_grownCluster :
    let ms : List MemberConfig :=
      [⟨⟨1⟩, "a", 7001, [⟨120⟩]⟩, ⟨⟨2⟩, "b", 7002, [⟨120⟩, ⟨110⟩, ⟨120⟩]⟩,
      ⟨⟨3⟩, "c", 7003, []⟩]
    let timings : Fin ms.length → Timings := fun i => { maxFrameSize := i + 1 }
    let c := Config.ofPlace ms timings ⟨2, by decide⟩
    let c' : Config := ⟨⟨4⟩, ⟨⟨4⟩, "d", 7004, [⟨110⟩]⟩ :: ms, {}⟩
    c.hosting ⟨120⟩ = c'.hosting ⟨120⟩ ∧
      (ofConfig c').place .none ⟨120⟩ "room" = (ofConfig c).place .none ⟨120⟩ "room" ∧
      (∀ i, (Config.ofPlace ms timings i).validate = .ok ()) ∧ (∃ m ∈ ms, ⟨120⟩ ∈ m.actorTypes) ∧
      ∃ host target, Located ms timings ⟨120⟩ "room" host target ∧ target.system = ⟨2⟩ := by
  intro ms timings c c'
  have same : c.hosting ⟨120⟩ = c'.hosting ⟨120⟩ := by decide
  have hvalid : ∀ i, (Config.ofPlace ms timings i).validate = .ok () := by
    show ∀ i : Fin 3, (Config.ofPlace ms timings i).validate = .ok ()
    intro i
    match i with
    | 0 | 1 | 2 => rfl
  have hosted : ∃ m ∈ ms, ⟨120⟩ ∈ m.actorTypes := ⟨_, List.mem_cons_self, by decide⟩
  obtain ⟨hplaces, hlocates⟩ := locates_of_hosting
  obtain ⟨host, target, hlocated⟩ := hlocates ms timings hvalid ⟨120⟩ hosted "room"
  have hplace : ((ofConfig c).place .none ⟨120⟩ "room").toOption.map (·.system) = some ⟨2⟩ := by
    decide +kernel
  rw [hlocated.placed ⟨2, by decide⟩] at hplace
  exact ⟨same, (hplaces c c' ⟨120⟩ same .none "room").symm, hvalid, hosted, host, target, hlocated,
    Option.some.inj hplace⟩

end Placement

end ActorMesh
