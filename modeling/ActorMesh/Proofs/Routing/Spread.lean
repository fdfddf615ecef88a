import ActorMesh.Proofs.Routing.Location

/-!
# How a hash spreads over entries and slots

The hash of an id is divided by the number of entries of the hosts of its type. The remainder picks
the entry, and the lower half of the quotient the slot. A type without hosts has no entry to pick,
and there the lower half of the hash itself is the slot.

So the slot of an actor does not depend on who asks, nor on the member that is asked for, and a
place that was found is found again when its member is asked for
(`Placement.spreads_of_validate`). As long as the number of entries fits into a word, there is
nothing to divide by 0 and no entry to miss: `Placement.place?`, which gives up where that happens,
gives the same as `Placement.place`.
-/

namespace ActorMesh.Placement

variable {p : Placement} {t : ActorType} {n : Nat}

/-- The address of an actor, if it takes no division by 0 and no entry that is not there. -/
def place? (p : Placement) (s : SystemId) (t : ActorType) (id : String) :
    Option (Except ClusterError ActorRef) :=
  let hash := idHash (Octets.ofText id)
  let count := UInt32.ofNat (p.hosts t).length
  if p.hosts t = [] then
    some (if s.isNone then .error (.routing (.unhosted t id)) else .ok ⟨s, t, id, slot hash⟩)
  else if count = 0 then none
  else if s.isNone then
    ((p.hosts t)[(hash % count).toNat]?).map fun host => .ok ⟨host, t, id, slot (hash / count)⟩
  else some (.ok ⟨s, t, id, slot (hash / count)⟩)

/-! ### Slots -/

/-- The slot that a hash picks where a type has `n` entries. -/
def slotAmong (n : Nat) (hash : UInt32) : GroupSlot :=
  slot (if n = 0 then hash else hash / UInt32.ofNat n)

/-- The slot of an actor. -/
def slotOf (p : Placement) (t : ActorType) (id : String) : GroupSlot :=
  slotAmong (p.hosts t).length (idHash (Octets.ofText id))

theorem toNat_slot (x : UInt32) : (slot x).value.toNat = x.toNat % 65536 + 1 := by
  have hmask : (x &&& 0xFFFF).toNat = x.toNat % 65536 := by
    rw [UInt32.toNat_and]
    exact Nat.and_two_pow_sub_one_eq_mod x.toNat 16
  rw [slot, UInt32.toNat_add, hmask]
  have hlt : x.toNat % 65536 < 65536 := Nat.mod_lt _ (by decide)
  exact Nat.mod_eq_of_lt (Nat.lt_trans (Nat.succ_lt_succ hlt) (by decide))

/-- Slots are told apart by the lower half of what picks them. -/
theorem slot_eq_iff {x y : UInt32} : slot x = slot y ↔ x.toNat % 65536 = y.toNat % 65536 := by
  have hvalue : slot x = slot y ↔ (slot x).value.toNat = (slot y).value.toNat := by
    rw [UInt32.toNat_inj]
    exact ⟨congrArg GroupSlot.value, congrArg GroupSlot.mk⟩
  rw [hvalue, toNat_slot, toNat_slot, Nat.add_right_cancel_iff]

theorem slotOf_bounds (p : Placement) (t : ActorType) (id : String) :
    1 ≤ (p.slotOf t id).value.toNat ∧ (p.slotOf t id).value.toNat ≤ 65536 := by
  rw [slotOf, slotAmong, toNat_slot]
  omega

/-! ### What is picked -/

/-- A type without hosts has no entry to pick: its actors have a place on the member that is asked
for, if there is one. -/
theorem place_of_unhosted (h : p.hosts t = []) (s : SystemId) (id : String) :
    p.place? s t id = some (p.place s t id) ∧
      p.place s t id = if s.isNone then .error (.routing (.unhosted t id))
        else .ok ⟨s, t, id, p.slotOf t id⟩ := by
  have hslot : p.slotOf t id = slot (idHash (Octets.ofText id)) := by
    rw [slotOf, slotAmong, h, List.length_nil, if_pos rfl]
  have hplace : p.place s t id = if s.isNone then .error (.routing (.unhosted t id))
      else .ok ⟨s, t, id, p.slotOf t id⟩ := by
    simp only [place, h, hslot]
  refine ⟨?_, hplace⟩
  rw [hplace, place?, if_pos h, hslot]

/-- Where a type is hosted, the remainder of the hash is the place of an entry and picks it, and the
quotient picks the slot. -/
theorem exists_picked (hosted : p.hosts t ≠ []) (few : (p.hosts t).length < UInt32.size)
    (id : String) :
    ∃ host, (p.hosts t)[(idHash (Octets.ofText id)).toNat % (p.hosts t).length]? = some host ∧
      ∀ s, p.place? s t id = some (p.place s t id) ∧
        p.place s t id = .ok ⟨if s.isNone then host else s, t, id, p.slotOf t id⟩ := by
  have hpos : 0 < (p.hosts t).length := List.length_pos_iff.2 hosted
  have hcount : (UInt32.ofNat (p.hosts t).length).toNat = (p.hosts t).length :=
    UInt32.toNat_ofNat_of_lt' few
  have hcountPos : UInt32.ofNat (p.hosts t).length ≠ 0 := by
    intro hzero
    rw [hzero] at hcount
    exact Nat.ne_of_lt hpos hcount
  have hrest : (idHash (Octets.ofText id) % UInt32.ofNat (p.hosts t).length).toNat =
      (idHash (Octets.ofText id)).toNat % (p.hosts t).length := by
    rw [UInt32.toNat_mod, hcount]
  have hslot : p.slotOf t id =
      slot (idHash (Octets.ofText id) / UInt32.ofNat (p.hosts t).length) := by
    rw [slotOf, slotAmong, if_neg (Nat.ne_of_gt hpos)]
  obtain ⟨host, hpicked⟩ : ∃ host,
      (p.hosts t)[(idHash (Octets.ofText id)).toNat % (p.hosts t).length]? = some host :=
    ⟨_, List.getElem?_eq_getElem (Nat.mod_lt _ hpos)⟩
  refine ⟨host, hpicked, fun s => ?_⟩
  have hplace : p.place s t id = .ok ⟨if s.isNone then host else s, t, id, p.slotOf t id⟩ := by
    rw [hslot]
    unfold place
    split
    · next hnone => exact absurd hnone hosted
    · next first others hhosts =>
      dsimp only
      rw [← hhosts, hrest, List.getD_eq_getElem?_getD, hpicked, Option.getD_some]
  refine ⟨?_, hplace⟩
  rw [hplace, place?, if_neg hosted, if_neg hcountPos, hrest, hpicked, Option.map_some, hslot]
  cases s.isNone <;> rfl

/-- Among any `n` hosts of a type, an id picks the entry at a place, and a slot. -/
structure Picks (t : ActorType) (n : Nat) (id : String) (entry : Nat) (slot : GroupSlot) :
    Prop where
  /-- The place is within the table, ... -/
  lt : entry < n
  /-- ... and whichever hosts stand in the table, the actor lives on the one there. -/
  place_eq : ∀ p : Placement, (p.hosts t).length = n → ∃ host, (p.hosts t)[entry]? = some host ∧
    p.place .none t id = .ok ⟨host, t, id, slot⟩

/-- A placement with `n` hosts of a type, which are all different. -/
def numbered (t : ActorType) (n : Nat) : Placement :=
  ⟨(List.range n).map fun k => (t, ⟨UInt32.ofNat k⟩)⟩

theorem hosts_numbered (t : ActorType) (n : Nat) :
    (numbered t n).hosts t = (List.range n).map fun k => ⟨UInt32.ofNat k⟩ := by
  simp [numbered, hosts, List.filter_map, Function.comp_def]

/-- What an id picks: the entry at the remainder of its hash, and the slot of the quotient. -/
theorem picks_iff (hpos : 0 < n) (few : n < UInt32.size) {id : String} {entry : Nat}
    {slot : GroupSlot} :
    Picks t n id entry slot ↔ entry = (idHash (Octets.ofText id)).toNat % n ∧
      slot = slotAmong n (idHash (Octets.ofText id)) := by
  constructor
  · intro h
    -- The hosts of `numbered` are all different, so the one that was picked tells the entry.
    have hlength : ((numbered t n).hosts t).length = n := by simp [hosts_numbered]
    have hosted : (numbered t n).hosts t ≠ [] :=
      List.length_pos_iff.1 (hpos.trans_eq hlength.symm)
    obtain ⟨host, hhost, hplace⟩ := h.place_eq _ hlength
    obtain ⟨host', hhost', hplaces⟩ := exists_picked hosted (hlength.trans_lt few) id
    have hsame := Except.ok.inj (hplace.symm.trans (hplaces .none).2)
    obtain rfl : host = host' := congrArg ActorRef.system hsame
    have hslot := congrArg ActorRef.slot hsame
    rw [slotOf] at hslot
    rw [hlength] at hhost' hslot
    refine ⟨?_, hslot⟩
    have hrest : (idHash (Octets.ofText id)).toNat % n < n := Nat.mod_lt _ hpos
    rw [hosts_numbered, List.getElem?_map, List.getElem?_range h.lt, Option.map_some,
      Option.some_inj] at hhost
    rw [hosts_numbered, List.getElem?_map, List.getElem?_range hrest, Option.map_some,
      ← hhost, Option.some_inj, SystemId.mk.injEq] at hhost'
    have hnumber := congrArg UInt32.toNat hhost'
    rw [UInt32.toNat_ofNat_of_lt' (Nat.lt_trans hrest few),
      UInt32.toNat_ofNat_of_lt' (Nat.lt_trans h.lt few)] at hnumber
    exact hnumber.symm
  · intro h
    obtain ⟨rfl, rfl⟩ := h
    refine ⟨Nat.mod_lt _ hpos, fun p hlength => ?_⟩
    have hosted : p.hosts t ≠ [] := List.length_pos_iff.1 (hlength ▸ hpos)
    obtain ⟨host, hhost, hplaces⟩ := exists_picked hosted (hlength ▸ few) id
    rw [← hlength]
    exact ⟨host, hhost, (hplaces .none).2⟩

/-- Two ids pick the same where the remainders of their hashes agree, and the lower halves of the
quotients do. -/
theorem picks_alike_iff (hpos : 0 < n) (few : n < UInt32.size) {id id' : String} :
    (∃ entry slot, Picks t n id entry slot ∧ Picks t n id' entry slot) ↔
      (idHash (Octets.ofText id)).toNat % n = (idHash (Octets.ofText id')).toNat % n ∧
        (idHash (Octets.ofText id)).toNat / n % 65536 =
          (idHash (Octets.ofText id')).toNat / n % 65536 := by
  have hquotient : ∀ hash : UInt32, (hash / UInt32.ofNat n).toNat = hash.toNat / n := by
    intro hash
    rw [UInt32.toNat_div, UInt32.toNat_ofNat_of_lt' few]
  have hslots : ∀ hash hash', slotAmong n hash = slotAmong n hash' ↔
      hash.toNat / n % 65536 = hash'.toNat / n % 65536 := by
    intro hash hash'
    rw [slotAmong, slotAmong, if_neg (Nat.ne_of_gt hpos), if_neg (Nat.ne_of_gt hpos),
      slot_eq_iff, hquotient, hquotient]
  simp only [picks_iff hpos few]
  rw [← hslots]
  constructor
  · intro h
    obtain ⟨entry, slot, ⟨rfl, rfl⟩, hentry, hslot⟩ := h
    exact ⟨hentry, hslot⟩
  · intro h
    exact ⟨_, _, ⟨rfl, rfl⟩, h⟩

/-! ### Configurations -/

/-- How the actors of a type spread over the members of a configuration. -/
structure Spreads (c : Config) (t : ActorType) : Prop where
  /-- Nothing is divided by 0, and no entry is missed. -/
  safe : ∀ s id, (ofConfig c).place? s t id = some ((ofConfig c).place s t id)
  /-- There is no place exactly where no member is asked for and none hosts the type. -/
  exists_error_iff : ∀ s id, (∃ e, (ofConfig c).place s t id = .error e) ↔
    s.isNone = true ∧ ∀ m ∈ c.members, t ∉ m.actorTypes
  /-- An actor has one slot, whoever asks for it and on which member. -/
  exists_slot : ∀ id, ∃ slot : GroupSlot, 1 ≤ slot.value.toNat ∧ slot.value.toNat ≤ 65536 ∧
    ∀ s r, (ofConfig c).place s t id = .ok r → r.slot = slot
  /-- The member that is asked for is the one that is given, ... -/
  system_eq : ∀ s id r, s.isNone = false → (ofConfig c).place s t id = .ok r → r.system = s
  /-- ... and where none is, it is a member that hosts the type. -/
  mem_of_none : ∀ id r, (ofConfig c).place .none t id = .ok r → r.system.isNone = false ∧
    ∃ m ∈ c.members, t ∈ m.actorTypes ∧ m.id = r.system
  /-- Who asks for the member that was found finds the same. -/
  again : ∀ s id r, (ofConfig c).place s t id = .ok r → (ofConfig c).place r.system t id = .ok r
  /-- Each id picks one entry of the hosts and one slot, ... -/
  existsUnique_picks : c.hosting t ≠ [] → ∀ id,
    ∃! picked : Nat × GroupSlot, Picks t (c.hosting t).length id picked.1 picked.2
  /-- ... and two ids pick the same exactly if remainder and quotient tell them not apart. -/
  alike_iff : c.hosting t ≠ [] → ∀ id id',
    (∃ entry slot, Picks t (c.hosting t).length id entry slot ∧
        Picks t (c.hosting t).length id' entry slot) ↔
      (idHash (Octets.ofText id)).toNat % (c.hosting t).length =
          (idHash (Octets.ofText id')).toNat % (c.hosting t).length ∧
        (idHash (Octets.ofText id)).toNat / (c.hosting t).length % 65536 =
          (idHash (Octets.ofText id')).toNat / (c.hosting t).length % 65536

/-- Nothing is divided by 0, and no entry is missed. -/
theorem place?_eq (few : (p.hosts t).length < UInt32.size) (s : SystemId) (id : String) :
    p.place? s t id = some (p.place s t id) := by
  by_cases hosted : p.hosts t = []
  · exact (place_of_unhosted hosted s id).1
  · obtain ⟨host, -, hplaces⟩ := exists_picked hosted few id
    exact (hplaces s).1

/-- A member in particular is the one that is given. -/
theorem place_of_given (few : (p.hosts t).length < UInt32.size) {s : SystemId}
    (hs : s.isNone = false) (id : String) : p.place s t id = .ok ⟨s, t, id, p.slotOf t id⟩ := by
  by_cases hosted : p.hosts t = []
  · rw [(place_of_unhosted hosted s id).2, hs, if_neg Bool.false_ne_true]
  · obtain ⟨host, -, hplaces⟩ := exists_picked hosted few id
    rw [(hplaces s).2, hs, if_neg Bool.false_ne_true]

/-- For none in particular it is a host of the type, if there is one. -/
theorem place_of_isNone (few : (p.hosts t).length < UInt32.size) {s : SystemId}
    (hs : s.isNone = true) (id : String) :
    (p.hosts t = [] ∧ ∃ e, p.place s t id = .error e) ∨
      ∃ host ∈ p.hosts t, p.place s t id = .ok ⟨host, t, id, p.slotOf t id⟩ := by
  by_cases hosted : p.hosts t = []
  · exact .inl ⟨hosted, _, by rw [(place_of_unhosted hosted s id).2, hs, if_pos rfl]⟩
  · obtain ⟨host, hhost, hplaces⟩ := exists_picked hosted few id
    refine .inr ⟨host, List.mem_of_getElem? hhost, ?_⟩
    rw [(hplaces s).2, hs, if_pos rfl]

/-- A type is not hosted where no member names it. -/
theorem hosting_eq_nil_iff {c : Config} :
    c.hosting t = [] ↔ ∀ m ∈ c.members, t ∉ m.actorTypes := by
  simp only [List.eq_nil_iff_forall_not_mem, Config.mem_hosting_iff]
  constructor
  · intro hnone m hm ht
    exact hnone m.id ⟨m, hm, ht, rfl⟩
  · intro hnone s hs
    obtain ⟨m, hm, ht, -⟩ := hs
    exact hnone m hm ht

/-- The hosts of a type are members in particular. -/
theorem isNone_of_mem_hosting {c : Config} (h : c.validate = .ok ()) {host : SystemId}
    (hhost : host ∈ c.hosting t) : host.isNone = false := by
  obtain ⟨m, hm, -, rfl⟩ := Config.mem_hosting_iff.1 hhost
  exact (Config.validate_eq_ok_iff.1 h).1 _ (List.mem_map_of_mem hm)

/-- Whoever asks, an address is on a member in particular, with the slot of the actor. -/
theorem eq_of_place_eq_ok {c : Config} (h : c.validate = .ok ())
    (few : ((ofConfig c).hosts t).length < UInt32.size) {s : SystemId} {id : String} {r : ActorRef}
    (hr : (ofConfig c).place s t id = .ok r) :
    r.system.isNone = false ∧ r = ⟨r.system, t, id, (ofConfig c).slotOf t id⟩ := by
  cases hs : s.isNone with
  | false =>
    obtain rfl := Except.ok.inj ((place_of_given few hs id).symm.trans hr)
    exact ⟨hs, rfl⟩
  | true =>
    obtain ⟨-, e, hplace⟩ | ⟨host, hhost, hplace⟩ := place_of_isNone few hs id
    · cases hplace.symm.trans hr
    · obtain rfl := Except.ok.inj (hplace.symm.trans hr)
      rw [hosts_ofConfig] at hhost
      exact ⟨isNone_of_mem_hosting h hhost, rfl⟩

/-- The actors of every type spread over the members of a valid configuration. -/
theorem spreads_of_validate {c : Config} (h : c.validate = .ok ())
    (few : (c.hosting t).length < UInt32.size) : Spreads c t := by
  have few' : ((ofConfig c).hosts t).length < UInt32.size := by rwa [hosts_ofConfig]
  exact {
    safe := place?_eq few'
    exists_error_iff := by
      intro s id
      rw [← hosting_eq_nil_iff, ← hosts_ofConfig]
      cases hs : s.isNone with
      | false => simp [place_of_given few' hs id]
      | true =>
        obtain ⟨hnone, hfails⟩ | ⟨host, hhost, hplace⟩ := place_of_isNone few' hs id
        · exact iff_of_true hfails ⟨rfl, hnone⟩
        · simp [hplace, List.ne_nil_of_mem hhost]
    exists_slot := by
      intro id
      obtain ⟨hlow, hhigh⟩ := slotOf_bounds (ofConfig c) t id
      exact ⟨_, hlow, hhigh, fun s r hr => congrArg ActorRef.slot (eq_of_place_eq_ok h few' hr).2⟩
    system_eq := by
      intro s id r hs hr
      exact congrArg ActorRef.system (Except.ok.inj (hr.symm.trans (place_of_given few' hs id)))
    mem_of_none := by
      intro id r hr
      refine ⟨(eq_of_place_eq_ok h few' hr).1, ?_⟩
      obtain ⟨-, e, hplace⟩ | ⟨host, hhost, hplace⟩ := place_of_isNone (s := .none) few' rfl id
      · cases hr.symm.trans hplace
      · cases hr.symm.trans hplace
        rw [hosts_ofConfig] at hhost
        exact Config.mem_hosting_iff.1 hhost
    again := by
      intro s id r hr
      obtain ⟨hsystem, hr⟩ := eq_of_place_eq_ok h few' hr
      rw [place_of_given few' hsystem id, ← hr]
    existsUnique_picks := by
      intro hosted id
      simp only [picks_iff (List.length_pos_iff.2 hosted) few]
      exact ⟨(_, _), ⟨rfl, rfl⟩, fun picked hpicked => Prod.ext hpicked.1 hpicked.2⟩
    alike_iff := fun hosted _ _ => picks_alike_iff (List.length_pos_iff.2 hosted) few }

/-- Three members, of which the first hosts a type twice. The hashes of two ids differ by 65536
times the number of hosts, so both pick the same; those of two others differ by one, and these do
not. -/
theorem spreads_weightedHosts :
    let c : Config := ⟨⟨1⟩, [⟨⟨1⟩, "a", 7001, [⟨120⟩, ⟨121⟩, ⟨120⟩]⟩, ⟨⟨2⟩, "b", 7002, []⟩,
      ⟨⟨3⟩, "c", 7003, [⟨120⟩]⟩], {}⟩
    c.validate = .ok () ∧ (c.hosting ⟨120⟩).length < UInt32.size ∧ Spreads c ⟨120⟩ ∧
      c.hosting ⟨120⟩ = [⟨1⟩, ⟨1⟩, ⟨3⟩] ∧
      (∃ entry slot, Picks ⟨120⟩ 3 "abc" entry slot ∧ Picks ⟨120⟩ 3 "dbc" entry slot) ∧
      ¬ ∃ entry slot, Picks ⟨120⟩ 3 "abc" entry slot ∧ Picks ⟨120⟩ 3 "abb" entry slot := by
  intro c
  have hvalid : c.validate = .ok () := rfl
  have few : (c.hosting ⟨120⟩).length < UInt32.size := by decide
  have hosted : c.hosting ⟨120⟩ ≠ [] := by decide
  have hspreads : Spreads c ⟨120⟩ := spreads_of_validate hvalid few
  refine ⟨hvalid, few, hspreads, by decide, ?_, ?_⟩
  · exact (hspreads.alike_iff hosted "abc" "dbc").2 (by decide +kernel)
  · intro halike
    exact absurd ((hspreads.alike_iff hosted "abc" "abb").1 halike) (by decide +kernel)

end ActorMesh.Placement
