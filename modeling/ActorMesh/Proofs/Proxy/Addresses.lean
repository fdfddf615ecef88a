import ActorMesh.Proofs.Proxy.KeyText
import ActorMesh.Proxy.Directory
import Mathlib.Data.Finset.Card

/-!
# The addresses of proxies

A directory keeps the addresses that it was asked for. That is a matter of speed only: what it
answers is what the placement computes for the kind of the proxy and the text of the key, whatever
it was asked before, and it never fails (`ProxyDirectory.answers_of_requests`).

A target is known by its type and its id; its member and its slot make no difference. Those two make
all the difference, for the id of the proxy spells both of them, and from the text of a key the key
can be read back.
-/

namespace ActorMesh.ProxyDirectory

variable {localId : SystemId} {placement : Placement} {d : ProxyDirectory}

/-- A directory is asked for the proxy of a kind for a target. -/
structure Request where
  kind : ActorType
  target : ActorRef
  deriving DecidableEq

namespace Request

/-- All that matters of a request: the kind, and the type and the id of the target. -/
def subject (x : Request) : ActorType × ActorType × String :=
  (x.kind, x.target.actorType, x.target.id)

/-- Where a directory keeps the answer. -/
def entry (x : Request) : ActorType × ProxyKey := (x.kind, .ofTarget x.target)

/-- The address that the placement gives. -/
def address (localId : SystemId) (placement : Placement) (x : Request) :
    Except ClusterError ActorRef :=
  placement.place localId x.kind (ProxyKey.ofTarget x.target).text

theorem entry_eq_iff {x y : Request} : x.entry = y.entry ↔ x.subject = y.subject := by
  simp [entry, subject, ProxyKey.ofTarget]

/-- The address tells the kind, and the text of the key. -/
theorem exists_address_eq (hid : localId.isNone = false) (placement : Placement) (x : Request) :
    ∃ slot, x.address localId placement =
      .ok ⟨localId, x.kind, (ProxyKey.ofTarget x.target).text, slot⟩ :=
  placement.exists_place_eq_ok hid x.kind _

/-- Requests for different subjects have different addresses. -/
theorem address_eq_iff (hid : localId.isNone = false) {x y : Request} :
    x.address localId placement = y.address localId placement ↔ x.subject = y.subject := by
  constructor
  · intro h
    obtain ⟨slot, hx⟩ := x.exists_address_eq hid placement
    obtain ⟨slot', hy⟩ := y.exists_address_eq hid placement
    rw [hx, hy] at h
    have hsame := Except.ok.inj h
    have hkind : x.kind = y.kind := congrArg ActorRef.actorType hsame
    have hkey : ProxyKey.ofTarget x.target = .ofTarget y.target :=
      ProxyKey.text_injective (congrArg ActorRef.id hsame)
    exact entry_eq_iff.1 (Prod.ext hkind hkey)
  · intro h
    obtain ⟨hkind, hkey⟩ := Prod.mk.inj (entry_eq_iff.2 h)
    rw [address, address, hkind, hkey]

end Request

/-- The directory of a member after some requests, and what it answered to each. -/
def resolveAll (d : ProxyDirectory) : List Request →
    List (Except ClusterError ActorRef) × ProxyDirectory
  | [] => ([], d)
  | x :: rest =>
    match d.resolve x.kind x.target with
    | .ok (proxy, d') => (.ok proxy :: (d'.resolveAll rest).1, (d'.resolveAll rest).2)
    | .error e => (.error e :: (d.resolveAll rest).1, (d.resolveAll rest).2)

/-! ### What a directory knows -/

/-- A directory of a member that was asked for the subjects `known`, and knows no others. -/
structure Knows (localId : SystemId) (placement : Placement)
    (known : Finset (ActorType × ActorType × String)) (d : ProxyDirectory) : Prop where
  localId_eq : d.localId = localId
  placement_eq : d.placement = placement
  faithful : d.Faithful
  contains_iff : ∀ x : Request, d.entries.contains x.entry = true ↔ x.subject ∈ known
  size_eq : d.size = known.card

theorem knows_new (localId : SystemId) (placement : Placement) :
    Knows localId placement ∅ (new localId placement) where
  localId_eq := rfl
  placement_eq := rfl
  faithful := faithful_new localId placement
  contains_iff x := by
    refine iff_of_false ?_ (Finset.notMem_empty _)
    exact Bool.false_ne_true
  size_eq := rfl

/-- What is kept is not computed again, and what is computed is kept. -/
theorem Faithful.resolve_eq (h : d.Faithful) {x : Request} {proxy : ActorRef}
    (hplace : x.address d.localId d.placement = .ok proxy) :
    d.resolve x.kind x.target = .ok (proxy, if d.entries.contains x.entry then d
      else { d with entries := d.entries.insert x.entry proxy }) := by
  rw [Request.address] at hplace
  rw [Request.entry, Table.contains]
  cases hfound : d.entries.get? (x.kind, ProxyKey.ofTarget x.target) with
  | some found =>
    obtain rfl := Except.ok.inj (hplace.symm.trans (h _ _ _ hfound))
    simp only [resolve, hfound, Option.isSome_some, if_true]
  | none =>
    simp only [resolve, hfound, hplace, Option.isSome_none, Bool.false_eq_true, if_false]

/-- A request is answered with the address, and from then on the directory knows its subject. -/
theorem Knows.resolve {known : Finset (ActorType × ActorType × String)}
    (h : Knows localId placement known d) (hid : localId.isNone = false) (x : Request) :
    ∃ proxy d', d.resolve x.kind x.target = .ok (proxy, d') ∧
      x.address localId placement = .ok proxy ∧
      Knows localId placement (insert x.subject known) d' := by
  obtain ⟨proxy, d', hresolve, hplace, hlocal, hplacement, hfaithful⟩ :=
    h.faithful.exists_resolve_eq_ok (h.localId_eq ▸ hid) x.kind x.target
  have hd' : d' = if d.entries.contains x.entry then d
      else { d with entries := d.entries.insert x.entry proxy } :=
    congrArg Prod.snd (Except.ok.inj (hresolve.symm.trans (h.faithful.resolve_eq hplace)))
  rw [h.localId_eq, h.placement_eq] at hplace
  refine ⟨proxy, d', hresolve, hplace, ?_⟩
  cases hknown : d.entries.contains x.entry with
  | true =>
    rw [hknown, if_pos rfl] at hd'
    rw [hd', Finset.insert_eq_of_mem ((h.contains_iff x).1 hknown)]
    exact h
  | false =>
    rw [hknown, if_neg Bool.false_ne_true] at hd'
    have hnew : x.subject ∉ known := by
      rw [← h.contains_iff x, hknown]
      exact Bool.false_ne_true
    have hentries : d'.entries = d.entries.insert x.entry proxy := by rw [hd']
    exact {
      localId_eq := hlocal.trans h.localId_eq
      placement_eq := hplacement.trans h.placement_eq
      faithful := hfaithful
      contains_iff := by
        intro y
        rw [Finset.mem_insert, ← h.contains_iff y, ← Request.entry_eq_iff, hentries,
          Table.contains, Table.get?_insert]
        by_cases hy : y.entry = x.entry
        · simp [hy]
        · simp [hy, Table.contains]
      size_eq := by
        rw [size, hentries, Table.size_insert, hknown, if_neg Bool.false_ne_true,
          Finset.card_insert_of_notMem hnew, ← h.size_eq, size] }

/-! ### Requests one after another -/

/-- What a directory made of its requests. -/
structure Answers (localId : SystemId) (placement : Placement) (xs : List Request)
    (answers : List (Except ClusterError ActorRef)) (d : ProxyDirectory) : Prop where
  /-- Each request is answered with the address that the placement gives, ... -/
  answers_eq : answers = xs.map (·.address localId placement)
  /-- ... and there always is one. -/
  exists_eq_ok : ∀ answer ∈ answers, ∃ proxy, answer = .ok proxy
  /-- Two answers are equal exactly if kind, type and id are. -/
  eq_iff : ∀ (i j : Nat) (x y : Request), xs[i]? = some x → xs[j]? = some y →
    (answers[i]? = answers[j]? ↔ x.kind = y.kind ∧ x.target.actorType = y.target.actorType ∧
      x.target.id = y.target.id)
  /-- Each of these is kept once. -/
  size_eq : d.size = (xs.map Request.subject).toFinset.card

/-- From what a directory knows on, all requests are answered with the addresses. -/
theorem Knows.resolveAll {known : Finset (ActorType × ActorType × String)}
    (h : Knows localId placement known d) (hid : localId.isNone = false) (xs : List Request) :
    (d.resolveAll xs).1 = xs.map (·.address localId placement) ∧
      Knows localId placement (known ∪ (xs.map Request.subject).toFinset) (d.resolveAll xs).2 := by
  induction xs generalizing d known with
  | nil =>
    refine ⟨rfl, ?_⟩
    rw [List.map_nil, List.toFinset_nil, Finset.union_empty]
    exact h
  | cons x rest ih =>
    obtain ⟨proxy, d', hresolve, hplace, hd'⟩ := h.resolve hid x
    obtain ⟨hanswers, hknows⟩ := ih hd'
    simp only [ProxyDirectory.resolveAll, hresolve, List.map_cons, hplace, hanswers, true_and]
    rw [List.toFinset_cons, Finset.union_insert, ← Finset.insert_union]
    exact hknows

/-- The directory of a member in particular is a function of kind, type and id that takes no two of
them to one address, whatever it is asked for, how often and in which order. -/
theorem answers_of_requests (hid : localId.isNone = false) (placement : Placement)
    (xs : List Request) :
    Answers localId placement xs ((new localId placement).resolveAll xs).1
      ((new localId placement).resolveAll xs).2 := by
  obtain ⟨hanswers, hknows⟩ := (knows_new localId placement).resolveAll hid xs
  refine {
    answers_eq := hanswers
    exists_eq_ok := fun answer hanswer => ?_
    eq_iff := fun i j x y hx hy => ?_
    size_eq := by rw [hknows.size_eq, Finset.empty_union] }
  · rw [hanswers] at hanswer
    obtain ⟨x, -, rfl⟩ := List.mem_map.1 hanswer
    obtain ⟨slot, hplace⟩ := x.exists_address_eq hid placement
    exact ⟨_, hplace⟩
  · rw [hanswers, List.getElem?_map, List.getElem?_map, hx, hy, Option.map_some, Option.map_some,
      Option.some_inj, Request.address_eq_iff hid]
    simp only [Request.subject, Prod.mk.injEq]

/-- Types and ids that would spell the same without a separator, a target on two members, and one
that is asked for twice, by kinds of which one is hosted. -/
theorem answers_lookalikes :
    let placement : Placement := ⟨[(⟨102⟩, ⟨1⟩), (⟨102⟩, ⟨3⟩), (⟨120⟩, ⟨1⟩)]⟩
    let xs : List Request :=
      [⟨⟨102⟩, ⟨⟨1⟩, ⟨12⟩, "3-4", ⟨1⟩⟩⟩, ⟨⟨102⟩, ⟨⟨1⟩, ⟨123⟩, "-4", ⟨1⟩⟩⟩,
        ⟨⟨102⟩, ⟨⟨3⟩, ⟨12⟩, "3-4", ⟨9⟩⟩⟩, ⟨⟨101⟩, ⟨⟨1⟩, ⟨12⟩, "3-4", ⟨1⟩⟩⟩]
    let answered := (new ⟨2⟩ placement).resolveAll xs
    SystemId.isNone ⟨2⟩ = false ∧ Answers ⟨2⟩ placement xs answered.1 answered.2 ∧
      answered.1[0]? = answered.1[2]? ∧ answered.1[0]? ≠ answered.1[1]? ∧ answered.2.size = 3 := by
  intro placement xs answered
  have hanswers : Answers ⟨2⟩ placement xs answered.1 answered.2 :=
    answers_of_requests rfl placement xs
  refine ⟨rfl, hanswers, ?_, ?_, ?_⟩
  · exact (hanswers.eq_iff 0 2 _ _ rfl rfl).2 ⟨rfl, rfl, rfl⟩
  · intro hsame
    have htype := ((hanswers.eq_iff 0 1 _ _ rfl rfl).1 hsame).2.1
    exact absurd htype (by decide)
  · rw [hanswers.size_eq]
    decide

end ActorMesh.ProxyDirectory
