import ActorMesh.Proofs.Proxy.KeyText
import ActorMesh.Proofs.Routing.Conservation
import ActorMesh.Proxy.Actor

/-!
# Who is watched

A watch of an actor on another member is handed to a local proxy. The address of the proxy follows
from the type and the id of that actor, and from its own address the proxy finds its watchee again:
it reads type and id, and asks the placement for the rest. The member of the actor takes no part in
this.

So the proxy watches the actor it was asked to watch exactly if that lives where the placement puts
it, and actors that differ in their members only have one proxy in common (`watchee_of_reached`). An
actor that was put on a member on purpose may not be watched at all (`watchee_ofOtherMember`).
-/

namespace ActorMesh

variable {σ α : Type}

/-- A proxy whose id is the text of a key watches whom the placement gives for it, if anyone. -/
theorem WatchProxy.watchee_start (placement : Placement) (grace : Nat) (k : ProxyKey) :
    ((new grace).start (α := α) placement k.text).1.watchee =
      (placement.place .none k.actorType k.id).toOption := by
  have hresolved : (do
      let key ← ProxyKey.parse k.text
      placement.place .none key.actorType key.id) = placement.place .none k.actorType k.id := by
    rw [ProxyKey.parse_text]
    rfl
  unfold start
  simp only [hresolved]
  cases placement.place .none k.actorType k.id <;> rfl

namespace Router

/-- The watches of an actor go to one local proxy, each as one message. -/
structure Serves (r : Router) (proxy target : ActorRef) : Prop where
  /-- The watch of an actor other than a proxy comes with the actor as its sender. -/
  watch : ∀ {σ α : Type} (c : Carrier σ α) (s : σ) (sender : Option ActorRef) (w : WatchType)
    (on : Bool), isWatchProxy sender = false →
    r.attempts c s (.parcel (.watch sender target w on)) =
      [(.deliver (.parcel (.send sender proxy (.watchInstruction w on))), .ok ())]
  /-- The watch of a queue comes without a sender. -/
  outerWatch : ∀ {σ α : Type} (c : Carrier σ α) (s : σ) (w : WatchType) (on : Bool)
    (queue : QueueId),
    r.attempts c s (.outerWatch target w on queue) =
      [(.deliver (.parcel (.send none proxy (.subscription w on queue))), .ok ())]

/-- There is one such proxy only. -/
theorem Serves.unique {r : Router} {proxy proxy' target : ActorRef} (h : r.Serves proxy target)
    (h' : r.Serves proxy' target) : proxy = proxy' := by
  let c : Carrier Unit Unit := ⟨fun _ s => s, fun _ _ s => (.ok (), [], s)⟩
  have heq := (h.outerWatch c () ⟨0⟩ true ⟨0⟩).symm.trans (h'.outerWatch c () ⟨0⟩ true ⟨0⟩)
  simpa using heq

section

variable {localId : SystemId} {placement : Placement} {r : Router} {target : ActorRef}

/-- The proxy for an actor on another member is where the placement puts it on this one. -/
theorem Sound.serves (h : r.Sound localId placement) (hid : localId.isNone = false)
    (hremote : target.system ≠ localId) {proxy : ActorRef}
    (hproxy : placement.place localId .watchProxy (ProxyKey.ofTarget target).text = .ok proxy) :
    r.Serves proxy target where
  watch := by
    intro σ α c s sender w on hsender
    obtain ⟨slot, proxies, hplace, hdivert, -⟩ :=
      h.divert (α := α) hid .watchProxy target sender (.watchInstruction w on)
    cases hproxy.symm.trans hplace
    have hdirect : ¬(target.system = localId ∨ isWatchProxy sender = true) :=
      not_or.2 ⟨hremote, Bool.eq_false_iff.1 hsender⟩
    have hplan : r.plan (α := α) (.parcel (.watch sender target w on)) =
        r.divert .watchProxy target sender (.watchInstruction w on) := by
      simp only [plan, h.localId_eq, if_neg hdirect]
    exact (attempts_one (hplan.trans hdivert) c s).1
  outerWatch := by
    intro σ α c s w on queue
    obtain ⟨slot, proxies, hplace, hdivert, -⟩ :=
      h.divert (α := α) hid .watchProxy target none (.subscription w on queue)
    cases hproxy.symm.trans hplace
    have hplan : r.plan (α := α) (.outerWatch target w on queue) =
        r.divert .watchProxy target none (.subscription w on queue) := by
      simp only [plan, h.localId_eq, if_neg hremote]
    exact (attempts_one (hplan.trans hdivert) c s).1

end

/-- A proxy serves every actor of one type and id, and watches the one that the placement gives for
them. -/
theorem watchee_of_reached {c : Config} (hc : c.validate = .ok ()) {r : Router}
    (hr : Reached c.localId (.ofConfig c) r) {target : ActorRef}
    (hremote : target.system ≠ c.localId) (grace : Nat) :
    ∃ proxy, r.Serves proxy target ∧
      ((WatchProxy.new grace).start (α := α) (.ofConfig c) proxy.id).1.watchee =
        ((Placement.ofConfig c).place .none target.actorType target.id).toOption ∧
      (((WatchProxy.new grace).start (α := α) (.ofConfig c) proxy.id).1.watchee = some target ↔
        (Placement.ofConfig c).place .none target.actorType target.id = .ok target) ∧
      ∀ r' target', Reached c.localId (.ofConfig c) r' → target'.system ≠ c.localId →
        (r'.Serves proxy target' ↔
          target'.actorType = target.actorType ∧ target'.id = target.id) := by
  have hid := Config.isNone_localId hc
  obtain ⟨slot, hproxy⟩ := (Placement.ofConfig c).exists_place_eq_ok hid .watchProxy
    (ProxyKey.ofTarget target).text
  have hserves := (hr.sound hid).serves hid hremote hproxy
  have hwatchee := WatchProxy.watchee_start (α := α) (.ofConfig c) grace (.ofTarget target)
  refine ⟨_, hserves, hwatchee, ?_, ?_⟩
  · refine (Eq.congr_left hwatchee).trans ?_
    show ((Placement.ofConfig c).place .none target.actorType target.id).toOption = some target ↔ _
    cases (Placement.ofConfig c).place .none target.actorType target.id with
    | error fault => exact iff_of_false nofun nofun
    | ok found => simp [Except.toOption]
  · intro r' target' hr' hremote'
    have hsound' := hr'.sound hid
    constructor
    · intro h
      obtain ⟨slot', hproxy'⟩ := (Placement.ofConfig c).exists_place_eq_ok hid .watchProxy
        (ProxyKey.ofTarget target').text
      have hsame := h.unique (hsound'.serves hid hremote' hproxy')
      have hkey := ProxyKey.text_injective (congrArg ActorRef.id hsame)
      exact ⟨(congrArg ProxyKey.actorType hkey).symm, (congrArg ProxyKey.id hkey).symm⟩
    · rintro ⟨htype, htext⟩
      refine hsound'.serves hid hremote' ?_
      rw [ProxyKey.ofTarget, htype, htext]
      exact hproxy

/-- Three members, two of which host a type. -/
def twoHosts : Config :=
  ⟨⟨1⟩, [⟨⟨1⟩, "a", 7001, []⟩, ⟨⟨2⟩, "b", 7002, [⟨120⟩]⟩, ⟨⟨3⟩, "c", 7003, [⟨120⟩]⟩], {}⟩

/-- An actor of that type where the placement puts it is watched, though its id holds a separator and
another one was watched before. -/
theorem watchee_ofSeparatedId :
    let target : ActorRef := ⟨⟨2⟩, ⟨120⟩, "room-7", ⟨44973⟩⟩
    let c : Carrier Unit Nat := ⟨fun _ s => s, fun _ _ s => (.ok (), [], s)⟩
    let r := ((new ⟨1⟩ (.ofConfig twoHosts)).route c ()
      (.outerWatch ⟨⟨3⟩, ⟨120⟩, "room", ⟨47031⟩⟩ ⟨7⟩ true ⟨0⟩)).router
    twoHosts.validate = .ok () ∧ Reached ⟨1⟩ (.ofConfig twoHosts) r ∧
      target.system ≠ twoHosts.localId ∧
      ∃ proxy, r.Serves proxy target ∧
        ((WatchProxy.new 5).start (α := Nat) (.ofConfig twoHosts) proxy.id).1.watchee =
          some target := by
  intro target c r
  have hvalid : twoHosts.validate = .ok () := rfl
  have hreached : Reached ⟨1⟩ (.ofConfig twoHosts) r := .route c () _ .new
  have hremote : target.system ≠ twoHosts.localId := by decide
  have hplace : (Placement.ofConfig twoHosts).place .none ⟨120⟩ "room-7" = .ok target := by
    decide +kernel
  obtain ⟨proxy, hserves, -, hwatchee, -⟩ :=
    watchee_of_reached (α := Nat) hvalid hreached hremote 5
  exact ⟨hvalid, hreached, hremote, proxy, hserves, hwatchee.2 hplace⟩

/-- An actor that was put on member 2, while the placement puts its type and id on member 3: the
proxy that is told to watch it watches the one on member 3. -/
theorem watchee_ofOtherMember :
    let placement := Placement.ofConfig twoHosts
    let r := new ⟨1⟩ placement
    let target : ActorRef := ⟨⟨2⟩, ⟨120⟩, "room", ⟨47031⟩⟩
    let other : ActorRef := ⟨⟨3⟩, ⟨120⟩, "room", ⟨47031⟩⟩
    let proxy : ActorRef := ⟨⟨1⟩, .watchProxy, "120-room", ⟨24385⟩⟩
    twoHosts.validate = .ok () ∧ placement.place ⟨2⟩ ⟨120⟩ "room" = .ok target ∧
      placement.place .none ⟨120⟩ "room" = .ok other ∧ r.Serves proxy target ∧
      r.Serves proxy other ∧
      ((WatchProxy.new 5).start (α := Nat) placement proxy.id).1.watchee = some other ∧
      other ≠ target := by
  intro placement r target other proxy
  have hsound : r.Sound ⟨1⟩ placement := sound_new ⟨1⟩ placement
  have hproxy : placement.place ⟨1⟩ .watchProxy "120-room" = .ok proxy := by decide +kernel
  have hserves : ∀ actor : ActorRef, actor.system ≠ ⟨1⟩ →
      (ProxyKey.ofTarget actor).text = "120-room" → r.Serves proxy actor := by
    intro actor hremote htext
    exact hsound.serves rfl hremote (htext ▸ hproxy)
  exact ⟨rfl, by decide +kernel, by decide +kernel,
    hserves target (by decide) (by decide +kernel), hserves other (by decide) (by decide +kernel),
    by decide +kernel, by decide⟩

end Router

end ActorMesh
