import ActorMesh.Proofs.Envelope.Transport
import ActorMesh.Proofs.Members.Connections
import ActorMesh.Proofs.Routing.Conservation

/-!
# What a member sends

Of all that a member does, only routing and sending put packages on its connections; what is silent
(`Member.Action.IsSilent`) queues nothing but ends of connections. Routing hands on the pieces of an
envelope one after another, and every piece that is handed to another member with success is queued
on the connection of the link to that member, in this order and on no other connection
(`Member.ends_performed`).
-/

namespace ActorMesh

/-! ### Handing on -/

namespace Router

variable {σ α : Type}

/-- The state after pieces were handed on one after another. -/
def performed (c : Carrier σ α) : σ → List (Emission α) → σ
  | s, [] => s
  | s, e :: rest => performed c (perform c s e).2.2 rest

theorem performAll_state (c : Carrier σ α) (s : σ) (result : Except ClusterError Unit)
    (es : List (Emission α)) : (performAll c s result es).2.2 = performed c s es := by
  induction es generalizing s result with
  | nil => rfl
  | cons e rest ih =>
    unfold performAll
    split
    · rename_i h
      rw [performed, h]
      exact ih ..
    · rename_i h
      rw [performed, h]
      exact ih ..

/-- Routing hands on the pieces that were planned. -/
theorem exists_performed (r : Router) (c : Carrier σ α) (s : σ) (e : Envelope α) :
    ∃ es, (r.route c s e).state = performed c s es ∧ r.attempts c s e = attemptAll c s es := by
  cases hplan : r.plan e with
  | error fault => exact ⟨[], by simp [route, hplan, performed], by simp [attempts, route, hplan,
      attemptAll]⟩
  | ok planned =>
    obtain ⟨plan, proxies⟩ := planned
    cases plan with
    | one em =>
      refine ⟨[em], ?_, (attempts_one hplan c s).1⟩
      simp only [route, hplan, performed]
    | each es =>
      refine ⟨es, ?_, (attempts_each hplan c s).1⟩
      simp only [route, hplan, performAll_state]

/-- What was handed to a member with success. -/
def handedTo (s : SystemId) (as : List (Attempt α)) : List (Envelope α) :=
  as.filterMap fun
    | (.remit s' e, .ok ()) => if s' = s then some e else none
    | _ => none

theorem mem_handedTo {s : SystemId} {as : List (Attempt α)} {e : Envelope α}
    (h : e ∈ handedTo s as) : (.remit s e, .ok ()) ∈ as := by
  obtain ⟨⟨em, result⟩, hmem, ha⟩ := List.mem_filterMap.1 h
  cases em with
  | deliver e' => cases ha
  | remit s' e' =>
    cases result with
    | error fault => cases ha
    | ok =>
      by_cases hs : s' = s
      · simp only [hs, if_true, Option.some.injEq] at ha
        rw [← hs, ← ha] at *
        exact hmem
      · simp [hs] at ha

/-- A piece of an envelope has the targets that it was made for. -/
theorem destinations_of_pieces? {e : Envelope α} {targets : List ActorRef}
    {build : List ActorRef → Envelope α} (h : pieces? e = some (targets, build))
    (group : List ActorRef) : (build group).destinations = group := by
  unfold pieces? at h
  split at h
  · cases h
    rfl
  · cases h
    rfl
  · cases h

/-- An envelope that is not split has one target. -/
theorem destinations_of_target? {e : Envelope α} {target : ActorRef}
    (h : e.target? = some target) : e.destinations = [target] := by
  cases e with
  | outerWatch | outerRequest =>
    cases h
    rfl
  | parcel p =>
    cases p with
    | batchSend | «notify» => cases h
    | _ =>
      cases h
      rfl

/-- What a router hands to another member is for actors of that member. -/
theorem Sound.system_of_handed {localId : SystemId} {placement : Placement} {r : Router}
    (h : r.Sound localId placement) (hid : localId.isNone = false) {c : Carrier σ α} {st : σ}
    {e e' : Envelope α} {s : SystemId} (he' : e' ∈ handedTo s (r.attempts c st e)) :
    ∀ t ∈ e'.destinations, t.system = s := by
  intro t ht
  have hmem := mem_handedTo he'
  obtain ⟨plan, proxies, hplan, -, hplanned⟩ := h.exists_isPlanned hid e
  unfold IsPlanned at hplanned
  split at hplanned
  · rename_i targets build hpieces
    subst hplanned
    rw [(attempts_each hplan c st).1] at hmem
    have hsplit := List.mem_map_of_mem (f := Prod.fst) hmem
    rw [map_fst_attemptAll] at hsplit
    obtain ⟨s', -, hemit⟩ := List.mem_map.1 hsplit
    unfold emit at hemit
    split at hemit
    · cases hemit
    · cases hemit
      rw [destinations_of_pieces? hpieces] at ht
      simpa using (List.mem_filter.1 ht).2
  · obtain ⟨target, em, htarget, hgoes, rfl⟩ := hplanned
    rw [(attempts_one hplan c st).1] at hmem
    obtain ⟨rfl, -⟩ := Prod.mk.inj (List.mem_singleton.1 hmem)
    unfold GoesTo at hgoes
    split at hgoes
    · cases hgoes
    · split at hgoes
      · obtain ⟨slot, -, hdeliver⟩ := hgoes
        cases hdeliver
      · cases hgoes
        rw [destinations_of_target? htarget, List.mem_singleton] at ht
        rw [ht]

end Router

namespace LinkEnd

/-- A connection on which frames were queued. -/
def push (x : LinkEnd) (fs : List Frame) : LinkEnd :=
  { x with connection := { x.connection with outlet := { x.connection.outlet with
      queue := x.connection.outlet.queue ++ fs.map fun f => .frame f.write } } }

@[simp] theorem push_nil (x : LinkEnd) : x.push [] = x := by
  simp [push]

@[simp] theorem push_push (x : LinkEnd) (fs gs : List Frame) :
    (x.push fs).push gs = x.push (fs ++ gs) := by
  simp [push]

/-- What is queued on a connection that serves is written behind everything else. -/
theorem flatten_pieces_push {x : LinkEnd} (hlive : x.connection.IsLive) (fs : List Frame) :
    (x.push fs).connection.pieces.flatten =
      x.connection.pieces.flatten ++ Frame.writeAll fs := by
  have hframes : Connection.frames (fs.map fun f => Command.frame f.write) =
      fs.map Frame.write := by
    induction fs with
    | nil => rfl
    | cons f rest ih => simp [ih]
  obtain ⟨role, o, phase, buffer⟩ := x
  cases phase with
  | made | serving => simp [push, Connection.pieces, hframes, Frame.writeAll]
  | draining | closing | ended => exact hlive.elim

end LinkEnd

namespace Member

variable {α : Type} [Vocabulary α] {m m' m'' : Member α}

/-! ### Silent actions -/

/-- Whether an action neither sends nor changes how that is done, and is no event. -/
def Action.IsSilent : Action α → Prop
  | .registerMessage _ _ | .send _ _ | .route _ | .event _ _ => False
  | _ => True

/-- A silent action: it queues nothing but ends of connections. -/
structure Still (m m' : Member α) : Prop where
  registry : m'.core.registry = m.core.registry
  router : m'.router = m.router
  ends : ∀ (c : ConnectionId) x, m.ends[c.value]? = some x →
    ∃ x', m'.ends[c.value]? = some x' ∧ x.Fed False x'

section

omit [Vocabulary α]

theorem Still.of_ends_eq (registry : m'.core.registry = m.core.registry)
    (router : m'.router = m.router) (ends : m'.ends = m.ends) : Still m m' :=
  ⟨registry, router, fun c x hx => ⟨x, by rw [ends, hx], .refl _ x⟩⟩

theorem Still.refl (m : Member α) : Still m m := .of_ends_eq rfl rfl rfl

theorem Still.trans (h : Still m m') (h' : Still m' m'') : Still m m'' := by
  refine ⟨h'.registry.trans h.registry, h'.router.trans h.router, fun c x hx => ?_⟩
  obtain ⟨x', hx', hfed⟩ := h.ends c x hx
  obtain ⟨x'', hx'', hfed'⟩ := h'.ends c x' hx'
  exact ⟨x'', hx'', hfed.trans hfed'⟩

theorem still_setLifecycle (m : Member α) (i : Nat) (s : Lifecycle.State) :
    Still m (m.setLifecycle i s) := .of_ends_eq rfl rfl rfl

theorem still_rest (m : Member α) (i now : Nat) : Still m (m.rest i now) :=
  still_setLifecycle m i _

theorem still_close (m : Member α) (c : ConnectionId) : Still m (m.close c) := by
  unfold close
  split
  · rename_i o ho
    refine ⟨rfl, rfl, fun d x hx => ?_⟩
    rw [getElem?_ends_setOutlet]
    split
    · rename_i hd
      subst hd
      have hout : x.connection.outlet = o := by simpa [outlet?, hx] using ho
      rw [hx]
      exact ⟨_, rfl, o.close, hout ▸ o.fed_close False, rfl⟩
    · exact ⟨x, hx, .refl _ x⟩
  · exact .refl m

theorem still_beginLifecycles (m : Member α) (ps : List Peer) :
    Still m (ps.foldl beginLifecycle m) := by
  induction ps generalizing m with
  | nil => exact .refl m
  | cons p rest ih =>
    have hfirst : Still m (m.beginLifecycle p) := .of_ends_eq rfl rfl rfl
    exact hfirst.trans (ih _)

theorem still_start (m : Member α) (hasListener : Bool) (now : Nat) :
    Still m (m.start hasListener now).2.2 := by
  have htable : Still m (m.withTable (m.table.start hasListener).table) :=
    .of_ends_eq rfl rfl rfl
  unfold start
  dsimp only
  split
  · exact htable
  · exact (htable.trans (still_beginLifecycles _ _)).trans (.of_ends_eq rfl rfl rfl)

theorem still_dialed (m : Member α) (i now : Nat) (answer : Except LinkError (Option Address)) :
    Still m (m.dialed i now answer).1 := by
  cases answer with
  | error e => exact still_setLifecycle m i _
  | ok peer =>
    have hd := dials_dialed m i now peer
    obtain ⟨queue, -, hends⟩ := hd.ends
    refine ⟨by rw [hd.core], ?_, fun c x hx => ⟨x, ?_, .refl _ x⟩⟩
    · unfold dialed
      dsimp only
      split
      · rfl
      · exact (still_close _ _).router
    · rw [hends]
      exact getElem?_ends_append_of_some hx

theorem still_proceed (m : Member α) (i now : Nat) : Still m (m.proceed i now).1 := by
  unfold proceed giveUp
  split
  · exact .refl m
  · split
    · split
      · exact .refl m
      · exact .refl m
      · exact still_setLifecycle m i _
      · exact .of_ends_eq rfl rfl rfl
      · split
        · exact still_rest m i now
        · split
          · split
            · exact .of_ends_eq rfl rfl rfl
            · exact (still_close m _).trans (still_rest _ i now)
          · exact (still_close m _).trans (still_rest _ i now)
    · exact .refl m

end

theorem still_act (m : Member α) {a : Action α} (ha : a.IsSilent) : Still m (m.act a) := by
  cases a with
  | registerMessage | send | route | event => exact ha.elim
  | registerActor t =>
    simp only [act, registerActor]
    split <;> exact .of_ends_eq rfl rfl rfl
  | start hasListener now => exact still_start m hasListener now
  | lookAgain now =>
    simp only [act, proceedStartup]
    split
    · split <;> exact .of_ends_eq rfl rfl rfl
    · exact .refl m
  | dialing i =>
    simp only [act]
    split
    · exact still_setLifecycle m i _
    · exact .refl m
  | dialed i now answer =>
    simp only [act]
    split
    · exact still_dialed m i now answer
    · exact .refl m
  | proceed i now => exact still_proceed m i now
  | overlook i now =>
    simp only [act]
    split
    · split
      · exact still_rest m i now
      · exact .refl m
    · exact .refl m
  | accept peer =>
    exact ⟨rfl, rfl, fun c x hx => ⟨x, getElem?_ends_append_of_some hx, .refl _ x⟩⟩
  | close c => exact still_close m c

/-! ### Routing -/

theorem registry_perform (m : Member α) (em : Emission α) :
    (Router.perform carrier m em).2.2.core.registry = m.core.registry ∧
      (Router.perform carrier m em).2.2.router = m.router := by
  cases em with
  | deliver e => exact ⟨rfl, rfl⟩
  | remit s e =>
    simp only [Router.perform, carrier]
    split
    · rename_i hsend
      obtain ⟨p, pk, c, o, o', -, -, -, -, -, rfl⟩ := send_eq_ok_iff.1 hsend
      exact ⟨rfl, rfl⟩
    · exact ⟨rfl, rfl⟩

theorem registry_performed (m : Member α) (es : List (Emission α)) :
    (Router.performed carrier m es).core.registry = m.core.registry ∧
      (Router.performed carrier m es).router = m.router := by
  induction es generalizing m with
  | nil => exact ⟨rfl, rfl⟩
  | cons em rest ih =>
    obtain ⟨hregistry, hrouter⟩ := registry_perform m em
    obtain ⟨hregistry', hrouter'⟩ := ih (Router.perform carrier m em).2.2
    exact ⟨hregistry'.trans hregistry, hrouter'.trans hrouter⟩

section

variable {s : SystemId} {c : ConnectionId} {x : LinkEnd}

/-- A piece that is handed to a member with success is queued on the connection of the link to it,
and no other piece is. -/
theorem ends_perform (hlink : m.linkConnection? s = some c)
    (sole : ∀ s', m.linkConnection? s' = some c → s' = s) (hx : m.ends[c.value]? = some x)
    (em : Emission α) :
    ∃ fs : List Frame, (Router.handedTo s [(em, (Router.perform carrier m em).1)]).map
        (Envelope.frame? m.core.registry) = fs.map some ∧
      (∀ f ∈ fs, f.Fits x.connection.outlet.limit) ∧
      (Router.perform carrier m em).2.2.ends[c.value]? = some (x.push fs) := by
  cases em with
  | deliver e => exact ⟨[], rfl, by simp, by rw [LinkEnd.push_nil]; exact hx⟩
  | remit s' e =>
    simp only [Router.perform, carrier]
    cases hsend : m.send s' e with
    | error fault => exact ⟨[], rfl, by simp, by rw [LinkEnd.push_nil]; exact hx⟩
    | ok m' =>
      obtain ⟨p, pk, c', o, o', rfl, hpk, hlink', ho, hqueued, rfl⟩ := send_eq_ok_iff.1 hsend
      obtain ⟨bytes, hbytes, -, rfl⟩ := Outlet.send_eq_ok_iff.1 hqueued
      by_cases hs : s' = s
      · subst hs
        cases hlink.symm.trans hlink'
        have hout : x.connection.outlet = o := by simpa [outlet?, hx] using ho
        obtain ⟨-, -, rfl⟩ := Frame.encode_eq_ok_iff.1 hbytes
        refine ⟨[⟨(PackageKind.parcel pk.kind).byte, pk.write⟩], ?_, ?_, ?_⟩
        · simp [Router.handedTo, Envelope.frame?, hpk, Except.toOption]
        · intro f hf
          rw [List.mem_singleton.1 hf, hout]
          exact hbytes
        · rw [getElem?_ends_setOutlet, if_pos rfl, hx, ← hout]
          rfl
      · -- another link has another connection
        refine ⟨[], by simp [Router.handedTo, hs], by simp, ?_⟩
        have hne : c ≠ c' := fun heq => hs (sole s' (heq ▸ hlink'))
        rw [getElem?_ends_setOutlet, if_neg hne, hx, LinkEnd.push_nil]

/-- Pieces that are handed to a member are queued one after another. -/
theorem ends_performed (hlink : m.linkConnection? s = some c)
    (sole : ∀ s', m.linkConnection? s' = some c → s' = s) (hx : m.ends[c.value]? = some x)
    (es : List (Emission α)) :
    ∃ fs : List Frame, (Router.handedTo s (Router.attemptAll carrier m es)).map
        (Envelope.frame? m.core.registry) = fs.map some ∧
      (∀ f ∈ fs, f.Fits x.connection.outlet.limit) ∧
      (Router.performed carrier m es).ends[c.value]? = some (x.push fs) := by
  induction es generalizing m x with
  | nil => exact ⟨[], rfl, by simp, by rw [LinkEnd.push_nil]; exact hx⟩
  | cons em rest ih =>
    obtain ⟨fs, hframes, hfits, hends⟩ := ends_perform hlink sole hx em
    have hquiet := quiet_perform m em
    have hsame := linkConnection?_congr hquiet.peers hquiet.sessions
    obtain ⟨gs, hframes', hfits', hends'⟩ := ih ((hsame s).trans hlink)
      (fun s' hs' => sole s' ((hsame s').symm.trans hs')) hends
    refine ⟨fs ++ gs, ?_, fun f hf => ?_, ?_⟩
    · rw [(registry_perform m em).1] at hframes'
      have happend : Router.handedTo s (Router.attemptAll carrier m (em :: rest)) =
          Router.handedTo s [(em, (Router.perform carrier m em).1)] ++
            Router.handedTo s
              (Router.attemptAll carrier (Router.perform carrier m em).2.2 rest) := by
        rw [Router.attemptAll, Router.handedTo, ← List.singleton_append, List.filterMap_append]
        rfl
      rw [happend, List.map_append, List.map_append, hframes, hframes']
    · exact (List.mem_append.1 hf).elim (hfits f) (hfits' f)
    · rw [LinkEnd.push_push] at hends'
      exact hends'

/-- What routing an envelope queues on the connection of a link. -/
theorem ends_route (hlink : m.linkConnection? s = some c)
    (sole : ∀ s', m.linkConnection? s' = some c → s' = s) (hx : m.ends[c.value]? = some x)
    (e : Envelope α) :
    ∃ fs : List Frame, (Router.handedTo s (m.router.attempts carrier m e)).map
        (Envelope.frame? m.core.registry) = fs.map some ∧
      (∀ f ∈ fs, f.Fits x.connection.outlet.limit) ∧
      (m.route e).2.2.ends[c.value]? = some (x.push fs) := by
  obtain ⟨es, hstate, hattempts⟩ := m.router.exists_performed carrier m e
  obtain ⟨fs, hframes, hfits, hends⟩ := ends_performed hlink sole hx es
  refine ⟨fs, hattempts ▸ hframes, hfits, ?_⟩
  simp only [route, hstate]
  exact hends

end

/-! ### What stays as it is -/

/-- No frame changes what is registered. -/
theorem registry_frame (core : Core α) (r : Role) (o : Outlet) (f : Frame) :
    (Role.handler.frame (core, r) o f).state.1.registry = core.registry := by
  have hdeliver : ∀ kind, (core.deliverInbound kind f.payload).1.registry = core.registry := by
    intro kind
    unfold Core.deliverInbound
    dsimp only
    split <;> rfl
  cases r with
  | inbound k =>
    simp only [Role.handler, Inbound.frame]
    split
    · rfl
    · rw [Inbound.table_register]
    · rfl
    · split
      · exact hdeliver _
      · rfl
  | outbound d =>
    simp only [Role.handler, Outbound.frame]
    split
    · rfl
    · rfl
    · rfl
    · exact hdeliver _

/-- Messages are written and read as before, unless a type is registered. -/
theorem registry_act (m : Member α) {a : Action α} (ha : ∀ i t, a ≠ .registerMessage i t) :
    (m.act a).core.registry = m.core.registry := by
  cases a with
  | registerMessage i t => exact absurd rfl (ha i t)
  | send target e =>
    simp only [act]
    cases h : m.send target e with
    | error fault => rfl
    | ok m' =>
      obtain ⟨p, pk, c, o, o', -, -, -, -, -, rfl⟩ := send_eq_ok_iff.1 h
      rfl
  | route e =>
    obtain ⟨es, hstate, -⟩ := m.router.exists_performed carrier m e
    simp only [act, route, hstate]
    exact (registry_performed m es).1
  | event c e =>
    cases hx : m.ends[c.value]? with
    | none => rw [act, happen_of_none hx]
    | some x =>
      rw [act, core_happen hx]
      refine Connection.step_keeps (P := fun s : Core α × Role =>
        s.1.registry = m.core.registry) (fun _ _ h => h) ?_ ?_ rfl x.connection e
      · rintro ⟨core, r⟩ o f h
        exact (registry_frame core r o f).trans h
      · rintro ⟨core, r⟩ o h
        cases r <;> exact h
  | _ =>
    refine (still_act m ?_).registry
    trivial

/-- Only routing changes what the router knows. -/
theorem router_act (m : Member α) {a : Action α} (ha : ∀ e, a ≠ .route e) :
    (m.act a).router = m.router := by
  cases a with
  | registerMessage i t => rfl
  | send target e =>
    simp only [act]
    cases h : m.send target e with
    | error fault => rfl
    | ok m' =>
      obtain ⟨p, pk, c, o, o', -, -, -, -, -, rfl⟩ := send_eq_ok_iff.1 h
      rfl
  | route e => exact absurd rfl (ha e)
  | event c e =>
    simp only [act, happen]
    split <;> rfl
  | _ =>
    refine (still_act m ?_).router
    trivial

/-- What a router knows stays right, whatever its member does. -/
theorem sound_router_act {localId : SystemId} {placement : Placement}
    (h : m.router.Sound localId placement) (hid : localId.isNone = false) (a : Action α) :
    (m.act a).router.Sound localId placement := by
  by_cases ha : ∃ e, a = .route e
  · obtain ⟨e, rfl⟩ := ha
    exact h.route hid carrier m e
  · rw [router_act m fun e heq => ha ⟨e, heq⟩]
    exact h

end Member

end ActorMesh
