import ActorMesh.Proofs.Connections.Reassembly
import ActorMesh.Proofs.Members.Sending

/-!
# Envelopes on their way

On a link that carries traffic, what has arrived at one end and is not complete, what is in flight
and what the other end still has to write are the frames of some envelopes, one after another
(`LinkEnd.Underway`). Whoever writes moves octets along this row and changes nothing of it
(`Underway.writer_step`), new frames join it at its end (`Underway.push`), and a read takes
envelopes off its front and delivers them, however it cuts the octets (`Underway.reader_step`).
-/

namespace ActorMesh

/-- Whether a connection takes traffic: it is dialed, or its session is bound. -/
def Role.Open (t : LinkTable) (r : Role) : Prop :=
  ∀ k, r.session? = some k → t.sessions.binding? k ≠ none

/-- The connection of a link takes traffic. -/
theorem Member.Sound.open_of_hasLink {α : Type} {m : Member α} {c : ConnectionId} {x : LinkEnd}
    (h : m.Sound) (hx : m.ends[c.value]? = some x) (hlink : m.HasLink c) : x.role.Open m.table :=
  fun _ hk => h.bound_of_hasLink hx (Role.eq_inbound_of_session? hk) hlink

variable {α : Type} [Vocabulary α]

/-! ### Frames of envelopes -/

namespace Role

variable {core : Core α} {r : Role} {o : Outlet} {f : Frame}

/-- A package on a connection that takes traffic is read, and nothing else happens. -/
theorem frame_parcel (hopen : r.Open core.table) {kind : ParcelKind}
    (hf : PackageKind.ofByte? f.mark = some (.parcel kind)) (o : Outlet) :
    handler.frame (core, r) o f =
      ⟨((core.deliverInbound (.parcel kind) f.payload).1, r), o,
        (core.deliverInbound (.parcel kind) f.payload).2, none⟩ := by
  cases r with
  | inbound k =>
    obtain ⟨s, hs⟩ := Option.ne_none_iff_exists'.1 (hopen k rfl)
    simp only [handler, Inbound.frame_of_parcel hf hs]
  | outbound d => simp only [handler, Outbound.frame, hf]

/-- A frame that such a connection does not reject queues nothing. -/
theorem frame_of_ok (hopen : r.Open core.table) (hok : (handler.frame (core, r) o f).fault = none) :
    (handler.frame (core, r) o f).outlet = o ∧
      (handler.frame (core, r) o f).state.2.Open (handler.frame (core, r) o f).state.1.table := by
  cases r with
  | outbound d =>
    refine ⟨?_, fun k hk => by cases hk⟩
    simp only [handler, Outbound.frame]
    split <;> rfl
  | inbound k =>
    have hb := hopen k rfl
    constructor
    · simp only [handler, Inbound.frame] at hok ⊢
      split at hok
      · cases hok
      · -- a second registration is refused
        have hcode := (@LinkTable.admission_of_not_admits core.table k f.payload
          fun s hs => hb hs.2.2.2).1
        unfold Inbound.register at hok
        dsimp only at hok
        split at hok
        · cases hok
        · rw [if_neg (by simpa [ErrorCode.isSuccess] using hcode)] at hok
          cases hok
      · cases hok
      · split <;> rfl
    · intro k' hk'
      cases hk'
      rw [show (handler.frame (core, .inbound k) o f).state.1.table = core.table from
        Inbound.table_frame_of_bound hb o f]
      exact hb

theorem outlet_hand (hopen : r.Open core.table) {fs : List Frame}
    (hok : (handler.hand (core, r) o fs).fault = none) :
    (handler.hand (core, r) o fs).outlet = o := by
  induction fs generalizing core r o with
  | nil => rfl
  | cons f rest ih =>
    cases hf : (handler.frame (core, r) o f).fault with
    | some e =>
      rw [Handler.hand_cons_of_fault hf, hf] at hok
      cases hok
    | none =>
      obtain ⟨hout, hopen'⟩ := frame_of_ok hopen hf
      rw [Handler.hand_cons_of_ok hf] at hok ⊢
      exact (ih hopen' hok).trans hout

/-- The frames of envelopes deliver what is expected of the envelopes, in their order. -/
theorem hand_envelopes {registry : Registry α} {limit : Nat} (faithful : registry.Faithful)
    {es : List (Envelope α)} {fs : List Frame}
    (hframes : es.map (Envelope.frame? registry) = fs.map some) (hfits : ∀ f ∈ fs, f.Fits limit)
    (hregistry : core.registry = registry) (hopen : r.Open core.table) (o : Outlet) :
    let h := handler.hand (core, r) o fs
    h.fault = none ∧ h.outlet = o ∧ h.state.2 = r ∧
      h.state.1.delivered = core.delivered ++ es.map (Envelope.transported registry) := by
  induction fs generalizing es core with
  | nil =>
    obtain rfl := List.map_eq_nil_iff.1 hframes
    exact ⟨rfl, rfl, rfl, (List.append_nil _).symm⟩
  | cons f rest ih =>
    obtain ⟨e, es, rfl, he, hframes⟩ := List.map_eq_cons_iff.1 hframes
    have hlen : f.payload.length < UInt64.size := by
      obtain ⟨-, hcap, -⟩ := Frame.encode_eq_ok_iff.1 (hfits f (List.mem_cons_self ..))
      exact Nat.lt_trans hcap (by decide)
    obtain ⟨kind, hkind, hdecode⟩ := Envelope.decode_of_frame? faithful he hlen
    have hdeliver : (core.deliverInbound (.parcel kind) f.payload).1 =
        core.deliver (e.transported registry) := by
      simp only [Core.deliverInbound, hregistry, hdecode]
    have hframe := frame_parcel hopen hkind o
    rw [hdeliver] at hframe
    obtain ⟨hok, hout, hrole, hdelivered⟩ := @ih (core.deliver (e.transported registry)) es
      hframes (fun g hg => hfits g (List.mem_cons_of_mem _ hg)) hregistry hopen
    have hhand := Handler.hand_cons_of_ok (congrArg Reaction.fault hframe) rest
    simp only [hframe] at hhand
    rw [hhand]
    refine ⟨hok, hout, hrole, hdelivered.trans ?_⟩
    rw [Core.delivered_deliver, List.append_assoc, List.map_cons, List.singleton_append]

end Role

/-! ### Envelopes between two ends -/

namespace LinkEnd

/-- Envelopes on their way from the end `x` of a connection to its end `y`. -/
def Underway (registry : Registry α) (limit : Nat) (x y : LinkEnd) (flying : Octets)
    (es : List (Envelope α)) : Prop :=
  ∃ fs : List Frame, es.map (Envelope.frame? registry) = fs.map some ∧
    (∀ f ∈ fs, f.Fits limit) ∧
    y.connection.buffer ++ flying ++ x.connection.pieces.flatten = Frame.writeAll fs ∧
    Frame.decode limit y.connection.buffer = .ok none

namespace Underway

variable {registry : Registry α} {limit : Nat} {x x' y y' : LinkEnd} {flying : Octets}
  {es : List (Envelope α)}

/-- Where there are no octets there are no envelopes. -/
theorem nil (hx : x.connection.pieces = []) (hy : y.connection.buffer = []) :
    Underway registry limit x y [] [] := by
  refine ⟨[], rfl, by simp, ?_, ?_⟩
  · rw [hx, hy]
    rfl
  · rw [hy]
    rfl

/-- What has arrived waits for more, so if no more comes there was no envelope. -/
theorem eq_nil (h : Underway registry limit x y [] es) (hx : x.connection.pieces = []) :
    es = [] := by
  obtain ⟨fs, hframes, hfits, hrow, hwaits⟩ := h
  rw [hx, List.append_nil, List.flatten_nil, List.append_nil] at hrow
  cases fs with
  | nil => exact List.map_eq_nil_iff.1 hframes
  | cons f rest =>
    have hf : f.encode limit = .ok f.write := hfits f (List.mem_cons_self ..)
    rw [hrow, Frame.writeAll_cons, Frame.decode_encode hf] at hwaits
    cases hwaits

theorem same (h : Underway registry limit x y flying es)
    (hx : x'.connection.pieces = x.connection.pieces)
    (hy : y'.connection.buffer = y.connection.buffer) :
    Underway registry limit x' y' flying es := by
  obtain ⟨fs, hframes, hfits, hrow, hwaits⟩ := h
  exact ⟨fs, hframes, hfits, by rw [hx, hy, hrow], by rw [hy, hwaits]⟩

/-- What is queued goes behind everything else. -/
theorem push (h : Underway registry limit x y flying es) (hlive : x.connection.IsLive)
    {es' : List (Envelope α)} {fs' : List Frame}
    (hframes' : es'.map (Envelope.frame? registry) = fs'.map some)
    (hfits' : ∀ f ∈ fs', f.Fits limit) :
    Underway registry limit (x.push fs') y flying (es ++ es') := by
  obtain ⟨fs, hframes, hfits, hrow, hwaits⟩ := h
  refine ⟨fs ++ fs', by rw [List.map_append, List.map_append, hframes, hframes'],
    fun f hf => (List.mem_append.1 hf).elim (hfits f) (hfits' f), ?_, hwaits⟩
  rw [flatten_pieces_push hlive, ← List.append_assoc, hrow, Frame.writeAll_append]

variable {core : Core α} {e : Connection.Event}

/-- The end that writes brings octets on their way, and while it serves it loses none. -/
theorem writer_step (h : Underway registry limit x y flying es) (hopen : x.role.Open core.table)
    (hlive : (x.step core e).connection.IsLive) :
    Underway registry limit ⟨(x.step core e).state.2, (x.step core e).connection⟩ y
      (flying ++ x.connection.emitted e) es := by
  by_cases he : ∃ bytes, x.connection.phase = .serving .idle ∧ e = .received bytes
  · obtain ⟨bytes, hphase, rfl⟩ := he
    obtain ⟨role, o, phase, buffer⟩ := x
    obtain rfl : phase = .serving .idle := hphase
    -- what this end reads itself makes it queue nothing
    have hread := Connection.step_received Role.handler (core, role) o buffer bytes
    obtain ⟨-, ⟨hafter, hok, -⟩ | ⟨rest, hafter⟩⟩ := hread
    · rw [Connection.emitted_received, List.append_nil]
      refine h.same ?_ rfl
      simp only [LinkEnd.step, hafter, Connection.pieces, Role.outlet_hand hopen hok]
    · rw [LinkEnd.step, hafter] at hlive
      exact hlive.elim
  · have hcalm := Connection.step_calm (h := Role.handler) (fun _ _ => rfl) (core, x.role)
      fun bytes hbytes => he ⟨bytes, hbytes⟩
    obtain ⟨fs, hframes, hfits, hrow, hwaits⟩ := h
    refine ⟨fs, hframes, hfits, ?_, hwaits⟩
    have hwhole : x.connection.emitted e ++ (x.step core e).connection.pieces.flatten =
        x.connection.pieces.flatten := hcalm.whole hlive
    rw [← hrow, ← hwhole]
    simp only [List.append_assoc]

/-- The end that reads delivers the envelopes that are complete. -/
theorem reader_step (h : Underway registry limit x y flying es) (faithful : registry.Faithful)
    (hregistry : core.registry = registry) (hlimit : y.connection.outlet.limit = limit)
    (hopen : y.role.Open core.table) (hread : y.connection.heard e <+: flying)
    (hlive : (y.step core e).connection.IsLive) :
    ∃ first later, es = first ++ later ∧
      (y.step core e).state.1.delivered =
        core.delivered ++ first.map (Envelope.transported registry) ∧
      Underway registry limit x ⟨(y.step core e).state.2, (y.step core e).connection⟩
        (flying.drop (y.connection.heard e).length) later := by
  by_cases he : ∃ bytes, y.connection.phase = .serving .idle ∧ e = .received bytes
  · obtain ⟨bytes, hphase, rfl⟩ := he
    obtain ⟨role, o, phase, buffer⟩ := y
    obtain rfl : phase = .serving .idle := hphase
    obtain rfl : o.limit = limit := hlimit
    obtain ⟨unread, rfl⟩ : bytes <+: flying := hread
    obtain ⟨fs, hframes, hfits, hrow, hwaits⟩ := h
    have hrow' : (buffer ++ bytes) ++ (unread ++ x.connection.pieces.flatten) =
        Frame.writeAll fs := by
      rw [← hrow]
      simp only [List.append_assoc]
    -- the frames that are complete now are the first of the row, and the rest waits
    obtain ⟨first, later, rest, rfl, hsplit, hrest, hwaits'⟩ :=
      Frame.split_of_written_prefix hfits hrow'
    rw [List.map_append] at hframes
    obtain ⟨es₁, es₂, rfl, hframes₁, hframes₂⟩ := List.map_eq_append_iff.1 hframes
    obtain ⟨hok, hout, hrole, hdelivered⟩ := Role.hand_envelopes (r := role) faithful hframes₁
      (fun f hf => hfits f (List.mem_append_left _ hf)) hregistry hopen o
    obtain ⟨hstate, hafter⟩ := Connection.step_received Role.handler (core, role) o buffer bytes
    simp only [hsplit] at hstate hafter
    refine ⟨es₁, es₂, rfl, ?_, ?_⟩
    · rw [LinkEnd.step, hstate, hdelivered]
    · rcases hafter with ⟨hafter, -⟩ | ⟨rest', hafter⟩
      · rw [Connection.heard_received rfl, List.drop_left]
        refine ⟨later, hframes₂, fun f hf => hfits f (List.mem_append_right _ hf), ?_, ?_⟩
        · simp only [LinkEnd.step, hafter, List.append_assoc]
          exact hrest
        · simp only [LinkEnd.step, hafter]
          exact hwaits'
      · rw [LinkEnd.step, hafter] at hlive
        exact hlive.elim
  · have he' := fun bytes hbytes => he ⟨bytes, hbytes⟩
    have hcalm := Connection.step_calm (h := Role.handler) (fun _ _ => rfl) (core, y.role) he'
    -- only the end of the connection would change what its member shares
    have hstate := (LinkEnd.step_state_calm core he').2.resolve_right fun hended => by
      rw [Connection.IsLive, hended] at hlive
      exact hlive
    refine ⟨[], es, rfl, ?_, ?_⟩
    · rw [hstate, List.map_nil, List.append_nil]
    · rw [Connection.heard_eq_nil he', List.length_nil, List.drop_zero]
      exact h.same rfl hcalm.buffer

end Underway

end LinkEnd

end ActorMesh
