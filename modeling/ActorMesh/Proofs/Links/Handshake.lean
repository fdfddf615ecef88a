import ActorMesh.Proofs.Connections.Reassembly
import ActorMesh.Proofs.Members.Connections

/-!
# Registering on a connection

A member that dials another one writes a single frame, its request, and waits. The other one answers
with a single frame, and if it refuses it stops. How far this has come is a matter of both ends and
of what is in flight between them (`Handshake`): as long as nothing has come of the request, neither
end has anything else to write, and an answer that is on its way is a refusal unless the session is
bound. So the dialing end has a success in its hands only if the session was bound, and then it
stays bound until the connection has ended.

What may happen is told by one lemma for each way in which an end changes: packages and closings are
queued on it (`Handshake.fed`), or it takes an event (`Handshake.dialer_step`,
`Handshake.listener_step`). A connection whose session is not bound comes to nothing: all that can
still arrive at the end that dialed is an answer (`Handshake.Barren`).
-/

namespace ActorMesh

/-! ### A single frame on its way -/

/-- What has arrived and what is still to be written is the front of one frame, of which the rest
got lost. -/
def Frame.Along (f : Frame) (arrived : Octets) (pieces : List Octets) : Prop :=
  pieces.length ≤ 1 ∧ arrived ++ pieces.flatten <+: f.write

namespace Frame

variable {f : Frame} {bs : Octets}

theorem along_nil (f : Frame) : f.Along [] [] := ⟨Nat.zero_le 1, List.nil_prefix⟩

/-- A frame goes from the one who writes it into the stream. -/
theorem Along.calm {c c' : Connection} {e : Connection.Event} (h : f.Along bs c.pieces)
    (hcalm : Connection.Calm c e c') : f.Along (bs ++ c.emitted e) c'.pieces := by
  obtain ⟨hlen, hp⟩ := h
  rcases hcalm.written with ⟨hwritten, hlen'⟩ | ⟨hnone, hlost⟩
  · refine ⟨Nat.le_trans hlen' hlen, ?_⟩
    rwa [List.append_assoc, hwritten]
  · -- the piece that got lost was the only one
    have hpieces : c'.pieces = [] := by
      rcases hlost with h | ⟨p, h⟩
      · exact h
      · rw [h, List.length_cons] at hlen
        exact List.eq_nil_of_length_eq_zero (by omega)
    rw [hnone, hpieces, List.append_nil]
    refine ⟨Nat.zero_le 1, ?_⟩
    rw [List.flatten_nil, List.append_nil]
    exact (List.prefix_append _ _).trans hp

end Frame

/-- A connection that reads some of a single frame waits for the rest of it, or rejects it, or
handles it once it is complete. -/
theorem Connection.step_received_prefix {σ : Type} (h : Handler σ) (s : σ) (o : Outlet) {f : Frame}
    (hcap : f.payload.length < Octets.capacity Frame.lengthWidth) {buffer bytes : Octets}
    (hp : buffer ++ bytes <+: f.write) :
    let r := h.frame s o f
    let after := step h s ⟨o, .serving .idle, buffer⟩ (.received bytes)
    after.state = s ∧ (after.connection = ⟨o, .serving .idle, buffer ++ bytes⟩ ∨
        ∃ rest, after.connection = ⟨o.refuse, .draining .idle, rest⟩) ∨
      buffer ++ bytes = f.write ∧ after.state = r.state ∧
        (after.connection = ⟨r.outlet, .serving .idle, []⟩ ∧ r.fault = none ∨
          ∃ rest, after.connection = ⟨r.outlet.refuse, .draining .idle, rest⟩) := by
  have hread := step_received h s o buffer bytes
  rcases @Frame.split_of_prefix o.limit f hcap _ hp with ⟨hframes, hrest⟩ | ⟨hbs, hsplit⟩
  · simp only [hframes, hrest, Handler.hand] at hread
    exact .inl ⟨hread.1, hread.2.imp_left fun hc => hc.1⟩
  · cases hf : (h.frame s o f).fault with
    | some e =>
      simp only [hsplit, Handler.hand_cons_of_fault hf, hf] at hread
      exact .inr ⟨hbs, hread.1, .inr (hread.2.resolve_left fun hc => by cases hc.2.1)⟩
    | none =>
      simp only [hsplit, Handler.hand_cons_of_ok hf, Handler.hand] at hread
      exact .inr ⟨hbs, hread.1, hread.2.imp_left fun hc => ⟨hc.1, hf⟩⟩

/-! ### What is queued without a link -/

namespace LinkEnd

variable {linked : Prop} {x x' : LinkEnd}

/-- Whatever is queued, only the queue changes. -/
theorem Fed.same (h : x.Fed linked x') :
    x'.role = x.role ∧ x'.connection.phase = x.connection.phase ∧
      x'.connection.buffer = x.connection.buffer := by
  obtain ⟨o, -, rfl⟩ := h
  exact ⟨rfl, rfl, rfl⟩

/-- Without a link nothing is queued that is written. -/
theorem Fed.pieces_eq (h : x.Fed linked x') (hl : ¬ linked) :
    x'.connection.pieces = x.connection.pieces := by
  obtain ⟨o, ⟨more, rfl, -, hmore⟩, rfl⟩ := h
  have hnone : Connection.frames more = [] := by
    refine List.filterMap_eq_nil_iff.2 fun y hy => ?_
    rcases hmore y hy with rfl | ⟨hlinked, -⟩
    · rfl
    · exact absurd hlinked hl
  simp only [Connection.pieces, Connection.frames_append, hnone, List.append_nil]

end LinkEnd

/-! ### The two frames -/

namespace Registration

theorem length_request (s : SystemId) :
    (request s).payload.length < Octets.capacity Frame.lengthWidth := by
  rw [show (request s).payload.length = 4 from Octets.length_le _ _]
  decide

theorem length_response (code : ErrorCode) :
    (response code).payload.length < Octets.capacity Frame.lengthWidth := by
  rw [show (response code).payload.length = 4 from Octets.length_le _ _]
  decide

variable {α : Type} [Vocabulary α]

/-- The first answer is kept. -/
theorem frame_response (core : Core α) (d : Dialed) (o : Outlet) (code : ErrorCode) :
    Role.handler.frame (core, .outbound d) o (response code) =
      ⟨(core, .outbound { d with answer := d.answer <|> some code }), o, [], none⟩ := by
  have hdecode : ErrorCode.layout.decode (response code).payload = .ok code :=
    (Layout.decode_eq_ok_iff ErrorCode.layout_lawful).2 ⟨trivial, List.prefix_refl _⟩
  have hkind : PackageKind.ofByte? (response code).mark = some .registerResponse :=
    PackageKind.ofByte?_byte .registerResponse
  simp only [Role.handler, Outbound.frame, hkind, Outbound.answerCode, hdecode]

/-- A request delivers nothing. -/
theorem delivered_request (core : Core α) (k : Ticket) (o : Outlet) (s : SystemId) :
    (Role.handler.frame (core, .inbound k) o (request s)).state.1.delivered = core.delivered := by
  have hkind : PackageKind.ofByte? (request s).mark = some .registerRequest :=
    PackageKind.ofByte?_byte .registerRequest
  simp only [Role.handler, Inbound.frame_of_request hkind, Inbound.table_register]
  rfl

/-- A request binds the session, or nothing changes but that it is refused and the answer, if any,
is queued. -/
theorem frame_request {core : Core α} {k : Ticket} {c : ConnectionId}
    (hc : core.table.connection? k = some c) (o : Outlet) (s : SystemId) :
    let r := Role.handler.frame (core, .inbound k) o (request s)
    r.state.1.table.sessions.binding? k = some s ∨
      r.state.1.table = core.table ∧ r.fault ≠ none ∧
        (Connection.frames r.outlet.queue = Connection.frames o.queue ∨
          ∃ code, code ≠ .success ∧ Connection.frames r.outlet.queue =
            Connection.frames o.queue ++ [(response code).write]) := by
  have hkind : PackageKind.ofByte? (request s).mark = some .registerRequest :=
    PackageKind.ofByte?_byte .registerRequest
  have hdecode : SystemId.layout.decode (request s).payload = .ok s :=
    (Layout.decode_eq_ok_iff SystemId.layout_lawful).2 ⟨trivial, List.prefix_refl _⟩
  simp only [Role.handler, Inbound.frame_of_request hkind, Inbound.table_register]
  by_cases h : ∃ s', core.table.Admits k (request s).payload s'
  · obtain ⟨s', hs'⟩ := h
    obtain rfl : s' = s := by
      obtain ⟨hs', -⟩ := hs'
      cases hs'.symm.trans hdecode
      rfl
    obtain ⟨t', hbind, hadm⟩ := LinkTable.admission_of_admits hs'
    obtain ⟨-, -, -, rfl⟩ := LinkTable.bindSession_eq_ok_iff.1 hbind
    left
    rw [hadm, Sessions.binding?_bind s' (LinkTable.lt_of_connection? hc), if_pos rfl]
  · obtain ⟨hcode, hsame⟩ := LinkTable.admission_of_not_admits fun s' hs' => h ⟨s', hs'⟩
    refine .inr ⟨hsame, ?_⟩
    unfold Inbound.register
    dsimp only
    generalize (Inbound.admission core.table k (request s).payload).1 = code at hcode
    cases hsend : o.send (response code) with
    | error e => exact ⟨by simp, .inl rfl⟩
    | ok o' =>
      obtain ⟨bytes, hbytes, -, rfl⟩ := Outlet.send_eq_ok_iff.1 hsend
      obtain ⟨-, -, rfl⟩ := Frame.encode_eq_ok_iff.1 hbytes
      have hrefused : code.isSuccess = false := by simpa [ErrorCode.isSuccess] using hcode
      simp only [hrefused, Bool.false_eq_true, if_false]
      exact ⟨by simp, .inr ⟨code, hcode, by simp⟩⟩

end Registration

/-! ### How far a registration has come -/

/-- How far the registration of a member `s` has come on a connection, from the end `x` that it
dialed to the end `y` with the session `k` at a member with the links `t`. What is in flight `forth`
comes from `x`, and `back` from `y`. -/
inductive Handshake (s : SystemId) (k : Ticket) (x y : LinkEnd) (t : LinkTable)
    (forth back : Octets) : Prop
  /-- Nothing has come of the request yet. -/
  | waiting (free : t.sessions.binding? k = none) (unanswered : x.role.answer? = none)
      (live : y.connection.IsLive)
      (request : (Registration.request s).Along (y.connection.buffer ++ forth) x.connection.pieces)
      (silent : back = [] ∧ y.connection.pieces = [])
      (empty : x.connection.IsLive → x.connection.buffer = [])
  /-- The session is bound. -/
  | admitted (bound : t.sessions.binding? k = some s)
  /-- The connection does not serve any more, and an answer on its way is a refusal. -/
  | refused (free : t.sessions.binding? k = none) (deaf : ¬ y.connection.IsLive)
      (answer : x.role.answer? ≠ some .success)
      (refusal : x.connection.IsLive → x.role.answer? = none → ∃ code, code ≠ .success ∧
        (Registration.response code).Along (x.connection.buffer ++ back) y.connection.pieces)
  /-- The connection has ended. -/
  | finished (ended : y.connection.phase = .ended)

namespace Handshake

variable {s : SystemId} {k : Ticket} {x x' y y' : LinkEnd} {t t' : LinkTable}
  {forth back : Octets}

/-- A connection that was just made. -/
theorem dialed {o : Outlet} (hqueue : o.queue = [.frame (Registration.request s).write] ∨
      o.queue = [.close]) (hx : x = ⟨.outbound default, ⟨o, .made, []⟩⟩)
    (hy : y.connection.phase = .made ∧ y.connection.outlet.queue = [] ∧ y.connection.buffer = [])
    (free : t.sessions.binding? k = none) : Handshake s k x y t [] [] := by
  subst hx
  obtain ⟨hphase, hnone, hbuffer⟩ := hy
  refine .waiting free rfl (by rw [Connection.IsLive, hphase]; trivial) ?_ ⟨rfl, ?_⟩ fun _ => rfl
  · rw [hbuffer]
    rcases hqueue with h | h <;> simp [Frame.Along, Connection.pieces, h]
  · simp [Connection.pieces, hphase, hnone]

/-- Packages that a member queues on the connections of its links make no difference. -/
theorem fed {linked linked' : Prop} (h : Handshake s k x y t forth back) (hx : x.Fed linked x')
    (hlinked : linked → x.role.answer? = some .success) (hy : y.Fed linked' y')
    (hlinked' : linked' → t.sessions.binding? k ≠ none)
    (hbinding : t'.sessions.binding? k = t.sessions.binding? k) :
    Handshake s k x' y' t' forth back := by
  obtain ⟨hrole, hphase, hbuffer⟩ := hx.same
  obtain ⟨-, hphase', hbuffer'⟩ := hy.same
  have hlive : x'.connection.IsLive ↔ x.connection.IsLive := by
    simp only [Connection.IsLive, hphase]
  have hlive' : y'.connection.IsLive ↔ y.connection.IsLive := by
    simp only [Connection.IsLive, hphase']
  cases h with
  | waiting free unanswered live request silent empty =>
    have hpieces := hx.pieces_eq fun hl => by simp [hlinked hl] at unanswered
    have hpieces' := hy.pieces_eq fun hl => hlinked' hl free
    exact .waiting (hbinding.trans free) (by rw [hrole, unanswered]) (hlive'.2 live)
      (by rwa [hpieces, hbuffer']) (by rwa [hpieces'])
      fun hl => hbuffer.trans (empty (hlive.1 hl))
  | admitted bound => exact .admitted (hbinding.trans bound)
  | refused free deaf answer refusal =>
    have hpieces' := hy.pieces_eq fun hl => hlinked' hl free
    refine .refused (hbinding.trans free) (fun hl => deaf (hlive'.1 hl)) (by rwa [hrole])
      fun hl hnone => ?_
    rw [hbuffer, hpieces']
    exact refusal (hlive.1 hl) (hrole ▸ hnone)
  | finished ended => exact .finished (hphase'.trans ended)

/-- What is in flight is read from its front. -/
theorem append_drop_heard {buffer bytes stream : Octets} (h : bytes <+: stream) :
    buffer ++ bytes ++ stream.drop bytes.length = buffer ++ stream := by
  obtain ⟨later, rfl⟩ := h
  rw [List.drop_left, List.append_assoc]

/-- What a connection reads of a frame on its way is the front of it. -/
theorem prefix_of_along {f : Frame} {buffer bytes stream : Octets} {pieces : List Octets}
    (h : f.Along (buffer ++ stream) pieces) (hp : bytes <+: stream) :
    buffer ++ bytes <+: f.write := by
  obtain ⟨later, rfl⟩ := hp
  refine List.IsPrefix.trans ⟨later ++ pieces.flatten, ?_⟩ h.2
  simp only [List.append_assoc]

variable {α : Type} [Vocabulary α] {core : Core α} {e : Connection.Event}

/-- What the end that dialed reads, of an answer at most. -/
theorem dialer_read {bytes : Octets} (h : Handshake s k x y t forth back)
    (hx : x.role.session? = none) (hphase : x.connection.phase = .serving .idle)
    (hread : bytes <+: back) :
    let r := x.step core (.received bytes)
    Handshake s k ⟨r.state.2, r.connection⟩ y t forth (back.drop bytes.length) := by
  obtain ⟨role, o, phase, buffer⟩ := x
  obtain rfl : phase = .serving .idle := hphase
  obtain ⟨⟨answer, gone⟩, rfl⟩ := Role.eq_outbound_of_session? hx
  simp only [LinkEnd.step]
  cases h with
  | waiting free unanswered live request silent empty =>
    -- nothing is in flight and nothing has arrived, so nothing is read
    obtain rfl : back = [] := silent.1
    obtain rfl : bytes = [] := List.prefix_nil.1 hread
    obtain rfl : buffer = [] := empty trivial
    have hnil : ([] : Octets) ++ [] <+: (Registration.request s).write := List.nil_prefix
    rcases Connection.step_received_prefix Role.handler (core, .outbound ⟨answer, gone⟩) o
      (Registration.length_request s) hnil with ⟨hstate, hafter⟩ | ⟨hwhole, -⟩
    · rw [hstate]
      rcases hafter with hafter | ⟨rest, hafter⟩ <;> rw [hafter]
      · exact .waiting free unanswered live request silent fun _ => rfl
      · exact .waiting free unanswered live request silent fun hl => hl.elim
    · exact absurd hwhole.symm (Frame.write_ne_nil _)
  | admitted bound => exact .admitted bound
  | refused free deaf hanswer refusal =>
    cases answer with
    | some code =>
      have hkept := (@Role.serves_step α _ (.outbound ⟨some code, gone⟩) core
        (fun k hk => by cases hk) ⟨o, .serving .idle, buffer⟩ (.received bytes)).2.2 code rfl
      refine .refused free deaf ?_ fun _ hnone => ?_
      · rw [hkept]
        exact hanswer
      · rw [hkept] at hnone
        cases hnone
    | none =>
      obtain ⟨code, hcode, halong⟩ := refusal trivial rfl
      rcases Connection.step_received_prefix Role.handler (core, .outbound ⟨none, gone⟩) o
        (Registration.length_response code) (prefix_of_along halong hread) with
        ⟨hstate, hafter⟩ | ⟨-, hstate, -⟩
      · rw [hstate]
        refine .refused free deaf hanswer fun hlive _ => ⟨code, hcode, ?_⟩
        rcases hafter with hafter | ⟨rest, hafter⟩
        · rw [hafter, append_drop_heard hread]
          exact halong
        · rw [hafter] at hlive
          exact hlive.elim
      · rw [hstate, Registration.frame_response]
        exact .refused free deaf (fun h => hcode (Option.some.inj h)) fun _ hnone => by cases hnone
  | finished ended => exact .finished ended

/-- What an event makes of the registration at the end that dialed. -/
theorem dialer_step (h : Handshake s k x y t forth back) (hx : x.role.session? = none)
    (hread : x.connection.heard e <+: back) :
    let r := x.step core e
    Handshake s k ⟨r.state.2, r.connection⟩ y t (forth ++ x.connection.emitted e)
      (back.drop (x.connection.heard e).length) := by
  by_cases he : ∃ bytes, x.connection.phase = .serving .idle ∧ e = .received bytes
  · obtain ⟨bytes, hphase, rfl⟩ := he
    rw [Connection.heard_received hphase] at hread ⊢
    rw [Connection.emitted_received, List.append_nil]
    exact h.dialer_read hx hphase hread
  · have he' := fun bytes hbytes => he ⟨bytes, hbytes⟩
    have hcalm := Connection.step_calm (h := Role.handler) (fun _ _ => rfl) (core, x.role) he'
    obtain ⟨hanswer, -⟩ := LinkEnd.step_state_calm core he'
    rw [Connection.heard_eq_nil he', List.length_nil, List.drop_zero]
    cases h with
    | waiting free unanswered live request silent empty =>
      refine .waiting free (hanswer.trans unanswered) live ?_ silent fun hlive => ?_
      · rw [← List.append_assoc]
        exact request.calm hcalm
      · exact hcalm.buffer.trans (empty (hcalm.live hlive).1)
    | admitted bound => exact .admitted bound
    | refused free deaf hrefused refusal =>
      refine .refused free deaf (hanswer ▸ hrefused) fun hlive hnone => ?_
      obtain ⟨code, hcode, halong⟩ := refusal (hcalm.live hlive).1 (hanswer ▸ hnone)
      exact ⟨code, hcode, hcalm.buffer ▸ halong⟩
    | finished ended => exact .finished ended

/-- What the end that was dialed reads, of the request at most unless the session is bound. -/
theorem listener_read {bytes : Octets} {c : ConnectionId}
    (h : Handshake s k x y core.table forth back) (hy : y.role = .inbound k)
    (hc : core.table.connection? k = some c) (hphase : y.connection.phase = .serving .idle)
    (hread : bytes <+: forth) :
    let r := y.step core (.received bytes)
    Handshake s k x ⟨r.state.2, r.connection⟩ r.state.1.table (forth.drop bytes.length) back := by
  obtain ⟨role, o, phase, buffer⟩ := y
  obtain rfl : phase = .serving .idle := hphase
  obtain rfl : role = .inbound k := hy
  simp only [LinkEnd.step]
  cases h with
  | waiting free unanswered live request silent empty =>
    have hunaccepted : x.role.answer? ≠ some .success := by
      rw [unanswered]
      simp
    have hqueue : Connection.frames o.queue = [] := silent.2
    have hsilent : x.connection.IsLive → x.connection.buffer ++ back = [] := fun hlive => by
      rw [empty hlive, silent.1, List.append_nil]
    rcases Connection.step_received_prefix Role.handler (core, .inbound k) o
      (Registration.length_request s) (prefix_of_along request hread) with
      ⟨hstate, hafter⟩ | ⟨-, hstate, hafter⟩
    · rw [hstate]
      rcases hafter with hafter | ⟨rest, hafter⟩ <;> rw [hafter]
      · refine .waiting free unanswered trivial ?_ silent empty
        rw [append_drop_heard hread]
        exact request
      · -- the request is longer than a frame may be, and nobody answers it
        refine .refused free id hunaccepted fun hlive _ => ⟨.duplicateRegistration, by decide, ?_⟩
        rw [hsilent hlive]
        simp only [Connection.pieces, Connection.Writing.inHand, Outlet.refuse, hqueue,
          List.append_nil]
        exact Frame.along_nil _
    · rw [hstate]
      rcases Registration.frame_request hc o s with hbound | ⟨hsame, hfault, hanswer⟩
      · exact .admitted hbound
      · -- a refusal stops the connection
        obtain ⟨rest, hafter⟩ := hafter.resolve_left fun hok => hfault hok.2
        rw [hsame, hafter]
        refine .refused free id hunaccepted fun hlive _ => ?_
        rw [hsilent hlive]
        rcases hanswer with hnone | ⟨code, hcode, hone⟩
        · -- no answer fits a frame, so any code will do
          refine ⟨.duplicateRegistration, by decide, ?_⟩
          simp only [Connection.pieces, Connection.Writing.inHand, Outlet.refuse, hnone, hqueue,
            List.append_nil]
          exact Frame.along_nil _
        · refine ⟨code, hcode, ?_⟩
          simp only [Connection.pieces, Connection.Writing.inHand, Outlet.refuse, hone, hqueue,
            List.nil_append]
          exact ⟨Nat.le_refl 1, by simp⟩
  | admitted bound =>
    have hb : core.table.sessions.binding? k ≠ none := bound ▸ Option.some_ne_none s
    have hkept := Role.table_receive_of_bound hb ⟨o, .serving .idle, buffer⟩ bytes
    exact .admitted ((congrArg (·.sessions.binding? k) hkept).trans bound)
  | refused free deaf => exact absurd trivial deaf
  | finished ended => cases ended

/-- What an event makes of the registration at the end that was dialed. -/
theorem listener_step {c : ConnectionId} (h : Handshake s k x y core.table forth back)
    (hy : y.role = .inbound k) (hc : core.table.connection? k = some c)
    (hread : y.connection.heard e <+: forth) :
    let r := y.step core e
    Handshake s k x ⟨r.state.2, r.connection⟩ r.state.1.table
      (forth.drop (y.connection.heard e).length) (back ++ y.connection.emitted e) := by
  by_cases he : ∃ bytes, y.connection.phase = .serving .idle ∧ e = .received bytes
  · obtain ⟨bytes, hphase, rfl⟩ := he
    rw [Connection.heard_received hphase] at hread ⊢
    rw [Connection.emitted_received, List.append_nil]
    exact h.listener_read hy hc hphase hread
  · have he' := fun bytes hbytes => he ⟨bytes, hbytes⟩
    have hcalm := Connection.step_calm (h := Role.handler) (fun _ _ => rfl) (core, y.role) he'
    dsimp only
    obtain ⟨-, hstate | hended⟩ := LinkEnd.step_state_calm core he'
    · rw [hstate, Connection.heard_eq_nil he', List.length_nil, List.drop_zero]
      cases h with
      | waiting free unanswered live request silent empty =>
        obtain ⟨hemitted, hpieces⟩ := hcalm.silent silent.2
        rw [hemitted, List.append_nil]
        by_cases hlive : (y.step core e).connection.IsLive
        · refine .waiting free unanswered hlive ?_ ⟨silent.1, hpieces⟩ empty
          exact hcalm.buffer ▸ request
        · -- it stops before the request has arrived, and says nothing
          refine .refused free hlive (by rw [unanswered]; simp) fun hx _ =>
            ⟨.duplicateRegistration, by decide, ?_⟩
          rw [empty hx, silent.1, show (y.step core e).connection.pieces = [] from hpieces]
          exact Frame.along_nil _
      | admitted bound => exact .admitted bound
      | refused free deaf hanswer refusal =>
        refine .refused free (fun hlive => deaf (hcalm.live hlive).1) hanswer fun hlive hnone => ?_
        obtain ⟨code, hcode, halong⟩ := refusal hlive hnone
        refine ⟨code, hcode, ?_⟩
        rw [← List.append_assoc]
        exact halong.calm hcalm
      | finished ended =>
        refine .finished ?_
        show (y.step core e).connection.phase = _
        rw [LinkEnd.step, hcalm.ended ended, ended]
    · exact .finished hended

/-- What an event other than a read makes of what was delivered. -/
theorem delivered_calm {x : LinkEnd}
    (he : ∀ bytes, ¬ (x.connection.phase = .serving .idle ∧ e = .received bytes)) :
    (x.step core e).state.1.delivered = core.delivered := by
  rcases Connection.step_state_calm (h := Role.handler) (fun _ _ => rfl) (core, x.role) he with
    hstate | ⟨hstate, -⟩
  · rw [LinkEnd.step, hstate]
  · rw [LinkEnd.step, hstate]
    cases x.role <;> rfl

/-- Nothing is delivered from a session that is not bound. -/
theorem delivered_listener (h : Handshake s k x y core.table forth back) (hy : y.role = .inbound k)
    (free : core.table.sessions.binding? k ≠ some s) (hread : y.connection.heard e <+: forth) :
    (y.step core e).state.1.delivered = core.delivered := by
  by_cases he : ∃ bytes, y.connection.phase = .serving .idle ∧ e = .received bytes
  · obtain ⟨bytes, hphase, rfl⟩ := he
    obtain ⟨role, o, phase, buffer⟩ := y
    obtain rfl : phase = .serving .idle := hphase
    obtain rfl : role = .inbound k := hy
    replace hread : bytes <+: forth := hread
    simp only [LinkEnd.step]
    cases h with
    | waiting _ _ _ request _ _ =>
      rcases Connection.step_received_prefix Role.handler (core, .inbound k) o
        (Registration.length_request s) (prefix_of_along request hread) with
        ⟨hstate, -⟩ | ⟨-, hstate, -⟩
      · rw [hstate]
      · rw [hstate, Registration.delivered_request]
    | admitted bound => exact absurd bound free
    | refused _ deaf => exact absurd trivial deaf
    | finished ended => cases ended
  · exact delivered_calm fun bytes hbytes => he ⟨bytes, hbytes⟩

/-! ### Connections that come to nothing -/

/-- Nothing but an answer can still arrive at the end `x` that dialed. -/
def Barren (x y : LinkEnd) (back : Octets) : Prop :=
  x.connection.IsLive → ∃ code,
    (Registration.response code).Along (x.connection.buffer ++ back) y.connection.pieces

namespace Barren

theorem fed {linked : Prop} (h : Barren x y back) (hx : x.Fed linked x')
    (hpieces : y'.connection.pieces = y.connection.pieces) : Barren x' y' back := by
  obtain ⟨-, hphase, hbuffer⟩ := hx.same
  intro hlive
  rw [Connection.IsLive, hphase] at hlive
  obtain ⟨code, halong⟩ := h hlive
  exact ⟨code, by rwa [hbuffer, hpieces]⟩

/-- Nothing that arrives is delivered. -/
theorem dialer_step (h : Barren x y back) (hx : x.role.session? = none)
    (hread : x.connection.heard e <+: back) :
    let r := x.step core e
    r.state.1.delivered = core.delivered ∧
      Barren ⟨r.state.2, r.connection⟩ y (back.drop (x.connection.heard e).length) := by
  by_cases he : ∃ bytes, x.connection.phase = .serving .idle ∧ e = .received bytes
  · obtain ⟨bytes, hphase, rfl⟩ := he
    obtain ⟨role, o, phase, buffer⟩ := x
    obtain rfl : phase = .serving .idle := hphase
    obtain ⟨d, rfl⟩ := Role.eq_outbound_of_session? hx
    obtain ⟨code, halong⟩ := h trivial
    rw [Connection.heard_received rfl] at hread ⊢
    simp only [LinkEnd.step]
    rcases Connection.step_received_prefix Role.handler (core, .outbound d) o
      (Registration.length_response code) (prefix_of_along halong hread) with
      ⟨hstate, hafter⟩ | ⟨hwhole, hstate, hafter⟩
    · rw [hstate]
      refine ⟨rfl, fun hlive => ⟨code, ?_⟩⟩
      rcases hafter with hafter | ⟨rest, hafter⟩
      · rw [hafter, append_drop_heard hread]
        exact halong
      · rw [hafter] at hlive
        exact hlive.elim
    · rw [hstate, Registration.frame_response]
      refine ⟨rfl, fun hlive => ⟨code, halong.1, ?_⟩⟩
      rcases hafter with ⟨hafter, -⟩ | ⟨rest, hafter⟩
      · -- the whole answer was read, so nothing is left of it
        obtain ⟨later, rfl⟩ := hread
        have hall := halong.2
        rw [← hwhole] at hall
        simp only [List.append_assoc] at hall
        rw [List.prefix_append_right_inj] at hall
        have hnone := hall.length_le
        rw [hafter, List.drop_left, List.nil_append]
        simp only [List.length_append] at hnone
        rw [List.eq_nil_of_length_eq_zero (l := later ++ y.connection.pieces.flatten)
          (by rw [List.length_append]; omega)]
        exact List.nil_prefix
      · rw [hafter] at hlive
        exact hlive.elim
  · have he' := fun bytes hbytes => he ⟨bytes, hbytes⟩
    have hcalm := Connection.step_calm (h := Role.handler) (fun _ _ => rfl) (core, x.role) he'
    refine ⟨delivered_calm he', fun hlive => ?_⟩
    obtain ⟨code, halong⟩ := h (hcalm.live hlive).1
    refine ⟨code, ?_⟩
    rw [Connection.heard_eq_nil he', List.length_nil, List.drop_zero]
    exact hcalm.buffer ▸ halong

/-- As long as the session is not bound, the end that was dialed only answers. -/
theorem listener_step {c : ConnectionId} (h : Barren x y back)
    (hshake : Handshake s k x y core.table forth back) (hy : y.role = .inbound k)
    (hc : core.table.connection? k = some c) (hread : y.connection.heard e <+: forth)
    (free : core.table.sessions.binding? k ≠ some s)
    (free' : (y.step core e).state.1.table.sessions.binding? k ≠ some s) :
    let r := y.step core e
    Barren x ⟨r.state.2, r.connection⟩ (back ++ y.connection.emitted e) := by
  intro r hlive
  by_cases he : ∃ bytes, y.connection.phase = .serving .idle ∧ e = .received bytes
  · obtain ⟨bytes, hphase, rfl⟩ := he
    rw [Connection.emitted_received, List.append_nil]
    have hafter := hshake.listener_step hy hc hread
    dsimp only at hafter
    rw [Connection.emitted_received, List.append_nil] at hafter
    cases hshake with
    | waiting _ unanswered _ _ silent empty =>
      -- what the read makes of the registration says what may be on the way back
      cases hafter with
      | waiting _ _ _ _ silent' _ =>
        refine ⟨.success, ?_⟩
        rw [empty hlive, silent.1, silent'.2]
        exact Frame.along_nil _
      | admitted bound => exact absurd bound free'
      | refused _ _ _ refusal =>
        obtain ⟨code, -, halong⟩ := refusal hlive unanswered
        exact ⟨code, halong⟩
      | finished ended =>
        have hpieces : r.connection.pieces = [] := by
          rw [Connection.pieces, show r.connection.phase = .ended from ended]
        refine ⟨.success, ?_⟩
        rw [empty hlive, silent.1, show (y.step core (.received bytes)).connection.pieces = [] from
          hpieces]
        exact Frame.along_nil _
    | admitted bound => exact absurd bound free
    | refused _ deaf =>
      rw [Connection.IsLive, hphase] at deaf
      exact absurd trivial deaf
    | finished ended => cases hphase.symm.trans ended
  · have hcalm := Connection.step_calm (h := Role.handler) (fun _ _ => rfl) (core, y.role)
      fun bytes hbytes => he ⟨bytes, hbytes⟩
    obtain ⟨code, halong⟩ := h hlive
    refine ⟨code, ?_⟩
    rw [← List.append_assoc]
    exact halong.calm hcalm

end Barren

end Handshake

end ActorMesh
