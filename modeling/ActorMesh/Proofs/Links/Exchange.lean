import ActorMesh.Proofs.Links.Gate
import ActorMesh.Proofs.Links.Handshake

/-!
# A registration that nothing disturbs

A connection that loses nothing carries a registration to its end. What has arrived of the request,
what is in flight and what is still to be written make up the request, and then the same goes for
the answer (`Frame.Carried`). So there are three stages (`Exchange`): the request is on its way, the
answer is, or it has arrived. In every stage there are four octets to a payload, and both ends have
to take as many (`Connection.Able`).

It cannot go on forever. What an end still has to do (`Connection.burden`) falls by every event that
does anything, and by more than the number of octets that it puts into the stream.
-/

namespace ActorMesh

namespace Connection

/-! ### Events that lose nothing -/

/-- Whether an event is neither a failure nor the end of a stream. -/
def Event.IsLossless : Event → Prop
  | .discarded | .inputEnded | .readFailed | .writeFailed => False
  | _ => True

instance : DecidablePred Event.IsLossless
  | .discarded | .inputEnded | .readFailed | .writeFailed => .isFalse id
  | .started | .received _ | .polled | .wrote _ | .flushed | .shutDown => .isTrue trivial

/-- A connection that serves, or is about to, has not been asked to end, and takes payloads of four
octets. -/
structure Able (c : Connection) : Prop where
  live : c.IsLive
  accepting : c.outlet.accepting = true
  staying : Command.close ∉ c.outlet.queue
  roomy : 4 ≤ c.outlet.limit

/-- Whether a connection has nothing to do, unless something arrives. -/
def AtRest (c : Connection) : Prop :=
  c.phase = .ended ∨ c.phase = .serving .idle ∧ c.outlet.queue = []

instance (c : Connection) : Decidable c.AtRest :=
  inferInstanceAs (Decidable (c.phase = .ended ∨ c.phase = .serving .idle ∧ c.outlet.queue = []))

/-- What some frames take: each is taken up, its octets are written, and it is flushed. An octet
counts twice, as it has to be read at the other end. -/
def cost (queued : List Octets) : Nat := 2 * queued.flatten.length + 3 * queued.length

@[simp] theorem cost_cons (bytes : Octets) (queued : List Octets) :
    cost (bytes :: queued) = 2 * bytes.length + 3 + cost queued := by
  simp only [cost, List.flatten_cons, List.length_append, List.length_cons]
  omega

theorem cost_append (queued more : List Octets) :
    cost (queued ++ more) = cost queued + cost more := by
  simp only [cost, List.flatten_append, List.length_append]
  omega

/-- What is left to do of writing a frame. -/
def Writing.burden : Writing → Nat
  | idle => 0
  | bytes rest => 2 * rest.length + 2
  | flush => 1

/-- What a connection still has to do, unless something arrives. -/
def burden (c : Connection) : Nat :=
  (match c.phase with
    | .made => 1
    | .serving w => w.burden
    | _ => 0) + cost (frames c.outlet.queue)

/-- What an event other than a read makes of a connection that is able. -/
structure Moves (c : Connection) (e : Event) (c' : Connection) : Prop where
  able : c'.Able
  buffer : c'.buffer = c.buffer
  whole : c.emitted e ++ c'.pieces.flatten = c.pieces.flatten
  /-- Either it does nothing, or there is less to do. -/
  less : c' = c ∧ c.emitted e = [] ∨ c'.burden + (c.emitted e).length < c.burden

section

variable {σ : Type} {h : Handler σ} {s : σ} {c : Connection} {e : Event}

/-- An event that loses nothing leaves a connection able, and brings it on if it does anything. -/
theorem Able.step (hc : c.Able) (opened : ∀ s o, h.opened s o = (s, o)) (he : e.IsLossless)
    (hread : ∀ bytes, ¬ (c.phase = .serving .idle ∧ e = .received bytes)) :
    (c.step h s e).state = s ∧ Moves c e (c.step h s e).connection := by
  have hcalm := step_calm opened s hread
  suffices hkey : (c.step h s e).state = s ∧ (c.step h s e).connection.IsLive ∧
      Command.close ∉ (c.step h s e).connection.outlet.queue ∧
      ((c.step h s e).connection = c ∧ c.emitted e = [] ∨
        (c.step h s e).connection.burden + (c.emitted e).length < c.burden) by
    obtain ⟨hstate, hlive, hstaying, hless⟩ := hkey
    refine ⟨hstate, ⟨hlive, ?_, hstaying, ?_⟩, hcalm.buffer, hcalm.whole hlive, hless⟩
    · rw [(hcalm.live hlive).2]
      exact hc.accepting
    · rw [hcalm.limit]
      exact hc.roomy
  obtain ⟨hlive, -, hstaying, -⟩ := hc
  obtain ⟨⟨peer, limit, accepting, queue⟩, phase, buffer⟩ := c
  cases phase with
  | made =>
    cases e with
    | started => simpa [Connection.step, opened, IsLive, burden, Writing.burden, emitted]
    | discarded | inputEnded | readFailed | writeFailed => exact he.elim
    | _ => exact ⟨rfl, hlive, hstaying, .inl ⟨rfl, rfl⟩⟩
  | draining | closing | ended => exact hlive.elim
  | serving w =>
    cases w with
    | idle =>
      cases e with
      | received bytes => exact absurd ⟨rfl, rfl⟩ (hread bytes)
      | polled =>
        rcases queue with _ | ⟨bytes | _, rest⟩
        · exact ⟨rfl, hlive, hstaying, .inl ⟨rfl, rfl⟩⟩
        · refine ⟨rfl, trivial, fun hmem => hstaying (List.mem_cons_of_mem _ hmem), .inr ?_⟩
          simp [Connection.step, poll, burden, Writing.burden, emitted]
        · exact absurd (List.mem_cons_self ..) hstaying
      | discarded | inputEnded | readFailed | writeFailed => exact he.elim
      | _ => exact ⟨rfl, hlive, hstaying, .inl ⟨rfl, rfl⟩⟩
    | bytes rest =>
      cases e with
      | wrote n =>
        refine ⟨rfl, trivial, hstaying, ?_⟩
        by_cases hn : rest.length ≤ n
        · right
          simp [Connection.step, Writing.advance, hn, burden, Writing.burden, emitted]
          omega
        · by_cases hzero : n = 0
          · subst hzero
            left
            simp [Connection.step, Writing.advance, hn, emitted]
          · right
            simp [Connection.step, Writing.advance, hn, burden, Writing.burden, emitted]
            omega
      | discarded | inputEnded | readFailed | writeFailed => exact he.elim
      | _ => exact ⟨rfl, hlive, hstaying, .inl ⟨rfl, rfl⟩⟩
    | flush =>
      cases e with
      | flushed => simpa [Connection.step, IsLive, burden, Writing.burden, emitted]
      | discarded | inputEnded | readFailed | writeFailed => exact he.elim
      | _ => exact ⟨rfl, hlive, hstaying, .inl ⟨rfl, rfl⟩⟩

/-- A connection that has something to do can do it. -/
theorem Able.exists_event (hc : c.Able) (hbusy : ¬ c.AtRest) (h : Handler σ) (s : σ) :
    ∃ e, e.IsLossless ∧ c.heard e = [] ∧ (c.step h s e).connection ≠ c := by
  obtain ⟨hlive, -, hstaying, -⟩ := hc
  obtain ⟨⟨peer, limit, accepting, queue⟩, phase, buffer⟩ := c
  cases phase with
  | made => exact ⟨.started, trivial, rfl, by simp [Connection.step]⟩
  | draining | closing | ended => exact hlive.elim
  | serving w =>
    cases w with
    | idle =>
      rcases queue with _ | ⟨bytes | _, rest⟩
      · exact absurd (.inr ⟨rfl, rfl⟩) hbusy
      · exact ⟨.polled, trivial, rfl, by simp [Connection.step, poll]⟩
      · exact absurd (List.mem_cons_self ..) hstaying
    | bytes rest =>
      exact ⟨.wrote rest.length, trivial, rfl, by simp [Connection.step, Writing.advance]⟩
    | flush => exact ⟨.flushed, trivial, rfl, by simp [Connection.step]⟩

theorem Able.idle_of_atRest (hc : c.Able) (hrest : c.AtRest) :
    c.phase = .serving .idle ∧ c.pieces = [] := by
  rcases hrest with hended | ⟨hphase, hqueue⟩
  · have hlive := hc.live
    rw [IsLive, hended] at hlive
    exact hlive.elim
  · refine ⟨hphase, ?_⟩
    rw [pieces, hphase, hqueue]
    rfl

variable {o : Outlet} {f : Frame} {buffer bytes : Octets}

/-- As long as a frame is not complete, nothing is handed on. -/
theorem step_received_short (h : Handler σ) (s : σ) (hfits : f.Fits o.limit)
    (hp : buffer ++ bytes <+: f.write) (hne : buffer ++ bytes ≠ f.write) :
    step h s ⟨o, .serving .idle, buffer⟩ (.received bytes) =
      ⟨s, ⟨o, .serving .idle, buffer ++ bytes⟩, []⟩ := by
  simp only [Connection.step, receive, dispatch_of_none (Frame.decode_of_prefix hfits hp hne)]

/-- A frame that is complete is handed on. -/
theorem step_received_whole (hfits : f.Fits o.limit) (hwhole : buffer ++ bytes = f.write)
    (hok : (h.frame s o f).fault = none) :
    (step h s ⟨o, .serving .idle, buffer⟩ (.received bytes)).state = (h.frame s o f).state ∧
      (step h s ⟨o, .serving .idle, buffer⟩ (.received bytes)).connection =
        ⟨(h.frame s o f).outlet, .serving .idle, []⟩ := by
  have hdecode : Frame.decode o.limit f.write = .ok (some (f, [])) := by
    have hcons := Frame.decode_encode hfits []
    rwa [List.append_nil] at hcons
  have hnone : Frame.decode o.limit [] = .ok none := rfl
  simp only [Connection.step, receive, hwhole, dispatch_of_handled hdecode hok,
    dispatch_of_none hnone, and_self]

end

end Connection

/-! ### Frames on their way -/

/-- A frame is on its way from one end of a connection to the other, and has not been handed on. -/
structure Frame.Carried (f : Frame) (c : Connection) (stream : Octets) (d : Connection) :
    Prop where
  whole : d.buffer ++ stream ++ c.pieces.flatten = f.write
  short : d.buffer ≠ f.write

/-- Nothing is on its way from one end of a connection to the other. -/
structure Connection.Vacant (c : Connection) (stream : Octets) (d : Connection) : Prop where
  written : c.pieces.flatten = []
  flown : stream = []
  read : d.buffer = []

section

open Connection

variable {f : Frame} {c c' d d' : Connection} {e : Connection.Event} {stream bytes : Octets}

namespace Frame.Carried

theorem wrote (h : f.Carried c stream d) (hm : Moves c e c') :
    f.Carried c' (stream ++ c.emitted e) d := by
  refine ⟨?_, h.short⟩
  rw [← h.whole, ← hm.whole]
  simp only [List.append_assoc]

theorem kept (h : f.Carried c stream d) (hbuffer : d'.buffer = d.buffer) :
    f.Carried c stream d' :=
  ⟨by rw [hbuffer, h.whole], by rw [hbuffer]; exact h.short⟩

theorem prefix_read (h : f.Carried c stream d) (hread : bytes <+: stream) :
    d.buffer ++ bytes <+: f.write := by
  obtain ⟨later, rfl⟩ := hread
  refine ⟨later ++ c.pieces.flatten, ?_⟩
  rw [← h.whole]
  simp only [List.append_assoc]

/-- Some of it arrives, and it is not complete. -/
theorem read_short (h : f.Carried c stream d) (hread : bytes <+: stream)
    (hbuffer : d'.buffer = d.buffer ++ bytes) (hne : d.buffer ++ bytes ≠ f.write) :
    f.Carried c (stream.drop bytes.length) d' := by
  refine ⟨?_, by rwa [hbuffer]⟩
  rw [hbuffer, Handshake.append_drop_heard hread, h.whole]

/-- The rest of it arrives, and nothing is left. -/
theorem read_whole (h : f.Carried c stream d) (hread : bytes <+: stream)
    (hwhole : d.buffer ++ bytes = f.write) :
    bytes ≠ [] ∧ c.pieces.flatten = [] ∧ stream.drop bytes.length = [] := by
  refine ⟨fun hnil => h.short (by rwa [hnil, List.append_nil] at hwhole), ?_⟩
  have hall := h.whole
  rw [← Handshake.append_drop_heard hread, hwhole, List.append_assoc] at hall
  obtain ⟨hdrop, hpieces⟩ := List.append_eq_nil_iff.1 (List.append_right_eq_self.1 hall)
  exact ⟨hpieces, hdrop⟩

end Frame.Carried

namespace Connection.Vacant

theorem wrote (h : Vacant c stream d) (hm : Moves c e c') :
    Vacant c' (stream ++ c.emitted e) d := by
  have hall := hm.whole
  rw [h.written] at hall
  obtain ⟨hemitted, hpieces⟩ := List.append_eq_nil_iff.1 hall
  exact ⟨hpieces, by rw [h.flown, hemitted]; rfl, h.read⟩

theorem kept (h : Vacant c stream d) (hbuffer : d'.buffer = d.buffer) : Vacant c stream d' :=
  ⟨h.written, h.flown, hbuffer.trans h.read⟩

end Connection.Vacant

end

/-! ### Reads at an end -/

section

variable {α : Type} [Vocabulary α]

namespace LinkEnd

variable {x : LinkEnd} {f : Frame} {bytes : Octets} {e : Connection.Event}

/-- An event that does nothing. -/
structure Idles (core : Core α) (x : LinkEnd) (e : Connection.Event) : Prop where
  state : (x.step core e).state = (core, x.role)
  connection : (x.step core e).connection = x.connection
  emitted : x.connection.emitted e = []
  heard : x.connection.heard e = []

theorem moves_step (core : Core α) (hx : x.connection.Able) (he : e.IsLossless)
    (hread : ∀ bytes, ¬ (x.connection.phase = .serving .idle ∧ e = .received bytes)) :
    (x.step core e).state = (core, x.role) ∧
      Connection.Moves x.connection e (x.step core e).connection :=
  hx.step (fun _ _ => rfl) he hread

theorem step_short (core : Core α) (hphase : x.connection.phase = .serving .idle)
    (hfits : f.Fits x.connection.outlet.limit) (hp : x.connection.buffer ++ bytes <+: f.write)
    (hne : x.connection.buffer ++ bytes ≠ f.write) :
    x.step core (.received bytes) =
      ⟨(core, x.role), { x.connection with buffer := x.connection.buffer ++ bytes }, []⟩ := by
  obtain ⟨role, o, phase, buffer⟩ := x
  obtain rfl : phase = .serving .idle := hphase
  exact Connection.step_received_short Role.handler (core, role) hfits hp hne

theorem step_whole (core : Core α) (hphase : x.connection.phase = .serving .idle)
    (hfits : f.Fits x.connection.outlet.limit) (hwhole : x.connection.buffer ++ bytes = f.write)
    (hok : (Role.handler.frame (core, x.role) x.connection.outlet f).fault = none) :
    (x.step core (.received bytes)).state =
        (Role.handler.frame (core, x.role) x.connection.outlet f).state ∧
      (x.step core (.received bytes)).connection =
        ⟨(Role.handler.frame (core, x.role) x.connection.outlet f).outlet, .serving .idle, []⟩ := by
  obtain ⟨role, o, phase, buffer⟩ := x
  obtain rfl : phase = .serving .idle := hphase
  exact Connection.step_received_whole hfits hwhole hok

/-- Without octets a read does nothing. -/
theorem idles_of_nil (core : Core α) (hphase : x.connection.phase = .serving .idle)
    (hfits : f.Fits x.connection.outlet.limit) (hp : x.connection.buffer <+: f.write)
    (hne : x.connection.buffer ≠ f.write) : x.Idles core (.received []) := by
  have hall : x.connection.buffer ++ [] = x.connection.buffer := List.append_nil _
  have hstep := step_short core hphase hfits (hall.symm ▸ hp) (hall.symm ▸ hne)
  rw [hall] at hstep
  exact ⟨by rw [hstep], by rw [hstep], Connection.emitted_received _ _,
    Connection.heard_received hphase _⟩

/-- Where nothing is in flight, a read does nothing. -/
theorem idles_of_vacant {c : Connection} {stream : Octets} (core : Core α)
    (hx : x.connection.Able) (hphase : x.connection.phase = .serving .idle)
    (h : c.Vacant stream x.connection) (hread : bytes <+: stream) :
    x.Idles core (.received bytes) := by
  obtain rfl : bytes = [] := by
    rw [h.flown] at hread
    exact List.prefix_nil.1 hread
  refine idles_of_nil core hphase (Inbound.fits_response hx.roomy .success) ?_ ?_
  · rw [h.read]
    exact List.nil_prefix
  · rw [h.read]
    exact (Frame.write_ne_nil _).symm

/-- As long as what arrives does not complete a frame, nothing happens, or there is less of it in
flight. -/
theorem read_short {c : Connection} {stream : Octets} (core : Core α)
    (h : f.Carried c stream x.connection) (hphase : x.connection.phase = .serving .idle)
    (hfits : f.Fits x.connection.outlet.limit) (hread : bytes <+: stream)
    (hshort : x.connection.buffer ++ bytes ≠ f.write) :
    x.Idles core (.received bytes) ∨
      let d := { x.connection with buffer := x.connection.buffer ++ bytes }
      bytes ≠ [] ∧ x.step core (.received bytes) = ⟨(core, x.role), d, []⟩ ∧
        f.Carried c (stream.drop bytes.length) d := by
  have hp := h.prefix_read hread
  by_cases hnil : bytes = []
  · subst hnil
    rw [List.append_nil] at hp hshort
    exact .inl (idles_of_nil core hphase hfits hp hshort)
  · exact .inr ⟨hnil, step_short core hphase hfits hp hshort, h.read_short hread rfl hshort⟩

/-- An event that loses nothing is a read of an end that serves, or does nothing, or there is less
to do. -/
theorem event_cases (core : Core α) (hx : x.connection.Able) (he : e.IsLossless) :
    (∃ bytes, x.connection.phase = .serving .idle ∧ e = .received bytes) ∨ x.Idles core e ∨
      (x.step core e).state = (core, x.role) ∧ x.connection.heard e = [] ∧
        Connection.Moves x.connection e (x.step core e).connection ∧
        (x.step core e).connection.burden + (x.connection.emitted e).length <
          x.connection.burden := by
  by_cases he' : ∃ bytes, x.connection.phase = .serving .idle ∧ e = .received bytes
  · exact .inl he'
  · have hcalm := fun bytes hbytes => he' ⟨bytes, hbytes⟩
    obtain ⟨hstate, hmoves⟩ := moves_step core hx he hcalm
    have hheard := Connection.heard_eq_nil hcalm
    rcases hmoves.less with ⟨hsame, hemitted⟩ | hless
    · exact .inr (.inl ⟨hstate, hsame, hemitted, hheard⟩)
    · exact .inr (.inr ⟨hstate, hheard, hmoves, hless⟩)

end LinkEnd

namespace Registration

/-- A request fits if four octets do. -/
theorem fits_request {limit : Nat} (h : 4 ≤ limit) (s : SystemId) : (request s).Fits limit := by
  refine Frame.encode_eq_ok_iff.2 ⟨?_, length_request s, rfl⟩
  rw [show (request s).payload.length = 4 from Octets.length_le _ _]
  exact h

/-- A session that may be bound is bound by a request, which is answered with a success. -/
theorem frame_request_admitted {core : Core α} {k : Ticket} {s : SystemId}
    {t : LinkTable} {o : Outlet} (hbind : core.table.bindSession s k = .ok t)
    (haccepting : o.accepting = true) (hroomy : 4 ≤ o.limit) :
    let r := Role.handler.frame (core, .inbound k) o (request s)
    r.state = ({ core with table := t }, .inbound k) ∧ r.fault = none ∧
      r.outlet = { o with queue := o.queue ++ [.frame (response .success).write] } := by
  have hkind : PackageKind.ofByte? (request s).mark = some .registerRequest :=
    PackageKind.ofByte?_byte .registerRequest
  have hdecode : SystemId.layout.decode (request s).payload = .ok s :=
    (Layout.decode_eq_ok_iff SystemId.layout_lawful).2 ⟨trivial, List.prefix_refl _⟩
  obtain ⟨hdials, hlink, hfree, -⟩ := LinkTable.bindSession_eq_ok_iff.1 hbind
  have hadmits : core.table.Admits k (request s).payload s := ⟨hdecode, hdials, hlink, hfree⟩
  obtain ⟨t', hbind', hadmission⟩ := LinkTable.admission_of_admits hadmits
  obtain rfl : t' = t := Except.ok.inj (hbind'.symm.trans hbind)
  have hdue := Inbound.dueAnswer_eq_success_iff.2 ⟨s, hadmits⟩
  obtain ⟨notices, fault, hregister, hfault⟩ :=
    Inbound.register_eq k core (request s).payload haccepting hroomy
  rw [hdue, hadmission] at hregister
  simp only [Role.handler, Inbound.frame_of_request hkind, hregister, hfault.2 hdue, and_self]

end Registration

/-! ### The stages of a registration -/

/-- How far a registration that nothing disturbs has come, of a member `s`, from the end `x` that it
dialed to the end `y`. The member that was dialed has the links `t`; before it admits the other one
they are `t₀`, and then they are `t₁`. What is in flight `forth` comes from `x`, and `back` from
`y`. -/
inductive Exchange (s : SystemId) (t₀ t₁ : LinkTable) (x y : LinkEnd) (t : LinkTable)
    (forth back : Octets) : Prop
  /-- The request is on its way. -/
  | asking (table : t = t₀) (role : x.role = .outbound default)
      (request : (Registration.request s).Carried x.connection forth y.connection)
      (silent : y.connection.Vacant back x.connection)
  /-- The answer is on its way. -/
  | answering (table : t = t₁) (role : x.role = .outbound default)
      (asked : x.connection.Vacant forth y.connection)
      (answer : (Registration.response .success).Carried y.connection back x.connection)
  /-- The answer has arrived. -/
  | answered (table : t = t₁) (role : x.role = .outbound ⟨some .success, false⟩)
      (asked : x.connection.Vacant forth y.connection)
      (told : y.connection.Vacant back x.connection)

namespace Exchange

/-- What is left to do of a registration: at both ends, with what is in flight, and with the answer
as long as there is none. -/
def toil (k : Ticket) (x y : LinkEnd) (t : LinkTable) (forth back : Octets) : Nat :=
  x.connection.burden + y.connection.burden + forth.length + back.length +
    if t.sessions.binding? k = none then
      Connection.cost [(Registration.response .success).write]
    else 0

variable {s : SystemId} {k : Ticket} {x y : LinkEnd} {t₀ t₁ t : LinkTable} {forth back : Octets}
  {core : Core α} {e : Connection.Event}

omit [Vocabulary α] in
/-- All that is known of the connection at the end that dialed is whether it was admitted. -/
theorem role_cases (h : Exchange s t₀ t₁ x y t forth back) :
    x.role = .outbound default ∨ x.role = .outbound ⟨some .success, false⟩ := by
  cases h with
  | asking _ role | answering _ role => exact .inl role
  | answered _ role => exact .inr role

omit [Vocabulary α] in
theorem session?_eq_none (h : Exchange s t₀ t₁ x y t forth back) : x.role.session? = none := by
  rcases h.role_cases with hrole | hrole <;> rw [hrole] <;> rfl

/-- What the end that dialed writes goes into the stream. -/
theorem wrote_dialer {c' : Connection} (h : Exchange s t₀ t₁ x y t forth back)
    (hm : Connection.Moves x.connection e c') :
    Exchange s t₀ t₁ ⟨x.role, c'⟩ y t (forth ++ x.connection.emitted e) back := by
  cases h with
  | asking table role request silent =>
    exact .asking table role (request.wrote hm) (silent.kept hm.buffer)
  | answering table role asked answer =>
    exact .answering table role (asked.wrote hm) (answer.kept hm.buffer)
  | answered table role asked told =>
    exact .answered table role (asked.wrote hm) (told.kept hm.buffer)

/-- What the end that was dialed writes goes into the stream. -/
theorem wrote_listener {c' : Connection} (h : Exchange s t₀ t₁ x y t forth back)
    (hm : Connection.Moves y.connection e c') :
    Exchange s t₀ t₁ x ⟨y.role, c'⟩ t forth (back ++ y.connection.emitted e) := by
  cases h with
  | asking table role request silent =>
    exact .asking table role (request.kept hm.buffer) (silent.wrote hm)
  | answering table role asked answer =>
    exact .answering table role (asked.kept hm.buffer) (answer.wrote hm)
  | answered table role asked told =>
    exact .answered table role (asked.kept hm.buffer) (told.wrote hm)

/-- What the end that dialed reads is the answer, or nothing. -/
theorem dialer_read {bytes : Octets} (h : Exchange s t₀ t₁ x y t forth back) (core : Core α)
    (hx : x.connection.Able) (hphase : x.connection.phase = .serving .idle)
    (hread : bytes <+: back) :
    x.Idles core (.received bytes) ∨
      let r := x.step core (.received bytes)
      let x' : LinkEnd := ⟨r.state.2, r.connection⟩
      bytes ≠ [] ∧ r.state.1 = core ∧ x'.connection.Able ∧
        x'.connection.burden = x.connection.burden ∧
        Exchange s t₀ t₁ x' y t forth (back.drop bytes.length) := by
  cases h with
  | asking table role request silent =>
    exact .inl (LinkEnd.idles_of_vacant core hx hphase silent hread)
  | answered table role asked told =>
    exact .inl (LinkEnd.idles_of_vacant core hx hphase told hread)
  | answering table role asked answer =>
    have hfits := Inbound.fits_response hx.roomy .success
    by_cases hwhole : x.connection.buffer ++ bytes = (Registration.response .success).write
    · -- the answer is complete
      obtain ⟨hne, hwritten, hflown⟩ := answer.read_whole hread hwhole
      have hframe := Registration.frame_response core default x.connection.outlet .success
      rw [← role] at hframe
      obtain ⟨hstate, hconnection⟩ :=
        LinkEnd.step_whole core hphase hfits hwhole (by rw [hframe])
      rw [hframe] at hstate hconnection
      refine .inr ⟨hne, by rw [hstate], ?_⟩
      rw [hstate, hconnection]
      refine ⟨⟨trivial, hx.accepting, hx.staying, hx.roomy⟩, ?_, ?_⟩
      · simp only [Connection.burden, hphase]
      · refine .answered table rfl ⟨?_, asked.flown, asked.read⟩ ⟨hwritten, hflown, rfl⟩
        rw [← asked.written]
        simp only [Connection.pieces, hphase]
    · rcases LinkEnd.read_short core answer hphase hfits hread hwhole with
        hidles | ⟨hne, hstep, hcarried⟩
      · exact .inl hidles
      · refine .inr ⟨hne, by rw [hstep], ?_⟩
        rw [hstep]
        exact ⟨⟨hx.live, hx.accepting, hx.staying, hx.roomy⟩, rfl,
          .answering table role ⟨asked.written, asked.flown, asked.read⟩ hcarried⟩

/-- What an event makes of the end that dialed. -/
theorem dialer_step (h : Exchange s t₀ t₁ x y t forth back) (core : Core α) (k : Ticket)
    (hx : x.connection.Able) (he : e.IsLossless) (hread : x.connection.heard e <+: back) :
    x.Idles core e ∨
      let r := x.step core e
      let x' : LinkEnd := ⟨r.state.2, r.connection⟩
      let forth' := forth ++ x.connection.emitted e
      let back' := back.drop (x.connection.heard e).length
      r.state.1 = core ∧ x'.connection.Able ∧ Exchange s t₀ t₁ x' y t forth' back' ∧
        toil k x' y t forth' back' < toil k x y t forth back := by
  rcases LinkEnd.event_cases core hx he with
    ⟨bytes, hphase, rfl⟩ | hidles | ⟨hstate, hheard, hmoves, hless⟩
  · rw [Connection.heard_received hphase] at hread ⊢
    rw [Connection.emitted_received, List.append_nil]
    refine (h.dialer_read core hx hphase hread).imp_right
      fun ⟨hne, hcore, hable, hburden, hafter⟩ => ⟨hcore, hable, hafter, ?_⟩
    have hlen := hread.length_le
    have hpos := List.length_pos_iff.2 hne
    simp only [toil, hburden, List.length_drop]
    omega
  · exact .inl hidles
  · refine .inr ?_
    dsimp only
    rw [hstate, hheard, List.length_nil, List.drop_zero]
    refine ⟨rfl, hmoves.able, h.wrote_dialer hmoves, ?_⟩
    simp only [toil, List.length_append]
    omega

/-- The request is complete: it is admitted, and the answer is queued. -/
theorem listener_admits {bytes : Octets} {c : ConnectionId}
    (request : (Registration.request s).Carried x.connection forth y.connection)
    (silent : y.connection.Vacant back x.connection) (role : x.role = .outbound default)
    (hbind : core.table.bindSession s k = .ok t₁) (hc : core.table.connection? k = some c)
    (hrole : y.role = .inbound k) (hy : y.connection.Able)
    (hphase : y.connection.phase = .serving .idle) (hread : bytes <+: forth)
    (hwhole : y.connection.buffer ++ bytes = (Registration.request s).write) :
    let r := y.step core (.received bytes)
    let y' : LinkEnd := ⟨r.state.2, r.connection⟩
    let forth' := forth.drop bytes.length
    r.state.2 = .inbound k ∧ y'.connection.Able ∧
      Exchange s core.table t₁ x y' r.state.1.table forth' back ∧
      toil k x y' r.state.1.table forth' back < toil k x y core.table forth back := by
  obtain ⟨hne, hwritten, hflown⟩ := request.read_whole hread hwhole
  obtain ⟨hstate, hok, hout⟩ :=
    Registration.frame_request_admitted hbind hy.accepting hy.roomy
  rw [← hrole] at hstate hok hout
  obtain ⟨hstate', hconnection⟩ :=
    LinkEnd.step_whole core hphase (Registration.fits_request hy.roomy s) hwhole hok
  rw [hstate] at hstate'
  rw [hout] at hconnection
  have hqueued := Connection.frames_append y.connection.outlet.queue
    [.frame (Registration.response .success).write]
  rw [Connection.frames_frame, Connection.frames_nil] at hqueued
  have hpieces := silent.written
  simp only [Connection.pieces, hphase, Connection.Writing.inHand, List.nil_append] at hpieces
  dsimp only
  rw [hstate', hconnection]
  refine ⟨hrole, ⟨trivial, hy.accepting, ?_, hy.roomy⟩, ?_, ?_⟩
  · simpa using hy.staying
  · refine .answering rfl role ⟨hwritten, hflown, rfl⟩ ⟨?_, ?_⟩
    · simp only [silent.read, silent.flown, Connection.pieces, Connection.Writing.inHand, hqueued,
        List.nil_append, List.flatten_append, hpieces, List.flatten_cons, List.flatten_nil,
        List.append_nil]
    · rw [silent.read]
      exact (Frame.write_ne_nil _).symm
  · -- the answer was counted while the session was free
    obtain ⟨-, -, hfree, rfl⟩ := LinkTable.bindSession_eq_ok_iff.1 hbind
    have hbound := Sessions.binding?_bind s (LinkTable.lt_of_connection? hc) k
    rw [if_pos rfl] at hbound
    have hlen := hread.length_le
    have hpos := List.length_pos_iff.2 hne
    simp only [toil, hfree, hbound, Connection.burden, hphase, Connection.Writing.burden, hqueued,
      Connection.cost_append, List.length_drop, if_true, reduceCtorEq, if_false]
    omega

/-- What the end that was dialed reads is the request, or nothing. -/
theorem listener_read {bytes : Octets} {c : ConnectionId}
    (h : Exchange s t₀ t₁ x y core.table forth back) (hbind : t₀.bindSession s k = .ok t₁)
    (hc : t₀.connection? k = some c) (hrole : y.role = .inbound k) (hy : y.connection.Able)
    (hphase : y.connection.phase = .serving .idle) (hread : bytes <+: forth) :
    y.Idles core (.received bytes) ∨
      let r := y.step core (.received bytes)
      let y' : LinkEnd := ⟨r.state.2, r.connection⟩
      let forth' := forth.drop bytes.length
      r.state.2 = .inbound k ∧ y'.connection.Able ∧
        Exchange s t₀ t₁ x y' r.state.1.table forth' back ∧
        toil k x y' r.state.1.table forth' back < toil k x y core.table forth back := by
  cases h with
  | answering table role asked answer =>
    exact .inl (LinkEnd.idles_of_vacant core hy hphase asked hread)
  | answered table role asked told =>
    exact .inl (LinkEnd.idles_of_vacant core hy hphase asked hread)
  | asking table role request silent =>
    obtain rfl := table
    by_cases hwhole : y.connection.buffer ++ bytes = (Registration.request s).write
    · exact .inr (listener_admits request silent role hbind hc hrole hy hphase hread hwhole)
    · rcases LinkEnd.read_short core request hphase (Registration.fits_request hy.roomy s) hread
        hwhole with hidles | ⟨hne, hstep, hcarried⟩
      · exact .inl hidles
      · have hlen := hread.length_le
        have hpos := List.length_pos_iff.2 hne
        refine .inr ?_
        dsimp only
        rw [hstep]
        refine ⟨hrole, ⟨hy.live, hy.accepting, hy.staying, hy.roomy⟩, ?_, ?_⟩
        · exact .asking rfl role hcarried ⟨silent.written, silent.flown, silent.read⟩
        · simp only [toil, Connection.burden, List.length_drop]
          omega

/-- What an event makes of the end that was dialed. -/
theorem listener_step {c : ConnectionId} (h : Exchange s t₀ t₁ x y core.table forth back)
    (hbind : t₀.bindSession s k = .ok t₁) (hc : t₀.connection? k = some c)
    (hrole : y.role = .inbound k) (hy : y.connection.Able) (he : e.IsLossless)
    (hread : y.connection.heard e <+: forth) :
    y.Idles core e ∨
      let r := y.step core e
      let y' : LinkEnd := ⟨r.state.2, r.connection⟩
      let forth' := forth.drop (y.connection.heard e).length
      let back' := back ++ y.connection.emitted e
      r.state.2 = .inbound k ∧ y'.connection.Able ∧
        Exchange s t₀ t₁ x y' r.state.1.table forth' back' ∧
        toil k x y' r.state.1.table forth' back' < toil k x y core.table forth back := by
  rcases LinkEnd.event_cases core hy he with
    ⟨bytes, hphase, rfl⟩ | hidles | ⟨hstate, hheard, hmoves, hless⟩
  · rw [Connection.heard_received hphase] at hread ⊢
    rw [Connection.emitted_received, List.append_nil]
    exact h.listener_read hbind hc hrole hy hphase hread
  · exact .inl hidles
  · refine .inr ?_
    dsimp only
    rw [hstate, hheard, List.length_nil, List.drop_zero]
    refine ⟨hrole, hmoves.able, h.wrote_listener hmoves, ?_⟩
    simp only [toil, List.length_append]
    omega

end Exchange

end

end ActorMesh
