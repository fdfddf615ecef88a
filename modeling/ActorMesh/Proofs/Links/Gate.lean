import ActorMesh.Proofs.Connections.Reassembly
import ActorMesh.Proofs.Links.Accounting
import ActorMesh.Proofs.Members.Connections
import ActorMesh.Sample

/-!
# The gate of an inbound link

Nothing that a peer sends reaches the local runtime before the peer has registered. What a frame
does is decided by two things only, its mark and whether its session is bound (`Inbound.Judged`):
actor traffic is delivered on a bound session and fatal on a free one, a request for registration is
answered once and fatal unless it binds the session, and any other frame is fatal.

`Member.gated_of_follow` says so for every connection of a member, whatever else the member does
meanwhile. The connection is **followed** (`Member.follow`): what it has read, which frames it has
handled and how, what was delivered meanwhile and which frames it has taken up for writing. The
invariant is `Inbound.Watched`; while the connection serves, its session is bound exactly if a frame
has bound it.
-/

namespace ActorMesh

namespace Inbound

variable {α : Type}

/-! ### Answers -/

/-- The answer to a request for registration: what cannot be read is malformed, a session registers
once, and the peer has to be one that dials this member and is not linked. -/
def dueAnswer (t : LinkTable) (k : Ticket) (payload : Octets) : ErrorCode :=
  match SystemId.layout.decode payload with
  | .error _ => .malformedRequest
  | .ok s =>
    if t.sessions.binding? k ≠ none then .duplicateRegistration
    else
      match t.dials? s with
      | none => .unknownSystem
      | some true => .passiveSystem
      | some false =>
        if t.link? s = some .disconnected then .success else .duplicateRegistration

theorem admission_eq_dueAnswer (t : LinkTable) (k : Ticket) (payload : Octets) :
    (admission t k payload).1 = dueAnswer t k payload := by
  unfold admission dueAnswer
  cases SystemId.layout.decode payload with
  | error e => rfl
  | ok s =>
    cases hb : t.sessions.binding? k with
    | some s' => simp
    | none =>
      cases hbind : t.bindSession s k with
      | ok t' =>
        obtain ⟨hdials, hlink, -, -⟩ := LinkTable.bindSession_eq_ok_iff.1 hbind
        simp [hbind, hdials, hlink]
      | error code =>
        have hcode := hbind
        unfold LinkTable.bindSession at hcode
        split at hcode
        · rename_i hp
          cases hcode
          simp [hbind, LinkTable.dials?, hp]
        · rename_i p hp
          obtain ⟨config, passive, link⟩ := p
          cases passive with
          | true =>
            cases hcode
            simp [hbind, LinkTable.dials?, hp]
          | false =>
            have hup : link ≠ .disconnected := by
              rintro rfl
              simp [PeerLink.isConnected, Sessions.bind, hb] at hcode
            have hduplicate : code = .duplicateRegistration := by
              simpa [PeerLink.isConnected, hup, eq_comm] using hcode
            simp [hbind, LinkTable.dials?, LinkTable.link?, hp, hup, hduplicate]

/-- The answer is a success exactly if the request binds the session. -/
theorem dueAnswer_eq_success_iff {t : LinkTable} {k : Ticket} {payload : Octets} :
    dueAnswer t k payload = .success ↔ ∃ s, t.Admits k payload s := by
  rw [← admission_eq_dueAnswer]
  exact LinkTable.admission_eq_success_iff

theorem length_write_response (code : ErrorCode) :
    (Registration.response code).payload.length = 4 :=
  Octets.length_le _ _

/-- An answer fits if four octets do. -/
theorem fits_response {limit : Nat} (h : 4 ≤ limit) (code : ErrorCode) :
    (Registration.response code).Fits limit := by
  refine Frame.encode_eq_ok_iff.2 ⟨?_, ?_, rfl⟩
  · rw [length_write_response]
    exact h
  · rw [length_write_response]
    decide

/-- On a connection that accepts an answer, a request for registration is answered, and it is fatal
unless the answer is a success. -/
theorem register_eq (k : Ticket) (core : Core α) {o : Outlet} (payload : Octets)
    (haccepting : o.accepting = true) (hlimit : 4 ≤ o.limit) :
    ∃ notices fault, register k core o payload =
        ⟨{ core with table := (admission core.table k payload).2.1 },
          { o with queue := o.queue ++
              [.frame (Registration.response (dueAnswer core.table k payload)).write] },
          notices, fault⟩ ∧
      (fault = none ↔ dueAnswer core.table k payload = .success) := by
  have hsend := Outlet.send_eq_ok_iff.2
    ⟨_, fits_response hlimit (dueAnswer core.table k payload), haccepting, rfl⟩
  unfold register
  simp only [admission_eq_dueAnswer, hsend]
  split
  · rename_i hsuccess
    exact ⟨_, none, rfl, by simpa [ErrorCode.isSuccess] using hsuccess⟩
  · rename_i hrefused
    exact ⟨_, some _, rfl, by simpa [ErrorCode.isSuccess] using hrefused⟩

end Inbound

/-! ### What a frame does -/

namespace Deed

variable {α : Type}

/-- The kind of package that a frame announces. -/
def kind? (d : Deed (Core α × Role)) : Option PackageKind := PackageKind.ofByte? d.frame.mark

/-- Whether a frame bound a session. -/
def registers (k : Ticket) (d : Deed (Core α × Role)) : Bool :=
  (d.before.1.table.sessions.binding? k).isNone &&
    (d.reaction.state.1.table.sessions.binding? k).isSome

/-- What a frame delivered to the local runtime. -/
def delivered (d : Deed (Core α × Role)) : List (Envelope α) :=
  d.reaction.state.1.delivered.drop d.before.1.delivered.length

/-- A frame that changes nothing binds nothing. -/
theorem registers_of_eq {k : Ticket} {d : Deed (Core α × Role)}
    (h : d.reaction.state.1.table = d.before.1.table) :
    d.registers k = false := by
  unfold registers
  rw [h]
  cases d.before.1.table.sessions.binding? k <;> rfl

end Deed

namespace Inbound

variable {α : Type} [Vocabulary α]

/-- What the gate makes of a frame, given whether its session is bound. -/
structure Judged (k : Ticket) (bound : Prop) (d : Deed (Core α × Role)) : Prop where
  early : ¬ bound → d.delivered = []
  /-- A package that can be read is delivered, and one that cannot is passed over. -/
  traffic : bound → ∀ kind, d.kind? = some (.parcel kind) → d.delivered =
    (Envelope.decode d.before.1.registry (.parcel kind) d.frame.payload).toOption.toList
  skipped : bound → ∀ kind fault, d.kind? = some (.parcel kind) →
    Envelope.decode d.before.1.registry (.parcel kind) d.frame.payload = .error fault →
    d.reaction.state = d.before
  handshake : (∀ kind, d.kind? ≠ some (.parcel kind)) → d.delivered = []
  fatal : d.reaction.fault ≠ none ↔
    d.kind? = none ∨ d.kind? = some .registerResponse ∨
      d.kind? = some .registerRequest ∧ d.registers k = false ∨
      ¬ bound ∧ ∃ kind, d.kind? = some (.parcel kind)
  /-- A request for registration queues its answer, which is a success if the session was bound. -/
  answered : d.kind? = some .registerRequest →
    d.reaction.outlet = { d.outlet with queue := d.outlet.queue ++
      [.frame (Registration.response
        (dueAnswer d.before.1.table k d.frame.payload)).write] } ∧
    (dueAnswer d.before.1.table k d.frame.payload = .success ↔ d.registers k = true)
  /-- Nothing else is answered, and nothing else binds. -/
  silent : d.kind? ≠ some .registerRequest → d.reaction.outlet = d.outlet ∧ d.registers k = false
  once : bound → d.registers k = false

/-- A frame with what it does on an inbound link. -/
def deed (k : Ticket) (core : Core α) (o : Outlet) (f : Frame) : Deed (Core α × Role) :=
  ⟨(core, .inbound k), o, f, Role.handler.frame (core, .inbound k) o f⟩

/-- What is left behind by a frame on an inbound link. -/
structure Leaves (k : Ticket) (core : Core α) (o : Outlet) (d : Deed (Core α × Role)) : Prop where
  role : d.reaction.state.2 = .inbound k
  limit : d.reaction.outlet.limit = o.limit
  accepting : d.reaction.outlet.accepting = o.accepting
  bound : d.reaction.state.1.table.sessions.binding? k ≠ none ↔
    core.table.sessions.binding? k ≠ none ∨ d.registers k = true
  delivered : d.reaction.state.1.delivered = core.delivered ++ d.delivered

variable {k : Ticket} {core : Core α} {o : Outlet} {f : Frame}

/-- A frame that is rejected for its mark changes nothing. -/
theorem judged_rejected {e : LinkError} {notices : List Notice}
    (h : frame k core o f = ⟨core, o, notices, some e⟩)
    (hkind : PackageKind.ofByte? f.mark = none ∨
      PackageKind.ofByte? f.mark = some .registerResponse ∨
      core.table.sessions.binding? k = none ∧
        ∃ kind, PackageKind.ofByte? f.mark = some (.parcel kind)) :
    Judged k (core.table.sessions.binding? k ≠ none) (deed k core o f) ∧
      Leaves k core o (deed k core o f) := by
  have hdeed : deed k core o f =
      ⟨(core, .inbound k), o, f, ⟨(core, .inbound k), o, notices, some e⟩⟩ := by
    simp only [deed, Role.handler, h]
  have hregisters : (deed k core o f).registers k = false := Deed.registers_of_eq (by rw [hdeed])
  have hdelivered : (deed k core o f).delivered = [] := by
    rw [hdeed]
    exact List.drop_length
  rw [hdeed] at hregisters hdelivered ⊢
  refine ⟨{
    early := fun _ => hdelivered
    traffic := fun hbound kind hk => ?_
    skipped := fun _ _ _ _ _ => rfl
    handshake := fun _ => hdelivered
    fatal := ?_
    answered := fun hk => ?_
    silent := fun _ => ⟨rfl, hregisters⟩
    once := fun _ => hregisters }, rfl, rfl, rfl, ?_, ?_⟩
  · simp only [Deed.kind?] at hk
    simp [hk] at hkind
    exact absurd hkind hbound
  · simp only [ne_eq, reduceCtorEq, not_false_eq_true, true_iff, Deed.kind?]
    rcases hkind with hk | hk | ⟨hfree, kind, hk⟩
    · exact .inl hk
    · exact .inr (.inl hk)
    · exact .inr (.inr (.inr ⟨fun hbound => hbound hfree, kind, hk⟩))
  · simp only [Deed.kind?] at hk
    simp [hk] at hkind
  · simp [hregisters]
  · rw [hdelivered, List.append_nil]

/-- On a bound session a package is delivered, if it can be read. -/
theorem judged_parcel {kind : ParcelKind} (hk : PackageKind.ofByte? f.mark = some (.parcel kind))
    (hbound : core.table.sessions.binding? k ≠ none) :
    Judged k (core.table.sessions.binding? k ≠ none) (deed k core o f) ∧
      Leaves k core o (deed k core o f) := by
  obtain ⟨s, hs⟩ := Option.ne_none_iff_exists'.1 hbound
  have hdeed : deed k core o f = ⟨(core, .inbound k), o, f,
      ⟨((core.deliverInbound (.parcel kind) f.payload).1, .inbound k), o,
        (core.deliverInbound (.parcel kind) f.payload).2, none⟩⟩ := by
    simp only [deed, Role.handler, frame_of_parcel hk hs]
  have hregisters : (deed k core o f).registers k = false :=
    Deed.registers_of_eq (by rw [hdeed]; exact Core.table_deliverInbound ..)
  have hdelivered : (core.deliverInbound (.parcel kind) f.payload).1.delivered = core.delivered ++
      (Envelope.decode core.registry (.parcel kind) f.payload).toOption.toList := by
    unfold Core.deliverInbound
    dsimp only
    split <;> simp_all [Except.toOption]
  have hdrop : (deed k core o f).delivered =
      (Envelope.decode core.registry (.parcel kind) f.payload).toOption.toList := by
    rw [hdeed]
    simp [Deed.delivered, hdelivered]
  rw [hdeed] at hregisters hdrop ⊢
  refine ⟨{
    early := fun hfree => absurd hbound hfree
    traffic := fun _ kind' hk' => ?_
    skipped := fun _ kind' fault hk' hfault => ?_
    handshake := fun hother => absurd hk (hother kind)
    fatal := ?_
    answered := fun hk' => ?_
    silent := fun _ => ⟨rfl, hregisters⟩
    once := fun _ => hregisters }, rfl, rfl, rfl, ?_, ?_⟩
  · cases hk.symm.trans hk'
    exact hdrop
  · cases hk.symm.trans hk'
    simp only [Core.deliverInbound, hfault]
  · simp [Deed.kind?, hk, hbound]
  · cases hk.symm.trans hk'
  · simp [hregisters]
  · rw [hdrop, hdelivered]

/-- A session is bound by the request that is admitted. -/
theorem binding?_admission {t : LinkTable} {c : ConnectionId} (hc : t.connection? k = some c)
    (payload : Octets) :
    (admission t k payload).2.1.sessions.binding? k ≠ none ↔
      t.sessions.binding? k ≠ none ∨ dueAnswer t k payload = .success := by
  rw [dueAnswer_eq_success_iff]
  by_cases h : ∃ s, t.Admits k payload s
  · obtain ⟨s, hs⟩ := h
    obtain ⟨t', hbind, hadm⟩ := LinkTable.admission_of_admits hs
    obtain ⟨-, -, -, rfl⟩ := LinkTable.bindSession_eq_ok_iff.1 hbind
    rw [hadm, Sessions.binding?_bind s (LinkTable.lt_of_connection? hc), if_pos rfl]
    exact iff_of_true (Option.some_ne_none s) (.inr ⟨s, hs⟩)
  · rw [(LinkTable.admission_of_not_admits fun s hs => h ⟨s, hs⟩).2]
    exact (or_iff_left h).symm

/-- A request for registration is answered. -/
theorem judged_request {c : ConnectionId} (hc : core.table.connection? k = some c)
    (haccepting : o.accepting = true) (hlimit : 4 ≤ o.limit)
    (hk : PackageKind.ofByte? f.mark = some .registerRequest) :
    Judged k (core.table.sessions.binding? k ≠ none) (deed k core o f) ∧
      Leaves k core o (deed k core o f) := by
  obtain ⟨notices, fault, hregister, hfault⟩ := register_eq k core f.payload haccepting hlimit
  have hdeed : deed k core o f = ⟨(core, .inbound k), o, f,
      ⟨({ core with table := (admission core.table k f.payload).2.1 }, .inbound k),
        { o with queue := o.queue ++
          [.frame (Registration.response (dueAnswer core.table k f.payload)).write] },
        notices, fault⟩⟩ := by
    simp only [deed, Role.handler, frame_of_request hk, hregister]
  have hbinding := binding?_admission hc f.payload
  have hfree : dueAnswer core.table k f.payload = .success →
      core.table.sessions.binding? k = none := fun h => by
    obtain ⟨s, -, -, -, hfree⟩ := dueAnswer_eq_success_iff.1 h
    exact hfree
  -- a success is due only where the session was free, so the frame that gets it binds the session
  have hregisters : dueAnswer core.table k f.payload = .success ↔
      (deed k core o f).registers k = true := by
    rw [hdeed]
    simp only [Deed.registers, Bool.and_eq_true, Option.isNone_iff_eq_none,
      Option.isSome_iff_ne_none, hbinding]
    exact ⟨fun h => ⟨hfree h, .inr h⟩, fun h => h.2.resolve_left fun hb => hb h.1⟩
  have hdelivered : (deed k core o f).delivered = [] := by
    rw [hdeed]
    exact List.drop_length
  rw [hdeed] at hregisters hdelivered ⊢
  refine ⟨{
    early := fun _ => hdelivered
    traffic := fun _ kind hk' => absurd (hk.symm.trans hk') (by simp)
    skipped := fun _ kind fault hk' _ => absurd (hk.symm.trans hk') (by simp)
    handshake := fun _ => hdelivered
    fatal := ?_
    answered := fun _ => ⟨rfl, hregisters⟩
    silent := fun hk' => absurd hk hk'
    once := fun hbound => ?_ }, rfl, rfl, rfl, ?_, ?_⟩
  · rw [← Bool.not_eq_true, ← hregisters, ← hfault]
    simp [Deed.kind?, hk]
  · rw [← Bool.not_eq_true, ← hregisters]
    exact fun h => hbound (hfree h)
  · rw [← hregisters]
    exact hbinding
  · rw [hdelivered, List.append_nil]
    rfl

/-- What a frame does on an inbound link, and what it leaves behind. -/
theorem judged_frame {c : ConnectionId} (hc : core.table.connection? k = some c)
    (haccepting : o.accepting = true) (hlimit : 4 ≤ o.limit) (f : Frame) :
    Judged k (core.table.sessions.binding? k ≠ none) (deed k core o f) ∧
      Leaves k core o (deed k core o f) := by
  cases hk : PackageKind.ofByte? f.mark with
  | none => exact judged_rejected (frame_of_unknown hk) (.inl hk)
  | some kind =>
    cases kind with
    | registerRequest => exact judged_request hc haccepting hlimit hk
    | registerResponse => exact judged_rejected (frame_of_response hk) (.inr (.inl hk))
    | parcel kind =>
      by_cases hb : core.table.sessions.binding? k = none
      · exact judged_rejected (frame_of_early hk hb) (.inr (.inr ⟨hb, kind, hk⟩))
      · exact judged_parcel hk hb

/-! ### What frames do one after another -/

/-- Two answers are written alike only if they are the same. -/
theorem write_response_inj {code code' : ErrorCode}
    (h : (Registration.response code).write = (Registration.response code').write) :
    code = code' := by
  have hpayload : ErrorCode.layout.write code = ErrorCode.layout.write code' :=
    congrArg Frame.payload (Frame.write_inj h)
  have hread := fun c => ErrorCode.layout_lawful.read_write c [] trivial
  have hcode := hread code
  rw [hpayload, hread code'] at hcode
  cases hcode
  rfl

/-- The octets of an answer that admits. -/
def welcome : Octets := (Registration.response .success).write

omit [Vocabulary α] in
/-- An answer that admits is queued exactly for a request that binds. -/
theorem Judged.count_welcome {bound : Prop} {d : Deed (Core α × Role)} (h : Judged k bound d) :
    (Connection.frames d.reaction.outlet.queue).count welcome =
      (Connection.frames d.outlet.queue).count welcome + if d.registers k then 1 else 0 := by
  by_cases hk : d.kind? = some .registerRequest
  · obtain ⟨hout, hregisters⟩ := h.answered hk
    have hwelcome : (Registration.response
        (dueAnswer d.before.1.table k d.frame.payload)).write = welcome ↔ d.registers k = true := by
      rw [← hregisters]
      exact ⟨write_response_inj, congrArg fun code => (Registration.response code).write⟩
    rw [hout]
    simp only [Connection.frames_append, Connection.frames_frame, Connection.frames_nil,
      List.count_append, List.count_singleton, beq_iff_eq, hwelcome]
  · obtain ⟨hout, hregisters⟩ := h.silent hk
    simp [hout, hregisters]

/-- What is left behind by frames on an inbound link, on which others were handled before. -/
structure Handed (k : Ticket) (core : Core α) (o : Outlet) (pre ds : List (Deed (Core α × Role)))
    (state : Core α × Role) (outlet : Outlet) : Prop where
  judged : ∀ p d q, ds = p ++ d :: q → Judged k (∃ b ∈ pre ++ p, b.registers k = true) d
  role : state.2 = .inbound k
  limit : outlet.limit = o.limit
  accepting : outlet.accepting = true
  bound : state.1.table.sessions.binding? k ≠ none ↔ ∃ b ∈ pre ++ ds, b.registers k = true
  delivered : state.1.delivered = core.delivered ++ ds.flatMap (·.delivered)
  answers : (Connection.frames outlet.queue).count welcome =
    (Connection.frames o.queue).count welcome + ds.countP (·.registers k)

section

variable {pre ds : List (Deed (Core α × Role))}

omit [Vocabulary α] in
theorem Handed.nil (haccepting : o.accepting = true)
    (hbound : core.table.sessions.binding? k ≠ none ↔ ∃ b ∈ pre, b.registers k = true) :
    Handed k core o pre [] (core, .inbound k) o := by
  refine ⟨fun p d q h => ?_, rfl, rfl, haccepting, ?_, ?_, rfl⟩
  · cases p <;> cases h
  · rwa [List.append_nil]
  · simp

omit [Vocabulary α] in
theorem Handed.cons {d : Deed (Core α × Role)} {state : Core α × Role} {outlet : Outlet}
    (hout : d.outlet = o) (hjudged : Judged k (∃ b ∈ pre, b.registers k = true) d)
    (hleaves : Leaves k core o d)
    (h : Handed k d.reaction.state.1 d.reaction.outlet (pre ++ [d]) ds state outlet) :
    Handed k core o pre (d :: ds) state outlet := by
  refine ⟨fun p d' q heq => ?_, h.role, h.limit.trans hleaves.limit, h.accepting, ?_, ?_, ?_⟩
  · rcases p with _ | ⟨b, p⟩
    · cases heq
      rwa [List.append_nil]
    · obtain ⟨hb, heq'⟩ := List.cons.inj heq
      rw [← hb, List.append_cons]
      exact h.judged p d' q heq'
  · rw [h.bound, List.append_assoc, List.singleton_append]
  · rw [h.delivered, hleaves.delivered, List.flatMap_cons, List.append_assoc]
  · rw [h.answers, hjudged.count_welcome, hout, List.countP_cons]
    omega

theorem handed_hand {c : ConnectionId} (hc : core.table.connection? k = some c)
    (haccepting : o.accepting = true) (hlimit : 4 ≤ o.limit)
    (hbound : core.table.sessions.binding? k ≠ none ↔ ∃ b ∈ pre, b.registers k = true)
    (fs : List Frame) :
    Handed k core o pre (Role.handler.deeds (core, .inbound k) o fs)
      (Role.handler.hand (core, .inbound k) o fs).state
      (Role.handler.hand (core, .inbound k) o fs).outlet := by
  induction fs generalizing core o pre with
  | nil => exact .nil haccepting hbound
  | cons f rest ih =>
    obtain ⟨hjudged, hleaves⟩ := judged_frame hc haccepting hlimit f
    rw [propext hbound] at hjudged
    have haccepting' := hleaves.accepting.trans haccepting
    have hbound' : (deed k core o f).reaction.state.1.table.sessions.binding? k ≠ none ↔
        ∃ b ∈ pre ++ [deed k core o f], b.registers k = true := by
      rw [hleaves.bound, hbound]
      simp [or_and_right, exists_or]
    have hstate : (deed k core o f).reaction.state =
        ((deed k core o f).reaction.state.1, .inbound k) := by rw [← hleaves.role]
    cases hf : (Role.handler.frame (core, .inbound k) o f).fault with
    | some e =>
      -- the frames behind this one are not handled
      rw [Handler.hand_cons_of_fault hf, Handler.deeds_cons_of_fault hf]
      have hend := Handed.nil haccepting' hbound'
      rw [← hstate] at hend
      exact .cons rfl hjudged hleaves hend
    | none =>
      have hc' : (deed k core o f).reaction.state.1.table.connection? k = some c := by
        refine ((Role.serves_frame (r := .inbound k) (fun k' hk' => ?_) o f).1.connection k).trans
          hc
        cases hk'
        exact ⟨c, hc⟩
      rw [Handler.hand_cons_of_ok hf, Handler.deeds_cons_of_ok hf]
      have hrest := ih hc' haccepting' (hleaves.limit ▸ hlimit) hbound'
      rw [← hstate] at hrest
      exact .cons rfl hjudged hleaves hrest

end

end Inbound

/-! ### Following a connection -/

/-- What is told of a connection. -/
structure Trail (α : Type) where
  /-- The octets that it has read. -/
  read : Octets
  /-- The frames that it has handled. -/
  deeds : List (Deed (Core α × Role))
  /-- What its events have delivered to the local runtime. -/
  delivered : List (Envelope α)
  /-- The frames that it has taken up for writing. -/
  taken : List Octets

/-- The trail of a connection to which nothing has happened. -/
def Trail.empty {α : Type} : Trail α := ⟨[], [], [], []⟩

/-- A trail that goes on. -/
def Trail.add {α : Type} (t more : Trail α) : Trail α :=
  ⟨t.read ++ more.read, t.deeds ++ more.deeds, t.delivered ++ more.delivered, t.taken ++ more.taken⟩

@[simp] theorem Trail.add_empty {α : Type} (t : Trail α) : t.add .empty = t := by
  simp [Trail.add, Trail.empty]

namespace Member

variable {α : Type} [Vocabulary α]

/-- What an action adds to the trail of a connection. -/
def trail (m : Member α) (c : ConnectionId) : Action α → Trail α
  | .event d e =>
    match m.ends[c.value]? with
    | some x =>
      if d = c then
        ⟨x.connection.heard e,
          (x.connection.step Role.handler.logged ((m.core, x.role), []) e).state.2,
          (m.happen c e).1.core.delivered.drop m.core.delivered.length, x.connection.taken e⟩
      else .empty
    | none => .empty
  | _ => .empty

/-- A member after one action after another, with the trail of a connection. -/
def follow (c : ConnectionId) (m : Member α) (t : Trail α) : List (Action α) → Member α × Trail α
  | [] => (m, t)
  | a :: as => follow c (m.act a) (t.add (m.trail c a)) as

end Member

namespace Inbound

variable {α : Type} {k : Ticket} {limit : Nat}

/-- What holds of an inbound connection and its trail. -/
structure Watched (k : Ticket) (limit : Nat) (x : LinkEnd) (table : LinkTable) (t : Trail α) :
    Prop where
  role : x.role = .inbound k
  bounded : x.connection.outlet.limit = limit
  judged : ∀ p d q, t.deeds = p ++ d :: q →
    Judged k (∃ b ∈ p, b.registers k = true) d ∧ (d.reaction.fault ≠ none → q = [])
  frames : t.deeds.map (·.frame) <+: (Frame.split limit t.read).frames
  complete : (∀ d ∈ t.deeds, d.reaction.fault = none) →
    t.deeds.map (·.frame) = (Frame.split limit t.read).frames
  delivered : t.delivered = t.deeds.flatMap (·.delivered)
  answers : (t.taken ++ Connection.frames x.connection.outlet.queue).count welcome =
    t.deeds.countP (·.registers k)
  /-- While the connection serves, no frame was rejected, and the session is bound if one of them
  bound it. -/
  live : x.connection.IsLive → x.connection.outlet.accepting = true ∧
    (∀ d ∈ t.deeds, d.reaction.fault = none) ∧
    (Frame.split limit t.read).fault = none ∧
    (Frame.split limit t.read).rest = x.connection.buffer ∧
    (table.sessions.binding? k ≠ none ↔ ∃ d ∈ t.deeds, d.registers k = true)

/-- What stands in two lists one after the other stands in the first or in the second. -/
theorem append_eq_append_cons {β : Type} {l l' p q : List β} {b : β} (h : l ++ l' = p ++ b :: q) :
    (∃ q', l = p ++ b :: q') ∨ ∃ p', p = l ++ p' ∧ l' = p' ++ b :: q := by
  rcases List.append_eq_append_iff.1 h with ⟨p', hp, hl'⟩ | ⟨_ | ⟨b', q'⟩, hl, hq⟩
  · exact .inr ⟨p', hp, hl'⟩
  · exact .inr ⟨[], by simpa using hl.symm, by simpa using hq.symm⟩
  · obtain ⟨rfl, -⟩ := List.cons.inj hq
    exact .inl ⟨q', hl⟩

namespace Watched

variable {x : LinkEnd} {table table' : LinkTable} {t : Trail α}

/-- A connection that a peer opens. -/
theorem opened (peer : Option Address) (hfree : table.sessions.binding? k = none) :
    Watched k limit ⟨.inbound k, .new peer limit⟩ table (.empty : Trail α) := by
  have hsplit : Frame.split limit [] = ⟨[], [], none⟩ := Frame.split_of_none rfl
  refine ⟨rfl, rfl, fun p d q h => ?_, ?_, fun _ => ?_, rfl, rfl, fun _ => ⟨rfl, ?_, ?_, ?_, ?_⟩⟩
  · cases p <;> cases h
  all_goals simp [Trail.empty, hsplit, hfree, Connection.new]

/-- More traffic in its queue makes no difference. -/
theorem fed {linked : Prop} {x' : LinkEnd} (h : Watched k limit x table t)
    (hfed : x.Fed linked x')
    (hbinding : table'.sessions.binding? k = table.sessions.binding? k) :
    Watched k limit x' table' t := by
  obtain ⟨o, ⟨more, rfl, -, hmore⟩, rfl⟩ := hfed
  have hnone : (Connection.frames more).count welcome = 0 := by
    refine List.count_eq_zero.2 fun hmem => ?_
    obtain ⟨y, hy, hwelcome⟩ := List.mem_filterMap.1 hmem
    rcases hmore y hy with rfl | ⟨-, kind, payload, bytes, rfl, hbytes⟩
    · cases hwelcome
    · obtain ⟨-, -, rfl⟩ := Frame.encode_eq_ok_iff.1 hbytes
      -- the mark of a package is not that of an answer
      have hmark : (PackageKind.parcel kind).byte = PackageKind.registerResponse.byte :=
        congrArg Frame.mark (Frame.write_inj (Option.some.inj hwelcome))
      have hkind := congrArg PackageKind.ofByte? hmark
      rw [PackageKind.ofByte?_byte, PackageKind.ofByte?_byte] at hkind
      cases hkind
  refine ⟨h.role, h.bounded, h.judged, h.frames, h.complete, h.delivered, ?_, fun hlive => ?_⟩
  · rw [← h.answers]
    simp [hnone]
  · rw [hbinding]
    exact h.live hlive

/-- An event other than a read makes no difference. -/
theorem calm {c' : Connection} {e : Connection.Event} (h : Watched k limit x table t)
    (hcalm : Connection.Calm x.connection e c')
    (hbinding : c'.IsLive → table'.sessions.binding? k = table.sessions.binding? k) :
    Watched k limit ⟨.inbound k, c'⟩ table' (t.add ⟨[], [], [], x.connection.taken e⟩) := by
  have hadd : t.add ⟨[], [], [], x.connection.taken e⟩ =
      ⟨t.read, t.deeds, t.delivered, t.taken ++ x.connection.taken e⟩ := by
    simp [Trail.add]
  rw [hadd]
  refine ⟨rfl, hcalm.limit.trans h.bounded, h.judged, h.frames, h.complete, h.delivered, ?_,
    fun hlive => ?_⟩
  · rw [← h.answers, List.append_assoc, hcalm.taken]
  · obtain ⟨hbefore, haccepting⟩ := hcalm.live hlive
    obtain ⟨ha, hok, hfault, hrest, hbound⟩ := h.live hbefore
    exact ⟨haccepting.trans ha, hok, hfault, hrest.trans hcalm.buffer.symm, by rwa [hbinding hlive]⟩

/-- What is read is handed on behind what was read before. -/
theorem read [Vocabulary α] {core : Core α} {c : ConnectionId} {bytes : Octets}
    (h : Watched k limit x core.table t) (hc : core.table.connection? k = some c)
    (hlimit : 4 ≤ limit) (hphase : x.connection.phase = .serving .idle) :
    let s := x.step core (.received bytes)
    Watched k limit ⟨s.state.2, s.connection⟩ s.state.1.table (t.add ⟨bytes,
      (x.connection.step Role.handler.logged ((core, x.role), []) (.received bytes)).state.2,
      s.state.1.delivered.drop core.delivered.length, []⟩) := by
  obtain ⟨role, o, phase, buffer⟩ := x
  obtain rfl : phase = .serving .idle := hphase
  obtain rfl : role = .inbound k := h.role
  obtain rfl : o.limit = limit := h.bounded
  obtain ⟨haccepting, hok, hfault, hrest, hbound⟩ := h.live trivial
  have hframes := h.complete hok
  -- what is split off now stands behind what was split off before
  have hsplit := @Frame.split_append o.limit t.read bytes
  simp only [hfault, hrest, ← hframes] at hsplit
  generalize hfs : (Frame.split o.limit (buffer ++ bytes)).frames = fs at hsplit
  have handed := handed_hand hc haccepting hlimit hbound fs
  have hprefix := Role.handler.map_frame_deeds_prefix (core, .inbound k) o fs
  obtain ⟨hstate, hafter⟩ := Connection.step_received Role.handler (core, .inbound k) o buffer bytes
  have hlog := Connection.log_step_received Role.handler (core, .inbound k) o buffer bytes
  obtain ⟨hqueue, hlimits⟩ :=
    Connection.outlet_step_received Role.handler (core, .inbound k) o buffer bytes
  simp only [LinkEnd.step]
  rw [hfs] at hstate hafter hlog hqueue hlimits
  rw [hstate, hlog]
  generalize hds : Role.handler.deeds (core, .inbound k) o fs = ds at handed hprefix
  have hbounded : (Connection.step Role.handler (core, .inbound k) ⟨o, .serving .idle, buffer⟩
      (.received bytes)).connection.outlet.limit = o.limit :=
    hlimits.trans handed.limit
  refine ⟨handed.role, hbounded, fun p d q heq => ?_, ?_, fun hall => ?_, ?_, ?_, fun hlive => ?_⟩
  · -- a frame handled before was not fatal, since the connection still serves
    rcases append_eq_append_cons heq with ⟨q', hq'⟩ | ⟨p', rfl, hp'⟩
    · exact ⟨(h.judged p d q' hq').1, absurd (hok d (by rw [hq']; simp))⟩
    · exact ⟨handed.judged p' d q hp', Handler.eq_nil_of_deeds_eq (hds.trans hp')⟩
  · rw [Trail.add, hsplit, List.map_append]
    exact (List.prefix_append_right_inj _).2 hprefix
  · rw [Trail.add, hsplit, List.map_append, ← hds, Handler.map_frame_deeds]
    rw [Handler.hand_fault_eq_none_iff, hds]
    exact fun d hd => hall d (List.mem_append_right _ hd)
  · rw [Trail.add, h.delivered, handed.delivered, List.drop_left, List.flatMap_append]
  · rw [Trail.add, hqueue, List.append_nil, List.count_append, handed.answers,
      List.countP_append, ← h.answers, List.count_append, Nat.add_assoc]
  · rcases hafter with ⟨hafter, hhand, hnone⟩ | ⟨rest, hafter⟩
    · rw [Trail.add, hsplit, hafter]
      rw [Handler.hand_fault_eq_none_iff, hds] at hhand
      refine ⟨handed.accepting, fun d hd => ?_, hnone, rfl, handed.bound⟩
      exact (List.mem_append.1 hd).elim (hok d) (hhand d)
    · rw [hafter] at hlive
      exact hlive.elim

end Watched

end Inbound

namespace Member

open Inbound

variable {α : Type} [Vocabulary α] {m m₀ : Member α} {c : ConnectionId} {k : Ticket} {limit : Nat}
  {t : Trail α} {x : LinkEnd}

theorem trail_of_none (m : Member α) (hx : m.ends[c.value]? = none) (a : Action α) :
    m.trail c a = .empty := by
  unfold trail
  split
  · rw [hx]
  · rfl

/-- What is written down of an event other than a read is nothing. -/
theorem trail_calm {e : Connection.Event} (hx : m.ends[c.value]? = some x)
    (he : ∀ bytes, ¬ (x.connection.phase = .serving .idle ∧ e = .received bytes)) :
    m.trail c (.event c e) = ⟨[], [], [], x.connection.taken e⟩ := by
  have hheard := Connection.heard_eq_nil he
  have hlog : (x.connection.step Role.handler.logged ((m.core, x.role), []) e).state.2 = [] := by
    rcases Connection.step_state_calm (h := Role.handler.logged) (fun _ _ => rfl)
      ((m.core, x.role), []) he with h | ⟨h, -⟩ <;> rw [h]
    rfl
  have hdelivered : (m.happen c e).1.core.delivered = m.core.delivered := by
    rw [core_happen hx, LinkEnd.step]
    rcases Connection.step_state_calm (h := Role.handler) (fun _ _ => rfl) (m.core, x.role) he
      with h | ⟨h, -⟩ <;> rw [h]
    cases x.role <;> rfl
  simp only [trail, hx, if_true, hheard, hlog, hdelivered, List.drop_length]

/-- A connection that is watched stays so. -/
theorem watched_act (hs : m.Sound) (hlimit : 4 ≤ limit) (hx : m.ends[c.value]? = some x)
    (h : Watched k limit x m.table t) (a : Action α) :
    ∃ x', (m.act a).ends[c.value]? = some x' ∧
      Watched k limit x' (m.act a).table (t.add (m.trail c a)) := by
  have hk : x.role.session? = some k := by rw [h.role]; rfl
  by_cases ha : ∃ e, a = .event c e
  · obtain ⟨e, rfl⟩ := ha
    have hself := getElem?_ends_happen (e := e) hx c
    rw [if_pos rfl] at hself
    have htable : (m.happen c e).1.table = (x.step m.core e).state.1.table := by
      rw [table, core_happen hx]
    refine ⟨_, hself, ?_⟩
    rw [act, htable]
    -- frames are handled only when octets arrive at a connection that reads
    by_cases he : ∃ bytes, x.connection.phase = .serving .idle ∧ e = .received bytes
    · obtain ⟨bytes, hphase, rfl⟩ := he
      have htrail : m.trail c (.event c (.received bytes)) = ⟨bytes,
          (x.connection.step Role.handler.logged ((m.core, x.role), []) (.received bytes)).state.2,
          (x.step m.core (.received bytes)).state.1.delivered.drop m.core.delivered.length,
          []⟩ := by
        simp [trail, hx, core_happen hx, Connection.heard, Connection.taken, hphase]
      rw [htrail]
      exact h.read (hs.session c x k hx hk) hlimit hphase
    · have hcalm := Connection.step_calm (h := Role.handler) (fun _ _ => rfl) (m.core, x.role)
        fun bytes hbytes => he ⟨bytes, hbytes⟩
      rw [trail_calm hx fun bytes hbytes => he ⟨bytes, hbytes⟩]
      obtain ⟨hrole, hbinding⟩ : (x.step m.core e).state.2 = .inbound k ∧
          ((x.step m.core e).connection.IsLive →
            (x.step m.core e).state.1.table.sessions.binding? k =
              m.table.sessions.binding? k) := by
        rcases Connection.step_state_calm (h := Role.handler) (fun _ _ => rfl) (m.core, x.role)
          fun bytes hbytes => he ⟨bytes, hbytes⟩ with hstate | ⟨hstate, hended⟩
        · rw [LinkEnd.step, hstate]
          exact ⟨h.role, fun _ => rfl⟩
        · -- the session goes with the connection, which does not serve any more
          rw [LinkEnd.step, hstate, h.role]
          refine ⟨rfl, fun hlive => ?_⟩
          rw [← h.role, Connection.IsLive, hended] at hlive
          exact hlive.elim
      rw [hrole]
      exact h.calm hcalm hbinding
  · have ha' : ∀ e, a ≠ .event c e := fun e heq => ha ⟨e, heq⟩
    have hnone : m.trail c a = .empty := by
      unfold trail
      split
      · rename_i d e
        split
        · rw [if_neg fun hd => ha' e (by rw [hd])]
        · rfl
      · rfl
    obtain ⟨x', hx', hfed, hbinding⟩ := hs.fed_of_change (change_act m a) ha' hx
    rw [hnone, Trail.add_empty]
    exact ⟨x', hx', h.fed hfed (hbinding k hk)⟩

/-- What holds of a member and of the trail of one of its connections, whatever happens. -/
structure Follows (limit : Nat) (c : ConnectionId) (m : Member α) (t : Trail α) : Prop where
  sound : m.Sound
  config : m.config.timings.maxFrameSize = limit
  unopened : m.ends[c.value]? = none → t = .empty
  watched : ∀ x k, m.ends[c.value]? = some x → x.role = .inbound k → Watched k limit x m.table t

/-- A connection that has just been made and is inbound was opened by a peer. -/
theorem watched_of_change {a : Action α} {m' : Member α} (hc : Change m a m')
    (hnone : m.ends[c.value]? = none) (hx : m'.ends[c.value]? = some x)
    (hrole : x.role = .inbound k) :
    Watched k m.config.timings.maxFrameSize x m'.table (.empty : Trail α) := by
  cases hc with
  | quiet hq =>
    obtain ⟨e, he, -⟩ := hq.exists_fed hx
    cases hnone.symm.trans he
  | accept peer =>
    rcases getElem?_ends_append hx with hx | ⟨rfl, rfl⟩
    · cases hnone.symm.trans hx
    · cases hrole
      refine .opened peer ?_
      refine (m.table.sessions.binding?_create m.nextConnection peer _).trans ?_
      simp [Sessions.binding?, Sessions.get?]
  | dialed _ _ hd =>
    obtain ⟨queue, -, hends⟩ := hd.ends
    rw [hends] at hx
    rcases getElem?_ends_append hx with hx | ⟨rfl, rfl⟩
    · cases hnone.symm.trans hx
    · cases hrole
  | install _ _ _ _ => cases hnone.symm.trans hx
  | clear _ _ _ hq =>
    obtain ⟨e, he, -⟩ := hq.exists_fed hx
    cases hnone.symm.trans he
  | event d e =>
    cases hy : m.ends[d.value]? with
    | none =>
      rw [happen_of_none hy] at hx
      cases hnone.symm.trans hx
    | some y =>
      rw [getElem?_ends_happen hy] at hx
      split at hx
      · rename_i hd
        subst hd
        cases hnone.symm.trans hy
      · cases hnone.symm.trans hx

theorem Follows.act (h : Follows limit c m t) (hlimit : 4 ≤ limit) (a : Action α) :
    Follows limit c (m.act a) (t.add (m.trail c a)) := by
  have hchange := change_act m a
  refine ⟨h.sound.change hchange, by rw [hchange.config, h.config], fun hx' => ?_,
    fun x' k hx' hrole => ?_⟩
  · have hx : m.ends[c.value]? = none := by
      cases hx : m.ends[c.value]? with
      | none => rfl
      | some x =>
        obtain ⟨x'', hx'', -⟩ := h.sound.becomes_of_change hchange hx
        cases hx'.symm.trans hx''
    rw [h.unopened hx, m.trail_of_none hx a]
    rfl
  · cases hx : m.ends[c.value]? with
    | none =>
      rw [h.unopened hx, m.trail_of_none hx a, ← h.config]
      exact watched_of_change hchange hx hx' hrole
    | some x =>
      obtain ⟨x'', hx'', hbecomes⟩ := h.sound.becomes_of_change hchange hx
      cases hx'.symm.trans hx''
      have hinbound : x.role = .inbound k :=
        Role.eq_inbound_of_session? (hbecomes.1.symm.trans (by rw [hrole]; rfl))
      obtain ⟨y, hy, hwatched⟩ := watched_act h.sound hlimit hx (h.watched x k hx hinbound) a
      cases hx'.symm.trans hy
      exact hwatched

theorem Follows.follow (h : Follows limit c m t) (hlimit : 4 ≤ limit) (as : List (Action α)) :
    Follows limit c (m.follow c t as).1 (m.follow c t as).2 := by
  induction as generalizing m t with
  | nil => exact h
  | cons a rest ih => exact ih (h.act hlimit a)

/-! ### The gate -/

/-- What the gate says of an inbound connection of a member and of what it has done so far. -/
structure Gated (k : Ticket) (m : Member α) (c : ConnectionId) (x : LinkEnd) (t : Trail α) :
    Prop where
  /-- The frames that were handled are those that arrived, in their order, and all of them unless
  one was fatal. -/
  arrived : ∃ unhandled, (Frame.split m.config.timings.maxFrameSize t.read).frames =
      t.deeds.map (·.frame) ++ unhandled ∧
    ((∀ d ∈ t.deeds, d.reaction.fault = none) → unhandled = [])
  /-- What the connection delivered is what these frames delivered, in their order. -/
  delivered : t.delivered = t.deeds.flatMap (·.delivered)
  /-- Nothing is delivered unless an earlier frame was a request that bound the session. -/
  registered : ∀ pre d post, t.deeds = pre ++ d :: post → d.delivered ≠ [] →
    ∃ b ∈ pre, b.kind? = some .registerRequest ∧ b.registers k = true
  /-- What every frame does, given whether an earlier one bound the session. -/
  judged : ∀ pre d post, t.deeds = pre ++ d :: post →
    Judged k (∃ b ∈ pre, b.registers k = true) d
  /-- Nothing is handled behind a fatal frame, and what arrives then does nothing to the member. -/
  last : ∀ pre d post, t.deeds = pre ++ d :: post → d.reaction.fault ≠ none →
    post = [] ∧ ∀ bytes, m.act (.event c (.received bytes)) = m
  /-- At most one frame binds the session. -/
  once : t.deeds.countP (·.registers k) ≤ 1
  /-- Of all frames that were ever queued, as many admit. -/
  welcomes : (t.taken ++ Connection.frames x.connection.outlet.queue).count welcome =
    t.deeds.countP (·.registers k)

omit [Vocabulary α] in
/-- Where no frame binds behind one that does, one binds at most. -/
theorem countP_registers_le_one {ds : List (Deed (Core α × Role))}
    (h : ∀ p d q, ds = p ++ d :: q → (∃ b ∈ p, b.registers k = true) → d.registers k = false) :
    ds.countP (·.registers k) ≤ 1 := by
  induction ds with
  | nil => exact Nat.zero_le 1
  | cons d rest ih =>
    have hrest : rest.countP (·.registers k) ≤ 1 :=
      ih fun p d' q heq hb => h (d :: p) d' q (by rw [heq]; rfl)
        (hb.imp fun b hb => ⟨List.mem_cons_of_mem d hb.1, hb.2⟩)
    cases hd : d.registers k with
    | false => rwa [List.countP_cons_of_neg (by simp [hd])]
    | true =>
      -- no frame behind this one binds
      have hnone : rest.countP (·.registers k) = 0 := by
        refine List.countP_eq_zero.2 fun d' hd' => ?_
        obtain ⟨p, q, rfl⟩ := List.append_of_mem hd'
        have hfalse := h (d :: p) d' q rfl ⟨d, List.mem_cons_self .., hd⟩
        simp [hfalse]
      rw [List.countP_cons_of_pos (by simp [hd])]
      omega

/-- An inbound connection of a member that is not live takes no more octets. -/
theorem act_received_of_not_isLive (hx : m.ends[c.value]? = some x)
    (hdead : ¬ x.connection.IsLive) (bytes : Octets) :
    m.act (.event c (.received bytes)) = m := by
  obtain ⟨role, o, phase, buffer⟩ := x
  obtain ⟨hlt, hget⟩ := List.getElem?_eq_some_iff.1 hx
  have hstep : Connection.step Role.handler (m.core, role) ⟨o, phase, buffer⟩ (.received bytes) =
      ⟨(m.core, role), ⟨o, phase, buffer⟩, []⟩ := by
    cases phase with
    | made | serving => exact absurd trivial hdead
    | draining w => cases w <;> rfl
    | closing | ended => rfl
  simp only [act, happen, hx, hstep]
  rw [← hget, List.set_getElem_self]

/-- Whatever a member does, its inbound connections are gated. -/
theorem gated_of_follow {config : Config} (h₀ : ofConfig config = .ok m₀)
    (hlimit : 4 ≤ config.timings.maxFrameSize) {as : List (Action α)}
    (run : m₀.follow c .empty as = (m, t)) (hx : m.ends[c.value]? = some x)
    (hrole : x.role = .inbound k) : Gated k m c x t := by
  have hfresh := fresh_ofConfig h₀
  have hfollows : Follows config.timings.maxFrameSize c m₀ .empty :=
    ⟨hfresh.sound, by rw [hfresh.config], fun _ => rfl, fun x k hx => by
      rw [hfresh.ends] at hx
      cases hx⟩
  have hrun := hfollows.follow hlimit as
  rw [run] at hrun
  have hwatched := hrun.watched x k hx hrole
  rw [← hrun.config] at hwatched
  refine {
    arrived := ?_
    delivered := hwatched.delivered
    registered := fun pre d post heq hd => ?_
    judged := fun pre d post heq => (hwatched.judged pre d post heq).1
    last := fun pre d post heq hd => ⟨(hwatched.judged pre d post heq).2 hd, fun bytes => ?_⟩
    once := countP_registers_le_one fun p d q heq hb => (hwatched.judged p d q heq).1.once hb
    welcomes := hwatched.answers }
  · obtain ⟨unhandled, hsplit⟩ := hwatched.frames
    refine ⟨unhandled, hsplit.symm, fun hok => ?_⟩
    rw [← hwatched.complete hok] at hsplit
    exact List.append_right_eq_self.1 hsplit
  · have hbound : ∃ b ∈ pre, b.registers k = true := Classical.byContradiction fun hfree =>
      hd ((hwatched.judged pre d post heq).1.early hfree)
    obtain ⟨b, hmem, hb⟩ := hbound
    refine ⟨b, hmem, ?_, hb⟩
    -- only a request binds
    obtain ⟨p, q, rfl⟩ := List.append_of_mem hmem
    refine Classical.byContradiction fun hkind => ?_
    rw [List.append_assoc, List.cons_append] at heq
    have hsilent := ((hwatched.judged p b _ heq).1.silent hkind).2
    rw [hb] at hsilent
    cases hsilent
  · refine act_received_of_not_isLive hx (fun hlive => ?_) bytes
    obtain ⟨-, hok, -⟩ := hwatched.live hlive
    exact hd (hok d (by rw [heq]; simp))

/-- The last of three members watches an actor of the one in the middle. -/
def watching : LocalParcel Sample := .watch none ⟨⟨2⟩, ⟨120⟩, "a", ⟨1⟩⟩ ⟨7⟩ true

/-- It registers, watches twice, once with octets that cannot be read, and registers again; the
octets arrive in two reads, with the answer in between. -/
def intrusion : List (Action Sample) :=
  let request := (Registration.request ⟨3⟩).write
  let watch (payload : Octets) := (Frame.mk (PackageKind.parcel .watch).byte payload).write
  let good := ((Envelope.toPackage .empty watching).toOption.map (·.write)).getD []
  [.accept none, .event ⟨0⟩ .started, .event ⟨0⟩ (.received (request ++ [0, 0])),
    .event ⟨0⟩ .polled, .event ⟨0⟩ (.wrote 9), .event ⟨0⟩ .flushed,
    .event ⟨0⟩ (.received ((watch good).drop 2 ++ watch [1] ++ request ++ watch good))]

/-- The one in the middle, before anything happens. -/
def middle : Member Sample :=
  ⟨LinkTable.trio, ⟨.empty, ⟨⟨2⟩, 1, LinkTable.trio.members,
    LinkTable.initialPeers 1 LinkTable.trio.members, 0, false, .empty⟩, []⟩,
    .new ⟨2⟩ (.ofConfig LinkTable.trio), [], [], .notAsked, [.watchProxy, .requestProxy]⟩

theorem gated_of_follow_intrusion :
    ∃ (m : Member Sample) (t : Trail Sample) (x : LinkEnd),
      ofConfig LinkTable.trio = .ok middle ∧ 4 ≤ LinkTable.trio.timings.maxFrameSize ∧
      middle.follow ⟨0⟩ .empty intrusion = (m, t) ∧ m.ends[0]? = some x ∧
      x.role = .inbound ⟨0⟩ ∧ Gated ⟨0⟩ m ⟨0⟩ x t ∧ t.deeds.length = 4 ∧
      t.delivered = [.parcel watching] := by
  have h₀ : ofConfig LinkTable.trio = .ok middle := rfl
  have hlimit : 4 ≤ LinkTable.trio.timings.maxFrameSize := by decide
  have hx : ((middle.follow ⟨0⟩ .empty intrusion).1.ends[0]?).map (·.role) =
      some (.inbound ⟨0⟩) := by decide +kernel
  obtain ⟨x, hx, hrole⟩ := Option.map_eq_some_iff.1 hx
  have run : middle.follow ⟨0⟩ .empty intrusion = (_, _) := (Prod.eta _).symm
  exact ⟨_, _, x, h₀, hlimit, run, hx, hrole, gated_of_follow h₀ hlimit run hx hrole,
    by decide +kernel, by decide +kernel⟩

end Member

end ActorMesh
