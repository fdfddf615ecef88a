import ActorMesh.Proofs.Members.Isolation
import ActorMesh.Proofs.Members.Lasting
import ActorMesh.Proofs.Members.Sending

/-!
# Sending does all or nothing

Five conditions decide whether an envelope can be sent, one after another: it can be written, the
other member is a peer, the link to it is up, what was written fits into a frame, and the connection
of the link still accepts frames (`Member.Clear`). Where all of them hold, one frame is queued on
that connection and nothing else changes. Otherwise the failure tells of the first one that does not
hold (`Member.Obstacle`), and nothing changes at all.

So what is queued on the connection of a link after any number of attempts are the frames of those
that succeeded, in their order (`Member.allOrNothing_of_run`).
-/

namespace ActorMesh

/-- Whether a member is another one of the configuration. -/
def Config.IsPeer (c : Config) (s : SystemId) : Prop := s ∈ c.memberIds ∧ s ≠ c.localId

/-- The frame that carries an envelope. -/
def EncodedEnvelope.frame (encoded : EncodedEnvelope) : Frame :=
  ⟨encoded.kind.byte, encoded.payload⟩

theorem Envelope.frame?_of_encode {α : Type} [Vocabulary α] {r : Registry α} {e : Envelope α}
    {encoded : EncodedEnvelope} (h : e.encode r = .ok encoded) :
    e.frame? r = some encoded.frame := by
  cases e with
  | outerWatch | outerRequest => cases h
  | parcel p =>
    cases hpk : toPackage r p with
    | error fault =>
      simp only [encode, hpk] at h
      cases h
    | ok pk =>
      simp only [encode, hpk] at h
      cases h
      simp only [frame?, hpk]
      rfl

namespace Member

variable {α : Type} [Vocabulary α] {config : Config} {m m' : Member α} {s : SystemId}
  {e : Envelope α} {encoded : EncodedEnvelope} {c : ConnectionId} {x : LinkEnd}

/-! ### Peers and their links -/

/-- What sending relies on, whatever the member did before. -/
structure Ready (config : Config) (m : Member α) : Prop where
  tended : m.Tended
  config_eq : m.config = config
  /-- The limit of every connection is that of the configuration. -/
  orderly : m.Orderly
  /-- There is a link for every other member, and for nobody else. -/
  isPeer_iff : ∀ s, (m.table.link? s).isSome = true ↔ config.IsPeer s

omit [Vocabulary α] in
theorem ready_ofConfig (h : ofConfig config = .ok m) : m.Ready config := by
  have hfresh := fresh_ofConfig h
  have hnd := (Config.validate_eq_ok_iff.1 hfresh.valid).2.1
  obtain ⟨i, hi, ⟨own, hown, hid⟩, ht⟩ := LinkTable.ofConfig_of_validate hfresh.valid
  have htable : m.table = ⟨config.localId, i, config.members,
      LinkTable.initialPeers i config.members, 0, false, .empty⟩ := by
    simp only [ofConfig, hfresh.valid, ht] at h
    cases h
    rfl
  refine ⟨tended_ofConfig h, hfresh.config, hfresh.orderly, fun s => ?_⟩
  rw [LinkTable.isSome_link?, htable]
  constructor
  · intro hs
    obtain ⟨dialed, hdialed⟩ := Option.isSome_iff_exists.1 hs
    obtain ⟨j, p, hp, hj, rfl, -⟩ := LinkTable.of_dials?_ofConfig hi ht hdialed
    refine ⟨List.mem_map_of_mem (List.mem_of_getElem? hp), fun hlocal => hj ?_⟩
    have hids : config.memberIds[j]? = config.memberIds[i]? := by
      rw [Config.memberIds, List.getElem?_map, List.getElem?_map, hp, hown, Option.map_some,
        Option.map_some, hid, hlocal]
    refine (List.getElem?_inj ?_ hnd).1 hids
    rw [Config.memberIds, List.length_map]
    exact (List.getElem?_eq_some_iff.1 hp).1
  · intro hs
    obtain ⟨hmem, hlocal⟩ := hs
    obtain ⟨p, hp, rfl⟩ := List.mem_map.1 hmem
    obtain ⟨j, hj⟩ := List.mem_iff_getElem?.1 hp
    have hji : j ≠ i := by
      intro heq
      rw [heq, hown] at hj
      cases hj
      exact hlocal hid
    rw [LinkTable.dials?_ofConfig hfresh.valid hi ht hj hji]
    rfl

theorem Ready.act (h : m.Ready config) (a : Action α) : (m.act a).Ready config := by
  have hchange := change_act m a
  obtain ⟨-, hdials, -⟩ := (course_act h.tended.sound a).effect h.tended
  refine ⟨h.tended.act a, hchange.config.trans h.config_eq, h.orderly.change hchange, fun s => ?_⟩
  rw [LinkTable.isSome_link?, hdials, ← LinkTable.isSome_link?]
  exact h.isPeer_iff s

theorem Ready.run (h : m.Ready config) (as : List (Action α)) : (m.run as).Ready config := by
  induction as generalizing m with
  | nil => exact h
  | cons a as ih => exact ih (h.act a)

omit [Vocabulary α] in
/-- A link that is up has a connection, with the limit of the configuration. -/
theorem Ready.exists_end (h : m.Ready config) (hs : config.IsPeer s)
    (up : m.table.link? s ≠ some .disconnected) :
    ∃ c x, m.linkConnection? s = some c ∧ m.ends[c.value]? = some x ∧
      x.connection.outlet.limit = config.timings.maxFrameSize := by
  have hsound := h.tended.sound
  have hlimit : ∀ {c : ConnectionId} {x : LinkEnd}, m.ends[c.value]? = some x →
      x.connection.outlet.limit = config.timings.maxFrameSize := fun {c x} hx => by
    rw [(h.orderly c x hx).limit_eq, h.config_eq]
  obtain ⟨l, hl⟩ := Option.isSome_iff_exists.1 ((h.isPeer_iff s).2 hs)
  cases l with
  | disconnected => exact absurd hl up
  | client c =>
    obtain ⟨x, hx, -⟩ := hsound.client s c hl
    exact ⟨c, x, linkConnection?_eq_some_iff.2 (.inl hl), hx, hlimit hx⟩
  | session k =>
    have hbound := (hsound.paired s k).1 hl
    obtain ⟨session, hk, -⟩ := Option.bind_eq_some_iff.1 hbound
    have hconnection : m.table.connection? k = some session.connection := by
      rw [LinkTable.connection?, hk, Option.map_some]
    obtain ⟨x, hx, -⟩ := hsound.inbound k session.connection hconnection
    exact ⟨_, x, linkConnection?_eq_some_iff.2 (.inr ⟨k, hl, hconnection⟩), hx, hlimit hx⟩

/-! ### What an attempt comes to -/

/-- Whether an encoded envelope fits into a frame: it is within the limit of the configuration, and
its length within the four octets that a frame has for it, should the limit be beyond them. -/
def FitsFrame (config : Config) (encoded : EncodedEnvelope) : Prop :=
  encoded.payload.length ≤ config.timings.maxFrameSize ∧ encoded.payload.length < UInt32.size

/-- Nothing stands in the way of an envelope for a member. -/
structure Clear (config : Config) (m : Member α) (s : SystemId) (e : Envelope α)
    (encoded : EncodedEnvelope) (c : ConnectionId) (x : LinkEnd) : Prop where
  encodes : e.encode m.core.registry = .ok encoded
  peer : config.IsPeer s
  up : m.table.link? s ≠ some .disconnected
  fits : FitsFrame config encoded
  /-- The connection of the link ... -/
  connection : m.linkConnection? s = some c
  ends : m.ends[c.value]? = some x
  /-- ... still accepts frames. -/
  accepting : x.connection.outlet.accepting = true

/-- What stands in the way of an envelope for a member: the first condition that does not hold. -/
inductive Obstacle (config : Config) (m : Member α) (s : SystemId) (e : Envelope α) :
    ClusterError → Prop
  | unwritable {fault : ClusterError} (encodes : e.encode m.core.registry = .error fault) :
      Obstacle config m s e fault
  | unknown {encoded : EncodedEnvelope} (encodes : e.encode m.core.registry = .ok encoded)
      (peer : ¬ config.IsPeer s) : Obstacle config m s e (.unknownSystem s)
  | down {encoded : EncodedEnvelope} (encodes : e.encode m.core.registry = .ok encoded)
      (peer : config.IsPeer s) (down : m.table.link? s = some .disconnected) :
      Obstacle config m s e (.peerDisconnected s)
  | tooLarge {encoded : EncodedEnvelope} (encodes : e.encode m.core.registry = .ok encoded)
      (peer : config.IsPeer s) (up : m.table.link? s ≠ some .disconnected)
      (fits : ¬ FitsFrame config encoded) : Obstacle config m s e
        (.link (.frameTooLarge encoded.payload.length config.timings.maxFrameSize))
  | closed {encoded : EncodedEnvelope} {c : ConnectionId} {x : LinkEnd}
      (encodes : e.encode m.core.registry = .ok encoded) (peer : config.IsPeer s)
      (up : m.table.link? s ≠ some .disconnected) (fits : FitsFrame config encoded)
      (connection : m.linkConnection? s = some c) (ends : m.ends[c.value]? = some x)
      (accepting : x.connection.outlet.accepting = false) :
      Obstacle config m s e (.link (.closed x.connection.outlet.peer))

/-- Frames were queued on a connection, and nothing else happened. -/
structure Queued (c : ConnectionId) (fs : List Frame) (m m' : Member α) : Prop where
  ends : ∀ d : ConnectionId, m'.ends[d.value]? =
    (m.ends[d.value]?).map fun x => if d = c then x.push fs else x
  other : m' = { m with ends := m'.ends }

theorem encode_frame_eq_ok (h : FitsFrame config encoded) :
    encoded.frame.encode config.timings.maxFrameSize = .ok encoded.frame.write :=
  Frame.encode_eq_ok_iff.2 ⟨h.1, h.2, rfl⟩

theorem encode_frame_eq_error (h : ¬ FitsFrame config encoded) :
    encoded.frame.encode config.timings.maxFrameSize =
      .error (.frameTooLarge encoded.payload.length config.timings.maxFrameSize) := by
  have hlong : encoded.payload.length > config.timings.maxFrameSize ∨
      encoded.payload.length ≥ Octets.capacity Frame.lengthWidth := by
    have hcapacity : Octets.capacity Frame.lengthWidth = UInt32.size := rfl
    unfold FitsFrame at h
    omega
  exact if_pos hlong

/-- An envelope for a link that is up is a matter of the outlet of its connection. -/
theorem send_of_linkConnection? (encodes : e.encode m.core.registry = .ok encoded)
    (connection : m.linkConnection? s = some c) (ends : m.ends[c.value]? = some x) :
    (∀ o, x.connection.outlet.send encoded.frame = .ok o → m.send s e = .ok (m.setOutlet c o)) ∧
      ∀ fault, x.connection.outlet.send encoded.frame = .error fault →
        m.send s e = .error (.link fault) := by
  obtain ⟨l, hl, hc⟩ := Option.bind_eq_some_iff.1 connection
  obtain ⟨peer, hpeer, rfl⟩ := Option.map_eq_some_iff.1 hl
  have houtlet : m.outlet? c = some x.connection.outlet := by rw [outlet?, ends, Option.map_some]
  constructor
  · intro o ho
    rw [EncodedEnvelope.frame] at ho
    simp only [send, encodes, hpeer, hc, houtlet, ho]
  · intro fault hfault
    rw [EncodedEnvelope.frame] at hfault
    simp only [send, encodes, hpeer, hc, houtlet, hfault]

/-- What stands in the way of an envelope is what its sender is told. -/
theorem Ready.send_of_obstacle (h : m.Ready config) {fault : ClusterError}
    (obstacle : Obstacle config m s e fault) : m.send s e = .error fault := by
  cases obstacle with
  | unwritable encodes => simp only [send, encodes]
  | unknown encodes peer =>
    have hnone : m.table.peers.get? s = none := by
      rw [← h.isPeer_iff, LinkTable.link?, Option.isSome_map, Bool.not_eq_true,
        Option.isSome_eq_false_iff, Option.isNone_iff_eq_none] at peer
      exact peer
    simp only [send, encodes, hnone]
  | down encodes peer down =>
    obtain ⟨p, hp, hlink⟩ := Option.map_eq_some_iff.1 down
    simp only [send, encodes, hp, hlink, connectionOf?]
  | tooLarge encodes peer up fits =>
    obtain ⟨c, x, connection, ends, hlimit⟩ := h.exists_end peer up
    refine (send_of_linkConnection? encodes connection ends).2 _ ?_
    rw [Outlet.send, hlimit, encode_frame_eq_error fits]
  | closed encodes peer up fits connection ends accepting =>
    have hlimit := (h.orderly _ _ ends).limit_eq
    rw [h.config_eq] at hlimit
    refine (send_of_linkConnection? encodes connection ends).2 _ ?_
    rw [Outlet.send, hlimit, encode_frame_eq_ok fits, accepting]
    rfl

/-- Where nothing stands in the way, the frame of the envelope is queued. -/
theorem Ready.send_of_clear (h : m.Ready config) (clear : Clear config m s e encoded c x) :
    ∃ m', m.send s e = .ok m' ∧ Queued c [encoded.frame] m m' := by
  have hlimit := (h.orderly _ _ clear.ends).limit_eq
  rw [h.config_eq] at hlimit
  have hsend : x.connection.outlet.send encoded.frame =
      .ok (x.push [encoded.frame]).connection.outlet :=
    Outlet.send_eq_ok_iff.2 ⟨_, hlimit ▸ encode_frame_eq_ok clear.fits, clear.accepting, rfl⟩
  refine ⟨m.setOutlet c (x.push [encoded.frame]).connection.outlet, ?_, fun d => ?_, rfl⟩
  · exact (send_of_linkConnection? clear.encodes clear.connection clear.ends).1 _ hsend
  · rw [getElem?_ends_setOutlet]
    by_cases hd : d = c
    · rw [if_pos hd, hd, clear.ends, Option.map_some, Option.map_some, if_pos rfl]
      rfl
    · rw [if_neg hd]
      simp only [hd, if_false, Option.map_id']

/-- Either something stands in the way, or nothing does. -/
theorem Ready.obstacle_or_clear (h : m.Ready config) (s : SystemId) (e : Envelope α) :
    (∃ fault, Obstacle config m s e fault) ∨ ∃ encoded c x, Clear config m s e encoded c x := by
  cases encodes : e.encode m.core.registry with
  | error fault => exact .inl ⟨_, .unwritable encodes⟩
  | ok encoded =>
    by_cases peer : config.IsPeer s
    · by_cases up : m.table.link? s = some .disconnected
      · exact .inl ⟨_, .down encodes peer up⟩
      · by_cases fits : FitsFrame config encoded
        · obtain ⟨c, x, connection, ends, -⟩ := h.exists_end peer up
          cases accepting : x.connection.outlet.accepting with
          | false => exact .inl ⟨_, .closed encodes peer up fits connection ends accepting⟩
          | true =>
            exact .inr ⟨encoded, c, x, encodes, peer, up, fits, connection, ends, accepting⟩
        · exact .inl ⟨_, .tooLarge encodes peer up fits⟩
    · exact .inl ⟨_, .unknown encodes peer⟩

/-! ### One attempt after another -/

/-- A member after attempts to send, and what each of them came to. -/
def sendAll (m : Member α) : List (SystemId × Envelope α) →
    List ((SystemId × Envelope α) × Except ClusterError Unit) × Member α
  | [] => ([], m)
  | (s, e) :: rest =>
    match m.send s e with
    | .ok m' => (((s, e), .ok ()) :: (m'.sendAll rest).1, (m'.sendAll rest).2)
    | .error fault => (((s, e), .error fault) :: (m.sendAll rest).1, (m.sendAll rest).2)

/-- The frames of the envelopes that were sent to a member with success. -/
def framesTo (r : Registry α) (s : SystemId)
    (log : List ((SystemId × Envelope α) × Except ClusterError Unit)) : List Frame :=
  log.filterMap fun
    | ((s', e), .ok ()) => if s' = s then e.frame? r else none
    | _ => none

theorem framesTo_cons_ok (r : Registry α) (s s' : SystemId) (e : Envelope α)
    (log : List ((SystemId × Envelope α) × Except ClusterError Unit)) :
    framesTo r s (((s', e), .ok ()) :: log) =
      (if s' = s then (e.frame? r).toList else []) ++ framesTo r s log := by
  unfold framesTo
  by_cases hs : s' = s
  · cases hf : e.frame? r <;> simp [hs, hf]
  · simp [hs]

omit [Vocabulary α] in
theorem Queued.linkConnection? {fs : List Frame} (h : Queued c fs m m') (s : SystemId) :
    m'.linkConnection? s = m.linkConnection? s := by
  rw [h.other]
  rfl

/-- What attempts to send came to, one after another. -/
structure Attempted (m : Member α) (xs : List (SystemId × Envelope α)) : Prop where
  /-- They are made in the order of the calls. -/
  called : (m.sendAll xs).1.map Prod.fst = xs
  /-- What is queued for a member are the frames of those for it that succeeded, ... -/
  queue : ∀ s c x, m.linkConnection? s = some c → m.ends[c.value]? = some x →
    (m.sendAll xs).2.ends[c.value]? = some (x.push (framesTo m.core.registry s (m.sendAll xs).1))
  /-- ... and nothing is queued on connections of no link, ... -/
  unlinked : ∀ c, ¬ m.HasLink c → (m.sendAll xs).2.ends[c.value]? = m.ends[c.value]?
  /-- ... nor does anything else happen. -/
  other : (m.sendAll xs).2 = { m with ends := (m.sendAll xs).2.ends }

/-- What sending does at a member with a configuration, whomever it is for. -/
structure AllOrNothing (config : Config) (m : Member α) : Prop where
  /-- An envelope is sent exactly if nothing stands in the way. -/
  sent_iff : ∀ s e, (∃ m', m.send s e = .ok m') ↔ ∃ encoded c x, Clear config m s e encoded c x
  /-- Then one frame is queued, on the connection of the link to the member it is for, ... -/
  queued : ∀ s e m', m.send s e = .ok m' → ∃ encoded c x, Clear config m s e encoded c x ∧
    Queued c [encoded.frame] m m' ∧ ∀ s', m.linkConnection? s' = some c → s' = s
  /-- ... and the frame reads back as the mark and the payload of the envelope. -/
  reads : ∀ encoded, FitsFrame config encoded →
    Frame.decode config.timings.maxFrameSize encoded.frame.write = .ok (some (encoded.frame, []))
  /-- What fits is a matter of the limit, unless that is more than a frame can tell. -/
  limit : config.timings.maxFrameSize < UInt32.size → ∀ encoded,
    (FitsFrame config encoded ↔ encoded.payload.length ≤ config.timings.maxFrameSize)
  /-- If it is not sent, the failure is the first condition that does not hold, ... -/
  failed_iff : ∀ s e fault, m.send s e = .error fault ↔ Obstacle config m s e fault
  /-- ... and the member is as before. -/
  unchanged : ∀ s e fault, Obstacle config m s e fault → m.act (.send s e) = m
  /-- What is queued after several attempts are the frames of those that succeeded, in order. -/
  attempted : ∀ xs, Attempted m xs

/-- An attempt comes to a failure or to a frame that is queued. -/
theorem Ready.send_cases (h : m.Ready config) (s : SystemId) (e : Envelope α) :
    (∃ fault, Obstacle config m s e fault ∧ m.send s e = .error fault) ∨
      ∃ encoded c x m', Clear config m s e encoded c x ∧ m.send s e = .ok m' ∧
        Queued c [encoded.frame] m m' := by
  obtain ⟨fault, obstacle⟩ | ⟨encoded, c, x, clear⟩ := h.obstacle_or_clear s e
  · exact .inl ⟨fault, obstacle, h.send_of_obstacle obstacle⟩
  · obtain ⟨m', hsend, hqueued⟩ := h.send_of_clear clear
    exact .inr ⟨encoded, c, x, m', clear, hsend, hqueued⟩

/-- A member that has sent an envelope is ready for the next one. -/
theorem Ready.sent (h : m.Ready config) (hsend : m.send s e = .ok m') : m'.Ready config := by
  have hact : m.act (.send s e) = m' := by
    rw [Member.act, hsend]
    rfl
  exact hact ▸ h.act (.send s e)

/-- Attempts queue the frames of those that succeed on the connections of their links. -/
theorem Ready.attempted (h : m.Ready config) (xs : List (SystemId × Envelope α)) :
    Attempted m xs := by
  induction xs generalizing m with
  | nil =>
    refine ⟨rfl, fun s c x _ hx => ?_, fun c _ => rfl, rfl⟩
    rw [framesTo, sendAll, List.filterMap_nil, LinkEnd.push_nil]
    exact hx
  | cons y rest ih =>
    obtain ⟨s', e⟩ := y
    obtain ⟨fault, -, hsend⟩ | ⟨encoded, c', x', m', clear, hsend, hqueued⟩ := h.send_cases s' e
    · have hrest := ih h
      have hfailed : m.sendAll ((s', e) :: rest) =
          (((s', e), .error fault) :: (m.sendAll rest).1, (m.sendAll rest).2) := by
        simp only [sendAll, hsend]
      constructor
      · rw [hfailed, List.map_cons, hrest.called]
      · rw [hfailed]
        exact hrest.queue
      · rw [hfailed]
        exact hrest.unlinked
      · rw [hfailed]
        exact hrest.other
    · have hrest := ih (h.sent hsend)
      have hsent : m.sendAll ((s', e) :: rest) =
          (((s', e), .ok ()) :: (m'.sendAll rest).1, (m'.sendAll rest).2) := by
        simp only [sendAll, hsend]
      have hregistry : m'.core.registry = m.core.registry := by rw [hqueued.other]
      constructor
      · rw [hsent, List.map_cons, hrest.called]
      · intro s c x hs hx
        -- the frame is on the connection of this link if and only if it is for its member
        have hlink : c = c' ↔ s' = s := by
          constructor
          · intro hc
            exact h.tended.eq_of_linkConnection? clear.connection (hc ▸ hs)
          · intro hs'
            exact Option.some.inj (hs.symm.trans (hs' ▸ clear.connection))
        have hx' := hqueued.ends c
        rw [hx, Option.map_some] at hx'
        rw [hsent, hrest.queue s c _ ((hqueued.linkConnection? s).trans hs) hx', hregistry,
          framesTo_cons_ok, Envelope.frame?_of_encode clear.encodes]
        by_cases hc : c = c'
        · rw [if_pos hc, if_pos (hlink.1 hc), LinkEnd.push_push]
          rfl
        · rw [if_neg hc, if_neg (hlink.not.1 hc), List.nil_append]
      · intro c hc
        have hne : c ≠ c' := by
          intro heq
          exact hc ⟨s', heq ▸ clear.connection⟩
        have hc' : ¬ m'.HasLink c := by
          intro hlinked
          obtain ⟨s, hs⟩ := hlinked
          exact hc ⟨s, (hqueued.linkConnection? s).symm.trans hs⟩
        rw [hsent, hrest.unlinked c hc', hqueued.ends]
        simp only [hne, if_false, Option.map_id']
      · rw [hsent, hrest.other, hqueued.other]

/-- Sending does all or nothing, whatever the member did before. -/
theorem allOrNothing_of_run {m₀ : Member α} (h₀ : ofConfig config = .ok m₀)
    (as : List (Action α)) : AllOrNothing config (m₀.run as) := by
  have h : (m₀.run as).Ready config := (ready_ofConfig h₀).run as
  exact {
    sent_iff := by
      intro s e
      constructor
      · intro hsent
        obtain ⟨m', hsend⟩ := hsent
        obtain ⟨fault, -, hfault⟩ | ⟨encoded, c, x, m'', clear, -, -⟩ := h.send_cases s e
        · cases hsend.symm.trans hfault
        · exact ⟨encoded, c, x, clear⟩
      · intro hclear
        obtain ⟨encoded, c, x, clear⟩ := hclear
        obtain ⟨m', hsend, -⟩ := h.send_of_clear clear
        exact ⟨m', hsend⟩
    queued := by
      intro s e m' hsend
      obtain ⟨fault, -, hfault⟩ | ⟨encoded, c, x, m'', clear, hsend', hqueued⟩ := h.send_cases s e
      · cases hsend.symm.trans hfault
      · cases hsend.symm.trans hsend'
        exact ⟨encoded, c, x, clear, hqueued, fun s' hs' =>
          h.tended.eq_of_linkConnection? hs' clear.connection⟩
    reads := by
      intro encoded fits
      have hread := Frame.decode_encode (encode_frame_eq_ok fits) []
      rwa [List.append_nil] at hread
    limit := by
      intro narrow encoded
      exact ⟨fun fits => fits.1, fun hle => ⟨hle, Nat.lt_of_le_of_lt hle narrow⟩⟩
    failed_iff := by
      intro s e fault
      refine ⟨fun hsend => ?_, h.send_of_obstacle⟩
      obtain ⟨fault', obstacle, hfault⟩ | ⟨encoded, c, x, m'', -, hsend', -⟩ := h.send_cases s e
      · cases hsend.symm.trans hfault
        exact obstacle
      · cases hsend.symm.trans hsend'
    unchanged := by
      intro s e fault obstacle
      rw [Member.act, h.send_of_obstacle obstacle]
      rfl
    attempted := h.attempted }

/-- Of three members the last one is linked to the one in the middle. Two watches of its actor are
sent to it; in between, the same goes to the first one, which is not linked, and to somebody
unknown, who is not looked for as long as the envelope cannot be written. -/
theorem allOrNothing_lastLinked :
    let m := middle.run claimed
    let watch (w : WatchType) : Envelope Sample :=
      .parcel (.watch none ⟨⟨3⟩, ⟨120⟩, "a", ⟨1⟩⟩ w true)
    let unwritable : Envelope Sample := .outerWatch ⟨⟨9⟩, ⟨120⟩, "a", ⟨1⟩⟩ ⟨7⟩ true ⟨0⟩
    let log := (m.sendAll [(⟨3⟩, watch ⟨7⟩), (⟨1⟩, watch ⟨7⟩), (⟨9⟩, unwritable), (⟨9⟩, watch ⟨7⟩),
      (⟨3⟩, watch ⟨8⟩)]).1
    ofConfig LinkTable.trio = .ok middle ∧ AllOrNothing LinkTable.trio m ∧
      log.map Prod.snd = [.ok (), .error (.peerDisconnected ⟨1⟩),
        .error (.notTransportable unwritable.kind), .error (.unknownSystem ⟨9⟩), .ok ()] ∧
      m.linkConnection? ⟨3⟩ = some ⟨0⟩ ∧
      (framesTo m.core.registry ⟨3⟩ log).map some =
        [(watch ⟨7⟩).frame? .empty, (watch ⟨8⟩).frame? .empty] := by
  intro m watch unwritable log
  have h₀ : ofConfig LinkTable.trio = .ok middle := rfl
  exact ⟨h₀, allOrNothing_of_run h₀ claimed, by decide +kernel, by decide +kernel,
    by decide +kernel⟩

end Member

end ActorMesh
