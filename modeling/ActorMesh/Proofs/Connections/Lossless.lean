import ActorMesh.Proofs.Connections.Reassembly
import ActorMesh.Proofs.Connections.Service
import Mathlib.Data.List.Infix

/-!
# No accepted frame is lost

While writing does not fail, a connection comes to its end only when every frame that was accepted
is written, also one that was accepted behind a request to close, or before a frame was rejected.
Whatever made it stop, its handler is told that it opened, of the frames that arrived, in their
order and up to one that it rejects, and at last that it closed (`Service.lossless_of_moves`).

What a handler is told is written down by a handler around it (`Handler.witnessed`), and
`Connection.told` says it event by event.
-/

namespace ActorMesh

variable {σ : Type}

/-! ### What handlers are told -/

/-- What a handler is told. -/
inductive Told
  | opened
  /-- A frame arrived, and was rejected or not. -/
  | frame (f : Frame) (fault : Option LinkError)
  | closed
  deriving DecidableEq, Repr

/-- A frame that a handler was given, and whether it rejected it. -/
def Deed.told (d : Deed σ) : Told := .frame d.frame d.reaction.fault

/-- What a handler is told when frames arrive: of all of them, or of those up to one that it
rejects. -/
inductive Handed (frames : List Frame) : List Told → Prop
  | all : Handed frames (frames.map (.frame · none))
  | rejected {fs rest : List Frame} {f : Frame} (e : LinkError) (h : frames = fs ++ f :: rest) :
    Handed frames (fs.map (.frame · none) ++ [.frame f (some e)])

theorem Handed.append_left {frames : List Frame} {log : List Told} (h : Handed frames log)
    (fs : List Frame) : Handed (fs ++ frames) (fs.map (.frame · none) ++ log) := by
  cases h with
  | all =>
    rw [← List.map_append]
    exact .all
  | @rejected fs' rest f e h =>
    rw [← List.append_assoc, ← List.map_append]
    exact .rejected e (by rw [h, List.append_assoc])

namespace Handler

/-- A handler that writes down what it is told. -/
def witnessed (h : Handler σ) : Handler (σ × List Told) where
  opened s o := (((h.opened s.1 o).1, s.2 ++ [.opened]), (h.opened s.1 o).2)
  frame s o f :=
    let r := h.frame s.1 o f
    ⟨(r.state, s.2 ++ [.frame f r.fault]), r.outlet, r.notices, r.fault⟩
  closed s o := (h.closed s.1 o, s.2 ++ [.closed])

theorem notes_witnessed (h : Handler σ) : h.Notes h.witnessed Deed.told := fun _ _ _ _ => rfl

theorem Fair.witnessed {h : Handler σ} (hfair : h.Fair) : h.witnessed.Fair :=
  ⟨fun s o => hfair.opened s.1 o, fun s o f => hfair.frame s.1 o f⟩

/-- What is written down of handing on frames. -/
theorem handed_deeds (h : Handler σ) (s : σ) (o : Outlet) (fs : List Frame) :
    Handed fs ((h.deeds s o fs).map Deed.told) := by
  induction fs generalizing s o with
  | nil => exact .all
  | cons f rest ih =>
    cases hf : (h.frame s o f).fault with
    | some e =>
      rw [deeds_cons_of_fault hf, List.map_singleton, Deed.told, hf]
      have hrejected : Handed (f :: rest) (([] : List Frame).map (.frame · none) ++
        [.frame f (some e)]) := .rejected e rfl
      exact hrejected
    | none =>
      rw [deeds_cons_of_ok hf, List.map_cons, Deed.told, hf]
      exact (ih _ _).append_left [f]

/-- If none is rejected, it is all of them. -/
theorem map_told_deeds {h : Handler σ} {s : σ} {o : Outlet} {fs : List Frame}
    (hok : (h.hand s o fs).fault = none) :
    (h.deeds s o fs).map Deed.told = fs.map (.frame · none) := by
  have hnone := hand_fault_eq_none_iff.1 hok
  calc (h.deeds s o fs).map Deed.told
      = (h.deeds s o fs).map ((.frame · none) ∘ (·.frame)) :=
        List.map_congr_left fun d hd => by rw [Deed.told, hnone d hd, Function.comp_apply]
    _ = ((h.deeds s o fs).map (·.frame)).map (.frame · none) := List.map_map.symm
    _ = fs.map (.frame · none) := by rw [map_frame_deeds hok]

end Handler

namespace Connection

variable {h : Handler σ} {c : Connection} {heard : Octets} {log : List Told} {limit : Nat}

/-- What a handler is told in an event. -/
def told (h : Handler σ) (s : σ) (c : Connection) (e : Event) : List Told :=
  match c.phase, e with
  | .made, .started => [.opened]
  | .serving .idle, .received bytes =>
    (h.deeds s c.outlet (Frame.split c.outlet.limit (c.buffer ++ bytes)).frames).map Deed.told
  | .closing, .shutDown => [.closed]
  | _, _ => []

/-- Writing down what a handler is told changes nothing else. -/
theorem step_witnessed (h : Handler σ) (s : σ) (log : List Told) (c : Connection) (e : Event) :
    c.step h.witnessed (s, log) e =
      ⟨((c.step h s e).state, log ++ c.told h s e), (c.step h s e).connection,
        (c.step h s e).notices⟩ := by
  unfold step told
  split
  case h_3 bytes hphase =>
    simp only [hphase, receive, dispatch_of_notes h.notes_witnessed]
    split <;> rfl
  all_goals simp_all [Handler.witnessed]

/-- Whether a handler has been told of what arrived at a connection: nothing before that runs, then
the opening, the frames in their order, and in the end the closing. -/
def Watched (limit : Nat) (c : Connection) (heard : Octets) (log : List Told) : Prop :=
  match c.phase with
  | .made => log = [] ∧ heard = [] ∧ c.buffer = []
  | .serving _ => ∃ fs, log = .opened :: fs.map (.frame · none) ∧
      Frame.split limit heard = ⟨fs, c.buffer, none⟩
  | .draining _ | .closing => ∃ cs, log = .opened :: cs ∧
      Handed (Frame.split limit heard).frames cs
  | .ended => ∃ cs, log = .opened :: cs ++ [.closed] ∧ Handed (Frame.split limit heard).frames cs

/-- Frames arrive at a connection that serves. -/
theorem Watched.receive (hlimit : c.outlet.limit = limit) (hphase : c.phase = .serving .idle)
    (hwatched : c.Watched limit heard log) (s : σ) (bytes : Octets) :
    (c.step h s (.received bytes)).connection.Watched limit (heard ++ bytes)
      (log ++ c.told h s (.received bytes)) := by
  obtain ⟨outlet, phase, buffer⟩ := c
  obtain rfl : phase = .serving .idle := hphase
  obtain rfl : outlet.limit = limit := hlimit
  obtain ⟨fs, rfl, hsplit⟩ := hwatched
  have hwhole : Frame.split outlet.limit (heard ++ bytes) = _ := Frame.split_append heard bytes
  simp only [hsplit] at hwhole
  obtain ⟨-, ⟨hafter, hhand, hfault⟩ | ⟨rest, hafter⟩⟩ :=
    step_received h s outlet buffer bytes
  · rw [hafter]
    refine ⟨fs ++ (Frame.split outlet.limit (buffer ++ bytes)).frames, ?_, ?_⟩
    · simp only [told, Handler.map_told_deeds hhand, List.cons_append, ← List.map_append]
    · rw [hwhole, hfault]
  · rw [hafter]
    refine ⟨_, rfl, ?_⟩
    rw [hwhole]
    exact (h.handed_deeds s outlet _).append_left fs

/-- A connection that stops has handed on all that arrived. -/
theorem Watched.stop {w : Writing} (hwatched : c.Watched limit heard log)
    (hphase : c.phase = .serving w) : c.stop.Watched limit heard log := by
  obtain ⟨outlet, phase, buffer⟩ := c
  obtain rfl : phase = .serving w := hphase
  obtain ⟨fs, rfl, hsplit⟩ := hwatched
  refine ⟨_, rfl, ?_⟩
  rw [hsplit]
  exact .all

theorem Watched.poll (hwatched : c.Watched limit heard log) (hidle : c.IsAt .idle) :
    c.poll.Watched limit heard log := by
  obtain ⟨⟨peer, limit', accepting, queue⟩, phase, buffer⟩ := c
  rcases hidle with hphase | hphase
  · obtain rfl : phase = .serving .idle := hphase
    rcases queue with _ | ⟨bytes | _, rest⟩
    · exact hwatched
    · exact hwatched
    · exact hwatched.stop rfl
  · obtain rfl : phase = .draining .idle := hphase
    rcases queue with _ | ⟨bytes | _, rest⟩ <;> exact hwatched

/-- Whatever happens, a handler is told of it in its place. -/
theorem Watched.step {e : Event} (hwatched : c.Watched limit heard log) (htakes : c.Takes limit)
    (hruns : e ≠ .discarded) (s : σ) :
    (c.step h s e).connection.Watched limit (heard ++ c.heard e) (log ++ c.told h s e) := by
  by_cases hread : ∃ bytes, c.phase = .serving .idle ∧ e = .received bytes
  · obtain ⟨bytes, hphase, rfl⟩ := hread
    rw [heard_received hphase]
    exact hwatched.receive htakes.limit_eq hphase s bytes
  · rw [heard_eq_nil (not_exists.1 hread), List.append_nil]
    obtain ⟨outlet, phase, buffer⟩ := c
    unfold Connection.step
    split
    case h_1 hphase =>
      obtain rfl : phase = _ := hphase
      obtain ⟨rfl, rfl, hbuffer⟩ := hwatched
      obtain rfl : buffer = [] := hbuffer
      exact ⟨[], rfl, Frame.split_of_none rfl⟩
    case h_2 => exact absurd rfl hruns
    case h_3 bytes hphase => exact absurd ⟨bytes, hphase, rfl⟩ hread
    case h_16 hphase =>
      obtain rfl : phase = _ := hphase
      obtain ⟨cs, rfl, hcs⟩ := hwatched
      exact ⟨cs, rfl, hcs⟩
    case h_17 =>
      unfold told
      split
      case h_4 =>
        rw [List.append_nil]
        exact hwatched
      all_goals simp_all
    all_goals
      rename_i hphase
      obtain rfl : phase = _ := hphase
      simp only [told, List.append_nil]
    case h_4 | h_5 | h_12 | h_13 => exact hwatched.stop rfl
    case h_6 => exact hwatched.poll (.inl rfl)
    case h_7 => exact hwatched.poll (.inr rfl)
    all_goals exact hwatched

end Connection

/-- Where writing does not fail, the frames that are left are the ones that are to be written. -/
theorem Ledger.event {accepted : List Octets} {written : Octets} {c c' : Connection}
    {e : Connection.Event} (hledger : Ledger accepted written c.pieces) (hstrides : c.Strides e c')
    (hwrites : e ≠ .writeFailed) (hruns : e ≠ .discarded) :
    Ledger (accepted ++ c.gained c') (written ++ c.emitted e) c'.pieces := by
  cases hstrides with
  | queues _ silent pieces _ =>
    rw [silent, List.append_nil, pieces]
    exact hledger.accept _
  | writes _ before emitted after gained =>
    rw [before] at hledger
    rw [gained, List.append_nil, emitted, after]
    exact hledger.write _
  | tears failed => exact absurd failed hwrites
  | ends failed =>
    rcases failed with failed | failed
    · exact absurd failed hwrites
    · exact absurd failed hruns

namespace Service

variable {h : Handler σ} {n : Service σ} {m : Move} {limit : Nat}

/-! ### What is accepted -/

/-- A connection in use of which nothing got lost. -/
structure Unbroken (limit : Nat) (n : Service σ) : Prop where
  takes : n.connection.Takes limit
  ledger : Ledger n.accepted n.written n.connection.pieces
  whole : ∀ bytes ∈ n.accepted, Frame.IsWritten limit bytes

theorem unbroken_new (s : σ) (peer : Option Address) (limit : Nat) :
    (new s peer limit).Unbroken limit :=
  ⟨Connection.takes_new peer limit, .between [] [], by simp [new]⟩

theorem Unbroken.event (hunbroken : n.Unbroken limit) (hfair : h.Fair) {e : Connection.Event}
    (hwrites : e ≠ .writeFailed) (hruns : e ≠ .discarded) :
    (n.after h (.event e)).Unbroken limit := by
  have hstrides := Connection.strides_step hfair n.state n.connection e
  refine ⟨takes_after hfair hunbroken.takes _, hunbroken.ledger.event hstrides hwrites hruns,
    fun bytes hmem => ?_⟩
  rcases List.mem_append.1 hmem with hmem | hmem
  · exact hunbroken.whole bytes hmem
  · rcases hstrides.gained_cases with hnone | ⟨-, hwritten⟩
    · simp [hnone] at hmem
    · exact hunbroken.takes.limit_eq ▸ hwritten bytes hmem

theorem Unbroken.after (hunbroken : n.Unbroken limit) (hfair : h.Fair)
    (hwrites : m ≠ .event .writeFailed) (hruns : m ≠ .event .discarded) :
    (n.after h m).Unbroken limit := by
  have htakes := takes_after hfair hunbroken.takes m
  rcases after_cases hunbroken.takes h m with ⟨e, rfl⟩ | heq | ⟨hlive, more, heq, hmore⟩
  · exact hunbroken.event hfair (fun he => hwrites (he ▸ rfl)) (fun he => hruns (he ▸ rfl))
  · rwa [heq]
  · rw [heq] at htakes ⊢
    refine ⟨htakes, ?_, fun bytes hmem => ?_⟩
    · rw [pieces_queue hlive]
      exact hunbroken.ledger.accept _
    · rcases List.mem_append.1 hmem with hmem | hmem
      · exact hunbroken.whole bytes hmem
      · exact hmore bytes hmem

theorem Unbroken.afterAll (hunbroken : n.Unbroken limit) (hfair : h.Fair) {ms : List Move}
    (hwrites : .event .writeFailed ∉ ms) (hruns : .event .discarded ∉ ms) :
    (n.afterAll h ms).Unbroken limit := by
  refine afterAll_keeps (fun _ m hm hkept => ?_) hunbroken
  exact hkept.after hfair (fun he => hwrites (he ▸ hm)) (fun he => hruns (he ▸ hm))

theorem accepted_prefix_after (htakes : n.connection.Takes limit) (h : Handler σ) (m : Move) :
    n.accepted <+: (n.after h m).accepted := by
  rcases after_cases htakes h m with ⟨e, rfl⟩ | heq | ⟨-, more, heq, -⟩
  · exact List.prefix_append ..
  · rw [heq]
  · rw [heq]
    exact List.prefix_append ..

/-- What was accepted stays accepted. -/
theorem accepted_prefix_afterAll (htakes : n.connection.Takes limit) (hfair : h.Fair)
    (ms : List Move) : n.accepted <+: (n.afterAll h ms).accepted := by
  refine (afterAll_keeps (P := fun n' => n'.connection.Takes limit ∧ n.accepted <+: n'.accepted)
    (fun n' m _ hn' => ?_) ⟨htakes, List.prefix_rfl⟩).2
  exact ⟨takes_after hfair hn'.1 m, hn'.2.trans (accepted_prefix_after hn'.1 h m)⟩

theorem accepted_after_of_stopped (htakes : n.connection.Takes limit) (hfair : h.Fair)
    (hstopped : ¬ n.connection.IsLive) (m : Move) :
    ¬ (n.after h m).connection.IsLive ∧ (n.after h m).accepted = n.accepted := by
  rcases after_cases htakes h m with ⟨e, rfl⟩ | heq | ⟨hlive, -⟩
  · have hagain := (htakes.step hfair n.state e).2
    have hgained := (Connection.strides_step hfair n.state n.connection e).gained_cases
    have hnone := hgained.resolve_right fun hlive => hstopped hlive.1
    exact ⟨fun hlive => hstopped (hagain hlive), by simp only [after, hnone, List.append_nil]⟩
  · rw [heq]
    exact ⟨hstopped, rfl⟩
  · exact absurd hlive hstopped

/-- Nothing is accepted by a connection that has stopped. -/
theorem accepted_afterAll (htakes : n.connection.Takes limit) (hfair : h.Fair)
    (hstopped : ¬ n.connection.IsLive) (ms : List Move) :
    (n.afterAll h ms).accepted = n.accepted := by
  refine (afterAll_keeps (P := fun n' => n'.connection.Takes limit ∧ ¬ n'.connection.IsLive ∧
    n'.accepted = n.accepted) (fun n' m _ hn' => ?_) ⟨htakes, hstopped, rfl⟩).2.2
  obtain ⟨htakes', hstopped', haccepted⟩ := hn'
  obtain ⟨hagain, hsame⟩ := accepted_after_of_stopped htakes' hfair hstopped' m
  exact ⟨takes_after hfair htakes' m, hagain, hsame.trans haccepted⟩

theorem after_of_ended (htakes : n.connection.Takes limit) (hended : n.connection.phase = .ended)
    (m : Move) : n.after h m = n := by
  rcases after_cases htakes h m with ⟨e, rfl⟩ | heq | ⟨hlive, -⟩
  · have hstep : n.connection.step h n.state e = ⟨n.state, n.connection, []⟩ := by
      unfold Connection.step
      split <;> simp_all
    simp only [after, hstep]
    simp [Connection.gained, Connection.heard, Connection.emitted, Connection.unwritten, hended]
  · exact heq
  · simp [Connection.IsLive, hended] at hlive

/-- Nothing happens to a connection that has come to its end. -/
theorem afterAll_of_ended (htakes : n.connection.Takes limit)
    (hended : n.connection.phase = .ended) (ms : List Move) : n.afterAll h ms = n := by
  refine afterAll_keeps (P := (· = n)) (fun n' m _ hn' => ?_) rfl
  rw [hn', after_of_ended htakes hended]

/-! ### What the handler is told -/

/-- What a handler is told is what it is told event by event. -/
theorem watched_after {n : Service (σ × List Told)} (htakes : n.connection.Takes limit)
    (hruns : m ≠ .event .discarded)
    (hwatched : n.connection.Watched limit n.heard n.state.2) :
    (n.after h.witnessed m).connection.Watched limit (n.after h.witnessed m).heard
      (n.after h.witnessed m).state.2 := by
  rcases after_cases htakes h.witnessed m with ⟨e, rfl⟩ | heq | ⟨-, more, heq, -⟩
  · have hstep := Connection.step_witnessed h n.state.1 n.state.2 n.connection e
    simp only [after, hstep]
    exact hwatched.step htakes (fun he => hruns (he ▸ rfl)) n.state.1
  · rwa [heq]
  · rw [heq]
    exact hwatched

theorem watched_afterAll {n : Service (σ × List Told)} (htakes : n.connection.Takes limit)
    (hfair : h.Fair) {ms : List Move} (hruns : .event .discarded ∉ ms)
    (hwatched : n.connection.Watched limit n.heard n.state.2) :
    let n' := n.afterAll h.witnessed ms
    n'.connection.Watched limit n'.heard n'.state.2 := by
  refine (afterAll_keeps (P := fun n' => n'.connection.Takes limit ∧
    n'.connection.Watched limit n'.heard n'.state.2) (fun _ m hm hn => ?_) ⟨htakes, hwatched⟩).2
  exact ⟨takes_after hfair.witnessed hn.1 m, watched_after hn.1 (fun he => hruns (he ▸ hm)) hn.2⟩

/-- A connection in use, without what was written down. -/
def unwitnessed (n : Service (σ × List Told)) : Service σ :=
  ⟨n.state.1, n.connection, n.accepted, n.heard, n.written, n.torn⟩

theorem unwitnessed_after (h : Handler σ) (n : Service (σ × List Told)) (m : Move) :
    (n.after h.witnessed m).unwitnessed = n.unwitnessed.after h m := by
  cases m with
  | event e =>
    have hstep := Connection.step_witnessed h n.state.1 n.state.2 n.connection e
    simp only [after, hstep, unwitnessed]
    rfl
  | send f =>
    simp only [after, unwitnessed]
    split <;> rfl
  | close => rfl

theorem unwitnessed_afterAll (h : Handler σ) (n : Service (σ × List Told)) (ms : List Move) :
    (n.afterAll h.witnessed ms).unwitnessed = n.unwitnessed.afterAll h ms := by
  induction ms generalizing n with
  | nil => rfl
  | cons m ms ih => rw [afterAll, afterAll, ih, unwitnessed_after]

/-! ### Nothing is lost -/

/-- What becomes of the frames that are given to a connection, and what its handler is told. -/
structure Lossless (h : Handler σ) (limit : Nat) (n : Service (σ × List Told)) : Prop where
  /-- A frame is accepted while the connection serves, if it fits ... -/
  accepts : ∀ f, (∃ o, n.connection.outlet.send f = .ok o) ↔ n.connection.IsLive ∧ f.Fits limit
  /-- ... and what is accepted is its octets. -/
  whole : ∀ bytes ∈ n.accepted, Frame.IsWritten limit bytes
  /-- Once the connection has stopped, nothing more is accepted, whatever happens. -/
  stopped : ¬ n.connection.IsLive → ∀ ms, (n.afterAll h.witnessed ms).accepted = n.accepted
  /-- What is written is a beginning of what is accepted by then, or ever ... -/
  ordered : ∀ ms, n.written <+: (n.afterAll h.witnessed ms).accepted.flatten
  /-- ... and when the connection comes to its end, all of it is written. -/
  complete : n.connection.phase = .ended → n.written = n.accepted.flatten
  /-- The handler is told of the opening, of what arrived, and of the closing ... -/
  watched : n.connection.Watched limit n.heard n.state.2
  /-- ... and of nothing after that. -/
  finished : n.connection.phase = .ended → ∀ ms, n.afterAll h.witnessed ms = n

/-- A connection from its beginning on, whatever happens except that writing fails, and in whatever
order; and writing down what its handler is told makes no difference to it. -/
theorem lossless_of_moves (hfair : h.Fair) (s : σ) (peer : Option Address) (limit : Nat)
    {ms : List Move} (hwrites : .event .writeFailed ∉ ms) (hruns : .event .discarded ∉ ms) :
    let n := (new (s, []) peer limit).afterAll h.witnessed ms
    n.Lossless h limit ∧ n.unwitnessed = (new s peer limit).afterAll h ms := by
  have hfair' := hfair.witnessed
  have hbegin := unbroken_new (s, ([] : List Told)) peer limit
  have hunbroken := hbegin.afterAll hfair' hwrites hruns
  have hwatched := watched_afterAll (h := h) (Connection.takes_new peer limit) hfair hruns
    (n := new (s, []) peer limit) ⟨rfl, rfl, rfl⟩
  refine ⟨?_, unwitnessed_afterAll h _ ms⟩
  exact {
    accepts := fun f => hunbroken.takes.exists_send_iff
    whole := hunbroken.whole
    stopped := accepted_afterAll hunbroken.takes hfair'
    ordered := fun ms' => hunbroken.ledger.isPrefix_written.trans
      (accepted_prefix_afterAll hunbroken.takes hfair' ms').flatten
    complete := fun hended => by
      have hwritten := hunbroken.ledger.flatten_eq
      rwa [Connection.pieces, hended, List.flatten_nil, List.append_nil] at hwritten
    watched := hwatched
    finished := afterAll_of_ended hunbroken.takes }

/-- A user that sends every frame back, and then rejects it if it is empty. -/
def rejectEmpty : Handler Unit where
  opened s o := (s, o)
  frame s o f :=
    let r := Couple.echo.frame s o f
    if f.payload = [] then { r with fault := some (.protocol "empty frame" none) } else r
  closed s _ := s

theorem fair_rejectEmpty : rejectEmpty.Fair where
  opened _ _ := .untouched
  frame s o f := by
    have hused := Couple.fair_echo.frame s o f
    unfold rejectEmpty
    dsimp only
    split <;> exact hused

/-- A frame is sent behind a request to close; then three frames arrive, the second one is sent back
and rejected, and what is sent after that is refused. -/
def closeAndReject : List Move :=
  [.event .started, .close, .send ⟨3, [9]⟩,
    .event (.received (Frame.writeAll [⟨1, [7]⟩, ⟨2, []⟩, ⟨5, []⟩])), .send ⟨4, []⟩,
    .event .polled, .event .polled, .event (.wrote 4), .event (.wrote 2), .event .flushed,
    .event .polled, .event (.wrote 6), .event .flushed, .event .polled, .event (.wrote 5),
    .event .flushed, .event .polled, .event .shutDown]

/-- The frame behind the request to close is written, and the one that was sent back by the handler
that rejected it. -/
theorem lossless_closeAndReject :
    let n := (new ((), []) none 16).afterAll rejectEmpty.witnessed closeAndReject
    rejectEmpty.Fair ∧ .event .writeFailed ∉ closeAndReject ∧
      .event .discarded ∉ closeAndReject ∧ n.Lossless rejectEmpty 16 ∧
      n.connection.phase = .ended ∧ n.written = Frame.writeAll [⟨3, [9]⟩, ⟨1, [7]⟩, ⟨2, []⟩] ∧
      n.state.2 = [.opened, .frame ⟨1, [7]⟩ none,
        .frame ⟨2, []⟩ (some (.protocol "empty frame" none)), .closed] :=
  ⟨fair_rejectEmpty, by decide +kernel, by decide +kernel,
    (lossless_of_moves fair_rejectEmpty () none 16 (by decide +kernel) (by decide +kernel)).1,
    by decide +kernel, by decide +kernel, by decide +kernel⟩

end Service

end ActorMesh
