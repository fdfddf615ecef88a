import ActorMesh.Proofs.Connections.Crossing
import ActorMesh.Proofs.Frames.Splitting

/-!
# Connections in use

A connection in use (`Service`) is given frames by its handler and by everyone else who holds its
outlet, in any order, while octets arrive, the stream takes octets or fails, and the connection
stops. What others do while the handler is at work is part of what the handler does, which may be
anything that an outlet allows (`Handler.Fair`).

Three things are said once here, and all that holds of a connection in use is read off them. An
event has one of four effects on what is to be written (`Connection.Strides`); a connection accepts
frames as long as it serves (`Connection.Takes`); and a `Ledger` of the frames that were accepted
says how far writing has come.
-/

namespace ActorMesh

/-! ### What is accepted -/

/-- Octets of a frame that may be written under a limit. -/
def Frame.IsWritten (limit : Nat) (bytes : Octets) : Prop :=
  ∃ f : Frame, f.Fits limit ∧ f.write = bytes

namespace Outlet.Used

variable {o o' : Outlet}

theorem limit_eq (h : o.Used o') : o'.limit = o.limit := by
  induction h with
  | untouched => rfl
  | sent _ hsend ih =>
    obtain ⟨bytes, -, -, rfl⟩ := send_eq_ok_iff.1 hsend
    exact ih
  | closed _ ih =>
    unfold close
    split <;> exact ih

theorem accepting_eq (h : o.Used o') : o'.accepting = o.accepting := by
  induction h with
  | untouched => rfl
  | sent _ hsend ih =>
    obtain ⟨bytes, -, -, rfl⟩ := send_eq_ok_iff.1 hsend
    exact ih
  | closed _ ih =>
    unfold close
    split <;> exact ih

/-- All frames that are queued are whole and fit. -/
theorem isWritten (h : o.Used o') : ∀ bytes ∈ Connection.frames (o'.queue.drop o.queue.length),
    Frame.IsWritten o.limit bytes := by
  induction h with
  | untouched => simp
  | @sent o' o'' f hused hsend ih =>
    obtain ⟨bytes, hbytes, -, rfl⟩ := send_eq_ok_iff.1 hsend
    obtain ⟨hlen, hcap, rfl⟩ := Frame.encode_eq_ok_iff.1 hbytes
    rw [hused.limit_eq] at hbytes
    rw [List.drop_append_of_le_length hused.queue_grows.length_le, Connection.frames_append]
    simp only [List.mem_append, Connection.frames_frame, Connection.frames_nil,
      List.mem_singleton]
    rintro bytes (hmem | rfl)
    · exact ih bytes hmem
    · exact ⟨f, hbytes, rfl⟩
  | @closed o' hused ih =>
    unfold close
    split
    · rw [List.drop_append_of_le_length hused.queue_grows.length_le, Connection.frames_append]
      simpa using ih
    · exact ih

end Outlet.Used

/-! ### Ledgers -/

/-- Frames that were accepted, what was written of them, and what is still to be written, piece by
piece. The first piece may be the rest of a frame that is written in part. -/
inductive Ledger : (accepted : List Octets) → (written : Octets) → (left : List Octets) → Prop
  | between (sent left : List Octets) : Ledger (sent ++ left) sent.flatten left
  | within (sent : List Octets) (part rest : Octets) (left : List Octets) :
    Ledger (sent ++ (part ++ rest) :: left) (sent.flatten ++ part) (rest :: left)

namespace Ledger

variable {accepted left : List Octets} {written rest : Octets}

theorem flatten_eq (h : Ledger accepted written left) :
    written ++ left.flatten = accepted.flatten := by
  cases h with
  | between sent => simp
  | within sent part rest left => simp

theorem isPrefix_written (h : Ledger accepted written left) : written <+: accepted.flatten :=
  ⟨left.flatten, h.flatten_eq⟩

/-- More frames are accepted. -/
theorem accept (h : Ledger accepted written left) (more : List Octets) :
    Ledger (accepted ++ more) written (left ++ more) := by
  cases h with
  | between sent =>
    rw [List.append_assoc]
    exact .between sent (left ++ more)
  | within sent part rest left =>
    rw [List.append_assoc, List.cons_append]
    exact .within sent part rest (left ++ more)

/-- The first piece is what is missing of one of the frames. -/
theorem exists_within (h : Ledger accepted written (rest :: left)) :
    ∃ sent part, accepted = sent ++ (part ++ rest) :: left ∧ written = sent.flatten ++ part := by
  cases h with
  | between sent => exact ⟨sent, [], by simp, by simp⟩
  | within sent part => exact ⟨sent, part, rfl, rfl⟩

/-- The stream takes octets of the first piece. -/
theorem write (h : Ledger accepted written (rest :: left)) (count : Nat) :
    Ledger accepted (written ++ rest.take count)
      (if rest.length ≤ count then left else rest.drop count :: left) := by
  obtain ⟨sent, part, rfl, rfl⟩ := h.exists_within
  split
  · rename_i hall
    have hsent := between (sent ++ [part ++ rest]) left
    simpa [List.take_of_length_le hall] using hsent
  · have hpart := within sent (part ++ rest.take count) (rest.drop count) left
    simpa using hpart

end Ledger

/-! ### What an event does to the frames that are to be written -/

namespace Connection

variable {σ : Type} {h : Handler σ} {c c' : Connection} {e : Event} {limit : Nat}

/-- What an event makes of what a connection has to write. -/
inductive Strides (c : Connection) (e : Event) (c' : Connection) : Prop
  /-- The stream takes nothing, and frames may be queued while the connection serves. -/
  | queues (whole : e = .writeFailed → c.unwritten = []) (silent : c.emitted e = [])
    (pieces : c'.pieces = c.pieces ++ c.gained c')
    (gained : c.gained c' = [] ∨
      c.IsLive ∧ ∀ bytes ∈ c.gained c', Frame.IsWritten c.outlet.limit bytes)
  /-- The stream takes octets of the frame that is being written. -/
  | writes {rest : Octets} {left : List Octets} {count : Nat} (wrote : e = .wrote count)
    (before : c.pieces = rest :: left) (emitted : c.emitted e = rest.take count)
    (after : c'.pieces = if rest.length ≤ count then left else rest.drop count :: left)
    (gained : c.gained c' = [])
  /-- Writing fails while the connection serves, and what is left of the frame is given up. -/
  | tears (failed : e = .writeFailed) (live : c.IsLive) (stops : ¬ c'.IsLive)
    (silent : c.emitted e = []) (before : c.pieces = c.unwritten :: c'.pieces)
    (gained : c.gained c' = [])
  /-- All that is left is given up. -/
  | ends (failed : e = .writeFailed ∨ e = .discarded) (stops : ¬ c'.IsLive)
    (silent : c.emitted e = []) (after : c'.pieces = []) (gained : c.gained c' = [])

/-- A queue that has only become shorter has gained nothing. -/
theorem gained_eq_nil (hlen : c'.outlet.queue.length ≤ c.outlet.queue.length) :
    c.gained c' = [] := by
  rw [gained, List.drop_eq_nil_of_le hlen, frames_nil]

theorem strides_poll (hphase : c.IsAt .idle) : c.Strides .polled c.poll := by
  have hlen : c.poll.outlet.queue.length ≤ c.outlet.queue.length := by
    obtain ⟨⟨peer, limit, accepting, queue⟩, phase, buffer⟩ := c
    rcases hphase with hphase | hphase <;> obtain rfl : phase = _ := hphase <;>
      rcases queue with _ | ⟨bytes | _, rest⟩ <;> simp [poll, stop, Outlet.refuse]
  refine .queues (by simp) (emitted_eq_nil (by simp)) ?_ (.inl (gained_eq_nil hlen))
  rw [gained_eq_nil hlen, List.append_nil]
  obtain ⟨⟨peer, limit, accepting, queue⟩, phase, buffer⟩ := c
  rcases hphase with hphase | hphase <;> obtain rfl : phase = _ := hphase <;>
    rcases queue with _ | ⟨bytes | _, rest⟩ <;>
      simp [poll, stop, Outlet.refuse, pieces, Writing.inHand]

theorem strides_advance {rest : Octets} {phase : Writing → Phase}
    (hserving : phase = .serving ∨ phase = .draining) (hphase : c.phase = phase (.bytes rest))
    (count : Nat) :
    c.Strides (.wrote count) { c with phase := phase (Writing.advance count (.bytes rest)) } := by
  have hbefore : c.pieces = rest :: frames c.outlet.queue := by
    rcases hserving with rfl | rfl <;> simp [pieces, hphase, Writing.inHand]
  refine .writes rfl hbefore ?_ ?_ (gained_eq_nil (Nat.le_refl _))
  · rcases hserving with rfl | rfl <;> simp [emitted, hphase]
  · by_cases hall : rest.length ≤ count <;> rcases hserving with rfl | rfl <;>
      simp [pieces, Writing.advance, hall, Writing.inHand]

/-- An event that leaves the phase's pieces and the queue alone. -/
theorem strides_of_eq (whole : e = .writeFailed → c.unwritten = []) (silent : c.emitted e = [])
    (pieces : c'.pieces = c.pieces) (queue : c'.outlet.queue = c.outlet.queue) :
    c.Strides e c' := by
  have hgained := gained_eq_nil (Nat.le_of_eq (congrArg List.length queue))
  refine .queues whole silent ?_ (.inl hgained)
  rw [pieces, hgained, List.append_nil]

theorem gained_receive (hfair : h.Fair) (s : σ) (c : Connection) (bytes : Octets) :
    ∀ frame ∈ c.gained (receive h s c bytes).connection,
      Frame.IsWritten c.outlet.limit frame := by
  obtain ⟨o, hused, ⟨-, houtlet⟩ | ⟨-, houtlet⟩⟩ := exists_used_receive hfair s c bytes
  · rw [gained, houtlet]
    exact hused.isWritten
  · rw [gained, houtlet]
    exact hused.isWritten

/-- What an event makes of what a connection has to write. -/
theorem strides_step (hfair : h.Fair) (s : σ) (c : Connection) (e : Event) :
    c.Strides e (c.step h s e).connection := by
  unfold step
  split
  case h_1 hphase =>
    have hused := hfair.opened s c.outlet
    refine .queues (by simp) (emitted_eq_nil (by simp)) ?_
      (.inr ⟨by simp [IsLive, hphase], hused.isWritten⟩)
    rw [show c.pieces = frames c.outlet.queue by simp [pieces, hphase],
      ← frames_eq_append_gained hused.queue_grows]
    simp [pieces, Writing.inHand]
  case h_2 =>
    exact .ends (.inr rfl) (by simp [IsLive]) (emitted_eq_nil (by simp)) (by simp [pieces])
      (gained_eq_nil (Nat.le_refl _))
  case h_3 bytes hphase =>
    obtain ⟨hgrown, hpieces⟩ := receive_spec hfair s hphase bytes
    refine .queues (by simp) (emitted_received c bytes) ?_
      (.inr ⟨by simp [IsLive, hphase], gained_receive hfair s c bytes⟩)
    rw [hpieces, frames_eq_append_gained hgrown]
    simp [pieces, hphase, Writing.inHand]
  case h_4 hphase | h_5 hphase =>
    exact strides_of_eq (by simp) (emitted_eq_nil (by simp))
      (by simp [pieces, stop, hphase, Outlet.refuse, Writing.inHand]) rfl
  case h_6 hphase => exact strides_poll (.inl hphase)
  case h_7 hphase => exact strides_poll (.inr hphase)
  case h_8 hphase => exact strides_advance (.inl rfl) hphase _
  case h_9 hphase => exact strides_advance (.inr rfl) hphase _
  case h_10 hphase | h_11 hphase =>
    exact strides_of_eq (by simp) (emitted_eq_nil (by simp))
      (by simp [pieces, hphase, Writing.inHand]) rfl
  case h_12 hphase =>
    exact .tears rfl (by simp [IsLive, hphase]) (by simp [IsLive, stop]) (emitted_eq_nil (by simp))
      (by simp [pieces, unwritten, stop, hphase, Writing.inHand, Outlet.refuse])
      (gained_eq_nil (Nat.le_refl _))
  case h_13 hphase =>
    exact strides_of_eq (fun _ => by simp [unwritten, hphase]) (emitted_eq_nil (by simp))
      (by simp [pieces, stop, hphase, Writing.inHand, Outlet.refuse]) rfl
  case h_14 hphase | h_15 hphase =>
    exact .ends (.inl rfl) (by simp [IsLive]) (emitted_eq_nil (by simp)) (by simp [pieces])
      (gained_eq_nil (Nat.le_refl _))
  case h_16 hphase =>
    exact strides_of_eq (by simp) (emitted_eq_nil (by simp)) (by simp [pieces, hphase]) rfl
  case h_17 =>
    refine strides_of_eq ?_ ?_ rfl rfl
    · rintro rfl
      unfold unwritten
      split <;> simp_all
    · unfold emitted
      split <;> simp_all

/-- Only a connection that serves gains frames, and these are whole and fit. -/
theorem Strides.gained_cases (hstrides : c.Strides e c') :
    c.gained c' = [] ∨ c.IsLive ∧ ∀ bytes ∈ c.gained c', Frame.IsWritten c.outlet.limit bytes := by
  cases hstrides with
  | queues _ _ _ gained => exact gained
  | writes _ _ _ _ gained | tears _ _ _ _ _ gained | ends _ _ _ _ gained => exact .inl gained

/-- A connection accepts frames up to a limit, as long as it serves. -/
structure Takes (limit : Nat) (c : Connection) : Prop where
  limit_eq : c.outlet.limit = limit
  accepting_iff : c.outlet.accepting = true ↔ c.IsLive

theorem takes_new (peer : Option Address) (limit : Nat) : (new peer limit).Takes limit :=
  ⟨rfl, by simp [new, Outlet.new, IsLive]⟩

theorem Takes.receive (hfair : h.Fair) (htakes : c.Takes limit) (s : σ)
    (hphase : c.phase = .serving .idle) (bytes : Octets) :
    (receive h s c bytes).connection.Takes limit := by
  have hlive : c.IsLive := by simp [IsLive, hphase]
  obtain ⟨o, hused, ⟨hphase', houtlet⟩ | ⟨hphase', houtlet⟩⟩ :=
    exists_used_receive hfair s c bytes
  · refine ⟨?_, ?_⟩
    · rw [houtlet, hused.limit_eq, htakes.limit_eq]
    · have haccepting := htakes.accepting_iff.2 hlive
      simpa [IsLive, hphase', hphase, houtlet, hused.accepting_eq] using haccepting
  · refine ⟨?_, ?_⟩
    · rw [houtlet, Outlet.refuse, hused.limit_eq, htakes.limit_eq]
    · simp [IsLive, hphase', houtlet, Outlet.refuse]

/-- No event lets a connection that has stopped serve or accept again. -/
theorem Takes.step (hfair : h.Fair) (htakes : c.Takes limit) (s : σ) (e : Event) :
    (c.step h s e).connection.Takes limit ∧ ((c.step h s e).connection.IsLive → c.IsLive) := by
  obtain ⟨hlimit, haccepting⟩ := htakes
  unfold Connection.step
  split
  case h_1 hphase =>
    have hlive : c.IsLive := by simp [IsLive, hphase]
    have hused := hfair.opened s c.outlet
    refine ⟨⟨hused.limit_eq.trans hlimit, ?_⟩, fun _ => hlive⟩
    simpa [IsLive, hused.accepting_eq] using haccepting.2 hlive
  case h_3 bytes hphase =>
    exact ⟨Takes.receive hfair ⟨hlimit, haccepting⟩ s hphase bytes,
      fun _ => by simp [IsLive, hphase]⟩
  case h_6 hphase | h_7 hphase =>
    obtain ⟨⟨peer, limit, accepting, queue⟩, phase, buffer⟩ := c
    obtain rfl : phase = _ := hphase
    rcases queue with _ | ⟨bytes | _, rest⟩ <;> refine ⟨⟨hlimit, ?_⟩, ?_⟩ <;>
      simp_all [poll, stop, Outlet.refuse, IsLive]
  all_goals
    refine ⟨⟨hlimit, ?_⟩, ?_⟩ <;> simp_all [IsLive, stop, Outlet.refuse]

/-- A frame is accepted while the connection serves, if it fits. -/
theorem Takes.exists_send_iff (htakes : c.Takes limit) {f : Frame} :
    (∃ o, c.outlet.send f = .ok o) ↔ c.IsLive ∧ f.Fits limit := by
  rw [← htakes.accepting_iff, ← htakes.limit_eq]
  constructor
  · rintro ⟨o, hsend⟩
    obtain ⟨bytes, hbytes, haccepting, -⟩ := Outlet.send_eq_ok_iff.1 hsend
    obtain ⟨-, -, rfl⟩ := Frame.encode_eq_ok_iff.1 hbytes
    exact ⟨haccepting, hbytes⟩
  · rintro ⟨haccepting, hfits⟩
    exact ⟨_, Outlet.send_eq_ok_iff.2 ⟨_, hfits, haccepting, rfl⟩⟩

/-- While a frame is being written, it is the first that is to be written. -/
theorem exists_pieces_eq (hrest : c.unwritten ≠ []) : ∃ left, c.pieces = c.unwritten :: left := by
  unfold unwritten at hrest ⊢
  split at hrest
  · rename_i hphase
    simp [pieces, hphase, Writing.inHand]
  · rename_i hphase
    simp [pieces, hphase, Writing.inHand]
  · exact absurd rfl hrest

end Connection

/-! ### What becomes of a connection -/

/-- A connection in use, and what became of it so far. -/
structure Service (σ : Type) where
  state : σ
  connection : Connection
  /-- The frames that were accepted, as octets, oldest first. -/
  accepted : List Octets
  /-- What arrived. -/
  heard : Octets
  /-- What the stream took. -/
  written : Octets
  /-- What it had taken when writing failed in the middle of a frame for the first time. -/
  torn : Option Octets

namespace Service

/-- What happens to a connection in use. -/
inductive Move
  | event (e : Connection.Event)
  /-- Somebody who holds the outlet sends a frame. -/
  | send (f : Frame)
  /-- Somebody who holds the outlet asks for the end. -/
  | close
  deriving DecidableEq, Repr

variable {σ : Type}

/-- A connection that does not run yet. -/
def new (s : σ) (peer : Option Address) (limit : Nat) : Service σ :=
  ⟨s, .new peer limit, [], [], [], none⟩

/-- A connection in use after a move. What the handler sends in an event, and what others send while
it is at work, is accepted in the order in which it is queued. -/
def after (h : Handler σ) (n : Service σ) : Move → Service σ
  | .event e =>
    let c := n.connection
    let r := c.step h n.state e
    { state := r.state
      connection := r.connection
      accepted := n.accepted ++ c.gained r.connection
      heard := n.heard ++ c.heard e
      written := n.written ++ c.emitted e
      torn := n.torn.or (if e = .writeFailed ∧ c.unwritten ≠ [] then some n.written else none) }
  | .send f =>
    match n.connection.outlet.send f with
    | .ok o =>
      { n with
        connection := { n.connection with outlet := o }
        accepted := n.accepted ++ [f.write] }
    | .error _ => n
  | .close => { n with connection := { n.connection with outlet := n.connection.outlet.close } }

/-- A connection in use after one move after another. -/
def afterAll (h : Handler σ) (n : Service σ) : List Move → Service σ
  | [] => n
  | m :: ms => (n.after h m).afterAll h ms

variable {h : Handler σ} {n : Service σ} {limit : Nat}

/-- What each of some moves keeps, they keep one after another. -/
theorem afterAll_keeps {P : Service σ → Prop} {ms : List Move}
    (step : ∀ n, ∀ m ∈ ms, P n → P (n.after h m)) (hn : P n) : P (n.afterAll h ms) := by
  induction ms generalizing n with
  | nil => exact hn
  | cons m ms ih =>
    have hfirst := step n m List.mem_cons_self hn
    exact ih (fun n m hm => step n m (List.mem_cons_of_mem _ hm)) hfirst

/-- A connection in use on whose outlet more is queued. -/
def queue (n : Service σ) (more : List Command) : Service σ :=
  { n with
    connection := { n.connection with
      outlet := { n.connection.outlet with queue := n.connection.outlet.queue ++ more } }
    accepted := n.accepted ++ Connection.frames more }

/-- What is queued while a connection serves is to be written. -/
theorem pieces_queue (hlive : n.connection.IsLive) (more : List Command) :
    (n.queue more).connection.pieces = n.connection.pieces ++ Connection.frames more := by
  unfold Connection.IsLive at hlive
  unfold Connection.pieces queue
  dsimp only
  split at hlive
  · rename_i hphase
    simp [hphase]
  · rename_i hphase
    simp [hphase]
  · exact hlive.elim

/-- What is no event queues a frame that fits, or a request to close, or does nothing. -/
theorem after_cases (htakes : n.connection.Takes limit) (h : Handler σ) (m : Move) :
    (∃ e, m = .event e) ∨ n.after h m = n ∨
      n.connection.IsLive ∧ ∃ more, n.after h m = n.queue more ∧
        ∀ bytes ∈ Connection.frames more, Frame.IsWritten limit bytes := by
  obtain ⟨hlimit, haccepting⟩ := htakes
  cases m with
  | event e => exact .inl ⟨e, rfl⟩
  | send f =>
    refine .inr ?_
    unfold after
    dsimp only
    split
    · rename_i o hsend
      obtain ⟨bytes, hbytes, haccepted, rfl⟩ := Outlet.send_eq_ok_iff.1 hsend
      obtain ⟨-, -, rfl⟩ := Frame.encode_eq_ok_iff.1 hbytes
      rw [hlimit] at hbytes
      exact .inr ⟨haccepting.1 haccepted, [.frame f.write], rfl, by simpa using ⟨f, hbytes, rfl⟩⟩
    · exact .inl rfl
  | close =>
    refine .inr ?_
    unfold after Outlet.close
    dsimp only
    split
    · rename_i haccepted
      exact .inr ⟨haccepting.1 haccepted, [.close], by simp [queue], by simp⟩
    · exact .inl rfl

theorem takes_after (hfair : h.Fair) (htakes : n.connection.Takes limit) (m : Move) :
    (n.after h m).connection.Takes limit := by
  rcases after_cases htakes h m with ⟨e, rfl⟩ | heq | ⟨-, more, heq, -⟩
  · exact (htakes.step hfair n.state e).1
  · rwa [heq]
  · rw [heq]
    exact ⟨htakes.limit_eq, htakes.accepting_iff⟩

end Service

end ActorMesh
