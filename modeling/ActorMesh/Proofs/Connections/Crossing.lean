import ActorMesh.Proofs.Connections.Streams
import Mathlib.Logic.Function.Basic

/-!
# Two connections that write to each other

A connection does not read while it writes a frame, and it writes a frame to its end before it does
anything else. Two connections that are joined by a pipe each way can therefore wait for each other:
both are in the middle of a frame, both pipes are full, and only they could read (`Couple.Jammed`).

That takes more octets at both ends than the pipes hold. While all that was ever accepted at one of
the ends fits into its pipe, that end gets rid of its frames and reads on; but whenever both ends
have more to write than there is room for, some order of events jams them, and nothing but a failure
ends the jam (`Couple.crossing_of_run`). However much the pipes hold, one longer frame at each end
is enough (`Couple.exists_jammed_of_frames`).

The users at the two ends are free, and so are the order of events and the pieces in which octets
are written and read.
-/

namespace ActorMesh

/-! ### What users do with outlets -/

/-- What a user can make of an outlet: it queues frames and asks for the end. -/
inductive Outlet.Used (o : Outlet) : Outlet → Prop
  | untouched : Used o o
  | sent {o' o'' : Outlet} {f : Frame} (h : Used o o') (hsend : o'.send f = .ok o'') : Used o o''
  | closed {o' : Outlet} (h : Used o o') : Used o o'.close

/-- A handler that does nothing to its outlet but use it. -/
structure Handler.Fair {σ : Type} (h : Handler σ) : Prop where
  opened : ∀ s (o : Outlet), o.Used (h.opened s o).2
  frame : ∀ s (o : Outlet) f, o.Used (h.frame s o f).outlet

namespace Outlet.Used

variable {o o' o'' : Outlet}

theorem trans (h : o.Used o') (h' : o'.Used o'') : o.Used o'' := by
  induction h' with
  | untouched => exact h
  | sent _ hsend ih => exact ih.sent hsend
  | closed _ ih => exact ih.closed

/-- What is queued stays queued, in its place. -/
theorem queue_grows (h : o.Used o') : o.queue <+: o'.queue := by
  induction h with
  | untouched => exact List.prefix_rfl
  | sent _ hsend ih =>
    obtain ⟨bytes, -, -, rfl⟩ := send_eq_ok_iff.1 hsend
    exact ih.trans (List.prefix_append ..)
  | closed _ ih =>
    refine ih.trans ?_
    unfold Outlet.close
    split
    · exact List.prefix_append ..
    · exact List.prefix_rfl

end Outlet.Used

namespace Connection

/-! ### How much is to be written -/

variable {σ : Type} {h : Handler σ} {c c' : Connection}

/-- How many octets are still to be written. -/
def backlog (c : Connection) : Nat := c.pieces.flatten.length

/-- The frames that were queued between two states of a connection. -/
def gained (c c' : Connection) : List Octets :=
  frames (c'.outlet.queue.drop c.outlet.queue.length)

/-- What is still to be written of the frame that is being written. -/
def unwritten (c : Connection) : Octets :=
  match c.phase with
  | .serving (.bytes rest) | .draining (.bytes rest) => rest
  | _ => []

theorem length_unwritten_le (c : Connection) : c.unwritten.length ≤ c.backlog := by
  unfold unwritten backlog pieces
  split <;> rename_i hphase
  · rw [hphase]
    simp [Writing.inHand]
  · rw [hphase]
    simp [Writing.inHand]
  · exact Nat.zero_le _

theorem frames_eq_append_gained (hgrown : c.outlet.queue <+: c'.outlet.queue) :
    frames c'.outlet.queue = frames c.outlet.queue ++ c.gained c' := by
  obtain ⟨more, hmore⟩ := hgrown
  rw [gained, ← hmore, List.drop_left, frames_append]

/-- The use of an outlet adds to what is to be written no more than the frames that are queued. -/
theorem backlog_le_of_used {o : Outlet} (h : c.outlet.Used o) :
    backlog { c with outlet := o } ≤
      c.backlog + (c.gained { c with outlet := o }).flatten.length := by
  have hframes : frames o.queue = frames c.outlet.queue ++ c.gained { c with outlet := o } :=
    @frames_eq_append_gained c { c with outlet := o } h.queue_grows
  unfold backlog pieces
  dsimp only
  rw [hframes]
  split <;> simp [Nat.add_assoc]

theorem backlog_eq_of_grown (hgrown : c.outlet.queue <+: c'.outlet.queue)
    (hpieces : c.pieces = frames c.outlet.queue) (hpieces' : c'.pieces = frames c'.outlet.queue) :
    c'.backlog = c.backlog + (c.gained c').flatten.length := by
  rw [backlog, backlog, hpieces, hpieces', frames_eq_append_gained hgrown, List.flatten_append,
    List.length_append]

/-- What is written is not to be written any more, and a failure only takes away. -/
theorem Calm.backlog_le {e : Event} (hcalm : Calm c e c') :
    (c.emitted e).length + c'.backlog ≤ c.backlog := by
  unfold backlog
  rcases hcalm.written with ⟨hwritten, -⟩ | ⟨hemitted, hnone | ⟨p, hp⟩⟩
  · exact Nat.le_of_eq (hwritten ▸ List.length_append.symm)
  · simp [hemitted, hnone]
  · simp [hemitted, hp]

/-- The beginning and reads apart, it makes no difference to a connection what its handler does. -/
theorem connection_step_eq (h h' : Handler σ) (s : σ) {e : Event}
    (hstart : ¬ (c.phase = .made ∧ e = .started))
    (hread : ∀ bytes, ¬ (c.phase = .serving .idle ∧ e = .received bytes)) :
    (c.step h s e).connection = (c.step h' s e).connection := by
  unfold step
  split
  case h_1 hphase => exact absurd ⟨hphase, rfl⟩ hstart
  case h_3 bytes hphase => exact absurd ⟨hphase, rfl⟩ (hread bytes)
  all_goals rfl

/-- A read uses the outlet, and may stop the connection after that. -/
theorem exists_used_receive (hfair : h.Fair) (s : σ) (c : Connection) (bytes : Octets) :
    ∃ o, c.outlet.Used o ∧ (((receive h s c bytes).connection.phase = c.phase ∧
        (receive h s c bytes).connection.outlet = o) ∨
      (receive h s c bytes).connection.phase = .draining .idle ∧
        (receive h s c bytes).connection.outlet = o.refuse) := by
  have hused := dispatch_keeps (h := h) (P := fun _ o => c.outlet.Used o)
    (fun s o f ho => ho.trans (hfair.frame s o f)) c.outlet.limit (s := s) .untouched
    (c.buffer ++ bytes)
  refine ⟨_, hused, ?_⟩
  unfold receive
  dsimp only
  split
  · exact .inl ⟨rfl, rfl⟩
  · exact .inr ⟨rfl, rfl⟩

/-- What is queued after a read is all that is to be written. -/
theorem receive_spec (hfair : h.Fair) (s : σ) (hphase : c.phase = .serving .idle)
    (bytes : Octets) :
    let c' := (receive h s c bytes).connection
    c.outlet.queue <+: c'.outlet.queue ∧ c'.pieces = frames c'.outlet.queue := by
  obtain ⟨o, hused, ⟨hphase', houtlet⟩ | ⟨hphase', houtlet⟩⟩ :=
    exists_used_receive hfair s c bytes
  · simpa [pieces, hphase', hphase, houtlet, Writing.inHand] using hused.queue_grows
  · simpa [pieces, hphase', houtlet, Writing.inHand, Outlet.refuse] using hused.queue_grows

/-- What is to be written grows only by what is queued, and shrinks by what is written. -/
theorem backlog_step (hfair : h.Fair) (s : σ) (c : Connection) (e : Event) :
    (c.emitted e).length + (c.step h s e).connection.backlog ≤
      c.backlog + (c.gained (c.step h s e).connection).flatten.length := by
  by_cases hstart : c.phase = .made ∧ e = .started
  · obtain ⟨hphase, rfl⟩ := hstart
    have hstep : c.step h s .started = ⟨(h.opened s c.outlet).1,
        { c with outlet := (h.opened s c.outlet).2, phase := .serving .idle }, []⟩ := by
      unfold step
      simp only [hphase]
    have hnone : c.emitted .started = [] := by simp [emitted, hphase]
    rw [hstep, hnone, List.length_nil, Nat.zero_add]
    refine Nat.le_of_eq (backlog_eq_of_grown ?_ ?_ ?_)
    · exact (hfair.opened s c.outlet).queue_grows
    · simp [pieces, hphase]
    · simp [pieces, Writing.inHand]
  · by_cases hread : ∃ bytes, c.phase = .serving .idle ∧ e = .received bytes
    · obtain ⟨bytes, hphase, rfl⟩ := hread
      have hstep : c.step h s (.received bytes) = receive h s c bytes := by
        unfold step
        simp only [hphase]
      obtain ⟨hgrown, hpieces⟩ := receive_spec hfair s hphase bytes
      rw [hstep, emitted_received, List.length_nil, Nat.zero_add]
      refine Nat.le_of_eq (backlog_eq_of_grown hgrown ?_ hpieces)
      simp [pieces, hphase, Writing.inHand]
    · simp only [not_exists] at hread
      let silent : Handler σ := { h with opened := fun s o => (s, o) }
      have hcalm := step_calm (h := silent) (fun _ _ => rfl) s hread
      rw [← connection_step_eq h silent s hstart hread] at hcalm
      exact Nat.le_trans hcalm.backlog_le (Nat.le_add_right ..)

/-- A stream takes no more octets than are told. -/
theorem length_emitted_le (c : Connection) (n : Nat) : (c.emitted (.wrote n)).length ≤ n := by
  unfold emitted
  split
  · rename_i hn
    cases hn
    exact List.length_take_le ..
  · rename_i hn
    cases hn
    exact List.length_take_le ..
  · exact Nat.zero_le _

theorem emitted_eq_nil {e : Event} (he : ∀ n, e ≠ .wrote n) : c.emitted e = [] := by
  unfold emitted
  split
  · exact absurd rfl (he _)
  · exact absurd rfl (he _)
  · rfl

/-! ### One frame after another -/

/-- Whether a connection runs and the writing of a frame has come so far. -/
def IsAt (c : Connection) (w : Writing) : Prop := c.phase = .serving w ∨ c.phase = .draining w

theorem backlog_of_isAt_idle (hidle : c.IsAt .idle) :
    c.backlog = (frames c.outlet.queue).flatten.length := by
  rcases hidle with hphase | hphase <;> simp [backlog, pieces, hphase, Writing.inHand]

theorem unwritten_of_isAt {rest : Octets} (hrest : c.IsAt (.bytes rest)) : c.unwritten = rest := by
  rcases hrest with hphase | hphase <;> simp [unwritten, hphase]

theorem emitted_of_isAt {rest : Octets} (hrest : c.IsAt (.bytes rest)) (count : Nat) :
    c.emitted (.wrote count) = rest.take count := by
  rcases hrest with hphase | hphase <;> simp [emitted, hphase]

section

variable (h : Handler σ) (s : σ) {rest : List Command}

theorem step_polled_close (hidle : c.IsAt .idle) (hqueue : c.outlet.queue = .close :: rest) :
    (c.step h s .polled).connection.IsAt .idle ∧
      (c.step h s .polled).connection.outlet.queue = rest := by
  unfold step
  rcases hidle with hphase | hphase <;>
    simp [poll, hphase, hqueue, stop, Outlet.refuse, IsAt]

theorem step_polled_frame {bytes : Octets} (hidle : c.IsAt .idle)
    (hqueue : c.outlet.queue = .frame bytes :: rest) :
    (c.step h s .polled).connection.IsAt (.bytes bytes) ∧
      (c.step h s .polled).connection.outlet.queue = rest := by
  unfold step
  rcases hidle with hphase | hphase <;> simp [poll, hphase, hqueue, IsAt]

theorem step_wrote {bytes : Octets} (hbytes : c.IsAt (.bytes bytes)) (count : Nat) :
    (c.step h s (.wrote count)).connection.IsAt (Writing.advance count (.bytes bytes)) ∧
      (c.step h s (.wrote count)).connection.outlet.queue = c.outlet.queue := by
  unfold step
  rcases hbytes with hphase | hphase <;> simp [hphase, IsAt]

theorem step_flushed (hflush : c.IsAt .flush) :
    (c.step h s .flushed).connection.IsAt .idle ∧
      (c.step h s .flushed).connection.outlet.queue = c.outlet.queue := by
  unfold step
  rcases hflush with hphase | hphase <;> simp [hphase, IsAt]

end

/-- An end that writes a frame does nothing else until the stream takes octets or fails. -/
theorem step_of_unwritten {e : Event} (hrest : c.unwritten ≠ []) (hwrote : ∀ n, e ≠ .wrote n)
    (hfailed : e ≠ .writeFailed) (h : Handler σ) (s : σ) : c.step h s e = ⟨s, c, []⟩ := by
  unfold unwritten at hrest
  unfold step
  split at hrest
  · rename_i hphase
    cases e <;> simp_all
  · rename_i hphase
    cases e <;> simp_all
  · exact absurd rfl hrest

theorem heard_of_unwritten {e : Event} (hrest : c.unwritten ≠ []) : c.heard e = [] := by
  refine heard_eq_nil fun bytes hread => hrest ?_
  simp [unwritten, hread.1]

end Connection

/-! ### Couples -/

/-- The two ends of a link. -/
inductive Side
  | left
  | right
  deriving DecidableEq, Repr

/-- The far end. -/
def Side.other : Side → Side
  | left => right
  | right => left

theorem Side.other_ne (i : Side) : i.other ≠ i := by cases i <;> exact nofun

theorem Side.eq_or_eq_other (i j : Side) : j = i ∨ j = i.other := by
  cases i <;> cases j <;> simp [Side.other]

/-- Two connections with their users, joined by a pipe each way. -/
structure Couple (σ : Side → Type) where
  state : (i : Side) → σ i
  connection : Side → Connection
  /-- What an end wrote and the other has not read, oldest first. -/
  pipe : Side → Octets
  /-- The frames that were queued at an end so far, oldest first. -/
  accepted : Side → List Octets

namespace Couple

/-- What happens to a couple. -/
inductive Move
  /-- Something happens to the connection at an end. -/
  | event (i : Side) (e : Connection.Event)
  /-- A frame is given to an end. -/
  | send (i : Side) (f : Frame)
  /-- An end is asked to close. -/
  | close (i : Side)
  deriving DecidableEq, Repr

variable {σ : Side → Type}

/-- Two connections that do not run yet. -/
def new (s : (i : Side) → σ i) (peer : Side → Option Address) (limit : Side → Nat) : Couple σ :=
  ⟨s, fun i => .new (peer i) (limit i), fun _ => [], fun _ => []⟩

/-- One end changes. -/
def setEnd (n : Couple σ) (i : Side) (s : σ i) (c : Connection) : Couple σ :=
  { n with
    state := Function.update n.state i s
    connection := Function.update n.connection i c
    accepted := Function.update n.accepted i (n.accepted i ++ (n.connection i).gained c) }

/-- A couple after a move. -/
def after (h : (i : Side) → Handler (σ i)) (n : Couple σ) : Move → Couple σ
  | .event i e =>
    let c := n.connection i
    let r := c.step (h i) (n.state i) e
    { n.setEnd i r.state r.connection with
      pipe := fun j =>
        if j = i then n.pipe i ++ c.emitted e else (n.pipe j).drop (c.heard e).length }
  | .send i f =>
    match (n.connection i).outlet.send f with
    | .ok o => n.setEnd i (n.state i) { n.connection i with outlet := o }
    | .error _ => n
  | .close i =>
    n.setEnd i (n.state i) { n.connection i with outlet := (n.connection i).outlet.close }

/-- Whether a move can happen, where the pipes hold so many octets: only what was written is read, a
write takes no more than there is room for, and it takes something as long as there is something to
write. -/
def Possible (capacity : Side → Nat) (n : Couple σ) : Move → Prop
  | .event i (.received bytes) => bytes ≠ [] ∧ bytes <+: n.pipe i.other
  | .event i .inputEnded => n.pipe i.other = [] ∧ (n.connection i.other).phase = .ended
  | .event i (.wrote count) =>
    (count = 0 → (n.connection i).unwritten = []) ∧
      count ≤ (n.connection i).unwritten.length ∧
      (n.pipe i).length + count ≤ capacity i ∧ (n.connection i.other).phase ≠ .ended
  | _ => True

instance (capacity : Side → Nat) (n : Couple σ) : (m : Move) → Decidable (n.Possible capacity m)
  | .event i (.received bytes) =>
    inferInstanceAs (Decidable (bytes ≠ [] ∧ bytes <+: n.pipe i.other))
  | .event i .inputEnded =>
    inferInstanceAs (Decidable (n.pipe i.other = [] ∧ (n.connection i.other).phase = .ended))
  | .event i (.wrote count) => inferInstanceAs (Decidable
      ((count = 0 → (n.connection i).unwritten = []) ∧
        count ≤ (n.connection i).unwritten.length ∧
        (n.pipe i).length + count ≤ capacity i ∧ (n.connection i.other).phase ≠ .ended))
  | .event _ .started | .event _ .discarded | .event _ .readFailed | .event _ .polled
  | .event _ .flushed | .event _ .writeFailed | .event _ .shutDown | .send _ _ | .close _ =>
    .isTrue trivial

/-- A couple after possible moves. -/
inductive Run (capacity : Side → Nat) (h : (i : Side) → Handler (σ i)) (n₀ : Couple σ) :
    Couple σ → Prop
  | start : Run capacity h n₀ n₀
  | move {n : Couple σ} (m : Move) (run : Run capacity h n₀ n) (possible : n.Possible capacity m) :
    Run capacity h n₀ (n.after h m)

/-- A couple after one move after another. -/
def afterAll (h : (i : Side) → Handler (σ i)) (n : Couple σ) : List Move → Couple σ
  | [] => n
  | m :: ms => (n.after h m).afterAll h ms

/-- Whether moves can happen one after another. -/
def PossibleAll (capacity : Side → Nat) (h : (i : Side) → Handler (σ i)) (n : Couple σ) :
    List Move → Prop
  | [] => True
  | m :: ms => n.Possible capacity m ∧ (n.after h m).PossibleAll capacity h ms

instance decidablePossibleAll (capacity : Side → Nat) (h : (i : Side) → Handler (σ i))
    (n : Couple σ) : (ms : List Move) → Decidable (n.PossibleAll capacity h ms)
  | [] => .isTrue trivial
  | m :: ms =>
    have := decidablePossibleAll capacity h (n.after h m) ms
    inferInstanceAs (Decidable (n.Possible capacity m ∧ (n.after h m).PossibleAll capacity h ms))

/-- An end is in the middle of a frame, and its pipe is full. -/
def Stuck (capacity : Side → Nat) (n : Couple σ) (i : Side) : Prop :=
  (n.connection i).unwritten ≠ [] ∧ (n.pipe i).length = capacity i

/-- Both ends wait for room in pipes that only the respective other could empty. -/
def Jammed (capacity : Side → Nat) (n : Couple σ) : Prop := ∀ i, n.Stuck capacity i

variable {capacity : Side → Nat} {h : (i : Side) → Handler (σ i)} {n n₀ n' : Couple σ} {i j : Side}
  {m : Move}

theorem Run.trans (run : n₀.Run capacity h n) (run' : n.Run capacity h n') :
    n₀.Run capacity h n' := by
  induction run' with
  | start => exact run
  | move m _ possible ih => exact ih.move m possible

theorem Run.afterAll (run : n₀.Run capacity h n) {ms : List Move}
    (possible : n.PossibleAll capacity h ms) : n₀.Run capacity h (n.afterAll h ms) := by
  induction ms generalizing n with
  | nil => exact run
  | cons m ms ih => exact ih (run.move m possible.1) possible.2

/-! ### What was accepted is written, read or waits -/

/-- The pipes hold what they can, and what was accepted accounts for all that is on its way. -/
structure Sound (capacity : Side → Nat) (n : Couple σ) : Prop where
  fits : ∀ i, (n.pipe i).length ≤ capacity i
  counted : ∀ i, (n.pipe i).length + (n.connection i).backlog ≤ (n.accepted i).flatten.length

theorem sound_new (s : (i : Side) → σ i) (peer : Side → Option Address) (limit : Side → Nat) :
    (new s peer limit).Sound capacity :=
  ⟨fun _ => Nat.zero_le _, fun _ => Nat.le_refl 0⟩

/-- The use of the outlet at an end keeps the account. -/
theorem Sound.setOutlet (hsound : n.Sound capacity) (i : Side) {o : Outlet}
    (hused : (n.connection i).outlet.Used o) :
    (n.setEnd i (n.state i) { n.connection i with outlet := o }).Sound capacity := by
  refine ⟨hsound.fits, fun j => ?_⟩
  by_cases hj : j = i
  · subst hj
    have hcounted := hsound.counted j
    have hbacklog := Connection.backlog_le_of_used hused
    simp only [setEnd, Function.update_self, List.flatten_append, List.length_append]
    omega
  · simpa only [setEnd, Function.update_of_ne hj] using hsound.counted j

theorem Sound.event (hfair : ∀ i, (h i).Fair) (hsound : n.Sound capacity) (i : Side)
    {e : Connection.Event} (hpossible : n.Possible capacity (.event i e)) :
    (n.after h (.event i e)).Sound capacity := by
  refine ⟨fun j => ?_, fun j => ?_⟩
  · by_cases hj : j = i
    · subst hj
      have hroom : (n.pipe j).length + ((n.connection j).emitted e).length ≤ capacity j := by
        by_cases he : ∃ count, e = .wrote count
        · obtain ⟨count, rfl⟩ := he
          have hlen := (n.connection j).length_emitted_le count
          have hpipe := hpossible.2.2.1
          omega
        · rw [Connection.emitted_eq_nil fun count hcount => he ⟨count, hcount⟩]
          exact hsound.fits j
      simpa [after] using hroom
    · have hfits := hsound.fits j
      simp only [after, if_neg hj, List.length_drop]
      omega
  · by_cases hj : j = i
    · subst hj
      have hcounted := hsound.counted j
      have hbacklog := Connection.backlog_step (hfair j) (n.state j) (n.connection j) e
      simp only [after, setEnd, if_pos, Function.update_self, List.flatten_append,
        List.length_append]
      omega
    · have hcounted := hsound.counted j
      simp only [after, setEnd, if_neg hj, Function.update_of_ne hj, List.length_drop]
      omega

theorem Sound.after (hfair : ∀ i, (h i).Fair) (hsound : n.Sound capacity)
    (hpossible : n.Possible capacity m) : (n.after h m).Sound capacity := by
  cases m with
  | event i e => exact hsound.event hfair i hpossible
  | send i f =>
    unfold Couple.after
    dsimp only
    split
    · rename_i hsend
      exact hsound.setOutlet i (Outlet.Used.untouched.sent hsend)
    · exact hsound
  | close i => exact hsound.setOutlet i Outlet.Used.untouched.closed

theorem Run.sound (hfair : ∀ i, (h i).Fair) (hsound : n₀.Sound capacity)
    (run : n₀.Run capacity h n) : n.Sound capacity := by
  induction run with
  | start => exact hsound
  | move m _ possible ih => exact ih.after hfair possible

/-- An end that is stuck was given more than its pipe holds. -/
theorem Sound.lt_of_stuck (hsound : n.Sound capacity) (hstuck : n.Stuck capacity i) :
    capacity i < (n.accepted i).flatten.length := by
  have hrest := List.length_pos_iff.2 hstuck.1
  have hbacklog := (n.connection i).length_unwritten_le
  have hcounted := hsound.counted i
  have hfull := hstuck.2
  omega

/-! ### Jams -/

section

variable (h : (i : Side) → Handler (σ i)) (n : Couple σ) (i : Side) (e : Connection.Event)

theorem connection_event : (n.after h (.event i e)).connection i =
    ((n.connection i).step (h i) (n.state i) e).connection := by
  simp [after, setEnd]

theorem connection_event_other : (n.after h (.event i e)).connection i.other =
    n.connection i.other := by
  simp [after, setEnd, i.other_ne]

theorem pipe_event : (n.after h (.event i e)).pipe i =
    n.pipe i ++ (n.connection i).emitted e := by
  simp [after]

theorem pipe_event_other : (n.after h (.event i e)).pipe i.other =
    (n.pipe i.other).drop ((n.connection i).heard e).length := by
  simp [after, i.other_ne]

end

/-- What a run comes to at one end while nothing happens at the other, not even a read. -/
structure Alone (capacity : Side → Nat) (h : (i : Side) → Handler (σ i)) (i : Side)
    (n n' : Couple σ) : Prop where
  run : n.Run capacity h n'
  connection : n'.connection i.other = n.connection i.other
  pipe : n'.pipe i.other = n.pipe i.other

theorem Alone.trans {n₁ n₂ : Couple σ} (ha : Alone capacity h i n n₁)
    (hb : Alone capacity h i n₁ n₂) : Alone capacity h i n n₂ :=
  ⟨ha.run.trans hb.run, hb.connection.trans ha.connection, hb.pipe.trans ha.pipe⟩

/-- An event other than a read concerns one end alone. -/
theorem alone_event {e : Connection.Event} (hpossible : n.Possible capacity (.event i e))
    (hheard : (n.connection i).heard e = []) : Alone capacity h i n (n.after h (.event i e)) := by
  refine ⟨.move _ .start hpossible, connection_event_other h n i e, ?_⟩
  rw [pipe_event_other, hheard, List.length_nil, List.drop_zero]

/-- Looking into the queue and flushing concern the connection alone, and neither of the pipes. -/
theorem exists_quiet {e : Connection.Event} (he : e = .polled ∨ e = .flushed)
    {P : Connection → Prop}
    (hstep : P ((n.connection i).step (h i) (n.state i) e).connection) :
    ∃ n', Alone capacity h i n n' ∧ P (n'.connection i) ∧ n'.pipe i = n.pipe i := by
  have hquiet : (n.connection i).heard e = [] ∧ (n.connection i).emitted e = [] ∧
      n.Possible capacity (.event i e) := by
    rcases he with rfl | rfl
    · exact ⟨Connection.heard_eq_nil nofun, Connection.emitted_eq_nil nofun, trivial⟩
    · exact ⟨Connection.heard_eq_nil nofun, Connection.emitted_eq_nil nofun, trivial⟩
  obtain ⟨hheard, hemitted, hpossible⟩ := hquiet
  refine ⟨n.after h (.event i e), alone_event hpossible hheard, ?_, ?_⟩
  · rw [connection_event]
    exact hstep
  · rw [pipe_event, hemitted, List.append_nil]

section

variable {rest : List Command} {bytes : Octets}

/-- An end between two frames drops a request to close. -/
theorem exists_closed (hidle : (n.connection i).IsAt .idle)
    (hqueue : (n.connection i).outlet.queue = .close :: rest) :
    ∃ n', Alone capacity h i n n' ∧
      ((n'.connection i).IsAt .idle ∧ (n'.connection i).outlet.queue = rest) ∧
      n'.pipe i = n.pipe i :=
  exists_quiet (P := fun c => c.IsAt .idle ∧ c.outlet.queue = rest) (.inl rfl)
    (Connection.step_polled_close (h i) (n.state i) hidle hqueue)

/-- It takes up a frame. -/
theorem exists_taken (hidle : (n.connection i).IsAt .idle)
    (hqueue : (n.connection i).outlet.queue = .frame bytes :: rest) :
    ∃ n', Alone capacity h i n n' ∧
      ((n'.connection i).IsAt (.bytes bytes) ∧ (n'.connection i).outlet.queue = rest) ∧
      n'.pipe i = n.pipe i :=
  exists_quiet (P := fun c => c.IsAt (.bytes bytes) ∧ c.outlet.queue = rest) (.inl rfl)
    (Connection.step_polled_frame (h i) (n.state i) hidle hqueue)

/-- It flushes what it wrote. -/
theorem exists_flushed (hflush : (n.connection i).IsAt .flush)
    (hqueue : (n.connection i).outlet.queue = rest) :
    ∃ n', Alone capacity h i n n' ∧
      ((n'.connection i).IsAt .idle ∧ (n'.connection i).outlet.queue = rest) ∧
      n'.pipe i = n.pipe i :=
  exists_quiet (P := fun c => c.IsAt .idle ∧ c.outlet.queue = rest) (.inr rfl)
    (hqueue ▸ Connection.step_flushed (h i) (n.state i) hflush)

/-- It writes as much of a frame as there is room for. -/
theorem exists_wrote (hbytes : (n.connection i).IsAt (.bytes bytes))
    (hother : (n.connection i.other).phase ≠ .ended) (count : Nat) (hzero : count = 0 → bytes = [])
    (hcount : count ≤ bytes.length) (hroom : (n.pipe i).length + count ≤ capacity i) :
    ∃ n', Alone capacity h i n n' ∧
      (n'.connection i).IsAt (Connection.Writing.advance count (.bytes bytes)) ∧
      (n'.connection i).outlet.queue = (n.connection i).outlet.queue ∧
      n'.pipe i = n.pipe i ++ bytes.take count := by
  have hstep := Connection.step_wrote (h i) (n.state i) hbytes count
  rw [← connection_event] at hstep
  have hpossible : n.Possible capacity (.event i (.wrote count)) := by
    rw [← Connection.unwritten_of_isAt hbytes] at hzero hcount
    exact ⟨hzero, hcount, hroom, hother⟩
  refine ⟨_, alone_event hpossible (Connection.heard_eq_nil nofun), hstep.1, hstep.2, ?_⟩
  rw [pipe_event, Connection.emitted_of_isAt hbytes]

/-- Where the pipe has room for a frame, it is written to its end. -/
theorem exists_written (hidle : (n.connection i).IsAt .idle)
    (hqueue : (n.connection i).outlet.queue = .frame bytes :: rest)
    (hother : (n.connection i.other).phase ≠ .ended)
    (hroom : (n.pipe i).length + bytes.length ≤ capacity i) :
    ∃ n', Alone capacity h i n n' ∧ (n'.connection i).IsAt .idle ∧
      (n'.connection i).outlet.queue = rest ∧ n'.pipe i = n.pipe i ++ bytes := by
  obtain ⟨n₁, ha₁, ⟨hbytes, hqueue₁⟩, hpipe₁⟩ := exists_taken hidle hqueue
  obtain ⟨n₂, ha₂, hflush, hqueue₂, hpipe₂⟩ := exists_wrote hbytes (ha₁.connection ▸ hother)
    bytes.length List.eq_nil_of_length_eq_zero (Nat.le_refl _) (hpipe₁ ▸ hroom)
  rw [Connection.Writing.advance, if_pos (Nat.le_refl _)] at hflush
  obtain ⟨n₃, ha₃, ⟨hidle₃, hqueue₃⟩, hpipe₃⟩ := exists_flushed hflush (hqueue₂.trans hqueue₁)
  refine ⟨n₃, (ha₁.trans ha₂).trans ha₃, hidle₃, hqueue₃, ?_⟩
  rw [hpipe₃, hpipe₂, hpipe₁, List.take_length]

/-- Where it has not, the end is stuck in the frame. -/
theorem exists_stuck_in_frame (hidle : (n.connection i).IsAt .idle)
    (hqueue : (n.connection i).outlet.queue = .frame bytes :: rest)
    (hother : (n.connection i.other).phase ≠ .ended) (hfits : (n.pipe i).length ≤ capacity i)
    (hmore : capacity i < (n.pipe i).length + bytes.length) :
    ∃ n', Alone capacity h i n n' ∧ n'.Stuck capacity i := by
  obtain ⟨n₁, ha₁, ⟨hbytes, -⟩, hpipe₁⟩ := exists_taken hidle hqueue
  by_cases hfull : (n.pipe i).length = capacity i
  · refine ⟨n₁, ha₁, ?_, hpipe₁ ▸ hfull⟩
    rw [Connection.unwritten_of_isAt hbytes]
    exact List.ne_nil_of_length_pos (by omega)
  · have hroom : (n₁.pipe i).length + (capacity i - (n.pipe i).length) ≤ capacity i := by
      rw [hpipe₁]
      omega
    obtain ⟨n₂, ha₂, hrest, -, hpipe₂⟩ := exists_wrote hbytes (ha₁.connection ▸ hother)
      (capacity i - (n.pipe i).length) (by omega) (by omega) hroom
    rw [Connection.Writing.advance, if_neg (by omega)] at hrest
    refine ⟨n₂, ha₁.trans ha₂, ?_, ?_⟩
    · rw [Connection.unwritten_of_isAt hrest]
      exact List.ne_nil_of_length_pos (by rw [List.length_drop]; omega)
    · rw [hpipe₂, hpipe₁, List.length_append, List.length_take]
      omega

end

/-- An end with more to write than there is room for gets stuck while the other does nothing. -/
theorem exists_stuck (hidle : (n.connection i).IsAt .idle)
    (hother : (n.connection i.other).phase ≠ .ended) (hfits : (n.pipe i).length ≤ capacity i)
    (hmore : capacity i < (n.pipe i).length + (n.connection i).backlog) :
    ∃ n', Alone capacity h i n n' ∧ n'.Stuck capacity i := by
  rw [Connection.backlog_of_isAt_idle hidle] at hmore
  -- one command after another, until the pipe is full
  generalize hqueue : (n.connection i).outlet.queue = queue at hmore
  induction queue generalizing n with
  | nil =>
    simp only [Connection.frames_nil, List.flatten_nil, List.length_nil] at hmore
    omega
  | cons command rest ih =>
    cases command with
    | close =>
      obtain ⟨n₁, ha₁, ⟨hidle₁, hqueue₁⟩, hpipe₁⟩ := exists_closed (h := h) hidle hqueue
      obtain ⟨n', ha, hstuck⟩ := ih hidle₁ (ha₁.connection ▸ hother) (hpipe₁ ▸ hfits) hqueue₁
        (hpipe₁ ▸ hmore)
      exact ⟨n', ha₁.trans ha, hstuck⟩
    | frame bytes =>
      by_cases hroom : (n.pipe i).length + bytes.length ≤ capacity i
      · obtain ⟨n₁, ha₁, hidle₁, hqueue₁, hpipe₁⟩ :=
          exists_written (h := h) hidle hqueue hother hroom
        simp only [Connection.frames_frame, List.flatten_cons, List.length_append] at hmore
        obtain ⟨n', ha, hstuck⟩ := ih hidle₁ (ha₁.connection ▸ hother)
          (by rw [hpipe₁, List.length_append]; exact hroom) hqueue₁
          (by rw [hpipe₁, List.length_append]; omega)
        exact ⟨n', ha₁.trans ha, hstuck⟩
      · exact exists_stuck_in_frame hidle hqueue hother hfits (Nat.lt_of_not_le hroom)

/-- Two ends that both have more to write than there is room for can jam. -/
theorem exists_jammed (hfits : ∀ i, (n.pipe i).length ≤ capacity i)
    (hidle : ∀ i, (n.connection i).IsAt .idle)
    (hmore : ∀ i, capacity i < (n.pipe i).length + (n.connection i).backlog) :
    ∃ n', n.Run capacity h n' ∧ n'.Jammed capacity := by
  have hright : (n.connection .right).phase ≠ .ended := by
    rcases hidle .right with hphase | hphase <;> simp [hphase]
  obtain ⟨n₁, ha₁, hstuck₁⟩ := exists_stuck (h := h) (i := .left) (hidle .left) hright
    (hfits .left) (hmore .left)
  have hconnection : n₁.connection .right = n.connection .right := ha₁.connection
  have hpipe : n₁.pipe .right = n.pipe .right := ha₁.pipe
  have hleft : (n₁.connection .left).phase ≠ .ended := by
    intro hphase
    exact hstuck₁.1 (by simp [Connection.unwritten, hphase])
  obtain ⟨n₂, ha₂, hstuck₂⟩ := exists_stuck (h := h) (i := .right) (n := n₁)
    (hconnection ▸ hidle .right) hleft (hpipe ▸ hfits .right)
    (by rw [hconnection, hpipe]; exact hmore .right)
  refine ⟨n₂, ha₁.run.trans ha₂.run, fun i => ?_⟩
  cases i with
  | left =>
    have hconnection₂ : n₂.connection .left = n₁.connection .left := ha₂.connection
    have hpipe₂ : n₂.pipe .left = n₁.pipe .left := ha₂.pipe
    rw [Stuck, hconnection₂, hpipe₂]
    exact hstuck₁
  | right => exact hstuck₂

/-- Two ends that are given one frame each before they look into their queues can jam, if neither
frame fits into its pipe. -/
theorem exists_jammed_of_frames (s : (i : Side) → σ i) (peer : Side → Option Address)
    {limit : Side → Nat} (hopened : ∀ i s o, (h i).opened s o = (s, o)) {f : Side → Frame}
    {bytes : Side → Octets} (hbytes : ∀ i, (f i).encode (limit i) = .ok (bytes i))
    (hlong : ∀ i, capacity i < (bytes i).length) :
    ∃ n, (new s peer limit).Run capacity h n ∧ n.Jammed capacity := by
  let moves : List Move :=
    [.event .left .started, .event .right .started, .send .left (f .left), .send .right (f .right)]
  have hrun : (new s peer limit).Run capacity h ((new s peer limit).afterAll h moves) :=
    .afterAll .start ⟨trivial, trivial, trivial, trivial, trivial⟩
  have hpipe : ∀ i, ((new s peer limit).afterAll h moves).pipe i = [] := by
    simp [moves, afterAll, after, setEnd, new, Connection.new, Outlet.new, Connection.step, hopened,
      Connection.emitted, Connection.heard, Outlet.send, hbytes]
  have hconnection : ∀ i, ((new s peer limit).afterAll h moves).connection i =
      ⟨⟨peer i, limit i, true, [.frame (bytes i)]⟩, .serving .idle, []⟩ := by
    intro i
    cases i <;> simp [moves, afterAll, after, setEnd, new, Connection.new, Outlet.new,
      Connection.step, hopened, Outlet.send, hbytes]
  have hfits : ∀ i, (((new s peer limit).afterAll h moves).pipe i).length ≤ capacity i := by
    simp [hpipe]
  have hidle : ∀ i, (((new s peer limit).afterAll h moves).connection i).IsAt .idle := by
    simp [hconnection, Connection.IsAt]
  have hmore : ∀ i, capacity i < (((new s peer limit).afterAll h moves).pipe i).length +
      (((new s peer limit).afterAll h moves).connection i).backlog := by
    simpa [hpipe, hconnection, Connection.backlog, Connection.pieces,
      Connection.Writing.inHand] using hlong
  obtain ⟨n', hrun', hjam⟩ := exists_jammed hfits hidle hmore
  exact ⟨n', hrun.trans hrun', hjam⟩

/-- What is done to an outlet changes nothing about a jam. -/
theorem Jammed.setOutlet (hjam : n.Jammed capacity) (j : Side) (o : Outlet) :
    (n.setEnd j (n.state j) { n.connection j with outlet := o }).Jammed capacity := by
  intro i
  refine ⟨?_, (hjam i).2⟩
  by_cases hij : i = j
  · subst hij
    simpa only [setEnd, Function.update_self, Connection.unwritten] using (hjam i).1
  · simpa only [setEnd, Function.update_of_ne hij] using (hjam i).1

/-- Nothing but a failure ends a jam. -/
theorem Jammed.after (hjam : n.Jammed capacity) (hpossible : n.Possible capacity m)
    (hfailed : ∀ i, m ≠ .event i .writeFailed) : (n.after h m).Jammed capacity := by
  cases m with
  | event j e =>
    have hwrote : ∀ count, e ≠ .wrote count := by
      rintro count rfl
      -- a full pipe takes nothing, and what is left of the frame is more than nothing
      obtain ⟨hzero, -, hroom, -⟩ := hpossible
      have hfull := (hjam j).2
      exact (hjam j).1 (hzero (by omega))
    have hstep := Connection.step_of_unwritten (hjam j).1 hwrote (fun he => hfailed j (he ▸ rfl))
      (h j) (n.state j)
    intro i
    rcases j.eq_or_eq_other i with rfl | rfl
    · rw [Stuck, connection_event, pipe_event, hstep, Connection.emitted_eq_nil hwrote,
        List.append_nil]
      exact hjam i
    · rw [Stuck, connection_event_other, pipe_event_other,
        Connection.heard_of_unwritten (hjam j).1, List.length_nil, List.drop_zero]
      exact hjam j.other
  | send j f =>
    unfold Couple.after
    dsimp only
    split
    · exact hjam.setOutlet j _
    · exact hjam
  | close j => exact hjam.setOutlet j _

/-- What becomes of two ends that write to each other. -/
structure Crossing (capacity : Side → Nat) (h : (i : Side) → Handler (σ i)) (n : Couple σ) :
    Prop where
  /-- While all that was accepted at one of the ends fits into its pipe, they do not wait for each
  other. -/
  flows : ∀ {i}, (n.accepted i).flatten.length ≤ capacity i → ¬ n.Jammed capacity
  /-- If both have more to write than there is room for, they can come to do so ... -/
  jams : (∀ i, (n.connection i).IsAt .idle) →
    (∀ i, capacity i < (n.pipe i).length + (n.connection i).backlog) →
    ∃ n', n.Run capacity h n' ∧ n'.Jammed capacity
  /-- ... and then wait until a write fails. -/
  lasts : n.Jammed capacity → ∀ {m}, n.Possible capacity m → (∀ i, m ≠ .event i .writeFailed) →
    (n.after h m).Jammed capacity

/-- Two connections from their beginning on, whatever their users do and in whatever order. -/
theorem crossing_of_run (hfair : ∀ i, (h i).Fair) {s : (i : Side) → σ i}
    {peer : Side → Option Address} {limit : Side → Nat}
    (run : (new s peer limit).Run capacity h n) : n.Crossing capacity h :=
  have hsound := run.sound hfair (sound_new s peer limit)
  { flows := fun hfit hjam => Nat.not_lt.2 hfit (hsound.lt_of_stuck (hjam _))
    jams := exists_jammed hsound.fits
    lasts := fun hjam _ => hjam.after }

/-- A user that sends every frame back. -/
def echo : Handler Unit where
  opened s o := (s, o)
  frame s o f :=
    match o.send f with
    | .ok o' => ⟨s, o', [], none⟩
    | .error e => ⟨s, o, [], some e⟩
  closed s _ := s

theorem fair_echo : echo.Fair where
  opened _ _ := .untouched
  frame s o f := by
    unfold echo
    dsimp only
    split
    · rename_i hsend
      exact Outlet.Used.untouched.sent hsend
    · exact .untouched

/-- A frame is sent to an echo, in two pieces, and comes back; the pipes hold less than two. -/
def echoedFrame : List Move :=
  [.event .left .started, .event .right .started, .send .left ⟨1, [7]⟩, .event .left .polled,
    .event .left (.wrote 4), .event .right (.received [0, 0, 0, 1]), .event .left (.wrote 2),
    .event .left .flushed, .event .right (.received [1, 7]), .event .right .polled,
    .event .right (.wrote 6)]

/-- What the echo was given to write fits into its pipe, and so it keeps reading. -/
theorem crossing_echoedFrame :
    let n₀ : Couple fun _ => Unit := new (fun _ => ()) (fun _ => none) (fun _ => 16)
    let n := n₀.afterAll (fun _ => echo) echoedFrame
    n₀.Run (fun _ => 8) (fun _ => echo) n ∧ n.Crossing (fun _ => 8) (fun _ => echo) ∧
      n.pipe .right = [0, 0, 0, 1, 1, 7] ∧ (n.accepted .right).flatten.length ≤ 8 := by
  have hrun : (new (σ := fun _ => Unit) (fun _ => ()) (fun _ => none) (fun _ => 16)).Run
      (fun _ => 8) (fun _ => echo)
      ((new (fun _ => ()) (fun _ => none) (fun _ => 16)).afterAll (fun _ => echo) echoedFrame) :=
    .afterAll .start (by decide +kernel)
  exact ⟨hrun, crossing_of_run (fun _ => fair_echo) hrun, by decide +kernel, by decide +kernel⟩

/-- A frame is sent at each end, and both ends begin to write. -/
def crossingFrames : List Move :=
  [.event .left .started, .event .right .started, .send .left ⟨1, [7]⟩, .send .right ⟨2, []⟩,
    .event .left .polled, .event .left (.wrote 4), .event .right .polled,
    .event .right (.wrote 4)]

/-- Where the pipes hold less than a frame, each end waits for the other to read. -/
theorem jammed_crossingFrames :
    let n₀ : Couple fun _ => Unit := new (fun _ => ()) (fun _ => none) (fun _ => 16)
    let n := n₀.afterAll (fun _ => echo) crossingFrames
    n₀.Run (fun _ => 4) (fun _ => echo) n ∧ n.Jammed fun _ => 4 := by
  refine ⟨.afterAll .start (by decide +kernel), fun i => ?_⟩
  cases i with
  | left => exact ⟨by decide +kernel, by decide +kernel⟩
  | right => exact ⟨by decide +kernel, by decide +kernel⟩

end Couple

end ActorMesh
