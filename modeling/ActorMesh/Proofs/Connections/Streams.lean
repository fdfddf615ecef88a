import ActorMesh.Connection

/-!
# What a connection reads and writes

What an event makes of a connection falls into two parts. A read is handed on frame by frame, and
whatever every frame keeps is kept (`Connection.dispatch_keeps`). Every other event leaves what has
arrived alone and is `Calm`: frames only go from the queue into the stream, octet by octet, in their
order, and once the connection has stopped it never serves again.
-/

namespace ActorMesh

namespace Connection

variable {σ : Type} {h : Handler σ}

/-! ### What every frame keeps -/

theorem dispatch_keeps {P : σ → Outlet → Prop}
    (frame : ∀ s o f, P s o → P (h.frame s o f).state (h.frame s o f).outlet) (limit : Nat)
    {s : σ} {o : Outlet} (hp : P s o) (buffer : Octets) :
    let r := (dispatch h limit s o buffer).reaction
    P r.state r.outlet := by
  fun_induction dispatch h limit s o buffer with
  | case1 | case2 => exact hp
  | case3 s o buffer f _ _ _ r => exact frame s o f hp
  | case4 s o buffer f _ _ _ r _ more ih => exact ih (frame s o f hp)

/-- What every frame keeps is kept by a read. -/
theorem receive_keeps {P : σ → Prop} (frame : ∀ s o f, P s → P (h.frame s o f).state) {s : σ}
    (hp : P s) (c : Connection) (bytes : Octets) : P (c.receive h s bytes).state := by
  have hread := dispatch_keeps (P := fun s _ => P s) (fun s o f hs => frame s o f hs)
    c.outlet.limit (o := c.outlet) hp (c.buffer ++ bytes)
  unfold receive
  dsimp only
  split <;> exact hread

/-- What the opening, every frame and the closing keep is kept by every event. -/
theorem step_keeps {P : σ → Prop} (opened : ∀ s o, P s → P (h.opened s o).1)
    (frame : ∀ s o f, P s → P (h.frame s o f).state) (closed : ∀ s o, P s → P (h.closed s o))
    {s : σ} (hp : P s) (c : Connection) (e : Event) : P (c.step h s e).state := by
  unfold step
  split
  case h_3 bytes _ => exact receive_keeps frame hp c bytes
  all_goals first | exact hp | exact opened s _ hp | exact closed s _ hp

/-! ### Reading and writing -/

/-- Whether a connection serves or will serve. -/
def IsLive (c : Connection) : Prop :=
  match c.phase with
  | .made | .serving _ => True
  | _ => False

instance (c : Connection) : Decidable c.IsLive := by
  unfold IsLive
  split <;> infer_instance

/-- The octets that arrive in an event. -/
def heard (c : Connection) (e : Event) : Octets :=
  match c.phase, e with
  | .serving .idle, .received bytes => bytes
  | _, _ => []

theorem heard_received {c : Connection} (h : c.phase = .serving .idle) (bytes : Octets) :
    c.heard (.received bytes) = bytes := by
  simp only [heard, h]

theorem heard_eq_nil {c : Connection} {e : Event}
    (he : ∀ bytes, ¬ (c.phase = .serving .idle ∧ e = .received bytes)) : c.heard e = [] := by
  unfold heard
  split
  · rename_i hphase
    exact absurd ⟨hphase, rfl⟩ (he _)
  · rfl

/-- The frames among commands. -/
def frames (queue : List Command) : List Octets :=
  queue.filterMap fun
    | .frame bytes => some bytes
    | .close => none

@[simp] theorem frames_nil : frames [] = [] := rfl

@[simp] theorem frames_frame (bytes : Octets) (queue : List Command) :
    frames (.frame bytes :: queue) = bytes :: frames queue := rfl

@[simp] theorem frames_close (queue : List Command) : frames (.close :: queue) = frames queue := rfl

@[simp] theorem frames_append (queue more : List Command) :
    frames (queue ++ more) = frames queue ++ frames more :=
  List.filterMap_append

/-- The frame that is taken up in an event to be written. -/
def taken (c : Connection) (e : Event) : List Octets :=
  match c.phase, e, c.outlet.queue with
  | .serving .idle, .polled, .frame bytes :: _ => [bytes]
  | .draining .idle, .polled, .frame bytes :: _ => [bytes]
  | _, _, _ => []

/-- The octets that the stream takes in an event. -/
def emitted (c : Connection) (e : Event) : Octets :=
  match c.phase, e with
  | .serving (.bytes rest), .wrote n => rest.take n
  | .draining (.bytes rest), .wrote n => rest.take n
  | _, _ => []

/-- A connection writes nothing while it reads. -/
theorem emitted_received (c : Connection) (bytes : Octets) : c.emitted (.received bytes) = [] := by
  unfold emitted
  split <;> simp_all

/-- What is still to be written of the frame that is being written. -/
def Writing.inHand : Writing → List Octets
  | bytes rest => [rest]
  | idle | flush => []

/-- What is still to be written, frame by frame. -/
def pieces (c : Connection) : List Octets :=
  match c.phase with
  | .made => frames c.outlet.queue
  | .serving w | .draining w => w.inHand ++ frames c.outlet.queue
  | .closing | .ended => []

/-- What the events other than a read do. -/
structure Calm (c : Connection) (e : Event) (c' : Connection) : Prop where
  limit : c'.outlet.limit = c.outlet.limit
  buffer : c'.buffer = c.buffer
  live : c'.IsLive → c.IsLive ∧ c'.outlet.accepting = c.outlet.accepting
  ended : c.phase = .ended → c' = c
  taken : c.taken e ++ frames c'.outlet.queue = frames c.outlet.queue
  /-- What is to be written is written in order, unless a failure takes the frame that is being
  written, or all of them. -/
  written : c.emitted e ++ c'.pieces.flatten = c.pieces.flatten ∧
      c'.pieces.length ≤ c.pieces.length ∨
    c.emitted e = [] ∧ (c'.pieces = [] ∨ ∃ p, c.pieces = p :: c'.pieces)
  /-- As long as the connection serves, nothing gets lost. -/
  whole : c'.IsLive → c.emitted e ++ c'.pieces.flatten = c.pieces.flatten

theorem Calm.refl (c : Connection) {e : Event} (taken : c.taken e = [])
    (emitted : c.emitted e = []) : Calm c e c :=
  ⟨rfl, rfl, fun h => ⟨h, rfl⟩, fun _ => rfl, by rw [taken, List.nil_append],
    .inl ⟨by rw [emitted, List.nil_append], Nat.le_refl _⟩,
    fun _ => by rw [emitted, List.nil_append]⟩

/-- Where there is nothing to write, nothing is written. -/
theorem Calm.silent {c c' : Connection} {e : Event} (h : Calm c e c') (hnone : c.pieces = []) :
    c.emitted e = [] ∧ c'.pieces = [] := by
  rcases h.written with ⟨hwritten, hlen⟩ | ⟨hemitted, hlost⟩
  · rw [hnone] at hwritten hlen
    exact ⟨(List.append_eq_nil_iff.1 hwritten).1,
      List.eq_nil_of_length_eq_zero (Nat.le_zero.1 hlen)⟩
  · refine ⟨hemitted, hlost.resolve_right fun ⟨p, hp⟩ => ?_⟩
    cases hnone.symm.trans hp

theorem calm_poll (c : Connection) (hphase : c.phase = .serving .idle ∨ c.phase = .draining .idle) :
    Calm c .polled c.poll := by
  obtain ⟨⟨peer, limit, accepting, queue⟩, phase, buffer⟩ := c
  rcases hphase with hphase | hphase <;> obtain rfl : phase = _ := hphase <;>
    rcases queue with _ | ⟨bytes | _, rest⟩ <;> constructor <;>
      simp [poll, stop, Outlet.refuse, IsLive, taken, emitted, pieces, Writing.inHand]

theorem calm_advance {c : Connection} {rest : Octets} (n : Nat) {phase : Writing → Phase}
    (hserving : phase = .serving ∨ phase = .draining) (hphase : c.phase = phase (.bytes rest)) :
    Calm c (.wrote n) { c with phase := phase (Writing.advance n (.bytes rest)) } := by
  obtain ⟨⟨peer, limit, accepting, queue⟩, _, buffer⟩ := c
  by_cases hn : rest.length ≤ n
  · rcases hserving with rfl | rfl <;> cases hphase <;> constructor <;>
      simp [IsLive, taken, emitted, pieces, Writing.inHand, Writing.advance, hn,
        List.take_of_length_le hn]
  · rcases hserving with rfl | rfl <;> cases hphase <;> constructor <;>
      simp [IsLive, taken, emitted, pieces, Writing.inHand, Writing.advance, hn,
        -List.append_assoc, ← List.append_assoc]

/-- Every event other than a read is calm. -/
theorem step_calm (opened : ∀ s o, h.opened s o = (s, o)) (s : σ) {c : Connection} {e : Event}
    (he : ∀ bytes, ¬ (c.phase = .serving .idle ∧ e = .received bytes)) :
    Calm c e (c.step h s e).connection := by
  obtain ⟨⟨peer, limit, accepting, queue⟩, phase, buffer⟩ := c
  unfold step
  split
  case h_3 bytes hphase => exact absurd ⟨hphase, rfl⟩ (he bytes)
  case h_6 hphase => exact calm_poll _ (.inl hphase)
  case h_7 hphase => exact calm_poll _ (.inr hphase)
  case h_8 hphase => exact calm_advance _ (.inl rfl) hphase
  case h_9 hphase => exact calm_advance _ (.inr rfl) hphase
  case h_17 =>
    -- nothing waits for the event, so nothing is taken up and nothing is written
    refine .refl _ ?_ ?_
    · unfold taken
      split <;> simp_all
    · unfold emitted
      split <;> simp_all
  all_goals
    rename_i hphase
    obtain rfl : phase = _ := hphase
    constructor <;> simp [opened, stop, Outlet.refuse, IsLive, taken, emitted, pieces,
      Writing.inHand]

/-- What an event other than a read makes of the state of a handler: only the closing changes it. -/
theorem step_state_calm (opened : ∀ s o, h.opened s o = (s, o)) (s : σ) {c : Connection} {e : Event}
    (he : ∀ bytes, ¬ (c.phase = .serving .idle ∧ e = .received bytes)) :
    (c.step h s e).state = s ∨
      (c.step h s e).state = h.closed s c.outlet ∧ (c.step h s e).connection.phase = .ended := by
  unfold step
  split
  case h_1 => exact .inl (by simp [opened])
  case h_3 bytes hphase => exact absurd ⟨hphase, rfl⟩ (he bytes)
  case h_16 => exact .inr ⟨rfl, rfl⟩
  all_goals exact .inl rfl

end Connection

end ActorMesh
