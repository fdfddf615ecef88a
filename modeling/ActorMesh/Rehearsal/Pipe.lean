import ActorMesh.Connection

/-!
# Connections over pipes

A **pipe** is a stream in memory, seen from the end where a connection runs. What the far end writes
waits until the connection reads it, and a pipe holds so many octets of that. The far end reads all
the time, so what the connection writes never waits; it is kept until it is asked for (`collect`). A
pipe can be told to fail from now on at reading, writing, flushing or shutting down.

`settle` lets a connection go on until it has nothing to do. It ends because every step either
brings the connection closer to its end, or uses up what arrived, or takes up a command, or goes on
with the frame that is being written (`next_decreases`).

`push` puts octets into a pipe at once. A far end in hand writes with `pour`: as much as there is
room for, and whenever the pipe is full it lets everything go on.
-/

namespace ActorMesh.Rehearsal

open Connection (Event Phase Writing)

/-- A stream in memory. -/
structure Pipe where
  /-- What the far end wrote and nobody read. -/
  incoming : Octets := []
  /-- Whether the far end writes no more. -/
  inputEnded : Bool := false
  /-- Whether the far end is gone altogether. -/
  hungUp : Bool := false
  /-- What the connection wrote and nobody asked for, piece by piece, the newest first. -/
  written : List Octets := []
  /-- Whether the connection writes no more. -/
  finished : Bool := false
  readFails : Bool := false
  writeFails : Bool := false
  flushFails : Bool := false
  shutdownFails : Bool := false
  /-- Whether something has happened that the connection has not looked at; a pipe that fails at
  reading is only noticed then. -/
  woken : Bool := false
  deriving DecidableEq, Repr

instance : Inhabited Pipe := ⟨{}⟩

/-- What the connection wrote and nobody asked for. -/
def Pipe.outgoing (p : Pipe) : Octets := p.written.reverse.flatten

/-- How many octets a pipe holds that were not read. -/
def Pipe.capacity : Nat := 8 * 1024 * 1024

/-- What a pipe can fail at. -/
inductive Operation
  | read
  | write
  | flush
  | shutdown
  deriving DecidableEq, Repr

/-- From now on a pipe fails at something. -/
def Pipe.fail (p : Pipe) : Operation → Pipe
  | .read => { p with readFails := true }
  | .write => { p with writeFails := true }
  | .flush => { p with flushFails := true }
  | .shutdown => { p with shutdownFails := true }

/-- What becomes of octets that the far end writes. -/
inductive Push
  | taken
  /-- The connection is gone or reads no more, or the far end said that it would not write. -/
  | refused
  /-- The far end itself is gone. -/
  | hungUp
  deriving DecidableEq, Repr

/-- A connection and its pipe. -/
structure Endpoint where
  connection : Connection
  pipe : Pipe
  /-- Whether the connection was told to run. -/
  running : Bool
  deriving DecidableEq, Repr

namespace Endpoint

variable {σ : Type}

/-- A connection that does not run yet, over a new pipe. -/
def new (peer : Option Address) (limit : Nat) : Endpoint := ⟨.new peer limit, {}, false⟩

/-- What becomes of octets that the far end writes now. -/
def pushOutcome (ep : Endpoint) (bytes : Octets) : Push :=
  if ep.pipe.hungUp then .hungUp
  else if bytes.isEmpty then .taken
  else if ep.pipe.inputEnded || ep.connection.phase = .ended then .refused
  else .taken

/-- The far end writes. -/
def push (ep : Endpoint) (bytes : Octets) : Endpoint :=
  match ep.pushOutcome bytes with
  | .taken =>
    { ep with pipe := { ep.pipe with
        incoming := ep.pipe.incoming ++ bytes
        woken := ep.pipe.woken || !bytes.isEmpty } }
  | _ => ep

/-- For how many octets of the far end there is room. -/
def room (ep : Endpoint) : Nat := Pipe.capacity - ep.pipe.incoming.length

/-- The far end writes no more. -/
def endInput (ep : Endpoint) : Endpoint :=
  { ep with pipe := { ep.pipe with inputEnded := true, woken := true } }

/-- The far end goes away. -/
def hangUp (ep : Endpoint) : Endpoint :=
  { ep with pipe := { ep.pipe with inputEnded := true, hungUp := true, woken := true } }

/-- The outlet of the connection changes from outside. -/
def withOutlet (ep : Endpoint) (o : Outlet) : Endpoint :=
  { ep with
    connection := { ep.connection with outlet := o }
    pipe := { ep.pipe with woken := true } }

/-- From now on the pipe fails at something; the connection is not told. -/
def fail (ep : Endpoint) (o : Operation) : Endpoint := { ep with pipe := ep.pipe.fail o }

/-- The connection is told to run. -/
def run (ep : Endpoint) : Endpoint :=
  { ep with running := true, pipe := { ep.pipe with woken := true } }

/-- The connection is thrown away, unless it runs already. -/
def discard (ep : Endpoint) : Endpoint :=
  if ep.running || ep.connection.phase ≠ .made then ep
  else
    { ep with
      connection := { ep.connection with outlet := ep.connection.outlet.refuse, phase := .ended }
      pipe := { ep.pipe with finished := true } }

/-- What the far end has read since it was asked last. -/
def collect (ep : Endpoint) : Octets × Endpoint :=
  (ep.pipe.outgoing, { ep with pipe := { ep.pipe with written := [] } })

/-- Whether the far end has seen the end. -/
def isOver (ep : Endpoint) : Bool := ep.pipe.finished || ep.pipe.hungUp

/-- What happens next at a connection. Reading goes before writing. -/
def next? (ep : Endpoint) : Option Event :=
  let p := ep.pipe
  match ep.connection.phase with
  | .made => if ep.running then some .started else none
  | .ended => none
  | .serving .idle =>
    if p.readFails && p.woken then some .readFailed
    else if !p.readFails && !p.incoming.isEmpty then some (.received p.incoming)
    else if !p.readFails && p.inputEnded then some .inputEnded
    else if !ep.connection.outlet.queue.isEmpty then some .polled
    else none
  | .draining .idle => some .polled
  | .serving (.bytes rest) | .draining (.bytes rest) =>
    if p.writeFails || p.hungUp then some .writeFailed else some (.wrote rest.length)
  | .serving .flush | .draining .flush =>
    if p.flushFails then some .writeFailed else some .flushed
  | .closing => some .shutDown

/-- What an event does to the pipe. -/
def Pipe.after (p : Pipe) (phase : Phase) : Event → Pipe
  | .received _ => { p with incoming := [] }
  | .wrote count =>
    match phase with
    | .serving (.bytes rest) | .draining (.bytes rest) =>
      { p with written := rest.take count :: p.written }
    | _ => p
  | .shutDown | .discarded => { p with finished := true }
  | _ => p

/-- What a step of an endpoint came to. -/
structure Progress (σ : Type) where
  state : σ
  endpoint : Endpoint
  notices : List Notice

/-- An event happens. -/
def apply (h : Handler σ) (s : σ) (ep : Endpoint) (e : Event) : Progress σ :=
  let r := ep.connection.step h s e
  ⟨r.state, { ep with
    connection := r.connection
    pipe := Pipe.after ep.pipe ep.connection.phase e }, r.notices⟩

/-! ### Going on until nothing is left to do -/

/-- How far a phase is from the end. -/
def phaseRank : Phase → Nat
  | .made => 4
  | .serving _ => 3
  | .draining _ => 2
  | .closing => 1
  | .ended => 0

/-- How far the writing of a frame is from its end. -/
def writingRank : Phase → Nat
  | .serving (.bytes _) | .draining (.bytes _) => 2
  | .serving .flush | .draining .flush => 1
  | _ => 0

/-- What is left to do: phases, arrivals, commands, and the frame in hand, in this order. -/
def Before (a b : Endpoint) : Prop :=
  Prod.Lex (· < ·) (Prod.Lex (· < ·) (Prod.Lex (· < ·) (· < ·)))
    (phaseRank a.connection.phase, a.pipe.incoming.length, a.connection.outlet.queue.length,
      writingRank a.connection.phase)
    (phaseRank b.connection.phase, b.pipe.incoming.length, b.connection.outlet.queue.length,
      writingRank b.connection.phase)

theorem before_wf : WellFounded Before :=
  InvImage.wf
    (fun ep : Endpoint => (phaseRank ep.connection.phase, ep.pipe.incoming.length,
      ep.connection.outlet.queue.length, writingRank ep.connection.phase))
    (Prod.lex ⟨_, Nat.lt_wfRel.wf⟩ (Prod.lex ⟨_, Nat.lt_wfRel.wf⟩
      (Prod.lex ⟨_, Nat.lt_wfRel.wf⟩ ⟨_, Nat.lt_wfRel.wf⟩))).wf

theorem before_of_rank {a b : Endpoint}
    (h : phaseRank a.connection.phase < phaseRank b.connection.phase) : Before a b :=
  .left _ _ h

theorem before_of_incoming {a b : Endpoint}
    (hr : phaseRank a.connection.phase = phaseRank b.connection.phase)
    (h : a.pipe.incoming.length < b.pipe.incoming.length) : Before a b := by
  unfold Before; rw [hr]; exact .right _ (.left _ _ h)

theorem before_of_queue {a b : Endpoint}
    (hr : phaseRank a.connection.phase = phaseRank b.connection.phase)
    (hi : a.pipe.incoming.length = b.pipe.incoming.length)
    (h : a.connection.outlet.queue.length < b.connection.outlet.queue.length) : Before a b := by
  unfold Before; rw [hr, hi]; exact .right _ (.right _ (.left _ _ h))

theorem before_of_writing {a b : Endpoint}
    (hr : phaseRank a.connection.phase = phaseRank b.connection.phase)
    (hi : a.pipe.incoming.length = b.pipe.incoming.length)
    (hq : a.connection.outlet.queue.length = b.connection.outlet.queue.length)
    (h : writingRank a.connection.phase < writingRank b.connection.phase) : Before a b := by
  unfold Before; rw [hr, hi, hq]; exact .right _ (.right _ (.right _ h))

/-- What happens next brings an endpoint closer to having nothing to do. -/
theorem next_decreases (h : Handler σ) (s : σ) {ep : Endpoint} {e : Event}
    (he : ep.next? = some e) : Before (ep.apply h s e).endpoint ep := by
  obtain ⟨⟨o, phase, buffer⟩, p, running⟩ := ep
  unfold next? at he
  match phase, he with
  | .made, he =>
    simp only at he
    split at he <;> cases he
    exact before_of_rank (by simp [apply, Connection.step, phaseRank])
  | .serving .idle, he =>
    simp only at he
    split at he
    · cases he; exact before_of_rank (by simp [apply, Connection.step, Connection.stop, phaseRank])
    · split at he
      · rename_i hin
        cases he
        simp only [Bool.and_eq_true, Bool.not_eq_true', List.isEmpty_eq_false_iff] at hin
        simp only [apply, Connection.step, Connection.receive]
        split
        · refine before_of_incoming (by simp [phaseRank]) ?_
          simpa [Pipe.after] using List.length_pos_iff.2 hin.2
        · exact before_of_rank (by simp [Connection.stop, phaseRank])
      · split at he
        · cases he
          exact before_of_rank (by simp [apply, Connection.step, Connection.stop, phaseRank])
        · split at he
          · rename_i hq
            cases he
            match hqs : o.queue, hq with
            | .frame bytes :: rest, _ =>
              refine before_of_queue ?_ ?_ ?_ <;>
                simp [apply, Connection.step, Connection.poll, hqs, phaseRank, Pipe.after]
            | .close :: rest, _ =>
              exact before_of_rank (by
                simp [apply, Connection.step, Connection.poll, hqs, Connection.stop, phaseRank])
          · cases he
  | .draining .idle, he =>
    cases he
    match hqs : o.queue with
    | [] =>
      exact before_of_rank (by simp [apply, Connection.step, Connection.poll, hqs, phaseRank])
    | .frame bytes :: rest =>
      refine before_of_queue ?_ ?_ ?_ <;>
        simp [apply, Connection.step, Connection.poll, hqs, phaseRank, Pipe.after]
    | .close :: rest =>
      refine before_of_queue ?_ ?_ ?_ <;>
        simp [apply, Connection.step, Connection.poll, hqs, phaseRank, Pipe.after]
  | .serving (.bytes rest), he =>
    simp only at he
    split at he <;> cases he
    · exact before_of_rank (by simp [apply, Connection.step, Connection.stop, phaseRank])
    · refine before_of_writing rfl rfl rfl ?_
      simp [apply, Connection.step, Writing.advance, writingRank]
  | .draining (.bytes rest), he =>
    simp only at he
    split at he <;> cases he
    · exact before_of_rank (by simp [apply, Connection.step, phaseRank])
    · refine before_of_writing rfl rfl rfl ?_
      simp [apply, Connection.step, Writing.advance, writingRank]
  | .serving .flush, he =>
    simp only at he
    split at he <;> cases he
    · exact before_of_rank (by simp [apply, Connection.step, Connection.stop, phaseRank])
    · refine before_of_writing ?_ ?_ ?_ ?_ <;>
        simp [apply, Connection.step, phaseRank, Pipe.after, writingRank]
  | .draining .flush, he =>
    simp only at he
    split at he <;> cases he
    · exact before_of_rank (by simp [apply, Connection.step, phaseRank])
    · refine before_of_writing ?_ ?_ ?_ ?_ <;>
        simp [apply, Connection.step, phaseRank, Pipe.after, writingRank]
  | .closing, he =>
    cases he
    exact before_of_rank (by simp [apply, Connection.step, phaseRank])

/-- Lets a connection go on until it has nothing to do. -/
def settle (h : Handler σ) (s : σ) (ep : Endpoint) : Progress σ :=
  match he : ep.next? with
  | none => ⟨s, { ep with pipe := { ep.pipe with woken := false } }, []⟩
  | some e =>
    have := next_decreases h s he
    let r := ep.apply h s e
    let more := settle h r.state r.endpoint
    { more with notices := r.notices ++ more.notices }
termination_by before_wf.wrap ep
decreasing_by exact this

/-! ### Writing more than there is room for -/

/-- The far end writes octets to a connection that is part of a world `w`. While they do not fit, it
fills the pipe and lets the world go on; if that makes no room, nobody will read the rest. -/
def pour {ω : Type} (look : ω → Endpoint) (change : (Endpoint → Endpoint) → ω → ω) (goOn : ω → ω)
    (w : ω) (bytes : Octets) : Push × ω :=
  if bytes.length ≤ (look w).room ∨ (look w).pushOutcome bytes ≠ .taken then
    ((look w).pushOutcome bytes, change (·.push bytes) w)
  else
    let later := goOn (change (·.push (bytes.take (look w).room)) w)
    if (look later).room = 0 then (.refused, later)
    else pour look change goOn later (bytes.drop (look w).room)
termination_by (bytes.length, if (look w).room = 0 then 1 else 0)
decreasing_by
  rename_i hfit hroom
  simp only [not_or, Nat.not_le] at hfit
  rw [if_neg hroom]
  by_cases h : (look w).room = 0
  · rw [if_pos h, h, List.drop_zero]
    exact .right _ Nat.one_pos
  · exact .left _ _ (by rw [List.length_drop]; omega)

end Endpoint

end ActorMesh.Rehearsal
