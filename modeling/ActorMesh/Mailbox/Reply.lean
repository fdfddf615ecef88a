import ActorMesh.Identity
import ActorMesh.Table
import ActorMesh.Text.Diagnostic

/-!
# Reply slots

Whoever asks from outside the actor system waits at a **reply slot**. A slot takes one answer, the
first; it is used up by that even if nobody waits any more.
-/

namespace ActorMesh

/-- What the one who waits has done so far. -/
inductive Waiting
  /-- Still waits. -/
  | listening
  /-- Has taken the answer. -/
  | served
  /-- Has gone away. -/
  | gone
  deriving DecidableEq, Repr

/-- A slot for an answer `ρ`. -/
structure ReplySlot (ρ : Type) where
  /-- Whether an answer came. -/
  completed : Bool
  /-- The answer, until it is taken. -/
  answer : Option ρ
  waiting : Waiting
  deriving DecidableEq, Repr

/-- What the one who waits finds. -/
inductive Reception (ρ : Type)
  | answer (r : ρ)
  | empty
  /-- The answer was taken before. -/
  | closed
  /-- Nobody waits any more. -/
  | gone
  deriving DecidableEq, Repr

namespace ReplySlot

variable {ρ : Type}

/-- A slot where somebody waits. -/
def new : ReplySlot ρ := ⟨false, none, .listening⟩

/-- Whether an answer would be delivered. -/
def accepts (s : ReplySlot ρ) : Bool := !s.completed && s.waiting = .listening

/-- Puts an answer into the slot; only the first has an effect. -/
def complete (s : ReplySlot ρ) (r : ρ) : ReplySlot ρ :=
  if s.completed then s
  else { s with completed := true, answer := if s.waiting = .listening then some r else none }

/-- Looks for the answer and takes it. -/
def receive (s : ReplySlot ρ) : Reception ρ × ReplySlot ρ :=
  match s.waiting with
  | .gone => (.gone, s)
  | .served => (.closed, s)
  | .listening =>
    match s.answer with
    | some r => (.answer r, { s with answer := none, waiting := .served })
    | none => (.empty, s)

/-- The one who waits goes away. -/
def abandon (s : ReplySlot ρ) : ReplySlot ρ := { s with answer := none, waiting := .gone }

/-- The text for diagnostics. -/
def inspect (s : ReplySlot ρ) : String :=
  Text.record "ReplySender" [("completed", Text.truth s.completed)]

end ReplySlot

/-- The reply slots of a member. -/
abbrev Replies (ρ : Type) := Table ReplyId (ReplySlot ρ)

/-- Whether an answer came into a slot; none came into one that does not exist. -/
def Replies.isCompleted {ρ : Type} (rs : Replies ρ) (r : ReplyId) : Bool :=
  (rs.get? r).any (·.completed)

end ActorMesh
