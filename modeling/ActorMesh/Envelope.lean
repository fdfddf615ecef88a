import ActorMesh.Message
import ActorMesh.Parcel

/-!
# Envelopes

Every piece of actor traffic is an **envelope**: a parcel, which may cross to another member, or one
of two kinds that come from outside the actor system and reach a local actor only.
-/

namespace ActorMesh

/-- Why a request failed. -/
inductive ActorError
  /-- A failure with a code. -/
  | code (code : ErrorCode)
  /-- Any other failure, in words; the words do not travel. -/
  | other (text : String)
  deriving DecidableEq, Repr

namespace ActorError

/-- The code that stands for a failure; never that of success. -/
def wireCode : ActorError → ErrorCode
  | code c => if c.isSuccess then .normal else c
  | other _ => .normal

/-- The wording of a failure. -/
def text : ActorError → String
  | code c => "actor error code " ++ c.text
  | other s => s

/-- The failure that a code stands for, if it is one. -/
def ofWireCode (c : ErrorCode) : Option ActorError := if c.isSuccess then none else some (code c)

/-- The failure as it arrives on another member: its code, without the words. -/
def normalized (e : ActorError) : ActorError := code e.wireCode

/-- A failure never travels as a success. -/
theorem isSuccess_wireCode (e : ActorError) : e.wireCode.isSuccess = false := by
  cases e with
  | other => rfl
  | code c =>
    simp only [wireCode]
    cases h : c.isSuccess
    · simpa using h
    · rfl

theorem ofWireCode_wireCode (e : ActorError) : ofWireCode e.wireCode = some e.normalized := by
  simp [ofWireCode, isSuccess_wireCode, normalized]

end ActorError

/-- The answer to a request. -/
structure Response (α : Type) where
  message : Option (Message α)
  error : Option ActorError
  deriving DecidableEq, Repr

/-- A parcel inside a member. -/
abbrev LocalParcel (α : Type) := Parcel (Message α) (Response α)

/-- A piece of actor traffic. -/
inductive Envelope (α : Type) where
  /-- Traffic that may cross to another member. -/
  | parcel (p : LocalParcel α)
  /-- Starts (`on`) or ends the subscription of a queue. -/
  | outerWatch (target : ActorRef) (watch : WatchType) (on : Bool) (queue : QueueId)
  /-- Puts a request to an actor and the answer into a reply slot. -/
  | outerRequest (target : ActorRef) (message : Message α) (reply : ReplyId) (timeout : Option Nat)
  deriving DecidableEq, Repr

namespace Envelope

variable {α : Type}

/-- The kind of an envelope. -/
def kind : Envelope α → EnvelopeKind
  | parcel p => .parcel p.kind
  | outerWatch .. => .outerWatch
  | outerRequest .. => .outerRequest

/-- The actor an envelope goes to, where it is one. -/
def target? : Envelope α → Option ActorRef
  | parcel p => p.target?
  | outerWatch target .. | outerRequest target .. => some target

/-- All actors an envelope goes to. -/
def destinations : Envelope α → List ActorRef
  | parcel p => p.destinations
  | outerWatch target .. | outerRequest target .. => [target]

end Envelope

end ActorMesh
