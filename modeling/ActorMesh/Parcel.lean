import ActorMesh.Identity
import ActorMesh.Kind

/-!
# Parcels

The traffic that may cross from one member to another. The same nine shapes serve inside a member
and on the wire; they differ in what a message (`μ`) and a response (`ρ`) are: values of the
application inside, octets outside.
-/

namespace ActorMesh

/-- Where the response to an asynchronous request goes. -/
structure Callback where
  id : UInt32
  address : String
  deriving DecidableEq, Repr, Inhabited

/-- Traffic that may cross from one member to another, with messages `μ` and responses `ρ`. -/
inductive Parcel (μ ρ : Type) where
  /-- One message to one actor. -/
  | send (sender : Option ActorRef) (target : ActorRef) (message : μ)
  /-- Several messages, each to every one of several actors. -/
  | batchSend (sender : Option ActorRef) (targets : List ActorRef) (messages : List μ)
  /-- A message that waits for a response. -/
  | request (sender : Option ActorRef) (target : ActorRef) (message : μ)
  /-- The answer to a request. -/
  | response (sender : Option ActorRef) (target : ActorRef) (response : ρ)
  /-- A message whose response goes to a callback. -/
  | requestAsync (sender : Option ActorRef) (target : ActorRef) (message : μ) (callback : Callback)
  /-- The answer to such a message. -/
  | responseAsync (sender : Option ActorRef) (target : ActorRef) (response : ρ)
    (callback : Callback)
  /-- Starts (`on`) or ends a watch by the sender. -/
  | watch (sender : Option ActorRef) (target : ActorRef) (watch : WatchType) (on : Bool)
  /-- What the actor `subject` tells the watchers `to`. -/
  | notify (sender : Option ActorRef) (targets : List ActorRef) (about : NotifyType)
      (subject : ActorRef) (watch : WatchType) (message : μ)
  /-- Asks an actor to notify its watchers. -/
  | fireNotify (sender : Option ActorRef) (target : ActorRef) (about : NotifyType)
    (watch : WatchType)
      (message : μ)
  deriving DecidableEq, Repr

namespace Parcel

variable {μ ρ μ' ρ' : Type}

/-- The kind of a parcel. -/
def kind : Parcel μ ρ → ParcelKind
  | send .. => .send
  | batchSend .. => .batchSend
  | request .. => .request
  | response .. => .response
  | requestAsync .. => .requestAsync
  | responseAsync .. => .responseAsync
  | watch .. => .watch
  | notify .. => .notify
  | fireNotify .. => .fireNotify

/-- The actor a parcel goes to, where it is one. -/
def target? : Parcel μ ρ → Option ActorRef
  | send _ target _ | request _ target _ | response _ target _ | requestAsync _ target _ _
  | responseAsync _ target _ _ | watch _ target _ _ | fireNotify _ target _ _ _ => some target
  | batchSend .. | notify .. => none

/-- All actors a parcel goes to. -/
def destinations : Parcel μ ρ → List ActorRef
  | batchSend _ targets _ | notify _ targets _ _ _ _ => targets
  | send _ target _ | request _ target _ | response _ target _ | requestAsync _ target _ _
  | responseAsync _ target _ _ | watch _ target _ _ | fireNotify _ target _ _ _ => [target]

/-- The parcel with its messages and responses put into another form, each of which may fail; the
messages of a batch are converted together, and a failure of one need not be one of all. -/
def convert {ε : Type} (one : μ → Except ε μ') (batch : List μ → Except ε (List μ'))
    (answer : ρ → Except ε ρ') : Parcel μ ρ → Except ε (Parcel μ' ρ')
  | send sender target message => (one message).map (send sender target)
  | batchSend sender targets messages => (batch messages).map (batchSend sender targets)
  | request sender target message => (one message).map (request sender target)
  | response sender target r => (answer r).map (response sender target)
  | requestAsync sender target message callback =>
    (one message).map (requestAsync sender target · callback)
  | responseAsync sender target r callback =>
    (answer r).map (responseAsync sender target · callback)
  | watch sender target w on => .ok (watch sender target w on)
  | notify sender targets about subject w message =>
    (one message).map (notify sender targets about subject w)
  | fireNotify sender target about w message =>
    (one message).map (fireNotify sender target about w)

/-- What converting a parcel reports, from what converting its parts reports. -/
def notices {ν : Type} (one : μ → List ν) (batch : List μ → List ν) (answer : ρ → List ν) :
    Parcel μ ρ → List ν
  | send _ _ m | request _ _ m | requestAsync _ _ m _ | notify _ _ _ _ _ m
  | fireNotify _ _ _ _ m => one m
  | batchSend _ _ ms => batch ms
  | response _ _ r | responseAsync _ _ r _ => answer r
  | watch .. => []

theorem convert_eq_ok_kind {ε : Type} {one : μ → Except ε μ'}
    {batch : List μ → Except ε (List μ')} {answer : ρ → Except ε ρ'} {p : Parcel μ ρ}
    {q : Parcel μ' ρ'} (h : p.convert one batch answer = .ok q) : q.kind = p.kind := by
  cases p <;> simp only [convert, Except.map] at h <;>
    first
    | (cases h; rfl)
    | (split at h
       · cases h
       · cases h; rfl)

end Parcel

end ActorMesh
