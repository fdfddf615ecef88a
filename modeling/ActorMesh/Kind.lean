/-!
# Kinds of traffic

Actor traffic comes in eleven kinds. Nine of them, the **parcels**, may cross from one member to
another; the two others come from outside the actor system and only ever reach a local actor.

Every package on a link is marked by an octet: 1 and 2 are the registration of a member and its
answer, 10 to 18 the parcels. `ofByte?_byte` and `byte_of_ofByte?` say that the marks and the kinds
of packages correspond one to one.
-/

namespace ActorMesh

/-- The kinds of traffic that may cross from one member to another. -/
inductive ParcelKind
  /-- One message to one actor. -/
  | send
  /-- Several messages to several actors. -/
  | batchSend
  /-- A message that waits for a response. -/
  | request
  /-- The answer to a request. -/
  | response
  /-- A message whose response goes to a callback. -/
  | requestAsync
  /-- The answer to such a request. -/
  | responseAsync
  /-- Starts or ends a watch. -/
  | watch
  /-- What a watched actor tells its watchers. -/
  | notify
  /-- Asks an actor to notify its watchers. -/
  | fireNotify
  deriving DecidableEq, Repr

/-- The kinds of packages on a link. -/
inductive PackageKind
  /-- A member says who it is. -/
  | registerRequest
  /-- The answer to that. -/
  | registerResponse
  /-- Actor traffic. -/
  | parcel (kind : ParcelKind)
  deriving DecidableEq, Repr

/-- The kinds of actor traffic. -/
inductive EnvelopeKind
  /-- Traffic that may cross. -/
  | parcel (kind : ParcelKind)
  /-- The subscription of a queue outside the actor system. -/
  | outerWatch
  /-- A request from outside the actor system. -/
  | outerRequest
  deriving DecidableEq, Repr

/-- The kinds of parcels. -/
def ParcelKind.all : List ParcelKind :=
  [send, batchSend, request, response, requestAsync, responseAsync, watch, notify, fireNotify]

/-- The name of a kind of parcel. -/
def ParcelKind.text : ParcelKind → String
  | send => "send"
  | batchSend => "batch_send"
  | request => "request"
  | response => "response"
  | requestAsync => "request_async"
  | responseAsync => "response_async"
  | watch => "watch"
  | notify => "notify"
  | fireNotify => "fire_notify"

/-- The name of a kind of traffic. -/
def EnvelopeKind.text : EnvelopeKind → String
  | parcel k => k.text
  | outerWatch => "outer_watch"
  | outerRequest => "outer_request"

namespace PackageKind

/-- The mark of a package. -/
def byte : PackageKind → UInt8
  | registerRequest => 1
  | registerResponse => 2
  | parcel .send => 10
  | parcel .batchSend => 11
  | parcel .request => 12
  | parcel .response => 13
  | parcel .requestAsync => 14
  | parcel .responseAsync => 15
  | parcel .watch => 16
  | parcel .notify => 17
  | parcel .fireNotify => 18

/-- The kind of package that an octet marks. -/
def ofByte? (b : UInt8) : Option PackageKind :=
  if b = 1 then some registerRequest
  else if b = 2 then some registerResponse
  else if b = 10 then some (parcel .send)
  else if b = 11 then some (parcel .batchSend)
  else if b = 12 then some (parcel .request)
  else if b = 13 then some (parcel .response)
  else if b = 14 then some (parcel .requestAsync)
  else if b = 15 then some (parcel .responseAsync)
  else if b = 16 then some (parcel .watch)
  else if b = 17 then some (parcel .notify)
  else if b = 18 then some (parcel .fireNotify)
  else none

@[simp] theorem ofByte?_byte (k : PackageKind) : ofByte? k.byte = some k := by
  cases k with
  | parcel k => cases k <;> rfl
  | _ => rfl

theorem byte_of_ofByte? {b : UInt8} {k : PackageKind} (h : ofByte? b = some k) : k.byte = b := by
  have hall : ∀ n : Fin 256, (ofByte? (.ofFin n)).all (fun k => k.byte = .ofFin n) = true := by
    decide +kernel
  have hb := hall b.toFin
  rw [UInt8.ofFin_toFin, h, Option.all_some, decide_eq_true_eq] at hb
  exact hb

/-- Whether the package belongs to the registration of a member. -/
def isHandshake : PackageKind → Bool
  | registerRequest | registerResponse => true
  | parcel _ => false

/-- The name of a kind of package in diagnostics. -/
def inspect : PackageKind → String
  | registerRequest => "RegisterSystemReq"
  | registerResponse => "RegisterSystemRsp"
  | parcel .send => "EnvelopeSend"
  | parcel .batchSend => "EnvelopeBatchSend"
  | parcel .request => "EnvelopeRequest"
  | parcel .response => "EnvelopeResponse"
  | parcel .requestAsync => "EnvelopeRequestAsync"
  | parcel .responseAsync => "EnvelopeResponseAsync"
  | parcel .watch => "EnvelopeWatch"
  | parcel .notify => "EnvelopeNotify"
  | parcel .fireNotify => "EnvelopeFireNotify"

end PackageKind

end ActorMesh
