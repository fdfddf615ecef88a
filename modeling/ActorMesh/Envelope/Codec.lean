import ActorMesh.Envelope
import ActorMesh.Wire.Package

/-!
# Envelopes as packages

An envelope crosses to another member as the package of its parcel. The messages in it are written
and read under the registry of the member at hand.

A single message that cannot be written or read fails the whole envelope. A batch goes on without
it; only a batch of which nothing can be written fails. A response keeps the code of its failure,
not the words.

What is done (`toPackage`, `ofPackage`, `encode`, `decode`) and what is reported on the way
(`…Notices`) are separate functions of the same inputs.
-/

namespace ActorMesh

/-- An envelope ready for a frame. -/
structure EncodedEnvelope where
  kind : PackageKind
  payload : Octets
  deriving DecidableEq, Repr

namespace Envelope

variable {α : Type} [Vocabulary α]

/-- The values of those that are there. -/
def kept {ε β γ : Type} (f : β → Except ε γ) (bs : List β) : List γ :=
  bs.filterMap fun b => (f b).toOption

/-- The messages of a batch that can be written; at least one has to be. -/
def marshalBatch (r : Registry α) (ms : List (Message α)) :
    Except ClusterError (List WireMessage) :=
  let written := kept r.marshal ms
  if written.isEmpty then .error .noValidMessage else .ok written

/-- What writing a batch reports. -/
def marshalBatchNotices (r : Registry α) (ms : List (Message α)) : List Notice :=
  (ms.flatMap fun m =>
    r.marshalNotices m ++ if (r.marshal m).isOk then [] else [.batchMessageUnwritable]) ++
    if (kept r.marshal ms).isEmpty then [.batchEmpty] else []

/-- The messages of a batch that can be read. -/
def unmarshalBatch (r : Registry α) (ws : List WireMessage) : List (Message α) :=
  kept r.unmarshal ws

/-- What reading a batch reports. -/
def unmarshalBatchNotices (r : Registry α) (ws : List WireMessage) : List Notice :=
  ws.flatMap fun w =>
    r.unmarshalNotices w ++ if (r.unmarshal w).isOk then [] else [.batchMessageUnreadable]

/-- A response as it travels. -/
def marshalResponse (r : Registry α) (a : Response α) : Except ClusterError WireResponse :=
  let code := (a.error.map ActorError.wireCode).getD .success
  match a.message with
  | none => .ok ⟨code, none⟩
  | some m => (r.marshal m).map fun w => ⟨code, some w⟩

/-- The response that travelled. -/
def unmarshalResponse (r : Registry α) (w : WireResponse) : Except ClusterError (Response α) :=
  let error := ActorError.ofWireCode w.code
  match w.message with
  | none => .ok ⟨none, error⟩
  | some m => (r.unmarshal m).map fun m => ⟨some m, error⟩

/-- The package of a parcel. -/
def toPackage (r : Registry α) (p : LocalParcel α) : Except ClusterError Package :=
  p.convert r.marshal (marshalBatch r) (marshalResponse r)

/-- The parcel of a package. -/
def ofPackage (r : Registry α) (p : Package) : Except ClusterError (LocalParcel α) :=
  p.convert r.unmarshal (fun ws => .ok (unmarshalBatch r ws)) (unmarshalResponse r)

/-- The octets of an envelope, with the mark of their package. -/
def encode (r : Registry α) (e : Envelope α) : Except ClusterError EncodedEnvelope :=
  match e with
  | .parcel p => (toPackage r p).map fun pk => ⟨.parcel pk.kind, pk.write⟩
  | .outerWatch .. | .outerRequest .. => .error (.notTransportable e.kind)

/-- What writing an envelope reports. -/
def encodeNotices (r : Registry α) : Envelope α → List Notice
  | .parcel p =>
    p.notices r.marshalNotices (marshalBatchNotices r) fun a =>
      (a.message.map r.marshalNotices).getD []
  | .outerWatch .. | .outerRequest .. => []

/-- The envelope in octets that are marked as a package of the given kind. -/
def decode (r : Registry α) (k : PackageKind) (bs : Octets) : Except ClusterError (Envelope α) :=
  match k with
  | .parcel k =>
    match Package.decode k bs with
    | .ok pk => (ofPackage r pk).map .parcel
    | .error fault => .error (.serialization fault)
  | .registerRequest | .registerResponse => .error (.protocol (.handshakePackage k))

/-- What reading an envelope reports. -/
def decodeNotices (r : Registry α) (k : PackageKind) (bs : Octets) : List Notice :=
  match k with
  | .parcel k =>
    match Package.decode k bs with
    | .ok pk =>
      pk.notices r.unmarshalNotices (unmarshalBatchNotices r) fun a =>
        (a.message.map r.unmarshalNotices).getD []
    | .error _ => []
  | .registerRequest | .registerResponse => []

end Envelope

end ActorMesh
