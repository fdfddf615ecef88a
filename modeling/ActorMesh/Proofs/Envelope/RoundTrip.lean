import ActorMesh.Envelope.Codec
import ActorMesh.Proofs.Wire.Counted
import ActorMesh.Sample

/-!
# Envelopes on their way to another member

One member writes an envelope under its registry, another reads it under its own. Every field
arrives as it was, if the messages do: a message does that is written by the one registry and whose
octets the other reads back (`Registry.Carries`). Only a failure arrives as its code, and that code
is never the one of success (`Envelope.decode_encode_of_carries`).

A batch without messages is the one parcel that is refused although all its messages could travel.
-/

namespace ActorMesh

variable {α : Type}

/-! ### What is expected -/

/-- A message that one member writes and that the type registered under its number on another member
reads back from the octets behind the number. -/
def Registry.Carries [Vocabulary α] (S R : Registry α) (m : Message α) : Prop :=
  ∃ w t a, S.marshal m = .ok w ∧ R.types.get? ⟨w.type⟩ = some t ∧ m = .app a ∧
    t.decode (w.data.drop numberWidth) = .ok a

/-- A failure as it arrives: a code stays, unless it is that of success, and words are lost. -/
def ActorError.arrived : Option ActorError → Option ActorError
  | none => none
  | some (.code c) => some (.code (if c = .success then .normal else c))
  | some (.other _) => some (.code .normal)

/-- A response as it arrives. -/
def Response.arrived (r : Response α) : Response α := ⟨r.message, ActorError.arrived r.error⟩

namespace Parcel

/-- The messages in a parcel. -/
def messages : LocalParcel α → List (Message α)
  | send _ _ m | request _ _ m | requestAsync _ _ m _ | notify _ _ _ _ _ m
  | fireNotify _ _ _ _ m => [m]
  | batchSend _ _ ms => ms
  | response _ _ r | responseAsync _ _ r _ => r.message.toList
  | watch .. => []

/-- A parcel as it arrives. -/
def arrived : LocalParcel α → LocalParcel α
  | response sender target r => response sender target r.arrived
  | responseAsync sender target r callback => responseAsync sender target r.arrived callback
  | p => p

/-- Whether a response tells of a failure; nothing for other parcels. -/
def failed? : LocalParcel α → Option Bool
  | response _ _ r | responseAsync _ _ r _ => some r.error.isSome
  | _ => none

/-- No failure arrives as a success, and no success as a failure. -/
theorem failed?_arrived (p : LocalParcel α) : p.arrived.failed? = p.failed? := by
  have herror : ∀ e : Option ActorError, (ActorError.arrived e).isSome = e.isSome := by
    rintro (_ | _ | _) <;> rfl
  cases p with
  | response | responseAsync => exact congrArg some (herror _)
  | _ => rfl

end Parcel

/-! ### The parts of a parcel -/

section

variable [Vocabulary α] {S R : Registry α}

/-- A message that is carried is written, and read as it was. -/
theorem Registry.Carries.unmarshal {m : Message α} (h : S.Carries R m) :
    ∃ w, S.marshal m = .ok w ∧ R.unmarshal w = .ok m := by
  obtain ⟨w, t, a, hw, ht, rfl, hread⟩ := h
  refine ⟨w, hw, unmarshal_marshal hw ?_ (by simp [isRegistered, Table.contains, ht])⟩
  intro t' a' heq ht'
  cases heq
  rw [ht] at ht'
  cases ht'
  exact hread

namespace Envelope

/-- Nothing is lost of messages that are all carried. -/
theorem exists_kept_marshal {ms : List (Message α)} (h : ∀ m ∈ ms, S.Carries R m) :
    ∃ ws, kept S.marshal ms = ws ∧ ws.length = ms.length ∧ kept R.unmarshal ws = ms := by
  induction ms with
  | nil => exact ⟨[], rfl, rfl, rfl⟩
  | cons m rest ih =>
    obtain ⟨w, hw, hback⟩ := (h m (List.mem_cons_self ..)).unmarshal
    obtain ⟨ws, hws, hlen, hrest⟩ := ih fun m' hm' => h m' (List.mem_cons_of_mem _ hm')
    refine ⟨w :: ws, ?_, by simp [hlen], ?_⟩
    · rw [← hws, kept, List.filterMap_cons, hw]
      rfl
    · rw [kept, List.filterMap_cons, hback]
      exact congrArg (m :: ·) hrest

/-- A batch of messages that are all carried is written as a whole, if there are any. -/
theorem marshalBatch_of_carries {ms : List (Message α)} (h : ∀ m ∈ ms, S.Carries R m)
    (hne : ms ≠ []) : ∃ ws, marshalBatch S ms = .ok ws ∧ unmarshalBatch R ws = ms := by
  obtain ⟨ws, hws, hlen, hback⟩ := exists_kept_marshal h
  refine ⟨ws, ?_, hback⟩
  -- the guard against an empty batch looks at what was written, not at what was given
  have hsome : ws ≠ [] := by
    rintro rfl
    exact hne (List.length_eq_zero_iff.1 hlen.symm)
  simp only [marshalBatch, hws]
  rw [if_neg (by simpa using hsome)]

/-- The code of a failure is read as the failure that arrives. -/
theorem ofWireCode_arrived (e : Option ActorError) :
    ActorError.ofWireCode ((e.map ActorError.wireCode).getD .success) = ActorError.arrived e := by
  cases e with
  | none => rfl
  | some e =>
    rw [Option.map_some, Option.getD_some, ActorError.ofWireCode_wireCode]
    cases e with
    | code c => simp [ActorError.normalized, ActorError.wireCode, ActorError.arrived,
        ErrorCode.isSuccess]
    | other => rfl

/-- A response whose message is carried arrives. -/
theorem marshalResponse_of_carries {r : Response α} (h : ∀ m ∈ r.message.toList, S.Carries R m) :
    ∃ w, marshalResponse S r = .ok w ∧ unmarshalResponse R w = .ok r.arrived := by
  obtain ⟨_ | m, e⟩ := r
  · refine ⟨_, rfl, ?_⟩
    simp only [unmarshalResponse, ofWireCode_arrived]
    rfl
  · obtain ⟨w, hw, hback⟩ := (h m (by simp)).unmarshal
    refine ⟨_, by simp only [marshalResponse, hw, Except.map]; rfl, ?_⟩
    simp only [unmarshalResponse, hback, ofWireCode_arrived, Except.map]
    rfl

/-! ### Whole parcels -/

/-- A parcel whose messages are carried has a package, and the package is the parcel that
arrives. -/
theorem ofPackage_toPackage {p : LocalParcel α} (h : ∀ m ∈ p.messages, S.Carries R m)
    (hne : ∀ sender targets, p ≠ .batchSend sender targets []) :
    ∃ pk, toPackage S p = .ok pk ∧ ofPackage R pk = .ok p.arrived := by
  cases p with
  | send _ _ m | request _ _ m | requestAsync _ _ m _ | «notify» _ _ _ _ _ m
  | fireNotify _ _ _ _ m =>
    obtain ⟨w, hw, hback⟩ := (h m (List.mem_singleton_self m)).unmarshal
    refine ⟨_, by simp only [toPackage, Parcel.convert, hw, Except.map]; rfl, ?_⟩
    simp only [ofPackage, Parcel.convert, hback, Except.map]
    rfl
  | batchSend sender targets ms =>
    have hms : ms ≠ [] := fun hnil => hne sender targets (hnil ▸ rfl)
    have hcarries : ∀ m ∈ ms, S.Carries R m := h
    obtain ⟨ws, hws, hback⟩ := marshalBatch_of_carries hcarries hms
    refine ⟨_, by simp only [toPackage, Parcel.convert, hws, Except.map]; rfl, ?_⟩
    simp only [ofPackage, Parcel.convert, hback, Except.map]
    rfl
  | response _ _ r | responseAsync _ _ r _ =>
    obtain ⟨w, hw, hback⟩ := marshalResponse_of_carries h
    refine ⟨_, by simp only [toPackage, Parcel.convert, hw, Except.map]; rfl, ?_⟩
    simp only [ofPackage, Parcel.convert, hback, Except.map]
    rfl
  | watch => exact ⟨_, rfl, rfl⟩

/-- What is written of a package that can be counted decodes to it. -/
theorem decode_write {pk : Package} (h : pk.write.length < UInt64.size) :
    Package.decode pk.kind pk.write = .ok pk :=
  Package.decode_eq_ok_iff.2 ⟨rfl, Package.fits_of_length h, List.prefix_rfl⟩

/-- An envelope whose messages are carried is written under the registry of one member and read
under that of another with every field as it was, but for the words of a failure. That the octets
are less than 2⁶⁴ is so in any memory; the envelope is written in any case. -/
theorem decode_encode_of_carries {p : LocalParcel α} (h : ∀ m ∈ p.messages, S.Carries R m)
    (hne : ∀ sender targets, p ≠ .batchSend sender targets []) :
    ∃ e, encode S (.parcel p) = .ok e ∧ e.kind = .parcel p.kind ∧
      (e.payload.length < UInt64.size → decode R e.kind e.payload = .ok (.parcel p.arrived)) ∧
      p.arrived.kind = p.kind ∧ p.arrived.failed? = p.failed? := by
  obtain ⟨pk, hpk, hback⟩ := ofPackage_toPackage h hne
  have hkind := Parcel.convert_eq_ok_kind hpk
  have harrived : p.arrived.kind = p.kind := by cases p <;> rfl
  refine ⟨⟨.parcel pk.kind, pk.write⟩, ?_, ?_, ?_, harrived, p.failed?_arrived⟩
  · simp only [encode, hpk, Except.map]
  · rw [hkind]
  · intro hlen
    simp only [decode, decode_write hlen, hback, Except.map]

end Envelope

end

namespace Envelope

/-- A response that carries a message next to a failure with the code of success arrives with the
code of a failure; the receiver knows other types besides. -/
theorem decode_encode_response :
    let S : Registry Sample := Registry.empty.register ⟨7⟩ (SampleType.hello.type "")
    let R : Registry Sample := S.register ⟨3⟩ (SampleType.ping.type "")
    let target : ActorRef := ⟨⟨2⟩, ⟨120⟩, "a", ⟨4⟩⟩
    let message : Message Sample := .app (.hello 5)
    S.Carries R message ∧
      ∃ e,
        encode S (.parcel (.response none target ⟨some message, some (.code .success)⟩)) = .ok e ∧
        decode R e.kind e.payload =
          .ok (.parcel (.response none target ⟨some message, some (.code .normal)⟩)) := by
  intro S R target message
  have hcarries : S.Carries R message :=
    ⟨⟨7, [0, 0, 0, 7, 5, 0, 0, 0]⟩, SampleType.hello.type "", .hello 5, rfl, rfl, rfl, rfl⟩
  refine ⟨hcarries, ?_⟩
  obtain ⟨e, hencode, -, hdecode, -⟩ := decode_encode_of_carries (S := S) (R := R)
    (p := .response none target ⟨some message, some (.code .success)⟩)
    (by intro m hm; cases List.mem_singleton.1 hm; exact hcarries)
    (by intro _ _ heq; cases heq)
  refine ⟨e, hencode, hdecode ?_⟩
  cases hencode
  decide +kernel

/-- A batch without messages is refused, although there is no message in it that could not
travel. -/
theorem encode_emptyBatch :
    let p : LocalParcel Sample := .batchSend none [⟨⟨2⟩, ⟨120⟩, "b", ⟨3⟩⟩] []
    (∀ m ∈ p.messages, Registry.empty.Carries Registry.empty m) ∧
      encode Registry.empty (.parcel p) = .error .noValidMessage :=
  ⟨fun _ hm => absurd hm List.not_mem_nil, rfl⟩

end Envelope

end ActorMesh
