import ActorMesh.Proofs.Envelope.RoundTrip
import ActorMesh.Proofs.Frames.Splitting

/-!
# What arrives of an envelope between like members

Two members that share one registry, of which every type reads back what it writes. An envelope that
the one can write at all arrives at the other (`Envelope.decode_of_frame?`), and what arrives is the
same but for the messages of a batch that could not be written and for the words of a failure
(`Envelope.transported`).
-/

namespace ActorMesh

variable {α : Type}

/-- A registry of which every type reads back what it writes. -/
def Registry.Faithful (r : Registry α) : Prop :=
  ∀ i t a body, r.types.get? i = some t → t.encode? a = some body → t.decode body = .ok a

theorem Registry.faithful_empty : (empty : Registry α).Faithful := by
  intro i t a body ht
  cases ht

theorem Registry.Faithful.register {r : Registry α} (hr : r.Faithful) (i : MessageTypeId)
    {t : MessageType α} (ht : ∀ a body, t.encode? a = some body → t.decode body = .ok a) :
    (r.register i t).Faithful := by
  intro j t' a body hj
  simp only [Registry.register, Table.get?_insert] at hj
  split at hj
  · cases hj
    exact ht a body
  · exact hr j t' a body hj

section

variable [Vocabulary α] {r : Registry α}

/-- Whether a message can be written. -/
def Registry.writes (r : Registry α) (m : Message α) : Bool := (r.marshal m).toOption.isSome

/-- A parcel without the messages of a batch that cannot be written. -/
def Parcel.sendable (r : Registry α) : LocalParcel α → LocalParcel α
  | .batchSend sender targets ms => .batchSend sender targets (ms.filter r.writes)
  | p => p

namespace Envelope

/-- What arrives of an envelope. -/
def transported (r : Registry α) : Envelope α → Envelope α
  | .parcel p => .parcel (p.sendable r).arrived
  | e => e

/-- The frame in which an envelope travels, if it can be written. -/
def frame? (r : Registry α) : Envelope α → Option Frame
  | .parcel p =>
    (toPackage r p).toOption.map fun pk => ⟨(PackageKind.parcel pk.kind).byte, pk.write⟩
  | .outerWatch .. | .outerRequest .. => none

/-- An envelope arrives where it was sent. -/
@[simp] theorem destinations_transported (r : Registry α) (e : Envelope α) :
    (e.transported r).destinations = e.destinations := by
  cases e with
  | outerWatch | outerRequest => rfl
  | parcel p => cases p <;> rfl

/-! ### Leaving out what cannot be written -/

theorem kept_filter_writes (ms : List (Message α)) :
    kept r.marshal (ms.filter r.writes) = kept r.marshal ms := by
  unfold kept
  rw [List.filterMap_filter]
  refine congrArg (List.filterMap · ms) (funext fun m => ?_)
  unfold Registry.writes
  cases (r.marshal m).toOption <;> rfl

/-- What is left out was not written anyway. -/
theorem toPackage_sendable (p : LocalParcel α) : toPackage r (p.sendable r) = toPackage r p := by
  cases p with
  | batchSend sender targets ms =>
    simp only [Parcel.sendable, toPackage, Parcel.convert, marshalBatch, kept_filter_writes]
  | _ => rfl

end Envelope

/-- What a faithful registry writes, it carries. -/
theorem Registry.Faithful.carries {m : Message α} {w : WireMessage} (hr : r.Faithful)
    (h : r.marshal m = .ok w) : r.Carries r m := by
  obtain ⟨i, t, a, body, rfl, -, ht, hbody, rfl⟩ := marshal_eq_ok_iff.1 h
  refine ⟨_, t, a, h, ht, rfl, ?_⟩
  rw [List.drop_left' (Octets.length_be _ _)]
  exact hr i t a body ht hbody

namespace Envelope

/-- Every message of a parcel that could be written is carried. -/
theorem carries_sendable (hr : r.Faithful) {p : LocalParcel α} {pk : Package}
    (h : toPackage r p = .ok pk) : ∀ m ∈ (p.sendable r).messages, r.Carries r m := by
  have hone : ∀ {m : Message α} {f : WireMessage → Package},
      (r.marshal m).map f = .ok pk → r.Carries r m := by
    intro m f hm
    cases hw : r.marshal m with
    | error fault =>
      rw [hw] at hm
      cases hm
    | ok w => exact hr.carries hw
  intro m hm
  cases p with
  | send _ _ m' | request _ _ m' | requestAsync _ _ m' _ | «notify» _ _ _ _ _ m'
  | fireNotify _ _ _ _ m' =>
    obtain rfl : m = m' := List.mem_singleton.1 hm
    exact hone h
  | batchSend sender targets ms =>
    obtain ⟨-, hwrites⟩ := List.mem_filter.1 hm
    unfold Registry.writes at hwrites
    cases hw : r.marshal m with
    | error fault =>
      rw [hw] at hwrites
      cases hwrites
    | ok w => exact hr.carries hw
  | response _ _ a | responseAsync _ _ a _ =>
    obtain ⟨_ | m', e⟩ := a
    · cases hm
    · obtain rfl : m = m' := List.mem_singleton.1 hm
      cases hw : r.marshal m with
      | error fault => simp [toPackage, Parcel.convert, marshalResponse, hw, Except.map] at h
      | ok w => exact hr.carries hw
  | watch => cases hm

/-- A parcel that can be written is read as what arrives of it. -/
theorem ofPackage_of_toPackage (hr : r.Faithful) {p : LocalParcel α} {pk : Package}
    (h : toPackage r p = .ok pk) : ofPackage r pk = .ok (p.sendable r).arrived := by
  have hne : ∀ sender targets, p.sendable r ≠ .batchSend sender targets [] := by
    intro sender targets heq
    rw [← toPackage_sendable, heq] at h
    cases h
  obtain ⟨pk', hpk', hback⟩ := ofPackage_toPackage (carries_sendable hr h) hne
  rw [toPackage_sendable, h] at hpk'
  cases hpk'
  exact hback

/-- The frame of an envelope is a package in which arrives what is expected. -/
theorem decode_of_frame? (hr : r.Faithful) {e : Envelope α} {f : Frame}
    (h : e.frame? r = some f) (hlen : f.payload.length < UInt64.size) :
    ∃ kind, PackageKind.ofByte? f.mark = some (.parcel kind) ∧
      decode r (.parcel kind) f.payload = .ok (e.transported r) := by
  cases e with
  | outerWatch | outerRequest => cases h
  | parcel p =>
    simp only [frame?] at h
    cases hpk : toPackage r p with
    | error fault =>
      rw [hpk] at h
      cases h
    | ok pk =>
      rw [hpk] at h
      cases h
      refine ⟨pk.kind, PackageKind.ofByte?_byte _, ?_⟩
      simp only [decode, decode_write hlen, ofPackage_of_toPackage hr hpk, Except.map, transported]

end Envelope

end

end ActorMesh
