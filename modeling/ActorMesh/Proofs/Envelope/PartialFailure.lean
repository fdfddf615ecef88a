import ActorMesh.Proofs.Envelope.Transport
import Mathlib.Data.List.Forall2

/-!
# Envelopes of which a part fails

A message can fail twice on its way: the sender cannot write it, or the receiver cannot read what was
written. What that means for the envelope depends on its shape. An envelope with a single message
fails with the message, at the one end as at the other. A batch goes on without it, in the order in
which the rest was given; only the sender refuses one, if nothing is left of it. So of a batch arrive
exactly the messages that the one member can write and the other can read
(`Envelope.failsInPart`).

Both ends convert a parcel piece by piece, so what fails is settled once, for `Parcel.convert`
(`Parcel.convert_eq_error_iff`).
-/

namespace ActorMesh

variable {α : Type}

/-! ### The single message of a parcel -/

namespace Parcel

variable {μ ρ μ' ρ' ε : Type}

/-- The message of a parcel that is no batch, if it has one; that of a response is `inner`. -/
def single? (inner : ρ → Option μ) : Parcel μ ρ → Option μ
  | send _ _ m | request _ _ m | requestAsync _ _ m _ | notify _ _ _ _ _ m
  | fireNotify _ _ _ _ m => some m
  | response _ _ r | responseAsync _ _ r _ => inner r
  | batchSend .. | watch .. => none

theorem map_eq_error_iff {β γ : Type} {f : β → γ} {x : Except ε β} {e : ε} :
    x.map f = .error e ↔ x = .error e := by
  cases x <;> simp [Except.map]

/-- A parcel fails to convert with its single message, or as a batch. -/
theorem convert_eq_error_iff {one : μ → Except ε μ'} (batch : List μ → Except ε (List μ'))
    {answer : ρ → Except ε ρ'} {inner : ρ → Option μ} {e : ε}
    (hanswer : ∀ r, answer r = .error e ↔ ∃ m, inner r = some m ∧ one m = .error e)
    (p : Parcel μ ρ) :
    p.convert one batch answer = .error e ↔
      (∃ m, p.single? inner = some m ∧ one m = .error e) ∨
      ∃ sender targets ms, p = .batchSend sender targets ms ∧ batch ms = .error e := by
  cases p with
  | batchSend sender targets ms =>
    simp only [convert, single?, map_eq_error_iff, reduceCtorEq, false_and, exists_false, false_or]
    constructor
    · intro h
      exact ⟨sender, targets, ms, rfl, h⟩
    · rintro ⟨_, _, _, ⟨⟩, h⟩
      exact h
  | watch => simp [convert, single?]
  | response | responseAsync => simp [convert, single?, map_eq_error_iff, hanswer]
  | _ => simp [convert, single?, map_eq_error_iff]

end Parcel

namespace Envelope

/-- Whether an envelope comes from outside the actor system. -/
def IsOuter : Envelope α → Prop
  | parcel _ => False
  | outerWatch .. | outerRequest .. => True

/-- The message of an envelope that travels and is no batch, if it has one. -/
def single? : Envelope α → Option (Message α)
  | parcel p => p.single? Response.message
  | outerWatch .. | outerRequest .. => none

/-! ### What is left of a batch -/

/-- What is kept are the values of all that have one, in order. -/
theorem map_filter_eq_map_kept {ε β γ : Type} (f : β → Except ε γ) (bs : List β) :
    (bs.filter fun b => (f b).toOption.isSome).map f = (kept f bs).map .ok := by
  induction bs with
  | nil => rfl
  | cons b rest ih => cases h : f b <;> simpa [kept, h, Except.toOption] using ih

theorem kept_eq_nil_iff {ε β γ : Type} {f : β → Except ε γ} {bs : List β} :
    kept f bs = [] ↔ ∀ b ∈ bs, (f b).toOption.isSome = false := by
  simp [kept, List.filterMap_eq_nil_iff]

end Envelope

/-- Whether a wire message can be read. -/
def Registry.reads (r : Registry α) (w : WireMessage) : Bool := (r.unmarshal w).toOption.isSome

section

variable [Vocabulary α] (S R : Registry α)

/-- Whether a message can be written by one member and read by another. -/
def Registry.passes (m : Message α) : Bool := (S.marshal m).toOption.any R.reads

namespace Envelope

variable {S R}

theorem marshalBatch_eq_ok_iff {ms : List (Message α)} {ws : List WireMessage} :
    marshalBatch S ms = .ok ws ↔ kept S.marshal ms = ws ∧ ws ≠ [] := by
  unfold marshalBatch
  dsimp only
  split
  · rename_i hnil
    rw [List.isEmpty_iff] at hnil
    exact iff_of_false (fun h => by cases h) fun h => h.2 (h.1 ▸ hnil)
  · rename_i hne
    rw [List.isEmpty_iff] at hne
    rw [Except.ok.injEq]
    exact ⟨fun h => ⟨h, h ▸ hne⟩, fun h => h.1⟩

theorem marshalBatch_eq_error_iff {ms : List (Message α)} {fault : ClusterError} :
    marshalBatch S ms = .error fault ↔
      (∀ m ∈ ms, S.writes m = false) ∧ fault = .noValidMessage := by
  unfold marshalBatch
  dsimp only
  split
  · rename_i hnil
    rw [List.isEmpty_iff, kept_eq_nil_iff] at hnil
    rw [Except.error.injEq]
    exact ⟨fun h => ⟨hnil, h.symm⟩, fun h => h.2.symm⟩
  · rename_i hne
    rw [List.isEmpty_iff, kept_eq_nil_iff] at hne
    exact iff_of_false (fun h => by cases h) fun h => hne h.1

theorem marshalResponse_eq_error_iff (S : Registry α) (fault : ClusterError) (a : Response α) :
    marshalResponse S a = .error fault ↔
      ∃ m, a.message = some m ∧ S.marshal m = .error fault := by
  obtain ⟨_ | m, error⟩ := a
  · simp [marshalResponse]
  · simp [marshalResponse, Parcel.map_eq_error_iff]

omit [Vocabulary α] in
theorem unmarshalResponse_eq_error_iff (R : Registry α) (fault : ClusterError) (w : WireResponse) :
    unmarshalResponse R w = .error fault ↔
      ∃ m, w.message = some m ∧ R.unmarshal m = .error fault := by
  obtain ⟨code, _ | m⟩ := w
  · simp [unmarshalResponse]
  · simp [unmarshalResponse, Parcel.map_eq_error_iff]

/-- What is left of a batch after both members are the messages that pass both, each as it is
read. -/
theorem forall₂_kept_kept (ms : List (Message α)) :
    List.Forall₂ (fun m m' => ∃ w, S.marshal m = .ok w ∧ R.unmarshal w = .ok m')
      (ms.filter (S.passes R)) (kept R.unmarshal (kept S.marshal ms)) := by
  induction ms with
  | nil => exact .nil
  | cons m rest ih =>
    cases hw : S.marshal m with
    | error fault => simpa [Registry.passes, kept, hw, Except.toOption] using ih
    | ok w =>
      cases hm : R.unmarshal w with
      | error fault =>
        simpa [Registry.passes, Registry.reads, kept, hw, hm, Except.toOption] using ih
      | ok m' =>
        simpa [Registry.passes, Registry.reads, kept, hw, hm, Except.toOption] using ih

/-- Messages that are read as they were given arrive as they were. -/
theorem eq_of_forall₂_carried {ms seen : List (Message α)}
    (h : List.Forall₂ (fun m m' => ∃ w, S.marshal m = .ok w ∧ R.unmarshal w = .ok m') ms seen)
    (hcarries : ∀ m ∈ ms, S.Carries R m) : seen = ms := by
  induction h with
  | nil => rfl
  | @cons m m' ms seen hseen _ ih =>
    obtain ⟨w, hw, hm'⟩ := hseen
    obtain ⟨w', hw', hm⟩ := (hcarries m List.mem_cons_self).unmarshal
    rw [hw] at hw'
    cases hw'
    rw [hm] at hm'
    cases hm'
    rw [ih fun m hm => hcarries m (List.mem_cons_of_mem _ hm)]

/-! ### Whole envelopes -/

theorem encode_eq_error_iff (e : Envelope α) (fault : ClusterError) :
    encode S e = .error fault ↔
      (e.IsOuter ∧ fault = .notTransportable e.kind) ∨
      (∃ m, e.single? = some m ∧ S.marshal m = .error fault) ∨
      ∃ sender targets ms, e = .parcel (.batchSend sender targets ms) ∧
        (∀ m ∈ ms, S.writes m = false) ∧ fault = .noValidMessage := by
  cases e with
  | parcel p =>
    have hparts := Parcel.convert_eq_error_iff (marshalBatch S)
      (marshalResponse_eq_error_iff S fault) p
    simp only [marshalBatch_eq_error_iff] at hparts
    simp only [encode, Parcel.map_eq_error_iff, IsOuter, single?, Envelope.parcel.injEq, false_and,
      false_or]
    exact hparts
  | outerWatch | outerRequest =>
    constructor
    · intro h
      exact .inl ⟨trivial, (Except.error.inj h).symm⟩
    · rintro (⟨-, rfl⟩ | ⟨m, hm, -⟩ | ⟨_, _, _, hbatch, -⟩)
      · rfl
      · cases hm
      · cases hbatch

theorem encode_batch_eq_ok_iff {sender : Option ActorRef} {targets : List ActorRef}
    {ms : List (Message α)} {enc : EncodedEnvelope} :
    encode S (.parcel (.batchSend sender targets ms)) = .ok enc ↔
      kept S.marshal ms ≠ [] ∧ enc = ⟨.parcel .batchSend,
        Package.write (.batchSend sender targets (kept S.marshal ms))⟩ := by
  simp only [encode, toPackage, Parcel.convert]
  cases hws : marshalBatch S ms with
  | error fault =>
    rw [marshalBatch_eq_error_iff] at hws
    refine iff_of_false (fun h => by cases h) fun h => h.1 (kept_eq_nil_iff.2 hws.1)
  | ok ws =>
    obtain ⟨rfl, hne⟩ := marshalBatch_eq_ok_iff.1 hws
    simp only [Except.map, Except.ok.injEq]
    exact ⟨fun h => ⟨hne, h.symm⟩, fun h => h.2.symm⟩

omit [Vocabulary α] in
theorem decode_eq_error_iff {k : ParcelKind} {bs : Octets} {pk : Package}
    (h : Package.decode k bs = .ok pk) (fault : ClusterError) :
    decode R (.parcel k) bs = .error fault ↔
      ∃ w, pk.single? WireResponse.message = some w ∧ R.unmarshal w = .error fault := by
  have hparts := Parcel.convert_eq_error_iff (fun ws => .ok (unmarshalBatch R ws))
    (unmarshalResponse_eq_error_iff R fault) pk
  simp only [reduceCtorEq, and_false, exists_false, or_false] at hparts
  simp only [decode, h, Parcel.map_eq_error_iff]
  exact hparts

omit [Vocabulary α] in
theorem decode_batch {bs : Octets} {sender : Option ActorRef} {targets : List ActorRef}
    {ws : List WireMessage}
    (h : Package.decode .batchSend bs = .ok (.batchSend sender targets ws)) :
    decode R (.parcel .batchSend) bs =
      .ok (.parcel (.batchSend sender targets (kept R.unmarshal ws))) := by
  simp only [decode, h, ofPackage, Parcel.convert, Except.map, unmarshalBatch]

omit [Vocabulary α] in
theorem exists_parcel_of_decode {k : PackageKind} {bs : Octets} {e : Envelope α}
    (h : decode R k bs = .ok e) : ∃ p, e = .parcel p := by
  unfold decode at h
  split at h
  · split at h
    · obtain ⟨p, -, rfl⟩ := Package.map_eq_ok_iff.1 h
      exact ⟨p, rfl⟩
    · cases h
  all_goals cases h

/-- What becomes of envelopes of which messages fail, on the way from a member with the registry `S`
to one with the registry `R`. -/
structure FailsInPart (S R : Registry α) : Prop where
  /-- Writing fails exactly if the envelope comes from outside the actor system, if its single
  message cannot be written, or if it is a batch of which nothing can be; and it fails with that. -/
  unwritten : ∀ e fault, encode S e = .error fault ↔
    (e.IsOuter ∧ fault = .notTransportable e.kind) ∨
    (∃ m, e.single? = some m ∧ S.marshal m = .error fault) ∨
    ∃ sender targets ms, e = .parcel (.batchSend sender targets ms) ∧
      (∀ m ∈ ms, S.writes m = false) ∧ fault = .noValidMessage
  /-- A batch that is written goes to all its targets and carries the messages that can be written,
  in order. -/
  batchWritten : ∀ sender targets ms enc,
    encode S (.parcel (.batchSend sender targets ms)) = .ok enc →
    ∃ ws, (ms.filter S.writes).map S.marshal = ws.map .ok ∧
      enc = ⟨.parcel .batchSend, Package.write (.batchSend sender targets ws)⟩
  /-- Reading a package fails exactly if its single message cannot be read, and with that. -/
  unread : ∀ k bs pk, Package.decode k bs = .ok pk → ∀ fault,
    decode R (.parcel k) bs = .error fault ↔
      ∃ w, pk.single? WireResponse.message = some w ∧ R.unmarshal w = .error fault
  /-- A batch is always read, with all its targets and the messages that can be read, in order. -/
  batchRead : ∀ bs sender targets ws,
    Package.decode .batchSend bs = .ok (.batchSend sender targets ws) →
    ∃ ms, (ws.filter R.reads).map R.unmarshal = ms.map .ok ∧
      decode R (.parcel .batchSend) bs = .ok (.parcel (.batchSend sender targets ms))
  /-- Of a batch that is written arrive exactly the messages that the one member can write and the
  other can read, in order, and as they were if the other reads back what was written. That the
  octets are less than 2⁶⁴ is so in any memory. -/
  batchSeen : ∀ sender targets ms enc,
    encode S (.parcel (.batchSend sender targets ms)) = .ok enc →
    enc.payload.length < UInt64.size →
    ∃ seen, decode R enc.kind enc.payload = .ok (.parcel (.batchSend sender targets seen)) ∧
      List.Forall₂ (fun m m' => ∃ w, S.marshal m = .ok w ∧ R.unmarshal w = .ok m')
        (ms.filter (S.passes R)) seen ∧
      ((∀ m ∈ ms.filter (S.passes R), S.Carries R m) → seen = ms.filter (S.passes R))
  /-- Nothing is read as an envelope from outside the actor system. -/
  inside : ∀ k bs e, decode R k bs = .ok e → ¬ e.IsOuter

/-- An envelope fails with its single message, and a batch goes on without the messages that fail. -/
theorem failsInPart (S R : Registry α) : FailsInPart S R where
  unwritten := encode_eq_error_iff
  batchWritten sender targets ms enc h := by
    obtain ⟨-, rfl⟩ := encode_batch_eq_ok_iff.1 h
    exact ⟨_, map_filter_eq_map_kept _ ms, rfl⟩
  unread k bs pk h := decode_eq_error_iff h
  batchRead bs sender targets ws h := ⟨_, map_filter_eq_map_kept _ ws, decode_batch h⟩
  batchSeen sender targets ms enc h hlen := by
    obtain ⟨-, rfl⟩ := encode_batch_eq_ok_iff.1 h
    have hread := @decode_write (.batchSend sender targets (kept S.marshal ms)) hlen
    have hseen := forall₂_kept_kept (S := S) (R := R) ms
    exact ⟨_, decode_batch hread, hseen, eq_of_forall₂_carried hseen⟩
  inside k bs e h := by
    obtain ⟨p, rfl⟩ := exists_parcel_of_decode h
    exact id

end Envelope

end

end ActorMesh
