import ActorMesh.Message.Registry
import ActorMesh.Sample
import Mathlib.Data.List.Basic
import Mathlib.Data.List.Induction

/-!
# The grammar of messages

A message travels as a number and data, and the data begins with the number once more. What the data
**spells** is the message that the type last registered under the number reads behind that second
copy (`Typing.Spells`).

Writing keeps to the grammar: a message is written exactly if its number was last registered for its
own type, and what is written is read back by every registry that knows the number in the same way.
Reading passes over the second copy. So the grammar tells what is read only where the two copies
agree; where they do not, data is read that spells nothing (`Typing.messageGrammar`).
-/

namespace ActorMesh

/-- The second copy of the number is the number. -/
def WireMessage.Agrees (w : WireMessage) : Prop :=
  w.data.take Registry.numberWidth = Octets.be Registry.numberWidth w.type.toNat

/-- A type that reads back what it writes. -/
def MessageType.ReadsBack {α : Type} (t : MessageType α) : Prop :=
  ∀ a body, t.encode? a = some body → t.decode body = .ok a

/-- The types that an application can register, and which of them a message is of. A type writes its
own messages and no others. -/
structure Typing (α κ : Type) where
  type : κ → MessageType α
  typeOf? : α → Option κ
  isSome_encode?_iff : ∀ k a, ((type k).encode? a).isSome = true ↔ typeOf? a = some k

/-- What a number was last registered for. -/
def latest? {κ : Type} (history : List (MessageTypeId × κ)) (i : MessageTypeId) : Option κ :=
  (history.filterMap fun e => if e.1 = i then some e.2 else none).getLast?

theorem latest?_concat {κ : Type} (history : List (MessageTypeId × κ)) (e : MessageTypeId × κ)
    (i : MessageTypeId) :
    latest? (history ++ [e]) i = if i = e.1 then some e.2 else latest? history i := by
  rw [latest?, List.filterMap_append, List.getLast?_append]
  by_cases h : i = e.1
  · simp [h]
  · simp [h, Ne.symm h, latest?]

namespace Typing

variable {α κ : Type} (T : Typing α κ)

/-- The registry after types were registered, one after another. -/
def registry (history : List (MessageTypeId × κ)) : Registry α :=
  history.foldl (fun r e => r.register e.1 (T.type e.2)) .empty

theorem get?_registry (history : List (MessageTypeId × κ)) (i : MessageTypeId) :
    (T.registry history).types.get? i = (latest? history i).map T.type := by
  induction history using List.reverseRecOn with
  | nil => rfl
  | append_singleton earlier e ih =>
    rw [registry, List.foldl_concat, Registry.register, Table.get?_insert, latest?_concat]
    split
    · rfl
    · exact ih

/-- A wire message spells a message: its data is the number of the type and, behind it, octets from
which the type last registered under that number reads the message. -/
def Spells (history : List (MessageTypeId × κ)) (w : WireMessage) (m : Message α) : Prop :=
  ∃ k body a, latest? history ⟨w.type⟩ = some k ∧
    w.data = Octets.be Registry.numberWidth w.type.toNat ++ body ∧
    (T.type k).decode body = .ok a ∧ m = .app a

variable {T} {history : List (MessageTypeId × κ)} {w : WireMessage} {m : Message α}

/-- What is read: the octets behind the second copy of the number, whatever that is. -/
theorem unmarshal_registry_iff :
    (T.registry history).unmarshal w = .ok m ↔ Registry.numberWidth ≤ w.data.length ∧
      ∃ k a, latest? history ⟨w.type⟩ = some k ∧
        (T.type k).decode (w.data.drop Registry.numberWidth) = .ok a ∧ m = .app a := by
  rw [Registry.unmarshal_eq_ok_iff, get?_registry]
  simp only [Option.map_eq_some_iff]
  constructor
  · rintro ⟨hlen, _, a, ⟨k, hk, rfl⟩, ha, hm⟩
    exact ⟨hlen, k, a, hk, ha, hm⟩
  · rintro ⟨hlen, k, a, hk, ha, hm⟩
    exact ⟨hlen, _, a, ⟨k, hk, rfl⟩, ha, hm⟩

/-- What is spelled is read, and what is read is spelled if the two copies of the number agree. -/
theorem spells_iff :
    T.Spells history w m ↔ (T.registry history).unmarshal w = .ok m ∧ w.Agrees := by
  rw [unmarshal_registry_iff]
  have hwidth (n : Nat) : (Octets.be Registry.numberWidth n).length = Registry.numberWidth :=
    Octets.length_be _ _
  constructor
  · rintro ⟨k, body, a, hk, hdata, ha, hm⟩
    refine ⟨⟨?_, k, a, hk, ?_, hm⟩, ?_⟩
    · rw [hdata, List.length_append, hwidth]
      exact Nat.le_add_right _ _
    · rwa [hdata, List.drop_left' (hwidth _)]
    · rw [WireMessage.Agrees, hdata, List.take_left' (hwidth _)]
  · rintro ⟨⟨-, k, a, hk, ha, hm⟩, hagrees⟩
    refine ⟨k, _, a, hk, ?_, ha, hm⟩
    rw [← hagrees, List.take_append_drop]

/-- The grammar tells what is read of a wire message exactly if the copies of its number agree or
nothing is read of it. -/
theorem spelled_iff_agrees :
    (∀ m, (T.registry history).unmarshal w = .ok m ↔ T.Spells history w m) ↔
      w.Agrees ∨ ∀ m, (T.registry history).unmarshal w ≠ .ok m := by
  simp only [spells_iff]
  constructor
  · intro h
    by_cases hread : ∃ m, (T.registry history).unmarshal w = .ok m
    · obtain ⟨m, hm⟩ := hread
      exact .inl ((h m).1 hm).2
    · exact .inr fun m hm => hread ⟨m, hm⟩
  · rintro (hagrees | hnone) m
    · exact ⟨fun hm => ⟨hm, hagrees⟩, fun hm => hm.1⟩
    · exact iff_of_false (hnone m) fun hm => hnone m hm.1

section

variable [Vocabulary α]

/-- A message is written exactly if its number was last registered for its own type. -/
theorem exists_marshal_iff :
    (∃ w, (T.registry history).marshal m = .ok w) ↔ ∃ i a k, m.typeId? = some i ∧ m = .app a ∧
      T.typeOf? a = some k ∧ latest? history i = some k := by
  constructor
  · rintro ⟨w, hw⟩
    obtain ⟨i, t, a, body, rfl, hi, ht, hbody, -⟩ := Registry.marshal_eq_ok_iff.1 hw
    rw [get?_registry, Option.map_eq_some_iff] at ht
    obtain ⟨k, hk, rfl⟩ := ht
    exact ⟨i, a, k, hi, rfl, (T.isSome_encode?_iff k a).1 (by rw [hbody]; rfl), hk⟩
  · rintro ⟨i, a, k, hi, rfl, hown, hk⟩
    obtain ⟨body, hbody⟩ := Option.isSome_iff_exists.1 ((T.isSome_encode?_iff k a).2 hown)
    have ht : (T.registry history).types.get? i = some (T.type k) := by
      rw [get?_registry, hk, Option.map_some]
    exact ⟨_, Registry.marshal_eq_ok_iff.2 ⟨i, _, a, body, rfl, hi, ht, hbody, rfl⟩⟩

/-- What is written spells the message, under every registry that knows the number in the same
way. -/
theorem spells_of_marshal {other : List (MessageTypeId × κ)}
    (h : (T.registry history).marshal m = .ok w)
    (hback : ∀ k, latest? history ⟨w.type⟩ = some k → (T.type k).ReadsBack)
    (hother : latest? other ⟨w.type⟩ = latest? history ⟨w.type⟩) : T.Spells other w m := by
  obtain ⟨i, t, a, body, rfl, -, ht, hbody, rfl⟩ := Registry.marshal_eq_ok_iff.1 h
  rw [get?_registry, Option.map_eq_some_iff] at ht
  obtain ⟨k, hk, rfl⟩ := ht
  exact ⟨k, body, a, hother.trans hk, rfl, hback k hk a body hbody, rfl⟩

end

/-- What a registry reads and writes after types were registered. -/
structure MessageGrammar [Vocabulary α] (T : Typing α κ) (history : List (MessageTypeId × κ)) :
    Prop where
  /-- A message is read exactly if the data is long enough for the second copy of the number and the
  type last registered under the number reads the message behind that. -/
  reads : ∀ w m, (T.registry history).unmarshal w = .ok m ↔
    Registry.numberWidth ≤ w.data.length ∧ ∃ k a, latest? history ⟨w.type⟩ = some k ∧
      (T.type k).decode (w.data.drop Registry.numberWidth) = .ok a ∧ m = .app a
  /-- All that is read, and nothing else, is what the data spells, exactly if the copies agree or
  nothing is read. -/
  meets : ∀ w, (∀ m, (T.registry history).unmarshal w = .ok m ↔ T.Spells history w m) ↔
    w.Agrees ∨ ∀ m, (T.registry history).unmarshal w ≠ .ok m
  /-- A message is written exactly if its number was last registered for its own type. -/
  writes : ∀ m, (∃ w, (T.registry history).marshal m = .ok w) ↔
    ∃ i a k, m.typeId? = some i ∧ m = .app a ∧ T.typeOf? a = some k ∧ latest? history i = some k
  /-- What is written agrees with itself, and is read as it was by every registry that knows the
  number in the same way, if the type reads back what it writes. -/
  returns : ∀ m w, (T.registry history).marshal m = .ok w →
    w.Agrees ∧ ∀ other, latest? other ⟨w.type⟩ = latest? history ⟨w.type⟩ →
      (∀ k, latest? history ⟨w.type⟩ = some k → (T.type k).ReadsBack) →
      (T.registry other).unmarshal w = .ok m

/-- Writing keeps to the grammar of messages; reading does where the two copies of the number
agree. -/
theorem messageGrammar [Vocabulary α] (T : Typing α κ) (history : List (MessageTypeId × κ)) :
    MessageGrammar T history where
  reads _ _ := unmarshal_registry_iff
  meets _ := spelled_iff_agrees
  writes _ := exists_marshal_iff
  returns m w h := by
    refine ⟨?_, fun other hother hback => (spells_iff.1 (spells_of_marshal h hback hother)).1⟩
    obtain ⟨i, t, a, body, rfl, -, -, -, rfl⟩ := Registry.marshal_eq_ok_iff.1 h
    exact List.take_left' (Octets.length_be _ _)

end Typing

/-- The types of the sample application. -/
def SampleType.typing : Typing Sample SampleType where
  type := SampleType.type ""
  typeOf?
    | .greeting _ => some .greeting
    | .ping => some .ping
    | .hello _ => some .hello
    | .payload .. => some .payload
    | .rich _ => some .rich
    | .impostor _ => some .impostor
    | .orphan => some .orphan
    | .localOnly => none
  isSome_encode?_iff k a := by
    cases k <;> cases a <;> first | exact iff_of_true rfl rfl | exact iff_of_false nofun nofun

/-- A wire message with the number of a `hello`, whose data begins with that of a `ping`, is read as
a `hello`, although its data spells neither. -/
theorem Typing.unmarshal_disagreeing :
    let T := SampleType.typing
    let history : List (MessageTypeId × SampleType) := [(⟨3⟩, .ping), (⟨7⟩, .hello)]
    let w : WireMessage := ⟨7, [0, 0, 0, 3, 5, 0, 0, 0]⟩
    (T.registry history).unmarshal w = .ok (.app (.hello 5)) ∧ ¬ w.Agrees ∧
      ∀ m, ¬ T.Spells history w m := by
  intro T history w
  have hagrees : ¬ w.Agrees := by
    unfold WireMessage.Agrees
    decide
  exact ⟨rfl, hagrees, fun m hm => hagrees (Typing.spells_iff.1 hm).2⟩

end ActorMesh
