import ActorMesh.Message.Registry

/-!
# A sample application

Eight kinds of messages that between them use every shape a message can have: texts, octets, numbers
of each width, options, lists, alternatives, and a kind without fields. Two of them are awkward on
purpose: an `impostor` travels under the number of a greeting, and a `localOnly` message has no
number.

Each kind but the last is a type of messages that can be registered (`SampleType.type`), with a
lawful layout.
-/

namespace ActorMesh

/-- One of three alternatives. -/
inductive Shade
  | dark
  | light (depth : UInt32)
  | mixed (a : Int16) (b : String)
  deriving DecidableEq, Repr

/-- A message with a field of every shape. -/
structure Rich where
  flag : Bool
  n : Int64
  opt : Option String
  list : List String
  shade : Shade
  pair : UInt8 × UInt16
  deriving DecidableEq, Repr

/-- A message of the sample application. -/
inductive Sample
  | greeting (text : String)
  | ping
  | hello (n : UInt32)
  | payload (seq : UInt64) (body : Octets)
  | rich (r : Rich)
  | impostor (n : UInt32)
  | orphan
  | localOnly
  deriving DecidableEq, Repr

/-- The kinds of messages of the sample application that can be written. -/
inductive SampleType
  | greeting
  | ping
  | hello
  | payload
  | rich
  | impostor
  | orphan
  deriving DecidableEq, Repr

namespace Shade

/-- An alternative is its index and its fields. -/
def layout : Layout Shade where
  write
    | dark => Layout.word32.write 0
    | light n => Layout.word32.write 1 ++ Layout.word32.write n
    | mixed a b => Layout.word32.write 2 ++ (Layout.int16.both Layout.text).write (a, b)
  read bs :=
    match Layout.word32.read bs with
    | .error e => .error e
    | .ok (index, rest) =>
      if index = 0 then .ok (dark, rest)
      else if index = 1 then
        match Layout.word32.read rest with
        | .ok (n, rest') => .ok (light n, rest')
        | .error e => .error e
      else if index = 2 then
        match (Layout.int16.both Layout.text).read rest with
        | .ok ((a, b), rest') => .ok (mixed a b, rest')
        | .error e => .error e
      else .error (.badAlternative index 3)
  fits
    | mixed a b => (Layout.int16.both Layout.text).fits (a, b)
    | _ => True

theorem layout_lawful : layout.Lawful where
  read_write s rest hf := by
    cases s with
    | dark => simp [layout, Layout.word32_lawful.read_write _ _ trivial]
    | light n =>
      simp [layout, List.append_assoc, Layout.word32_lawful.read_write _ _ trivial]
    | mixed a b =>
      have hp :=
        (Layout.both_lawful Layout.int16_lawful Layout.text_lawful).read_write (a, b) rest hf
      simp [layout, List.append_assoc, Layout.word32_lawful.read_write _ _ trivial, hp]
  write_read {bs s rest} h := by
    simp only [layout] at h ⊢
    split at h
    · cases h
    · rename_i index rest₀ hi
      obtain ⟨-, rfl⟩ := Layout.word32_lawful.write_read hi
      split at h
      · rename_i h0
        cases h
        subst h0
        exact ⟨trivial, rfl⟩
      · split at h
        · rename_i h1
          subst h1
          split at h
          · rename_i n rest' hn
            cases h
            obtain ⟨-, rfl⟩ := Layout.word32_lawful.write_read hn
            exact ⟨trivial, by rw [List.append_assoc]⟩
          · cases h
        · split at h
          · rename_i h2
            subst h2
            split at h
            · rename_i a b rest' hp
              cases h
              obtain ⟨hf, rfl⟩ :=
                (Layout.both_lawful Layout.int16_lawful Layout.text_lawful).write_read hp
              exact ⟨hf, by rw [List.append_assoc]⟩
            · cases h
          · cases h

/-- The text for diagnostics. -/
def inspect : Shade → String
  | dark => "Dark"
  | light n => "Light(" ++ toString n.toNat ++ ")"
  | mixed a b => Text.record "Mixed" [("a", toString a.toInt), ("b", Text.quote b)]

end Shade

namespace Rich

/-- The fields in order. -/
def layout : Layout Rich :=
  (Layout.truth.both <| Layout.int64.both <| Layout.text.optional.both <| Layout.text.list.both <|
    Shade.layout.both <| Layout.word8.both Layout.word16).via
    (fun (flag, n, opt, list, shade, pair) => ⟨flag, n, opt, list, shade, pair⟩)
    (fun r => (r.flag, r.n, r.opt, r.list, r.shade, r.pair))

theorem layout_lawful : layout.Lawful :=
  Layout.via_lawful
    (Layout.both_lawful Layout.truth_lawful <| Layout.both_lawful Layout.int64_lawful <|
      Layout.both_lawful (Layout.optional_lawful Layout.text_lawful) <|
      Layout.both_lawful (Layout.list_lawful Layout.text_lawful) <|
      Layout.both_lawful Shade.layout_lawful <|
      Layout.both_lawful Layout.word8_lawful Layout.word16_lawful)
    (fun _ => rfl) (fun _ => rfl)

/-- The text for diagnostics. -/
def inspect (r : Rich) : String :=
  Text.record "Rich"
    [("flag", Text.truth r.flag), ("n", toString r.n.toInt),
      ("opt", Text.optional (r.opt.map Text.quote)),
      ("list", Text.sequence (r.list.map Text.quote)), ("shade", r.shade.inspect),
      ("pair", "(" ++ toString r.pair.1.toNat ++ ", " ++ toString r.pair.2.toNat ++ ")")]

end Rich

namespace Sample

/-- The text for diagnostics. -/
def describe : Sample → String
  | greeting text => Text.record "Greeting" [("text", Text.quote text)]
  | ping => "Ping"
  | hello n => "Hello(" ++ toString n.toNat ++ ")"
  | payload seq body =>
    Text.record "Payload"
      [("seq", toString seq.toNat), ("body", Text.sequence (body.map fun b => toString b.toNat))]
  | rich r => r.inspect
  | impostor n => Text.record "Impostor" [("n", toString n.toNat)]
  | orphan => "Orphan"
  | localOnly => "LocalOnly"

instance : Vocabulary Sample where
  typeId?
    | greeting _ => some ⟨1⟩
    | ping => some ⟨3⟩
    | hello _ => some ⟨7⟩
    | payload .. => some ⟨42⟩
    | rich _ => some ⟨100⟩
    | impostor _ => some ⟨1⟩
    | orphan => some ⟨99⟩
    | localOnly => none
  describe := describe

/-- The layout of the fields of a payload. -/
def payloadLayout : Layout (UInt64 × Octets) := Layout.word64.both Layout.octets

end Sample

namespace SampleType

/-- The name of a kind of messages. -/
def name : SampleType → String
  | greeting => "Greeting"
  | ping => "Ping"
  | hello => "Hello"
  | payload => "Payload"
  | rich => "Rich"
  | impostor => "Impostor"
  | orphan => "Orphan"

/-- The kinds. -/
def all : List SampleType := [greeting, ping, hello, payload, rich, impostor, orphan]

/-- The kind with a name. -/
def ofName? (name : String) : Option SampleType := all.find? fun t => t.name == name

/-- The octets of a message of the kind. -/
def encode? : SampleType → Sample → Option Octets
  | greeting, .greeting text => some (Layout.text.write text)
  | ping, .ping => some []
  | hello, .hello n => some (Layout.word32.write n)
  | payload, .payload seq body => some (Sample.payloadLayout.write (seq, body))
  | rich, .rich r => some (Rich.layout.write r)
  | impostor, .impostor n => some (Layout.word32.write n)
  | orphan, .orphan => some []
  | _, _ => none

/-- The message of the kind that octets begin with. -/
def decode : SampleType → Octets → Except WireFault Sample
  | greeting, bs => (Layout.text.decode bs).map .greeting
  | ping, _ => .ok .ping
  | hello, bs => (Layout.word32.decode bs).map .hello
  | payload, bs => (Sample.payloadLayout.decode bs).map fun (seq, body) => .payload seq body
  | rich, bs => (Rich.layout.decode bs).map .rich
  | impostor, bs => (Layout.word32.decode bs).map .impostor
  | orphan, _ => .ok .orphan

/-- The type of messages of the kind, with its name inside the given scope. -/
def type (scope : String) (t : SampleType) : MessageType Sample where
  name := scope ++ t.name
  encode? := t.encode?
  decode := t.decode

/-- The numbers under which an application registers its types by default. -/
def defaults : List (MessageTypeId × SampleType) :=
  [(⟨1⟩, greeting), (⟨3⟩, ping), (⟨7⟩, hello), (⟨42⟩, payload), (⟨100⟩, rich)]

end SampleType

end ActorMesh
