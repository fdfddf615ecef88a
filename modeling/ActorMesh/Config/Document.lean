import ActorMesh.Config
import ActorMesh.Toml.Document

/-!
# Configurations as documents

A configuration is written as a TOML document. Values have to have their kind and range; what is not
known is passed over. The types of a member, the timings and each of them may be left out.

A record may also be given as an array of its fields in order, where fields at the end may be
missing under the same rule, and a date in the place of a record stands for one with no field that
is known.
-/

namespace ActorMesh

open Toml (Tree Entries)

/-- Why there is no configuration. -/
inductive Config.LoadFault
  /-- The document cannot be read as text. -/
  | unreadable (path : String)
  /-- The document does not describe a configuration. -/
  | malformed
  /-- The configuration is not valid. -/
  | invalid (fault : ConfigFault)
  deriving DecidableEq, Repr

/-- The wording of a fault. -/
def Config.LoadFault.message : Config.LoadFault → String
  | unreadable path => "Failed to read cluster config " ++ path
  | malformed => "Failed to deserialize cluster configuration"
  | invalid _ => "Invalid cluster configuration"

namespace Config.Document

/-- The fields of a record, by name or in order. -/
inductive Fields
  | named (entries : Entries)
  | listed (items : List Tree)

/-- The values of an array. -/
def items? : Tree → Option (List Tree)
  | .array items => some items
  | .tables items => some (items.map (.table .header))
  | _ => none

/-- The fields of a record. -/
def fields? : Tree → Option Fields
  | .table _ entries => some (.named entries)
  | .moment => some (.named [])
  | t => (items? t).map .listed

/-- The value of a field. -/
def Fields.get? (fs : Fields) (place : Nat) (name : String) : Option Tree :=
  match fs with
  | named entries => entries.find? name
  | listed items => items[place]?

/-- A field that has to be there. -/
def Fields.required {α : Type} (fs : Fields) (place : Nat) (name : String)
    (read : Tree → Option α) : Option α :=
  (fs.get? place name).bind read

/-- A field that may be missing. -/
def Fields.defaulted {α : Type} (fs : Fields) (place : Nat) (name : String) (missing : α)
    (read : Tree → Option α) : Option α :=
  match fs.get? place name with
  | none => some missing
  | some t => read t

/-- A number below a bound. -/
def below (bound : Nat) : Tree → Option Nat
  | .integer n => if 0 ≤ n ∧ n < bound then some n.toNat else none
  | _ => none

/-- A text. -/
def text : Tree → Option String
  | .text s => some s
  | _ => none

/-- A number of 32 bits. -/
def word (t : Tree) : Option UInt32 := (below UInt32.size t).map UInt32.ofNat

/-- A list of values. -/
def list {α : Type} (read : Tree → Option α) (t : Tree) : Option (List α) :=
  (items? t).bind (·.mapM read)

/-- A member. -/
def member (t : Tree) : Option MemberConfig := do
  let fs ← fields? t
  let id ← fs.required 0 "system_id" word
  let host ← fs.required 1 "host" text
  let port ← fs.required 2 "port" (below UInt16.size)
  let types ← fs.defaulted 3 "actor_types" [] (list word)
  return ⟨⟨id⟩, host, UInt16.ofNat port, types.map ActorType.mk⟩

/-- The timings. -/
def timings (t : Tree) : Option Timings := do
  let fs ← fields? t
  let preset : Timings := {}
  let size := below UInt64.size
  let reconnect ← fs.defaulted 0 "reconnect_interval_ms" preset.reconnectInterval size
  let poll ← fs.defaulted 1 "startup_poll_interval_ms" preset.startupPollInterval size
  let idle ← fs.defaulted 2 "watch_proxy_idle_ms" preset.watchProxyIdle size
  let connect ← fs.defaulted 3 "connect_timeout_ms" preset.connectTimeout size
  let frame ← fs.defaulted 4 "max_frame_size" preset.maxFrameSize size
  return ⟨reconnect, poll, idle, connect, frame⟩

/-- The configuration that a document describes. -/
def config (entries : Entries) : Option Config := do
  let fs := Fields.named entries
  let localId ← fs.required 0 "local_system_id" word
  let members ← fs.required 1 "systems" (list member)
  let timings ← fs.defaulted 2 "timings" {} timings
  return ⟨⟨localId⟩, members, timings⟩

end Config.Document

/-- The valid configuration that a text describes. -/
def Config.ofToml (text : String) : Except Config.LoadFault Config :=
  match (Toml.parse? text).bind Config.Document.config with
  | none => .error .malformed
  | some c =>
    match c.validate with
    | .ok () => .ok c
    | .error fault => .error (.invalid fault)

/-- The valid configuration in the document at a path, given its octets if there is one. -/
def Config.load (path : String) (content : Option Octets) : Except Config.LoadFault Config :=
  match content.map Text.Utf8.decode with
  | some (.ok text) => Config.ofToml text
  | _ => .error (.unreadable path)

end ActorMesh
