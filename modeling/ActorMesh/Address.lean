import ActorMesh.Text.Hex
import ActorMesh.Text.Diagnostic

/-!
# Addresses

The **address** of the far end of a connection is a host and a port. A host is four octets
(`10.1.2.3:80`), or eight groups of sixteen bits (`[2001:db8::1]:80`) and, behind a `%`, the scope
in which they hold.

Groups can be written in several ways: in both cases, with zeros in front, with `::` for groups of
zero, and the last two as four octets. `Address.ofText?` reads all of them. `Address.text` has one
way to write an address: small letters, no zeros in front, and `::` for the longest run of two zero
groups or more, of equal runs the first; the four octets of a mapped host are written as such.
-/

namespace ActorMesh

/-- A host of four octets. -/
structure Quad where
  a : UInt8
  b : UInt8
  c : UInt8
  d : UInt8
  deriving DecidableEq, Repr, Inhabited

/-- A host of eight groups of sixteen bits. -/
abbrev Groups : Type := Vector UInt16 8

/-- The address of the far end of a connection. -/
inductive Address
  | quad (host : Quad) (port : UInt16)
  /-- Scope 0 stands for none in particular. -/
  | groups (host : Groups) (scope : UInt32) (port : UInt16)
  deriving DecidableEq, Repr

/-! ### Writing -/

namespace Quad

/-- The octets with dots between them. -/
def text (q : Quad) : String :=
  String.intercalate "." ([q.a, q.b, q.c, q.d].map fun b => toString b.toNat)

end Quad

namespace Groups

/-- Groups with colons between them. -/
def chain (gs : List UInt16) : String :=
  String.intercalate ":" (gs.map fun g => Text.hexDigits g.toNat)

/-- How many groups in front are zero. -/
def zeros (gs : List UInt16) : Nat := (gs.takeWhile (· = 0)).length

/-- Where the longest run of zero groups starts, and its length; of equal runs the first. -/
def longestRun (gs : List UInt16) : Nat × Nat :=
  (List.range gs.length).foldl (fun best i =>
    if best.2 < zeros (gs.drop i) then (i, zeros (gs.drop i)) else best) (0, 0)

/-- The four octets of a mapped host, which stand behind five zero groups and one of ones. -/
def mapped? (host : Groups) : Option Quad :=
  match host.toList with
  | [0, 0, 0, 0, 0, 0xffff, g, h] =>
    some ⟨(g >>> 8).toUInt8, g.toUInt8, (h >>> 8).toUInt8, h.toUInt8⟩
  | _ => none

/-- The text of a host. -/
def text (host : Groups) : String :=
  match mapped? host with
  | some q => "::ffff:" ++ q.text
  | none =>
    let gs := host.toList
    let (start, length) := longestRun gs
    if length < 2 then chain gs
    else chain (gs.take start) ++ "::" ++ chain (gs.drop (start + length))

end Groups

namespace Address

/-- The text of an address. -/
def text : Address → String
  | quad host port => host.text ++ ":" ++ toString port.toNat
  | groups host scope port =>
    let suffix := if scope = 0 then "" else "%" ++ toString scope.toNat
    "[" ++ Groups.text host ++ suffix ++ "]:" ++ toString port.toNat

/-- An address that may be unknown, in diagnostics. -/
def inspect (a : Option Address) : String := Text.optional (a.map (·.text))

/-! ### Reading

Every reader takes what it reads off the front and returns the rest. -/

/-- The value of a digit in a base of at most sixteen. -/
def digit? (base : Nat) (c : Char) : Option Nat := (Octets.hexDigitValue? c).filter (· < base)

/-- All digits in front, at least one, and their value, which has to be below a limit. -/
def readNumber (base limit : Nat) (cs : List Char) : Option ((List Char × Nat) × List Char) :=
  let digits := cs.takeWhile fun c => (digit? base c).isSome
  let value := digits.foldl (fun n c => base * n + (digit? base c).getD 0) 0
  if digits ≠ [] ∧ value < limit then some ((digits, value), cs.drop digits.length) else none

/-- One character. -/
def readChar (c : Char) : List Char → Option (List Char)
  | d :: rest => if d = c then some rest else none
  | [] => none

/-- An octet in base ten, without a zero in front. -/
def readOctet (cs : List Char) : Option (UInt8 × List Char) := do
  let ((digits, value), rest) ← readNumber 10 UInt8.size cs
  if digits.length ≠ 1 ∧ digits.head? = some '0' then none else some (UInt8.ofNat value, rest)

/-- Four octets with dots between them. -/
def readQuad (cs : List Char) : Option (Quad × List Char) := do
  let (a, cs) ← readOctet cs
  let (b, cs) ← readOctet (← readChar '.' cs)
  let (c, cs) ← readOctet (← readChar '.' cs)
  let (d, cs) ← readOctet (← readChar '.' cs)
  return (⟨a, b, c, d⟩, cs)

/-- A group of at most four digits. -/
def readGroup (cs : List Char) : Option (UInt16 × List Char) := do
  let ((digits, value), rest) ← readNumber 16 UInt16.size cs
  if 4 < digits.length then none else some (UInt16.ofNat value, rest)

/-- The two groups that four octets make. -/
def pairOf (q : Quad) : List UInt16 :=
  [q.a.toUInt16 <<< 8 ||| q.b.toUInt16, q.c.toUInt16 <<< 8 ||| q.d.toUInt16]

/-- As many groups as there are, up to a number, with colons between them and before the first one
unless it leads. Four octets in place of two groups end them; whether they did is told. -/
def readGroups : Nat → Bool → List Char → (List UInt16 × Bool) × List Char
  | 0, _, cs => (([], false), cs)
  | room + 1, leads, cs =>
    match if leads then some cs else readChar ':' cs with
    | none => (([], false), cs)
    | some body =>
      match if room = 0 then none else readQuad body with
      | some (q, rest) => ((pairOf q, true), rest)
      | none =>
        match readGroup body with
        | none => (([], false), cs)
        | some (g, rest) =>
          let ((gs, isMixed), rest) := readGroups room false rest
          ((g :: gs, isMixed), rest)

/-- A host whose groups are given; further ones are zero. -/
def hostOf (gs : List UInt16) : Groups := Vector.ofFn fun i => gs.getD i.val 0

/-- A host of eight groups, with at most one `::` for at least one of them. -/
def readHost (cs : List Char) : Option (Groups × List Char) :=
  let ((front, isMixed), rest) := readGroups 8 true cs
  if front.length = 8 then some (hostOf front, rest)
  else if isMixed then none
  else do
    let rest ← readChar ':' (← readChar ':' rest)
    let ((back, _), rest) := readGroups (7 - front.length) true rest
    let gap := List.replicate (8 - front.length - back.length) 0
    return (hostOf (front ++ gap ++ back), rest)

/-- A scope behind its mark, or none. -/
def readScope (cs : List Char) : UInt32 × List Char :=
  match (readChar '%' cs).bind (readNumber 10 UInt32.size) with
  | some ((_, value), rest) => (UInt32.ofNat value, rest)
  | none => (0, cs)

/-- A port, with which an address ends. -/
def readPort (cs : List Char) : Option UInt16 := do
  match ← readNumber 10 UInt16.size (← readChar ':' cs) with
  | ((_, value), []) => some (UInt16.ofNat value)
  | _ => none

/-- The address that a text spells. -/
def ofText? (s : String) : Option Address :=
  match readQuad s.toList with
  | some (q, rest) => (readPort rest).map (.quad q)
  | none => do
    let (host, rest) ← readHost (← readChar '[' s.toList)
    let (scope, rest) := readScope rest
    (readPort (← readChar ']' rest)).map (.groups host scope)

end Address

end ActorMesh
