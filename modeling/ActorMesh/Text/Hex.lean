import ActorMesh.Wire.Octets

/-!
# Octets as text

Octets can be spelled by two digits each, in base sixteen. Small letters are written; both cases
are read, and a text with a lone digit or any other character spells nothing.
-/

namespace ActorMesh.Octets

/-- The digit for a number below sixteen. -/
def hexDigit (n : Nat) : Char := if n < 10 then Char.ofNat (48 + n) else Char.ofNat (87 + n)

/-- The number of a digit. -/
def hexDigitValue? (c : Char) : Option Nat :=
  if '0' ≤ c ∧ c ≤ '9' then some (c.toNat - 48)
  else if 'a' ≤ c ∧ c ≤ 'f' then some (c.toNat - 87)
  else if 'A' ≤ c ∧ c ≤ 'F' then some (c.toNat - 55)
  else none

/-- The two digits of an octet. -/
def hexPair (b : UInt8) : List Char := [hexDigit (b.toNat / 16), hexDigit (b.toNat % 16)]

/-- Octets spelled out. -/
def hex (bs : Octets) : String := String.ofList (bs.flatMap hexPair)

/-- The octets that digits spell, after those that were read, last ones first. -/
def unspell (read : Octets) : List Char → Option Octets
  | [] => some read.reverse
  | [_] => none
  | a :: b :: rest =>
    match hexDigitValue? a, hexDigitValue? b with
    | some high, some low => unspell (UInt8.ofNat (16 * high + low) :: read) rest
    | _, _ => none

/-- The octets that a text spells. -/
def ofHex? (s : String) : Option Octets := unspell [] s.toList

end ActorMesh.Octets
