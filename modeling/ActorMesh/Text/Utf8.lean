import ActorMesh.Wire.Octets

/-!
# Reading text

Text travels as UTF-8. `decode` accepts exactly the octets of a text (`decode_eq_ok_iff`); for other
octets it names the first sequence that is none, with the place where it starts.

A sequence is either cut off by the end of the input or broken by an octet that may not stand there;
`follow` lists, for a first octet, which octets may come after it.
-/

namespace ActorMesh.Text.Utf8

/-- Why octets are no text. -/
inductive Fault
  /-- `size` octets from index `start` form no character. -/
  | invalid (size start : Nat)
  /-- The input ends inside the character that starts at index `start`. -/
  | incomplete (start : Nat)
  deriving DecidableEq, Repr

/-- The wording of a fault. -/
def Fault.message : Fault → String
  | .invalid size start =>
    "invalid utf-8 sequence of " ++ toString size ++ " bytes from index " ++ toString start
  | .incomplete start => "incomplete utf-8 byte sequence from index " ++ toString start

/-- The closed ranges of the octets that must follow a first octet; `none` if none can be first. -/
def follow (b : UInt8) : Option (List (UInt8 × UInt8)) :=
  if b < 0x80 then some []
  else if b < 0xC2 then none
  else if b < 0xE0 then some [(0x80, 0xBF)]
  else if b = 0xE0 then some [(0xA0, 0xBF), (0x80, 0xBF)]
  else if b = 0xED then some [(0x80, 0x9F), (0x80, 0xBF)]
  else if b < 0xF0 then some [(0x80, 0xBF), (0x80, 0xBF)]
  else if b = 0xF0 then some [(0x90, 0xBF), (0x80, 0xBF), (0x80, 0xBF)]
  else if b < 0xF4 then some [(0x80, 0xBF), (0x80, 0xBF), (0x80, 0xBF)]
  else if b = 0xF4 then some [(0x80, 0x8F), (0x80, 0xBF), (0x80, 0xBF)]
  else none

/-- Walks over sequences that are in order and stops at the first that is not. The character being
read starts at `start`, `seen` of its octets are read and `due` lists the ranges of the others. -/
def scan (start seen : Nat) (due : List (UInt8 × UInt8)) : Octets → Fault
  | [] => .incomplete start
  | b :: rest =>
    match due with
    | (low, high) :: due' =>
      if low ≤ b ∧ b ≤ high then scan start (seen + 1) due' rest else .invalid seen start
    | [] =>
      match follow b with
      | some due' => scan (start + seen) 1 due' rest
      | none => .invalid 1 (start + seen)

/-- The first fault of octets that are no text. -/
def fault (bs : Octets) : Fault := scan 0 0 [] bs

/-- The text that octets spell. -/
def decode (bs : Octets) : Except Fault String :=
  if h : (ByteArray.mk bs.toArray).IsValidUTF8 then .ok ⟨_, h⟩ else .error (fault bs)

theorem decode_eq_ok_iff {bs : Octets} {s : String} : decode bs = .ok s ↔ bs = Octets.ofText s := by
  constructor
  · intro h
    unfold decode at h
    split at h
    · cases h; simp [Octets.ofText, String.toUTF8]
    · cases h
  · rintro rfl
    have hb : (ByteArray.mk (Octets.ofText s).toArray) = s.toByteArray := by
      simp [Octets.ofText, String.toUTF8]
    unfold decode
    rw [dif_pos (hb ▸ s.isValidUTF8)]
    congr 1

@[simp] theorem decode_ofText (s : String) : decode (Octets.ofText s) = .ok s :=
  decode_eq_ok_iff.2 rfl

end ActorMesh.Text.Utf8
