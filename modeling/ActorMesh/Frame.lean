import ActorMesh.LinkError
import ActorMesh.Wire.Octets

/-!
# Frames

A link carries frames: the length of the payload in four octets, most significant first, a mark that
tells what the payload is, and the payload. Both ends agree on a limit on the length.

`Frame.decode` takes a frame off the front of what has arrived, `Frame.split` all that are complete.
`decode_encode` is the law of a stream: a written frame reads back, whatever follows.
-/

namespace ActorMesh

/-- A marked payload. -/
structure Frame where
  mark : UInt8
  payload : Octets
  deriving DecidableEq, Repr, Inhabited

namespace Frame

/-- How many octets the length takes. -/
def lengthWidth : Nat := 4

/-- How many octets stand in front of the payload. -/
def headerSize : Nat := lengthWidth + 1

/-- The octets of a frame, whatever its length. -/
def write (f : Frame) : Octets := Octets.be lengthWidth f.payload.length ++ f.mark :: f.payload

/-- The octets of a frame under a limit. -/
def encode (limit : Nat) (f : Frame) : Except LinkError Octets :=
  if f.payload.length > limit ∨ f.payload.length ≥ Octets.capacity lengthWidth then
    .error (.frameTooLarge f.payload.length limit)
  else .ok f.write

/-- The frame at the front of what has arrived, and what follows it; none if it is not complete. -/
def decode (limit : Nat) : Octets → Except LinkError (Option (Frame × Octets))
  | a :: b :: c :: d :: mark :: rest =>
    let length := Octets.ofBe [a, b, c, d]
    if length > limit then .error (.frameTooLarge length limit)
    else
      let payload := rest.take length
      if payload.length < length then .ok none else .ok (some (⟨mark, payload⟩, rest.drop length))
  | _ => .ok none

theorem length_lt_of_decode {limit : Nat} {bs rest : Octets} {f : Frame}
    (h : decode limit bs = .ok (some (f, rest))) : rest.length < bs.length := by
  unfold decode at h
  split at h
  · rename_i a b c d mark tail
    simp only at h
    split at h
    · cases h
    · split at h
      · cases h
      · cases h
        simp only [List.length_drop, List.length_cons]
        omega
  · cases h

/-- What a buffer comes to: the complete frames in it, what is left, and the failure that ends it.
-/
structure Split where
  frames : List Frame
  rest : Octets
  fault : Option LinkError
  deriving DecidableEq, Repr

/-- Takes all complete frames off the front. -/
def split (limit : Nat) (bs : Octets) : Split :=
  match h : decode limit bs with
  | .error e => ⟨[], bs, some e⟩
  | .ok none => ⟨[], bs, none⟩
  | .ok (some (f, rest)) =>
    have : rest.length < bs.length := length_lt_of_decode h
    let more := split limit rest
    ⟨f :: more.frames, more.rest, more.fault⟩
termination_by bs.length

/-! ### Laws -/

/-- A written frame reads back, and what follows is left. -/
theorem decode_encode {limit : Nat} {f : Frame} {bs : Octets} (h : f.encode limit = .ok bs)
    (rest : Octets) : decode limit (bs ++ rest) = .ok (some (f, rest)) := by
  unfold encode at h
  split at h
  · cases h
  · rename_i hs
    simp only [not_or, Nat.not_lt, Nat.not_le, ge_iff_le, gt_iff_lt] at hs
    cases h
    have hlen : (Octets.be lengthWidth f.payload.length).length = 4 := Octets.length_be _ _
    have hval : Octets.ofBe (Octets.be lengthWidth f.payload.length) = f.payload.length := by
      rw [Octets.ofBe_be, Nat.mod_eq_of_lt hs.2]
    obtain ⟨mark, payload⟩ := f
    unfold write
    match hb : Octets.be lengthWidth payload.length, hlen, hval with
    | [a, b, c, d], _, hval =>
      have hle : ¬ payload.length > limit := Nat.not_lt.2 hs.1
      simp [decode, hval, hle]

end Frame

end ActorMesh
