/-!
# Octet strings

Wire data is a list of octets. A number travels in a fixed count of them, least significant first
(`le`) inside packages and most significant first (`be`) in frame headers and type tags.

`ofLe_le` and `le_ofLe` say that the two directions undo each other, so a fixed-width number has
exactly one written form.
-/

namespace ActorMesh

/-- An octet string. -/
abbrev Octets := List UInt8

namespace Octets

/-- The `w` lowest octets of a number, least significant first. -/
def le : Nat → Nat → Octets
  | 0, _ => []
  | w + 1, n => UInt8.ofNat n :: le w (n / 256)

/-- The number that octets spell, least significant first. -/
def ofLe : Octets → Nat
  | [] => 0
  | b :: rest => b.toNat + 256 * ofLe rest

/-- The `w` lowest octets of a number, most significant first. -/
def be (w n : Nat) : Octets := (le w n).reverse

/-- The number that octets spell, most significant first. -/
def ofBe (bs : Octets) : Nat := ofLe bs.reverse

/-- How many numbers `w` octets can spell. -/
def capacity : Nat → Nat
  | 0 => 1
  | w + 1 => 256 * capacity w

@[simp] theorem length_le (w n : Nat) : (le w n).length = w := by
  induction w generalizing n with
  | zero => rfl
  | succ w ih => simp [le, ih]

@[simp] theorem length_be (w n : Nat) : (be w n).length = w := by
  simp [be]

theorem ofLe_le (w n : Nat) : ofLe (le w n) = n % capacity w := by
  induction w generalizing n with
  | zero => simp [le, ofLe, capacity, Nat.mod_one]
  | succ w ih =>
    have hb : (UInt8.ofNat n).toNat = n % 256 := by simp
    rw [le, ofLe, ih, hb, capacity, Nat.mod_mul]

theorem le_ofLe (bs : Octets) : le bs.length (ofLe bs) = bs := by
  induction bs with
  | nil => rfl
  | cons b rest ih =>
    have hb : b.toNat < 256 := b.toNat_lt
    have hd : (b.toNat + 256 * ofLe rest) / 256 = ofLe rest := by omega
    simp only [List.length_cons, le, ofLe, hd, ih]
    congr 1
    apply UInt8.toNat_inj.1
    rw [UInt8.toNat_ofNat']
    omega

theorem ofBe_be (w n : Nat) : ofBe (be w n) = n % capacity w := by
  simp [ofBe, be, ofLe_le]

theorem ofLe_lt (bs : Octets) : ofLe bs < capacity bs.length := by
  induction bs with
  | nil => exact Nat.one_pos
  | cons b rest ih =>
    have hb : b.toNat < 256 := b.toNat_lt
    simp only [ofLe, List.length_cons, capacity]
    omega

theorem ofBe_lt (bs : Octets) : ofBe bs < capacity bs.length := by
  simpa [ofBe] using ofLe_lt bs.reverse

theorem ofBe_concat (bs : Octets) (b : UInt8) : ofBe (bs ++ [b]) = 256 * ofBe bs + b.toNat := by
  simp [ofBe, ofLe, Nat.add_comm]

/-- The octets of a text in UTF-8. -/
def ofText (s : String) : Octets := s.toUTF8.data.toList

end Octets

end ActorMesh
