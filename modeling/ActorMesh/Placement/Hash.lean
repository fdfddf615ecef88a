import ActorMesh.Wire.Octets

/-!
# The hash of an actor id

The octets of an id enter a 32-bit word at its low end, one after another; what leaves at the high
end comes back at the low end and is combined with what enters.
-/

namespace ActorMesh

/-- Turns a word to the left by `8 * k` bits. -/
def turn (k : Nat) (h : UInt32) : UInt32 := ⟨h.toBitVec.rotateLeft (8 * k)⟩

/-- Where a bit of a turned word comes from. -/
theorem getLsbD_turn (k : Nat) (h : UInt32) {i : Nat} (hi : i < 32) :
    (turn k h).toBitVec.getLsbD i = h.toBitVec.getLsbD ((i + (32 - 8 * k % 32)) % 32) := by
  have hk : 8 * k % 32 < 32 := Nat.mod_lt _ (by decide)
  rw [turn, BitVec.getLsbD_rotateLeft]
  by_cases hlow : i < 8 * k % 32
  · rw [decide_eq_true hlow, cond_true]
    congr 1
    omega
  · rw [decide_eq_false hlow, cond_false, decide_eq_true hi, Bool.true_and]
    congr 1
    omega

/-- Words are equal if their bits are. -/
theorem eq_of_getLsbD {g h : UInt32}
    (hbits : ∀ i < 32, g.toBitVec.getLsbD i = h.toBitVec.getLsbD i) : g = h :=
  UInt32.toBitVec_inj.1 (BitVec.eq_of_getLsbD_eq hbits)

@[simp] theorem turn_zero (h : UInt32) : turn 0 h = h := by
  refine eq_of_getLsbD fun i hi => ?_
  rw [getLsbD_turn 0 h hi]
  congr 1
  omega

@[simp] theorem turn_turn (j k : Nat) (h : UInt32) : turn j (turn k h) = turn (j + k) h := by
  refine eq_of_getLsbD fun i hi => ?_
  rw [getLsbD_turn _ _ hi, getLsbD_turn _ _ hi, getLsbD_turn _ _ (Nat.mod_lt _ (by decide))]
  congr 1
  omega

theorem turn_xor (k : Nat) (g h : UInt32) : turn k (g ^^^ h) = turn k g ^^^ turn k h := by
  refine eq_of_getLsbD fun i hi => ?_
  rw [UInt32.toBitVec_xor, BitVec.getLsbD_xor, getLsbD_turn k _ hi, getLsbD_turn k _ hi,
    getLsbD_turn k _ hi, UInt32.toBitVec_xor, BitVec.getLsbD_xor]

/-- Four steps are a full turn. -/
theorem turn_mod (k : Nat) (h : UInt32) : turn (k % 4) h = turn k h := by
  have hbits : 8 * (k % 4) % 32 = 8 * k % 32 := by omega
  rw [turn, turn, ← BitVec.rotateLeft_mod_eq_rotateLeft, hbits,
    BitVec.rotateLeft_mod_eq_rotateLeft]

/-- The highest octet of a word becomes its lowest one. -/
theorem toNat_turn_one (h : UInt32) :
    (turn 1 h).toNat = 256 * (h.toNat % 0x1000000) + h.toNat / 0x1000000 := by
  have hhigh : h.toNat / 0x1000000 < 2 ^ 8 := Nat.div_lt_of_lt_mul h.toNat_lt
  calc (turn 1 h).toNat
    _ = h.toNat <<< 8 % 2 ^ 32 ||| h.toNat >>> 24 := BitVec.toNat_rotateLeft
    _ = 256 * (h.toNat % 0x1000000) ||| h.toNat / 0x1000000 := by
      rw [Nat.shiftRight_eq_div_pow, Nat.shiftLeft_eq]
      congr 1
      omega
    _ = 256 * (h.toNat % 0x1000000) + h.toNat / 0x1000000 :=
      (Nat.two_pow_add_eq_or_of_lt hhigh _).symm

/-- One more octet enters the word. -/
def enter (h : UInt32) (b : UInt8) : UInt32 := turn 1 h ^^^ b.toUInt32

/-- What is combined with the lowest octet of a number leaves the others alone. -/
theorem mul_add_xor (m : Nat) {l b : Nat} (hl : l < 256) (hb : b < 256) :
    (256 * m + l) ^^^ b = 256 * m + (l ^^^ b) := by
  have hdiv : ((256 * m + l) ^^^ b) / 256 = m :=
    calc ((256 * m + l) ^^^ b) / 256
      _ = (256 * m + l) / 256 ^^^ b / 256 := Nat.xor_div_two_pow (n := 8)
      _ = m := by
        rw [Nat.mul_add_div (by decide), Nat.div_eq_of_lt hl, Nat.div_eq_of_lt hb, Nat.add_zero,
          Nat.xor_zero]
  have hmod : ((256 * m + l) ^^^ b) % 256 = l ^^^ b :=
    calc ((256 * m + l) ^^^ b) % 256
      _ = (256 * m + l) % 256 ^^^ b % 256 := Nat.xor_mod_two_pow (n := 8)
      _ = l ^^^ b := by rw [Nat.mul_add_mod, Nat.mod_eq_of_lt hl, Nat.mod_eq_of_lt hb]
  rw [← Nat.div_add_mod ((256 * m + l) ^^^ b) 256, hdiv, hmod]

/-- An octet that enters is combined with the highest one, and the others move up. -/
theorem toNat_enter (h : UInt32) (b : UInt8) : (enter h b).toNat =
    256 * (h.toNat % 0x1000000) + (h.toNat / 0x1000000 ^^^ b.toNat) := by
  have hhigh : h.toNat / 0x1000000 < 256 := Nat.div_lt_of_lt_mul h.toNat_lt
  rw [enter, UInt32.toNat_xor, toNat_turn_one, UInt8.toNat_toUInt32]
  exact mul_add_xor _ hhigh b.toNat_lt

/-- The hash of an id. -/
def idHash (id : Octets) : UInt32 := id.foldl enter 0

end ActorMesh
