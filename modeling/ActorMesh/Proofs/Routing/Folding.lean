import ActorMesh.Placement.Hash
import Mathlib.Data.List.Basic
import Mathlib.Data.List.Induction

/-!
# How an id is folded into a word

The octets of an id enter a word at its low end and go round in it. So there are three ways to see
the hash of an id (`IdHash.folding`).

- Part by part: wherever the id is divided, the hash of the front is turned by an octet for each
  octet of the rest and combined with the hash of the rest.
- Word by word: the words of the id are combined, with zeros in front of it if its first word lacks
  some octets.
- Lane by lane: each octet of the hash combines every fourth octet of the id, counted from the last
  one.

The first two say the same of any function that takes a single octet to itself, and the hash is the
only one they are true of.
-/

namespace ActorMesh.IdHash

variable {id : Octets} {f : Octets → UInt32}

/-- The words that octets form, four octets each, the most significant one first. -/
def words : Octets → List UInt32
  | a :: b :: c :: d :: rest => UInt32.ofNat (Octets.ofBe [a, b, c, d]) :: words rest
  | _ => []

/-- An id with as many zeros in front as are missing in its first word. -/
def padded (id : Octets) : Octets := List.replicate ((4 - id.length % 4) % 4) 0 ++ id

/-- The words of an id, combined. -/
def combined (id : Octets) : UInt32 := (words (padded id)).foldr (· ^^^ ·) 0

/-- The octets of an id in a lane, combined. The last octet lies in lane 0, the one before it in
lane 1, and so on; after lane 3 comes lane 0 again. -/
def lane (k : Nat) (id : Octets) : UInt8 :=
  ((id.reverse.zipIdx.filter fun e => e.2 % 4 = k).map (·.1)).foldr (· ^^^ ·) 0

/-! ### Part by part -/

theorem idHash_concat (front : Octets) (b : UInt8) :
    idHash (front ++ [b]) = enter (idHash front) b :=
  List.foldl_concat enter 0 b front

/-- What the front of an id comes to goes round while the octets behind it enter. -/
theorem idHash_append (a b : Octets) :
    idHash (a ++ b) = turn b.length (idHash a) ^^^ idHash b := by
  induction b using List.reverseRecOn with
  | nil =>
    rw [List.append_nil, List.length_nil, turn_zero]
    exact (UInt32.xor_zero).symm
  | append_singleton b x ih =>
    calc idHash (a ++ (b ++ [x]))
      _ = turn 1 (turn b.length (idHash a) ^^^ idHash b) ^^^ x.toUInt32 := by
        rw [← List.append_assoc, idHash_concat, enter, ih]
      _ = turn (1 + b.length) (idHash a) ^^^ enter (idHash b) x := by
        rw [turn_xor, turn_turn, UInt32.xor_assoc, enter]
      _ = turn (b ++ [x]).length (idHash a) ^^^ idHash (b ++ [x]) := by
        rw [idHash_concat, List.length_append, List.length_singleton, Nat.add_comm]

/-- A function of ids that takes a single octet to itself and, wherever an id is divided, combines
what it takes the two parts to, the first one turned by an octet for each octet of the second. -/
structure Composes (f : Octets → UInt32) : Prop where
  single : ∀ b, f [b] = b.toUInt32
  append : ∀ a b, f (a ++ b) = turn (b.length % 4) (f a) ^^^ f b

theorem composes_idHash : Composes idHash where
  single b := by
    rw [idHash, List.foldl_cons, List.foldl_nil, enter]
    exact UInt32.zero_xor
  append a b := by rw [turn_mod, idHash_append]

/-- There is no other one. -/
theorem Composes.eq_idHash (h : Composes f) (id : Octets) : f id = idHash id := by
  induction id using List.reverseRecOn with
  | nil =>
    have hnil := h.append [] []
    rwa [List.append_nil, List.length_nil, Nat.zero_mod, turn_zero, UInt32.xor_self] at hnil
  | append_singleton front b ih =>
    rw [h.append, h.single, ih, idHash_concat]
    rfl

/-! ### Word by word -/

/-- An id of no more than four octets is its own hash. -/
theorem toNat_idHash_of_length_le (h : id.length ≤ 4) : (idHash id).toNat = Octets.ofBe id := by
  induction id using List.reverseRecOn with
  | nil => rfl
  | append_singleton front b ih =>
    rw [List.length_append, List.length_singleton] at h
    have hcapacity : ∀ w < 4, Octets.capacity w ≤ 0x1000000 := by decide
    have hfront : Octets.ofBe front < 0x1000000 :=
      Nat.lt_of_lt_of_le (Octets.ofBe_lt front) (hcapacity _ h)
    -- nothing has come to the high end yet
    rw [idHash_concat, toNat_enter, ih (by omega), Nat.mod_eq_of_lt hfront, Nat.div_eq_of_lt hfront,
      Nat.zero_xor, Octets.ofBe_concat]

/-- Octets that are whole words have their combination as hash. -/
theorem idHash_eq_words (h : id.length % 4 = 0) : idHash id = (words id).foldr (· ^^^ ·) 0 := by
  induction id using words.induct with
  | case1 a b c d rest ih =>
    have hrest : rest.length % 4 = 0 := by
      simp only [List.length_cons] at h
      omega
    have hvalue : (idHash [a, b, c, d]).toNat = Octets.ofBe [a, b, c, d] :=
      toNat_idHash_of_length_le (Nat.le_refl 4)
    have hword : idHash [a, b, c, d] = UInt32.ofNat (Octets.ofBe [a, b, c, d]) := by
      rw [← hvalue, UInt32.ofNat_toNat]
    change idHash ([a, b, c, d] ++ rest) = _
    rw [composes_idHash.append, hrest, turn_zero, hword, ih hrest, words, List.foldr_cons]
  | case2 id hshort =>
    match id, h, hshort with
    | [], _, _ => rfl
    | a :: b :: c :: d :: rest, _, hshort => exact absurd rfl (hshort a b c d rest)

theorem length_padded_mod (id : Octets) : (padded id).length % 4 = 0 := by
  rw [padded, List.length_append, List.length_replicate]
  omega

/-- Zeros in front make no difference. -/
theorem idHash_zeros_append (n : Nat) (id : Octets) :
    idHash (List.replicate n 0 ++ id) = idHash id := by
  induction n with
  | zero => rfl
  | succ n ih => exact ih

theorem idHash_eq_combined (id : Octets) : idHash id = combined id := by
  rw [combined, ← idHash_eq_words (length_padded_mod id), padded, idHash_zeros_append]

/-- Composing by parts comes to the same as combining the words. -/
theorem composes_iff : Composes f ↔ ∀ id, f id = combined id := by
  constructor
  · intro h id
    rw [h.eq_idHash, idHash_eq_combined]
  · intro h
    have hf : f = idHash := funext fun id => (h id).trans (idHash_eq_combined id).symm
    rw [hf]
    exact composes_idHash

/-! ### Lane by lane -/

/-- One place further from the end is one lane further on. -/
theorem filter_zipIdx_one {k j : Nat} (hkj : ∀ i, (i + 1) % 4 = k ↔ i % 4 = j) (bs : Octets) :
    ((bs.zipIdx 1).filter fun e => e.2 % 4 = k).map (·.1) =
      (bs.zipIdx.filter fun e => e.2 % 4 = j).map (·.1) := by
  rw [List.zipIdx_succ, List.filter_map, List.map_map]
  simp only [Function.comp_def, hkj]

theorem lane_zero_concat (id : Octets) (b : UInt8) : lane 0 (id ++ [b]) = b ^^^ lane 3 id := by
  have hlanes : ∀ i, (i + 1) % 4 = 0 ↔ i % 4 = 3 := by omega
  rw [lane, lane, List.reverse_concat, List.zipIdx_cons, List.filter_cons_of_pos rfl, List.map_cons,
    List.foldr_cons, filter_zipIdx_one hlanes]

theorem lane_succ_concat {k : Nat} (hk : k < 3) (id : Octets) (b : UInt8) :
    lane (k + 1) (id ++ [b]) = lane k id := by
  have hlanes : ∀ i, (i + 1) % 4 = k + 1 ↔ i % 4 = k := by omega
  rw [lane, lane, List.reverse_concat, List.zipIdx_cons, List.filter_cons_of_neg (by simp),
    filter_zipIdx_one hlanes]

/-- The octets of the hash are the lanes, the lowest one that of the last octet. -/
theorem toNat_idHash (id : Octets) :
    (idHash id).toNat = Octets.ofLe [lane 0 id, lane 1 id, lane 2 id, lane 3 id] := by
  induction id using List.reverseRecOn with
  | nil => rfl
  | append_singleton front b ih =>
    have h0 := (lane 0 front).toNat_lt
    have h1 := (lane 1 front).toNat_lt
    have h2 := (lane 2 front).toNat_lt
    simp only [Octets.ofLe] at ih
    have hhigh : (idHash front).toNat / 0x1000000 = (lane 3 front).toNat := by omega
    have hrest : (idHash front).toNat % 0x1000000 =
        (lane 0 front).toNat + 256 * ((lane 1 front).toNat + 256 * (lane 2 front).toNat) := by omega
    rw [idHash_concat, toNat_enter, hhigh, hrest, lane_zero_concat, lane_succ_concat (by decide),
      lane_succ_concat (by decide), lane_succ_concat (by decide), Nat.xor_comm, ← UInt8.toNat_xor]
    simp only [Octets.ofLe]
    omega

/-- The hash of an id, in its three forms. -/
structure Folding : Prop where
  /-- The hash of two parts combines their hashes, that of the first one turned by an octet for each
  octet of the second. -/
  append : ∀ a b, idHash (a ++ b) = turn (b.length % 4) (idHash a) ^^^ idHash b
  /-- It is the combination of the words of the id, with zeros in front. -/
  eq_combined : ∀ id, idHash id = combined id
  /-- Each of the two determines the hash, if a single octet is its own hash. -/
  composes_iff : ∀ f, Composes f ↔ ∀ id, f id = combined id
  /-- Its octets combine every fourth octet of the id each, the lowest one from the last one on. -/
  lanes : ∀ id, (idHash id).toNat = Octets.ofLe [lane 0 id, lane 1 id, lane 2 id, lane 3 id]

/-- The three forms are those of one function, and no other one has them. -/
theorem folding : Folding where
  append := composes_idHash.append
  eq_combined := idHash_eq_combined
  composes_iff _ := composes_iff
  lanes := toNat_idHash

/-- The first of five octets comes round to the last one. -/
example : idHash [0x61, 0x62, 0x63, 0x64, 0x65] = 0x62636404 ∧
    words (padded [0x61, 0x62, 0x63, 0x64, 0x65]) = [0x00000061, 0x62636465] := by
  decide

end ActorMesh.IdHash
