import ActorMesh.Text.Utf8

/-!
# Layouts

A **layout** is the fixed binary form of a type of values: how a value is written and how it is read
off the front of octets, with what is left over.

* Numbers take a fixed count of octets, least significant first; signed ones are written as the
  unsigned number with the same bits.
* A truth value and the presence of an optional value take one octet, 0 or 1.
* Texts, octet strings and lists are preceded by their length in eight octets; the length of a text
  counts octets.
* A record is its fields one after another.

A length has to be below 2⁶⁴, so each layout says which values it `fits`; all others fit.

Every layout below is **lawful** (`Layout.Lawful`): reading a written value that fits gives it back
and leaves what followed, and whatever reads as a value begins with that value as written. The
second half says that a value has one written form only; `decode_eq_ok_iff` joins the two.
-/

namespace ActorMesh

/-- Why octets hold no value of a layout. -/
inductive WireFault
  /-- A number, a truth value, a tag or a length runs past the end. -/
  | endOfInput
  /-- The announced length of a text is more than what is left. -/
  | textBeyondEnd
  /-- Neither 0 nor 1 where a truth value stands. -/
  | badTruth (octet : UInt8)
  /-- Neither 0 nor 1 where the presence of a value is told. -/
  | badTag (octet : UInt8)
  /-- The index names none of the `count` alternatives. -/
  | badAlternative (index : UInt32) (count : Nat)
  /-- The octets of a text are no text. -/
  | badText (fault : Text.Utf8.Fault)
  deriving DecidableEq, Repr

/-- The wording of a fault. -/
def WireFault.message : WireFault → String
  | .endOfInput => "io error: unexpected end of file"
  | .textBeyondEnd => "io error: "
  | .badTruth b =>
    "invalid u8 while decoding bool, expected 0 or 1, found " ++ toString b.toNat
  | .badTag b => "tag for enum is not valid, found " ++ toString b.toNat
  | .badAlternative index count =>
    "invalid value: integer `" ++ toString index.toNat ++ "`, expected variant index 0 <= i < " ++
      toString count
  | .badText fault => "string is not valid utf8: " ++ fault.message

/-- The binary form of a type. -/
structure Layout (α : Type) where
  /-- The octets of a value. -/
  write : α → Octets
  /-- Reads a value off the front; the octets behind it are handed back. -/
  read : Octets → Except WireFault (α × Octets)
  /-- The values whose lengths can be written down. -/
  fits : α → Prop := fun _ => True

namespace Layout

variable {α β : Type}

/-- Writing and reading undo each other. -/
structure Lawful (l : Layout α) : Prop where
  /-- A written value reads back, whatever follows. -/
  read_write : ∀ a rest, l.fits a → l.read (l.write a ++ rest) = .ok (a, rest)
  /-- What reads as a value starts with the value as written. -/
  write_read : ∀ {bs a rest}, l.read bs = .ok (a, rest) → l.fits a ∧ bs = l.write a ++ rest

/-- The value at the front of octets; what follows it does not count. -/
def decode (l : Layout α) (bs : Octets) : Except WireFault α :=
  match l.read bs with
  | .ok (a, _) => .ok a
  | .error e => .error e

/-- Octets decode to a value exactly if they begin with its written form. -/
theorem decode_eq_ok_iff {l : Layout α} (hl : l.Lawful) {bs : Octets} {a : α} :
    l.decode bs = .ok a ↔ l.fits a ∧ l.write a <+: bs := by
  constructor
  · intro h
    simp only [decode] at h
    split at h
    · rename_i rest hr
      cases h
      obtain ⟨hf, rfl⟩ := hl.write_read hr
      exact ⟨hf, rest, rfl⟩
    · cases h
  · rintro ⟨hf, rest, rfl⟩
    simp [decode, hl.read_write a rest hf]

/-! ### Cutting off octets -/

/-- The first `n` octets and the rest. -/
def cut (n : Nat) (bs : Octets) : Except WireFault (Octets × Octets) :=
  let front := bs.take n
  if front.length = n then .ok (front, bs.drop n) else .error .endOfInput

theorem cut_append {n : Nat} {front rest : Octets} (h : front.length = n) :
    cut n (front ++ rest) = .ok (front, rest) := by
  subst h
  simp [cut]

theorem cut_eq_ok {n : Nat} {bs front rest : Octets} (h : cut n bs = .ok (front, rest)) :
    bs = front ++ rest ∧ front.length = n := by
  unfold cut at h
  simp only at h
  split at h
  · rename_i hlen
    cases h
    exact ⟨(List.take_append_drop n bs).symm, hlen⟩
  · cases h

/-! ### Numbers -/

/-- A type of numbers that take `w` octets, given by its value and the number of a value. -/
def number (w : Nat) (value : α → Nat) (ofValue : Nat → α) : Layout α where
  write a := Octets.le w (value a)
  read bs :=
    match cut w bs with
    | .ok (front, rest) => .ok (ofValue (Octets.ofLe front), rest)
    | .error e => .error e

theorem number_lawful {w : Nat} {value : α → Nat} {ofValue : Nat → α}
    (hval : ∀ a, value a < Octets.capacity w) (hof : ∀ a, ofValue (value a) = a)
    (hto : ∀ n, n < Octets.capacity w → value (ofValue n) = n) :
    (number w value ofValue).Lawful where
  read_write a rest _ := by
    simp [number, cut_append (Octets.length_le w (value a)), Octets.ofLe_le,
      Nat.mod_eq_of_lt (hval a), hof]
  write_read {bs a rest} h := by
    refine ⟨trivial, ?_⟩
    simp only [number] at h ⊢
    split at h
    · rename_i front rest' hcut
      obtain ⟨rfl, hlen⟩ := cut_eq_ok hcut
      cases h
      have hlt := Octets.ofLe_lt front
      rw [hlen] at hlt
      rw [hto _ hlt, ← hlen, Octets.le_ofLe]
    · cases h

/-- One octet. -/
def word8 : Layout UInt8 := number 1 UInt8.toNat UInt8.ofNat
/-- Two octets. -/
def word16 : Layout UInt16 := number 2 UInt16.toNat UInt16.ofNat
/-- Four octets. -/
def word32 : Layout UInt32 := number 4 UInt32.toNat UInt32.ofNat
/-- Eight octets. -/
def word64 : Layout UInt64 := number 8 UInt64.toNat UInt64.ofNat

theorem word8_lawful : word8.Lawful :=
  number_lawful UInt8.toNat_lt (fun _ => UInt8.ofNat_toNat)
    (fun _ => UInt8.toNat_ofNat_of_lt')
theorem word16_lawful : word16.Lawful :=
  number_lawful UInt16.toNat_lt (fun _ => UInt16.ofNat_toNat)
    (fun _ => UInt16.toNat_ofNat_of_lt')
theorem word32_lawful : word32.Lawful :=
  number_lawful UInt32.toNat_lt (fun _ => UInt32.ofNat_toNat)
    (fun _ => UInt32.toNat_ofNat_of_lt')
theorem word64_lawful : word64.Lawful :=
  number_lawful UInt64.toNat_lt (fun _ => UInt64.ofNat_toNat)
    (fun _ => UInt64.toNat_ofNat_of_lt')

/-! ### Other values of one octet -/

/-- A truth value. -/
def truth : Layout Bool where
  write b := [if b then 1 else 0]
  read
    | [] => .error .endOfInput
    | b :: rest => if b = 0 then .ok (false, rest) else if b = 1 then .ok (true, rest)
      else .error (.badTruth b)

theorem truth_lawful : truth.Lawful where
  read_write a rest _ := by cases a <;> rfl
  write_read {bs a rest} h := by
    refine ⟨trivial, ?_⟩
    cases bs with
    | nil => cases h
    | cons b bs =>
      simp only [truth] at h ⊢
      split at h
      · cases h; simp_all
      · split at h
        · cases h; simp_all
        · cases h

/-! ### Composite values -/

/-- Two values, one after the other. -/
def both (l : Layout α) (r : Layout β) : Layout (α × β) where
  write p := l.write p.1 ++ r.write p.2
  read bs :=
    match l.read bs with
    | .ok (a, bs') =>
      match r.read bs' with
      | .ok (b, rest) => .ok ((a, b), rest)
      | .error e => .error e
    | .error e => .error e
  fits p := l.fits p.1 ∧ r.fits p.2

theorem both_lawful {l : Layout α} {r : Layout β} (hl : l.Lawful) (hr : r.Lawful) :
    (both l r).Lawful where
  read_write p rest hf := by
    simp [both, hl.read_write _ _ hf.1, hr.read_write _ _ hf.2]
  write_read {bs p rest} h := by
    simp only [both] at h ⊢
    split at h
    · rename_i a bs' ha
      split at h
      · rename_i b rest' hb
        cases h
        obtain ⟨hfa, rfl⟩ := hl.write_read ha
        obtain ⟨hfb, rfl⟩ := hr.write_read hb
        exact ⟨⟨hfa, hfb⟩, by rw [List.append_assoc]⟩
      · cases h
    · cases h

/-- The same octets under another name of the value. -/
def via (l : Layout α) (of : α → β) (back : β → α) : Layout β where
  write b := l.write (back b)
  read bs :=
    match l.read bs with
    | .ok (a, rest) => .ok (of a, rest)
    | .error e => .error e
  fits b := l.fits (back b)

theorem via_lawful {l : Layout α} {of : α → β} {back : β → α} (hl : l.Lawful)
    (hof : ∀ b, of (back b) = b) (hto : ∀ a, back (of a) = a) : (l.via of back).Lawful where
  read_write b rest hf := by simp [via, hl.read_write _ _ hf, hof]
  write_read {bs b rest} h := by
    simp only [via] at h ⊢
    split at h
    · rename_i a rest' ha
      cases h
      rw [hto]
      exact hl.write_read ha
    · cases h

/-- Two octets read as a signed number. -/
def int16 : Layout Int16 := word16.via Int16.ofUInt16 Int16.toUInt16
/-- Four octets read as a signed number. -/
def int32 : Layout Int32 := word32.via Int32.ofUInt32 Int32.toUInt32
/-- Eight octets read as a signed number. -/
def int64 : Layout Int64 := word64.via Int64.ofUInt64 Int64.toUInt64

theorem int16_lawful : int16.Lawful := via_lawful word16_lawful (fun _ => rfl) (fun _ => rfl)
theorem int32_lawful : int32.Lawful := via_lawful word32_lawful (fun _ => rfl) (fun _ => rfl)
theorem int64_lawful : int64.Lawful := via_lawful word64_lawful (fun _ => rfl) (fun _ => rfl)

/-- A value that may be missing. -/
def optional (l : Layout α) : Layout (Option α) where
  write
    | none => [0]
    | some a => 1 :: l.write a
  read
    | [] => .error .endOfInput
    | b :: rest =>
      if b = 0 then .ok (none, rest)
      else if b = 1 then
        match l.read rest with
        | .ok (a, rest') => .ok (some a, rest')
        | .error e => .error e
      else .error (.badTag b)
  fits
    | none => True
    | some a => l.fits a

theorem optional_lawful {l : Layout α} (hl : l.Lawful) : (optional l).Lawful where
  read_write a rest hf := by
    cases a with
    | none => rfl
    | some a => simp [optional, hl.read_write a rest hf]
  write_read {bs a rest} h := by
    cases bs with
    | nil => cases h
    | cons b bs =>
      simp only [optional] at h ⊢
      split at h
      · cases h; simp_all
      · split at h
        · split at h
          · rename_i ha
            cases h
            obtain ⟨hf, rfl⟩ := hl.write_read ha
            exact ⟨hf, by simp_all⟩
          · cases h
        · cases h

/-! ### Values behind a length -/

/-- A length in front of what it counts. -/
def length : Layout Nat where
  write n := Octets.le 8 n
  read bs :=
    match cut 8 bs with
    | .ok (front, rest) => .ok (Octets.ofLe front, rest)
    | .error e => .error e
  fits n := n < Octets.capacity 8

theorem length_lawful : length.Lawful where
  read_write n rest hf := by
    have hback : Octets.ofLe (Octets.le 8 n) = n := by rw [Octets.ofLe_le, Nat.mod_eq_of_lt hf]
    simp [length, cut_append (Octets.length_le 8 n), hback]
  write_read {bs n rest} h := by
    simp only [length] at h ⊢
    split at h
    · rename_i front rest' hcut
      obtain ⟨rfl, hlen⟩ := cut_eq_ok hcut
      cases h
      have hlt := Octets.ofLe_lt front
      rw [hlen] at hlt
      exact ⟨hlt, by rw [← hlen, Octets.le_ofLe]⟩
    · cases h

/-- Octets behind their count. -/
def octets : Layout Octets where
  write bs := length.write bs.length ++ bs
  read bs :=
    match length.read bs with
    | .ok (n, rest) => cut n rest
    | .error e => .error e
  fits bs := bs.length < Octets.capacity 8

theorem octets_lawful : octets.Lawful where
  read_write bs rest hf := by
    simp [octets, length_lawful.read_write _ _ hf, cut_append]
  write_read {bs a rest} h := by
    simp only [octets] at h ⊢
    split at h
    · rename_i n rest' hn
      obtain ⟨hf, rfl⟩ := length_lawful.write_read hn
      obtain ⟨rfl, hlen⟩ := cut_eq_ok h
      subst hlen
      exact ⟨hf, by rw [List.append_assoc]⟩
    · cases h

/-- A text behind the count of its octets. -/
def text : Layout String where
  write s := length.write (Octets.ofText s).length ++ Octets.ofText s
  read bs :=
    match length.read bs with
    | .ok (n, rest) =>
      match cut n rest with
      | .ok (front, rest') =>
        match Text.Utf8.decode front with
        | .ok s => .ok (s, rest')
        | .error fault => .error (.badText fault)
      | .error _ => .error .textBeyondEnd
    | .error e => .error e
  fits s := (Octets.ofText s).length < Octets.capacity 8

theorem text_lawful : text.Lawful where
  read_write s rest hf := by
    simp [text, length_lawful.read_write _ _ hf, cut_append]
  write_read {bs s rest} h := by
    simp only [text] at h ⊢
    split at h
    · rename_i n rest' hn
      obtain ⟨hf, rfl⟩ := length_lawful.write_read hn
      split at h
      · rename_i front rest'' hcut
        obtain ⟨rfl, hlen⟩ := cut_eq_ok hcut
        split at h
        · rename_i s' hs
          cases h
          have := Text.Utf8.decode_eq_ok_iff.1 hs
          subst this
          subst hlen
          exact ⟨hf, by rw [List.append_assoc]⟩
        · cases h
      · cases h
    · cases h

/-- Reads as many values as asked for, after those that are done, last ones first. -/
def readOnto (l : Layout α) (done : List α) : Nat → Octets → Except WireFault (List α × Octets)
  | 0, bs => .ok (done.reverse, bs)
  | n + 1, bs =>
    match l.read bs with
    | .ok (a, bs') => readOnto l (a :: done) n bs'
    | .error e => .error e

theorem readOnto_write {l : Layout α} (hl : l.Lawful) (done as : List α) (rest : Octets)
    (hf : ∀ a ∈ as, l.fits a) :
    readOnto l done as.length ((as.map l.write).flatten ++ rest) =
      .ok (done.reverse ++ as, rest) := by
  induction as generalizing done with
  | nil => simp [readOnto]
  | cons a as ih =>
    have ha := hl.read_write a ((as.map l.write).flatten ++ rest) (hf a (by simp))
    simp [readOnto, List.append_assoc, ha, ih (a :: done) fun b hb => hf b (by simp [hb])]

theorem write_readOnto {l : Layout α} (hl : l.Lawful) {n : Nat} {bs : Octets} {done all : List α}
    {rest : Octets} (h : readOnto l done n bs = .ok (all, rest)) :
    ∃ as, all = done.reverse ++ as ∧ as.length = n ∧ (∀ a ∈ as, l.fits a) ∧
      bs = (as.map l.write).flatten ++ rest := by
  induction n generalizing bs done with
  | zero => cases h; exact ⟨[], by simp⟩
  | succ n ih =>
    simp only [readOnto] at h
    split at h
    · rename_i a bs' ha
      obtain ⟨as, rfl, hlen, hfs, rfl⟩ := ih h
      obtain ⟨hfa, rfl⟩ := hl.write_read ha
      refine ⟨a :: as, by simp, by simp [hlen], ?_, by simp [List.append_assoc]⟩
      intro b hb
      rcases List.mem_cons.1 hb with rfl | hb
      · exact hfa
      · exact hfs b hb
    · cases h

/-- Reads as many values as asked for. -/
def readMany (l : Layout α) (n : Nat) (bs : Octets) : Except WireFault (List α × Octets) :=
  readOnto l [] n bs

theorem readMany_write {l : Layout α} (hl : l.Lawful) (as : List α) (rest : Octets)
    (hf : ∀ a ∈ as, l.fits a) :
    readMany l as.length ((as.map l.write).flatten ++ rest) = .ok (as, rest) :=
  readOnto_write hl [] as rest hf

theorem write_readMany {l : Layout α} (hl : l.Lawful) {n : Nat} {bs : Octets} {as : List α}
    {rest : Octets} (h : readMany l n bs = .ok (as, rest)) :
    as.length = n ∧ (∀ a ∈ as, l.fits a) ∧ bs = (as.map l.write).flatten ++ rest := by
  obtain ⟨as', rfl, h⟩ := write_readOnto hl h
  exact h

/-- Values behind their count. -/
def list (l : Layout α) : Layout (List α) where
  write as := length.write as.length ++ (as.map l.write).flatten
  read bs :=
    match length.read bs with
    | .ok (n, rest) => readMany l n rest
    | .error e => .error e
  fits as := as.length < Octets.capacity 8 ∧ ∀ a ∈ as, l.fits a

theorem list_lawful {l : Layout α} (hl : l.Lawful) : (list l).Lawful where
  read_write as rest hf := by
    simp [list, List.append_assoc, length_lawful.read_write _ _ hf.1,
      readMany_write hl as rest hf.2]
  write_read {bs as rest} h := by
    simp only [list] at h ⊢
    split at h
    · rename_i n rest' hn
      obtain ⟨hf, rfl⟩ := length_lawful.write_read hn
      obtain ⟨rfl, hfs, rfl⟩ := write_readMany hl h
      exact ⟨⟨hf, hfs⟩, by rw [List.append_assoc]⟩
    · cases h

end Layout

end ActorMesh
