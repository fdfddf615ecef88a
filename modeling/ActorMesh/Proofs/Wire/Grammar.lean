import ActorMesh.Link.Role
import ActorMesh.Proofs.Wire.Counted

/-!
# The grammar of a link

A frame of a link carries one of eleven kinds of packages, and its mark says which one to expect.
Octets are read as a package of a kind exactly if they begin with that package as written
(`LinkPackage.grammar`). So a package has one written form, no written form is the beginning of
another one of the same kind, and all that a reader passes over is what follows a package.

Every length travels in eight octets. Octet strings and texts of 2⁶⁴ octets and more have no written
form; no memory holds one, and `LinkPackage.fits_of_length` says that nothing else is left out.
-/

namespace ActorMesh

/-- Octets that can be counted decode to a value exactly if they begin with its written form. -/
theorem Layout.decode_eq_ok_iff_begins {α : Type} {l : Layout α} (hl : l.Lawful) (hc : l.Counted)
    {bs : Octets} {a : α} (hbs : bs.length < Octets.capacity 8) :
    l.decode bs = .ok a ↔ l.write a <+: bs := by
  rw [decode_eq_ok_iff hl]
  constructor
  · intro h
    exact h.2
  · intro h
    exact ⟨hc a (Nat.lt_of_le_of_lt h.length_le hbs), h⟩

/-- What a frame of a link carries. -/
inductive LinkPackage where
  /-- The number of a member that registers. -/
  | registerRequest (member : SystemId)
  /-- What a registration came to. -/
  | registerResponse (code : ErrorCode)
  /-- Actor traffic. -/
  | parcel (p : Package)
  deriving DecidableEq, Repr

namespace LinkPackage

/-- The kind of a package. -/
def kind : LinkPackage → PackageKind
  | registerRequest _ => .registerRequest
  | registerResponse _ => .registerResponse
  | parcel p => .parcel p.kind

/-- The octets of a package. -/
def write : LinkPackage → Octets
  | registerRequest s => (Registration.request s).payload
  | registerResponse code => (Registration.response code).payload
  | parcel p => p.write

/-- The package of a kind that octets begin with. -/
def decode (k : PackageKind) (bs : Octets) : Except WireFault LinkPackage :=
  match k with
  | .registerRequest => (SystemId.layout.decode bs).map registerRequest
  | .registerResponse => (ErrorCode.layout.decode bs).map registerResponse
  | .parcel k => (Package.decode k bs).map parcel

/-- Whether the lengths in a package can be written down. -/
def Fits : LinkPackage → Prop
  | registerRequest s => SystemId.layout.fits s
  | registerResponse code => ErrorCode.layout.fits code
  | parcel p => p.Fits

variable {k : PackageKind} {bs : Octets} {p q : LinkPackage}

/-- A package whose octets can be counted fits. -/
theorem fits_of_length (h : p.write.length < Octets.capacity 8) : p.Fits := by
  cases p with
  | registerRequest | registerResponse => trivial
  | parcel p => exact Package.fits_of_length h

/-- Octets decode to a package of a kind exactly if they begin with the package as written. -/
theorem decode_eq_ok_iff : decode k bs = .ok p ↔ p.kind = k ∧ p.Fits ∧ p.write <+: bs := by
  constructor
  · intro h
    cases k with
    | registerRequest =>
      obtain ⟨s, hs, rfl⟩ := Package.map_eq_ok_iff.1 h
      exact ⟨rfl, (Layout.decode_eq_ok_iff SystemId.layout_lawful).1 hs⟩
    | registerResponse =>
      obtain ⟨code, hcode, rfl⟩ := Package.map_eq_ok_iff.1 h
      exact ⟨rfl, (Layout.decode_eq_ok_iff ErrorCode.layout_lawful).1 hcode⟩
    | parcel k =>
      obtain ⟨p', hp', rfl⟩ := Package.map_eq_ok_iff.1 h
      obtain ⟨hkind, hwritten⟩ := Package.decode_eq_ok_iff.1 hp'
      exact ⟨congrArg PackageKind.parcel hkind, hwritten⟩
  · rintro ⟨rfl, h⟩
    cases p with
    | registerRequest s =>
      exact Package.map_eq_ok_iff.2
        ⟨s, (Layout.decode_eq_ok_iff SystemId.layout_lawful).2 h, rfl⟩
    | registerResponse code =>
      exact Package.map_eq_ok_iff.2
        ⟨code, (Layout.decode_eq_ok_iff ErrorCode.layout_lawful).2 h, rfl⟩
    | parcel p =>
      exact Package.map_eq_ok_iff.2 ⟨p, Package.decode_eq_ok_iff.2 ⟨rfl, h⟩, rfl⟩

/-- Octets that can be counted decode to a package of a kind exactly if they begin with it. -/
theorem decode_eq_ok_iff_begins (hbs : bs.length < Octets.capacity 8) :
    decode k bs = .ok p ↔ p.kind = k ∧ p.write <+: bs := by
  rw [decode_eq_ok_iff]
  constructor
  · rintro ⟨hkind, -, h⟩
    exact ⟨hkind, h⟩
  · rintro ⟨hkind, h⟩
    exact ⟨hkind, fits_of_length (Nat.lt_of_le_of_lt h.length_le hbs), h⟩

/-- A written package reads back. -/
theorem decode_written (h : p.write.length < Octets.capacity 8) :
    decode p.kind p.write = .ok p :=
  (decode_eq_ok_iff_begins h).2 ⟨rfl, List.prefix_rfl⟩

/-- Of two packages of one kind, neither is written as the beginning of the other. -/
theorem eq_of_begins (hq : q.write.length < Octets.capacity 8) (hkind : p.kind = q.kind)
    (h : p.write <+: q.write) : p = q := by
  have hread : decode q.kind q.write = .ok p := (decode_eq_ok_iff_begins hq).2 ⟨hkind, h⟩
  rw [decode_written hq] at hread
  exact (Except.ok.inj hread).symm

/-- A package that is cut off anywhere does not read. -/
theorem exists_decode_eq_error (hp : p.write.length < Octets.capacity 8) (h : bs <+: p.write)
    (hne : bs ≠ p.write) : ∃ fault, decode p.kind bs = .error fault := by
  cases hread : decode p.kind bs with
  | error fault => exact ⟨fault, rfl⟩
  | ok q =>
    obtain ⟨hkind, -, hq⟩ := decode_eq_ok_iff.1 hread
    -- what reads off a part reads off the whole, so it is the package itself
    have heq := eq_of_begins hp hkind (hq.trans h)
    subst heq
    exact absurd (h.eq_of_length_le hq.length_le) hne

/-- What follows a package that reads does not count. -/
theorem decode_append (h : decode k bs = .ok p) (rest : Octets) :
    decode k (bs ++ rest) = .ok p := by
  obtain ⟨hkind, hfits, hbs⟩ := decode_eq_ok_iff.1 h
  exact decode_eq_ok_iff.2 ⟨hkind, hfits, hbs.trans (List.prefix_append bs rest)⟩

/-- What the reader of a link accepts, for octets that can be counted. -/
structure Grammar : Prop where
  /-- Octets read as a package exactly if they begin with it. -/
  accepts : ∀ k (bs : Octets) p, bs.length < Octets.capacity 8 →
    (decode k bs = .ok p ↔ p.kind = k ∧ p.write <+: bs)
  /-- The same holds of the addresses in a package. -/
  address : ∀ (bs : Octets) r, bs.length < Octets.capacity 8 →
    (ActorRef.layout.decode bs = .ok r ↔ ActorRef.layout.write r <+: bs)
  /-- It holds of the messages in a package. -/
  message : ∀ (bs : Octets) m, bs.length < Octets.capacity 8 →
    (WireMessage.layout.decode bs = .ok m ↔ WireMessage.layout.write m <+: bs)
  /-- It holds of the response in a package. -/
  response : ∀ (bs : Octets) r, bs.length < Octets.capacity 8 →
    (WireResponse.layout.decode bs = .ok r ↔ WireResponse.layout.write r <+: bs)
  /-- Packages of one kind that are written alike are the same. -/
  injective : ∀ p q : LinkPackage, p.write.length < Octets.capacity 8 → p.kind = q.kind →
    p.write = q.write → p = q
  /-- No package is written as the beginning of another one of its kind. -/
  prefixFree : ∀ p q : LinkPackage, q.write.length < Octets.capacity 8 → p.kind = q.kind →
    p.write <+: q.write → p = q
  /-- Frames that carry the same octets under the same mark carry the same package. -/
  frame_injective : ∀ p q : LinkPackage, p.write.length < Octets.capacity 8 →
    (⟨p.kind.byte, p.write⟩ : Frame) = ⟨q.kind.byte, q.write⟩ → p = q
  /-- A package that is cut off anywhere is refused. -/
  cut : ∀ (p : LinkPackage) (bs : Octets), p.write.length < Octets.capacity 8 → bs <+: p.write →
    bs ≠ p.write → ∃ fault, decode p.kind bs = .error fault
  /-- Whatever follows a package is passed over, and nothing else is. -/
  slack : ∀ k (bs : Octets) p, decode k bs = .ok p →
    (∃ rest, bs = p.write ++ rest) ∧ ∀ rest, decode k (p.write ++ rest) = .ok p

/-- The packages of a link have a grammar in which every package has one written form. -/
theorem grammar : Grammar where
  accepts _ _ _ h := decode_eq_ok_iff_begins h
  address _ _ h :=
    Layout.decode_eq_ok_iff_begins ActorRef.layout_lawful ActorRef.layout_counted h
  message _ _ h :=
    Layout.decode_eq_ok_iff_begins WireMessage.layout_lawful WireMessage.layout_counted h
  response _ _ h :=
    Layout.decode_eq_ok_iff_begins WireResponse.layout_lawful WireResponse.layout_counted h
  injective p q hp hkind h := eq_of_begins (h ▸ hp) hkind (h ▸ List.prefix_rfl)
  prefixFree _ _ hq hkind h := eq_of_begins hq hkind h
  frame_injective p q hp h := by
    obtain ⟨hmark, hwrite⟩ := Frame.mk.inj h
    have hkind : p.kind = q.kind := by
      have hread := PackageKind.ofByte?_byte p.kind
      rw [hmark, PackageKind.ofByte?_byte] at hread
      exact (Option.some.inj hread).symm
    exact eq_of_begins (hwrite ▸ hp) hkind (hwrite ▸ List.prefix_rfl)
  cut _ _ hp h hne := exists_decode_eq_error hp h hne
  slack k bs p h := by
    obtain ⟨hkind, hfits, rest, rfl⟩ := decode_eq_ok_iff.1 h
    refine ⟨⟨rest, rfl⟩, fun rest' => decode_append ?_ rest'⟩
    exact decode_eq_ok_iff.2 ⟨hkind, hfits, List.prefix_rfl⟩

/-- The refusal of a registration takes four octets; one of them alone is none. -/
example : (registerResponse .duplicateRegistration).write = [4, 0, 0, 0] ∧
    decode .registerResponse [4, 0, 0, 0] = .ok (registerResponse .duplicateRegistration) ∧
    decode .registerResponse [1] = .error .endOfInput :=
  ⟨rfl, rfl, rfl⟩

end LinkPackage

end ActorMesh
