import ActorMesh.Frame

/-!
# Splitting a stream into frames

What has arrived of a stream is a run of complete frames and what is left of the next one. Octets
that arrive later never change how those before them are split (`split_append`), and a stream that
was written frame by frame splits into these frames (`split_written`), however much of the last one
has arrived.
-/

namespace ActorMesh.Frame

variable {limit : Nat}

/-! ### What is written under a limit -/

/-- A frame is written under a limit if its length is within that, and within four octets. -/
theorem encode_eq_ok_iff {f : Frame} {bs : Octets} :
    f.encode limit = .ok bs ↔
      f.payload.length ≤ limit ∧ f.payload.length < Octets.capacity lengthWidth ∧ bs = f.write := by
  unfold encode
  split
  · rename_i h
    simp only [reduceCtorEq, false_iff]
    omega
  · rename_i h
    simp only [Except.ok.injEq]
    constructor
    · intro hbs
      exact ⟨by omega, by omega, hbs.symm⟩
    · rintro ⟨-, -, rfl⟩
      rfl

/-- Whether a frame may be written under a limit. -/
def Fits (limit : Nat) (f : Frame) : Prop := f.encode limit = .ok f.write

/-- The octets of frames, one after another. -/
def writeAll (fs : List Frame) : Octets := (fs.map write).flatten

@[simp] theorem writeAll_nil : writeAll [] = [] := rfl

@[simp] theorem writeAll_cons (f : Frame) (fs : List Frame) :
    writeAll (f :: fs) = f.write ++ writeAll fs := rfl

@[simp] theorem writeAll_append (fs gs : List Frame) :
    writeAll (fs ++ gs) = writeAll fs ++ writeAll gs := by
  simp [writeAll]

/-- A frame is written as the four octets of its length, its mark and its payload. -/
theorem exists_write_eq {f : Frame} (h : f.Fits limit) :
    ∃ a b c d, f.write = a :: b :: c :: d :: f.mark :: f.payload ∧
      Octets.ofBe [a, b, c, d] = f.payload.length ∧ f.payload.length ≤ limit := by
  obtain ⟨hlimit, hcap, -⟩ := encode_eq_ok_iff.1 h
  have hlen : (Octets.be lengthWidth f.payload.length).length = 4 := Octets.length_be _ _
  have hval : Octets.ofBe (Octets.be lengthWidth f.payload.length) = f.payload.length := by
    rw [Octets.ofBe_be, Nat.mod_eq_of_lt hcap]
  unfold write
  match hb : Octets.be lengthWidth f.payload.length, hlen, hval with
  | [a, b, c, d], _, hval => exact ⟨a, b, c, d, rfl, hval, hlimit⟩

/-- A frame is told by its octets. -/
theorem write_inj {f g : Frame} (h : f.write = g.write) : f = g := by
  obtain ⟨mark, payload⟩ := f
  obtain ⟨mark', payload'⟩ := g
  have htail := (List.append_inj h (by simp)).2
  cases htail
  rfl

theorem write_ne_nil (f : Frame) : f.write ≠ [] := by
  simp [write]

/-! ### Taking one frame off -/

/-- A frame that is complete is taken off as well when more follows. -/
theorem decode_append_some {bs rest : Octets} {f : Frame}
    (h : decode limit bs = .ok (some (f, rest))) (more : Octets) :
    decode limit (bs ++ more) = .ok (some (f, rest ++ more)) := by
  unfold decode at h
  split at h
  · rename_i a b c d mark tail
    simp only [List.cons_append]
    simp only [decode] at h ⊢
    split at h
    · cases h
    · rename_i hlimit
      split at h
      · cases h
      · rename_i hfull
        cases h
        rw [if_neg hlimit]
        -- the payload is complete, so nothing of it is taken from what follows
        have hle : Octets.ofBe [a, b, c, d] ≤ tail.length := by
          rw [List.length_take] at hfull
          omega
        rw [List.take_append_of_le_length hle, List.drop_append_of_le_length hle, if_neg hfull]
  · cases h

/-- A header that announces too much stays one, whatever follows. -/
theorem decode_append_error {bs : Octets} {e : LinkError} (h : decode limit bs = .error e)
    (more : Octets) : decode limit (bs ++ more) = .error e := by
  unfold decode at h
  split at h
  · rename_i a b c d mark tail
    simp only [List.cons_append]
    simp only [decode] at h ⊢
    split at h
    · rename_i hlimit
      rw [if_pos hlimit]
      exact h
    · split at h <;> cases h
  · cases h

/-- What has arrived of a frame is the whole frame, or no frame can be taken off yet. -/
theorem decode_of_prefix {f : Frame} (h : f.Fits limit) {bs : Octets} (hp : bs <+: f.write)
    (hne : bs ≠ f.write) : decode limit bs = .ok none := by
  obtain ⟨a, b, c, d, hw, hval, hlimit⟩ := exists_write_eq h
  obtain ⟨missing, hmissing⟩ := hp
  unfold decode
  split
  · rename_i a' b' c' d' mark tail
    rw [hw] at hmissing
    simp only [List.cons_append, List.cons.injEq] at hmissing
    obtain ⟨rfl, rfl, rfl, rfl, rfl, htail⟩ := hmissing
    have hshort : tail.length < f.payload.length := by
      have hlen := congrArg List.length htail
      rw [List.length_append] at hlen
      rcases missing with _ | ⟨x, missing⟩
      · rw [List.append_nil] at htail
        exact absurd (by rw [hw, htail]) hne
      · rw [List.length_cons] at hlen
        omega
    rw [hval]
    simp only
    rw [if_neg (Nat.not_lt.2 hlimit), if_pos]
    rw [List.length_take]
    omega
  · rfl

/-- Only a header can be at fault. -/
theorem length_of_decode_error {bs : Octets} {e : LinkError} (h : decode limit bs = .error e) :
    headerSize ≤ bs.length := by
  unfold decode at h
  split at h
  · simp [headerSize, lengthWidth]
  · cases h

/-- A header that announces more than the limit is no frame. -/
theorem decode_of_tooLarge {a b c d : UInt8} (h : limit < Octets.ofBe [a, b, c, d]) (mark : UInt8)
    (more : Octets) : decode limit (a :: b :: c :: d :: mark :: more) =
      .error (.frameTooLarge (Octets.ofBe [a, b, c, d]) limit) := by
  simp only [decode]
  rw [if_pos h]

/-- Of what has arrived of a single frame, nothing but the whole frame is taken off. -/
theorem eq_of_decode_prefix {f g : Frame} (hcap : f.payload.length < Octets.capacity lengthWidth)
    {bs rest : Octets} (hp : bs <+: f.write) (h : decode limit bs = .ok (some (g, rest))) :
    bs = f.write ∧ g = f ∧ rest = [] := by
  obtain ⟨missing, hmissing⟩ := hp
  have hall := decode_append_some h missing
  rw [hmissing] at hall
  -- the header is complete, so the frame fits
  have hfits : f.Fits limit := by
    obtain ⟨a, b, c, d, hw, hval, -⟩ :=
      exists_write_eq (encode_eq_ok_iff.2 ⟨Nat.le_refl _, hcap, rfl⟩ : f.Fits f.payload.length)
    refine encode_eq_ok_iff.2 ⟨Nat.le_of_not_lt fun hlt => ?_, hcap, rfl⟩
    rw [hw, decode_of_tooLarge (hval ▸ hlt)] at hall
    cases hall
  have hwhole := decode_encode hfits []
  rw [List.append_nil, hall] at hwhole
  obtain ⟨rfl, hrest⟩ : g = f ∧ rest ++ missing = [] := by simpa using hwhole
  obtain ⟨rfl, rfl⟩ := List.append_eq_nil_iff.1 hrest
  exact ⟨by rw [← hmissing, List.append_nil], rfl, rfl⟩

/-! ### Taking all frames off -/

/-- A buffer is at fault, waits for more, or begins with a frame and holds the rest behind it. -/
@[elab_as_elim]
theorem decode_induction {motive : Octets → Prop} (limit : Nat)
    (fault : ∀ bs e, decode limit bs = .error e → motive bs)
    (waits : ∀ bs, decode limit bs = .ok none → motive bs)
    (frame : ∀ bs f rest, decode limit bs = .ok (some (f, rest)) → motive rest → motive bs)
    (bs : Octets) : motive bs := by
  induction bs using split.induct limit with
  | case1 bs e hd => exact fault bs e hd
  | case2 bs hd => exact waits bs hd
  | case3 bs f rest hd _ ih => exact frame bs f rest hd ih

theorem split_of_error {bs : Octets} {e : LinkError} (h : decode limit bs = .error e) :
    split limit bs = ⟨[], bs, some e⟩ := by
  rw [split]
  split
  · rename_i h'
    cases h.symm.trans h'
    rfl
  · rename_i h'
    cases h.symm.trans h'
  · rename_i h'
    cases h.symm.trans h'

theorem split_of_none {bs : Octets} (h : decode limit bs = .ok none) :
    split limit bs = ⟨[], bs, none⟩ := by
  rw [split]
  split
  · rename_i h'
    cases h.symm.trans h'
  · rfl
  · rename_i h'
    cases h.symm.trans h'

theorem split_of_some {bs rest : Octets} {f : Frame} (h : decode limit bs = .ok (some (f, rest))) :
    split limit bs =
      ⟨f :: (split limit rest).frames, (split limit rest).rest, (split limit rest).fault⟩ := by
  conv => lhs; rw [split]
  split
  · rename_i h'
    cases h.symm.trans h'
  · rename_i h'
    cases h.symm.trans h'
  · rename_i f' rest' h'
    cases h.symm.trans h'
    rfl

/-- What has arrived of a single frame is split off whole, or not at all. -/
theorem split_of_prefix {f : Frame} (hcap : f.payload.length < Octets.capacity lengthWidth)
    {bs : Octets} (hp : bs <+: f.write) :
    (split limit bs).frames = [] ∧ (split limit bs).rest = bs ∨
      bs = f.write ∧ split limit bs = ⟨[f], [], none⟩ := by
  cases hd : decode limit bs with
  | error e =>
    rw [split_of_error hd]
    exact .inl ⟨rfl, rfl⟩
  | ok r =>
    rcases r with _ | ⟨g, rest⟩
    · rw [split_of_none hd]
      exact .inl ⟨rfl, rfl⟩
    · obtain ⟨rfl, rfl, rfl⟩ := eq_of_decode_prefix hcap hp hd
      have hnil : split limit [] = ⟨[], [], none⟩ := split_of_none rfl
      rw [split_of_some hd, hnil]
      exact .inr ⟨rfl, rfl⟩

/-- What is left when no header was at fault waits for more. -/
theorem decode_rest_split {bs : Octets} (h : (split limit bs).fault = none) :
    decode limit (split limit bs).rest = .ok none := by
  fun_induction split limit bs with
  | case1 bs e _ => cases h
  | case2 bs hd => exact hd
  | case3 bs f rest _ _ _ ih => exact ih h

/-- A header that was at fault is what is left. -/
theorem decode_rest_split_of_fault {bs : Octets} {e : LinkError}
    (h : (split limit bs).fault = some e) : decode limit (split limit bs).rest = .error e := by
  fun_induction split limit bs with
  | case1 bs e' hd =>
    cases h
    exact hd
  | case2 bs _ => cases h
  | case3 bs f rest _ _ _ ih => exact ih h

/-- What follows is split behind what was left before it. -/
theorem split_append (bs more : Octets) :
    split limit (bs ++ more) =
      match (split limit bs).fault with
      | none =>
        let later := split limit ((split limit bs).rest ++ more)
        ⟨(split limit bs).frames ++ later.frames, later.rest, later.fault⟩
      | some e => ⟨(split limit bs).frames, (split limit bs).rest ++ more, some e⟩ := by
  induction bs using decode_induction limit with
  | fault bs e hd => rw [split_of_error hd, split_of_error (decode_append_error hd more)]
  | waits bs hd => simp only [split_of_none hd, List.nil_append]
  | frame bs f rest hd ih =>
    rw [split_of_some hd, split_of_some (decode_append_some hd more), ih]
    cases (split limit rest).fault <;> rfl

/-- Frames that were written under the limit are taken off one after another, and what follows them
is split behind them. -/
theorem split_written {fs : List Frame} (h : ∀ f ∈ fs, f.Fits limit) (more : Octets) :
    split limit (writeAll fs ++ more) =
      ⟨fs ++ (split limit more).frames, (split limit more).rest, (split limit more).fault⟩ := by
  induction fs with
  | nil => rfl
  | cons f rest ih =>
    have hf : f.encode limit = .ok f.write := h f (List.mem_cons_self ..)
    rw [writeAll_cons, List.append_assoc, split_of_some (decode_encode hf _),
      ih fun g hg => h g (List.mem_cons_of_mem _ hg)]
    rfl

/-- What has arrived of frames that were written under the limit splits into the first of them, and
waits for the rest of the next one. -/
theorem split_of_written_prefix {fs : List Frame} (h : ∀ f ∈ fs, f.Fits limit) {bs more : Octets}
    (hbs : bs ++ more = writeAll fs) :
    ∃ first later rest, fs = first ++ later ∧ split limit bs = ⟨first, rest, none⟩ ∧
      rest ++ more = writeAll later ∧ decode limit rest = .ok none := by
  induction fs generalizing bs with
  | nil =>
    obtain ⟨rfl, rfl⟩ := List.append_eq_nil_iff.1 hbs
    exact ⟨[], [], [], rfl, split_of_none rfl, rfl, rfl⟩
  | cons f fs ih =>
    have hf : f.Fits limit := h f (List.mem_cons_self ..)
    by_cases hwhole : f.write <+: bs
    · obtain ⟨tail, rfl⟩ := hwhole
      rw [writeAll_cons, List.append_assoc] at hbs
      obtain ⟨first, later, rest, rfl, hsplit, hrest, hwaits⟩ :=
        ih (fun g hg => h g (List.mem_cons_of_mem _ hg)) (List.append_cancel_left hbs)
      refine ⟨f :: first, later, rest, rfl, ?_, hrest, hwaits⟩
      rw [split_of_some (decode_encode hf tail), hsplit]
    · -- the first frame is not complete
      have hp : bs <+: f.write := by
        have hall : f.write <+: bs ++ more := by
          rw [hbs]
          exact List.prefix_append _ _
        rcases List.prefix_or_prefix_of_prefix (List.prefix_append bs more) hall with hp | hp
        · exact hp
        · exact absurd hp hwhole
      have hwaits := decode_of_prefix hf hp fun heq => hwhole (heq ▸ List.prefix_rfl)
      exact ⟨[], f :: fs, bs, rfl, split_of_none hwaits, hbs, hwaits⟩

end ActorMesh.Frame
