import ActorMesh.Proxy.Directory

/-!
# Reading keys back

The id of a proxy is all it knows about the actor it stands in for, so the text of a key has to give
the key back (`ProxyKey.parse_text`). It does for every id, also for one that holds separators: the
digits in front hold none, so the first one is the one that was written.
-/

namespace ActorMesh

/-! ### Decimal words -/

namespace Text.Numeral

theorem le_ofDigitChars (n : Nat) (cs : List Char) : n ≤ Nat.ofDigitChars 10 cs n := by
  induction cs generalizing n with
  | nil => exact Nat.le_refl n
  | cons c rest ih =>
    rw [Nat.ofDigitChars_cons]
    have hrest := ih (10 * n + (c.toNat - '0'.toNat))
    omega

/-- Digits are read exactly if there is nothing else and their value is in the range. -/
theorem digits_eq_ok_iff {n m : Nat} {cs : List Char} (hn : n < UInt32.size) :
    digits n cs = .ok m ↔
      (∀ c ∈ cs, c.isDigit = true) ∧ Nat.ofDigitChars 10 cs n = m ∧ m < UInt32.size := by
  induction cs generalizing n with
  | nil =>
    simp only [digits, Nat.ofDigitChars_nil, Except.ok.injEq]
    constructor
    · rintro rfl
      refine ⟨fun c hc => ?_, rfl, hn⟩
      cases hc
    · exact fun h => h.2.1
  | cons c rest ih =>
    rw [digits, digit?]
    by_cases hc : c.isDigit = true
    · rw [if_pos hc, Nat.ofDigitChars_cons, List.forall_mem_cons]
      by_cases hlt : 10 * n + (c.toNat - 48) < UInt32.size
      · simp only [if_pos hlt]
        exact (ih hlt).trans (and_congr_left' (and_iff_right hc).symm)
      · -- the value only grows with the digits that follow
        simp only [if_neg hlt]
        refine iff_of_false nofun ?_
        rintro ⟨-, rfl, hm⟩
        exact hlt (Nat.lt_of_le_of_lt (le_ofDigitChars _ rest) hm)
    · rw [if_neg hc]
      exact iff_of_false nofun fun h => hc (h.1 c (List.mem_cons_self ..))

theorem isDigit_of_mem_render {n : UInt32} {c : Char} (hc : c ∈ (render n).toList) :
    c.isDigit = true := by
  rw [render, Nat.toString_eq_repr, Nat.toList_repr] at hc
  exact Nat.isDigit_of_mem_toDigits (b := 10) (by decide) (by decide) hc

theorem parse_of_ne_sign {c : Char} (hc : c ≠ '+') (rest : List Char) :
    parse (c :: rest) = (digits 0 (c :: rest)).map UInt32.ofNat := by
  unfold parse
  split
  · rename_i h
    cases h
  · rename_i h
    exact absurd (List.cons.inj h).1 hc
  · rename_i h
    exact absurd (List.cons.inj h).1 hc
  · rfl

/-- The text of a number gives the number back. -/
theorem parse_render (n : UInt32) : parse (render n).toList = .ok n := by
  have hdigits : digits 0 (render n).toList = .ok n.toNat := by
    refine (digits_eq_ok_iff (by decide)).2 ⟨fun c => isDigit_of_mem_render, ?_, n.toNat_lt_size⟩
    rw [render, Nat.toString_eq_repr, Nat.toList_repr]
    exact Nat.ofDigitChars_ten_toDigits
  cases htext : (render n).toList with
  | nil =>
    rw [render, Nat.toString_eq_repr, Nat.toList_repr] at htext
    exact absurd htext Nat.toDigits_ne_nil
  | cons c rest =>
    have hc : c ≠ '+' := by
      rintro rfl
      have hsign : '+'.isDigit = true := isDigit_of_mem_render (htext ▸ List.mem_cons_self ..)
      cases hsign
    rw [parse_of_ne_sign hc, ← htext, hdigits]
    exact congrArg Except.ok (UInt32.ofNat_toNat)

end Text.Numeral

/-! ### Keys -/

namespace ProxyKey

theorem cutAt_append {front : List Char} (h : separator ∉ front) (back : List Char) :
    cutAt (front ++ separator :: back) = some (front, back) := by
  induction front with
  | nil => exact if_pos rfl
  | cons c rest ih =>
    obtain ⟨hc, hrest⟩ := List.ne_and_not_mem_of_not_mem_cons h
    rw [List.cons_append, cutAt, if_neg (Ne.symm hc), ih hrest]
    rfl

/-- The text of a key gives the key back. -/
theorem parse_text (k : ProxyKey) : parse k.text = .ok k := by
  have hseparator : separator ∉ (Text.Numeral.render k.actorType.value).toList := by
    intro hmem
    have hdigit : separator.isDigit = true := Text.Numeral.isDigit_of_mem_render hmem
    cases hdigit
  have hcut : cutAt k.text.toList =
      some ((Text.Numeral.render k.actorType.value).toList, k.id.toList) := by
    rw [← cutAt_append hseparator, text]
    simp
  simp only [parse, hcut, Text.Numeral.parse_render, String.ofList_toList]

/-- Different keys have different texts. -/
theorem text_injective : Function.Injective text := by
  intro k k' h
  have hparse := parse_text k
  rw [h, parse_text k'] at hparse
  exact (Except.ok.inj hparse).symm

end ProxyKey

end ActorMesh
