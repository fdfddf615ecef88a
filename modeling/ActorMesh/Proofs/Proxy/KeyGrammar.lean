import ActorMesh.Proofs.Proxy.KeyText

/-!
# The grammar of keys

A text is read as a key if what stands before its first separator spells a number that a word holds;
all that stands behind the separator is the id (`ProxyKey.textGrammar`).

A number may be spelled with a `+` and with zeros in front, so the text of a key is one of many that
are read as it. It is the plain one, and a proxy whose id is any of the others stands in for the
same actor. `Text.Numeral.spells_iff` says what the others look like, and the rest is read off it.
-/

namespace ActorMesh

/-! ### Spellings of a number -/

namespace Text.Numeral

variable {cs ds : List Char} {n : UInt32}

/-- A text spells a number: decimal digits of that value, at least one, and a `+` in front of them
or none. -/
def Spells (cs : List Char) (n : Nat) : Prop :=
  ∃ ds, (cs = ds ∨ cs = '+' :: ds) ∧ ds ≠ [] ∧ (∀ c ∈ ds, c.isDigit = true) ∧
    Nat.ofDigitChars 10 ds 0 = n

/-- A text without a sign, and with a zero in front only where there is nothing else. -/
def Plain (cs : List Char) : Prop := '+' ∉ cs ∧ (cs.head? = some '0' → cs.length = 1)

theorem digitChar_of_isDigit {c : Char} (hc : c.isDigit = true) :
    c.toNat - '0'.toNat < 10 ∧ Nat.digitChar (c.toNat - '0'.toNat) = c := by
  change c.toNat - 48 < 10 ∧ Nat.digitChar (c.toNat - 48) = c
  have hbounds : 48 ≤ c.toNat ∧ c.toNat ≤ 57 := by
    simpa [Char.isDigit, UInt32.le_iff_toNat_le] using hc
  have hlt : c.toNat - 48 < 10 := by omega
  refine ⟨hlt, Char.toNat_inj.1 ?_⟩
  rw [Nat.toNat_digitChar_of_lt_ten hlt]
  omega

/-- Digits behind those of a number that is not zero go on with it. -/
theorem toDigits_append {n : Nat} (hn : 0 < n) (hds : ∀ c ∈ ds, c.isDigit = true) :
    Nat.toDigits 10 n ++ ds = Nat.toDigits 10 (Nat.ofDigitChars 10 ds n) := by
  induction ds generalizing n with
  | nil => rw [List.append_nil, Nat.ofDigitChars_nil]
  | cons c rest ih =>
    obtain ⟨hc, hrest⟩ := List.forall_mem_cons.1 hds
    obtain ⟨hlt, hchar⟩ := digitChar_of_isDigit hc
    have hnext : Nat.toDigits 10 n ++ [c] = Nat.toDigits 10 (10 * n + (c.toNat - '0'.toNat)) := by
      rw [← Nat.toDigits_append_toDigits (by decide) hn hlt, Nat.toDigits_of_lt_base hlt, hchar]
    rw [Nat.ofDigitChars_cons, List.append_cons, hnext]
    exact ih (by omega) hrest

/-- Digits are those of their value, with zeros in front. -/
theorem exists_eq_zeros_append (hne : ds ≠ []) (hds : ∀ c ∈ ds, c.isDigit = true) :
    ∃ zeros, ds = List.replicate zeros '0' ++ Nat.toDigits 10 (Nat.ofDigitChars 10 ds 0) := by
  induction ds with
  | nil => exact absurd rfl hne
  | cons c rest ih =>
    obtain ⟨hc, hrest⟩ := List.forall_mem_cons.1 hds
    obtain ⟨hlt, hchar⟩ := digitChar_of_isDigit hc
    rw [Nat.ofDigitChars_cons, Nat.mul_zero, Nat.zero_add]
    by_cases hzero : c = '0'
    · subst hzero
      by_cases hlast : rest = []
      · subst hlast
        exact ⟨0, rfl⟩
      · obtain ⟨zeros, hzeros⟩ := ih hlast hrest
        exact ⟨zeros + 1, congrArg ('0' :: ·) hzeros⟩
    · -- from the first other digit on, every digit counts
      have hpos : 0 < c.toNat - '0'.toNat := by
        refine Nat.pos_of_ne_zero fun h => hzero ?_
        rw [← hchar, h]
        rfl
      refine ⟨0, ?_⟩
      rw [← toDigits_append hpos hrest, Nat.toDigits_of_lt_base hlt, hchar]
      rfl

theorem toList_render (n : UInt32) : (render n).toList = Nat.toDigits 10 n.toNat := by
  rw [render, Nat.toString_eq_repr, Nat.toList_repr]

/-- Digits are read as the word of their value. -/
theorem map_digits_eq_ok_iff : (digits 0 ds).map UInt32.ofNat = .ok n ↔
    (∀ c ∈ ds, c.isDigit = true) ∧ Nat.ofDigitChars 10 ds 0 = n.toNat := by
  constructor
  · intro h
    cases hread : digits 0 ds with
    | error fault =>
      rw [hread] at h
      cases h
    | ok m =>
      rw [hread] at h
      obtain rfl : UInt32.ofNat m = n := Except.ok.inj h
      obtain ⟨hds, hvalue, hlt⟩ := (digits_eq_ok_iff (by decide)).1 hread
      exact ⟨hds, hvalue.trans (UInt32.toNat_ofNat_of_lt' hlt).symm⟩
  · rintro ⟨hds, hvalue⟩
    rw [(digits_eq_ok_iff (by decide)).2 ⟨hds, hvalue, n.toNat_lt_size⟩]
    exact congrArg Except.ok (UInt32.ofNat_toNat)

theorem Spells.mem {v : Nat} (h : Spells cs v) {c : Char} (hc : c ∈ cs) :
    c = '+' ∨ c.isDigit = true := by
  obtain ⟨ds, rfl | rfl, -, hds, -⟩ := h
  · exact .inr (hds c hc)
  · exact (List.mem_cons.1 hc).imp_right (hds c)

theorem spells_sign {v : Nat} : Spells ('+' :: ds) v ↔
    ds ≠ [] ∧ (∀ c ∈ ds, c.isDigit = true) ∧ Nat.ofDigitChars 10 ds 0 = v := by
  constructor
  · rintro ⟨ds', rfl | h, hspelled⟩
    · have hsign : '+'.isDigit = true := hspelled.2.1 '+' (List.mem_cons_self ..)
      cases hsign
    · obtain rfl := (List.cons.inj h).2
      exact hspelled
  · exact fun h => ⟨ds, .inr rfl, h⟩

theorem spells_of_ne_sign {c : Char} (hc : c ≠ '+') {v : Nat} : Spells (c :: ds) v ↔
    (∀ d ∈ c :: ds, d.isDigit = true) ∧ Nat.ofDigitChars 10 (c :: ds) 0 = v := by
  constructor
  · rintro ⟨ds', rfl | h, -, hspelled⟩
    · exact hspelled
    · exact absurd (List.cons.inj h).1 hc
  · exact fun h => ⟨c :: ds, .inl rfl, List.cons_ne_nil c ds, h⟩

/-- A word is read exactly where it is spelled. -/
theorem parse_eq_ok_iff : parse cs = .ok n ↔ Spells cs n.toNat := by
  cases cs with
  | nil =>
    refine iff_of_false nofun ?_
    rintro ⟨ds, rfl | h, hne, -⟩
    · exact hne rfl
    · cases h
  | cons c rest =>
    by_cases hc : c = '+'
    · subst hc
      cases rest with
      | nil => exact iff_of_false nofun fun h => (spells_sign.1 h).1 rfl
      | cons d rest =>
        rw [spells_sign, and_iff_right (List.cons_ne_nil d rest)]
        exact map_digits_eq_ok_iff
    · rw [parse_of_ne_sign hc, spells_of_ne_sign hc]
      exact map_digits_eq_ok_iff

/-- The spellings of a word are its text with zeros in front, and before them the sign or none. -/
theorem spells_iff : Spells cs n.toNat ↔ ∃ sign, (sign = [] ∨ sign = ['+']) ∧
    ∃ zeros, cs = sign ++ List.replicate zeros '0' ++ (render n).toList := by
  rw [toList_render]
  constructor
  · rintro ⟨ds, hcs, hne, hds, hvalue⟩
    obtain ⟨zeros, hzeros⟩ := exists_eq_zeros_append hne hds
    rw [hvalue] at hzeros
    rcases hcs with rfl | rfl
    · exact ⟨[], .inl rfl, zeros, hzeros⟩
    · exact ⟨['+'], .inr rfl, zeros, congrArg ('+' :: ·) hzeros⟩
  · rintro ⟨sign, hsign, zeros, rfl⟩
    refine ⟨List.replicate zeros '0' ++ Nat.toDigits 10 n.toNat, ?_, ?_, ?_, ?_⟩
    · rw [List.append_assoc]
      exact hsign.imp (fun h => by rw [h, List.nil_append]) (fun h => by rw [h]; rfl)
    · exact List.append_ne_nil_of_right_ne_nil _ Nat.toDigits_ne_nil
    · intro c hc
      rcases List.mem_append.1 hc with hzero | hdigit
      · rw [List.eq_of_mem_replicate hzero]
        rfl
      · exact Nat.isDigit_of_mem_toDigits (b := 10) (by decide) (by decide) hdigit
    · rw [Nat.ofDigitChars_append, Nat.ofDigitChars_replicate_zero, Nat.mul_zero,
        Nat.ofDigitChars_ten_toDigits]

/-- The text of a word is plain. -/
theorem plain_render (n : UInt32) : Plain (render n).toList := by
  refine ⟨fun hsign => ?_, fun hhead => ?_⟩
  · have hdigit : '+'.isDigit = true := isDigit_of_mem_render hsign
    cases hdigit
  · obtain ⟨rest, htext⟩ := List.head?_eq_some_iff.1 hhead
    have hds : ∀ c ∈ '0' :: rest, c.isDigit = true :=
      fun c hc => isDigit_of_mem_render (htext ▸ hc)
    have hvalue : Nat.ofDigitChars 10 rest 0 = n.toNat := by
      have hall : Nat.ofDigitChars 10 (render n).toList 0 = n.toNat := by
        rw [toList_render, Nat.ofDigitChars_ten_toDigits]
      rw [htext] at hall
      exact hall
    by_cases hlast : rest = []
    · rw [htext, hlast]
      rfl
    · -- the digits behind the zero have the same value, so they are as long as all of them
      obtain ⟨zeros, hzeros⟩ := exists_eq_zeros_append hlast (List.forall_mem_cons.1 hds).2
      rw [hvalue, ← toList_render, htext] at hzeros
      have hlengths := congrArg List.length hzeros
      simp only [List.length_append, List.length_cons] at hlengths
      omega

/-- Of the spellings of a word, its text is the plain one. -/
theorem plain_iff (h : Spells cs n.toNat) : Plain cs ↔ cs = (render n).toList := by
  constructor
  · rintro ⟨hsign, hzero⟩
    obtain ⟨sign, rfl | rfl, zeros, rfl⟩ := spells_iff.1 h
    · cases zeros with
      | zero => rfl
      | succ zeros =>
        have hlength := hzero rfl
        have hpos : 0 < (render n).toList.length := by
          rw [toList_render]
          exact Nat.length_toDigits_pos
        simp only [List.length_append, List.length_replicate] at hlength
        omega
    · exact absurd (List.mem_cons_self ..) hsign
  · rintro rfl
    exact plain_render n

end Text.Numeral

/-! ### Spellings of a key -/

namespace ProxyKey

/-- The first separator of a text stands between two parts of it. -/
structure Divides (s : String) (front back : List Char) : Prop where
  toList_eq : s.toList = front ++ separator :: back
  first : separator ∉ front

theorem cutAt_eq_some_iff {cs front back : List Char} :
    cutAt cs = some (front, back) ↔ separator ∉ front ∧ cs = front ++ separator :: back := by
  constructor
  · intro h
    induction cs generalizing front with
    | nil => cases h
    | cons c rest ih =>
      rw [cutAt] at h
      split at h
      · rename_i hc
        obtain ⟨rfl, rfl⟩ := Prod.mk.inj (Option.some.inj h)
        exact ⟨List.not_mem_nil, congrArg (· :: rest) hc⟩
      · rename_i hc
        obtain ⟨⟨before, behind⟩, hrest, hcut⟩ := Option.map_eq_some_iff.1 h
        obtain ⟨rfl, rfl⟩ := Prod.mk.inj hcut
        obtain ⟨hfirst, rfl⟩ := ih hrest
        exact ⟨List.not_mem_cons_of_ne_of_not_mem (Ne.symm hc) hfirst, rfl⟩
  · rintro ⟨hfront, rfl⟩
    exact cutAt_append hfront back

theorem divides_iff {s : String} {front back : List Char} :
    Divides s front back ↔ cutAt s.toList = some (front, back) := by
  rw [cutAt_eq_some_iff]
  exact ⟨fun h => ⟨h.first, h.toList_eq⟩, fun h => ⟨h.2, h.1⟩⟩

/-- A text has one first separator. -/
theorem Divides.unique {s : String} {front back front' back' : List Char}
    (h : Divides s front back) (h' : Divides s front' back') : front = front' ∧ back = back' :=
  Prod.mk.inj (Option.some.inj ((divides_iff.1 h).symm.trans (divides_iff.1 h')))

/-- A text is read as a key exactly if what stands before the first separator spells the type, and
behind it stands the id. -/
theorem parse_eq_ok_iff {s : String} {k : ProxyKey} : parse s = .ok k ↔
    ∃ front, Divides s front k.id.toList ∧
      Text.Numeral.Spells front k.actorType.value.toNat := by
  simp only [divides_iff]
  constructor
  · intro h
    rw [parse] at h
    split at h
    · cases h
    rename_i front back hcut
    split at h
    · rename_i n hread
      obtain rfl := Except.ok.inj h
      refine ⟨front, ?_, Text.Numeral.parse_eq_ok_iff.1 hread⟩
      rw [hcut, String.toList_ofList]
    · cases h
  · rintro ⟨front, hcut, hspells⟩
    simp only [parse, hcut, Text.Numeral.parse_eq_ok_iff.2 hspells, String.ofList_toList]

theorem toList_text (k : ProxyKey) : k.text.toList =
    (Text.Numeral.render k.actorType.value).toList ++ separator :: k.id.toList := by
  simp [text]

/-- A text that is read as a key is its text exactly if the part before the separator is plain. -/
theorem text_eq_iff {s : String} {k : ProxyKey} {front back : List Char} (h : parse s = .ok k)
    (hcut : Divides s front back) : k.text = s ↔ Text.Numeral.Plain front := by
  obtain ⟨front', hcut', hspells⟩ := parse_eq_ok_iff.1 h
  obtain ⟨rfl, rfl⟩ := hcut.unique hcut'
  rw [Text.Numeral.plain_iff hspells, ← String.toList_inj, toList_text, hcut.toList_eq]
  exact (List.append_left_inj _).trans eq_comm

/-- The texts that are read as a key are its text with zeros in front, and before them the sign or
none. -/
theorem parse_eq_ok_iff_text {s : String} {k : ProxyKey} : parse s = .ok k ↔
    ∃ sign, (sign = "" ∨ sign = "+") ∧
      ∃ zeros, s = sign ++ String.ofList (List.replicate zeros '0') ++ k.text := by
  constructor
  · intro h
    obtain ⟨front, hcut, hspells⟩ := parse_eq_ok_iff.1 h
    obtain ⟨sign, hsign, zeros, rfl⟩ := Text.Numeral.spells_iff.1 hspells
    refine ⟨String.ofList sign, ?_, zeros, ?_⟩
    · exact hsign.imp (congrArg String.ofList) (congrArg String.ofList)
    · rw [← String.toList_inj, hcut.toList_eq]
      simp only [String.toList_append, String.toList_ofList, toList_text, List.append_assoc]
  · rintro ⟨sign, hsign, zeros, rfl⟩
    have hspells := Text.Numeral.spells_iff (n := k.actorType.value).2
      ⟨sign.toList, hsign.imp (fun h => by rw [h]; rfl) (fun h => by rw [h]; rfl), zeros, rfl⟩
    refine parse_eq_ok_iff.2 ⟨_, ⟨?_, fun hmem => ?_⟩, hspells⟩
    · simp only [String.toList_append, String.toList_ofList, toList_text, List.append_assoc]
    · rcases hspells.mem hmem with h | h <;> cases h

/-- Which texts are read, and as which keys. -/
structure TextGrammar : Prop where
  /-- The text of a key is read as the key. -/
  returns : ∀ k, parse k.text = .ok k
  /-- A text is read exactly if it has a separator, and what stands before the first one spells a
  number that a word holds. -/
  accepts : ∀ s, (∃ k, parse s = .ok k) ↔ ∃ front back, Divides s front back ∧
    ∃ n, Text.Numeral.Spells front n ∧ n ≤ 4294967295
  /-- The number is the type, and what stands behind the separator is the id. -/
  reads : ∀ s k, parse s = .ok k ↔ ∃ front, Divides s front k.id.toList ∧
    Text.Numeral.Spells front k.actorType.value.toNat
  /-- A text that is read is that of its key exactly if what stands before the separator has no sign
  and no zero too many. -/
  plain : ∀ s k front back, parse s = .ok k → Divides s front back →
    (k.text = s ↔ Text.Numeral.Plain front)
  /-- All texts that are read as a key are its text with zeros in front, and before them the sign or
  none. -/
  alike : ∀ s k, parse s = .ok k ↔ ∃ sign, (sign = "" ∨ sign = "+") ∧
    ∃ zeros, s = sign ++ String.ofList (List.replicate zeros '0') ++ k.text

/-- Keys are read by a grammar in which each has one plain text. -/
theorem textGrammar : TextGrammar where
  returns := parse_text
  accepts s := by
    constructor
    · rintro ⟨k, hk⟩
      obtain ⟨front, hcut, hspells⟩ := parse_eq_ok_iff.1 hk
      exact ⟨front, _, hcut, _, hspells, Nat.le_of_lt_succ k.actorType.value.toNat_lt_size⟩
    · rintro ⟨front, back, hcut, n, hspells, hn⟩
      refine ⟨⟨⟨UInt32.ofNat n⟩, String.ofList back⟩, parse_eq_ok_iff.2 ⟨front, ?_, ?_⟩⟩
      · rwa [String.toList_ofList]
      · rwa [UInt32.toNat_ofNat_of_lt' (Nat.lt_succ_of_le hn)]
  reads _ _ := parse_eq_ok_iff
  plain _ _ _ _ := text_eq_iff
  alike _ _ := parse_eq_ok_iff_text

/-- An id may hold separators or be empty, but the type has to be there and to fit. -/
example : parse "+007-a-é" = .ok ⟨⟨7⟩, "a-é"⟩ ∧ (⟨⟨7⟩, "a-é"⟩ : ProxyKey).text = "7-a-é" ∧
    parse "4294967295-" = .ok ⟨⟨4294967295⟩, ""⟩ ∧
    parse "4294967296-" = .error (.protocol (.keyWithBadType "4294967296-" .tooLarge)) ∧
    parse "-7" = .error (.protocol (.keyWithBadType "-7" .empty)) :=
  ⟨rfl, rfl, rfl, rfl, rfl⟩

end ProxyKey

end ActorMesh
