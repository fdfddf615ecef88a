import ActorMesh.Wire.Package

/-!
# Octets that can be counted

A value fits its layout if each of its lengths can be written in eight octets. Every length counts
octets that are part of the written value, or values that take an octet at least. So where the
octets of a whole value can be counted in eight octets, as those of any value in a memory can, the
value fits (`Layout.Counted`, `Package.fits_of_length`).
-/

namespace ActorMesh

namespace Layout

variable {α β : Type}

/-- Values whose octets can be counted fit. -/
def Counted (l : Layout α) : Prop := ∀ a, (l.write a).length < Octets.capacity 8 → l.fits a

theorem word32_counted : word32.Counted := fun _ _ => trivial

theorem truth_counted : truth.Counted := fun _ _ => trivial

theorem octets_counted : octets.Counted := by
  intro bs h
  simp only [octets, List.length_append] at h
  exact Nat.lt_of_le_of_lt (Nat.le_add_left _ _) h

theorem text_counted : text.Counted := by
  intro s h
  simp only [text, List.length_append] at h
  exact Nat.lt_of_le_of_lt (Nat.le_add_left _ _) h

theorem via_counted {l : Layout α} {of : α → β} {back : β → α} (hl : l.Counted) :
    (l.via of back).Counted :=
  fun b h => hl (back b) h

theorem both_counted {l : Layout α} {r : Layout β} (hl : l.Counted) (hr : r.Counted) :
    (l.both r).Counted := by
  intro p h
  simp only [both, List.length_append] at h
  exact ⟨hl p.1 (Nat.lt_of_le_of_lt (Nat.le_add_right _ _) h),
    hr p.2 (Nat.lt_of_le_of_lt (Nat.le_add_left _ _) h)⟩

theorem optional_counted {l : Layout α} (hl : l.Counted) : l.optional.Counted := by
  intro a h
  cases a with
  | none => trivial
  | some a => exact hl a (Nat.lt_trans (Nat.lt_succ_self _) h)

/-- Values that take an octet at least are no more than their octets. -/
theorem length_le_length_flatten {l : Layout α} (hpos : ∀ a, 0 < (l.write a).length)
    (as : List α) : as.length ≤ (as.map l.write).flatten.length := by
  induction as with
  | nil => exact Nat.le_refl _
  | cons a rest ih =>
    have ha := hpos a
    simp only [List.map_cons, List.flatten_cons, List.length_append, List.length_cons]
    omega

theorem list_counted {l : Layout α} (hl : l.Counted) (hpos : ∀ a, 0 < (l.write a).length) :
    l.list.Counted := by
  intro as h
  simp only [list, List.length_append] at h
  have hflat := Nat.lt_of_le_of_lt (Nat.le_add_left _ _) h
  refine ⟨Nat.lt_of_le_of_lt (length_le_length_flatten hpos as) hflat, fun a ha => hl a ?_⟩
  have hsub := (List.sublist_flatten_of_mem (List.mem_map_of_mem (f := l.write) ha)).length_le
  exact Nat.lt_of_le_of_lt hsub hflat

end Layout

open Layout

theorem ActorRef.layout_counted : ActorRef.layout.Counted :=
  via_counted <| both_counted word32_counted <| both_counted word32_counted <|
    both_counted word32_counted text_counted

theorem WatchType.layout_counted : WatchType.layout.Counted := via_counted word32_counted

theorem NotifyType.layout_counted : NotifyType.layout.Counted := via_counted word32_counted

theorem WireMessage.layout_counted : WireMessage.layout.Counted :=
  via_counted (both_counted word32_counted octets_counted)

theorem WireResponse.layout_counted : WireResponse.layout.Counted :=
  via_counted (both_counted (via_counted (via_counted word32_counted))
    (optional_counted WireMessage.layout_counted))

theorem Callback.layout_counted : Callback.layout.Counted :=
  via_counted (both_counted word32_counted text_counted)

/-- An address begins with the four octets of its member. -/
theorem ActorRef.length_layout_pos (r : ActorRef) : 0 < (ActorRef.layout.write r).length := by
  simp only [ActorRef.layout, via, both, word32, number, List.length_append, Octets.length_le]
  omega

/-- A message begins with the four octets of its number. -/
theorem WireMessage.length_layout_pos (w : WireMessage) :
    0 < (WireMessage.layout.write w).length := by
  simp only [WireMessage.layout, via, both, word32, number, List.length_append, Octets.length_le]
  omega

namespace Package

theorem sender_counted : sender.Counted := optional_counted ActorRef.layout_counted

theorem targets_counted : ActorRef.layout.list.Counted :=
  list_counted ActorRef.layout_counted ActorRef.length_layout_pos

/-- A parcel whose octets can be counted fits. -/
theorem fits_of_length {p : Package} (h : p.write.length < Octets.capacity 8) : p.Fits := by
  cases p with
  | send | request =>
    exact both_counted sender_counted
      (both_counted ActorRef.layout_counted WireMessage.layout_counted) _ h
  | batchSend =>
    exact both_counted sender_counted (both_counted targets_counted
      (list_counted WireMessage.layout_counted WireMessage.length_layout_pos)) _ h
  | response =>
    exact both_counted sender_counted
      (both_counted ActorRef.layout_counted WireResponse.layout_counted) _ h
  | requestAsync =>
    exact both_counted sender_counted (both_counted ActorRef.layout_counted
      (both_counted WireMessage.layout_counted Callback.layout_counted)) _ h
  | responseAsync =>
    exact both_counted sender_counted (both_counted ActorRef.layout_counted
      (both_counted WireResponse.layout_counted Callback.layout_counted)) _ h
  | watch =>
    exact both_counted sender_counted (both_counted ActorRef.layout_counted
      (both_counted WatchType.layout_counted truth_counted)) _ h
  | «notify» =>
    exact both_counted sender_counted (both_counted targets_counted
      (both_counted NotifyType.layout_counted (both_counted ActorRef.layout_counted
        (both_counted WatchType.layout_counted WireMessage.layout_counted)))) _ h
  | fireNotify =>
    exact both_counted sender_counted (both_counted ActorRef.layout_counted
      (both_counted NotifyType.layout_counted
        (both_counted WatchType.layout_counted WireMessage.layout_counted))) _ h

end Package

end ActorMesh
