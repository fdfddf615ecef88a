import ActorMesh.Proofs.Connections.Reassembly
import ActorMesh.Proofs.Members.Connections

/-!
# Links last as long as their connections

A member takes a link down only when it has noticed that the connection of it is gone. So the
connection of a link stays the same until it has ended, whatever else happens at the member
(`Member.Sound.linkConnection?_of_change`) and whatever it reads and writes itself
(`Member.Sound.linkConnection?_happen`). That a connection counts as gone only when it has ended,
and that all connections keep the limit of the configuration, holds of every one of them
(`LinkEnd.Orderly`).
-/

namespace ActorMesh

/-! ### Every connection -/

/-- A connection with a limit on the length of frames, and not gone before it has ended. -/
structure LinkEnd.Orderly (limit : Nat) (x : LinkEnd) : Prop where
  limit_eq : x.connection.outlet.limit = limit
  gone : ∀ d, x.role = .outbound d → d.gone = true → x.connection.phase = .ended

section

variable {α : Type} [Vocabulary α]

theorem Role.keepsLimit_handler : (Role.handler : Handler (Core α × Role)).KeepsLimit := by
  rintro ⟨core, r⟩ o f
  have hsend : ∀ {o' : Outlet} {g : Frame}, o.send g = .ok o' → o'.limit = o.limit := by
    intro o' g h
    obtain ⟨bytes, -, -, rfl⟩ := Outlet.send_eq_ok_iff.1 h
    rfl
  cases r with
  | outbound d =>
    simp only [Role.handler, Outbound.frame]
    split <;> rfl
  | inbound k =>
    simp only [Role.handler, Inbound.frame]
    split
    · rfl
    · unfold Inbound.register
      dsimp only
      split
      · rfl
      · rename_i h
        split <;> exact hsend h
    · rfl
    · split <;> rfl

/-- No frame tells that a connection is gone. -/
theorem Role.gone_frame (core : Core α) (r : Role) (o : Outlet) (f : Frame)
    (h : ∀ d, r = .outbound d → d.gone = false) :
    ∀ d, (Role.handler.frame (core, r) o f).state.2 = .outbound d → d.gone = false := by
  cases r with
  | inbound k =>
    intro d hd
    cases hd
  | outbound d₀ =>
    have hd₀ := h d₀ rfl
    intro d hd
    simp only [Role.handler, Outbound.frame] at hd
    split at hd <;>
    · cases hd
      exact hd₀

namespace LinkEnd.Orderly

variable {limit : Nat} {x x' : LinkEnd}

omit [Vocabulary α] in
theorem fed {linked : Prop} (h : x.Orderly limit) (hfed : x.Fed linked x') : x'.Orderly limit := by
  obtain ⟨o, ⟨more, rfl, -, -⟩, rfl⟩ := hfed
  exact ⟨h.limit_eq, h.gone⟩

theorem step (h : x.Orderly limit) (core : Core α) (e : Connection.Event) :
    LinkEnd.Orderly limit ⟨(x.step core e).state.2, (x.step core e).connection⟩ := by
  by_cases he : ∃ bytes, x.connection.phase = .serving .idle ∧ e = .received bytes
  · obtain ⟨bytes, hphase, rfl⟩ := he
    obtain ⟨r, o, phase, buffer⟩ := x
    obtain rfl : phase = .serving .idle := hphase
    -- a connection that reads has not ended, so it is not gone, and no frame makes it so
    have hpresent : ∀ d, r = .outbound d → d.gone = false := fun d hd => by
      rw [← Bool.not_eq_true]
      intro hgone
      cases h.gone d hd hgone
    have hread := Connection.dispatch_keeps (P := fun (s : Core α × Role) o =>
      o.limit = limit ∧ ∀ d, s.2 = .outbound d → d.gone = false)
      (fun s o f hs => ⟨(Role.keepsLimit_handler s o f).trans hs.1,
        Role.gone_frame s.1 s.2 o f hs.2⟩)
      o.limit (s := (core, r)) (o := o) ⟨h.limit_eq, hpresent⟩ (buffer ++ bytes)
    obtain ⟨hlimit, hrole⟩ := hread
    have hnever : ∀ {d : Dialed}, d.gone = false → d.gone = true → False := fun h h' => by
      rw [h] at h'
      cases h'
    dsimp only [LinkEnd.step, Connection.step, Connection.receive]
    split
    · exact ⟨hlimit, fun d hd hgone => (hnever (hrole d hd) hgone).elim⟩
    · exact ⟨hlimit, fun d hd hgone => (hnever (hrole d hd) hgone).elim⟩
  · have he' := fun bytes hbytes => he ⟨bytes, hbytes⟩
    have hcalm := Connection.step_calm (h := Role.handler) (fun _ _ => rfl) (core, x.role) he'
    refine ⟨hcalm.limit.trans h.limit_eq, fun d hd hgone => ?_⟩
    rcases (LinkEnd.step_state_calm core he').2 with hstate | hended
    · rw [hstate] at hd
      have hbefore := h.gone d hd hgone
      show (x.step core e).connection.phase = _
      rw [LinkEnd.step, hcalm.ended hbefore, hbefore]
    · exact hended

end LinkEnd.Orderly

end

namespace Member

variable {α : Type} {m m' : Member α} {s : SystemId} {c : ConnectionId} {x : LinkEnd}

/-- A member all of whose connections are orderly. -/
def Orderly (m : Member α) : Prop :=
  ∀ (c : ConnectionId) x, m.ends[c.value]? = some x → x.Orderly m.config.timings.maxFrameSize

variable [Vocabulary α]

/-- Connections stay orderly, whatever happens. -/
theorem Orderly.change {a : Action α} (h : m.Orderly) (hc : Change m a m') : m'.Orderly := by
  intro c x' hx'
  rw [hc.config]
  cases hc with
  | quiet hq =>
    obtain ⟨x, hx, hfed⟩ := hq.exists_fed hx'
    exact (h c x hx).fed hfed
  | accept peer =>
    rcases getElem?_ends_append hx' with hx | ⟨-, rfl⟩
    · exact h c x' hx
    · exact ⟨rfl, fun d hd => by cases hd⟩
  | dialed _ _ hd =>
    obtain ⟨queue, -, hends⟩ := hd.ends
    rw [hends] at hx'
    rcases getElem?_ends_append hx' with hx | ⟨-, rfl⟩
    · exact h c x' hx
    · refine ⟨rfl, fun d hd hgone => ?_⟩
      cases hd
      cases hgone
  | install _ _ _ _ => exact h c x' hx'
  | clear _ _ _ hq =>
    obtain ⟨x, hx, hfed⟩ := hq.exists_fed hx'
    exact (h c x hx).fed hfed
  | event d e =>
    cases hy : m.ends[d.value]? with
    | none =>
      rw [happen_of_none hy] at hx'
      exact h c x' hx'
    | some y =>
      rw [getElem?_ends_happen hy] at hx'
      split at hx'
      · cases hx'
        exact (h d y hy).step m.core e
      · exact h c x' hx'

omit [Vocabulary α] in
theorem Fresh.orderly {config : Config} (h : m.Fresh config) : m.Orderly := by
  intro c x hx
  rw [h.ends] at hx
  cases hx

/-! ### Links -/

omit [Vocabulary α] in
/-- Where links and the connections of sessions stay, so does the connection of a link. -/
theorem linkConnection?_of_kept (h : m.linkConnection? s = some c)
    (link : ∀ l, m.table.link? s = some l → l ≠ .disconnected → m.connectionOf? l = some c →
      m'.table.link? s = some l)
    (connection : ∀ k, m.table.connection? k = some c → m'.table.connection? k = some c) :
    m'.linkConnection? s = some c := by
  rw [linkConnection?_eq_some_iff] at h ⊢
  rcases h with h | ⟨k, h, hk⟩
  · exact .inl (link _ h (by simp) rfl)
  · exact .inr ⟨k, link _ h (by simp) hk, connection k hk⟩

/-- A link keeps its connection whatever else happens, if that is not gone. -/
theorem Sound.linkConnection?_of_change {a : Action α} (h : m.Sound) (hc : Change m a m')
    (ha : ∀ e, a ≠ .event c e) (hx : m.ends[c.value]? = some x)
    (present : ∀ d, x.role = .outbound d → d.gone = false) (hl : m.linkConnection? s = some c) :
    m'.linkConnection? s = some c := by
  cases hc with
  | quiet hq => rw [linkConnection?_congr hq.peers hq.sessions, hl]
  | accept peer =>
    refine linkConnection?_of_kept hl (fun l hl _ _ => hl) fun k hk => ?_
    have hlt := LinkTable.lt_of_connection? hk
    refine (m.table.connection?_create m.nextConnection peer k).trans ?_
    rw [if_neg fun heq => by simp [heq] at hlt]
    exact hk
  | dialed _ _ hd =>
    refine linkConnection?_of_kept hl (fun l hl _ _ => ?_) fun k hk => ?_
    · rw [table, hd.core]
      exact hl
    · rw [table, hd.core]
      exact hk
  | @install _ i l d t _ _ _ link =>
    -- a connection is installed only where the link is down
    have hlinks := LinkTable.link?_installClient link
    obtain ⟨hdown, rfl⟩ := LinkTable.installClient_eq_some_iff.1 link
    refine linkConnection?_of_kept hl (fun l' hl' hup _ => ?_) fun k hk => hk
    refine (hlinks s).trans ?_
    rw [if_neg fun heq => hup ?_, hl']
    rw [heq, hdown] at hl'
    exact (Option.some.inj hl').symm
  | @clear _ i l d _ _ _ gone hq =>
    rw [linkConnection?_congr hq.peers hq.sessions]
    refine linkConnection?_of_kept hl (fun l' hl' hup hcon => ?_) fun k hk => ?_
    · change (m.table.clearClient l.peer.id d).link? s = some l'
      rw [LinkTable.link?_clearClient, if_neg, hl']
      -- the link that is taken down would be this one, and its connection is gone
      rintro ⟨rfl, hclient⟩
      cases hl'.symm.trans hclient
      obtain rfl : d = c := Option.some.inj hcon
      obtain ⟨dialed, hdialed, hgone⟩ := (Option.any_eq_true _ _).1 gone
      unfold dialedState? at hdialed
      split at hdialed
      · rename_i hends
        cases hdialed
        cases hx.symm.trans hends
        rw [present _ rfl] at hgone
        cases hgone
      · cases hdialed
    · change ((m.table.clearClient l.peer.id d).sessions.get? k).map (·.connection) = some c
      rw [LinkTable.sessions_clearClient]
      exact hk
  | event d e =>
    cases hy : m.ends[d.value]? with
    | none => rw [happen_of_none hy, hl]
    | some y =>
      have hserves := (@Role.serves_step α _ _ m.core
        (fun k hk => ⟨d, h.session d y k hy hk⟩) y.connection e).1
      have htable : (m.happen d e).1.table = (y.step m.core e).state.1.table := by
        rw [table, core_happen hy]
      refine linkConnection?_of_kept hl (fun l hl hup hcon => ?_) fun k hk => ?_
      · rw [htable]
        refine hserves.link s l hl hup fun k hk heq => ?_
        -- a session has one connection
        have hd := h.session d y k hy hk
        rw [heq] at hcon
        cases hd.symm.trans hcon
        exact ha e rfl
      · rw [htable]
        exact (hserves.connection k).trans hk

/-- What happens to a bound connection leaves the links alone, unless it ends it. -/
theorem table_step_of_bound {k : Ticket} (hrole : x.role = .inbound k)
    (hb : m.table.sessions.binding? k ≠ none) {e : Connection.Event}
    (hlasts : (x.step m.core e).connection.phase ≠ .ended) :
    (x.step m.core e).state.1.table = m.table := by
  by_cases he : ∃ bytes, x.connection.phase = .serving .idle ∧ e = .received bytes
  · obtain ⟨bytes, hphase, rfl⟩ := he
    obtain ⟨r, o, phase, buffer⟩ := x
    obtain rfl : phase = .serving .idle := hphase
    obtain rfl : r = .inbound k := hrole
    exact Role.table_receive_of_bound hb ⟨o, .serving .idle, buffer⟩ bytes
  · have he' := fun bytes hbytes => he ⟨bytes, hbytes⟩
    rw [(LinkEnd.step_state_calm m.core he').2.resolve_right hlasts]
    rfl

/-- A link keeps its connection as long as that has not ended. -/
theorem Sound.linkConnection?_happen (h : m.Sound) (hx : m.ends[c.value]? = some x)
    (hl : m.linkConnection? s = some c) {e : Connection.Event}
    (hlasts : (x.step m.core e).connection.phase ≠ .ended) :
    (m.happen c e).1.linkConnection? s = some c := by
  have htable : (m.happen c e).1.table = (x.step m.core e).state.1.table := by
    rw [table, core_happen hx]
  cases hrole : x.role with
  | outbound d =>
    have hserves := (@Role.serves_step α _ _ m.core
      (fun k hk => ⟨c, h.session c x k hx hk⟩) x.connection e).1
    refine linkConnection?_of_kept hl (fun l hl hup _ => ?_) fun k hk => ?_
    · rw [htable]
      refine hserves.link s l hl hup fun k hk => ?_
      rw [hrole] at hk
      cases hk
    · rw [htable]
      exact (hserves.connection k).trans hk
  | inbound k =>
    have hsame := table_step_of_bound hrole (h.bound_of_hasLink hx hrole ⟨s, hl⟩) hlasts
    refine linkConnection?_of_kept hl (fun l hl _ _ => ?_) fun k hk => ?_
    · rw [htable, hsame]
      exact hl
    · rw [htable, hsame]
      exact hk

end Member

end ActorMesh
