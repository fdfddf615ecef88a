import ActorMesh.Proofs.Links.Gate

/-!
# The answer to a registration

Whoever dialed waits for the answer to its registration, and only the first one counts. What came on
a dialed connection is told by its trail, and what is known of it is the first answer among the
frames that were read (`Outbound.Watched`), whatever came before it, between or behind. Later
answers are read and change nothing (`Outbound.Judged`).
-/

namespace ActorMesh

/-! ### Frames on a dialed connection -/

namespace Outbound

/-- The answer in a frame, if it is one. -/
def code? (f : Frame) : Option ErrorCode :=
  if PackageKind.ofByte? f.mark = some .registerResponse then some (answerCode f.payload).1
  else none

/-- The answer that counts: that of the first frame with one. -/
def answer? (fs : List Frame) : Option ErrorCode := fs.findSome? code?

theorem answer?_append (fs gs : List Frame) : answer? (fs ++ gs) = (answer? fs).or (answer? gs) :=
  List.findSome?_append

theorem answer?_cons (f : Frame) (fs : List Frame) :
    answer? (f :: fs) = (code? f).or (answer? fs) := by
  rw [answer?, List.findSome?_cons]
  cases code? f <;> rfl

/-- What counts as a success was read as one. -/
theorem code?_eq_success_iff {f : Frame} : code? f = some .success ↔
    PackageKind.ofByte? f.mark = some .registerResponse ∧
      ErrorCode.layout.decode f.payload = .ok .success := by
  unfold code? answerCode
  split
  · rename_i hkind
    cases ErrorCode.layout.decode f.payload with
    | ok code => simp [hkind]
    | error e =>
      have hmalformed : ErrorCode.malformedRequest ≠ .success := by decide
      simp [hmalformed]
  · rename_i hkind
    simp [hkind]

/-- The answer that counts is a success exactly if the first one that came reads as such. -/
theorem answer?_eq_success_iff {fs : List Frame} : answer? fs = some .success ↔
    ∃ pre f post, fs = pre ++ f :: post ∧
      (∀ g ∈ pre, PackageKind.ofByte? g.mark ≠ some .registerResponse) ∧
      PackageKind.ofByte? f.mark = some .registerResponse ∧
      ErrorCode.layout.decode f.payload = .ok .success := by
  have hnone : ∀ g, code? g = none ↔ PackageKind.ofByte? g.mark ≠ some .registerResponse := by
    intro g
    unfold code?
    split <;> simp_all
  rw [answer?, List.findSome?_eq_some_iff]
  constructor
  · rintro ⟨pre, f, post, heq, hf, hpre⟩
    obtain ⟨hkind, hdecode⟩ := code?_eq_success_iff.1 hf
    exact ⟨pre, f, post, heq, fun g hg => (hnone g).1 (hpre g hg), hkind, hdecode⟩
  · rintro ⟨pre, f, post, heq, hpre, hkind, hdecode⟩
    exact ⟨pre, f, post, heq, code?_eq_success_iff.2 ⟨hkind, hdecode⟩,
      fun g hg => (hnone g).2 (hpre g hg)⟩

variable {α : Type} [Vocabulary α]

/-- What a frame on a dialed connection does, given the answer that is known. -/
structure Judged (known : Option ErrorCode) (d : Deed (Core α × Role)) : Prop where
  before : d.before.2.answer? = known
  after : d.reaction.state.2.session? = none ∧
    d.reaction.state.2.answer? = known.or (code? d.frame)
  /-- Nothing that is read here is answered. -/
  silent : d.reaction.outlet = d.outlet
  /-- An answer never ends the connection. -/
  harmless : d.kind? = some .registerResponse → d.reaction.fault = none
  /-- Once an answer is known, another one changes nothing. -/
  late : known ≠ none → d.kind? = some .registerResponse → d.reaction.state = d.before

theorem judged_frame (core : Core α) (d : Dialed) (o : Outlet) (f : Frame) :
    Judged d.answer ⟨(core, .outbound d), o, f, Role.handler.frame (core, .outbound d) o f⟩ := by
  have hother : PackageKind.ofByte? f.mark ≠ some .registerResponse →
      (Outbound.frame core d o f).state.2 = d ∧ (Outbound.frame core d o f).outlet = o := by
    intro hkind
    unfold Outbound.frame
    split
    · exact ⟨rfl, rfl⟩
    · rename_i hresponse
      exact absurd hresponse hkind
    · exact ⟨rfl, rfl⟩
    · exact ⟨rfl, rfl⟩
  by_cases hkind : PackageKind.ofByte? f.mark = some .registerResponse
  · have hframe : Outbound.frame core d o f =
        ⟨(core, { d with answer := d.answer.or (code? f) }), o, (answerCode f.payload).2,
          none⟩ := by
      unfold Outbound.frame code?
      rw [hkind]
      cases d.answer <;> rfl
    have hreaction : Role.handler.frame (core, .outbound d) o f =
        ⟨(core, .outbound { d with answer := d.answer.or (code? f) }), o,
          (answerCode f.payload).2, none⟩ := by
      simp only [Role.handler, hframe]
    rw [hreaction]
    refine ⟨rfl, ⟨rfl, rfl⟩, rfl, fun _ => rfl, fun hknown _ => ?_⟩
    obtain ⟨code, hcode⟩ := Option.ne_none_iff_exists'.1 hknown
    obtain ⟨answer, gone⟩ := d
    obtain rfl : answer = some code := hcode
    rfl
  · obtain ⟨hsame, hout⟩ := hother hkind
    have hcode : code? f = none := if_neg hkind
    refine ⟨rfl, ⟨rfl, ?_⟩, hout, fun hk => absurd hk hkind, fun _ hk => absurd hk hkind⟩
    show (Outbound.frame core d o f).state.2.answer = _
    rw [hsame, hcode, Option.or_none]

/-- What frames do one after another on a dialed connection, given the answer that is known. -/
structure Handed (known : Option ErrorCode) (o : Outlet) (ds : List (Deed (Core α × Role)))
    (state : Core α × Role) (outlet : Outlet) : Prop where
  judged : ∀ p d q, ds = p ++ d :: q → Judged (known.or (answer? (p.map (·.frame)))) d
  role : state.2.session? = none
  answer : state.2.answer? = known.or (answer? (ds.map (·.frame)))
  silent : outlet = o

omit [Vocabulary α] in
theorem Handed.nil {known : Option ErrorCode} {state : Core α × Role}
    (role : state.2.session? = none) (answer : state.2.answer? = known) (o : Outlet) :
    Handed known o [] state o := by
  refine ⟨fun p d q heq => ?_, role, by simpa [answer?] using answer, rfl⟩
  cases p <;> cases heq

omit [Vocabulary α] in
theorem Handed.cons {known : Option ErrorCode} {d : Deed (Core α × Role)}
    {ds : List (Deed (Core α × Role))} {state : Core α × Role} {outlet : Outlet}
    (hd : Judged known d)
    (h : Handed (known.or (code? d.frame)) d.reaction.outlet ds state outlet) :
    Handed known d.outlet (d :: ds) state outlet := by
  refine ⟨fun p d' q heq => ?_, h.role, ?_, h.silent.trans hd.silent⟩
  · rcases p with _ | ⟨b, p⟩
    · cases heq
      simpa [answer?] using hd
    · obtain ⟨rfl, heq'⟩ := List.cons.inj heq
      rw [List.map_cons, answer?_cons, ← Option.or_assoc]
      exact h.judged p d' q heq'
  · rw [h.answer, List.map_cons, answer?_cons, Option.or_assoc]

theorem handed_hand {r : Role} (hr : r.session? = none) (core : Core α) (o : Outlet)
    (fs : List Frame) :
    Handed r.answer? o (Role.handler.deeds (core, r) o fs) (Role.handler.hand (core, r) o fs).state
      (Role.handler.hand (core, r) o fs).outlet := by
  induction fs generalizing core r o with
  | nil =>
    exact @Handed.nil α r.answer? (core, r) hr rfl o
  | cons f rest ih =>
    obtain ⟨d, rfl⟩ := Role.eq_outbound_of_session? hr
    have hjudged := judged_frame core d o f
    obtain ⟨hrole, hanswer⟩ := hjudged.after
    cases hf : (Role.handler.frame (core, .outbound d) o f).fault with
    | some e =>
      rw [Handler.hand_cons_of_fault hf, Handler.deeds_cons_of_fault hf]
      exact .cons hjudged (.nil hrole hanswer _)
    | none =>
      rw [Handler.hand_cons_of_ok hf, Handler.deeds_cons_of_ok hf]
      have hrest := ih hrole (Role.handler.frame (core, .outbound d) o f).state.1
        (Role.handler.frame (core, .outbound d) o f).outlet
      rw [show (Role.handler.frame (core, .outbound d) o f).state.2.answer? = _ from hanswer]
        at hrest
      exact .cons hjudged hrest

/-! ### Following a dialed connection -/

/-- What holds of a dialed connection and its trail. -/
structure Watched (limit : Nat) (x : LinkEnd) (t : Trail α) : Prop where
  role : x.role.session? = none
  answer : x.role.answer? = answer? (t.deeds.map (·.frame))
  bounded : x.connection.outlet.limit = limit
  judged : ∀ p d q, t.deeds = p ++ d :: q → Judged (answer? (p.map (·.frame))) d
  frames : t.deeds.map (·.frame) <+: (Frame.split limit t.read).frames
  /-- While the connection serves, all frames that arrived were handled. -/
  live : x.connection.IsLive → t.deeds.map (·.frame) = (Frame.split limit t.read).frames ∧
    (Frame.split limit t.read).fault = none ∧
    (Frame.split limit t.read).rest = x.connection.buffer

namespace Watched

variable {limit : Nat} {x x' : LinkEnd} {t : Trail α}

omit [Vocabulary α] in
/-- A connection that the member has just dialed. -/
theorem dialed (peer : Option Address) (limit : Nat) (queue : List Command) :
    Watched limit ⟨.outbound default, ⟨⟨peer, limit, true, queue⟩, .made, []⟩⟩
      (.empty : Trail α) := by
  have hsplit : Frame.split limit [] = ⟨[], [], none⟩ := Frame.split_of_none rfl
  refine ⟨rfl, rfl, rfl, fun p d q heq => ?_, List.nil_prefix, fun _ => ?_⟩
  · cases p <;> cases heq
  · simp [Trail.empty, hsplit]

omit [Vocabulary α] in
/-- What is queued makes no difference. -/
theorem fed {linked : Prop} (h : Watched limit x t) (hfed : x.Fed linked x') :
    Watched limit x' t := by
  obtain ⟨o, ⟨more, rfl, -, -⟩, rfl⟩ := hfed
  exact ⟨h.role, h.answer, h.bounded, h.judged, h.frames, h.live⟩

omit [Vocabulary α] in
/-- An event other than a read makes no difference. -/
theorem calm {r' : Role} {c' : Connection} {e : Connection.Event} (h : Watched limit x t)
    (hcalm : Connection.Calm x.connection e c') (hrole : r'.session? = none)
    (hanswer : r'.answer? = x.role.answer?) :
    Watched limit ⟨r', c'⟩ (t.add ⟨[], [], [], x.connection.taken e⟩) := by
  have hadd : t.add ⟨[], [], [], x.connection.taken e⟩ =
      ⟨t.read, t.deeds, t.delivered, t.taken ++ x.connection.taken e⟩ := by
    simp [Trail.add]
  rw [hadd]
  refine ⟨hrole, hanswer.trans h.answer, hcalm.limit.trans h.bounded, h.judged, h.frames,
    fun hlive => ?_⟩
  obtain ⟨hdeeds, hfault, hrest⟩ := h.live (hcalm.live hlive).1
  exact ⟨hdeeds, hfault, hrest.trans hcalm.buffer.symm⟩

/-- What is read is handed on behind what was read before. -/
theorem read {core : Core α} {bytes : Octets} (h : Watched limit x t)
    (hphase : x.connection.phase = .serving .idle) (delivered : List (Envelope α)) :
    let s := x.step core (.received bytes)
    Watched limit ⟨s.state.2, s.connection⟩ (t.add ⟨bytes,
      (x.connection.step Role.handler.logged ((core, x.role), []) (.received bytes)).state.2,
      delivered, []⟩) := by
  obtain ⟨role, o, phase, buffer⟩ := x
  obtain rfl : phase = .serving .idle := hphase
  obtain rfl : o.limit = limit := h.bounded
  obtain ⟨hdeeds, hfault, hrest⟩ := h.live trivial
  -- what is split off now stands behind what was split off before
  have hsplit := @Frame.split_append o.limit t.read bytes
  simp only [hfault, hrest, ← hdeeds] at hsplit
  generalize hfs : (Frame.split o.limit (buffer ++ bytes)).frames = fs at hsplit
  have handed := handed_hand h.role core o fs
  have hprefix := Role.handler.map_frame_deeds_prefix (core, role) o fs
  have hanswer : role.answer? = answer? (t.deeds.map (·.frame)) := h.answer
  obtain ⟨hstate, hafter⟩ := Connection.step_received Role.handler (core, role) o buffer bytes
  have hlog := Connection.log_step_received Role.handler (core, role) o buffer bytes
  have hlimits := (Connection.outlet_step_received Role.handler (core, role) o buffer bytes).2
  simp only [LinkEnd.step]
  rw [hfs] at hstate hafter hlog hlimits
  rw [hstate, hlog]
  generalize hds : Role.handler.deeds (core, role) o fs = ds at handed hprefix
  have hbounded : (Connection.step Role.handler (core, role) ⟨o, .serving .idle, buffer⟩
      (.received bytes)).connection.outlet.limit = o.limit :=
    hlimits.trans (congrArg Outlet.limit handed.silent)
  refine ⟨handed.role, ?_, hbounded, fun p d q heq => ?_, ?_, fun hlive => ?_⟩
  · rw [handed.answer, hanswer, Trail.add, List.map_append, answer?_append]
  · rcases Inbound.append_eq_append_cons heq with ⟨q', hq'⟩ | ⟨p', rfl, hp'⟩
    · exact h.judged p d q' hq'
    · rw [List.map_append, answer?_append, ← hanswer]
      exact handed.judged p' d q hp'
  · rw [Trail.add, hsplit, List.map_append]
    exact (List.prefix_append_right_inj _).2 hprefix
  · rcases hafter with ⟨hafter, hhand, hnone⟩ | ⟨rest, hafter⟩
    · rw [Trail.add, hsplit, hafter, List.map_append, ← hds, Handler.map_frame_deeds hhand]
      exact ⟨rfl, hnone, rfl⟩
    · rw [hafter] at hlive
      exact hlive.elim

end Watched

end Outbound

namespace Member

open Outbound

variable {α : Type} [Vocabulary α] {m m₀ : Member α} {c : ConnectionId} {limit : Nat}
  {t : Trail α} {x : LinkEnd}

/-- What holds of a member and of the trail of one of its connections, if that is dialed. -/
structure Awaits (limit : Nat) (c : ConnectionId) (m : Member α) (t : Trail α) : Prop where
  sound : m.Sound
  config : m.config.timings.maxFrameSize = limit
  unopened : m.ends[c.value]? = none → t = .empty
  watched : ∀ x, m.ends[c.value]? = some x → x.role.session? = none → Watched limit x t

/-- A dialed connection that is watched stays so. -/
theorem awaited_act (hs : m.Sound) (hx : m.ends[c.value]? = some x) (h : Watched limit x t)
    (a : Action α) :
    ∃ x', (m.act a).ends[c.value]? = some x' ∧ Watched limit x' (t.add (m.trail c a)) := by
  by_cases ha : ∃ e, a = .event c e
  · obtain ⟨e, rfl⟩ := ha
    have hself := getElem?_ends_happen (e := e) hx c
    rw [if_pos rfl] at hself
    refine ⟨_, hself, ?_⟩
    by_cases he : ∃ bytes, x.connection.phase = .serving .idle ∧ e = .received bytes
    · obtain ⟨bytes, hphase, rfl⟩ := he
      have htrail : m.trail c (.event c (.received bytes)) = ⟨bytes,
          (x.connection.step Role.handler.logged ((m.core, x.role), []) (.received bytes)).state.2,
          (x.step m.core (.received bytes)).state.1.delivered.drop m.core.delivered.length,
          []⟩ := by
        simp [trail, hx, core_happen hx, Connection.heard, Connection.taken, hphase]
      rw [htrail]
      exact h.read hphase _
    · have he' := fun bytes hbytes => he ⟨bytes, hbytes⟩
      have hcalm := Connection.step_calm (h := Role.handler) (fun _ _ => rfl) (m.core, x.role) he'
      have hbecomes := (Role.serves_step (r := x.role)
        (fun k hk => ⟨c, hs.session c x k hx hk⟩) x.connection e).2
      rw [trail_calm hx he']
      exact h.calm hcalm (hbecomes.1.trans h.role) (LinkEnd.step_state_calm m.core he').1
  · have ha' : ∀ e, a ≠ .event c e := fun e heq => ha ⟨e, heq⟩
    have hnone : m.trail c a = .empty := by
      unfold trail
      split
      · rename_i d e
        split
        · rw [if_neg fun hd => ha' e (by rw [hd])]
        · rfl
      · rfl
    obtain ⟨x', hx', hfed, -⟩ := hs.fed_of_change (change_act m a) ha' hx
    rw [hnone, Trail.add_empty]
    exact ⟨x', hx', h.fed hfed⟩

/-- A connection that has just been made was opened by a peer, or dialed. -/
theorem Change.newEnd {a : Action α} {m' : Member α} (hc : Change m a m')
    (hnone : m.ends[c.value]? = none) (hx : m'.ends[c.value]? = some x) :
    (∃ k peer, x = ⟨.inbound k, .new peer m.config.timings.maxFrameSize⟩) ∨
      ∃ peer queue, x = ⟨.outbound default,
        ⟨⟨peer, m.config.timings.maxFrameSize, true, queue⟩, .made, []⟩⟩ := by
  cases hc with
  | quiet hq =>
    obtain ⟨e, he, -⟩ := hq.exists_fed hx
    cases hnone.symm.trans he
  | accept peer =>
    rcases getElem?_ends_append hx with hx | ⟨rfl, rfl⟩
    · cases hnone.symm.trans hx
    · exact .inl ⟨_, peer, rfl⟩
  | dialed _ _ hd =>
    obtain ⟨queue, -, hends⟩ := hd.ends
    rw [hends] at hx
    rcases getElem?_ends_append hx with hx | ⟨rfl, rfl⟩
    · cases hnone.symm.trans hx
    · exact .inr ⟨_, queue, rfl⟩
  | install _ _ _ _ => cases hnone.symm.trans hx
  | clear _ _ _ hq =>
    obtain ⟨e, he, -⟩ := hq.exists_fed hx
    cases hnone.symm.trans he
  | event d e =>
    cases hy : m.ends[d.value]? with
    | none =>
      rw [happen_of_none hy] at hx
      cases hnone.symm.trans hx
    | some y =>
      rw [getElem?_ends_happen hy] at hx
      split at hx
      · rename_i hd
        subst hd
        cases hnone.symm.trans hy
      · cases hnone.symm.trans hx

theorem Awaits.act (h : Awaits limit c m t) (a : Action α) :
    Awaits limit c (m.act a) (t.add (m.trail c a)) := by
  have hchange := change_act m a
  refine ⟨h.sound.change hchange, by rw [hchange.config, h.config], fun hx' => ?_,
    fun x' hx' hrole => ?_⟩
  · cases hx : m.ends[c.value]? with
    | none =>
      rw [h.unopened hx, m.trail_of_none hx a]
      rfl
    | some x =>
      obtain ⟨x'', hx'', -⟩ := h.sound.becomes_of_change hchange hx
      cases hx'.symm.trans hx''
  · cases hx : m.ends[c.value]? with
    | none =>
      rw [h.unopened hx, m.trail_of_none hx a, ← h.config]
      rcases hchange.newEnd hx hx' with ⟨k, peer, rfl⟩ | ⟨peer, queue, rfl⟩
      · cases hrole
      · exact .dialed peer _ queue
    | some x =>
      obtain ⟨x'', hx'', hbecomes⟩ := h.sound.becomes_of_change hchange hx
      cases hx'.symm.trans hx''
      obtain ⟨y, hy, hwatched⟩ :=
        awaited_act h.sound hx (h.watched x hx (hbecomes.1.symm.trans hrole)) a
      cases hx'.symm.trans hy
      exact hwatched

theorem Awaits.follow (h : Awaits limit c m t) (as : List (Action α)) :
    Awaits limit c (m.follow c t as).1 (m.follow c t as).2 := by
  induction as generalizing m t with
  | nil => exact h
  | cons a rest ih => exact ih (h.act a)

omit [Vocabulary α] in
theorem awaits_ofConfig {config : Config} (h : ofConfig config = .ok m₀) (c : ConnectionId) :
    Awaits config.timings.maxFrameSize c m₀ .empty := by
  have hfresh := fresh_ofConfig h
  refine ⟨hfresh.sound, by rw [hfresh.config], fun _ => rfl, fun x hx => ?_⟩
  rw [hfresh.ends] at hx
  cases hx

end Member

end ActorMesh
