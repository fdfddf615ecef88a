import ActorMesh.Proofs.Links.Acknowledgement
import ActorMesh.Proofs.Members.Tending

/-!
# The lifecycle of a dialed link

What a lifecycle does to the link of its peer is told by its calls (`Lifecycle.Call`), and they
always come in one order: it dials, and then it either dials again or has that connection installed
and, before it dials once more, cleared (`Lifecycle.Call.May`). So it is whatever the peer sends,
whenever the connection ends, and whichever of the answer and the end the lifecycle notices first.

What an action makes of a lifecycle is one of five things (`Lifecycle.Turn`), and everything is told
from those. That installing fails is not among them: where a lifecycle does not serve the link of
its peer is down, since nobody else sets it (`Member.Tended`).
-/

namespace ActorMesh

/-! ### Calls -/

namespace Lifecycle.Call

/-- Which call may come after the last one. -/
def May : Option Call → Call → Prop
  | none, .dial _ => True
  -- the attempt came to nothing
  | some (.dial _), .dial _ => True
  | some (.dial c), .install d done => d = c ∧ done = true
  | some (.install c _), .clear d done => d = c ∧ done = true
  | some (.clear _ _), .dial _ => True
  | _, _ => False

/-- Whether calls come in the order of a lifecycle. -/
def Orderly (calls : List Call) : Prop :=
  ∀ pre x post, calls = pre ++ x :: post → May pre.getLast? x

theorem orderly_nil : Orderly [] := fun pre x post h => by
  cases pre <;> cases h

theorem Orderly.concat {calls : List Call} {x : Call} (h : Orderly calls)
    (hx : May calls.getLast? x) : Orderly (calls ++ [x]) := by
  intro pre y post heq
  rcases Inbound.append_eq_append_cons heq with ⟨post', hcalls⟩ | ⟨pre', rfl, htail⟩
  · exact h pre y post' hcalls
  · obtain ⟨rfl, rfl, -⟩ : pre' = [] ∧ y = x ∧ post = [] := by
      rcases pre' with _ | ⟨z, pre'⟩
      · cases htail
        exact ⟨rfl, rfl, rfl⟩
      · cases pre' <;> cases htail
    rwa [List.append_nil]

/-- Whatever was called to be installed was installed. -/
theorem Orderly.installed {calls : List Call} (h : Orderly calls) {c : ConnectionId} {done : Bool}
    (hmem : .install c done ∈ calls) : done = true := by
  obtain ⟨pre, post, heq⟩ := List.append_of_mem hmem
  have hmay := h pre _ post heq
  cases hlast : pre.getLast? with
  | none =>
    rw [hlast] at hmay
    exact hmay.elim
  | some x =>
    rw [hlast] at hmay
    cases x with
    | dial d => exact hmay.2
    | install d done' => exact hmay.elim
    | clear d done' => exact hmay.elim

end Lifecycle.Call

/-- Whether a lifecycle keeps its link up. -/
def Lifecycle.State.isServing : Lifecycle.State → Bool
  | .serving _ => true
  | _ => false

theorem Lifecycle.State.isServing_eq_false {s : Lifecycle.State} (h : ∀ c, s ≠ .serving c) :
    s.isServing = false := by
  cases s with
  | serving c => exact absurd rfl (h c)
  | _ => rfl

namespace Member

variable {α : Type} {m m' : Member α} {a : Action α} {call : Option (Nat × Lifecycle.Call)}
  {i : Nat} {l : Lifecycle}

/-! ### What an action makes of a lifecycle -/

/-- Whether an action is one of a lifecycle. -/
def Action.isOf (i : Nat) : Action α → Bool
  | .dialing j | .dialed j _ _ | .proceed j _ | .overlook j _ => decide (j = i)
  | _ => false

/-- A call, if it is one of the lifecycle. -/
def ownCall? (i : Nat) : Option (Nat × Lifecycle.Call) → Option Lifecycle.Call
  | some (j, x) => if j = i then some x else none
  | none => none

/-- How much a lifecycle adds to the count of links in an action. -/
def gain (i : Nat) (m : Member α) (a : Action α) (m' : Member α) : Int :=
  if a.isOf i then (m'.table.connected : Int) - m.table.connected else 0

/-- What an action makes of a lifecycle: its next state, its call and what it adds to the count of
links. -/
inductive Turn (m : Member α) (l : Lifecycle) :
    Lifecycle.State → Option Lifecycle.Call → Int → Prop
  | stays : Turn m l l.state none 0
  /-- It has no link, and goes where it has no connection. -/
  | roams {s : Lifecycle.State} (down : ∀ c, l.state ≠ .serving c) (away : s.connection? = none) :
    Turn m l s none 0
  | dials {s : Lifecycle.State} (idle : l.state.isDialing = true)
      (next : s = .registering m.nextConnection ∨ s.connection? = none) :
    Turn m l s (some (.dial m.nextConnection)) 0
  | installs {c : ConnectionId} (registering : l.state = .registering c)
      (answer : (m.dialedState? c).bind (·.answer) = some .success) :
    Turn m l (.serving c) (some (.install c true)) 1
  | clears {c : ConnectionId} {s : Lifecycle.State} (serving : l.state = .serving c)
      (away : s.connection? = none) : Turn m l s (some (.clear c true)) (-1)

theorem gain_of_table (h : m'.table = m.table) (i : Nat) (a : Action α) : gain i m a m' = 0 := by
  unfold gain
  split
  · rw [h]
    omega
  · rfl

/-- A call of another lifecycle is about that one only. -/
theorem turn_of_ne {j : Nat} {s : Lifecycle.State} {x : Lifecycle.Call}
    (hl : m.lifecycles[i]? = some l) (hj : j ≠ i) (ha : a.isOf i = false)
    (lifecycles : m'.lifecycles = (m.setLifecycle j s).lifecycles) :
    ∃ l', m'.lifecycles[i]? = some l' ∧ l'.peer = l.peer ∧
      Turn m l l'.state (ownCall? i (some (j, x))) (gain i m a m') := by
  refine ⟨l, ?_, rfl, ?_⟩
  · rw [lifecycles, getElem?_setLifecycle, if_neg hj.symm, hl]
  · rw [gain, ha, ownCall?, if_neg hj]
    exact .stays

/-- What an action makes of a lifecycle. -/
theorem Course.turn (h : Course m a m' call) (hm : m.Tended) (hl : m.lifecycles[i]? = some l) :
    ∃ l', m'.lifecycles[i]? = some l' ∧ l'.peer = l.peer ∧
      Turn m l l'.state (ownCall? i call) (gain i m a m') := by
  have hset : ∀ {s : Lifecycle.State}, m'.lifecycles = (m.setLifecycle i s).lifecycles →
      m'.lifecycles[i]? = some { l with state := s } := fun hls => by
    rw [hls, getElem?_setLifecycle, if_pos rfl, hl]
    rfl
  cases h with
  | aside table lifecycles =>
    rw [gain_of_table table]
    exact ⟨l, lifecycles ▸ hl, rfl, .stays⟩
  | start table lifecycles once =>
    refine ⟨l, ?_, rfl, .stays⟩
    rw [lifecycles]
    exact List.getElem?_append_left (List.getElem?_eq_some_iff.1 hl).1 ▸ hl
  | inbound admitting table lifecycles =>
    refine ⟨l, lifecycles ▸ hl, rfl, ?_⟩
    have ha : a.isOf i = false := by cases admitting <;> rfl
    rw [gain, ha]
    exact .stays
  | @roams _ _ j l₀ s before down away table lifecycles =>
    rw [gain_of_table table]
    by_cases hj : j = i
    · subst hj
      cases before.symm.trans hl
      exact ⟨_, hset lifecycles, rfl, .roams down away⟩
    · refine ⟨l, ?_, rfl, .stays⟩
      rw [lifecycles, getElem?_setLifecycle, if_neg (Ne.symm hj), hl]
  | @dialed j now peer _ l₀ s before idle next table lifecycles =>
    by_cases hj : j = i
    · subst hj
      cases before.symm.trans hl
      rw [gain_of_table table, ownCall?, if_pos rfl]
      exact ⟨_, hset lifecycles, rfl, .dials idle next⟩
    · exact turn_of_ne hl hj (decide_eq_false hj) lifecycles
  | @installed j now _ l₀ c before registering answer link lifecycles =>
    by_cases hj : j = i
    · subst hj
      cases before.symm.trans hl
      obtain ⟨-, htable⟩ := LinkTable.installClient_eq_some_iff.1 link
      have hgain : gain j m (.proceed j now) m' = 1 := by
        simp only [gain, Action.isOf, decide_true, if_true, htable]
        omega
      rw [hgain, ownCall?, if_pos rfl]
      exact ⟨_, hset lifecycles, rfl, .installs registering answer⟩
    · exact turn_of_ne hl hj (decide_eq_false hj) lifecycles
  | @refused j now _ l₀ c s before registering link away table lifecycles =>
    -- the link of a lifecycle that registers is down, so the connection would have been installed
    have hdown := hm.link?_eq_disconnected before fun c => by simp [registering]
    have hinstall : ∃ t, m.table.installClient l₀.peer.id c = some t :=
      ⟨_, LinkTable.installClient_eq_some_iff.2 ⟨hdown, rfl⟩⟩
    obtain ⟨t, ht⟩ := hinstall
    cases link.symm.trans ht
  | @cleared j now _ l₀ c s before serving away table lifecycles =>
    by_cases hj : j = i
    · subst hj
      cases before.symm.trans hl
      have hup := (hm.served j l before c).2 serving
      have hpos : 0 < m.table.connected := hm.links.connected_pos (s := l.peer.id) (by
        rw [LinkTable.isUp_eq hup]
        rfl)
      have hgain : gain j m (.proceed j now) m' = -1 := by
        simp only [gain, Action.isOf, decide_true, if_true, table, LinkTable.clearClient, hup]
        omega
      rw [hgain, ownCall?, if_pos rfl, decide_eq_true hup]
      exact ⟨_, hset lifecycles, rfl, .clears serving away⟩
    · exact turn_of_ne hl hj (decide_eq_false hj) lifecycles

/-- A lifecycle that has not begun does nothing, and when it begins it is about to dial. -/
theorem Course.unborn (h : Course m a m' call) (hl : m.lifecycles[i]? = none) :
    ownCall? i call = none ∧ gain i m a m' = 0 ∧
      ∀ l', m'.lifecycles[i]? = some l' → l'.state = .due := by
  have hset : ∀ {j : Nat} {l : Lifecycle} {s : Lifecycle.State}, m.lifecycles[j]? = some l →
      m'.lifecycles = (m.setLifecycle j s).lifecycles →
      j ≠ i ∧ ∀ l', m'.lifecycles[i]? = some l' → l'.state = .due := fun {j l s} before hls => by
    have hj : j ≠ i := fun heq => by
      rw [heq, hl] at before
      cases before
    refine ⟨hj, fun l' hl' => ?_⟩
    rw [hls, getElem?_setLifecycle, if_neg hj.symm, hl] at hl'
    cases hl'
  cases h with
  | aside table lifecycles =>
    refine ⟨rfl, gain_of_table table i a, fun l' hl' => ?_⟩
    rw [lifecycles, hl] at hl'
    cases hl'
  | @start _ _ _ begun table lifecycles once =>
    refine ⟨rfl, rfl, fun l' hl' => ?_⟩
    rw [lifecycles, List.getElem?_append_right (List.getElem?_eq_none_iff.1 hl)] at hl'
    rcases once with rfl | ⟨-, rfl⟩
    · cases hl'
    · obtain ⟨p, -, rfl⟩ := List.mem_map.1 (List.mem_of_getElem? hl')
      rfl
  | inbound admitting table lifecycles =>
    have ha : a.isOf i = false := by cases admitting <;> rfl
    refine ⟨rfl, by simp [gain, ha], fun l' hl' => ?_⟩
    rw [lifecycles, hl] at hl'
    cases hl'
  | roams before _ _ table lifecycles =>
    exact ⟨rfl, gain_of_table table i _, (hset before lifecycles).2⟩
  | dialed before _ _ table lifecycles =>
    obtain ⟨hj, hdue⟩ := hset before lifecycles
    exact ⟨if_neg hj, gain_of_table table i _, hdue⟩
  | installed before _ _ _ lifecycles =>
    obtain ⟨hj, hdue⟩ := hset before lifecycles
    exact ⟨if_neg hj, by simp [gain, Action.isOf, hj], hdue⟩
  | refused before _ _ _ table lifecycles =>
    obtain ⟨hj, hdue⟩ := hset before lifecycles
    exact ⟨if_neg hj, gain_of_table table i _, hdue⟩
  | cleared before _ _ _ lifecycles =>
    obtain ⟨hj, hdue⟩ := hset before lifecycles
    exact ⟨if_neg hj, by simp [gain, Action.isOf, hj], hdue⟩

/-! ### Many actions -/

variable [Vocabulary α]

/-- A member after actions, one after another. -/
def run (m : Member α) (as : List (Action α)) : Member α := as.foldl act m

/-- The calls of a lifecycle in actions. -/
def calls (i : Nat) : Member α → List (Action α) → List Lifecycle.Call
  | _, [] => []
  | m, a :: as => (ownCall? i (m.call? a)).toList ++ calls i (m.act a) as

/-- What a lifecycle adds to the count of links in actions. -/
def gains (i : Nat) : Member α → List (Action α) → Int
  | _, [] => 0
  | m, a :: as => gain i m a (m.act a) + gains i (m.act a) as

theorem follow_eq_run (m : Member α) (c : ConnectionId) (t : Trail α) (as : List (Action α)) :
    (m.follow c t as).1 = m.run as := by
  induction as generalizing m t with
  | nil => rfl
  | cons a as ih => exact ih _ _

theorem Tended.run (h : m.Tended) (as : List (Action α)) : (m.run as).Tended := by
  induction as generalizing m with
  | nil => exact h
  | cons a as ih => exact ih (h.act a)

/-- Whether the registration on a connection that the member dialed was accepted. -/
def HasAccepted (m : Member α) (c : ConnectionId) : Prop :=
  ∃ x, m.ends[c.value]? = some x ∧ x.role.session? = none ∧ x.role.answer? = some .success

/-- What was accepted stays so. -/
theorem HasAccepted.act {c : ConnectionId} (h : m.HasAccepted c) (hm : m.Tended) (a : Action α) :
    (m.act a).HasAccepted c := by
  obtain ⟨x, hx, hrole, hanswer⟩ := h
  obtain ⟨x', hx', hbecomes⟩ := hm.sound.becomes_of_change (change_act m a) hx
  exact ⟨x', hx', hbecomes.1.trans hrole, hbecomes.2 _ hanswer⟩

omit [Vocabulary α] in
/-- The connection of a lifecycle that installs it is one that accepted the registration. -/
theorem hasAccepted_of_answer {c : ConnectionId}
    (answer : (m.dialedState? c).bind (·.answer) = some .success) : m.HasAccepted c := by
  obtain ⟨d, hd, hsuccess⟩ := Option.bind_eq_some_iff.1 answer
  unfold dialedState? at hd
  split at hd
  · rename_i connection hx
    cases hd
    exact ⟨_, hx, rfl, hsuccess⟩
  · cases hd

/-- What the state of a lifecycle has to do with its calls and with what it has added to the count
of links. -/
structure Told (s : Lifecycle.State) (calls : List Lifecycle.Call) (share : Int) : Prop where
  orderly : Lifecycle.Call.Orderly calls
  serving : ∀ c, s = .serving c ↔ calls.getLast? = some (.install c true)
  registering : ∀ c, s = .registering c → calls.getLast? = some (.dial c)
  share : share = if s.isServing then 1 else 0

namespace Told

variable {s s' : Lifecycle.State} {calls : List Lifecycle.Call} {share : Int}

theorem due : Told .due [] 0 := by
  refine ⟨Lifecycle.Call.orderly_nil, fun c => ?_, fun c hc => ?_, rfl⟩
  · simp
  · cases hc

/-- The last call of a lifecycle that does not serve lets it dial. -/
theorem may_dial (h : Told s calls share) (down : ∀ c, s ≠ .serving c) (c : ConnectionId) :
    Lifecycle.Call.May calls.getLast? (.dial c) := by
  cases hlast : calls.getLast? with
  | none => trivial
  | some y =>
    cases y with
    | dial d => trivial
    | clear d done => trivial
    | install d done =>
      obtain rfl := h.orderly.installed (List.mem_of_getLast? hlast)
      exact absurd ((h.serving d).2 hlast) (down d)

theorem roams (h : Told s calls share) (down : ∀ c, s ≠ .serving c)
    (away : s'.connection? = none) : Told s' calls share := by
  refine ⟨h.orderly, fun c => ?_, fun c hc => absurd hc (Lifecycle.State.ne_registering away c), ?_⟩
  · rw [← h.serving c]
    exact iff_of_false (Lifecycle.State.ne_serving away c) (down c)
  · rw [h.share, Lifecycle.State.isServing_eq_false down,
      Lifecycle.State.isServing_eq_false (Lifecycle.State.ne_serving away)]

theorem dials (h : Told s calls share) (down : ∀ c, s ≠ .serving c) {c : ConnectionId}
    (next : s' = .registering c ∨ s'.connection? = none) :
    Told s' (calls ++ [.dial c]) share := by
  have hdown : ∀ d, s' ≠ .serving d := fun d hd => by
    rcases next with rfl | away
    · cases hd
    · exact Lifecycle.State.ne_serving away d hd
  refine ⟨h.orderly.concat (h.may_dial down c), fun d => ?_, fun d hd => ?_, ?_⟩
  · rw [List.getLast?_concat]
    exact iff_of_false (hdown d) (by simp)
  · rw [List.getLast?_concat]
    rcases next with rfl | away
    · cases hd
      rfl
    · exact absurd hd (Lifecycle.State.ne_registering away d)
  · rw [h.share, Lifecycle.State.isServing_eq_false down,
      Lifecycle.State.isServing_eq_false hdown]

theorem installs {c : ConnectionId} (h : Told (.registering c) calls share) :
    Told (.serving c) (calls ++ [.install c true]) (share + 1) := by
  have hmay : Lifecycle.Call.May calls.getLast? (.install c true) := by
    rw [h.registering c rfl]
    exact ⟨rfl, rfl⟩
  refine ⟨h.orderly.concat hmay, fun d => ?_, fun d hd => ?_, ?_⟩
  · rw [List.getLast?_concat]
    simp
  · cases hd
  · rw [h.share]
    rfl

theorem clears {c : ConnectionId} (h : Told (.serving c) calls share)
    (away : s'.connection? = none) : Told s' (calls ++ [.clear c true]) (share + -1) := by
  have hmay : Lifecycle.Call.May calls.getLast? (.clear c true) := by
    rw [(h.serving c).1 rfl]
    exact ⟨rfl, rfl⟩
  refine ⟨h.orderly.concat hmay, fun d => ?_,
    fun d hd => absurd hd (Lifecycle.State.ne_registering away d), ?_⟩
  · rw [List.getLast?_concat]
    exact iff_of_false (Lifecycle.State.ne_serving away d) (by simp)
  · rw [h.share, Lifecycle.State.isServing_eq_false (Lifecycle.State.ne_serving away)]
    rfl

end Told

omit [Vocabulary α] in
/-- What is told of a lifecycle stays true in whatever it is turned to. -/
theorem Turn.told {s : Lifecycle.State} {x : Option Lifecycle.Call} {g : Int}
    {calls : List Lifecycle.Call} {share : Int} (h : Turn m l s x g)
    (ht : Told l.state calls share) : Told s (calls ++ x.toList) (share + g) := by
  cases h with
  | stays =>
    rw [Option.toList_none, List.append_nil, Int.add_zero]
    exact ht
  | roams down away =>
    rw [Option.toList_none, List.append_nil, Int.add_zero]
    exact ht.roams down away
  | dials idle next =>
    rw [Option.toList_some, Int.add_zero]
    have haway := Lifecycle.State.connection?_of_isDialing idle
    exact ht.dials (Lifecycle.State.ne_serving haway) next
  | installs registering answer =>
    rw [registering] at ht
    exact ht.installs
  | clears serving away =>
    rw [serving] at ht
    exact ht.clears away

omit [Vocabulary α] in
/-- A lifecycle has only a connection installed on which the registration was accepted. -/
theorem Turn.accepted {s : Lifecycle.State} {x : Option Lifecycle.Call} {g : Int}
    (h : Turn m l s x g) {c : ConnectionId} (hx : x = some (.install c true)) :
    m.HasAccepted c := by
  cases h with
  | installs registering answer =>
    cases hx
    exact hasAccepted_of_answer answer
  | _ => cases hx

omit [Vocabulary α] in
/-- What holds of a lifecycle of a member, by its place, from before it begins. -/
structure Recorded (i : Nat) (m : Member α) (calls : List Lifecycle.Call) (share : Int) :
    Prop where
  unborn : m.lifecycles[i]? = none → calls = [] ∧ share = 0
  told : ∀ l, m.lifecycles[i]? = some l → Told l.state calls share
  accepted : ∀ c, .install c true ∈ calls → m.HasAccepted c

theorem Recorded.act {calls : List Lifecycle.Call} {share : Int} (h : Recorded i m calls share)
    (hm : m.Tended) (a : Action α) :
    Recorded i (m.act a) (calls ++ (ownCall? i (m.call? a)).toList)
      (share + gain i m a (m.act a)) := by
  have hcourse := course_act hm.sound a
  cases hl : m.lifecycles[i]? with
  | none =>
    obtain ⟨hcall, hgain, hdue⟩ := hcourse.unborn hl
    obtain ⟨rfl, rfl⟩ := h.unborn hl
    rw [hcall, hgain]
    refine ⟨fun _ => ⟨rfl, rfl⟩, fun l' hl' => ?_, fun c hc => by cases hc⟩
    rw [hdue l' hl']
    exact .due
  | some l =>
    obtain ⟨l', hl', -, hturn⟩ := hcourse.turn hm hl
    refine ⟨fun hnone => ?_, fun l'' hl'' => ?_, fun c hc => ?_⟩
    · cases hl'.symm.trans hnone
    · cases hl'.symm.trans hl''
      exact hturn.told (h.told l hl)
    · rcases List.mem_append.1 hc with hc | hc
      · exact (h.accepted c hc).act hm a
      · exact (hturn.accepted (Option.mem_toList.1 hc)).act hm a

theorem Recorded.run {calls : List Lifecycle.Call} {share : Int} (h : Recorded i m calls share)
    (hm : m.Tended) (as : List (Action α)) :
    Recorded i (m.run as) (calls ++ m.calls i as) (share + m.gains i as) := by
  induction as generalizing m calls share with
  | nil =>
    rw [Member.calls, gains, List.append_nil, Int.add_zero]
    exact h
  | cons a as ih =>
    rw [Member.calls, gains, ← List.append_assoc, ← Int.add_assoc]
    exact ih (h.act hm a) (hm.act a)

/-- What is told of a lifecycle when anything has happened to its member. -/
theorem recorded_run {config : Config} (h : ofConfig config = .ok m) (i : Nat)
    (as : List (Action α)) : Recorded i (m.run as) (m.calls i as) (m.gains i as) := by
  have hnone : m.lifecycles[i]? = none := by rw [(fresh_ofConfig h).lifecycles, List.getElem?_nil]
  have hrecorded : Recorded i m [] 0 := by
    refine ⟨fun _ => ⟨rfl, rfl⟩, fun l hl => ?_, fun c hc => by cases hc⟩
    cases hnone.symm.trans hl
  have hrun := hrecorded.run (tended_ofConfig h) as
  rwa [List.nil_append, Int.zero_add] at hrun

/-! ### The whole of a lifecycle -/

/-- What a lifecycle does to the link of its peer in actions of its member. -/
structure Governed (m₀ : Member α) (as : List (Action α)) (i : Nat) (l : Lifecycle) : Prop where
  /-- The member dials the peer, and no other lifecycle is about it. -/
  dialed : (m₀.run as).table.dials? l.peer.id = some true
  only : ∀ j l', (m₀.run as).lifecycles[j]? = some l' → l'.peer.id = l.peer.id → j = i
  /-- Every connection is dialed, installed and cleared in this order, and both succeed. -/
  orderly : Lifecycle.Call.Orderly (m₀.calls i as)
  installed : ∀ c done, .install c done ∈ m₀.calls i as → done = true
  /-- The link is up on a connection exactly from its installation to its clearing. -/
  link_iff : ∀ c, (m₀.run as).table.link? l.peer.id = some (.client c) ↔
    (m₀.calls i as).getLast? = some (.install c true)
  down : (∀ c, (m₀.calls i as).getLast? ≠ some (.install c true)) →
    (m₀.run as).table.link? l.peer.id = some .disconnected
  /-- Only a connection was installed on which the first answer that arrived was a success. -/
  acknowledged : ∀ c, .install c true ∈ m₀.calls i as → ∃ pre f post,
    (Frame.split m₀.config.timings.maxFrameSize (m₀.follow c .empty as).2.read).frames =
      pre ++ f :: post ∧
    (∀ g ∈ pre, PackageKind.ofByte? g.mark ≠ some .registerResponse) ∧
    PackageKind.ofByte? f.mark = some .registerResponse ∧
    ErrorCode.layout.decode f.payload = .ok .success
  /-- On a connection that the member dialed, an answer behind the first one changes nothing. -/
  late : ∀ (c : ConnectionId) x, (m₀.run as).ends[c.value]? = some x → x.role.session? = none →
    ∀ pre d post, (m₀.follow c .empty as).2.deeds = pre ++ d :: post →
    d.kind? = some .registerResponse → (∃ b ∈ pre, b.kind? = some .registerResponse) →
    d.reaction.state = d.before ∧ d.reaction.outlet = d.outlet ∧ d.reaction.fault = none
  /-- Whenever it is about to dial, the link is down and it has added nothing to the count. -/
  dialing : l.state.isDialing = true →
    (m₀.run as).table.link? l.peer.id = some .disconnected ∧ m₀.gains i as = 0

/-- Whatever happens at a member, its lifecycles govern the links to the peers that it dials. -/
theorem governed_of_run {config : Config} {m₀ : Member α} (h₀ : ofConfig config = .ok m₀)
    {as : List (Action α)} (hl : (m₀.run as).lifecycles[i]? = some l) : Governed m₀ as i l := by
  have htended := (tended_ofConfig h₀).run as
  have hrecorded := recorded_run h₀ i as
  have htold := hrecorded.told l hl
  have hconfig : m₀.config = config := (fresh_ofConfig h₀).config
  have hwatched : ∀ (c : ConnectionId) x, (m₀.run as).ends[c.value]? = some x →
      x.role.session? = none → Outbound.Watched config.timings.maxFrameSize x
        (m₀.follow c .empty as).2 := fun c x hx hrole => by
    have hawaits := (awaits_ofConfig h₀ c).follow as
    rw [follow_eq_run] at hawaits
    exact hawaits.watched x hx hrole
  have hup : ∀ c, (m₀.run as).table.link? l.peer.id = some (.client c) ↔
      (m₀.calls i as).getLast? = some (.install c true) := fun c =>
    (htended.served i l hl c).trans (htold.serving c)
  refine {
    dialed := htended.dials?_peer (List.mem_of_getElem? hl)
    only := fun j l' hl' hid => htended.only hl' hl hid
    orderly := htold.orderly
    installed := fun c done hmem => htold.orderly.installed hmem
    link_iff := hup
    down := fun hnone => htended.link?_eq_disconnected hl fun c hc =>
      hnone c ((htold.serving c).1 hc)
    acknowledged := fun c hmem => ?_
    late := fun c x hx hrole pre d post heq hkind hearlier => ?_
    dialing := fun hdialing => ?_ }
  · obtain ⟨x, hx, hrole, hanswer⟩ := hrecorded.accepted c hmem
    have h := hwatched c x hx hrole
    rw [h.answer, Outbound.answer?_eq_success_iff] at hanswer
    obtain ⟨pre, f, post, heq, hpre, hkind, hdecode⟩ := hanswer
    obtain ⟨rest, hframes⟩ := h.frames
    refine ⟨pre, f, post ++ rest, ?_, hpre, hkind, hdecode⟩
    rw [hconfig, ← hframes, heq, List.append_assoc, List.cons_append]
  · have hjudged := (hwatched c x hx hrole).judged pre d post heq
    have hknown : Outbound.answer? (pre.map (·.frame)) ≠ none := by
      obtain ⟨b, hb, hb'⟩ := hearlier
      rw [Deed.kind?] at hb'
      rw [Outbound.answer?, ne_eq, List.findSome?_eq_none_iff]
      intro hall
      have hnone := hall b.frame (List.mem_map_of_mem hb)
      rw [Outbound.code?, if_pos hb'] at hnone
      cases hnone
    exact ⟨hjudged.late hknown hkind, hjudged.silent, hjudged.harmless hkind⟩
  · have hdown := Lifecycle.State.ne_serving (Lifecycle.State.connection?_of_isDialing hdialing)
    refine ⟨htended.link?_eq_disconnected hl hdown, ?_⟩
    rw [htold.share, Lifecycle.State.isServing_eq_false hdown]
    rfl

/-- A member is refused by the peer that it dials, then accepted and at once refused again, loses
that connection, and is accepted once more on one that ends before it notices. -/
def reconnecting : List (Action Sample) :=
  let answer (code : ErrorCode) := (Registration.response code).write
  let ends (c : ConnectionId) : List (Action Sample) :=
    [.event c .inputEnded, .event c .polled, .event c .writeFailed, .event c .shutDown]
  [.start true 0, .dialing 0, .dialed 0 0 (.ok none), .event ⟨0⟩ .started,
    .event ⟨0⟩ (.received (answer .duplicateRegistration)), .proceed 0 0,
    .proceed 0 100000, .dialing 0, .dialed 0 100000 (.ok none), .event ⟨1⟩ .started,
    .event ⟨1⟩ (.received (answer .success ++ answer .duplicateRegistration)),
    .proceed 0 100000] ++ ends ⟨1⟩ ++
  [.proceed 0 100000, .proceed 0 200000, .dialing 0, .dialed 0 200000 (.ok none),
    .event ⟨2⟩ .started, .event ⟨2⟩ (.received (answer .success))] ++ ends ⟨2⟩ ++
  [.overlook 0 200000, .proceed 0 300000]

theorem governed_reconnecting :
    ∃ l, ofConfig LinkTable.trio = .ok middle ∧
      (middle.run reconnecting).lifecycles[0]? = some l ∧ Governed middle reconnecting 0 l ∧
      middle.calls 0 reconnecting =
        [.dial ⟨0⟩, .dial ⟨1⟩, .install ⟨1⟩ true, .clear ⟨1⟩ true, .dial ⟨2⟩] ∧
      l.state = .due := by
  have h₀ : ofConfig LinkTable.trio = .ok middle := rfl
  have hstate : ((middle.run reconnecting).lifecycles[0]?).map (·.state) = some .due := by
    decide +kernel
  obtain ⟨l, hl, hdue⟩ := Option.map_eq_some_iff.1 hstate
  exact ⟨l, h₀, hl, governed_of_run h₀ hl, by decide +kernel, hdue⟩

end Member

end ActorMesh
