import ActorMesh.Proofs.Members.Connections
import Mathlib.Data.Fintype.Defs
import Mathlib.Logic.Function.Basic

/-!
# Clusters

Members and the streams between them. A connection that one member dialed and another accepted has
two **tips**, and from each of them a stream runs to the other: what was written at the one and has
not been read at the other is **in flight**, and is read in the order in which it was written, in
any pieces. Any other connection leads out of the cluster, and anything may arrive on it.

A cluster **moves** (`Cluster.after`) when one of its members does something or when one reaches
another. Times, the order of moves and the failures of connections are free, so a `Cluster.Run` is
any interleaving of what the members do. A move is impossible only if it reads what nobody wrote, or
if it reaches somebody else under the number of a member.
-/

namespace ActorMesh

/-- A connection as one of its two members has it. -/
abbrev Tip (ι : Type) := ι × ConnectionId

/-- Members and the streams between them. -/
structure Cluster (ι α : Type) where
  member : ι → Member α
  /-- The other tip of a connection between two members. -/
  far : Tip ι → Option (Tip ι)
  /-- What was written at a tip and has not been read at the other. -/
  flying : Tip ι → Octets

namespace Cluster

/-- What happens in a cluster. -/
inductive Move (ι α : Type) where
  /-- A member does something. -/
  | act (a : ι) (x : Member.Action α)
  /-- A lifecycle of a member reaches another member. -/
  | dial (a b : ι) (i now : Nat) (peer origin : Option Address)

/-- Something happens to a connection at one of its tips. -/
abbrev Move.event {ι α : Type} (p : Tip ι) (e : Connection.Event) : Move ι α :=
  .act p.1 (.event p.2 e)

variable {ι α : Type}

/-- Members without connections. -/
def ofMembers (member : ι → Member α) : Cluster ι α := ⟨member, fun _ => none, fun _ => []⟩

/-- The number of a member. -/
def systemId (n : Cluster ι α) (a : ι) : SystemId := (n.member a).table.localId

/-- A connection at one of its tips. -/
def end? (n : Cluster ι α) (p : Tip ι) : Option LinkEnd := (n.member p.1).ends[p.2.value]?

/-- The tip of the next connection of a member. -/
def nextTip (n : Cluster ι α) (a : ι) : Tip ι := (a, (n.member a).nextConnection)

section

variable [DecidableEq ι]

/-- What a move is to a member. -/
def Move.at? (a : ι) : Move ι α → Option (Member.Action α)
  | .act b x => if a = b then some x else none
  | .dial b c i now peer origin =>
    if a = c then some (.accept origin)
    else if a = b then some (.dialed i now (.ok peer))
    else none

/-- The connections between members after a move. -/
def join (n : Cluster ι α) : Move ι α → Tip ι → Option (Tip ι)
  | .act _ _ => n.far
  | .dial a b _ _ _ _ =>
    Function.update (Function.update n.far (n.nextTip a) (some (n.nextTip b)))
      (n.nextTip b) (some (n.nextTip a))

/-- What is in flight after an event at a tip. -/
def flowEvent (n : Cluster ι α) (p : Tip ι) (e : Connection.Event) : Tip ι → Octets :=
  match n.end? p with
  | none => n.flying
  | some x =>
    let left := match n.far p with
      | none => n.flying
      | some q => Function.update n.flying q ((n.flying q).drop (x.connection.heard e).length)
    Function.update left p (left p ++ x.connection.emitted e)

/-- What is in flight after a move. -/
def flow (n : Cluster ι α) : Move ι α → Tip ι → Octets
  | .act a (.event c e) => n.flowEvent (a, c) e
  | .act _ _ => n.flying
  | .dial a b _ _ _ _ =>
    Function.update (Function.update n.flying (n.nextTip a) []) (n.nextTip b) []

/-- A cluster after a move. -/
def after [Vocabulary α] (n : Cluster ι α) (m : Move ι α) : Cluster ι α where
  member a := (m.at? a).elim (n.member a) (n.member a).act
  far := n.join m
  flying := n.flow m

end

/-- Whether a move can happen: only what was written is read, and whoever dials a member reaches
that member. -/
def Possible (n : Cluster ι α) : Move ι α → Prop
  | .act a (.event c e) =>
    ∀ x ∈ n.end? (a, c), ∀ q ∈ n.far (a, c), x.connection.heard e <+: n.flying q
  | .act a (.dialed i _ (.ok _)) =>
    ∀ l ∈ (n.member a).lifecycles[i]?, ∀ b, n.systemId b ≠ l.peer.id
  | .act _ _ => True
  | .dial a b i _ _ _ =>
    a ≠ b ∧ ∃ l ∈ (n.member a).lifecycles[i]?, l.state.isDialing = true ∧ l.peer.id = n.systemId b

instance [Fintype ι] [DecidableEq ι] (n : Cluster ι α) : (m : Move ι α) → Decidable (n.Possible m)
  | .act a (.event c e) => inferInstanceAs
    (Decidable (∀ x ∈ n.end? (a, c), ∀ q ∈ n.far (a, c), x.connection.heard e <+: n.flying q))
  | .act a (.dialed i _ (.ok _)) => inferInstanceAs
    (Decidable (∀ l ∈ (n.member a).lifecycles[i]?, ∀ b, n.systemId b ≠ l.peer.id))
  | .act _ (.dialed _ _ (.error _)) | .act _ (.registerMessage _ _) | .act _ (.registerActor _)
  | .act _ (.start _ _) | .act _ (.lookAgain _) | .act _ (.dialing _) | .act _ (.proceed _ _)
  | .act _ (.overlook _ _) | .act _ (.accept _) | .act _ (.close _) | .act _ (.send _ _)
  | .act _ (.route _) => .isTrue trivial
  | .dial a b i _ _ _ => inferInstanceAs
    (Decidable (a ≠ b ∧ ∃ l ∈ (n.member a).lifecycles[i]?,
      l.state.isDialing = true ∧ l.peer.id = n.systemId b))

/-- A cluster after possible moves. -/
inductive Run [DecidableEq ι] [Vocabulary α] (n₀ : Cluster ι α) : Cluster ι α → Prop
  | start : Run n₀ n₀
  | move {n : Cluster ι α} (m : Move ι α) (run : Run n₀ n) (possible : n.Possible m) :
    Run n₀ (n.after m)

variable [DecidableEq ι] [Vocabulary α] {n n₀ : Cluster ι α} {m : Move ι α} {p q : Tip ι}
  {e : Connection.Event} {x : LinkEnd}

/-- A cluster after one move after another. -/
def afterAll (n : Cluster ι α) : List (Move ι α) → Cluster ι α
  | [] => n
  | m :: ms => (n.after m).afterAll ms

/-- Whether moves can happen one after another. -/
def PossibleAll (n : Cluster ι α) : List (Move ι α) → Prop
  | [] => True
  | m :: ms => n.Possible m ∧ (n.after m).PossibleAll ms

instance decidablePossibleAll [Fintype ι] (n : Cluster ι α) :
    (ms : List (Move ι α)) → Decidable (n.PossibleAll ms)
  | [] => .isTrue trivial
  | m :: ms =>
    have := decidablePossibleAll (n.after m) ms
    inferInstanceAs (Decidable (n.Possible m ∧ (n.after m).PossibleAll ms))

theorem afterAll_append (n : Cluster ι α) (ms ms' : List (Move ι α)) :
    n.afterAll (ms ++ ms') = (n.afterAll ms).afterAll ms' := by
  induction ms generalizing n with
  | nil => rfl
  | cons m ms ih => exact ih (n.after m)

theorem Run.afterAll (run : n₀.Run n) {ms : List (Move ι α)} (possible : n.PossibleAll ms) :
    n₀.Run (n.afterAll ms) := by
  induction ms generalizing n with
  | nil => exact run
  | cons m ms ih => exact ih (run.move m possible.1) possible.2

/-! ### What a move changes -/

/-- A member does what the move is to it. -/
theorem member_after (n : Cluster ι α) (m : Move ι α) (a : ι) :
    (∃ x, m.at? a = some x ∧ (n.after m).member a = (n.member a).act x) ∨
      m.at? a = none ∧ (n.after m).member a = n.member a := by
  cases hm : m.at? a with
  | none => exact .inr ⟨rfl, by simp only [after, hm, Option.elim]⟩
  | some x => exact .inl ⟨x, rfl, by simp only [after, hm, Option.elim]⟩

theorem change_after (n : Cluster ι α) (m : Move ι α) (a : ι) :
    (∃ x, m.at? a = some x ∧ Member.Change (n.member a) x ((n.after m).member a)) ∨
      m.at? a = none ∧ (n.after m).member a = n.member a := by
  refine (n.member_after m a).imp_left ?_
  rintro ⟨x, hx, hact⟩
  exact ⟨x, hx, hact ▸ Member.change_act _ x⟩

/-- What every action of a member keeps, every move keeps. -/
theorem after_keeps {P : Member α → Prop} (act : ∀ m x, P m → P (m.act x)) {a : ι}
    (h : P (n.member a)) (m : Move ι α) : P ((n.after m).member a) := by
  rcases n.member_after m a with ⟨x, -, hact⟩ | ⟨-, hsame⟩
  · rw [hact]
    exact act _ x h
  · rw [hsame]
    exact h

theorem Run.keeps {P : Member α → Prop} (act : ∀ m x, P m → P (m.act x)) {a : ι}
    (h : P (n₀.member a)) (run : n₀.Run n) : P (n.member a) := by
  induction run with
  | start => exact h
  | move m _ _ ih => exact after_keeps act ih m

omit [Vocabulary α] in
/-- An event is one of a single member. -/
theorem at?_event (p : Tip ι) (e : Connection.Event) (a : ι) :
    (Move.event p e : Move ι α).at? a = if a = p.1 then some (.event p.2 e) else none := rfl

omit [Vocabulary α] in
/-- What a move is to a member: what the member does, or one end of a new connection. -/
theorem at?_eq_some {a : ι} {x : Member.Action α} (h : m.at? a = some x) :
    m = .act a x ∨ (∃ b i now peer origin, m = .dial b a i now peer origin ∧ x = .accept origin) ∨
      ∃ b i now peer origin, m = .dial a b i now peer origin ∧ x = .dialed i now (.ok peer) := by
  cases m with
  | act b y =>
    simp only [Move.at?] at h
    split at h
    · rename_i ha
      cases h
      exact .inl (by rw [ha])
    · cases h
  | dial b c i now peer origin =>
    simp only [Move.at?] at h
    split at h
    · rename_i ha
      cases h
      exact .inr (.inl ⟨b, i, now, peer, origin, by rw [ha], rfl⟩)
    · split at h
      · rename_i ha
        cases h
        exact .inr (.inr ⟨c, i, now, peer, origin, by rw [ha], rfl⟩)
      · cases h

omit [Vocabulary α] in
/-- Only a member itself does what has nothing to do with being connected. -/
theorem eq_act_of_at? {a : ι} {x : Member.Action α} (h : m.at? a = some x)
    (accept : ∀ peer, x ≠ .accept peer) (dialed : ∀ i now answer, x ≠ .dialed i now answer) :
    m = .act a x := by
  rcases at?_eq_some h with hm | ⟨_, _, _, _, _, -, heq⟩ | ⟨_, _, _, _, _, -, heq⟩
  · exact hm
  · exact absurd heq (accept _)
  · exact absurd heq (dialed _ _ _)

omit [Vocabulary α] in
/-- Only an event at a tip is an event of the connection. -/
theorem at?_eq_event_iff :
    m.at? p.1 = some (.event p.2 e) ↔ m = .event p e := by
  constructor
  · intro h
    exact eq_act_of_at? h (by simp) (by simp)
  · rintro rfl
    exact if_pos rfl

theorem member_event (n : Cluster ι α) (p : Tip ι) (e : Connection.Event) (a : ι) :
    (n.after (.event p e)).member a =
      if a = p.1 then ((n.member a).happen p.2 e).1 else n.member a := by
  simp only [after, at?_event]
  split <;> rfl

theorem end?_event (hx : n.end? p = some x) (q : Tip ι) :
    (n.after (.event p e)).end? q =
      if q = p then
        some ⟨(x.step (n.member p.1).core e).state.2, (x.step (n.member p.1).core e).connection⟩
      else n.end? q := by
  obtain ⟨a, c⟩ := p
  obtain ⟨b, d⟩ := q
  simp only [end?, member_event, Prod.mk.injEq]
  by_cases hb : b = a
  · subst hb
    rw [if_pos rfl, Member.getElem?_ends_happen hx]
    simp only [true_and]
  · rw [if_neg hb, if_neg fun h => hb h.1]

theorem flying_event (hx : n.end? p = some x) (hq : n.far p = some q) (hne : q ≠ p) :
    (n.after (.event p e)).flying p = n.flying p ++ x.connection.emitted e ∧
      (n.after (.event p e)).flying q = (n.flying q).drop (x.connection.heard e).length := by
  have hflow : (n.after (.event p e)).flying = n.flowEvent p e := rfl
  rw [hflow]
  simp only [flowEvent, hx, hq]
  constructor
  · rw [Function.update_self, Function.update_of_ne hne.symm]
  · rw [Function.update_of_ne hne, Function.update_self]

/-! ### Connected members -/

/-- What holds of members and their connections whatever happens. -/
structure Wired (n : Cluster ι α) : Prop where
  sound : ∀ a, (n.member a).Sound
  distinct : Function.Injective n.systemId
  symm : ∀ {p q}, n.far p = some q → n.far q = some p
  /-- No member is connected to itself. -/
  apart : ∀ {p q}, n.far p = some q → p.1 ≠ q.1
  there : ∀ {p q}, n.far p = some q → ∃ x, n.end? p = some x

omit [DecidableEq ι] [Vocabulary α] in
theorem end?_nextTip (n : Cluster ι α) (a : ι) : n.end? (n.nextTip a) = none :=
  List.getElem?_eq_none (Nat.le_refl _)

namespace Wired

omit [DecidableEq ι] [Vocabulary α] in
theorem ne_nextTip (h : n.Wired) (hp : n.far p = some q) (a : ι) : p ≠ n.nextTip a := by
  rintro rfl
  obtain ⟨x, hx⟩ := h.there hp
  rw [end?_nextTip] at hx
  cases hx

theorem systemId_after (h : n.Wired) (m : Move ι α) (a : ι) :
    (n.after m).systemId a = n.systemId a := by
  rcases n.change_after m a with ⟨x, -, hc⟩ | ⟨-, hsame⟩
  · exact hc.localId (h.sound a)
  · rw [systemId, hsame, systemId]

/-- Connections stay. -/
theorem becomes_after (h : n.Wired) (hx : n.end? p = some x) (m : Move ι α) :
    ∃ x', (n.after m).end? p = some x' ∧ x.role.Becomes x'.role := by
  rcases n.change_after m p.1 with ⟨y, -, hc⟩ | ⟨-, hsame⟩
  · exact (h.sound p.1).becomes_of_change hc hx
  · exact ⟨x, by rw [end?, hsame]; exact hx, .refl _⟩

/-- All that other moves make of a connection is to queue packages on it, if it is linked, or its
end. -/
theorem fed_after (h : n.Wired) (hx : n.end? p = some x) (hm : ∀ e, m ≠ .event p e) :
    ∃ x', (n.after m).end? p = some x' ∧ x.Fed ((n.member p.1).HasLink p.2) x' ∧
      ∀ k, x.role.session? = some k → ((n.after m).member p.1).table.sessions.binding? k =
        (n.member p.1).table.sessions.binding? k := by
  rcases n.change_after m p.1 with ⟨y, hy, hc⟩ | ⟨-, hsame⟩
  · refine (h.sound p.1).fed_of_change hc (fun e heq => hm e ?_) hx
    exact at?_eq_event_iff.1 (heq ▸ hy)
  · rw [end?, hsame]
    exact ⟨x, hx, .refl _ x, fun _ _ => rfl⟩

theorem far_after (h : n.Wired) (hp : n.far p = some q) (m : Move ι α) :
    (n.after m).far p = some q := by
  cases m with
  | act a y => exact hp
  | dial a b i now peer origin =>
    simp only [after, join]
    rw [Function.update_of_ne (h.ne_nextTip hp b), Function.update_of_ne (h.ne_nextTip hp a), hp]

/-- What is in flight changes only by events at either tip. -/
theorem flying_after (h : n.Wired) (hp : n.far p = some q) (hm : ∀ e, m ≠ .event p e)
    (hm' : ∀ e, m ≠ .event q e) : (n.after m).flying p = n.flying p := by
  cases m with
  | dial a b i now peer origin =>
    simp only [after, flow]
    rw [Function.update_of_ne (h.ne_nextTip hp b), Function.update_of_ne (h.ne_nextTip hp a)]
  | act a y =>
    cases y with
    | event c e =>
      have hr : p ≠ (a, c) := fun heq => hm e (by rw [heq])
      show n.flowEvent (a, c) e p = _
      cases hx : n.end? (a, c) with
      | none => simp only [flowEvent, hx]
      | some x =>
        cases hfar : n.far (a, c) with
        | none => simp only [flowEvent, hx, hfar, Function.update_of_ne hr]
        | some r =>
          -- the other tip is not `p`, as that of `p` is `q`
          have hr' : p ≠ r := fun heq => by
            have hq := h.symm hfar
            rw [← heq, hp] at hq
            exact hm' e (by rw [Option.some.inj hq])
          simp only [flowEvent, hx, hfar, Function.update_of_ne hr, Function.update_of_ne hr']
    | _ => rfl

end Wired

/-- What a move makes of a connection between two members: an event at the one end or the other, or
what is queued at both. -/
inductive Passes (n : Cluster ι α) (m : Move ι α) (p q : Tip ι) (x y : LinkEnd) :
    LinkEnd → LinkEnd → Prop
  | near (e : Connection.Event) (move : m = .event p e)
      (read : x.connection.heard e <+: n.flying q)
      (core : ((n.after m).member p.1).core = (x.step (n.member p.1).core e).state.1)
      (other : (n.after m).member q.1 = n.member q.1)
      (forth : (n.after m).flying p = n.flying p ++ x.connection.emitted e)
      (back : (n.after m).flying q = (n.flying q).drop (x.connection.heard e).length) :
      Passes n m p q x y
        ⟨(x.step (n.member p.1).core e).state.2, (x.step (n.member p.1).core e).connection⟩ y
  | far (e : Connection.Event) (move : m = .event q e)
      (read : y.connection.heard e <+: n.flying p)
      (core : ((n.after m).member q.1).core = (y.step (n.member q.1).core e).state.1)
      (other : (n.after m).member p.1 = n.member p.1)
      (forth : (n.after m).flying p = (n.flying p).drop (y.connection.heard e).length)
      (back : (n.after m).flying q = n.flying q ++ y.connection.emitted e) :
      Passes n m p q x y x
        ⟨(y.step (n.member q.1).core e).state.2, (y.step (n.member q.1).core e).connection⟩
  | aside {x' y' : LinkEnd} (near : ∀ e, m ≠ .event p e) (far : ∀ e, m ≠ .event q e)
      (fed : x.Fed ((n.member p.1).HasLink p.2) x') (fed' : y.Fed ((n.member q.1).HasLink q.2) y')
      (binding : ∀ k, y.role.session? = some k →
        ((n.after m).member q.1).table.sessions.binding? k =
          (n.member q.1).table.sessions.binding? k)
      (forth : (n.after m).flying p = n.flying p) (back : (n.after m).flying q = n.flying q) :
      Passes n m p q x y x' y'

/-- An event at a tip of a connection. -/
theorem passes_event (possible : n.Possible (.event p e)) (hfar : n.far p = some q)
    (hapart : p.1 ≠ q.1) (hx : n.end? p = some x) :
    x.connection.heard e <+: n.flying q ∧
      ((n.after (.event p e)).member p.1).core = (x.step (n.member p.1).core e).state.1 ∧
      (n.after (.event p e)).member q.1 = n.member q.1 := by
  refine ⟨possible x hx q hfar, ?_, ?_⟩
  · rw [member_event, if_pos rfl, Member.core_happen hx]
  · rw [member_event, if_neg hapart.symm]

theorem Wired.passes (h : n.Wired) (possible : n.Possible m) (hfar : n.far p = some q)
    {y x' y' : LinkEnd} (hx : n.end? p = some x) (hy : n.end? q = some y)
    (hx' : (n.after m).end? p = some x') (hy' : (n.after m).end? q = some y') :
    n.Passes m p q x y x' y' := by
  have hapart := h.apart hfar
  have hback := h.symm hfar
  have hne : q ≠ p := fun heq => hapart (congrArg Prod.fst heq.symm)
  by_cases hp : ∃ e, m = .event p e
  · obtain ⟨e, rfl⟩ := hp
    obtain ⟨hread, hcore, hother⟩ := passes_event possible hfar hapart hx
    obtain ⟨hforth, hflown⟩ := flying_event (e := e) hx hfar hne
    rw [end?_event hx, if_pos rfl] at hx'
    rw [end?_event hx, if_neg hne, hy] at hy'
    cases hx'
    cases hy'
    exact .near e rfl hread hcore hother hforth hflown
  · by_cases hq : ∃ e, m = .event q e
    · obtain ⟨e, rfl⟩ := hq
      obtain ⟨hread, hcore, hother⟩ := passes_event possible hback hapart.symm hy
      obtain ⟨hforth, hflown⟩ := flying_event (e := e) hy hback hne.symm
      rw [end?_event hy, if_neg hne.symm, hx] at hx'
      rw [end?_event hy, if_pos rfl] at hy'
      cases hx'
      cases hy'
      exact .far e rfl hread hcore hother hflown hforth
    · have hp' := fun e heq => hp ⟨e, heq⟩
      have hq' := fun e heq => hq ⟨e, heq⟩
      obtain ⟨x₁, hx₁, hfed, -⟩ := h.fed_after hx hp'
      obtain ⟨y₁, hy₁, hfed', hbinding⟩ := h.fed_after hy hq'
      cases hx'.symm.trans hx₁
      cases hy'.symm.trans hy₁
      exact .aside hp' hq' hfed hfed' hbinding (h.flying_after hfar hp' hq')
        (h.flying_after hback hq' hp')

omit [Vocabulary α] in
/-- The connections between members that a move makes are those that it dials. -/
theorem far_join (h : n.join m p = some q) :
    n.far p = some q ∨ ∃ a b i now peer origin, m = .dial a b i now peer origin ∧
      (p = n.nextTip a ∧ q = n.nextTip b ∨ p = n.nextTip b ∧ q = n.nextTip a) := by
  cases m with
  | act a y => exact .inl h
  | dial a b i now peer origin =>
    simp only [join, Function.update_apply] at h
    split at h
    · rename_i hp
      cases h
      exact .inr ⟨a, b, i, now, peer, origin, rfl, .inr ⟨hp, rfl⟩⟩
    · split at h
      · rename_i hp
        cases h
        exact .inr ⟨a, b, i, now, peer, origin, rfl, .inl ⟨hp, rfl⟩⟩
      · exact .inl h

section

variable {a b : ι} {i now : Nat} {peer origin : Option Address}

/-- A member that is reached accepts a connection. -/
theorem member_accepting (n : Cluster ι α) (a b : ι) (i now : Nat) (peer origin : Option Address) :
    (n.after (.dial a b i now peer origin)).member b = ((n.member b).accept origin).2 := by
  simp only [after, Move.at?, if_pos]
  rfl

/-- A member that reaches another one registers. -/
theorem dials_after (possible : n.Possible (.dial a b i now peer origin)) :
    Member.Dials (n.member a) i peer ((n.after (.dial a b i now peer origin)).member a) := by
  obtain ⟨hne, l, hl, hdialing, -⟩ := possible
  have hact : (n.after (.dial a b i now peer origin)).member a =
      ((n.member a).dialed i now (.ok peer)).1 := by
    simp only [after, Move.at?, if_neg hne, if_true, Option.elim, Member.act, Option.mem_def.1 hl,
      Option.any_some, hdialing]
  rw [hact]
  exact Member.dials_dialed _ i now peer

/-- The tip at the member that dialed. -/
theorem end?_dialing (possible : n.Possible (.dial a b i now peer origin)) :
    ∃ queue : List Command,
      (queue = [.frame (Registration.request (n.systemId a)).write] ∨ queue = [.close]) ∧
      (n.after (.dial a b i now peer origin)).end? (n.nextTip a) = some ⟨.outbound default,
        ⟨⟨peer, (n.member a).config.timings.maxFrameSize, true, queue⟩, .made, []⟩⟩ := by
  obtain ⟨queue, hqueue, hends⟩ := (dials_after possible).ends
  refine ⟨queue, hqueue, ?_⟩
  rw [end?]
  show ((n.after _).member a).ends[(n.member a).ends.length]? = _
  rw [hends]
  exact List.getElem?_concat_length

/-- The tip at the member that was dialed. -/
theorem end?_accepting (n : Cluster ι α) (a b : ι) (i now : Nat) (peer origin : Option Address) :
    (n.after (.dial a b i now peer origin)).end? (n.nextTip b) =
      some ⟨.inbound ⟨(n.member b).table.sessions.made.length⟩,
        .new origin (n.member b).config.timings.maxFrameSize⟩ := by
  rw [end?]
  show ((n.after _).member b).ends[(n.member b).ends.length]? = _
  rw [member_accepting]
  exact List.getElem?_concat_length

end

/-- Whatever happens, the members are connected as they should be. -/
theorem Wired.after (h : n.Wired) (possible : n.Possible m) : (n.after m).Wired where
  sound a := by
    rcases n.change_after m a with ⟨x, -, hc⟩ | ⟨-, hsame⟩
    · exact (h.sound a).change hc
    · rw [hsame]
      exact h.sound a
  distinct a b hab := by
    rw [h.systemId_after, h.systemId_after] at hab
    exact h.distinct hab
  symm {p q} hp := by
    rcases far_join hp with hp | ⟨a, b, i, now, peer, origin, rfl, ⟨rfl, rfl⟩ | ⟨rfl, rfl⟩⟩
    · exact h.far_after (h.symm hp) m
    · simp only [Cluster.after, join, Function.update_self]
    · have hne : n.nextTip a ≠ n.nextTip b := fun heq => possible.1 (congrArg Prod.fst heq)
      simp only [Cluster.after, join]
      rw [Function.update_of_ne hne, Function.update_self]
  apart {p q} hp := by
    rcases far_join hp with hp | ⟨a, b, i, now, peer, origin, rfl, ⟨rfl, rfl⟩ | ⟨rfl, rfl⟩⟩
    · exact h.apart hp
    · exact possible.1
    · exact possible.1.symm
  there {p q} hp := by
    rcases far_join hp with hp | ⟨a, b, i, now, peer, origin, rfl, ⟨rfl, rfl⟩ | ⟨rfl, rfl⟩⟩
    · obtain ⟨x, hx⟩ := h.there hp
      obtain ⟨x', hx', -⟩ := h.becomes_after hx m
      exact ⟨x', hx'⟩
    · obtain ⟨queue, -, hx⟩ := end?_dialing possible
      exact ⟨_, hx⟩
    · exact ⟨_, n.end?_accepting a b i now peer origin⟩

omit [DecidableEq ι] [Vocabulary α] in
/-- Members that have just been made are connected to nobody. -/
theorem wired_ofMembers {member : ι → Member α} {config : ι → Config}
    (h : ∀ a, Member.ofConfig (config a) = .ok (member a))
    (distinct : Function.Injective fun a => (config a).localId) : (ofMembers member).Wired where
  sound a := (Member.fresh_ofConfig (h a)).sound
  distinct a b hab := by
    refine distinct ?_
    have ha := (Member.fresh_ofConfig (h a)).localId
    have hb := (Member.fresh_ofConfig (h b)).localId
    exact ha.symm.trans (Eq.trans hab hb)
  symm hp := by cases hp
  apart hp := by cases hp
  there hp := by cases hp

end Cluster

end ActorMesh
