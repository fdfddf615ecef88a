import ActorMesh.Proofs.Members.Lifecycles

/-!
# Asking a member to start

A member is started once. A request that comes after another one is refused and changes nothing.
The first one begins a lifecycle for every peer that the member dials, and from then on the member
counts itself, unless the listener is missing that a member needs that is dialed
(`Member.Forfeits`). That request is refused as well, but only after the member has taken note that
it was asked and has counted itself: it cannot be asked again, and its links never begin
(`Member.starting_of_run`).
-/

namespace ActorMesh

/-- The table of a member that was asked to start for the first time. -/
def LinkTable.asked (t : LinkTable) : LinkTable :=
  { t with started := true, connected := t.connected + 1 }

namespace Member

variable {α : Type} {m m₀ m' : Member α} {hasListener : Bool} {now : Nat}

/-! ### One request -/

/-- Whether a request to start is the first one and lacks the listener that the member needs. -/
def Forfeits (m : Member α) (hasListener : Bool) : Prop :=
  m.table.started = false ∧ m.table.acceptsInbound = true ∧ hasListener = false

instance (m : Member α) (hasListener : Bool) : Decidable (m.Forfeits hasListener) :=
  inferInstanceAs (Decidable (_ ∧ _))

theorem start_of_started (h : m.table.started = true) (hasListener : Bool) (now : Nat) :
    m.start hasListener now = (.error (.configuration .alreadyStarted), [], m) := by
  simp only [start, LinkTable.start, h, if_true]
  rfl

theorem start_of_forfeits (h : m.Forfeits hasListener) (now : Nat) :
    m.start hasListener now =
      (.error (.configuration .listenerMissing), [], m.withTable m.table.asked) := by
  obtain ⟨hstarted, haccepts, rfl⟩ := h
  simp only [start, LinkTable.start, hstarted, haccepts, Bool.false_eq_true, if_false,
    Bool.not_false, Bool.and_self, if_true]
  rfl

theorem start_of_begins (hstarted : m.table.started = false) (h : ¬ m.Forfeits hasListener)
    (now : Nat) :
    (m.start hasListener now).1 = .ok () ∧
      (m.start hasListener now).2.2.table = m.table.asked ∧
      (m.start hasListener now).2.2.lifecycles =
        m.lifecycles ++ m.table.passivePeers.map fun p => ⟨p.config, .due⟩ := by
  have hlistens : (m.table.acceptsInbound && !hasListener) = false := by
    rw [← Bool.not_eq_true, Bool.and_eq_true, Bool.not_eq_true']
    exact fun hlacks => h ⟨hstarted, hlacks⟩
  obtain ⟨htable, hlifecycles⟩ := lifecycles_beginLifecycles (m.withTable m.table.asked)
    m.table.asked.passivePeers
  simp only [start, LinkTable.start, hstarted, hlistens, Bool.false_eq_true, if_false, true_and]
  exact ⟨htable, hlifecycles⟩

/-- A request is granted if it is the first one and does not lack a listener. -/
theorem start_eq_ok_iff :
    (m.start hasListener now).1 = .ok () ↔
      m.table.started = false ∧ ¬ m.Forfeits hasListener := by
  constructor
  · intro hok
    refine ⟨?_, fun hforfeits => ?_⟩
    · rw [← Bool.not_eq_true]
      intro hstarted
      rw [start_of_started hstarted] at hok
      cases hok
    · rw [start_of_forfeits hforfeits] at hok
      cases hok
  · rintro ⟨hstarted, hlistens⟩
    exact (start_of_begins hstarted hlistens now).1

theorem exists_start_eq_error_iff :
    (∃ e, (m.start hasListener now).1 = .error e) ↔
      m.table.started = true ∨ m.Forfeits hasListener := by
  constructor
  · rintro ⟨e, he⟩
    by_contra hgranted
    rw [not_or, Bool.not_eq_true] at hgranted
    cases he.symm.trans (start_eq_ok_iff.2 hgranted)
  · rintro (hstarted | hforfeits)
    · exact ⟨_, by rw [start_of_started hstarted]⟩
    · exact ⟨_, by rw [start_of_forfeits hforfeits]⟩

/-! ### Requests in a run -/

theorem started_ofConfig {c : Config} (h : ofConfig c = .ok m) : m.table.started = false := by
  unfold ofConfig LinkTable.ofConfig at h
  split at h
  · cases h
  · split at h
    · cases h
    · rename_i htable
      split at htable <;> cases htable
      cases h
      rfl

/-- Whether an action asks the member to start. -/
def Action.isStart : Action α → Bool
  | .start .. => true
  | _ => false

/-- What is no request leaves it open whether the member was asked. -/
theorem Course.started_eq {a : Action α} {call : Option (Nat × Lifecycle.Call)}
    (h : Course m a m' call) (ha : a.isStart = false) :
    m'.table.started = m.table.started := by
  have hafter : ∀ op : LinkTable.Operation, op.isStart = false → m'.table = m.table.after op →
      m'.table.started = m.table.started := fun op hop htable => by
    rw [htable, (LinkTable.kept_after m.table op).started, hop, Bool.or_false]
  cases h with
  | start => cases ha
  | inbound admitting table =>
    refine hafter _ ?_ table
    cases admitting <;> rfl
  | @installed i now m' l c _ _ _ link =>
    refine hafter (.install l.peer.id c) rfl ?_
    simp only [LinkTable.after, link, Option.getD_some]
  | cleared _ _ _ table => exact hafter (.clear _ _) rfl table
  | aside table | roams _ _ _ table | dialed _ _ _ table | refused _ _ _ _ table => rw [table]

section

variable [Vocabulary α]

/-- Only a request makes a member one that was asked to start. -/
theorem started_act (hm : m.Tended) (a : Action α) :
    (m.act a).table.started = (m.table.started || a.isStart) := by
  cases ha : a.isStart with
  | false => rw [Bool.or_false, (course_act hm.sound a).started_eq ha]
  | true =>
    obtain ⟨hasListener, now, rfl⟩ : ∃ hasListener now, a = .start hasListener now := by
      cases a <;> cases ha
      exact ⟨_, _, rfl⟩
    rw [Bool.or_true]
    show (m.start hasListener now).2.2.table.started = true
    cases hstarted : m.table.started with
    | true => rw [start_of_started hstarted, hstarted]
    | false =>
      by_cases hforfeits : m.Forfeits hasListener
      · rw [start_of_forfeits hforfeits]
        rfl
      · rw [(start_of_begins hstarted hforfeits now).2.1]
        rfl

/-- Whether a request to start was granted in a run. -/
def HasBegun (m : Member α) (as : List (Action α)) : Prop :=
  ∃ pre hasListener now post, as = pre ++ .start hasListener now :: post ∧
    ((m.run pre).start hasListener now).1 = .ok ()

/-- Whether no request to start forfeits the links in a run. -/
def Supplied (m : Member α) (as : List (Action α)) : Prop :=
  ∀ pre hasListener now post, as = pre ++ .start hasListener now :: post →
    ¬ (m.run pre).Forfeits hasListener

theorem hasBegun_cons {a : Action α} {as : List (Action α)} :
    m.HasBegun (a :: as) ↔
      (∃ hasListener now, a = .start hasListener now ∧ (m.start hasListener now).1 = .ok ()) ∨
        (m.act a).HasBegun as := by
  constructor
  · rintro ⟨pre, hasListener, now, post, heq, hok⟩
    rcases pre with _ | ⟨b, pre⟩
    · obtain ⟨rfl, -⟩ := List.cons.inj heq
      exact .inl ⟨hasListener, now, rfl, hok⟩
    · obtain ⟨rfl, rfl⟩ := List.cons.inj heq
      exact .inr ⟨pre, hasListener, now, post, rfl, hok⟩
  · rintro (⟨hasListener, now, rfl, hok⟩ | ⟨pre, hasListener, now, post, rfl, hok⟩)
    · exact ⟨[], hasListener, now, as, rfl, hok⟩
    · exact ⟨a :: pre, hasListener, now, post, rfl, hok⟩

theorem supplied_cons {a : Action α} {as : List (Action α)} :
    m.Supplied (a :: as) ↔
      (∀ hasListener now, a = .start hasListener now → ¬ m.Forfeits hasListener) ∧
        (m.act a).Supplied as := by
  constructor
  · intro h
    refine ⟨?_, fun pre hasListener now post heq => ?_⟩
    · rintro hasListener now rfl
      exact h [] hasListener now as rfl
    · exact h (a :: pre) hasListener now post (heq ▸ rfl)
  · rintro ⟨hfirst, hrest⟩ pre hasListener now post heq
    rcases pre with _ | ⟨b, pre⟩
    · obtain ⟨rfl, -⟩ := List.cons.inj heq
      exact hfirst hasListener now rfl
    · obtain ⟨rfl, rfl⟩ := List.cons.inj heq
      exact hrest pre hasListener now post rfl

theorem not_hasBegun_nil : ¬ m.HasBegun [] := by
  rintro ⟨pre, _, _, post, heq, -⟩
  simp at heq

theorem supplied_nil : m.Supplied [] := by
  intro pre _ _ post heq
  simp at heq

/-- Once a member was asked, nothing is granted and nothing is forfeited. -/
theorem not_hasBegun_of_started (hm : m.Tended) (hstarted : m.table.started = true)
    (as : List (Action α)) :
    (m.run as).table.started = true ∧ ¬ m.HasBegun as ∧ m.Supplied as := by
  induction as generalizing m with
  | nil => exact ⟨hstarted, not_hasBegun_nil, supplied_nil⟩
  | cons a as ih =>
    have hagain : (m.act a).table.started = true := by
      rw [started_act hm, hstarted, Bool.true_or]
    obtain ⟨hlast, hnever, hsupplied⟩ := ih (hm.act a) hagain
    refine ⟨hlast, ?_, supplied_cons.2 ⟨fun _ _ _ hforfeits => ?_, hsupplied⟩⟩
    · rw [hasBegun_cons, not_or]
      refine ⟨?_, hnever⟩
      rintro ⟨hasListener, now, -, hok⟩
      cases hstarted.symm.trans (start_eq_ok_iff.1 hok).1
    · cases hstarted.symm.trans hforfeits.1

/-- The links of a member have begun if it was asked and did not lack a listener the first time. -/
theorem hasBegun_iff (hm : m.Tended) (hfresh : m.table.started = false) (as : List (Action α)) :
    m.HasBegun as ↔ (m.run as).table.started = true ∧ m.Supplied as := by
  induction as generalizing m with
  | nil =>
    refine iff_of_false not_hasBegun_nil fun h => ?_
    cases hfresh.symm.trans h.1
  | cons a as ih =>
    have hact := started_act hm a
    rw [hfresh, Bool.false_or] at hact
    rw [hasBegun_cons, supplied_cons, show m.run (a :: as) = (m.act a).run as from rfl]
    cases ha : a.isStart with
    | false =>
      have hnot : ∀ hasListener now, a ≠ .start hasListener now := by
        rintro hasListener now rfl
        cases ha
      rw [ih (hm.act a) (hact.trans ha)]
      simp [hnot]
    | true =>
      obtain ⟨hasListener, now, rfl⟩ : ∃ hasListener now, a = .start hasListener now := by
        cases a <;> cases ha
        exact ⟨_, _, rfl⟩
      obtain ⟨hlast, hnever, hsupplied⟩ :=
        not_hasBegun_of_started (hm.act _) (hact.trans ha) as
      have hgranted : (m.start hasListener now).1 = .ok () ↔ _ := start_eq_ok_iff
      simp [hlast, hnever, hsupplied, hgranted, hfresh]

/-- A member that was not asked has forfeited nothing. -/
theorem supplied_of_not_started (hm : m.Tended) {as : List (Action α)}
    (hlast : (m.run as).table.started = false) : m.Supplied as := by
  induction as generalizing m with
  | nil => exact supplied_nil
  | cons a as ih =>
    refine supplied_cons.2 ⟨fun hasListener now heq => ?_, ih (hm.act a) hlast⟩
    have hact := started_act hm a
    rw [heq, Action.isStart, Bool.or_true, ← heq] at hact
    have hstarted := (not_hasBegun_of_started (hm.act a) hact as).1
    cases hlast.symm.trans hstarted

/-! ### Starting -/

/-- What a request to start comes to after a run, and what the requests in that run came to. -/
structure Starting (m₀ : Member α) (as : List (Action α)) (hasListener : Bool) (now : Nat) :
    Prop where
  /-- A request is refused behind another one, and if it lacks a listener. -/
  refused_iff : (∃ e, ((m₀.run as).start hasListener now).1 = .error e) ↔
    (m₀.run as).table.started = true ∨ (m₀.run as).Forfeits hasListener
  /-- A request that is refused, but not for a listener, changes nothing. -/
  kept : ¬ (m₀.run as).Forfeits hasListener →
    ∀ e, ((m₀.run as).start hasListener now).1 = .error e →
      ((m₀.run as).start hasListener now).2.2 = m₀.run as
  /-- A request that is granted begins the links: the member counts itself and dials its peers. -/
  granted : ((m₀.run as).start hasListener now).1 = .ok () →
    ((m₀.run as).start hasListener now).2.2.table = (m₀.run as).table.asked ∧
      ((m₀.run as).start hasListener now).2.2.lifecycles =
        (m₀.run as).table.passivePeers.map fun p => ⟨p.config, .due⟩
  /-- A request that lacks a listener is refused when the member has been marked and counted ... -/
  forfeited : (m₀.run as).Forfeits hasListener →
    (m₀.run as).start hasListener now = (.error (.configuration .listenerMissing), [],
      (m₀.run as).withTable (m₀.run as).table.asked)
  /-- ... and every request behind it is refused. -/
  lost : ¬ m₀.Supplied as → (m₀.run as).start hasListener now =
    (.error (.configuration .alreadyStarted), [], m₀.run as)
  /-- The member counts itself once it was asked ... -/
  connected : (m₀.run as).table.connected = (if (m₀.run as).table.started then 1 else 0) +
    (m₀.run as).config.memberIds.countP (m₀.run as).table.isUp
  /-- ... and then its links have begun, if no request lacked a listener. -/
  begun_iff : m₀.HasBegun as ↔ (m₀.run as).table.started = true ∧ m₀.Supplied as

/-- A request to start that comes to the member of a valid configuration after any run. -/
theorem starting_of_run {c : Config} (h₀ : ofConfig c = .ok m₀) (as : List (Action α))
    (hasListener : Bool) (now : Nat) : Starting m₀ as hasListener now := by
  have htended₀ := tended_ofConfig h₀
  have htended := htended₀.run as
  have hgranted : ((m₀.run as).start hasListener now).1 = .ok () ↔ _ := start_eq_ok_iff
  refine {
    refused_iff := exists_start_eq_error_iff
    kept := fun hlistens e he => ?_
    granted := fun hok => ?_
    forfeited := fun hforfeits => start_of_forfeits hforfeits now
    lost := fun hlost => start_of_started ?_ hasListener now
    connected := htended.links.connected
    begun_iff := hasBegun_iff htended₀ (started_ofConfig h₀) as }
  · have hstarted := (exists_start_eq_error_iff.1 ⟨e, he⟩).resolve_right hlistens
    rw [start_of_started hstarted]
  · obtain ⟨hfresh, hlistens⟩ := hgranted.1 hok
    obtain ⟨-, htable, hlifecycles⟩ := start_of_begins hfresh hlistens now
    have hnone := htended.begun.resolve_right fun hbegun => by
      cases hfresh.symm.trans hbegun.1
    refine ⟨htable, ?_⟩
    rw [hlifecycles, hnone, List.nil_append]
  · rw [← Bool.not_eq_false]
    exact fun hfresh => hlost (supplied_of_not_started htended₀ hfresh)

/-- A member is asked twice: the second request is refused and changes nothing. -/
theorem starting_askedTwice :
    ofConfig LinkTable.trio = .ok middle ∧ Starting middle [.start true 0] true 5 ∧
      ¬ (middle.run [.start true 0]).Forfeits true ∧ middle.Supplied [.start true 0] ∧
      ((middle.run [.start true 0]).start true 5).1 = .error (.configuration .alreadyStarted) ∧
      (middle.run [.start true 0]).table.connected = 1 ∧
      (middle.run [.start true 0]).lifecycles.length = 1 := by
  have h₀ : ofConfig LinkTable.trio = .ok middle := rfl
  have hsupplied : middle.Supplied [.start true 0] :=
    supplied_cons.2 ⟨fun l now heq => by cases heq; decide, supplied_nil⟩
  exact ⟨h₀, starting_of_run h₀ _ _ _, by decide, hsupplied, rfl, rfl, rfl⟩

/-- A member that is dialed is asked without a listener: it counts itself though it begins no link,
and when it is asked with a listener after that, it is refused. -/
theorem forfeited_withoutListener :
    ofConfig LinkTable.trio = .ok middle ∧
      let m := middle.run [.start false 0]
      (middle.start false 0).1 = .error (.configuration .listenerMissing) ∧
      middle.table.connected = 0 ∧ middle.table.started = false ∧
      m.table.connected = 1 ∧ m.table.started = true ∧ ¬ middle.HasBegun [.start false 0] ∧
      (m.start true 0).1 = .error (.configuration .alreadyStarted) ∧
      (m.run [.start true 0]).lifecycles = [] := by
  refine ⟨rfl, rfl, rfl, rfl, rfl, rfl, ?_, rfl, rfl⟩
  rw [hasBegun_cons, not_or]
  refine ⟨?_, not_hasBegun_nil⟩
  rintro ⟨hasListener, now, heq, hok⟩
  cases heq
  cases hok

end

end Member

end ActorMesh
