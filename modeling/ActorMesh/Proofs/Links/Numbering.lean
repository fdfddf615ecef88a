import ActorMesh.Proofs.Links.Accounting

/-!
# Numbers of sessions

A session is found under its number, and numbers start over when all were used, whether or not the
sessions that have them are gone. As long as no session stays so long that all numbers are used
meanwhile, the table holds just the sessions that are live, a new one displaces none of them, and
the end of one removes no other (`LinkTable.identified_of_run`). A session that stays longer loses
its place in the table to the one that gets its number, and takes that with it when it ends
(`LinkTable.displaced_turnover`).
-/

namespace ActorMesh

/-- The number that a session gets. -/
def Ticket.number (k : Ticket) : UInt32 := UInt32.ofNat (k.value + 1)

/-- Two sessions have different numbers if fewer were made in between than there are numbers. -/
theorem Ticket.number_ne {k k' : Ticket} (hlt : k.value < k'.value)
    (hfew : k'.value < k.value + UInt32.size) : k.number ≠ k'.number := by
  intro heq
  have hnat := congrArg UInt32.toNat heq
  simp only [number, UInt32.toNat_ofNat'] at hnat
  simp only [UInt32.size] at hfew
  omega

/-! ### Numbers in their order -/

namespace Sessions

variable {β : Type} {ss : Sessions β}

/-- Sessions have the numbers in their order, and a live one is found under its own. -/
structure Numbered (ss : Sessions β) : Prop where
  next : ss.nextId = UInt32.ofNat (ss.made.length + 1)
  id : ∀ t x, ss.get? t = some x → x.id = UInt32.ofNat (t.value + 1)
  live : ∀ n t, ss.find? n = some t → ∃ x, ss.get? t = some x ∧ x.id = n

namespace Numbered

theorem empty : (Sessions.empty : Sessions β).Numbered := by
  refine ⟨rfl, fun t x hx => ?_, fun n t ht => ?_⟩
  · simp [Sessions.empty, get?] at hx
  · simp [Sessions.empty, find?] at ht

theorem create (h : ss.Numbered) (c : ConnectionId) (peer : Option Address) :
    (ss.create c peer).2.Numbered := by
  have hnew : ∀ t x, (ss.create c peer).2.get? t = some x → ss.get? t = some x ∨
      t = ⟨ss.made.length⟩ ∧ x.id = ss.nextId := by
    intro t x hx
    simp only [get?, Sessions.create, List.getElem?_append] at hx
    split at hx
    · exact .inl hx
    · rename_i hlt
      obtain ⟨hone, rfl⟩ := List.getElem?_eq_some_iff.1 hx
      simp only [List.length_singleton] at hone
      refine .inr ⟨?_, by simp⟩
      obtain ⟨n⟩ := t
      have hn : n = ss.made.length := by
        simp only at hlt hone
        omega
      rw [hn]
  refine ⟨?_, fun t x hx => ?_, fun n t ht => ?_⟩
  · simp only [Sessions.create, List.length_append, List.length_singleton, h.next]
    exact (UInt32.ofNat_add _ _).symm
  · rcases hnew t x hx with hx | ⟨rfl, hid⟩
    · exact h.id t x hx
    · rw [hid, h.next]
  · rw [find?_create] at ht
    split at ht
    · rename_i hn
      cases ht
      exact ⟨_, List.getElem?_concat_length, hn.symm⟩
    · obtain ⟨x, hx, hid⟩ := h.live n t ht
      refine ⟨x, ?_, hid⟩
      show (ss.made ++ _)[t.value]? = some x
      rw [List.getElem?_append_left (List.getElem?_eq_some_iff.1 hx).1]
      exact hx

theorem modify (h : ss.Numbered) (t : Ticket) {f : Session β → Session β}
    (hf : ∀ x, (f x).id = x.id) : (ss.modify t f).Numbered := by
  have hid : ∀ t' x, (ss.modify t f).get? t' = some x → ∃ y, ss.get? t' = some y ∧ x.id = y.id := by
    intro t' x hx
    rw [get?_modify] at hx
    split at hx
    · rename_i heq
      obtain ⟨y, hy, rfl⟩ := Option.map_eq_some_iff.1 hx
      exact ⟨y, heq ▸ hy, hf y⟩
    · exact ⟨x, hx, rfl⟩
  refine ⟨?_, fun t' x hx => ?_, fun n t' ht' => ?_⟩
  · rw [length_made_modify]
    exact h.next
  · obtain ⟨y, hy, heq⟩ := hid t' x hx
    rw [heq, h.id t' y hy]
  · obtain ⟨x, hx, rfl⟩ := h.live n t' ht'
    rw [get?_modify]
    split
    · rename_i heq
      rw [heq] at hx
      exact ⟨f x, by rw [hx]; rfl, hf x⟩
    · exact ⟨x, hx, rfl⟩

theorem remove (h : ss.Numbered) (n : UInt32) : (ss.remove n).Numbered := by
  refine ⟨h.next, h.id, fun n' t ht => ?_⟩
  rw [find?_remove] at ht
  split at ht
  · cases ht
  · exact h.live n' t ht

/-- As long as there are numbers, no two sessions have one. -/
theorem eq_of_id_eq (h : ss.Numbered) (few : ss.made.length ≤ UInt32.size) {t t' : Ticket}
    {x x' : Session β} (hx : ss.get? t = some x) (hx' : ss.get? t' = some x')
    (heq : x.id = x'.id) : t = t' := by
  obtain ⟨n⟩ := t
  obtain ⟨n'⟩ := t'
  have hlt : n < ss.made.length := (List.getElem?_eq_some_iff.1 hx).1
  have hlt' : n' < ss.made.length := (List.getElem?_eq_some_iff.1 hx').1
  have hnat := congrArg UInt32.toNat (((h.id _ x hx).symm.trans heq).trans (h.id _ x' hx'))
  simp only [UInt32.toNat_ofNat'] at hnat
  have hsame : n = n' := by
    simp only [UInt32.size] at few
    omega
  rw [hsame]

end Numbered

end Sessions

namespace LinkTable

/-- Numbers stay in order, whatever happens to the links. -/
theorem numbered_after {t : LinkTable} (h : t.sessions.Numbered) (op : Operation) :
    (t.after op).sessions.Numbered := by
  cases op with
  | start hasListener =>
    simp only [after, LinkTable.start]
    split
    · exact h
    · split <;> exact h
  | accept c peer => exact h.create c peer
  | register k payload =>
    simp only [after]
    rcases table_admission t k payload with hsame | ⟨s, -, hbind⟩
    · rwa [hsame]
    · obtain ⟨-, -, -, htable⟩ := bindSession_eq_ok_iff.1 hbind
      rw [htable]
      exact h.modify k fun _ => rfl
  | disconnect k =>
    simp only [after]
    cases hk : t.sessions.get? k with
    | none =>
      rw [endSession_of_get?_eq_none hk]
      exact h
    | some x =>
      have hunbound : (t.sessions.unbind k).Numbered := h.modify k fun _ => rfl
      rw [endSession_eq hk]
      exact hunbound.remove x.id
  | install s c =>
    simp only [after]
    cases hinstall : t.installClient s c with
    | none => exact h
    | some t' =>
      obtain ⟨-, rfl⟩ := installClient_eq_some_iff.1 hinstall
      exact h
  | clear s c =>
    simp only [after, sessions_clearClient]
    exact h

/-- The end of a session removes no other one. -/
theorem find?_endSession {t : LinkTable} (h : t.sessions.Numbered)
    (few : t.sessions.made.length ≤ UInt32.size) {k k' : Ticket} (hk : k' ≠ k) {n : UInt32}
    (hn : t.sessions.find? n = some k') : (t.endSession k).sessions.find? n = some k' := by
  cases hget : t.sessions.get? k with
  | none => rwa [endSession_of_get?_eq_none hget]
  | some x =>
    obtain ⟨x', hx', rfl⟩ := h.live n k' hn
    have hid : x'.id ≠ x.id := fun heq => hk (h.eq_of_id_eq few hx' hget heq)
    rw [find?_endSession_of_get? hget, if_neg hid]
    exact hn

/-- A registration removes no session. -/
theorem find?_admission (t : LinkTable) (k : Ticket) (payload : Octets) (n : UInt32) :
    (Inbound.admission t k payload).2.1.sessions.find? n = t.sessions.find? n := by
  rcases table_admission t k payload with hsame | ⟨s, -, hbind⟩
  · rw [hsame]
  · obtain ⟨-, -, -, htable⟩ := bindSession_eq_ok_iff.1 hbind
    rw [htable]
    rfl

/-! ### The sessions that are live -/

variable {c : Config} {t₀ t : LinkTable} {ops : List Operation} {op : Operation} {k k' : Ticket}

/-- Whether an operation comes in time: a session is opened while every live one is among the last
that were made, as many as there are numbers, and only a live one ends. -/
def Timely (ops : List Operation) : Operation → Prop
  | .accept .. => ∀ k, Live ops k → ops.countP Operation.isAccept < k.value + UInt32.size
  | .disconnect k => Live ops k
  | _ => True

/-- Whether all operations come in time. -/
def AllTimely (ops : List Operation) : Prop :=
  ∀ pre op post, ops = pre ++ op :: post → Timely pre op

theorem allTimely_nil : AllTimely [] := by
  intro pre op post heq
  simp at heq

theorem allTimely_concat : AllTimely (ops ++ [op]) ↔ AllTimely ops ∧ Timely ops op := by
  constructor
  · intro h
    refine ⟨fun pre op' post heq => h pre op' (post ++ [op]) ?_, h ops op [] rfl⟩
    rw [heq, List.append_assoc, List.cons_append]
  · rintro ⟨hall, hlast⟩ pre op' post heq
    rcases List.eq_nil_or_concat post with rfl | ⟨post, op'', rfl⟩
    · obtain ⟨rfl, hop⟩ := List.append_inj' heq rfl
      obtain rfl := List.singleton_inj.1 hop
      exact hlast
    · have heq' : ops ++ [op] = (pre ++ op' :: post) ++ [op''] := by simpa using heq
      exact hall pre op' post (List.append_inj' heq' rfl).1

/-- A session ends in time only after it was made. -/
theorem AllTimely.lt_of_ended (h : AllTimely ops) (hk : .disconnect k ∈ ops) :
    k.value < ops.countP Operation.isAccept := by
  obtain ⟨pre, post, rfl⟩ := List.append_of_mem hk
  have hlive : Live pre k := h pre (.disconnect k) post rfl
  rw [List.countP_append]
  exact Nat.lt_add_right _ hlive.1

theorem countP_concat_accept (ops : List Operation) (conn : ConnectionId)
    (peer : Option Address) : (ops ++ [Operation.accept conn peer]).countP Operation.isAccept =
      ops.countP Operation.isAccept + 1 := by
  simp [Operation.isAccept]

theorem live_concat_accept (h : AllTimely ops) (conn : ConnectionId) (peer : Option Address) :
    Live (ops ++ [.accept conn peer]) k ↔
      Live ops k ∨ k = ⟨ops.countP Operation.isAccept⟩ := by
  obtain ⟨n⟩ := k
  have hnew : .disconnect ⟨ops.countP Operation.isAccept⟩ ∉ ops := fun hk =>
    Nat.lt_irrefl _ (h.lt_of_ended hk)
  rw [Live, countP_concat_accept]
  simp only [Live, List.mem_append, List.mem_singleton, reduceCtorEq, or_false, Ticket.mk.injEq]
  constructor
  · rintro ⟨hlt, hk⟩
    rcases Nat.lt_succ_iff_lt_or_eq.1 hlt with hlt | rfl
    · exact .inl ⟨hlt, hk⟩
    · exact .inr rfl
  · rintro (⟨hlt, hk⟩ | rfl)
    · exact ⟨Nat.lt_succ_of_lt hlt, hk⟩
    · exact ⟨Nat.lt_succ_self _, hnew⟩

theorem live_concat_disconnect :
    Live (ops ++ [.disconnect k']) k ↔ Live ops k ∧ k ≠ k' := by
  simp [Live, Operation.isAccept, and_assoc]

/-- The table holds those sessions that are live, each under its number. -/
structure Registered (ops : List Operation) (t : LinkTable) : Prop where
  numbered : t.sessions.Numbered
  made : t.sessions.made.length = ops.countP Operation.isAccept
  find?_iff : ∀ n k, t.sessions.find? n = some k ↔ Live ops k ∧ n = k.number

namespace Registered

theorem number_new (h : Registered ops t) :
    t.sessions.nextId = Ticket.number ⟨ops.countP Operation.isAccept⟩ := by
  rw [h.numbered.next, h.made]
  rfl

/-- A live session is in the table. -/
theorem find?_number (h : Registered ops t) (hk : Live ops k) :
    t.sessions.find? k.number = some k :=
  (h.find?_iff _ k).2 ⟨hk, rfl⟩

/-- The number of a session is the one that it was given. -/
theorem id_eq (h : Registered ops t) {x : Session SystemId} (hx : t.sessions.get? k = some x) :
    x.id = k.number :=
  h.numbered.id k x hx

/-- A live session was made. -/
theorem get?_of_live (h : Registered ops t) (hk : Live ops k) :
    ∃ x, t.sessions.get? k = some x := by
  refine Option.isSome_iff_exists.1 (Sessions.isSome_get?_iff.2 ?_)
  rw [h.made]
  exact hk.1

/-- Nobody in the table has the number that the next session gets, if that comes in time. -/
theorem find?_nextId (h : Registered ops t) {conn : ConnectionId} {peer : Option Address}
    (timely : Timely ops (.accept conn peer)) : t.sessions.find? t.sessions.nextId = none := by
  refine Option.eq_none_iff_forall_not_mem.2 fun k hk => ?_
  obtain ⟨hlive, heq⟩ := (h.find?_iff _ k).1 hk
  rw [h.number_new] at heq
  exact Ticket.number_ne hlive.1 (timely k hlive) heq.symm

/-- The end of a live session takes that out of the table. -/
theorem find?_endSession (h : Registered ops t) (hk : Live ops k) (n : UInt32) :
    (t.endSession k).sessions.find? n = if n = k.number then none else t.sessions.find? n := by
  obtain ⟨x, hx⟩ := h.get?_of_live hk
  rw [find?_endSession_of_get? hx, h.id_eq hx]

theorem accept (h : Registered ops t) (hall : AllTimely ops) (conn : ConnectionId)
    (peer : Option Address) (timely : Timely ops (.accept conn peer)) (n : UInt32) (k : Ticket) :
    (t.after (.accept conn peer)).sessions.find? n = some k ↔
      Live (ops ++ [.accept conn peer]) k ∧ n = k.number := by
  rw [after, Sessions.find?_create, live_concat_accept hall, h.made, h.number_new]
  by_cases hn : n = Ticket.number ⟨ops.countP Operation.isAccept⟩
  · rw [if_pos hn, Option.some.injEq]
    constructor
    · rintro rfl
      exact ⟨.inr rfl, hn⟩
    · rintro ⟨hlive | rfl, heq⟩
      · exact absurd (heq.symm.trans hn) (Ticket.number_ne hlive.1 (timely k hlive))
      · rfl
  · rw [if_neg hn, h.find?_iff]
    constructor
    · rintro ⟨hlive, heq⟩
      exact ⟨.inl hlive, heq⟩
    · rintro ⟨hlive | rfl, heq⟩
      · exact ⟨hlive, heq⟩
      · exact absurd heq hn

theorem disconnect (h : Registered ops t) (hk : Live ops k') (n : UInt32) (k : Ticket) :
    (t.after (.disconnect k')).sessions.find? n = some k ↔
      Live (ops ++ [.disconnect k']) k ∧ n = k.number := by
  rw [after, h.find?_endSession hk, live_concat_disconnect]
  by_cases hn : n = k'.number
  · -- nobody else in the table has the number of the session that ends
    rw [if_pos hn]
    refine iff_of_false (by simp) ?_
    rintro ⟨⟨hlive, hne⟩, heq⟩
    have hsame := h.find?_number hlive
    rw [← heq, hn, h.find?_number hk] at hsame
    exact hne (Option.some.inj hsame).symm
  · rw [if_neg hn, h.find?_iff]
    constructor
    · rintro ⟨hlive, rfl⟩
      exact ⟨⟨hlive, fun heq => hn (by rw [heq])⟩, rfl⟩
    · rintro ⟨⟨hlive, -⟩, heq⟩
      exact ⟨hlive, heq⟩

/-- An operation that neither opens a session nor ends one leaves the table as it is. -/
theorem other (h : Registered ops t) (ha : op.isAccept = false) (hd : ∀ k, op ≠ .disconnect k)
    (hfind : ∀ n, (t.after op).sessions.find? n = t.sessions.find? n) (n : UInt32) (k : Ticket) :
    (t.after op).sessions.find? n = some k ↔ Live (ops ++ [op]) k ∧ n = k.number := by
  have hlive : Live (ops ++ [op]) k ↔ Live ops k := by
    simp [Live, ha, (hd k).symm]
  rw [hfind, h.find?_iff, hlive]

theorem snoc (h : Registered ops t) (hall : AllTimely ops) (timely : Timely ops op) :
    Registered (ops ++ [op]) (t.after op) := by
  refine ⟨numbered_after h.numbered op, ?_, ?_⟩
  · rw [(kept_after t op).made, h.made]
    simp [List.countP_cons]
  · cases op with
    | accept conn peer => exact h.accept hall conn peer timely
    | disconnect k => exact h.disconnect timely
    | start hasListener =>
      refine h.other rfl (by simp) fun n => ?_
      simp only [after, LinkTable.start]
      split
      · rfl
      · split <;> rfl
    | register k payload => exact h.other rfl (by simp) (find?_admission t k payload)
    | install s conn =>
      refine h.other rfl (by simp) fun n => ?_
      simp only [after]
      cases hinstall : t.installClient s conn with
      | none => rfl
      | some t' =>
        obtain ⟨-, rfl⟩ := installClient_eq_some_iff.1 hinstall
        rfl
    | clear s conn =>
      refine h.other rfl (by simp) fun n => ?_
      simp only [after, sessions_clearClient]

end Registered

theorem sessions_ofConfig (h₀ : ofConfig c = .ok t₀) : t₀.sessions = .empty := by
  unfold ofConfig at h₀
  split at h₀
  · cases h₀
  · cases h₀
    rfl

theorem Run.registered (run : Run t₀ ops t) (h₀ : ofConfig c = .ok t₀) (hall : AllTimely ops) :
    Registered ops t := by
  induction run with
  | nil =>
    have hempty := sessions_ofConfig h₀
    refine ⟨?_, ?_, fun n k => ?_⟩
    · rw [hempty]
      exact .empty
    · rw [hempty]
      rfl
    · simp [hempty, Sessions.find?, Sessions.empty, Live]
  | snoc op run possible ih =>
    obtain ⟨hall, timely⟩ := allTimely_concat.1 hall
    exact (ih hall).snoc hall timely

/-! ### One session among others -/

/-- One session is opened and stays, and others come and go after it. -/
def turnover : Nat → List Operation
  | 0 => [.accept ⟨0⟩ none]
  | n + 1 => turnover n ++ [.accept ⟨n + 1⟩ none] ++ [.disconnect ⟨n + 1⟩]

theorem countP_turnover (n : Nat) : (turnover n).countP Operation.isAccept = n + 1 := by
  induction n with
  | zero => rfl
  | succ n ih =>
    rw [turnover, List.countP_append, countP_concat_accept, ih]
    rfl

theorem run_turnover (t₀ : LinkTable) (n : Nat) : ∃ t, Run t₀ (turnover n) t := by
  induction n with
  | zero => exact ⟨_, .snoc (.accept ⟨0⟩ none) .nil trivial⟩
  | succ n ih =>
    obtain ⟨t, run⟩ := ih
    exact ⟨_, (run.snoc (.accept ⟨n + 1⟩ none) trivial).snoc (.disconnect ⟨n + 1⟩) trivial⟩

/-- Up to the last number, everything comes in time, and only the first session is left. -/
theorem timely_turnover {n : Nat} (hn : n < UInt32.size) :
    AllTimely (turnover n) ∧ ∀ k, Live (turnover n) k ↔ k = ⟨0⟩ := by
  induction n with
  | zero =>
    have hall : AllTimely ([] ++ [Operation.accept ⟨0⟩ none]) :=
      allTimely_concat.2 ⟨allTimely_nil, fun k hk => absurd hk.1 (Nat.not_lt_zero _)⟩
    refine ⟨hall, fun k => ?_⟩
    rw [turnover, ← List.nil_append [Operation.accept _ _], live_concat_accept allTimely_nil]
    simp [Live]
  | succ n ih =>
    obtain ⟨hall, hlive⟩ := ih (Nat.lt_of_succ_lt hn)
    have haccept : AllTimely (turnover n ++ [.accept ⟨n + 1⟩ none]) := by
      refine allTimely_concat.2 ⟨hall, fun k hk => ?_⟩
      rw [(hlive k).1 hk, countP_turnover]
      simpa using hn
    have hopen : ∀ k, Live (turnover n ++ [.accept ⟨n + 1⟩ none]) k ↔ k = ⟨0⟩ ∨ k = ⟨n + 1⟩ :=
      fun k => by rw [live_concat_accept hall, hlive, countP_turnover]
    refine ⟨allTimely_concat.2 ⟨haccept, (hopen ⟨n + 1⟩).2 (.inr rfl)⟩, fun k => ?_⟩
    rw [turnover, live_concat_disconnect, hopen]
    constructor
    · rintro ⟨h | h, hne⟩
      · exact h
      · exact absurd h hne
    · rintro rfl
      exact ⟨.inl rfl, by simp⟩

/-! ### What the numbers are good for -/

/-- What the numbers of the sessions are good for. -/
structure Identified (ops : List Operation) (t : LinkTable) : Prop where
  /-- The table holds a session exactly if that is live, and under the number that it was given. -/
  held_iff : ∀ n k, t.sessions.find? n = some k ↔
    Live ops k ∧ ∃ x, t.sessions.get? k = some x ∧ x.id = n
  /-- No two live sessions have one number. -/
  unique : ∀ k k' x x', Live ops k → Live ops k' → t.sessions.get? k = some x →
    t.sessions.get? k' = some x' → x.id = x'.id → k = k'
  /-- A session that is opened in time has a number that nobody in the table has, so that all those
  stay there. -/
  opened : ∀ conn peer, Timely ops (.accept conn peer) → ∃ k ss x,
    t.sessions.create conn peer = (k, ss) ∧ ss.get? k = some x ∧
      t.sessions.find? x.id = none ∧ ss.find? x.id = some k ∧
        ∀ n k', t.sessions.find? n = some k' → ss.find? n = some k'
  /-- A live session that ends leaves the table, and no other does. -/
  ended : ∀ k, Live ops k → ∀ n k', (t.endSession k).sessions.find? n = some k' ↔
    t.sessions.find? n = some k' ∧ k' ≠ k

/-- As long as no session stays live until all numbers were used after it, the numbers tell live
sessions apart. -/
theorem identified_of_run (h₀ : ofConfig c = .ok t₀) (run : Run t₀ ops t) (hall : AllTimely ops) :
    Identified ops t := by
  have h := run.registered h₀ hall
  refine ⟨fun n k => ?_, fun k k' x x' hk hk' hx hx' heq => ?_,
    fun conn peer timely => ?_, fun k hk n k' => ?_⟩
  · rw [h.find?_iff]
    refine and_congr_right fun hlive => ?_
    obtain ⟨x, hx⟩ := h.get?_of_live hlive
    constructor
    · rintro rfl
      exact ⟨x, hx, h.id_eq hx⟩
    · rintro ⟨x', hx', rfl⟩
      exact h.id_eq hx'
  · rw [h.id_eq hx, h.id_eq hx'] at heq
    have hsame := h.find?_number hk
    rw [heq, h.find?_number hk'] at hsame
    exact (Option.some.inj hsame).symm
  · have hfree := h.find?_nextId timely
    refine ⟨_, (t.sessions.create conn peer).2, _, rfl, List.getElem?_concat_length, hfree, ?_,
      fun n k' hn => ?_⟩
    · rw [Sessions.find?_create, if_pos rfl]
    · rw [Sessions.find?_create, if_neg, hn]
      rintro rfl
      rw [hfree] at hn
      cases hn
  · have hlive := (h.disconnect hk n k')
    rw [after, live_concat_disconnect] at hlive
    rw [hlive, h.find?_iff, and_right_comm]

theorem identified_turnover :
    ∃ t₀ t, ofConfig trio = .ok t₀ ∧ Run t₀ (turnover 3) t ∧ AllTimely (turnover 3) ∧
      Identified (turnover 3) t := by
  obtain ⟨t, run⟩ := run_turnover ⟨⟨2⟩, 1, trio.members, initialPeers 1 trio.members, 0, false,
    .empty⟩ 3
  have hall := (timely_turnover (by decide : 3 < UInt32.size)).1
  exact ⟨_, t, rfl, run, hall, identified_of_run (c := trio) rfl run hall⟩

/-- A session that is still live when all numbers were used after it loses its place in the table
to the next one, and takes that out of it when it ends. -/
theorem Registered.displaced (h : Registered ops t) (hk : Live ops k)
    (hused : ops.countP Operation.isAccept = k.value + UInt32.size) (conn : ConnectionId)
    (peer : Option Address) :
    t.sessions.nextId = k.number ∧
      (∀ n, (t.after (.accept conn peer)).sessions.find? n ≠ some k) ∧
      (t.after (.accept conn peer)).sessions.find? k.number =
        some ⟨ops.countP Operation.isAccept⟩ ∧
      ∀ n, ((t.after (.accept conn peer)).after (.disconnect k)).sessions.find? n ≠
        some ⟨ops.countP Operation.isAccept⟩ := by
  have hsize : 0 < UInt32.size := by decide
  have hnext : t.sessions.nextId = k.number := by
    rw [h.number_new, Ticket.number, Ticket.number, hused]
    refine UInt32.toNat_inj.1 ?_
    simp only [UInt32.toNat_ofNat', UInt32.size]
    omega
  have hfind : ∀ n, (t.after (.accept conn peer)).sessions.find? n =
      if n = k.number then some ⟨ops.countP Operation.isAccept⟩ else t.sessions.find? n := by
    intro n
    rw [after, Sessions.find?_create, hnext, h.made]
  refine ⟨hnext, fun n hn => ?_, by rw [hfind, if_pos rfl], fun n hn => ?_⟩
  · rw [hfind] at hn
    split at hn
    · have hvalue := congrArg Ticket.value (Option.some.inj hn)
      simp only at hvalue
      omega
    · rename_i hne
      exact hne ((h.find?_iff n k).1 hn).2
  · -- the number of the session that ends is the only one that the new one is found under
    obtain ⟨x, hx⟩ := h.get?_of_live hk
    have hx' : (t.after (.accept conn peer)).sessions.get? k = some x := by
      show (t.sessions.made ++ _)[k.value]? = some x
      rw [List.getElem?_append_left (List.getElem?_eq_some_iff.1 hx).1]
      exact hx
    change ((t.after (.accept conn peer)).endSession k).sessions.find? n = _ at hn
    rw [find?_endSession_of_get? hx', h.id_eq hx] at hn
    split at hn
    · cases hn
    · rename_i hne
      rw [hfind, if_neg hne] at hn
      exact Nat.lt_irrefl _ ((h.find?_iff n _).1 hn).1.1

/-- One session stays while all other numbers are used: the next one gets its number and displaces
it while it is live, and when it ends, the table holds neither, though the other one is live. -/
theorem displaced_turnover :
    ∃ t₀ ops t old new conn peer, ofConfig trio = .ok t₀ ∧ Run t₀ ops t ∧ AllTimely ops ∧
      Live ops old ∧ t.sessions.find? t.sessions.nextId = some old ∧
      Run t₀ (ops ++ [.accept conn peer]) (t.after (.accept conn peer)) ∧
      Live (ops ++ [.accept conn peer]) old ∧
      (∀ n, (t.after (.accept conn peer)).sessions.find? n ≠ some old) ∧
      Live (ops ++ [.accept conn peer]) new ∧
      (t.after (.accept conn peer)).sessions.find? t.sessions.nextId = some new ∧
      Live (ops ++ [.accept conn peer] ++ [.disconnect old]) new ∧
      ∀ n, ((t.after (.accept conn peer)).after (.disconnect old)).sessions.find? n ≠ some new := by
  obtain ⟨last, hlast⟩ : ∃ last, last + 1 = UInt32.size := ⟨UInt32.size - 1, by decide⟩
  obtain ⟨t, run⟩ := run_turnover ⟨⟨2⟩, 1, trio.members, initialPeers 1 trio.members, 0, false,
    .empty⟩ last
  obtain ⟨hall, hlive⟩ := timely_turnover (by omega : last < UInt32.size)
  have hfirst : Live (turnover last) ⟨0⟩ := (hlive ⟨0⟩).2 rfl
  have h := run.registered (c := trio) rfl hall
  have hused : (turnover last).countP Operation.isAccept = (⟨0⟩ : Ticket).value + UInt32.size := by
    rw [countP_turnover, hlast, Nat.zero_add]
  obtain ⟨hnext, hgone, hnew, hlost⟩ := h.displaced hfirst hused ⟨0⟩ none
  have hopen := live_concat_accept hall ⟨0⟩ none
    (k := ⟨(turnover last).countP Operation.isAccept⟩)
  refine ⟨_, turnover last, t, ⟨0⟩, ⟨(turnover last).countP Operation.isAccept⟩, ⟨0⟩, none, rfl,
    run, hall, hfirst, ?_, run.snoc _ trivial, ?_, hgone, hopen.2 (.inr rfl), ?_, ?_, hlost⟩
  · rw [hnext]
    exact h.find?_number hfirst
  · exact (live_concat_accept hall ⟨0⟩ none).2 (.inl hfirst)
  · rw [hnext]
    exact hnew
  · refine live_concat_disconnect.2 ⟨hopen.2 (.inr rfl), ?_⟩
    rw [countP_turnover]
    simp

end LinkTable

end ActorMesh
