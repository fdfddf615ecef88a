import ActorMesh.Proofs.Connections.Service

/-!
# What a connection writes is what it accepted

What the stream has taken of a connection is the frames that were accepted, one after another, with
one exception. When writing fails in the middle of a frame while the connection serves, it goes on
with the next frame that is queued; if the stream takes that, the rest of the first frame is missing
in between (`Service.outgoing_of_moves`). When writing fails once more, nothing else is written.

The account therefore begins anew behind a frame that is torn: what was written before it, and what
was written after it.
-/

namespace ActorMesh.Service

variable {σ : Type} {h : Handler σ} {n : Service σ} {accepted : List Octets} {written : Octets}
  {c c' : Connection} {e : Connection.Event} {limit : Nat}

/-- Whether the frames that were accepted are written, or wait for it, or were given up at the end.
-/
def Covers (accepted : List Octets) (written : Octets) (c : Connection) : Prop :=
  ∃ left, Ledger accepted written left ∧ (c.pieces = left ∨ c.pieces = [] ∧ ¬ c.IsLive)

theorem Covers.event (hcovers : Covers accepted written c) (hstrides : c.Strides e c')
    (hlive : c'.IsLive → c.IsLive) (hwhole : e = .writeFailed → c.unwritten = [] ∨ ¬ c.IsLive) :
    Covers (accepted ++ c.gained c') (written ++ c.emitted e) c' := by
  obtain ⟨left, hledger, hleft⟩ := hcovers
  cases hstrides with
  | queues _ silent pieces gained =>
    rw [silent, List.append_nil]
    refine ⟨left ++ c.gained c', hledger.accept _, ?_⟩
    rcases hleft with hleft | ⟨hnone, hstopped⟩
    · exact .inl (by rw [pieces, hleft])
    · refine .inr ⟨?_, fun hlive' => hstopped (hlive hlive')⟩
      rw [pieces, hnone, gained.resolve_right fun hlive' => hstopped hlive'.1, List.append_nil]
  | @writes rest more count _ before emitted after gained =>
    obtain rfl : c.pieces = left := hleft.resolve_right fun hnone => by
      rw [before] at hnone
      cases hnone.1
    rw [before] at hledger
    rw [gained, List.append_nil, emitted]
    exact ⟨_, hledger.write count, .inl after⟩
  | tears failed live _ silent before gained =>
    have hnone : c.unwritten = [] := (hwhole failed).resolve_right fun hstopped => hstopped live
    obtain rfl : c.pieces = left := hleft.resolve_right fun hstopped => hstopped.2 live
    rw [before, hnone] at hledger
    rw [gained, silent, List.append_nil]
    exact ⟨_, hledger.write 0, .inl rfl⟩
  | ends _ stops silent after gained =>
    rw [gained, silent, List.append_nil, List.append_nil]
    exact ⟨left, hledger, .inr ⟨after, stops⟩⟩

/-- Writing fails in the middle of a frame. -/
theorem Covers.tear (hcovers : Covers accepted written c) (hstrides : c.Strides .writeFailed c')
    (hrest : c.unwritten ≠ []) :
    ¬ c'.IsLive ∧ c.emitted .writeFailed = [] ∧ c.gained c' = [] ∧ ∃ sent part later,
      accepted = sent ++ (part ++ c.unwritten) :: later ∧ written = sent.flatten ++ part ∧
        Covers later [] c' := by
  obtain ⟨left, hledger, hleft⟩ := hcovers
  obtain ⟨later, hpieces⟩ := Connection.exists_pieces_eq hrest
  obtain rfl : c.pieces = left := hleft.resolve_right fun hnone => by
    rw [hpieces] at hnone
    cases hnone.1
  rw [hpieces] at hledger
  obtain ⟨sent, part, haccepted, hwritten⟩ := hledger.exists_within
  have hbegins : Ledger later [] later := .between [] later
  cases hstrides with
  | queues whole => exact absurd (whole rfl) hrest
  | writes wrote => cases wrote
  | tears _ _ stops silent before gained =>
    have hlater : c'.pieces = later := (List.cons.inj (before.symm.trans hpieces)).2
    exact ⟨stops, silent, gained, sent, part, later, haccepted, hwritten, later, hbegins,
      .inl hlater⟩
  | ends _ stops silent after gained =>
    exact ⟨stops, silent, gained, sent, part, later, haccepted, hwritten, later, hbegins,
      .inr ⟨after, stops⟩⟩

/-- The account of a connection in use. -/
structure Account (limit : Nat) (n : Service σ) : Prop where
  takes : n.connection.Takes limit
  whole : n.torn = none → Covers n.accepted n.written n.connection
  /-- Once a frame is torn, the connection has stopped, and the account begins anew behind it. -/
  torn : ∀ w, n.torn = some w → ¬ n.connection.IsLive ∧ ∃ sent part rest later more,
    n.accepted = sent ++ (part ++ rest) :: later ∧ rest ≠ [] ∧ w = sent.flatten ++ part ∧
      n.written = w ++ more ∧ Covers later more n.connection

theorem account_new (s : σ) (peer : Option Address) (limit : Nat) :
    (new s peer limit).Account limit :=
  ⟨Connection.takes_new peer limit, fun _ => ⟨[], .between [] [], .inl rfl⟩, nofun⟩

theorem Account.event (haccount : n.Account limit) (hfair : h.Fair) (e : Connection.Event) :
    (n.after h (.event e)).Account limit := by
  have hstrides := Connection.strides_step hfair n.state n.connection e
  obtain ⟨htakes, hlive⟩ := haccount.takes.step hfair n.state e
  refine ⟨htakes, fun htorn => ?_, fun w htorn => ?_⟩
  · obtain ⟨hnone, htears⟩ := Option.or_eq_none_iff.1 htorn
    refine (haccount.whole hnone).event hstrides hlive fun hfailed => .inl ?_
    by_contra hrest
    rw [if_pos ⟨hfailed, hrest⟩] at htears
    cases htears
  · cases hbefore : n.torn with
    | none =>
      simp only [after, hbefore, Option.none_or, Option.ite_none_right_eq_some,
        Option.some.injEq] at htorn
      obtain ⟨⟨rfl, hrest⟩, rfl⟩ := htorn
      obtain ⟨hstops, hsilent, hgained, sent, part, later, haccepted, hwritten, hcovers⟩ :=
        (haccount.whole hbefore).tear hstrides hrest
      refine ⟨hstops, sent, part, n.connection.unwritten, later, [], ?_, hrest, hwritten, ?_,
        hcovers⟩
      · simp only [after, hgained, List.append_nil, haccepted]
      · simp only [after, hsilent]
    | some w' =>
      obtain rfl : w' = w := by simpa [after, hbefore] using htorn
      obtain ⟨hstopped, sent, part, rest, later, more, haccepted, hrest, hw, hwritten, hcovers⟩ :=
        haccount.torn w' hbefore
      refine ⟨fun hagain => hstopped (hlive hagain), sent, part, rest, _, _, ?_, hrest, hw, ?_,
        hcovers.event hstrides hlive fun _ => .inr hstopped⟩
      · simp only [after, haccepted, List.append_assoc, List.cons_append]
      · simp only [after, hwritten, List.append_assoc]

/-- While a connection serves, no frame of it is torn. -/
theorem Account.torn_eq_none (haccount : n.Account limit) (hlive : n.connection.IsLive) :
    n.torn = none := by
  cases htorn : n.torn with
  | none => rfl
  | some w => exact absurd hlive (haccount.torn w htorn).1

theorem Account.after (haccount : n.Account limit) (hfair : h.Fair) (m : Move) :
    (n.after h m).Account limit := by
  have htakes := takes_after hfair haccount.takes m
  rcases after_cases haccount.takes h m with ⟨e, rfl⟩ | heq | ⟨hlive, more, heq, -⟩
  · exact haccount.event hfair e
  · rwa [heq]
  · have htorn := haccount.torn_eq_none hlive
    obtain ⟨left, hledger, hleft⟩ := haccount.whole htorn
    obtain rfl : n.connection.pieces = left := hleft.resolve_right fun hnone => hnone.2 hlive
    rw [heq] at htakes ⊢
    refine ⟨htakes, fun _ => ⟨_, hledger.accept _, .inl (pieces_queue hlive more)⟩,
      fun w hw => ?_⟩
    cases htorn.symm.trans hw

theorem Account.afterAll (haccount : n.Account limit) (hfair : h.Fair) (ms : List Move) :
    (n.afterAll h ms).Account limit :=
  afterAll_keeps (fun _ m _ hkept => hkept.after hfair m) haccount

/-! ### What the stream took -/

/-- What the stream took of a connection in use. -/
structure Outgoing (n : Service σ) : Prop where
  /-- If the stream takes nothing more once a frame is torn, it took the frames that were accepted,
  in their order, up to some octet. -/
  ordered : (∀ w, n.torn = some w → n.written = w) → n.written <+: n.accepted.flatten
  /-- If it does, it took the part of the torn frame that came before the failure, and behind that
  the frames that were accepted after the torn one, up to some octet. -/
  torn : ∀ w, n.torn = some w → ∃ sent part rest later more,
    n.accepted = sent ++ (part ++ rest) :: later ∧ rest ≠ [] ∧ w = sent.flatten ++ part ∧
      n.written = w ++ more ∧ more <+: later.flatten

theorem Covers.isPrefix_written (hcovers : Covers accepted written c) :
    written <+: accepted.flatten := by
  obtain ⟨left, hledger, -⟩ := hcovers
  exact hledger.isPrefix_written

/-- Whatever happens to a connection, in whatever order. -/
theorem outgoing_of_moves (hfair : h.Fair) (s : σ) (peer : Option Address) (limit : Nat)
    (ms : List Move) : ((new s peer limit).afterAll h ms).Outgoing := by
  have haccount := (account_new s peer limit).afterAll hfair ms
  refine ⟨fun hsilent => ?_, fun w htorn => ?_⟩
  · cases htorn : ((new s peer limit).afterAll h ms).torn with
    | none => exact (haccount.whole htorn).isPrefix_written
    | some w =>
      obtain ⟨-, sent, part, rest, later, more, haccepted, -, hw, -⟩ := haccount.torn w htorn
      rw [hsilent w htorn, haccepted, hw]
      exact ⟨rest ++ later.flatten, by simp⟩
  · obtain ⟨-, sent, part, rest, later, more, haccepted, hrest, hw, hwritten, hcovers⟩ :=
      haccount.torn w htorn
    exact ⟨sent, part, rest, later, more, haccepted, hrest, hw, hwritten,
      hcovers.isPrefix_written⟩

/-- Two frames are sent, and writing fails in the middle of the first. -/
def brokenFrame : List Move :=
  [.event .started, .send ⟨1, [7]⟩, .send ⟨2, []⟩, .event .polled, .event (.wrote 4),
    .event .writeFailed]

/-- When writing fails once more, the stream keeps what it had. -/
theorem outgoing_brokenFrame :
    let n := (new () none 16).afterAll Couple.echo
      (brokenFrame ++ [.event .polled, .event .writeFailed, .event .polled, .event .shutDown])
    Couple.echo.Fair ∧ n.Outgoing ∧ n.torn = some n.written ∧ n.written = [0, 0, 0, 1] ∧
      n.accepted = [[0, 0, 0, 1, 1, 7], [0, 0, 0, 0, 2]] :=
  ⟨Couple.fair_echo, outgoing_of_moves Couple.fair_echo .., by decide +kernel⟩

/-- When writing succeeds again, the second frame follows on a part of the first, and the far end
reads a frame that nobody sent. -/
theorem misread_brokenFrame :
    let n := (new () none 16).afterAll Couple.echo
      (brokenFrame ++ [.event .polled, .event (.wrote 5), .event .flushed, .event .polled,
        .event .shutDown])
    n.accepted = [[0, 0, 0, 1, 1, 7], [0, 0, 0, 0, 2]] ∧
      n.written = [0, 0, 0, 1, 0, 0, 0, 0, 2] ∧ ¬ n.written <+: n.accepted.flatten ∧
      (Frame.split 16 n.written).frames = [⟨0, [0]⟩] := by
  refine ⟨by decide +kernel, by decide +kernel, by decide +kernel, by decide +kernel⟩

end ActorMesh.Service
