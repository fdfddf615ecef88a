import ActorMesh.Connection
import ActorMesh.Proofs.Frames.Splitting

/-!
# Frames from a stream that arrives in pieces

A connection hands on what is complete after each read and keeps the rest. How the reads cut the
stream makes no difference: the handler is given the same frames in the same states, and the same
failure ends it (`Handler.reassembles`).

What a handler is given is written down by a handler that is wrapped around it (`Handler.logged`).
Handing on the frames of a buffer is handing them on one by one (`Handler.hand`), up to the first
one that is rejected.
-/

namespace ActorMesh

variable {σ : Type}

/-- A frame that a handler was given, in which state and with which outlet, and what it did. -/
structure Deed (σ : Type) where
  before : σ
  outlet : Outlet
  frame : Frame
  reaction : Reaction σ

namespace Handler

/-! ### Handing on frames -/

/-- A handler that writes down what it is given. -/
def logged (h : Handler σ) : Handler (σ × List (Deed σ)) where
  opened s o := (((h.opened s.1 o).1, s.2), (h.opened s.1 o).2)
  frame s o f :=
    let r := h.frame s.1 o f
    ⟨(r.state, s.2 ++ [⟨s.1, o, f, r⟩]), r.outlet, r.notices, r.fault⟩
  closed s o := (h.closed s.1 o, s.2)

/-- Hands on frames until one is rejected. -/
def hand (h : Handler σ) (s : σ) (o : Outlet) : List Frame → Reaction σ
  | [] => ⟨s, o, [], none⟩
  | f :: rest =>
    let r := h.frame s o f
    match r.fault with
    | some _ => r
    | none =>
      let more := hand h r.state r.outlet rest
      { more with notices := r.notices ++ more.notices }

/-- What is written down of handing on frames. -/
def deeds (h : Handler σ) (s : σ) (o : Outlet) : List Frame → List (Deed σ)
  | [] => []
  | f :: rest =>
    let r := h.frame s o f
    ⟨s, o, f, r⟩ :: match r.fault with
      | some _ => []
      | none => deeds h r.state r.outlet rest

section

variable {h : Handler σ} {s : σ} {o : Outlet} {f : Frame} {e : LinkError}

theorem hand_cons_of_fault (hf : (h.frame s o f).fault = some e) (rest : List Frame) :
    h.hand s o (f :: rest) = h.frame s o f := by
  simp only [hand, hf]

theorem hand_cons_of_ok (hf : (h.frame s o f).fault = none) (rest : List Frame) :
    h.hand s o (f :: rest) =
      let more := h.hand (h.frame s o f).state (h.frame s o f).outlet rest
      { more with notices := (h.frame s o f).notices ++ more.notices } := by
  simp only [hand, hf]

theorem deeds_cons_of_fault (hf : (h.frame s o f).fault = some e) (rest : List Frame) :
    h.deeds s o (f :: rest) = [⟨s, o, f, h.frame s o f⟩] := by
  simp only [deeds, hf]

theorem deeds_cons_of_ok (hf : (h.frame s o f).fault = none) (rest : List Frame) :
    h.deeds s o (f :: rest) =
      ⟨s, o, f, h.frame s o f⟩ :: h.deeds (h.frame s o f).state (h.frame s o f).outlet rest := by
  simp only [deeds, hf]

end

/-- A handler that does to frames what another does, and writes a note of each. -/
def Notes {β : Type} (h : Handler σ) (h' : Handler (σ × List β)) (note : Deed σ → β) : Prop :=
  ∀ s log o f, h'.frame (s, log) o f =
    ⟨((h.frame s o f).state, log ++ [note ⟨s, o, f, h.frame s o f⟩]), (h.frame s o f).outlet,
      (h.frame s o f).notices, (h.frame s o f).fault⟩

/-- Writing notes changes nothing else. -/
theorem Notes.hand {β : Type} {h : Handler σ} {h' : Handler (σ × List β)} {note : Deed σ → β}
    (hnotes : h.Notes h' note) (s : σ) (log : List β) (o : Outlet) (fs : List Frame) :
    h'.hand (s, log) o fs =
      ⟨((h.hand s o fs).state, log ++ (h.deeds s o fs).map note), (h.hand s o fs).outlet,
        (h.hand s o fs).notices, (h.hand s o fs).fault⟩ := by
  induction fs generalizing s log o with
  | nil => simp [Handler.hand, deeds]
  | cons f rest ih =>
    have hframe := hnotes s log o f
    have hfault : (h'.frame (s, log) o f).fault = (h.frame s o f).fault := by rw [hframe]
    cases hf : (h.frame s o f).fault with
    | some e =>
      rw [hand_cons_of_fault (hfault.trans hf), hand_cons_of_fault hf, deeds_cons_of_fault hf,
        hframe]
      rfl
    | none =>
      rw [hand_cons_of_ok (hfault.trans hf), hand_cons_of_ok hf, deeds_cons_of_ok hf, hframe]
      simp only [ih, List.map_cons, List.append_assoc, List.singleton_append]

theorem notes_logged (h : Handler σ) : h.Notes h.logged id := fun _ _ _ _ => rfl

theorem hand_logged (h : Handler σ) (s : σ) (log : List (Deed σ)) (o : Outlet) (fs : List Frame) :
    h.logged.hand (s, log) o fs =
      ⟨((h.hand s o fs).state, log ++ h.deeds s o fs), (h.hand s o fs).outlet,
        (h.hand s o fs).notices, (h.hand s o fs).fault⟩ := by
  rw [h.notes_logged.hand, List.map_id]

/-- What is handed on is the frames in their order, up to one that is rejected. -/
theorem map_frame_deeds_prefix (h : Handler σ) (s : σ) (o : Outlet) (fs : List Frame) :
    (h.deeds s o fs).map (·.frame) <+: fs := by
  induction fs generalizing s o with
  | nil => exact List.prefix_rfl
  | cons f rest ih =>
    cases hf : (h.frame s o f).fault with
    | some e =>
      rw [deeds_cons_of_fault hf]
      exact ⟨rest, rfl⟩
    | none =>
      rw [deeds_cons_of_ok hf, List.map_cons, List.cons_prefix_cons]
      exact ⟨rfl, ih _ _⟩

theorem map_frame_deeds {h : Handler σ} {s : σ} {o : Outlet} {fs : List Frame}
    (hok : (h.hand s o fs).fault = none) : (h.deeds s o fs).map (·.frame) = fs := by
  induction fs generalizing s o with
  | nil => rfl
  | cons f rest ih =>
    cases hf : (h.frame s o f).fault with
    | some e =>
      rw [hand_cons_of_fault hf, hf] at hok
      cases hok
    | none =>
      rw [hand_cons_of_ok hf] at hok
      rw [deeds_cons_of_ok hf, List.map_cons, ih hok]

/-- Nothing is handed on behind a frame that is rejected. -/
theorem eq_nil_of_deeds_eq {h : Handler σ} {s : σ} {o : Outlet} {fs : List Frame}
    {pre post : List (Deed σ)} {d : Deed σ} (heq : h.deeds s o fs = pre ++ d :: post)
    (hd : d.reaction.fault ≠ none) : post = [] := by
  induction fs generalizing s o pre with
  | nil => simp [deeds] at heq
  | cons f rest ih =>
    cases hf : (h.frame s o f).fault with
    | some e =>
      rw [deeds_cons_of_fault hf, eq_comm, List.append_eq_singleton_iff] at heq
      rcases heq with ⟨-, heq⟩ | ⟨-, heq⟩ <;> cases heq
      rfl
    | none =>
      rw [deeds_cons_of_ok hf] at heq
      rcases pre with _ | ⟨b, pre⟩
      · cases heq
        exact absurd hf hd
      · exact ih (List.cons.inj heq).2

/-- Handing on frames ends at one that is rejected, and only there. -/
theorem hand_fault_eq_some_iff {h : Handler σ} {s : σ} {o : Outlet} {fs : List Frame}
    {e : LinkError} :
    (h.hand s o fs).fault = some e ↔ ∃ d ∈ h.deeds s o fs, d.reaction.fault = some e := by
  induction fs generalizing s o with
  | nil => simp [hand, deeds]
  | cons f rest ih =>
    cases hf : (h.frame s o f).fault with
    | some e' => simp [hand_cons_of_fault hf, deeds_cons_of_fault hf]
    | none => simp [hand_cons_of_ok hf, deeds_cons_of_ok hf, ih, hf]

theorem hand_fault_eq_none_iff {h : Handler σ} {s : σ} {o : Outlet} {fs : List Frame} :
    (h.hand s o fs).fault = none ↔ ∀ d ∈ h.deeds s o fs, d.reaction.fault = none := by
  simp only [Option.eq_none_iff_forall_ne_some, ne_eq, hand_fault_eq_some_iff]
  exact ⟨fun hall d hd e he => hall e ⟨d, hd, he⟩, fun hall e ⟨d, hd, he⟩ => hall d hd e he⟩

end Handler

/-! ### Handing on what is in a buffer -/

namespace Connection

variable {h : Handler σ} {limit : Nat} {s : σ} {o : Outlet}

theorem dispatch_of_error {bs : Octets} {e : LinkError} (hd : Frame.decode limit bs = .error e) :
    dispatch h limit s o bs = ⟨⟨s, o, [], some e⟩, bs⟩ := by
  rw [dispatch]
  split
  · rename_i h'
    cases hd.symm.trans h'
    rfl
  · rename_i h'
    cases hd.symm.trans h'
  · rename_i h'
    cases hd.symm.trans h'

theorem dispatch_of_none {bs : Octets} (hd : Frame.decode limit bs = .ok none) :
    dispatch h limit s o bs = ⟨⟨s, o, [], none⟩, bs⟩ := by
  rw [dispatch]
  split
  · rename_i h'
    cases hd.symm.trans h'
  · rfl
  · rename_i h'
    cases hd.symm.trans h'

section

variable {bs rest : Octets} {f : Frame} (hd : Frame.decode limit bs = .ok (some (f, rest)))

include hd

theorem dispatch_of_some :
    dispatch h limit s o bs =
      match (h.frame s o f).fault with
      | some _ => ⟨h.frame s o f, rest⟩
      | none =>
        let more := dispatch h limit (h.frame s o f).state (h.frame s o f).outlet rest
        ⟨{ more.reaction with notices := (h.frame s o f).notices ++ more.reaction.notices },
          more.rest⟩ := by
  conv => lhs; rw [dispatch]
  split
  · rename_i h'
    cases hd.symm.trans h'
  · rename_i h'
    cases hd.symm.trans h'
  · rename_i f' rest' h'
    cases hd.symm.trans h'
    rfl

theorem dispatch_of_rejected {e : LinkError} (hf : (h.frame s o f).fault = some e) :
    dispatch h limit s o bs = ⟨h.frame s o f, rest⟩ := by
  rw [dispatch_of_some hd, hf]

theorem dispatch_of_handled (hf : (h.frame s o f).fault = none) :
    dispatch h limit s o bs =
      let more := dispatch h limit (h.frame s o f).state (h.frame s o f).outlet rest
      ⟨{ more.reaction with notices := (h.frame s o f).notices ++ more.reaction.notices },
        more.rest⟩ := by
  rw [dispatch_of_some hd, hf]

end

/-- Where a frame of a buffer is rejected, handing on the buffer is handing on the frames that it
splits into. -/
theorem dispatch_of_hand_fault {bs : Octets} {e : LinkError}
    (hf : (h.hand s o (Frame.split limit bs).frames).fault = some e) :
    (dispatch h limit s o bs).reaction = h.hand s o (Frame.split limit bs).frames := by
  induction bs using Frame.decode_induction limit generalizing s o with
  | fault bs e' hd =>
    rw [Frame.split_of_error hd] at hf
    cases hf
  | waits bs hd =>
    rw [Frame.split_of_none hd] at hf
    cases hf
  | frame bs f rest hd ih =>
    rw [Frame.split_of_some hd] at hf ⊢
    cases hfault : (h.frame s o f).fault with
    | some e' => rw [dispatch_of_rejected hd hfault, Handler.hand_cons_of_fault hfault]
    | none =>
      rw [Handler.hand_cons_of_ok hfault] at hf
      rw [dispatch_of_handled hd hfault, Handler.hand_cons_of_ok hfault]
      simp only [ih hf]

/-- Where none is rejected, it comes to the failure of the split and leaves what that leaves. -/
theorem dispatch_of_hand_ok {bs : Octets}
    (hok : (h.hand s o (Frame.split limit bs).frames).fault = none) :
    dispatch h limit s o bs =
      ⟨{ h.hand s o (Frame.split limit bs).frames with fault := (Frame.split limit bs).fault },
        (Frame.split limit bs).rest⟩ := by
  induction bs using Frame.decode_induction limit generalizing s o with
  | fault bs e hd => rw [dispatch_of_error hd, Frame.split_of_error hd, Handler.hand]
  | waits bs hd => rw [dispatch_of_none hd, Frame.split_of_none hd, Handler.hand]
  | frame bs f rest hd ih =>
    rw [Frame.split_of_some hd] at hok ⊢
    cases hfault : (h.frame s o f).fault with
    | some e =>
      rw [Handler.hand_cons_of_fault hfault, hfault] at hok
      cases hok
    | none =>
      rw [Handler.hand_cons_of_ok hfault] at hok
      rw [dispatch_of_handled hd hfault, Handler.hand_cons_of_ok hfault]
      simp only [ih hok]

/-- In either case the handler has taken the frames that the buffer splits into. -/
theorem dispatch_eq_hand (h : Handler σ) (limit : Nat) (s : σ) (o : Outlet) (bs : Octets) :
    (dispatch h limit s o bs).reaction.state = (h.hand s o (Frame.split limit bs).frames).state ∧
      (dispatch h limit s o bs).reaction.outlet =
        (h.hand s o (Frame.split limit bs).frames).outlet := by
  cases hf : (h.hand s o (Frame.split limit bs).frames).fault with
  | some e =>
    rw [dispatch_of_hand_fault hf]
    exact ⟨rfl, rfl⟩
  | none =>
    rw [dispatch_of_hand_ok hf]
    exact ⟨rfl, rfl⟩

/-- Handing on a buffer succeeds if no header and no frame of it is at fault. -/
theorem dispatch_fault_eq_none {bs : Octets}
    (hf : (dispatch h limit s o bs).reaction.fault = none) :
    (h.hand s o (Frame.split limit bs).frames).fault = none ∧
      (Frame.split limit bs).fault = none ∧
      (dispatch h limit s o bs).rest = (Frame.split limit bs).rest := by
  cases hhand : (h.hand s o (Frame.split limit bs).frames).fault with
  | some e =>
    rw [dispatch_of_hand_fault hhand, hhand] at hf
    cases hf
  | none =>
    rw [dispatch_of_hand_ok hhand] at hf ⊢
    exact ⟨rfl, hf, rfl⟩

/-- What a read makes of a connection that serves: it hands on the frames that are complete, and
serves on or stops. -/
theorem step_received (h : Handler σ) (s : σ) (o : Outlet) (buffer bytes : Octets) :
    let split := Frame.split o.limit (buffer ++ bytes)
    let r := h.hand s o split.frames
    let after := step h s ⟨o, .serving .idle, buffer⟩ (.received bytes)
    after.state = r.state ∧
      (after.connection = ⟨r.outlet, .serving .idle, split.rest⟩ ∧ r.fault = none ∧
          split.fault = none ∨
        ∃ rest, after.connection = ⟨r.outlet.refuse, .draining .idle, rest⟩) := by
  obtain ⟨hstate, hout⟩ := dispatch_eq_hand h o.limit s o (buffer ++ bytes)
  dsimp only [step, receive]
  cases hf : (dispatch h o.limit s o (buffer ++ bytes)).reaction.fault with
  | some e => exact ⟨hstate, .inr ⟨_, by rw [stop, hout]⟩⟩
  | none =>
    obtain ⟨hhand, hsplit, hrest⟩ := dispatch_fault_eq_none hf
    exact ⟨hstate, .inl ⟨by rw [hout, hrest], hhand, hsplit⟩⟩

/-- What is queued after a read is what the frames left behind. -/
theorem outlet_step_received (h : Handler σ) (s : σ) (o : Outlet) (buffer bytes : Octets) :
    let after := step h s ⟨o, .serving .idle, buffer⟩ (.received bytes)
    let r := h.hand s o (Frame.split o.limit (buffer ++ bytes)).frames
    after.connection.outlet.queue = r.outlet.queue ∧
      after.connection.outlet.limit = r.outlet.limit := by
  obtain ⟨-, ⟨hafter, -⟩ | ⟨rest, hafter⟩⟩ := step_received h s o buffer bytes
  · dsimp only
    rw [hafter]
    exact ⟨rfl, rfl⟩
  · dsimp only
    rw [hafter]
    exact ⟨rfl, rfl⟩

/-- What is written down of a read. -/
theorem log_step_received (h : Handler σ) (s : σ) (o : Outlet) (buffer bytes : Octets) :
    (step h.logged (s, []) ⟨o, .serving .idle, buffer⟩ (.received bytes)).state.2 =
      h.deeds s o (Frame.split o.limit (buffer ++ bytes)).frames := by
  rw [(step_received h.logged (s, []) o buffer bytes).1, Handler.hand_logged]
  rfl

/-- A buffer that was handed on without a failure makes no difference to what is handed on later. -/
theorem dispatch_append {bs : Octets} (hok : (dispatch h limit s o bs).reaction.fault = none)
    (more : Octets) :
    dispatch h limit s o (bs ++ more) =
      let d := dispatch h limit s o bs
      let later := dispatch h limit d.reaction.state d.reaction.outlet (d.rest ++ more)
      ⟨{ later.reaction with notices := d.reaction.notices ++ later.reaction.notices },
        later.rest⟩ := by
  induction bs using Frame.decode_induction limit generalizing s o with
  | fault bs e hd =>
    rw [dispatch_of_error hd] at hok
    cases hok
  | waits bs hd => simp only [dispatch_of_none hd, List.nil_append]
  | frame bs f rest hd ih =>
    have hd' := Frame.decode_append_some hd more
    cases hf : (h.frame s o f).fault with
    | some e =>
      rw [dispatch_of_rejected hd hf, hf] at hok
      cases hok
    | none =>
      rw [dispatch_of_handled hd hf] at hok
      rw [dispatch_of_handled hd hf, dispatch_of_handled hd' hf]
      simp only [ih hok, List.append_assoc]

/-- Nothing is handed on behind a failure. -/
theorem dispatch_append_of_fault {bs : Octets} {e : LinkError}
    (hfault : (dispatch h limit s o bs).reaction.fault = some e) (more : Octets) :
    dispatch h limit s o (bs ++ more) =
      ⟨(dispatch h limit s o bs).reaction, (dispatch h limit s o bs).rest ++ more⟩ := by
  induction bs using Frame.decode_induction limit generalizing s o with
  | fault bs e' hd =>
    rw [dispatch_of_error hd, dispatch_of_error (Frame.decode_append_error hd more)]
  | waits bs hd =>
    rw [dispatch_of_none hd] at hfault
    cases hfault
  | frame bs f rest hd ih =>
    have hd' := Frame.decode_append_some hd more
    cases hf : (h.frame s o f).fault with
    | some e' => rw [dispatch_of_rejected hd hf, dispatch_of_rejected hd' hf]
    | none =>
      rw [dispatch_of_handled hd hf] at hfault
      rw [dispatch_of_handled hd hf, dispatch_of_handled hd' hf]
      simp only [ih hfault]

/-- What is left without a failure waits for more. -/
theorem decode_rest_dispatch {bs : Octets}
    (hok : (dispatch h limit s o bs).reaction.fault = none) :
    Frame.decode limit (dispatch h limit s o bs).rest = .ok none := by
  cases hf : (h.hand s o (Frame.split limit bs).frames).fault with
  | some e =>
    rw [dispatch_of_hand_fault hf, hf] at hok
    cases hok
  | none =>
    rw [dispatch_of_hand_ok hf] at hok ⊢
    exact Frame.decode_rest_split hok

/-! ### Writing down what is handed on -/

/-- Notes of handing on a buffer are notes of the frames that it splits into, up to one that is
rejected. -/
theorem dispatch_of_notes {β : Type} {h' : Handler (σ × List β)} {note : Deed σ → β}
    (hnotes : h.Notes h' note) (limit : Nat) (s : σ) (log : List β) (o : Outlet) (bs : Octets) :
    dispatch h' limit (s, log) o bs =
      let d := dispatch h limit s o bs
      let deeds := h.deeds s o (Frame.split limit bs).frames
      ⟨⟨(d.reaction.state, log ++ deeds.map note), d.reaction.outlet, d.reaction.notices,
        d.reaction.fault⟩, d.rest⟩ := by
  induction bs using Frame.decode_induction limit generalizing s log o with
  | fault bs e hd =>
    simp [dispatch_of_error hd, Frame.split_of_error hd, Handler.deeds]
  | waits bs hd => simp [dispatch_of_none hd, Frame.split_of_none hd, Handler.deeds]
  | frame bs f rest hd ih =>
    have hframe := hnotes s log o f
    have hfault : (h'.frame (s, log) o f).fault = (h.frame s o f).fault := by rw [hframe]
    rw [Frame.split_of_some hd]
    cases hf : (h.frame s o f).fault with
    | some e =>
      rw [dispatch_of_rejected hd (hfault.trans hf), dispatch_of_rejected hd hf,
        Handler.deeds_cons_of_fault hf, hframe]
      rfl
    | none =>
      rw [dispatch_of_handled hd (hfault.trans hf), dispatch_of_handled hd hf,
        Handler.deeds_cons_of_ok hf, hframe]
      simp only [ih, List.map_cons, List.append_assoc, List.singleton_append]

/-- What handing on came to, without what was written down. -/
def Dispatch.unlogged (d : Dispatch (σ × List (Deed σ))) : Dispatch σ :=
  ⟨⟨d.reaction.state.1, d.reaction.outlet, d.reaction.notices, d.reaction.fault⟩, d.rest⟩

theorem unlogged_dispatch (h : Handler σ) (limit : Nat) (s : σ) (log : List (Deed σ)) (o : Outlet)
    (bs : Octets) : (dispatch h.logged limit (s, log) o bs).unlogged = dispatch h limit s o bs := by
  rw [dispatch_of_notes h.notes_logged]
  rfl

theorem log_dispatch (h : Handler σ) (limit : Nat) (s : σ) (log : List (Deed σ)) (o : Outlet)
    (bs : Octets) : (dispatch h.logged limit (s, log) o bs).reaction.state.2 =
      log ++ h.deeds s o (Frame.split limit bs).frames := by
  simp only [dispatch_of_notes h.notes_logged, List.map_id]

/-- A failure comes from a header, which is left, or from a frame that was rejected. -/
theorem dispatch_fault_cases {log : List (Deed σ)} {bs : Octets} {e : LinkError}
    (hf : (dispatch h.logged limit (s, log) o bs).reaction.fault = some e) :
    Frame.decode limit (dispatch h.logged limit (s, log) o bs).rest = .error e ∨
      ∃ d ∈ (dispatch h.logged limit (s, log) o bs).reaction.state.2,
        d.reaction.fault = some e := by
  have hlogged := h.hand_logged s log o (Frame.split limit bs).frames
  cases hhand : (h.logged.hand (s, log) o (Frame.split limit bs).frames).fault with
  | some e' =>
    rw [dispatch_of_hand_fault hhand, hlogged] at hf
    obtain ⟨d, hmem, hd⟩ := Handler.hand_fault_eq_some_iff.1 hf
    rw [log_dispatch]
    exact .inr ⟨d, List.mem_append_right log hmem, hd⟩
  | none =>
    rw [dispatch_of_hand_ok hhand] at hf ⊢
    exact .inl (Frame.decode_rest_split_of_fault hf)

/-! ### Reading in pieces -/

/-- Hands on what is complete after each read, until one fails. -/
def feed (h : Handler σ) (limit : Nat) (s : σ) (o : Outlet) (buffer : Octets) :
    List Octets → Dispatch σ
  | [] => ⟨⟨s, o, [], none⟩, buffer⟩
  | bytes :: reads =>
    let d := dispatch h limit s o (buffer ++ bytes)
    match d.reaction.fault with
    | some _ => d
    | none =>
      let later := feed h limit d.reaction.state d.reaction.outlet d.rest reads
      ⟨{ later.reaction with notices := d.reaction.notices ++ later.reaction.notices },
        later.rest⟩

section

variable {buffer bytes : Octets}

theorem feed_cons_of_fault {e : LinkError}
    (hd : (dispatch h limit s o (buffer ++ bytes)).reaction.fault = some e)
    (reads : List Octets) :
    feed h limit s o buffer (bytes :: reads) = dispatch h limit s o (buffer ++ bytes) := by
  simp only [feed, hd]

theorem feed_cons_of_ok
    (hd : (dispatch h limit s o (buffer ++ bytes)).reaction.fault = none) (reads : List Octets) :
    feed h limit s o buffer (bytes :: reads) =
      let d := dispatch h limit s o (buffer ++ bytes)
      let later := feed h limit d.reaction.state d.reaction.outlet d.rest reads
      ⟨{ later.reaction with notices := d.reaction.notices ++ later.reaction.notices },
        later.rest⟩ := by
  simp only [feed, hd]

end

/-- The whole at once is like one read after the other, but for what is behind a failure. -/
theorem dispatch_flatten {buffer : Octets} (hb : Frame.decode limit buffer = .ok none)
    (reads : List Octets) :
    ∃ unread, dispatch h limit s o (buffer ++ reads.flatten) =
        ⟨(feed h limit s o buffer reads).reaction, (feed h limit s o buffer reads).rest ++ unread⟩ ∧
      ((feed h limit s o buffer reads).reaction.fault = none → unread = []) := by
  induction reads generalizing s o buffer with
  | nil =>
    refine ⟨[], ?_, fun _ => rfl⟩
    simp only [List.flatten_nil, List.append_nil, dispatch_of_none hb, feed]
  | cons bytes reads ih =>
    rw [List.flatten_cons, ← List.append_assoc]
    cases hd : (dispatch h limit s o (buffer ++ bytes)).reaction.fault with
    | some e =>
      rw [feed_cons_of_fault hd]
      refine ⟨reads.flatten, dispatch_append_of_fault hd _, fun hnone => ?_⟩
      cases hnone.symm.trans hd
    | none =>
      obtain ⟨unread, heq, hunread⟩ :=
        ih (s := (dispatch h limit s o (buffer ++ bytes)).reaction.state)
          (o := (dispatch h limit s o (buffer ++ bytes)).reaction.outlet) (decode_rest_dispatch hd)
      rw [feed_cons_of_ok hd]
      refine ⟨unread, ?_, hunread⟩
      rw [dispatch_append hd]
      simp only [heq]

theorem unlogged_feed (h : Handler σ) (limit : Nat) (s : σ) (log : List (Deed σ)) (o : Outlet)
    (buffer : Octets) (reads : List Octets) :
    (feed h.logged limit (s, log) o buffer reads).unlogged = feed h limit s o buffer reads := by
  induction reads generalizing s log o buffer with
  | nil => rfl
  | cons bytes reads ih =>
    have hd := unlogged_dispatch h limit s log o (buffer ++ bytes)
    cases hf : (dispatch h.logged limit (s, log) o (buffer ++ bytes)).reaction.fault with
    | some e =>
      have hf' : (dispatch h limit s o (buffer ++ bytes)).reaction.fault = some e := by
        rw [← hd, ← hf]
        rfl
      rw [feed_cons_of_fault hf, feed_cons_of_fault hf', hd]
    | none =>
      have hf' : (dispatch h limit s o (buffer ++ bytes)).reaction.fault = none := by
        rw [← hd, ← hf]
        rfl
      rw [feed_cons_of_ok hf, feed_cons_of_ok hf', ← hd]
      simp only [← ih _ (dispatch h.logged limit (s, log) o (buffer ++ bytes)).reaction.state.2]
      rfl

theorem feed_fault_cases {log : List (Deed σ)} {buffer : Octets} {reads : List Octets}
    {e : LinkError}
    (hf : (feed h.logged limit (s, log) o buffer reads).reaction.fault = some e) :
    Frame.decode limit (feed h.logged limit (s, log) o buffer reads).rest = .error e ∨
      ∃ d ∈ (feed h.logged limit (s, log) o buffer reads).reaction.state.2,
        d.reaction.fault = some e := by
  induction reads generalizing s log o buffer with
  | nil => cases hf
  | cons bytes reads ih =>
    cases hd : (dispatch h.logged limit (s, log) o (buffer ++ bytes)).reaction.fault with
    | some e' =>
      rw [feed_cons_of_fault hd] at hf ⊢
      exact dispatch_fault_cases hf
    | none =>
      rw [feed_cons_of_ok hd] at hf ⊢
      exact ih hf

/-- Reads that arrive at a connection one after another. -/
def readAll (h : Handler σ) (s : σ) (c : Connection) : List Octets → Step σ
  | [] => ⟨s, c, []⟩
  | bytes :: reads =>
    let r := c.step h s (.received bytes)
    let later := readAll h r.state r.connection reads
    { later with notices := r.notices ++ later.notices }

/-- A connection that has stopped reads nothing more. -/
theorem readAll_stop (h : Handler σ) (s : σ) (c : Connection) (reads : List Octets) :
    readAll h s c.stop reads = ⟨s, c.stop, []⟩ := by
  induction reads with
  | nil => rfl
  | cons bytes reads ih =>
    rw [readAll, show c.stop.step h s (.received bytes) = ⟨s, c.stop, []⟩ from rfl]
    simp only [ih, List.nil_append]

end Connection

namespace Handler

open Connection

/-- A handler has no say in how long a frame may be. -/
def KeepsLimit (h : Handler σ) : Prop := ∀ s o f, (h.frame s o f).outlet.limit = o.limit

theorem KeepsLimit.dispatch {h : Handler σ} (hk : h.KeepsLimit) (limit : Nat) (s : σ) (o : Outlet)
    (bs : Octets) : (Connection.dispatch h limit s o bs).reaction.outlet.limit = o.limit := by
  fun_induction Connection.dispatch h limit s o bs with
  | case1 | case2 => rfl
  | case3 s o bs f rest _ _ r => exact hk s o f
  | case4 s o bs f rest _ _ r _ more ih => exact ih.trans (hk s o f)

/-- A connection that serves feeds its handler with what it reads, and stops at a failure. -/
theorem readAll_eq_feed {h : Handler σ} (hk : h.KeepsLimit) (s : σ) {c : Connection}
    (hc : c.phase = .serving .idle) (reads : List Octets) :
    let d := feed h c.outlet.limit s c.outlet c.buffer reads
    let c' : Connection := { c with outlet := d.reaction.outlet, buffer := d.rest }
    readAll h s c reads =
      match d.reaction.fault with
      | none => ⟨d.reaction.state, c', d.reaction.notices⟩
      | some _ => ⟨d.reaction.state, c'.stop, d.reaction.notices ++ [.connectionFailed]⟩ := by
  induction reads generalizing s c with
  | nil => rfl
  | cons bytes reads ih =>
    obtain ⟨o, phase, buffer⟩ := c
    obtain rfl : phase = .serving .idle := hc
    have hlimit := hk.dispatch o.limit s o (buffer ++ bytes)
    cases hd : (dispatch h o.limit s o (buffer ++ bytes)).reaction.fault with
    | some e =>
      simp only [readAll, step, receive, feed_cons_of_fault hd, hd, readAll_stop, List.append_nil]
    | none =>
      simp only [readAll, step, receive, feed_cons_of_ok hd, hd]
      rw [ih _ rfl]
      simp only [hlimit]
      cases (feed h o.limit _ _ _ reads).reaction.fault <;> simp

/-! ### Reassembly -/

/-- What a handler makes of a stream that it is fed with in pieces. -/
structure Reassembles (h : Handler σ) (limit : Nat) (s : σ) (o : Outlet) (reads : List Octets)
    (fed : Dispatch (σ × List (Deed σ))) : Prop where
  /-- It is given the same frames in the same states as if all had arrived at once, and comes to the
  same state, the same outlet, the same reports and the same failure. -/
  reaction : fed.reaction = (dispatch h.logged limit (s, []) o reads.flatten).reaction
  /-- Without a failure the same is left. -/
  rest : fed.reaction.fault = none →
    fed.rest = (dispatch h.logged limit (s, []) o reads.flatten).rest
  /-- Of frames that were written one after another, and a part of one more, it is given just these
  frames in order, unless it rejects one, and the part is left. -/
  written : ∀ (fs : List Frame) (g : Frame) (part : Octets),
    (∀ f ∈ fs, f.encode limit = .ok f.write) → g.encode limit = .ok g.write →
    part <+: g.write → part ≠ g.write → reads.flatten = Frame.writeAll fs ++ part →
    fed.reaction = h.logged.hand (s, []) o fs ∧
      ((h.hand s o fs).fault = none → fed.reaction.fault = none ∧
        fed.reaction.state.2.map (·.frame) = fs ∧ fed.rest = part)
  /-- A header that announces more than the limit ends the stream behind the frames before it, and
  stays where it is. -/
  tooLarge : ∀ (fs : List Frame) (a b c d mark : UInt8) (more : Octets),
    (∀ f ∈ fs, f.encode limit = .ok f.write) →
    limit < Octets.ofBe [a, b, c, d] →
    reads.flatten = Frame.writeAll fs ++ a :: b :: c :: d :: mark :: more →
    (h.hand s o fs).fault = none →
    fed.reaction.fault = some (.frameTooLarge (Octets.ofBe [a, b, c, d]) limit) ∧
      fed.reaction.state.2.map (·.frame) = fs ∧
      ∃ later, fed.rest = a :: b :: c :: d :: mark :: later
  /-- Writing down what it is given makes no difference. -/
  unlogged : fed.unlogged = feed h limit s o [] reads
  /-- So it goes with the reads of a connection, which stops at the failure. -/
  connection : h.KeepsLimit → o.limit = limit →
    let c : Connection := ⟨fed.reaction.outlet, .serving .idle, fed.rest⟩
    readAll h s ⟨o, .serving .idle, []⟩ reads =
      match fed.reaction.fault with
      | none => ⟨fed.reaction.state.1, c, fed.reaction.notices⟩
      | some _ => ⟨fed.reaction.state.1, c.stop, fed.reaction.notices ++ [.connectionFailed]⟩

/-- Of a stream that begins with written frames, a handler that takes them all is given just these,
if what follows holds no further one. -/
theorem dispatch_written {h : Handler σ} {limit : Nat} {s : σ} {o : Outlet} {fs : List Frame}
    (hfs : ∀ f ∈ fs, f.Fits limit) (hok : (h.hand s o fs).fault = none) {more rest : Octets}
    {e : Option LinkError} (hmore : Frame.split limit more = ⟨[], rest, e⟩) :
    dispatch h.logged limit (s, []) o (Frame.writeAll fs ++ more) =
      ⟨⟨((h.hand s o fs).state, h.deeds s o fs), (h.hand s o fs).outlet, (h.hand s o fs).notices,
        e⟩, rest⟩ := by
  have hsplit := Frame.split_written hfs more
  rw [hmore, List.append_nil] at hsplit
  have hlogged := h.hand_logged s [] o fs
  rw [dispatch_of_hand_ok (by rw [hsplit, hlogged]; exact hok), hsplit, hlogged]
  rfl

/-- However a stream is cut, its frames are put together again. -/
theorem reassembles (h : Handler σ) (limit : Nat) (s : σ) (o : Outlet) (reads : List Octets) :
    Reassembles h limit s o reads (feed h.logged limit (s, []) o [] reads) := by
  have hempty : Frame.decode limit [] = .ok none := rfl
  obtain ⟨unread, hwhole, hunread⟩ := dispatch_flatten (h := h.logged) (s := (s, [])) (o := o)
    hempty reads
  rw [List.nil_append] at hwhole
  refine {
    reaction := by rw [hwhole]
    rest := fun hok => by rw [hwhole, hunread hok, List.append_nil]
    written := fun fs g part hfs hg hpart hne hreads => ?_
    tooLarge := fun fs a b c d mark more hfs hlimit hreads hok => ?_
    unlogged := unlogged_feed h limit s [] o [] reads
    connection := fun hk hlimit => ?_ }
  · have hpart := Frame.split_of_none (Frame.decode_of_prefix hg hpart hne)
    rw [hreads] at hwhole
    cases hok : (h.hand s o fs).fault with
    | none =>
      rw [dispatch_written hfs hok hpart] at hwhole
      obtain ⟨hreaction, hrest⟩ := Dispatch.mk.inj hwhole
      have hnone : (feed h.logged limit (s, []) o [] reads).reaction.fault = none := by
        rw [← hreaction]
      rw [hunread hnone, List.append_nil] at hrest
      rw [← hreaction, ← hrest, hand_logged, hok]
      exact ⟨rfl, fun _ => ⟨rfl, map_frame_deeds hok, rfl⟩⟩
    | some e =>
      have hsplit : (Frame.split limit (Frame.writeAll fs ++ part)).frames = fs := by
        rw [Frame.split_written hfs, hpart, List.append_nil]
      have hlogged : (h.logged.hand (s, []) o fs).fault = some e := by rw [hand_logged, hok]
      have hreaction := dispatch_of_hand_fault (hsplit.symm ▸ hlogged)
      rw [hwhole, hsplit] at hreaction
      exact ⟨hreaction, fun hnone => nomatch hnone⟩
  · have hmore := Frame.split_of_error (Frame.decode_of_tooLarge hlimit mark more)
    rw [hreads, dispatch_written hfs hok hmore] at hwhole
    obtain ⟨hreaction, hrest⟩ := Dispatch.mk.inj hwhole
    rw [← hreaction]
    refine ⟨rfl, map_frame_deeds hok, ?_⟩
    have hfault : (feed h.logged limit (s, []) o [] reads).reaction.fault =
        some (.frameTooLarge (Octets.ofBe [a, b, c, d]) limit) := by rw [← hreaction]
    -- no frame was rejected, so the failure came up when the header was complete
    rcases feed_fault_cases hfault with hd | ⟨deed, hmem, hd⟩
    · have hheader : [a, b, c, d, mark] <+: (feed h.logged limit (s, []) o [] reads).rest :=
        List.prefix_of_prefix_length_le ⟨more, hrest⟩ (List.prefix_append _ _)
          (Frame.length_of_decode_error hd)
      obtain ⟨later, hlater⟩ := hheader
      exact ⟨later, hlater.symm⟩
    · rw [← hreaction] at hmem
      have hnone := hand_fault_eq_some_iff.2 ⟨deed, hmem, hd⟩
      cases hok.symm.trans hnone
  · have hread := readAll_eq_feed hk s (c := ⟨o, .serving .idle, []⟩) rfl reads
    simp only [hlimit] at hread
    rw [hread, ← unlogged_feed h limit s [] o [] reads]
    rfl

end Handler

end ActorMesh
