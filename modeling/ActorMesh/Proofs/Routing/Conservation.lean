import ActorMesh.Router
import Mathlib.Data.List.Induction

/-!
# Nothing is lost in routing

A router hands on what it is given and nothing else. An envelope with several targets becomes one
for each of their members, every one of which is attempted; any other envelope is handed on once, as
it is or as an errand for a local proxy (`Router.conserves_of_reached`).

What is handed on is written down by a carrier that is wrapped around the real one, which may fail
as it likes (`Carrier.logged`). The wrapping changes nothing else (`Router.route_logged`).
-/

namespace ActorMesh

variable {σ α : Type}

/-! ### Writing down what is handed on -/

/-- A piece of an envelope that was handed on, and how that went. -/
abbrev Attempt (α : Type) := Emission α × Except ClusterError Unit

/-- A carrier that writes down what it is given and how that goes. -/
def Carrier.logged (c : Carrier σ α) : Carrier (σ × List (Attempt α)) α where
  deliver e s := (c.deliver e s.1, s.2 ++ [(.deliver e, .ok ())])
  remit member e s :=
    let (result, notices, s') := c.remit member e s.1
    (result, notices, (s', s.2 ++ [(.remit member e, result)]))

namespace Router

/-- What a router hands on for an envelope, in order. -/
def attempts (r : Router) (c : Carrier σ α) (s : σ) (e : Envelope α) : List (Attempt α) :=
  (r.route c.logged (s, []) e).state.2

/-- The attempts at the pieces of an envelope, one after another. -/
def attemptAll (c : Carrier σ α) : σ → List (Emission α) → List (Attempt α)
  | _, [] => []
  | s, e :: rest => (e, (perform c s e).1) :: attemptAll c (perform c s e).2.2 rest

/-- What several attempts come to: the last failure counts. -/
def outcome (result : Except ClusterError Unit) (as : List (Attempt α)) :
    Except ClusterError Unit :=
  as.foldl (fun result a => match a.2 with
    | .ok () => result
    | .error fault => .error fault) result

theorem perform_logged (c : Carrier σ α) (s : σ) (log : List (Attempt α)) (e : Emission α) :
    perform c.logged (s, log) e =
      ((perform c s e).1, (perform c s e).2.1,
        ((perform c s e).2.2, log ++ [(e, (perform c s e).1)])) := by
  cases e <;> rfl

/-- Writing down changes nothing of what several attempts do and come to. -/
theorem performAll_logged (c : Carrier σ α) (s : σ) (log : List (Attempt α))
    (result : Except ClusterError Unit) (es : List (Emission α)) :
    performAll c.logged (s, log) result es =
        ((performAll c s result es).1, (performAll c s result es).2.1,
          ((performAll c s result es).2.2, log ++ attemptAll c s es)) ∧
      (performAll c s result es).1 = outcome result (attemptAll c s es) := by
  induction es generalizing s log result with
  | nil => simp [performAll, attemptAll, outcome]
  | cons e rest ih =>
    -- the result goes on unchanged after a success and is replaced after a failure
    obtain ⟨x, notices, s', hperform⟩ : ∃ x notices s', perform c s e = (x, notices, s') :=
      ⟨_, _, _, rfl⟩
    have hlogged := perform_logged c s log e
    rw [hperform] at hlogged
    cases x with
    | ok =>
      obtain ⟨hlog, hresult⟩ := ih s' (log ++ [(e, .ok ())]) result
      simp only [performAll, attemptAll, hperform, hlogged, hlog, List.append_assoc]
      exact ⟨rfl, hresult⟩
    | error fault =>
      obtain ⟨hlog, hresult⟩ := ih s' (log ++ [(e, .error fault)]) (.error fault)
      simp only [performAll, attemptAll, hperform, hlogged, hlog, List.append_assoc]
      exact ⟨rfl, hresult⟩

/-- Writing down changes nothing of what routing does and comes to. -/
theorem route_logged (r : Router) (c : Carrier σ α) (s : σ) (e : Envelope α) :
    r.route c.logged (s, []) e =
      { result := (r.route c s e).result
        notices := (r.route c s e).notices
        router := (r.route c s e).router
        state := ((r.route c s e).state, r.attempts c s e) } := by
  unfold attempts route
  cases r.plan e with
  | error => rfl
  | ok planned =>
    obtain ⟨plan, proxies⟩ := planned
    cases plan with
    | one em => simp only [perform_logged, List.nil_append]
    | each es => simp only [(performAll_logged c s [] (.ok ()) es).1]

/-- What is handed on in one piece. -/
theorem attempts_one {r : Router} {e : Envelope α} {em : Emission α} {proxies : ProxyDirectory}
    (h : r.plan e = .ok (.one em, proxies)) (c : Carrier σ α) (s : σ) :
    r.attempts c s e = [(em, (perform c s em).1)] ∧
      (r.route c s e).result = (perform c s em).1 := by
  simp only [attempts, route, h, perform_logged, List.nil_append, and_self]

/-- What is handed on in several pieces. -/
theorem attempts_each {r : Router} {e : Envelope α} {es : List (Emission α)}
    {proxies : ProxyDirectory} (h : r.plan e = .ok (.each es, proxies)) (c : Carrier σ α) (s : σ) :
    r.attempts c s e = attemptAll c s es ∧
      (r.route c s e).result = outcome (.ok ()) (attemptAll c s es) := by
  obtain ⟨hlog, hresult⟩ := performAll_logged c s [] (.ok ()) es
  simp only [attempts, route, h, hlog, List.nil_append, hresult, and_self]

/-! ### What several attempts come to -/

theorem map_fst_attemptAll (c : Carrier σ α) (s : σ) (es : List (Emission α)) :
    (attemptAll c s es).map (·.1) = es := by
  induction es generalizing s with
  | nil => rfl
  | cons e rest ih => simp only [attemptAll, List.map_cons, ih]

/-- Nothing goes wrong with what stays on the member. -/
theorem attemptAll_deliver {c : Carrier σ α} {s : σ} {es : List (Emission α)} {e : Envelope α}
    {x : Except ClusterError Unit} (h : (.deliver e, x) ∈ attemptAll c s es) : x = .ok () := by
  induction es generalizing s with
  | nil => cases h
  | cons em rest ih =>
    rcases List.mem_cons.1 h with heq | h
    · cases em <;> cases heq
      rfl
    · exact ih h

theorem outcome_append (result : Except ClusterError Unit) (as bs : List (Attempt α)) :
    outcome result (as ++ bs) = outcome (outcome result as) bs :=
  List.foldl_append

theorem outcome_eq_self {result : Except ClusterError Unit} {as : List (Attempt α)}
    (h : ∀ a ∈ as, a.2 = .ok ()) : outcome result as = result := by
  induction as with
  | nil => rfl
  | cons a rest ih =>
    simp only [outcome, List.foldl_cons, h a (List.mem_cons_self ..)]
    exact ih fun b hb => h b (List.mem_cons_of_mem _ hb)

/-- A failure counts if nothing fails after it. -/
theorem outcome_eq_error {result : Except ClusterError Unit} {as bs : List (Attempt α)}
    {em : Emission α} {fault : ClusterError} (h : ∀ b ∈ bs, b.2 = .ok ()) :
    outcome result (as ++ (em, .error fault) :: bs) = .error fault := by
  rw [outcome_append]
  exact outcome_eq_self h

/-- Several attempts come to success exactly if none fails. -/
theorem outcome_eq_ok_iff {as : List (Attempt α)} :
    outcome (.ok ()) as = .ok () ↔ ∀ a ∈ as, a.2 = .ok () := by
  refine ⟨fun h => ?_, outcome_eq_self⟩
  induction as using List.reverseRecOn with
  | nil => exact fun a ha => nomatch ha
  | append_singleton earlier a ih =>
    obtain ⟨em, x⟩ := a
    rw [outcome_append] at h
    cases x with
    | error => cases h
    | ok =>
      intro b hb
      rcases List.mem_append.1 hb with hb | hb
      · exact ih h b hb
      · rw [List.mem_singleton.1 hb]

/-! ### What is expected -/

/-- The targets of an envelope that may have several, and the same envelope for other targets. -/
def pieces? : Envelope α → Option (List ActorRef × (List ActorRef → Envelope α))
  | .parcel (.batchSend sender targets ms) =>
    some (targets, fun group => .parcel (.batchSend sender group ms))
  | .parcel (.notify sender targets about subject w m) =>
    some (targets, fun group => .parcel (.notify sender group about subject w m))
  | _ => none

/-- What a local proxy is told, and by whom, about an envelope for another member that does not
cross by itself. -/
def errand? : Envelope α → Option (ActorType × Option ActorRef × Message α)
  | .parcel (.watch sender _ w on) =>
    if sender.any (·.actorType = .watchProxy) then none
    else some (.watchProxy, sender, .watchInstruction w on)
  | .outerWatch _ w on queue => some (.watchProxy, none, .subscription w on queue)
  | .outerRequest target m reply timeout =>
    some (.requestProxy, none, .externalRequest target m reply timeout)
  | _ => none

/-- Every member of the targets is given the envelope for its own targets, in ascending order of
the members, and of those that fail the greatest one counts. -/
structure IsSplit (localId : SystemId) (targets : List ActorRef)
    (build : List ActorRef → Envelope α) (members : List SystemId) (as : List (Attempt α))
    (result : Except ClusterError Unit) : Prop where
  ascending : members.Pairwise (·.value < ·.value)
  mem_iff : ∀ s, s ∈ members ↔ ∃ t ∈ targets, t.system = s
  emissions : as.map (·.1) = members.map fun s =>
    if s = localId then .deliver (build (targets.filter (·.system = s)))
    else .remit s (build (targets.filter (·.system = s)))
  ok_iff : result = .ok () ↔ ∀ member e fault, (.remit member e, .error fault) ∉ as
  greatest : ∀ member e fault, (.remit member e, .error fault) ∈ as →
    (∀ member' e' fault', (.remit member' e', .error fault') ∈ as →
      member'.value ≤ member.value) → result = .error fault

/-- Where an envelope with one target goes: to the target if that lives here; otherwise a local
proxy is told of it, or it crosses to the member of its target. -/
def GoesTo (localId : SystemId) (placement : Placement) (e : Envelope α) (target : ActorRef)
    (em : Emission α) : Prop :=
  if target.system = localId then em = .deliver e
  else
    match errand? e with
    | some (kind, sender, m) =>
      let id := (ProxyKey.ofTarget target).text
      ∃ slot, placement.place localId kind id = .ok ⟨localId, kind, id, slot⟩ ∧
        em = .deliver (.parcel (.send sender ⟨localId, kind, id, slot⟩ m))
    | none => em = .remit target.system e

/-- What is handed on for an envelope, and what comes of it, is what is expected: all its pieces, or
itself once, and what stays on the member never fails. -/
def Conserves (localId : SystemId) (placement : Placement) (e : Envelope α)
    (as : List (Attempt α)) (result : Except ClusterError Unit) : Prop :=
  match pieces? e with
  | some (targets, build) => ∃ members, IsSplit localId targets build members as result
  | none => ∃ target em, e.target? = some target ∧ GoesTo localId placement e target em ∧
      as = [(em, result)] ∧ ∀ e', em = .deliver e' → result = .ok ()

/-- A router of a member, after any traffic over any carriers. -/
inductive Reached (localId : SystemId) (placement : Placement) : Router → Prop
  | new : Reached localId placement (new localId placement)
  | route {σ α : Type} {r : Router} (c : Carrier σ α) (s : σ) (e : Envelope α)
    (h : Reached localId placement r) : Reached localId placement (r.route c s e).router

/-! ### What a router knows -/

/-- The proxies that a router knows are those of its member. -/
structure Sound (localId : SystemId) (placement : Placement) (r : Router) : Prop where
  localId_eq : r.localId = localId
  proxies_localId : r.proxies.localId = localId
  proxies_placement : r.proxies.placement = placement
  faithful : r.proxies.Faithful

section

variable {localId : SystemId} {placement : Placement} {r : Router}

theorem sound_new (localId : SystemId) (placement : Placement) :
    (new localId placement).Sound localId placement :=
  ⟨rfl, rfl, rfl, ProxyDirectory.faithful_new localId placement⟩

/-- An errand goes to the proxy that the placement gives for its target. -/
theorem Sound.divert (h : r.Sound localId placement) (hid : localId.isNone = false)
    (kind : ActorType) (target : ActorRef) (sender : Option ActorRef) (m : Message α) :
    let id := (ProxyKey.ofTarget target).text
    ∃ slot proxies, placement.place localId kind id = .ok ⟨localId, kind, id, slot⟩ ∧
      r.divert kind target sender m =
        .ok (.one (.deliver (.parcel (.send sender ⟨localId, kind, id, slot⟩ m))), proxies) ∧
      Sound localId placement { r with proxies := proxies } := by
  intro id
  obtain ⟨proxy, proxies, hresolve, hproxy, hlocal, hplacement, hfaithful⟩ :=
    h.faithful.exists_resolve_eq_ok (h.proxies_localId ▸ hid) kind target
  rw [h.proxies_localId, h.proxies_placement] at hproxy
  obtain ⟨slot, hslot⟩ := placement.exists_place_eq_ok hid kind id
  have heq : proxy = ⟨localId, kind, id, slot⟩ := Except.ok.inj (hproxy.symm.trans hslot)
  subst heq
  refine ⟨slot, proxies, hslot, by simp only [Router.divert, hresolve], h.localId_eq,
    hlocal.trans h.proxies_localId, hplacement.trans h.proxies_placement, hfaithful⟩

/-- What becomes of an envelope before anything is handed on. -/
def IsPlanned (localId : SystemId) (placement : Placement) (r : Router) (e : Envelope α)
    (plan : Plan α) : Prop :=
  match pieces? e with
  | some (targets, build) => plan = .each (r.split targets build)
  | none => ∃ target em, e.target? = some target ∧ GoesTo localId placement e target em ∧
      plan = .one em

/-- Where no proxy comes in, an envelope with one target goes to the member of that. -/
theorem Sound.isPlanned_emit (h : r.Sound localId placement) {e : Envelope α} {target : ActorRef}
    (htarget : e.target? = some target) (hpieces : pieces? e = none)
    (hdirect : target.system = localId ∨ errand? e = none) :
    IsPlanned localId placement r e (.one (r.emit target.system e)) := by
  rw [IsPlanned, hpieces]
  refine ⟨target, _, htarget, ?_, rfl⟩
  unfold GoesTo emit
  rw [h.localId_eq]
  by_cases hlocal : target.system = localId
  · rw [if_pos hlocal, if_pos hlocal]
  · rw [if_neg hlocal, if_neg hlocal, hdirect.resolve_left hlocal]

/-- Where a proxy comes in, it is told of an envelope for another member. -/
theorem Sound.isPlanned_divert (h : r.Sound localId placement) (hid : localId.isNone = false)
    {e : Envelope α} {kind : ActorType} {target : ActorRef} {sender : Option ActorRef}
    {m : Message α} (htarget : e.target? = some target) (hpieces : pieces? e = none)
    (herrand : errand? e = some (kind, sender, m)) (hremote : target.system ≠ localId)
    (hplan : r.plan e = r.divert kind target sender m) :
    ∃ plan proxies, r.plan e = .ok (plan, proxies) ∧
      Sound localId placement { r with proxies := proxies } ∧
      IsPlanned localId placement r e plan := by
  obtain ⟨slot, proxies, hplace, hdivert, hsound⟩ := h.divert hid kind target sender m
  refine ⟨_, proxies, hplan.trans hdivert, hsound, ?_⟩
  rw [IsPlanned, hpieces]
  refine ⟨target, _, htarget, ?_, rfl⟩
  rw [GoesTo, if_neg hremote, herrand]
  exact ⟨slot, hplace, rfl⟩

/-- Traffic from outside the actor system is delivered here, or a proxy is told of it. -/
theorem Sound.isPlanned_outer (h : r.Sound localId placement) (hid : localId.isNone = false)
    {e : Envelope α} {kind : ActorType} {target : ActorRef} {sender : Option ActorRef}
    {m : Message α} (htarget : e.target? = some target) (hpieces : pieces? e = none)
    (herrand : errand? e = some (kind, sender, m))
    (hplan : r.plan e = if target.system = r.localId then .ok (.one (.deliver e), r.proxies)
      else r.divert kind target sender m) :
    ∃ plan proxies, r.plan e = .ok (plan, proxies) ∧
      Sound localId placement { r with proxies := proxies } ∧
      IsPlanned localId placement r e plan := by
  rw [h.localId_eq] at hplan
  by_cases hlocal : target.system = localId
  · refine ⟨.one (r.emit target.system e), r.proxies, ?_, h,
      h.isPlanned_emit htarget hpieces (.inl hlocal)⟩
    rw [hplan, if_pos hlocal, emit, h.localId_eq, if_pos hlocal]
  · rw [if_neg hlocal] at hplan
    exact h.isPlanned_divert hid htarget hpieces herrand hlocal hplan

/-- Something becomes of every envelope, for a member that is one in particular. -/
theorem Sound.exists_isPlanned (h : r.Sound localId placement) (hid : localId.isNone = false)
    (e : Envelope α) :
    ∃ plan proxies, r.plan e = .ok (plan, proxies) ∧
      Sound localId placement { r with proxies := proxies } ∧
      IsPlanned localId placement r e plan := by
  cases e with
  | outerWatch | outerRequest => exact h.isPlanned_outer hid rfl rfl rfl rfl
  | parcel p =>
    cases p with
    | batchSend | «notify» => exact ⟨_, _, rfl, h, rfl⟩
    | watch sender target w on =>
      by_cases hdirect : target.system = localId ∨ isWatchProxy sender
      · refine ⟨.one (r.emit target.system _), r.proxies, ?_, h,
          h.isPlanned_emit rfl rfl (hdirect.imp_right fun hproxy => if_pos hproxy)⟩
        simp only [plan, h.localId_eq, if_pos hdirect]
      · obtain ⟨hremote, hproxy⟩ := not_or.1 hdirect
        refine h.isPlanned_divert hid rfl rfl (if_neg hproxy) hremote ?_
        simp only [plan, h.localId_eq, if_neg hdirect]
    | _ => exact ⟨_, _, rfl, h, h.isPlanned_emit rfl rfl (.inr rfl)⟩

/-- What a router knows stays right, whatever it routes. -/
theorem Sound.route (h : r.Sound localId placement) (hid : localId.isNone = false)
    (c : Carrier σ α) (s : σ) (e : Envelope α) :
    (r.route c s e).router.Sound localId placement := by
  obtain ⟨plan, proxies, hplan, hsound, -⟩ := h.exists_isPlanned hid e
  simp only [Router.route, hplan]
  exact hsound

theorem Reached.sound (h : Reached localId placement r) (hid : localId.isNone = false) :
    r.Sound localId placement := by
  induction h with
  | new => exact sound_new localId placement
  | route c s e _ ih => exact ih.route hid c s e

/-! ### Pieces -/

/-- The member that a piece is for. -/
def memberOf (localId : SystemId) : Emission α → SystemId
  | .deliver _ => localId
  | .remit member _ => member

/-- The pieces of an envelope are for the members of its targets. -/
theorem map_memberOf_split (r : Router) (targets : List ActorRef)
    (build : List ActorRef → Envelope α) :
    (r.split targets build).map (memberOf r.localId) = memberGroups targets := by
  rw [split, List.map_map]
  refine (List.map_congr_left fun s _ => ?_).trans (List.map_id _)
  simp only [Function.comp_apply, emit]
  split
  · rename_i heq
    exact heq.symm
  · rfl

/-- The attempts at the pieces of an envelope are for members in ascending order. -/
theorem pairwise_attemptAll_split (r : Router) (c : Carrier σ α) (s : σ)
    (targets : List ActorRef) (build : List ActorRef → Envelope α) :
    (attemptAll c s (r.split targets build)).Pairwise fun a b =>
      (memberOf r.localId a.1).value < (memberOf r.localId b.1).value := by
  have hmembers := congrArg (List.map (memberOf r.localId))
    (map_fst_attemptAll c s (r.split targets build))
  rw [List.map_map, map_memberOf_split] at hmembers
  have hpairwise := pairwise_memberGroups targets
  rw [← hmembers, List.pairwise_map] at hpairwise
  exact hpairwise

/-- The attempts at the pieces of an envelope are as expected. -/
theorem isSplit_attemptAll (r : Router) (c : Carrier σ α) (s : σ) (targets : List ActorRef)
    (build : List ActorRef → Envelope α) :
    IsSplit r.localId targets build (memberGroups targets)
      (attemptAll c s (r.split targets build))
      (outcome (.ok ()) (attemptAll c s (r.split targets build))) where
  ascending := pairwise_memberGroups targets
  mem_iff _ := mem_memberGroups
  emissions := map_fst_attemptAll c s _
  ok_iff := by
    refine outcome_eq_ok_iff.trans ⟨fun h member e fault hmem => ?_, fun h => ?_⟩
    · cases h _ hmem
    · rintro ⟨em, _ | _⟩ hmem
      · cases em with
        | deliver => exact attemptAll_deliver hmem
        | remit member e => exact absurd hmem (h member e _)
      · rfl
  greatest := by
    intro member e fault hmem hgreatest
    have hpairwise := pairwise_attemptAll_split r c s targets build
    obtain ⟨earlier, later, heq⟩ := List.append_of_mem hmem
    rw [heq] at hpairwise ⊢
    refine outcome_eq_error fun b hb => ?_
    obtain ⟨em, _ | _⟩ := b
    · -- a failure further on would be one of a greater member
      have hb' : (em, .error _) ∈ attemptAll c s (r.split targets build) :=
        heq ▸ List.mem_append_right _ (List.mem_cons_of_mem _ hb)
      cases em with
      | deliver => exact attemptAll_deliver hb'
      | remit member' e' =>
        have hle := hgreatest member' e' _ hb'
        have hlt := (List.pairwise_cons.1 (List.pairwise_append.1 hpairwise).2.1).1 _ hb
        exact absurd hlt (UInt32.not_lt.2 hle)
    · rfl

/-- A router of a member in particular hands on exactly what it is given: whatever was routed
before, and whatever fails now. -/
theorem conserves_of_reached (h : Reached localId placement r) (hid : localId.isNone = false)
    (c : Carrier σ α) (s : σ) (e : Envelope α) :
    Conserves localId placement e (r.attempts c s e) (r.route c s e).result := by
  have hsound := h.sound hid
  obtain ⟨plan, proxies, hplan, -, hplanned⟩ := hsound.exists_isPlanned hid e
  unfold IsPlanned at hplanned
  unfold Conserves
  split at hplanned
  · rename_i targets build _
    subst hplanned
    obtain ⟨hattempts, hresult⟩ := attempts_each hplan c s
    rw [hattempts, hresult]
    exact ⟨_, hsound.localId_eq ▸ isSplit_attemptAll r c s targets build⟩
  · obtain ⟨target, em, htarget, hgoes, rfl⟩ := hplanned
    obtain ⟨hattempts, hresult⟩ := attempts_one hplan c s
    refine ⟨target, em, htarget, hgoes, by rw [hattempts, hresult], ?_⟩
    rintro e' rfl
    exact hresult

end

/-- A batch for three members, of which the two remote ones fail, after an errand for a proxy: all
are attempted, and the greater member counts. -/
theorem conserves_failingBatch :
    let placement : Placement := ⟨[(⟨120⟩, ⟨1⟩), (⟨120⟩, ⟨2⟩)]⟩
    let c : Carrier Unit Nat :=
      ⟨fun _ s => s, fun member _ s => (.error (.peerDisconnected member), [], s)⟩
    let errand : Envelope Nat := .outerWatch ⟨⟨2⟩, ⟨120⟩, "a", ⟨1⟩⟩ ⟨7⟩ true ⟨0⟩
    let r := ((new ⟨1⟩ placement).route c () errand).router
    let targets : List ActorRef :=
      [⟨⟨3⟩, ⟨120⟩, "a", ⟨1⟩⟩, ⟨⟨1⟩, ⟨120⟩, "b", ⟨1⟩⟩, ⟨⟨2⟩, ⟨120⟩, "c", ⟨1⟩⟩,
        ⟨⟨3⟩, ⟨120⟩, "a", ⟨1⟩⟩]
    let batch : Envelope Nat := .parcel (.batchSend none targets [.app 5])
    Reached ⟨1⟩ placement r ∧ (⟨1⟩ : SystemId).isNone = false ∧
      Conserves ⟨1⟩ placement batch (r.attempts c () batch) (r.route c () batch).result ∧
      (r.attempts c () batch).length = 3 ∧
      (r.route c () batch).result = .error (.peerDisconnected ⟨3⟩) := by
  intro placement c errand r targets batch
  have hreached : Reached ⟨1⟩ placement r := .route c () errand .new
  exact ⟨hreached, rfl, conserves_of_reached hreached rfl c () batch, by decide +kernel,
    by decide +kernel⟩

end Router

end ActorMesh
