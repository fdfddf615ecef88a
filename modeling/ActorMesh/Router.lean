import ActorMesh.Envelope
import ActorMesh.Notice
import ActorMesh.Proxy.Directory

/-!
# Routing

Every envelope that leaves an actor goes through the router of its member. It goes to the local
runtime if its target lives here and to the member of its target otherwise, with two exceptions.

* An envelope with several targets is split into one for each member, in ascending order; each is
  attempted whatever happens to the others.
* A watch that crosses members, and traffic from outside the actor system for another member, go to
  a local proxy, which speaks for the sender. The watch of a proxy itself crosses.

What becomes of an envelope (`Router.plan`) is decided before anything is delivered or sent
(`Router.route`).
-/

namespace ActorMesh

/-- Where a piece of an envelope goes. -/
inductive Emission (α : Type) where
  /-- To the local runtime. -/
  | deliver (e : Envelope α)
  /-- To another member. -/
  | remit (member : SystemId) (e : Envelope α)
  deriving DecidableEq, Repr

/-- What becomes of an envelope. -/
inductive Plan (α : Type) where
  /-- It goes to one place. -/
  | one (e : Emission α)
  /-- It is split. -/
  | each (es : List (Emission α))
  deriving DecidableEq, Repr

/-- The router of a member. -/
structure Router where
  localId : SystemId
  placement : Placement
  proxies : ProxyDirectory
  deriving DecidableEq

/-- How a router hands envelopes on, on a state `σ`. -/
structure Carrier (σ α : Type) where
  /-- Delivers to the local runtime. -/
  deliver : Envelope α → σ → σ
  /-- Sends to another member. -/
  remit : SystemId → Envelope α → σ → Except ClusterError Unit × List Notice × σ

/-- What routing came to. -/
structure Routed (σ : Type) where
  result : Except ClusterError Unit
  notices : List Notice
  router : Router
  state : σ

namespace Router

variable {σ α : Type}

/-- The router of a member before any traffic. -/
def new (localId : SystemId) (placement : Placement) : Router :=
  ⟨localId, placement, .new localId placement⟩

instance : Inhabited Router := ⟨new default default⟩

/-- An envelope for one member. -/
def emit (r : Router) (member : SystemId) (e : Envelope α) : Emission α :=
  if member = r.localId then .deliver e else .remit member e

/-- Inserts a member into a strictly ascending list of members. -/
def insertMember (s : SystemId) : List SystemId → List SystemId
  | [] => [s]
  | s' :: rest =>
    if s.value < s'.value then s :: s' :: rest
    else if s = s' then s' :: rest
    else s' :: insertMember s rest

/-- The members that targets live on, in ascending order, each once. -/
def memberGroups (refs : List ActorRef) : List SystemId :=
  refs.foldr (fun r acc => insertMember r.system acc) []

/-- One envelope for each member that targets live on, with its targets in the given order. -/
def split (r : Router) (targets : List ActorRef) (build : List ActorRef → Envelope α) :
    List (Emission α) :=
  (memberGroups targets).map fun s => r.emit s (build (targets.filter fun t => t.system = s))

/-- Hands a message to the local proxy of a kind for a target. -/
def divert (r : Router) (kind : ActorType) (target : ActorRef) (sender : Option ActorRef)
    (m : Message α) : Except ClusterError (Plan α × ProxyDirectory) :=
  match r.proxies.resolve kind target with
  | .ok (proxy, proxies) => .ok (.one (.deliver (.parcel (.send sender proxy m))), proxies)
  | .error e => .error e

/-- Whether a sender is a watch proxy. -/
def isWatchProxy (sender : Option ActorRef) : Bool := sender.any (·.actorType = .watchProxy)

/-- What becomes of an envelope, and the proxies known afterwards. -/
def plan (r : Router) (e : Envelope α) : Except ClusterError (Plan α × ProxyDirectory) :=
  match e with
  | .parcel (.batchSend sender targets ms) =>
    .ok (.each (r.split targets fun group => .parcel (.batchSend sender group ms)), r.proxies)
  | .parcel (.notify sender targets about subject w m) =>
    .ok (.each (r.split targets fun group => .parcel (.notify sender group about subject w m)),
      r.proxies)
  | .parcel (.watch sender target w on) =>
    -- the watch of a proxy has to cross, or it would come back to that proxy
    if target.system = r.localId ∨ isWatchProxy sender then
      .ok (.one (r.emit target.system e), r.proxies)
    else r.divert .watchProxy target sender (.watchInstruction w on)
  | .outerWatch target w on queue =>
    if target.system = r.localId then .ok (.one (.deliver e), r.proxies)
    else r.divert .watchProxy target none (.subscription w on queue)
  | .outerRequest target m reply timeout =>
    if target.system = r.localId then .ok (.one (.deliver e), r.proxies)
    else r.divert .requestProxy target none (.externalRequest target m reply timeout)
  | .parcel p =>
    match p.target? with
    | some target => .ok (.one (r.emit target.system e), r.proxies)
    | none => .ok (.each [], r.proxies)

/-- Hands on one piece. -/
def perform (c : Carrier σ α) (s : σ) : Emission α → Except ClusterError Unit × List Notice × σ
  | .deliver e => (.ok (), [], c.deliver e s)
  | .remit member e => c.remit member e s

/-- Hands on all pieces; of several failures the last one counts. -/
def performAll (c : Carrier σ α) (s : σ) (result : Except ClusterError Unit) :
    List (Emission α) → Except ClusterError Unit × List Notice × σ
  | [] => (result, [], s)
  | e :: rest =>
    match perform c s e with
    | (.ok (), notices, s') =>
      let (result', more, s'') := performAll c s' result rest
      (result', notices ++ more, s'')
    | (.error fault, notices, s') =>
      let (result', more, s'') := performAll c s' (.error fault) rest
      (result', notices ++ .groupUndelivered :: more, s'')

/-- What a failure of routing reports. -/
def resultNotices : Except ClusterError Unit → List Notice
  | .ok () => []
  | .error _ => [.routingFailed]

/-- Routes an envelope. -/
def route (r : Router) (c : Carrier σ α) (s : σ) (e : Envelope α) : Routed σ :=
  match r.plan e with
  | .error fault => ⟨.error fault, [.routingFailed], r, s⟩
  | .ok (plan, proxies) =>
    let (result, notices, s') := match plan with
      | .one e => perform c s e
      | .each es => performAll c s (.ok ()) es
    ⟨result, notices ++ resultNotices result, { r with proxies := proxies }, s'⟩

/-! ### The members of targets -/

theorem mem_insertMember {s s' : SystemId} {members : List SystemId} :
    s' ∈ insertMember s members ↔ s' = s ∨ s' ∈ members := by
  induction members with
  | nil => simp [insertMember]
  | cons m rest ih =>
    unfold insertMember
    split
    · exact List.mem_cons
    · split
      · rename_i heq
        simp [heq]
      · rw [List.mem_cons, ih, List.mem_cons]
        exact or_left_comm

/-- Members stay in strictly ascending order. -/
theorem pairwise_insertMember (s : SystemId) {members : List SystemId}
    (h : members.Pairwise (·.value < ·.value)) :
    (insertMember s members).Pairwise (·.value < ·.value) := by
  induction members with
  | nil => exact List.pairwise_singleton ..
  | cons m rest ih =>
    obtain ⟨hm, hrest⟩ := List.pairwise_cons.1 h
    unfold insertMember
    split
    · rename_i hlt
      refine List.pairwise_cons.2 ⟨fun m' hm' => ?_, h⟩
      rcases List.mem_cons.1 hm' with rfl | hm'
      · exact hlt
      · exact UInt32.lt_trans hlt (hm m' hm')
    · split
      · exact h
      · rename_i hnlt hne
        refine List.pairwise_cons.2 ⟨fun m' hm' => ?_, ih hrest⟩
        rcases mem_insertMember.1 hm' with rfl | hm'
        · -- neither smaller nor equal, so the member that comes in is greater
          have hvalue : m'.value ≠ m.value := fun heq => hne (congrArg SystemId.mk heq)
          exact UInt32.lt_of_le_of_ne (UInt32.not_lt.1 hnlt) hvalue.symm
        · exact hm m' hm'

theorem mem_memberGroups {s : SystemId} {refs : List ActorRef} :
    s ∈ memberGroups refs ↔ ∃ r ∈ refs, r.system = s := by
  induction refs with
  | nil => simp [memberGroups]
  | cons r rest ih =>
    rw [show memberGroups (r :: rest) = insertMember r.system (memberGroups rest) from rfl,
      mem_insertMember, ih]
    simp [eq_comm]

theorem pairwise_memberGroups (refs : List ActorRef) :
    (memberGroups refs).Pairwise (·.value < ·.value) := by
  induction refs with
  | nil => exact List.Pairwise.nil
  | cons r rest ih => exact pairwise_insertMember r.system ih

/-- The text for diagnostics. -/
def inspect (r : Router) : String :=
  Text.record "Router" [("local", r.localId.inspect), ("proxies", toString r.proxies.size)]

end Router

end ActorMesh
