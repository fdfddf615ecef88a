import ActorMesh.Config
import ActorMesh.Notice
import ActorMesh.Session

/-!
# The link table

A member keeps one **link** for each of its peers. It dials the peers before it in the order of the
configuration (`passive` peers) and is dialed by those after it, so exactly one of two members
dials. A link is the connection of a dialed peer once that has accepted the registration, or the
session that registered as the peer.

`connected` counts the links that are up, and the member itself once its links have been started.
-/

namespace ActorMesh

/-- The link to a peer. -/
inductive PeerLink
  | disconnected
  /-- A connection that this member dialed. -/
  | client (c : ConnectionId)
  /-- A session of the peer. -/
  | session (t : Ticket)
  deriving DecidableEq, Repr

/-- Whether a link is up. -/
def PeerLink.isConnected (l : PeerLink) : Bool := l ≠ .disconnected

/-- A peer and the link to it. -/
structure Peer where
  config : MemberConfig
  /-- Whether this member dials the peer. -/
  passive : Bool
  link : PeerLink
  deriving DecidableEq, Repr

/-- The links of a member. -/
structure LinkTable where
  localId : SystemId
  localIndex : Nat
  members : List MemberConfig
  peers : Table SystemId Peer
  connected : Nat
  /-- Whether the links were asked to start. -/
  started : Bool
  sessions : Sessions SystemId
  deriving DecidableEq

namespace LinkTable

/-- The peers of the member at a place, with no links. -/
def initialPeers (localIndex : Nat) (members : List MemberConfig) : Table SystemId Peer :=
  .ofList <| (members.zipIdx.filter fun m => m.2 ≠ localIndex).map fun m =>
    (m.1.id, ⟨m.1, decide (m.2 < localIndex), .disconnected⟩)

/-- The table of the local member of a configuration. -/
def ofConfig (c : Config) : Except ClusterError LinkTable :=
  match c.localIndex? with
  | none => .error (.configuration (.localMissing c.localId))
  | some i => .ok ⟨c.localId, i, c.members, initialPeers i c.members, 0, false, .empty⟩

/-- Where no number comes twice among the members, none does among the peers. -/
theorem nodup_initialPeers {ms : List MemberConfig} (hnd : (ms.map (·.id)).Nodup) (i : Nat) :
    (((ms.zipIdx.filter fun m => m.2 ≠ i).map fun m =>
      (m.1.id, (⟨m.1, decide (m.2 < i), .disconnected⟩ : Peer))).map (·.1)).Nodup := by
  have hsub := (List.filter_sublist (p := fun m => decide (m.2 ≠ i)) (l := ms.zipIdx)).map
    fun m => m.1.id
  have hids : (ms.zipIdx.map fun m => m.1.id) = ms.map (·.id) := by
    rw [show (fun m : MemberConfig × Nat => m.1.id) = MemberConfig.id ∘ Prod.fst from rfl,
      ← List.map_map, List.zipIdx_map_fst]
  rw [hids] at hsub
  rw [List.map_map]
  exact hsub.nodup hnd

/-- Every member but the local one is a peer, dialed if it comes before that. -/
theorem get?_initialPeers {i j : Nat} {ms : List MemberConfig} {m : MemberConfig}
    (hnd : (ms.map (·.id)).Nodup) (hm : ms[j]? = some m) (hj : j ≠ i) :
    (initialPeers i ms).get? m.id = some ⟨m, decide (j < i), .disconnected⟩ := by
  refine Table.get?_ofList_of_mem (nodup_initialPeers hnd i) ?_
  refine List.mem_map.2 ⟨(m, j), List.mem_filter.2 ⟨?_, by simpa using hj⟩, rfl⟩
  exact List.mk_mem_zipIdx_iff_getElem?.2 hm

theorem of_get?_initialPeers {i : Nat} {ms : List MemberConfig} {s : SystemId} {p : Peer}
    (h : (initialPeers i ms).get? s = some p) :
    ∃ (j : Nat) (m : MemberConfig), ms[j]? = some m ∧ j ≠ i ∧ m.id = s ∧
      p = ⟨m, decide (j < i), .disconnected⟩ := by
  obtain ⟨⟨m, j⟩, hm, heq⟩ := List.mem_map.1 (Table.mem_of_get?_ofList h)
  obtain ⟨hmem, hj⟩ := List.mem_filter.1 hm
  cases heq
  exact ⟨j, m, List.mk_mem_zipIdx_iff_getElem?.1 hmem, by simpa using hj, rfl, rfl⟩

/-- Whether any member dials this one. -/
def acceptsInbound (t : LinkTable) : Bool := decide (t.localIndex + 1 < t.members.length)

/-- Where this member listens, if it is dialed. -/
def listenAddress (t : LinkTable) : Option (String × UInt16) :=
  if t.acceptsInbound then (t.members[t.localIndex]?).map fun m => (m.host, m.port) else none

/-- The peers that this member dials, in order. -/
def passivePeers (t : LinkTable) : List Peer :=
  (t.members.take t.localIndex).filterMap fun m => t.peers.get? m.id

/-- Whether a member is linked; a member always is to itself. -/
def isConnected (t : LinkTable) (s : SystemId) : Bool :=
  s = t.localId || (t.peers.get? s).any (·.link.isConnected)

/-- The link to a peer. -/
def link? (t : LinkTable) (s : SystemId) : Option PeerLink := (t.peers.get? s).map (·.link)

/-- Whether this member dials a peer. -/
def dials? (t : LinkTable) (s : SystemId) : Option Bool := (t.peers.get? s).map (·.passive)

/-- Sets the link to a peer. -/
def setLink (t : LinkTable) (s : SystemId) (l : PeerLink) : LinkTable :=
  { t with peers := t.peers.modify s fun p => { p with link := l } }

theorem link?_setLink (t : LinkTable) (s s' : SystemId) (l : PeerLink) :
    (t.setLink s l).link? s' = if s' = s then (t.link? s).map fun _ => l else t.link? s' := by
  simp only [link?, setLink, Table.get?_modify]
  split
  · cases t.peers.get? s <;> rfl
  · rfl

@[simp] theorem dials?_setLink (t : LinkTable) (s s' : SystemId) (l : PeerLink) :
    (t.setLink s l).dials? s' = t.dials? s' := by
  simp only [dials?, setLink, Table.get?_modify]
  split
  · rename_i h
    subst h
    cases t.peers.get? s' <;> rfl
  · rfl

/-- A peer has a link, up or down, exactly if it is known whether it is dialed. -/
theorem isSome_link? (t : LinkTable) (s : SystemId) :
    (t.link? s).isSome = (t.dials? s).isSome := by
  simp [link?, dials?]

/-! ### Sessions -/

/-- Links a session to the peer that it registers as. -/
def bindSession (t : LinkTable) (s : SystemId) (k : Ticket) : Except ErrorCode LinkTable :=
  match t.peers.get? s with
  | none => .error .unknownSystem
  | some p =>
    if p.passive then .error .passiveSystem
    else if p.link.isConnected then .error .duplicateRegistration
    else
      match t.sessions.bind k s with
      | none => .error .duplicateRegistration
      | some sessions =>
        .ok { (t.setLink s (.session k)) with sessions := sessions, connected := t.connected + 1 }

/-- A session is linked to a peer that dials this member, if neither of them is linked. -/
theorem bindSession_eq_ok_iff {t t' : LinkTable} {s : SystemId} {k : Ticket} :
    t.bindSession s k = .ok t' ↔
      t.dials? s = some false ∧ t.link? s = some .disconnected ∧ t.sessions.binding? k = none ∧
        t' = { (t.setLink s (.session k)) with
          sessions := t.sessions.modify k fun x => { x with binding := some s }
          connected := t.connected + 1 } := by
  unfold bindSession dials? link?
  cases hp : t.peers.get? s with
  | none => simp
  | some p =>
    obtain ⟨config, passive, link⟩ := p
    cases passive with
    | true => simp
    | false =>
      by_cases hl : link = .disconnected
      · subst hl
        cases hb : t.sessions.bind k s with
        | none =>
          have hbound : t.sessions.binding? k ≠ none := fun h => by
            simp [Sessions.bind, h] at hb
          simp [PeerLink.isConnected, hbound]
        | some sessions =>
          obtain ⟨hfree, rfl⟩ := Sessions.bind_eq_some_iff.1 hb
          simp [PeerLink.isConnected, hfree, eq_comm]
      · simp [PeerLink.isConnected, hl]

theorem link?_bindSession {t t' : LinkTable} {s : SystemId} {k : Ticket}
    (h : t.bindSession s k = .ok t') (s' : SystemId) :
    t'.link? s' = if s' = s then some (.session k) else t.link? s' := by
  obtain ⟨-, hdown, -, rfl⟩ := bindSession_eq_ok_iff.1 h
  show (t.setLink s (.session k)).link? s' = _
  rw [link?_setLink, hdown]
  rfl

/-- Takes the link of a peer down, if it is this session. -/
def releaseSession (t : LinkTable) (s : SystemId) (k : Ticket) : LinkTable :=
  if t.link? s = some (.session k) then
    { (t.setLink s .disconnected) with connected := t.connected - 1 }
  else t

/-- A session ends. -/
def endSession (t : LinkTable) (k : Ticket) : LinkTable :=
  match t.sessions.get? k with
  | none => t
  | some session =>
    let freed := { t with sessions := t.sessions.unbind k }
    let released := match session.binding with
      | some s => freed.releaseSession s k
      | none => freed
    { released with sessions := released.sessions.remove session.id }

/-! What the end of a session does to links, bindings and count -/

/-- Only the session that is the link of a peer takes it down. -/
theorem link?_releaseSession (t : LinkTable) (s s' : SystemId) (k : Ticket) :
    (t.releaseSession s k).link? s' =
      if s' = s ∧ t.link? s = some (.session k) then some .disconnected else t.link? s' := by
  unfold releaseSession
  split
  · rename_i h
    change (t.setLink s .disconnected).link? s' = _
    rw [link?_setLink, h]
    simp
  · rename_i h
    rw [if_neg fun hs => h hs.2]

@[simp] theorem dials?_releaseSession (t : LinkTable) (s s' : SystemId) (k : Ticket) :
    (t.releaseSession s k).dials? s' = t.dials? s' := by
  unfold releaseSession
  split
  · exact dials?_setLink t s s' .disconnected
  · rfl

@[simp] theorem started_releaseSession (t : LinkTable) (s : SystemId) (k : Ticket) :
    (t.releaseSession s k).started = t.started := by
  unfold releaseSession
  split <;> rfl

/-- The table does not look at its sessions when it takes a link down. -/
theorem releaseSession_withSessions (t : LinkTable) (ss : Sessions SystemId) (s : SystemId)
    (k : Ticket) :
    { t with sessions := ss }.releaseSession s k =
      { (t.releaseSession s k) with sessions := ss } := by
  have hl : { t with sessions := ss }.link? s = t.link? s := rfl
  unfold releaseSession
  rw [hl]
  split <;> rfl

/-- The session is freed and forgotten, and the link of the peer it was bound to is released. -/
theorem endSession_eq {t : LinkTable} {k : Ticket} {x : Session SystemId}
    (h : t.sessions.get? k = some x) :
    t.endSession k =
      { (match x.binding with
          | some s => t.releaseSession s k
          | none => t) with
        sessions := (t.sessions.unbind k).remove x.id } := by
  obtain ⟨id, connection, peer, binding⟩ := x
  simp only [endSession, h]
  cases binding with
  | none => rfl
  | some s => simp only [releaseSession_withSessions]

theorem endSession_of_get?_eq_none {t : LinkTable} {k : Ticket} (h : t.sessions.get? k = none) :
    t.endSession k = t := by
  simp only [endSession, h]

/-- The end of a session takes down the link of its peer, if that is still the session. -/
theorem link?_endSession (t : LinkTable) (k : Ticket) (s : SystemId) :
    (t.endSession k).link? s =
      if t.sessions.binding? k = some s ∧ t.link? s = some (.session k) then some .disconnected
      else t.link? s := by
  cases hk : t.sessions.get? k with
  | none => simp [endSession_of_get?_eq_none hk, Sessions.binding?, hk]
  | some x =>
    have hb : t.sessions.binding? k = x.binding := by simp [Sessions.binding?, hk]
    rw [endSession_eq hk, hb]
    cases x.binding with
    | none => simp [link?]
    | some s' =>
      change (t.releaseSession s' k).link? s = _
      rw [link?_releaseSession]
      by_cases hs : s = s'
      · subst hs
        simp
      · simp [hs, Ne.symm hs]

@[simp] theorem dials?_endSession (t : LinkTable) (k : Ticket) (s : SystemId) :
    (t.endSession k).dials? s = t.dials? s := by
  cases hk : t.sessions.get? k with
  | none => rw [endSession_of_get?_eq_none hk]
  | some x =>
    rw [endSession_eq hk]
    cases x.binding with
    | none => rfl
    | some s' => exact dials?_releaseSession t s' s k

theorem binding?_endSession (t : LinkTable) (k k' : Ticket) :
    (t.endSession k).sessions.binding? k' =
      if k' = k then none else t.sessions.binding? k' := by
  cases hk : t.sessions.get? k with
  | none =>
    rw [endSession_of_get?_eq_none hk]
    by_cases h : k' = k
    · simp [h, Sessions.binding?, hk]
    · simp [h]
  | some x => rw [endSession_eq hk, ← Sessions.binding?_unbind, Sessions.binding?_remove]

theorem connected_endSession (t : LinkTable) (k : Ticket) :
    (t.endSession k).connected =
      if ∃ s, t.sessions.binding? k = some s ∧ t.link? s = some (.session k) then t.connected - 1
      else t.connected := by
  cases hk : t.sessions.get? k with
  | none => simp [endSession_of_get?_eq_none hk, Sessions.binding?, hk]
  | some x =>
    have hb : t.sessions.binding? k = x.binding := by simp [Sessions.binding?, hk]
    rw [endSession_eq hk, hb]
    cases x.binding with
    | none => simp
    | some s =>
      simp only [releaseSession, Option.some.injEq, exists_eq_left']
      split <;> rfl

@[simp] theorem started_endSession (t : LinkTable) (k : Ticket) :
    (t.endSession k).started = t.started := by
  cases hk : t.sessions.get? k with
  | none => rw [endSession_of_get?_eq_none hk]
  | some x =>
    rw [endSession_eq hk]
    cases x.binding with
    | none => rfl
    | some s => exact started_releaseSession t s k

@[simp] theorem length_made_endSession (t : LinkTable) (k : Ticket) :
    (t.endSession k).sessions.made.length = t.sessions.made.length := by
  cases hk : t.sessions.get? k with
  | none => rw [endSession_of_get?_eq_none hk]
  | some x =>
    rw [endSession_eq hk]
    exact Sessions.length_made_modify t.sessions k _

/-- A session that ends takes its number out of the live ones. -/
theorem find?_endSession_of_get? {t : LinkTable} {k : Ticket} {x : Session SystemId}
    (h : t.sessions.get? k = some x) (n : UInt32) :
    (t.endSession k).sessions.find? n = if n = x.id then none else t.sessions.find? n := by
  rw [endSession_eq h]
  exact Sessions.find?_remove (t.sessions.unbind k) x.id n

/-! ### Dialed connections -/

/-- Links a connection to the peer that accepted the registration on it. -/
def installClient (t : LinkTable) (s : SystemId) (c : ConnectionId) : Option LinkTable :=
  match t.peers.get? s with
  | none => none
  | some p =>
    if p.link.isConnected then none
    else some { (t.setLink s (.client c)) with connected := t.connected + 1 }

/-- A connection becomes the link of a peer only where that has none. -/
theorem installClient_eq_some_iff {t t' : LinkTable} {s : SystemId} {c : ConnectionId} :
    t.installClient s c = some t' ↔ t.link? s = some .disconnected ∧
      t' = { (t.setLink s (.client c)) with connected := t.connected + 1 } := by
  unfold installClient link?
  cases hp : t.peers.get? s with
  | none => simp
  | some p =>
    by_cases hl : p.link = .disconnected
    · simp [PeerLink.isConnected, hl, eq_comm]
    · simp [PeerLink.isConnected, hl]

theorem link?_installClient {t t' : LinkTable} {s : SystemId} {c : ConnectionId}
    (h : t.installClient s c = some t') (s' : SystemId) :
    t'.link? s' = if s' = s then some (.client c) else t.link? s' := by
  obtain ⟨hdown, rfl⟩ := installClient_eq_some_iff.1 h
  show (t.setLink s (.client c)).link? s' = _
  rw [link?_setLink, hdown]
  rfl

/-- Takes the link of a peer down, if it is this connection. -/
def clearClient (t : LinkTable) (s : SystemId) (c : ConnectionId) : LinkTable :=
  if t.link? s = some (.client c) then
    { (t.setLink s .disconnected) with connected := t.connected - 1 }
  else t

/-- Only the connection that is the link of a peer takes it down. -/
theorem link?_clearClient (t : LinkTable) (s s' : SystemId) (c : ConnectionId) :
    (t.clearClient s c).link? s' =
      if s' = s ∧ t.link? s = some (.client c) then some .disconnected else t.link? s' := by
  unfold clearClient
  split
  · rename_i h
    change (t.setLink s .disconnected).link? s' = _
    rw [link?_setLink, h]
    simp
  · rename_i h
    rw [if_neg fun hs => h hs.2]

@[simp] theorem sessions_clearClient (t : LinkTable) (s : SystemId) (c : ConnectionId) :
    (t.clearClient s c).sessions = t.sessions := by
  unfold clearClient
  split <;> rfl

/-! ### Starting -/

/-- What starting the links came to. -/
structure Started where
  table : LinkTable
  notices : List Notice
  result : Except ClusterError Unit

/-- Asks for the links to start, with a listener or without one. They start once at most; a member
that is dialed needs a listener. -/
def start (t : LinkTable) (hasListener : Bool) : Started :=
  if t.started then ⟨t, [], .error (.configuration .alreadyStarted)⟩
  else
    let t' := { t with started := true, connected := t.connected + 1 }
    if t.acceptsInbound && !hasListener then ⟨t', [], .error (.configuration .listenerMissing)⟩
    else ⟨t', if hasListener && !t.acceptsInbound then [.listenerUnused] else [], .ok ()⟩

/-- Whether all members are linked. -/
def isComplete (t : LinkTable) : Bool := decide (t.members.length ≤ t.connected)

/-- The text for diagnostics. -/
def inspect (t : LinkTable) : String :=
  Text.record "ClusterTransport"
    [("local_system_id", t.localId.inspect), ("local_index", toString t.localIndex),
      ("members", toString t.members.length), ("connected", toString t.connected)]

end LinkTable

end ActorMesh
