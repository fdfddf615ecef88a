import ActorMesh.Identity
import ActorMesh.LinkError
import ActorMesh.Table

/-!
# Sessions

Every connection that a peer opens becomes a **session**. A session has a number, and once its peer
has proved who it is, it is bound to that. Numbers are given in ascending order and start over when
all are used, so a number names a session only while that is live; a `Ticket` names it for good.
-/

namespace ActorMesh

/-- The n-th session that was ever made, counted from 0. -/
structure Ticket where
  value : Nat
  deriving DecidableEq, Repr, Inhabited

/-- A connection opened by a peer, and what it is bound to (`β`). -/
structure Session (β : Type) where
  id : UInt32
  connection : ConnectionId
  peer : Option Address
  binding : Option β
  deriving DecidableEq, Repr

/-- The text for diagnostics. -/
def Session.inspect {β : Type} (inspectBinding : β → String) (s : Session β) : String :=
  Text.record "Session"
    [("id", toString s.id.toNat), ("peer_addr", Address.inspect s.peer),
      ("binding", Text.optional (s.binding.map inspectBinding))]

/-- All sessions that were made, and the live ones by number. -/
structure Sessions (β : Type) where
  made : List (Session β)
  live : Table UInt32 Ticket
  nextId : UInt32
  deriving DecidableEq

namespace Sessions

variable {β : Type}

/-- No sessions; the first gets the number 1. -/
def empty : Sessions β := ⟨[], .empty, 1⟩

instance : Inhabited (Sessions β) := ⟨empty⟩

/-- A session by its ticket. -/
def get? (ss : Sessions β) (t : Ticket) : Option (Session β) := ss.made[t.value]?

/-- The live session with a number. -/
def find? (ss : Sessions β) (id : UInt32) : Option Ticket := ss.live.get? id

/-- How many sessions are live. -/
def size (ss : Sessions β) : Nat := ss.live.size

/-- Makes a session for a connection. -/
def create (ss : Sessions β) (c : ConnectionId) (peer : Option Address) : Ticket × Sessions β :=
  let t : Ticket := ⟨ss.made.length⟩
  (t, ⟨ss.made ++ [⟨ss.nextId, c, peer, none⟩], ss.live.insert ss.nextId t, ss.nextId + 1⟩)

/-- Changes a session. -/
def modify (ss : Sessions β) (t : Ticket) (f : Session β → Session β) : Sessions β :=
  { ss with made := ss.made.modify t.value f }

/-- What a session is bound to. -/
def binding? (ss : Sessions β) (t : Ticket) : Option β := (ss.get? t).bind (·.binding)

/-- Binds a session; whether it was free. -/
def bind (ss : Sessions β) (t : Ticket) (b : β) : Option (Sessions β) :=
  match ss.binding? t with
  | some _ => none
  | none => some (ss.modify t fun s => { s with binding := some b })

/-- Frees a session. -/
def unbind (ss : Sessions β) (t : Ticket) : Sessions β :=
  ss.modify t fun s => { s with binding := none }

/-- Takes a number out of the live ones. -/
def remove (ss : Sessions β) (id : UInt32) : Sessions β := { ss with live := ss.live.erase id }

/-- The live sessions by ascending number. -/
def ascending (ss : Sessions β) : List (UInt32 × Ticket) :=
  ss.live.entries.mergeSort fun a b => a.1 ≤ b.1

/-- How many live sessions are visited when the visit stops after `limit`, but not before one. -/
def visited (ss : Sessions β) (limit : Nat) : Nat := min ss.size (max 1 limit)

/-! ### What the changes do to bindings -/

@[simp] theorem length_made_modify (ss : Sessions β) (t : Ticket) (f : Session β → Session β) :
    (ss.modify t f).made.length = ss.made.length := by
  simp [modify]

theorem isSome_get?_iff {ss : Sessions β} {t : Ticket} :
    (ss.get? t).isSome = true ↔ t.value < ss.made.length := by
  simp [get?]

theorem get?_modify (ss : Sessions β) (t t' : Ticket) (f : Session β → Session β) :
    (ss.modify t f).get? t' = if t' = t then (ss.get? t).map f else ss.get? t' := by
  obtain ⟨n⟩ := t
  obtain ⟨n'⟩ := t'
  simp only [get?, modify, List.getElem?_modify, Ticket.mk.injEq]
  by_cases h : n' = n
  · subst h
    simp
  · simp [h, Ne.symm h]

/-- A new session is bound to nothing, and the others keep what they are bound to. -/
theorem binding?_create (ss : Sessions β) (c : ConnectionId) (peer : Option Address) (t : Ticket) :
    (ss.create c peer).2.binding? t = ss.binding? t := by
  simp only [binding?, get?, create, List.getElem?_append]
  split
  · rfl
  · rename_i h
    rw [List.getElem?_eq_none (Nat.le_of_not_lt h)]
    rcases hn : t.value - ss.made.length with _ | n <;> simp

theorem binding?_unbind (ss : Sessions β) (t t' : Ticket) :
    (ss.unbind t).binding? t' = if t' = t then none else ss.binding? t' := by
  simp only [binding?, unbind, get?_modify]
  split
  · cases ss.get? t <;> rfl
  · rfl

@[simp] theorem binding?_remove (ss : Sessions β) (id : UInt32) (t : Ticket) :
    (ss.remove id).binding? t = ss.binding? t := rfl

/-- A session is bound only if it is free. -/
theorem bind_eq_some_iff {ss ss' : Sessions β} {t : Ticket} {b : β} :
    ss.bind t b = some ss' ↔
      ss.binding? t = none ∧ ss' = ss.modify t fun s => { s with binding := some b } := by
  unfold bind
  cases ss.binding? t with
  | some _ => simp
  | none => simp [eq_comm]

theorem binding?_bind {ss : Sessions β} {t : Ticket} (b : β) (h : t.value < ss.made.length)
    (t' : Ticket) :
    (ss.modify t fun s => { s with binding := some b }).binding? t' =
      if t' = t then some b else ss.binding? t' := by
  obtain ⟨session, hs⟩ := Option.isSome_iff_exists.1 (isSome_get?_iff.2 h)
  simp only [binding?, get?_modify, hs]
  split
  · rfl
  · rfl

/-! ### What the changes do to the live ones -/

theorem find?_create (ss : Sessions β) (c : ConnectionId) (peer : Option Address) (id : UInt32) :
    (ss.create c peer).2.find? id =
      if id = ss.nextId then some ⟨ss.made.length⟩ else ss.find? id :=
  Table.get?_insert ss.live ss.nextId id _

theorem find?_remove (ss : Sessions β) (id id' : UInt32) :
    (ss.remove id).find? id' = if id' = id then none else ss.find? id' :=
  Table.get?_erase ss.live id id'

end Sessions

end ActorMesh
