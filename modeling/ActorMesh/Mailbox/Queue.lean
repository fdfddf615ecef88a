import ActorMesh.Identity
import ActorMesh.Table

/-!
# Bounded queues

A subscriber that is no actor reads from a queue. A queue holds at most as many messages as its
capacity, which is at least one, and takes none once its reader is gone. What is refused is lost to
that subscriber; nobody waits.
-/

namespace ActorMesh

/-- A queue of messages `μ`. -/
structure BoundedQueue (μ : Type) where
  capacity : Nat
  /-- What waits, oldest first. -/
  items : List μ
  /-- Whether somebody reads. -/
  isOpen : Bool
  deriving DecidableEq, Repr

namespace BoundedQueue

variable {μ : Type}

/-- An empty queue that is read. -/
def new (capacity : Nat) : BoundedQueue μ := ⟨max 1 capacity, [], true⟩

/-- Whether the queue takes one more message. -/
def accepts (q : BoundedQueue μ) : Bool := q.isOpen && decide (q.items.length < q.capacity)

/-- Puts a message at the end, if the queue takes it. -/
def push (q : BoundedQueue μ) (m : μ) : BoundedQueue μ :=
  if q.accepts then { q with items := q.items ++ [m] } else q

theorem accepts_iff {q : BoundedQueue μ} :
    q.accepts = true ↔ q.isOpen = true ∧ q.items.length < q.capacity := by
  rw [accepts, Bool.and_eq_true, decide_eq_true_eq]

theorem accepts_eq_false_iff {q : BoundedQueue μ} :
    q.accepts = false ↔ q.isOpen = false ∨ q.capacity ≤ q.items.length := by
  rw [accepts, Bool.and_eq_false_iff, decide_eq_false_iff_not, Nat.not_lt]

/-- What is taken waits behind all that waited before. -/
theorem push_of_accepts {q : BoundedQueue μ} (h : q.accepts = true) (m : μ) :
    q.push m = { q with items := q.items ++ [m] } := if_pos h

/-- What is refused leaves no trace. -/
theorem push_of_refuses {q : BoundedQueue μ} (h : q.accepts = false) (m : μ) : q.push m = q :=
  if_neg (Bool.eq_false_iff.1 h)

/-- Takes the oldest message. -/
def pop? (q : BoundedQueue μ) : Option (μ × BoundedQueue μ) :=
  match q.items with
  | [] => none
  | m :: rest => some (m, { q with items := rest })

/-- The reader goes; what waits is lost. -/
def close (q : BoundedQueue μ) : BoundedQueue μ := { q with items := [], isOpen := false }

end BoundedQueue

/-- The queues of a member. -/
abbrev Queues (μ : Type) := Table QueueId (BoundedQueue μ)

namespace Queues

variable {μ : Type}

/-- Whether a queue takes one more message; one that does not exist takes none. -/
def accepts (qs : Queues μ) (q : QueueId) : Bool := (qs.get? q).any BoundedQueue.accepts

/-- Puts a message at the end of a queue, if that takes it. -/
def push (qs : Queues μ) (q : QueueId) (m : μ) : Queues μ := qs.modify q (·.push m)

/-- Puts a message at the end of each of several queues that takes it. -/
def pushAll (qs : Queues μ) (receivers : List QueueId) (m : μ) : Queues μ :=
  receivers.foldl (fun qs q => qs.push q m) qs

theorem accepts_of_get? {qs : Queues μ} {q : QueueId} {b : BoundedQueue μ}
    (h : qs.get? q = some b) : qs.accepts q = b.accepts := by
  rw [accepts, h, Option.any_some]

theorem get?_push (qs : Queues μ) (q q' : QueueId) (m : μ) :
    (qs.push q m).get? q' = (qs.get? q').map fun b => if q' = q then b.push m else b := by
  rw [push, Table.get?_modify]
  by_cases h : q' = q <;> simp [h]

/-- Each of the receivers is offered the message once, and no other queue is touched. -/
theorem get?_pushAll {receivers : List QueueId} (hnd : receivers.Nodup) (qs : Queues μ) (q : QueueId)
    (m : μ) :
    (qs.pushAll receivers m).get? q =
      (qs.get? q).map fun b => if q ∈ receivers then b.push m else b := by
  induction receivers generalizing qs with
  | nil => simp [pushAll]
  | cons r rest ih =>
    obtain ⟨hr, hrest⟩ := List.nodup_cons.1 hnd
    rw [pushAll, List.foldl_cons, ← pushAll, ih hrest, get?_push, Option.map_map]
    congr 1
    funext b
    by_cases h : q = r
    · simp [h, hr]
    · simp [h]

end Queues

end ActorMesh
