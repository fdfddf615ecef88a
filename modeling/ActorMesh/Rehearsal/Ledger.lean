import ActorMesh.Config
import ActorMesh.Rehearsal.Stage
import ActorMesh.Router

/-!
# A router with a ledger

A router on its own: what it delivers and sends is entered in a ledger, and sending to a member can
be made to fail.
-/

namespace ActorMesh.Rehearsal

/-- A router, and what it handed on. -/
structure Ledger (α : Type) where
  router : Router
  props : Props α
  /-- The members that cannot be sent to, and why; the first entry for a member counts. -/
  failing : List (SystemId × ClusterError)
  delivered : List (Envelope α)
  sent : List (SystemId × Envelope α)

namespace Ledger

variable {α : Type}

/-- The router of the local member of a configuration, and an empty ledger. -/
def ofConfig (c : Config) (props : Props α) : Ledger α :=
  ⟨.new c.localId (.ofConfig c), props, [], [], []⟩

/-- Enters what the router hands on. -/
def carrier : Carrier (Ledger α) α where
  deliver e l := { l with delivered := l.delivered ++ [e] }
  remit s e l :=
    match l.failing.find? (·.1 = s) with
    | some (_, fault) => (.error fault, [], l)
    | none => (.ok (), [], { l with sent := l.sent ++ [(s, e)] })

/-- Begins a new page. -/
def forget (l : Ledger α) : Ledger α := { l with delivered := [], sent := [] }

/-- From now on a member cannot be sent to. -/
def fail (l : Ledger α) (s : SystemId) (e : ClusterError) : Ledger α :=
  { l with failing := l.failing ++ [(s, e)] }

/-- From now on all members can be sent to. -/
def heal (l : Ledger α) : Ledger α := { l with failing := [] }

/-- Routes an envelope. -/
def route (l : Ledger α) (e : Envelope α) : Except ClusterError Unit × List Notice × Ledger α :=
  let r := l.router.route carrier { l with props := l.props.provideEnvelope e } e
  (r.result, r.notices, { r.state with router := r.router })

end Ledger

end ActorMesh.Rehearsal
