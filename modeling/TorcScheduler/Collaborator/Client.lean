import TorcScheduler.State.Basic
import Mathlib.Data.Finset.Basic
import Mathlib.Data.String.Basic

/-!
# Collaborator calls

The core acts on the world only by calling its collaborators: the service registry
(`collaborator::consul::client`) and the routing agent (`collaborator::network_agent::dispatch`).
A run of the model records these calls, with their arguments, in the order they are made.

The routing agent's forwarding table (FIB) is the set of addresses it holds a /32 host route for.
Which calls reach an agent is `dispatch/client.rs`: `add_route` returns early on an empty
`route_via` or when the connection starts with `route_to`, `delete_route` on an empty `route_to`,
and only the `fboss` and `snaproute` types are forwarded.  What an agent then does with the route
is modelled from the spec (§4.C), its clients not being among the sources.
-/

namespace TorcScheduler

/-- A call to a collaborator, with the arguments the code passes. -/
inductive Call
  /-- `register(master_ip, name, ip)` of the service registry. -/
  | register (masterIp name ip : String)
  /-- `reset_fib(agent_type, connection)`. -/
  | resetFib (agentType connection : String)
  /-- `add_route(agent_type, connection, route_to, route_via)`. -/
  | addRoute (agentType connection routeTo routeVia : String)
  /-- `delete_route(agent_type, connection, route_to)`. -/
  | deleteRoute (agentType connection routeTo : String)
  deriving DecidableEq, Repr

/-- `register_running_task(master_ip, task)`, which registers `task.name` at `task.ip`. -/
def registerRunningTask (masterIp : String) (task : Task) : Call :=
  .register masterIp task.name task.ip

/-- A routing agent's forwarding table: the addresses it routes. -/
abbrev Fib := Finset String

/-- Modelled from the spec: what an agent client does with a forwarded call (§4.C): clear every
route, install a /32 host route, or remove one. -/
inductive AgentOp
  | clear
  | install (address : String)
  | remove (address : String)
  deriving DecidableEq, Repr

/-- Modelled from the spec: the forwarding table after an agent operation. -/
def AgentOp.apply : AgentOp → Fib → Fib
  | .clear, _ => ∅
  | .install a, fib => insert a fib
  | .remove a, fib => fib.erase a

/-- The agent types `dispatch` forwards; `undefined` and unknown types are only logged. -/
def knownAgent (agentType : String) : Bool :=
  agentType = "fboss" || agentType = "snaproute"

/-- `reset_fib`: forwarded to a known agent. -/
def resetFib (agentType _connection : String) : Option AgentOp :=
  if knownAgent agentType then some .clear else none

/-- `add_route`: nothing for an empty `route_via` or a connection starting with `route_to`,
otherwise forwarded to a known agent. -/
def addRoute (agentType connection routeTo routeVia : String) : Option AgentOp :=
  if routeVia.isEmpty then none
  else if startsWith connection routeTo then none
  else if knownAgent agentType then some (.install routeTo) else none

/-- `delete_route`: nothing for an empty `route_to`, otherwise forwarded to a known agent. -/
def deleteRoute (agentType _connection routeTo : String) : Option AgentOp :=
  if routeTo.isEmpty then none
  else if knownAgent agentType then some (.remove routeTo) else none

/-- The agent operation a call reaches, if any. -/
def Call.dispatch : Call → Option AgentOp
  | .register .. => none
  | .resetFib ty conn => TorcScheduler.resetFib ty conn
  | .addRoute ty conn dest via => TorcScheduler.addRoute ty conn dest via
  | .deleteRoute ty conn dest => TorcScheduler.deleteRoute ty conn dest

/-- The forwarding table after one call. -/
def Call.applyFib (c : Call) (fib : Fib) : Fib :=
  match c.dispatch with
  | some op => op.apply fib
  | none => fib

/-- The forwarding table after a sequence of calls, made in order. -/
def applyCalls (calls : List Call) (fib : Fib) : Fib :=
  calls.foldl (fun fib c => c.applyFib fib) fib

@[simp] theorem applyCalls_nil (fib : Fib) : applyCalls [] fib = fib := rfl

@[simp] theorem applyCalls_append (cs ds : List Call) (fib : Fib) :
    applyCalls (cs ++ ds) fib = applyCalls ds (applyCalls cs fib) :=
  List.foldl_append ..

@[simp] theorem applyCalls_cons (c : Call) (cs : List Call) (fib : Fib) :
    applyCalls (c :: cs) fib = applyCalls cs (c.applyFib fib) := rfl

/-! ### The table after each call, for a known agent type -/

section Known

variable {ty : String} (hty : knownAgent ty = true)
include hty

@[simp] theorem applyFib_resetFib (conn : String) (fib : Fib) :
    (Call.resetFib ty conn).applyFib fib = ∅ := by
  simp [Call.applyFib, Call.dispatch, TorcScheduler.resetFib, hty, AgentOp.apply]

/-- `add_route` installs `route_to` exactly when the code forwards it. -/
theorem mem_applyFib_addRoute (conn dest via a : String) (fib : Fib) :
    a ∈ (Call.addRoute ty conn dest via).applyFib fib ↔
      a ∈ fib ∨ (via ≠ "" ∧ startsWith conn dest = false ∧ a = dest) := by
  by_cases hv : via = "" <;> by_cases hs : startsWith conn dest <;>
    simp [Call.applyFib, Call.dispatch, TorcScheduler.addRoute, String.isEmpty_iff, hv, hs, hty,
      AgentOp.apply, or_comm]

/-- `delete_route` removes a non-empty `route_to` and nothing else. -/
theorem mem_applyFib_deleteRoute (conn dest a : String) (fib : Fib) :
    a ∈ (Call.deleteRoute ty conn dest).applyFib fib ↔ a ∈ fib ∧ (dest = "" ∨ a ≠ dest) := by
  by_cases ht : dest = "" <;>
    simp [Call.applyFib, Call.dispatch, TorcScheduler.deleteRoute, String.isEmpty_iff, ht, hty,
      AgentOp.apply, and_comm]

end Known

@[simp] theorem applyFib_register (m n ip : String) (fib : Fib) :
    (Call.register m n ip).applyFib fib = fib := rfl

end TorcScheduler
