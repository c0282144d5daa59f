import SnmpSet.Agent

/-!
# Sessions with an agent

A session is a series of requests, each served by the agent as the one before it
has left it. Besides batches, clients ask for reads and for the verdict on a
proposal; neither of these changes the agent.
-/

namespace SnmpSet

/-- What a client can ask of an agent. -/
inductive Request where
  /-- Apply a batch of bindings. -/
  | set (requester : Requester) (bindings : List VarBind)
  /-- Read an address. -/
  | get (oid : Oid)
  /-- Judge a proposal for an address without storing it. -/
  | propose (oid : Oid) (proposed : Value)

/-- What an agent replies. -/
inductive Reply where
  /-- What came of a batch. -/
  | answered (answer : Answer)
  /-- What a read answers. -/
  | shown (result : Except Refusal Value)
  /-- The verdict on a proposal, or nothing if the address has no object. -/
  | judged (verdict : Option (Except WriteFailure Unit))

/-- A request as it was served: the agent before and after it, and the reply. -/
structure Exchange where
  before : Agent
  request : Request
  reply : Reply
  after : Agent

/-- The request has a binding for an address. -/
def Request.addresses (oid : Oid) : Request → Bool
  | .set _ bindings => (bindings.map VarBind.oid).contains oid
  | _ => false

/-- The value that a request proposes for an address. -/
def Request.proposal? (oid : Oid) : Request → Option Value
  | .set _ bindings => (bindings.find? fun b => b.oid = oid).map VarBind.value
  | .get _ => none
  | .propose address proposed => if address = oid then some proposed else none

/-- A batch was accepted. -/
def Reply.isAccepted : Reply → Bool
  | .answered (.response r) => r.isAccepted
  | _ => false

/-- A batch was accepted that has a binding for an address. -/
def Exchange.isWriteTo (oid : Oid) (x : Exchange) : Bool :=
  x.reply.isAccepted && x.request.addresses oid

/-- The value of the object at an address. -/
def Store.value? (s : Store) (oid : Oid) : Option Value :=
  (s.object? oid).map fun o => o.body.value

namespace Agent

/-- Serves one request. -/
def serve (a : Agent) (request : Request) : Exchange :=
  match request with
  | .set requester bindings =>
    let outcome := a.set requester bindings
    ⟨a, request, .answered outcome.answer, outcome.agent⟩
  | .get oid => ⟨a, request, .shown (a.get oid), a⟩
  | .propose oid proposed =>
    let verdict := (a.store.object? oid).map fun o => (o.body.propose proposed).verdict
    ⟨a, request, .judged verdict, a⟩

/-- What a request tells observers. Only a batch tells them anything. -/
def notifiedBy (a : Agent) : Request → List Notification
  | .set requester bindings => (a.set requester bindings).notified
  | .get _ | .propose _ _ => []

/-- The exchanges of a session. -/
def session (a : Agent) : List Request → List Exchange
  | [] => []
  | request :: requests => a.serve request :: (a.serve request).after.session requests

/-- The agent after a session. -/
def afterAll (a : Agent) : List Request → Agent
  | [] => a
  | request :: requests => (a.serve request).after.afterAll requests

/-- What a session tells observers. -/
def history (a : Agent) : List Request → List Notification
  | [] => []
  | request :: requests => a.notifiedBy request ++ (a.serve request).after.history requests

end Agent

end SnmpSet
