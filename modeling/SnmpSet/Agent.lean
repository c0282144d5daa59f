import SnmpSet.Batch.Run
import SnmpSet.Store

/-!
# SET requests

A SET request is a batch of bindings that takes effect as a whole or not at all.
A refusal is answered with its status and the position of the binding, counted
from one; the answer then repeats the request. A fault is no answer: it means
that the agent could not keep its guarantees.
-/

namespace SnmpSet

/-- The answer to a SET request. -/
structure Response where
  status : ErrorStatus
  /-- The position of the binding to blame, or zero if there is none. -/
  errorIndex : Nat
  bindings : List VarBind
  deriving DecidableEq

namespace Response

/-- The answer to an accepted request. -/
def accepted (bindings : List VarBind) : Response := ⟨.noError, 0, bindings⟩

/-- The answer to a refused request. -/
def refused (e : Refusal) (errorIndex : Nat) (bindings : List VarBind) : Response :=
  ⟨e.status, errorIndex, bindings⟩

/-- The request was accepted. -/
def isAccepted (r : Response) : Bool := r.status.isSuccess

end Response

/-- What comes of a SET request. -/
inductive Answer where
  | response (r : Response)
  | fault (f : Fault)
  /-- The agent halts without an answer. -/
  | halted
  deriving DecidableEq

/-- The objects that can be written, with the policy and the limit that requests are subject to. -/
structure Agent where
  store : Store
  policy : WritePolicy
  /-- The largest number of bindings in a request. -/
  maxBindings : Nat

/-- The outcome of a SET request: its answer, the agent after it, the rules that
were asked and what observers were told. -/
structure Outcome where
  answer : Answer
  agent : Agent
  asked : List Rule
  notified : List Notification

namespace Agent

/-- The limit on bindings of an agent that is not given one. -/
def defaultMaxBindings : Nat := 64

/-- An agent that grants every write, with the default limit. -/
def ofStore (store : Store) : Agent :=
  { store, policy := .grantAll, maxBindings := defaultMaxBindings }

/-- What a read of an address answers. -/
def get (a : Agent) (oid : Oid) : Except Refusal Value := a.store.read oid

/-- Pairs the bindings with the objects they address. The first binding that
repeats an address or has no object is refused, with its position. -/
def targetsOf (store : Store) : (seen : List Oid) → List VarBind →
    Except (Nat × Refusal) (List Target)
  | _, [] => .ok []
  | seen, binding :: bindings =>
    if binding.oid ∈ seen then
      .error (0, .inconsistentValue s!"{binding.oid} appears more than once")
    else
      match store.object? binding.oid with
      | none => .error (0, .noCreation)
      | some o =>
        match targetsOf store (binding.oid :: seen) bindings with
        | .error (position, e) => .error (position + 1, e)
        | .ok targets => .ok (Target.ofBinding binding o.body :: targets)

/-- The store with what targets have made of their objects. -/
def writeBack (store : Store) (targets : List Target) : Store :=
  targets.foldl (fun store t => store.put ⟨t.write.oid, t.body⟩) store

/-- The answer to a request whose batch has come to an end: what is reported if it was not
stopped, or else where and why it was. -/
def answerTo (bindings reports : List VarBind) : Option (Nat × Stop) → Answer
  | none => .response (.accepted reports)
  | some (position, .refused e) => .response (.refused e (position + 1) bindings)
  | some (_, .faulted fault) => .fault fault
  | some (_, .halted) => .halted

/-- The answer to a request whose batch has run. -/
def answerOf (bindings : List VarBind) (run : Run) : Answer :=
  answerTo bindings (run.targets.map fun t => t.finish.reported) run.stop

/-- Answers a request without running a batch. -/
def answerAtOnce (a : Agent) (response : Response) : Outcome :=
  ⟨.response response, a, [], []⟩

/-- The targets of a request, or the response to one that needs no batch or cannot have one. -/
def resolve (a : Agent) (bindings : List VarBind) : Except Response (List Target) :=
  if bindings = [] then .error (.accepted bindings)
  else if a.maxBindings < bindings.length then
    .error (.refused (.tooBig bindings.length a.maxBindings) 0 bindings)
  else
    match targetsOf a.store [] bindings with
    | .error (position, error) => .error (.refused error (position + 1) bindings)
    | .ok targets => .ok targets

/-- Applies a batch of bindings as a whole or not at all. -/
def set (a : Agent) (requester : Requester) (bindings : List VarBind) : Outcome :=
  match a.resolve bindings with
  | .error response => a.answerAtOnce response
  | .ok targets =>
    let run := Run.all a.policy requester targets
    { answer := answerOf bindings run
      agent := { a with store := writeBack a.store run.targets }
      asked := run.asked
      notified := run.notified }

end Agent

end SnmpSet
