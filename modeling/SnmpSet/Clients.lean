import SnmpSet.Session

/-!
# Several clients at once

Several clients make requests of one agent at the same time, and their moves may come
in any order. A client first locks the objects that its request addresses, one after
another by ascending address, and waits while another client has locked the one that
is next. Then it works on its objects, one at each move, and in the end releases them
one after another. No object is registered or removed meanwhile.
-/

namespace SnmpSet

/-! ## The place in a batch -/

/-- A round through the targets of a batch. -/
inductive Round where
  | prepare
  | check
  | commit
  deriving DecidableEq

namespace Round

/-- What a round does to each target. -/
def step (policy : WritePolicy) (requester : Requester) : Round → Target → Step
  | .prepare => Target.prepare policy requester
  | .check => Target.check
  | .commit => Target.commit

/-- The round that comes next. -/
def next? : Round → Option Round
  | .prepare => some .check
  | .check => some .commit
  | .commit => none

end Round

/-- A place in the run of a batch, with what the run keeps of each target. -/
inductive Place (α : Type) where
  /-- In a round: what it is done with and what it has still to do, in request order. -/
  | inRound (round : Round) (done todo : List α)
  /-- A commit was refused: the commits that have still to be undone, the latest first, what
  comes after these in request order, where and why the batch was refused, and the first
  fault met. -/
  | undoing (todo done : List α) (position : Nat) (reason : Refusal) (fault : Option Stop)
  /-- The batch has come to an end: all in request order, and where and why it was stopped. -/
  | ended (all : List α) (stop : Option (Nat × Stop))

namespace Place

variable {α : Type}

/-- What is kept of all targets, in request order. -/
def items : Place α → List α
  | .inRound _ done todo => done ++ todo
  | .undoing todo done .. => todo.reverse ++ done
  | .ended all _ => all

/-- What is kept of the target that is next, with the step that it is to take. -/
def upNext? (policy : WritePolicy) (requester : Requester) : Place α → Option (α × (Target → Step))
  | .inRound round _ (x :: _) => some (x, round.step policy requester)
  | .undoing (x :: _) .. => some (x, Target.undo)
  | _ => none

/-- The place after a step, given what it leaves of the target and whether it stops the
batch. A commit that is refused is followed by the undoing of those before it. -/
def advance (x : α) (stop : Option Stop) : Place α → Place α
  | .inRound round done (_ :: todo) =>
    match round, stop with
    | _, none => .inRound round (done ++ [x]) todo
    | .commit, some (.refused e) => .undoing done.reverse (x :: todo) done.length e none
    | _, some stop => .ended (done ++ x :: todo) (some (done.length, stop))
  | .undoing (_ :: todo) done position reason fault =>
    .undoing todo (x :: done) position reason (fault.or stop)
  | place => place

/-- The place after one where no target is next. -/
def turn : Place α → Place α
  | .inRound round done [] =>
    match round.next? with
    | some round => .inRound round [] done
    | none => .ended done none
  | .undoing [] done position reason fault =>
    .ended done (some (position, fault.getD (.refused reason)))
  | place => place

end Place

/-! ## Clients and their moves -/

/-- What a client is doing. -/
inductive Activity where
  /-- The client has no request under way. -/
  | idle
  /-- The client has still to lock some addresses for its request. -/
  | locking (request : Request) (wanted : List Oid)
  /-- The client is at a place in the batch of its request. -/
  | working (requester : Requester) (bindings : List VarBind) (place : Place PendingWrite)
  /-- The client releases what it has locked, and then has its reply. -/
  | leaving (reply : Reply)

/-- A client of an agent. -/
structure Client where
  /-- The requests that it has still to make. -/
  pending : List Request
  activity : Activity
  /-- The addresses of the objects that it has locked. -/
  held : List Oid
  /-- The replies that it has had. -/
  replies : List Reply

/-- A request of a client, with the reply to it. -/
structure Served (ι : Type) where
  client : ι
  request : Request
  reply : Reply

/-- An agent with its clients. -/
structure Service (ι : Type) where
  agent : Agent
  client : ι → Client
  /-- The addresses of the objects that are locked. -/
  locked : List Oid
  /-- What observers have been told so far. -/
  told : List Notification
  /-- The requests that have taken their effect, in the order in which they have. -/
  served : List (Served ι)

/-- The addresses that a request locks, in the order in which it does, or the reply to a
request that needs none. -/
def Agent.lockOrder (a : Agent) : Request → Except Reply (List Oid)
  | .set _ bindings =>
    match a.resolve bindings with
    | .error response => .error (.answered (.response response))
    | .ok targets => .ok ((targets.map fun t => t.write.oid).mergeSort fun o o' => decide (o ≤ o'))
  | .get oid => if a.store.contains oid then .ok [oid] else .error (.shown (a.get oid))
  | .propose oid _ => if a.store.contains oid then .ok [oid] else .error (.judged none)

/-- The writes of a batch as it starts on objects of the store. -/
def Store.writesOf (store : Store) (bindings : List VarBind) : Option (List PendingWrite) :=
  bindings.mapM fun b => (store.object? b.oid).map fun o => (Target.ofBinding b o.body).write

namespace Service

variable {ι : Type} [DecidableEq ι]

/-- Agent and clients at the start, with the requests that each client is going to make. -/
def start (agent : Agent) (requests : ι → List Request) : Service ι where
  agent := agent
  client i := ⟨requests i, .idle, [], []⟩
  locked := []
  told := []
  served := []

/-- The service with one client in another state. -/
def withClient (s : Service ι) (i : ι) (c : Client) : Service ι :=
  { s with client := fun j => if j = i then c else s.client j }

/-- The service with a request of a client replied to. The reply reaches the client when it
has released what it has locked. -/
def reply (s : Service ι) (i : ι) (c : Client) (request : Request) (reply : Reply) : Service ι :=
  let s' : Service ι := { s with served := s.served ++ [⟨i, request, reply⟩] }
  s'.withClient i { c with activity := .leaving reply }

/-- Takes up a request. -/
def takeUp (s : Service ι) (i : ι) (request : Request) (pending : List Request) : Service ι :=
  match s.agent.lockOrder request with
  | .error reply => s.reply i { s.client i with pending } request reply
  | .ok wanted =>
    s.withClient i { s.client i with pending, activity := .locking request wanted }

/-- Locks the next object, unless it is locked already. -/
def lock (s : Service ι) (i : ι) (request : Request) (oid : Oid) (wanted : List Oid) :
    Option (Service ι) :=
  let s' : Service ι := { s with locked := oid :: s.locked }
  if oid ∈ s.locked then none
  else
    some (s'.withClient i
      { s.client i with activity := .locking request wanted, held := oid :: (s.client i).held })

/-- Starts on a request whose objects are all locked. A read and the judgement of a proposal
need no more than one object, so that they are done at once. -/
def startOn (s : Service ι) (i : ι) (request : Request) : Option (Service ι) :=
  match request with
  | .set requester bindings =>
    (s.agent.store.writesOf bindings).map fun writes =>
      s.withClient i { s.client i with
        activity := .working requester bindings (.inRound .prepare [] writes)
        held := bindings.map VarBind.oid }
  | .get _ | .propose _ _ => some (s.reply i (s.client i) request (s.agent.serve request).reply)

/-- Takes one step of a batch, on the object of the target that is next. -/
def step (s : Service ι) (i : ι) (requester : Requester) (bindings : List VarBind)
    (place : Place PendingWrite) (write : PendingWrite) (step : Target → Step) :
    Option (Service ι) :=
  (s.agent.store.object? write.oid).map fun o =>
    let taken := step ⟨write, o.body⟩
    let s' : Service ι :=
      { s with
        agent := { s.agent with store := s.agent.store.put ⟨write.oid, taken.target.body⟩ }
        told := s.told ++ taken.notified }
    let place := place.advance taken.target.write taken.stop
    s'.withClient i { s.client i with activity := .working requester bindings place }

/-- Goes on with a batch where no target is next. -/
def goOn (s : Service ι) (i : ι) (requester : Requester) (bindings : List VarBind) :
    Place PendingWrite → Service ι
  | .ended writes stop =>
    let reports := writes.map fun w => w.finish.report
    let reply := Reply.answered (Agent.answerTo bindings reports stop)
    s.reply i (s.client i) (.set requester bindings) reply
  | place => s.withClient i
      { s.client i with activity := .working requester bindings place.turn }

/-- Releases the next object, or hands the reply to the client. -/
def leave (s : Service ι) (i : ι) (reply : Reply) : Service ι :=
  let c := s.client i
  match c.held with
  | oid :: held =>
    let s' : Service ι := { s with locked := s.locked.erase oid }
    s'.withClient i { c with held }
  | [] => s.withClient i { c with activity := .idle, replies := c.replies ++ [reply] }

/-- The service after a move of a client, if it can make one. -/
def move (s : Service ι) (i : ι) : Option (Service ι) :=
  match (s.client i).activity with
  | .idle =>
    match (s.client i).pending with
    | [] => none
    | request :: pending => some (s.takeUp i request pending)
  | .locking request (oid :: wanted) => s.lock i request oid wanted
  | .locking request [] => s.startOn i request
  | .working requester bindings place =>
    match place.upNext? s.agent.policy requester with
    | some (write, step) => s.step i requester bindings place write step
    | none => some (s.goOn i requester bindings place)
  | .leaving reply => some (s.leave i reply)

/-- The service after the clients have had their turns in a given order. A client that cannot
move lets its turn pass. -/
def run (s : Service ι) : List ι → Service ι
  | [] => s
  | i :: turns => ((s.move i).getD s).run turns

/-- No client has a request under way or still to make. -/
def IsOver (s : Service ι) : Prop :=
  ∀ i, (s.client i).activity = .idle ∧ (s.client i).pending = []

end Service

end SnmpSet
