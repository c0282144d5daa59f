import SnmpSet.Kind
import SnmpSet.Rule

/-!
# Managed objects

An object has an address, a value, a kind, rules and observers. Every change of
its value is told to each observer once per attachment, in the order they were
attached.
-/

namespace SnmpSet

/-- Somebody who is told about changes. -/
structure Observer where
  id : Nat
  deriving DecidableEq

/-- What an observer is told: an object's value before and after a change. -/
structure Notification where
  observer : Observer
  oid : Oid
  old : Value
  new : Value
  deriving DecidableEq

/-- Something that changes while observers watch, with what they have been told so far. -/
structure Watched (σ : Type) where
  state : σ
  told : List Notification

/-- All that an object has apart from its address. -/
structure ObjectBody where
  value : Value
  kind : Kind
  rules : RuleList
  observers : List Observer

namespace ObjectBody

/-- An object's body without rules and observers. -/
def create (value : Value) (kind : Kind) : ObjectBody :=
  { value, kind, rules := .empty, observers := [] }

/-- The stored value for a log; a key is shown by base type and size alone. -/
def shownValue (b : ObjectBody) : String :=
  if b.kind.isSecret then b.value.redactedText else b.value.text

/-- Judges a proposal beside the stored value before the kind does: writability,
requester, base type, then the rules of the first stage. -/
def screen (b : ObjectBody) (proposed : Value) (requester : Requester) : Judgement Refusal :=
  (Judgement.direct b.kind.writable).andThen fun _ =>
  (Judgement.direct (b.kind.vet requester)).andThen fun _ =>
  (Judgement.direct (if proposed.baseType = b.value.baseType then .ok ()
    else .error (.wrongType b.value.baseType proposed.baseType))).andThen fun _ =>
  b.rules.judge .prepare proposed b.value

/-- Judges a proposal beside the stored value, the kind last. -/
def prepare (b : ObjectBody) (proposed : Value) (requester : Requester) :
    Judgement WriteFailure :=
  (b.screen proposed requester).ofWrite.andThen fun _ =>
  .direct (b.kind.prepare b.value proposed requester)

/-- Judges a proposal once it is prepared: the rules of the second stage, then the
kind. -/
def check (b : ObjectBody) (proposed : Value) : Judgement Refusal :=
  (b.rules.judge .check proposed b.value).andThen fun _ => .direct (b.kind.check proposed)

/-- Judges a proposal of nobody in particular without storing it. -/
def propose (b : ObjectBody) (proposed : Value) : Judgement WriteFailure :=
  (b.prepare proposed none).andThen fun _ => (b.check proposed).ofWrite

/-- Stores a value without any judgement, and tells the observers. -/
def assign (b : ObjectBody) (oid : Oid) (v : Value) : ObjectBody × List Notification :=
  ({ b with value := v }, b.observers.map fun observer => ⟨observer, oid, b.value, v⟩)

/-- Stores what the kind makes of a proposal. A failed commit changes nothing. -/
def commit (b : ObjectBody) (oid : Oid) (proposed : Value) :
    Except WriteFailure (Committed × ObjectBody × List Notification) :=
  match b.kind.commit b.value proposed with
  | .ok committed => .ok (committed, b.assign oid committed.stored)
  | .error failure => .error failure

/-- What a read answers. -/
def read (b : ObjectBody) : Except Refusal Value := b.kind.read b.value

/-! ## Changes in place -/

/-- A change that is made to an object in place. What it changes and tells before a fault
stays. -/
abbrev Update := EStateM Fault (Watched ObjectBody)

/-- Stores a value in place without any judgement, and tells the observers. -/
def Update.assign (oid : Oid) (v : Value) : Update Unit := modify fun w =>
  let (body, told) := w.state.assign oid v
  ⟨body, w.told ++ told⟩

/-- Attaches a time stamp to a clock. -/
def attachClock (oid : Oid) (clock : Clock) : Update Unit := do
  let w ← get
  match w.state.kind with
  | .timeStamp stamp =>
    set { w with state := { w.state with kind := .timeStamp (stamp.attach clock) } }
  | _ => throw (.unattached oid "time stamp kind")

/-- Stores the present reading in a time stamp. -/
def stampNow (oid : Oid) (readings : Readings) : Update TimeTicks := do
  let w ← get
  let ticks ← match w.state.kind with
    | .timeStamp stamp => MonadExcept.ofExcept (stamp.now readings oid)
    | _ => throw (.unattached oid "time stamp kind")
  Update.assign oid (.timeTicks ticks)
  return ticks

/-- A body's structure, for diagnostics. -/
def debugText (b : ObjectBody) : String :=
  let value := if b.kind.isSecret then b.value.redactedText else b.value.debugText
  String.join
    ["ObjectState \x7b value: ", value, ", kind: ", Text.quoted b.kind.name, ", rules: ",
      b.rules.debugText, ", observers: ", toString b.observers.length, " \x7d"]

end ObjectBody

/-- An object with its address. -/
structure ManagedObject where
  oid : Oid
  body : ObjectBody

namespace ManagedObject

/-- An object of a given kind. -/
def ofKind (oid : Oid) (value : Value) (kind : Kind) : ManagedObject := ⟨oid, .create value kind⟩

/-- An object that stores whatever passes its rules. -/
def plain (oid : Oid) (value : Value) : ManagedObject := ofKind oid value .plain

/-- A counter; one that would start below zero starts at zero. -/
def testAndIncr (oid : Oid) (initial : Int32) : ManagedObject :=
  ofKind oid (.integer (if initial < 0 then 0 else initial)) .testAndIncr

/-- A stamp that has not been set. -/
def timeStamp (oid : Oid) (clock : Option Clock) : ManagedObject :=
  ofKind oid (.timeTicks ⟨0⟩) (.timeStamp ⟨clock⟩)

/-- A key that any requester with access may change. -/
def keyChange (oid : Oid) (protocol : KeyProtocol) (rowIndex : Oid) (key : List UInt8) :
    ManagedObject :=
  ofKind oid (.octets key) (.keyChange (.create protocol rowIndex))

/-- A key that only its own user may change. -/
def ownKeyChange (oid : Oid) (protocol : KeyProtocol) (rowIndex : Oid) (key : List UInt8) :
    ManagedObject :=
  ofKind oid (.octets key) (.ownKeyChange (.create protocol rowIndex))

/-- The object with one more rule. -/
def withRule (o : ManagedObject) (rule : Rule) : ManagedObject :=
  { o with body := { o.body with rules := o.body.rules.push rule } }

/-- The object with one more observer. -/
def observedBy (o : ManagedObject) (observer : Observer) : ManagedObject :=
  { o with body := { o.body with observers := o.body.observers ++ [observer] } }

/-- How an object is shown in diagnostics. -/
def debugText (o : ManagedObject) : String :=
  String.join ["ManagedObject \x7b oid: ", o.oid.debugText, ", .. \x7d"]

end ManagedObject

end SnmpSet
