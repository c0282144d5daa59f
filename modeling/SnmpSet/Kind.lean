import SnmpSet.TestAndIncr
import SnmpSet.TimeStamp

/-!
# Kinds of managed objects

The kind of an object decides who may write it, which proposals it takes, what
a write stores and reports, and what a read answers.
-/

namespace SnmpSet

/-- The kinds of managed objects. -/
inductive Kind where
  /-- Stores what is proposed. -/
  | plain
  /-- A counter that serialises writers. -/
  | testAndIncr
  /-- A stamp that requests can only read. -/
  | timeStamp (stamp : TimeStamp)
  /-- A key that any requester with access may change. -/
  | keyChange (column : KeyChangeColumn)
  /-- A key that only its own user may change. -/
  | ownKeyChange (column : KeyChangeColumn)

namespace Kind

/-- The name of a kind. -/
def name : Kind → String
  | .plain => "plain"
  | .testAndIncr => "test_and_incr"
  | .timeStamp _ => "time_stamp"
  | .keyChange _ => "key_change"
  | .ownKeyChange _ => "own_key_change"

/-- The key-change column of a kind that has one. -/
def column? : Kind → Option KeyChangeColumn
  | .keyChange column | .ownKeyChange column => some column
  | _ => none

/-- The stored value is a key. -/
def isSecret (k : Kind) : Bool := k.column?.isSome

/-- Refuses requesters by who they are alone. -/
def vet (k : Kind) (requester : Requester) : Except Refusal Unit :=
  match k with
  | .ownKeyChange column => column.vet requester
  | _ => .ok ()

/-- Refuses every write to a time stamp. -/
def writable : Kind → Except Refusal Unit
  | .timeStamp _ => .error .notWritable
  | _ => .ok ()

/-- Refuses a proposal that does not fit the stored value. -/
def prepare (k : Kind) (stored proposed : Value) (requester : Requester) :
    Except WriteFailure Unit :=
  match k.vet requester with
  | .error e => .error (.refused e)
  | .ok () =>
    match k with
    | .plain => .ok ()
    | .testAndIncr => (TestAndIncr.prepare stored proposed).mapError .refused
    | .timeStamp _ => .error (.refused .notWritable)
    | .keyChange column | .ownKeyChange column => column.prepare proposed

/-- Refuses a proposal that is wrong whatever is stored. -/
def check (k : Kind) (proposed : Value) : Except Refusal Unit :=
  match k with
  | .testAndIncr => TestAndIncr.check proposed
  | _ => .ok ()

/-- What a write stores and reports. -/
def commit (k : Kind) (stored proposed : Value) : Except WriteFailure Committed :=
  match k with
  | .plain => .ok ⟨proposed, proposed⟩
  | .testAndIncr => TestAndIncr.commit stored proposed
  | .timeStamp _ => .error (.refused .notWritable)
  | .keyChange column | .ownKeyChange column => column.commit stored proposed

/-- What a read answers. -/
def read (k : Kind) (stored : Value) : Except Refusal Value :=
  match k with
  | .keyChange column | .ownKeyChange column => column.read
  | _ => .ok stored

end Kind

end SnmpSet
