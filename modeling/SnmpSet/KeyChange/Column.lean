import SnmpSet.Access
import SnmpSet.KeyChange.Rotation
import SnmpSet.Oid.Index
import SnmpSet.Refusal

/-!
# Key-change columns

A column of the user table whose cells take key-change values. The stored value
is the key itself and is never read back. The row of a cell is indexed by the
identifier of the agent and the name of the user, both as octet strings that
carry their lengths.
-/

namespace SnmpSet

/-- What a commit stores and what it reports. -/
structure Committed where
  stored : Value
  reported : Value
  deriving DecidableEq

/-- A value that is too short is malformed. An overflow halts the agent. -/
def KeyChangeError.failure : KeyChangeError → WriteFailure
  | .tooShort length keyLength => .refused (.malformed (keyChangeTooShort length keyLength))
  | .overflow _ => .halted

/-- The wording of the error that a key change ends with outside an agent. -/
def KeyChangeError.message : KeyChangeError → String
  | .tooShort length keyLength => (Refusal.malformed (keyChangeTooShort length keyLength)).message
  | .overflow _ => "attempt to multiply with overflow"

/-- The key-change column that a cell belongs to. -/
structure KeyChangeColumn where
  protocol : KeyProtocol
  /-- The index of the cell's row. -/
  rowIndex : Oid
  /-- A read answers with an empty octet string. -/
  readable : Bool

namespace KeyChangeColumn

/-- A readable column. -/
def create (protocol : KeyProtocol) (rowIndex : Oid) : KeyChangeColumn :=
  { protocol, rowIndex, readable := true }

/-- The column with reads refused. -/
def writeOnly (column : KeyChangeColumn) : KeyChangeColumn := { column with readable := false }

/-- The name of the user that the row belongs to: the second component of the
row index. -/
def owner (column : KeyChangeColumn) : Except OidDefect (List UInt8) :=
  match column.rowIndex.octetsAt 0 with
  | .error e => .error e
  | .ok (_, next) => (column.rowIndex.octetsAt next).map Prod.fst

/-- Refuses every requester but the user that the row belongs to. -/
def vet (column : KeyChangeColumn) : Requester → Except Refusal Unit
  | none => .error (.noAccess "no security context")
  | some principal =>
    if principal.model = .usm then
      match column.owner with
      | .error e => .error (.noAccess s!"row index names no user: {e.message}")
      | .ok owner =>
        if principal.identity = owner then .ok ()
        else .error (.noAccess "requester does not own this row")
    else
      .error (.noAccess s!"security model {principal.model.debugText} cannot change own key")

/-- Refuses a value that cannot hold a random part and a delta. -/
def prepare (column : KeyChangeColumn) : Value → Except WriteFailure Unit
  | .octets keyChange =>
    (KeyProtocol.testLength keyChange.length column.protocol.keyLength).mapError
      KeyChangeError.failure
  | _ => .error (.refused (.malformed "key change is not an octet string"))

/-- Derives the new key. A protocol that derives a key of the wrong length is
refused. -/
def commit (column : KeyChangeColumn) (stored proposed : Value) :
    Except WriteFailure Committed :=
  match stored, proposed with
  | .octets oldKey, .octets keyChange =>
    let keyLength := column.protocol.keyLength
    match column.protocol.rotate oldKey keyChange keyLength with
    | .error e => .error e.failure
    | .ok rotation =>
      let expected := keyChange.length - keyLength.toNat
      if rotation.key.length = expected then
        .ok ⟨.octets rotation.key, .octets rotation.reported⟩
      else
        .error (.refused (.commitFailed
          (s!"protocol {column.protocol.id} derived {rotation.key.length} key bytes, " ++
            s!"expected {expected}")))
  | .octets _, _ => .error (.refused (.malformed "key change is not an octet string"))
  | _, _ => .error (.refused (.commitFailed s!"stored key is {stored.baseType}"))

/-- What a read answers. -/
def read (column : KeyChangeColumn) : Except Refusal Value :=
  if column.readable then .ok (.octets [])
  else .error (.noAccess "key-change column is not readable")

end KeyChangeColumn

end SnmpSet
