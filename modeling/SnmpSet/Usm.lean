import SnmpSet.Agent
import SnmpSet.KeyChange.Algorithm
import SnmpSet.Text.Utf8

/-!
# Users and their keys

An agent with one user: a counter that serialises writers, and the user's key in
two columns, one for administrators and one for the user. A row of the user
table is indexed by the identifier of the agent and the name of the user.
-/

namespace SnmpSet.Usm

/-- The identifier of the agent. -/
def engineId : List UInt8 := [0x80, 0x00, 0x1f, 0x88, 0x04, 0x6d, 0x69, 0x62, 0x74, 0x78]

/-- The column through which keys are changed. -/
def keyChangeColumn : Oid := ⟨[1, 3, 6, 1, 6, 3, 15, 1, 2, 2, 1, 6]⟩

/-- The column through which users change their own keys. -/
def ownKeyChangeColumn : Oid := ⟨[1, 3, 6, 1, 6, 3, 15, 1, 2, 2, 1, 7]⟩

/-- The counter that serialises writers. -/
def setSerialNo : Oid := ⟨[1, 3, 6, 1, 6, 3, 1, 1, 6, 1, 0]⟩

/-- The index of a user's row. -/
def rowIndex (user : String) : Oid :=
  (Oid.empty.appendOctets engineId false).appendOctets (Text.octetsOf user) false

/-- The cell of a column in a user's row. -/
def cell (column : Oid) (user : String) : Oid := column.append (rowIndex user)

/-- An agent with the counter and one user's key. -/
def agent (user : String) (key : List UInt8) : Agent :=
  let protocol := AuthAlgorithm.sha256.protocol
  let index := rowIndex user
  .ofStore <| Store.empty
    |>.put (.testAndIncr setSerialNo 0)
    |>.put (.keyChange (cell keyChangeColumn user) protocol index key)
    |>.put (.ownKeyChange (cell ownKeyChangeColumn user) protocol index key)

end SnmpSet.Usm
