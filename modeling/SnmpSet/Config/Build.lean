import SnmpSet.Config.Basic
import SnmpSet.Text.Hex

/-!
# Building an agent from its configuration

Entries are built in order, and the first that cannot be built is reported. An
address that an earlier entry has taken is reported before anything else about
an entry.
-/

namespace SnmpSet

/-- What the settings of one entry contradict. -/
inductive Contradiction where
  /-- A plain object starts with an integer or a string, and not with both. -/
  | oneValue
  /-- A length has to reach its minimum within its maximum. -/
  | lengthRange
  /-- An integer has to reach its minimum within its maximum. -/
  | integerRange
  /-- A counter starts at zero or above. -/
  | negativeCounter
  /-- A key that belongs to a user needs a row index that names the user. -/
  | rowIndex
  deriving DecidableEq

/-- The wording of a contradiction. -/
def Contradiction.message : Contradiction → String
  | .oneValue => "exactly one of `integer` or `string` is required"
  | .lengthRange => "min_length exceeds max_length"
  | .integerRange => "min exceeds max"
  | .negativeCounter => "initial counter value must be non-negative"
  | .rowIndex => "row_index must be engineID || userName"

/-- Why a configuration cannot be built. -/
inductive ConfigDefect where
  /-- A key is not written in hexadecimal. -/
  | badHex (oid : Oid) (cause : Text.HexError)
  /-- A key has not the length that its algorithm needs. -/
  | wrongKeyLength (oid : Oid) (expected actual : Nat)
  /-- The settings of an entry contradict each other. -/
  | contradictory (oid : Oid) (cause : Contradiction)
  /-- Two entries have one address. -/
  | repeated (oid : Oid)
  deriving DecidableEq

namespace ConfigDefect

/-- The wording of a defect. -/
def message : ConfigDefect → String
  | .badHex oid cause =>
    String.join ["invalid hex key for ", oid.text, ": ", cause.message]
  | .wrongKeyLength oid expected actual =>
    String.join
      ["key for ", oid.text, " is ", toString actual, " bytes, protocol needs ",
        toString expected]
  | .contradictory oid cause =>
    String.join ["invalid object ", oid.text, ": ", cause.message]
  | .repeated oid => String.join ["object ", oid.text, " configured more than once"]

/-- The wording of what lies behind a defect. -/
def causeMessage? : ConfigDefect → Option String
  | .badHex _ cause => some cause.message
  | _ => none

/-- The kind of a defect, as diagnostics name it. -/
def kind : ConfigDefect → String
  | .badHex .. => "InvalidHex"
  | .wrongKeyLength .. => "KeyLength"
  | .contradictory .. => "InvalidObject"
  | .repeated _ => "DuplicateOid"

end ConfigDefect

namespace PlainSettings

/-- The first value. -/
def value? (s : PlainSettings) : Option Value :=
  match s.integer, s.string with
  | some n, none => some (.integer n)
  | none, some text => some (.octets (Text.octetsOf text))
  | _, _ => none

/-- The range of lengths, if either end is given. -/
def lengthRange? (s : PlainSettings) : Option LengthBounds :=
  if s.minLength = none ∧ s.maxLength = none then none
  else some ⟨s.minLength.getD 0, s.maxLength.getD LengthBounds.displayString.max⟩

/-- The range of integers, if either end is given. -/
def integerRange? (s : PlainSettings) : Option IntegerBounds :=
  if s.min = none ∧ s.max = none then none
  else some ⟨s.min.getD Int32.minValue, s.max.getD Int32.maxValue⟩

/-- The rules that later values are subject to. -/
def rules (s : PlainSettings) : List Rule :=
  (s.lengthRange?.map Rule.length).toList ++ (if s.displayString then [.displayString] else []) ++
    (s.integerRange?.map Rule.integerRange).toList

/-- A plain object with its rules. -/
def object (s : PlainSettings) (oid : Oid) : Except ConfigDefect ManagedObject :=
  match s.value? with
  | none => .error (.contradictory oid .oneValue)
  | some v =>
    if s.lengthRange?.any (fun range => range.max < range.min) then
      .error (.contradictory oid .lengthRange)
    else if s.integerRange?.any (fun range => range.max < range.min) then
      .error (.contradictory oid .integerRange)
    else .ok (s.rules.foldl ManagedObject.withRule (.plain oid v))

end PlainSettings

namespace KeySettings

/-- The column that the key belongs to. -/
def column (s : KeySettings) : KeyChangeColumn :=
  { KeyChangeColumn.create s.algorithm.protocol s.rowIndex with readable := s.readable }

/-- The kind of the object. -/
def kind (s : KeySettings) : Kind := if s.own then .ownKeyChange s.column else .keyChange s.column

/-- A key. -/
def object (s : KeySettings) (oid : Oid) : Except ConfigDefect ManagedObject :=
  match Text.readHex s.key with
  | .error cause => .error (.badHex oid cause)
  | .ok key =>
    let expected := s.algorithm.protocol.keyLength.toNat
    if key.length ≠ expected then .error (.wrongKeyLength oid expected key.length)
    else if s.own ∧ s.column.owner.toOption = none then
      .error (.contradictory oid .rowIndex)
    else .ok (.ofKind oid (.octets key) s.kind)

end KeySettings

/-- The object of an entry. Time stamps are attached to the given clock. -/
def ObjectEntry.object (c : ObjectEntry) (clock : Clock) :
    Except ConfigDefect ManagedObject :=
  match c.settings with
  | .plain s => s.object c.oid
  | .testAndIncr initial =>
    if initial < 0 then .error (.contradictory c.oid .negativeCounter)
    else .ok (.testAndIncr c.oid initial)
  | .timeStamp => .ok (.timeStamp c.oid (some clock))
  | .keyChange s => s.object c.oid

namespace AgentConfig

/-- The store with the objects of entries put into it, one after another. -/
def addObjects (clock : Clock) (store : Store) :
    List ObjectEntry → Except ConfigDefect Store
  | [] => .ok store
  | entry :: entries =>
    if store.contains entry.oid then .error (.repeated entry.oid)
    else
      match entry.object clock with
      | .error e => .error e
      | .ok o => addObjects clock (store.put o) entries

/-- The store with the objects of all entries. -/
def store (c : AgentConfig) (clock : Clock) : Except ConfigDefect Store :=
  addObjects clock .empty c.objects

/-- The agent, which grants every write. -/
def agent (c : AgentConfig) (clock : Clock) : Except ConfigDefect Agent :=
  (c.store clock).map fun store =>
    { Agent.ofStore store with maxBindings := c.maxBindings }

end AgentConfig

end SnmpSet
