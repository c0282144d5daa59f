import SnmpSet.Text.Quoted
import SnmpSet.Value.Text

/-!
# Reasons to refuse a request

Every refusal maps to one error status of the protocol, with the status code
that the protocol assigns to it.
-/

namespace SnmpSet

/-- The error statuses that a response can carry. -/
inductive ErrorStatus where
  | noError
  | tooBig
  | genErr
  | noAccess
  | wrongType
  | wrongLength
  | wrongValue
  | noCreation
  | inconsistentValue
  | commitFailed
  | undoFailed
  | notWritable
  deriving DecidableEq

namespace ErrorStatus

/-- All statuses in the order of their codes. -/
def all : List ErrorStatus :=
  [.noError, .tooBig, .genErr, .noAccess, .wrongType, .wrongLength, .wrongValue, .noCreation,
    .inconsistentValue, .commitFailed, .undoFailed, .notWritable]

/-- The protocol's code for a status. -/
def code : ErrorStatus → Nat
  | .noError => 0
  | .tooBig => 1
  | .genErr => 5
  | .noAccess => 6
  | .wrongType => 7
  | .wrongLength => 8
  | .wrongValue => 10
  | .noCreation => 11
  | .inconsistentValue => 12
  | .commitFailed => 14
  | .undoFailed => 15
  | .notWritable => 17

/-- The status with a code. -/
def ofCode? (code : Int) : Option ErrorStatus := all.find? fun s => (s.code : Int) = code

/-- The protocol's name for a status. -/
def name : ErrorStatus → String
  | .noError => "noError"
  | .tooBig => "tooBig"
  | .genErr => "genErr"
  | .noAccess => "noAccess"
  | .wrongType => "wrongType"
  | .wrongLength => "wrongLength"
  | .wrongValue => "wrongValue"
  | .noCreation => "noCreation"
  | .inconsistentValue => "inconsistentValue"
  | .commitFailed => "commitFailed"
  | .undoFailed => "undoFailed"
  | .notWritable => "notWritable"

/-- The status with a name. -/
def ofName? (name : String) : Option ErrorStatus := all.find? fun s => s.name = name

/-- A status as shown to people: name and code. -/
def text (s : ErrorStatus) : String :=
  String.join [s.name, "(", toString s.code, ")"]

/-- The name of a status in diagnostics, which is capitalised. -/
def debugText (s : ErrorStatus) : String := s.name.capitalize

/-- Nothing went wrong. -/
def isSuccess (s : ErrorStatus) : Bool := s = .noError

end ErrorStatus

/-- Why a binding, or a whole request, is refused. -/
inductive Refusal where
  /-- A length lies outside the permitted range. -/
  | wrongLength (actual min max : Nat)
  /-- A value of the right type and length is not permitted. -/
  | wrongValue (reason : String)
  /-- A value has another base type than the object. -/
  | wrongType (expected actual : BaseType)
  /-- A value does not agree with the state of the agent. -/
  | inconsistentValue (reason : String)
  /-- The requester may not do this. -/
  | noAccess (reason : String)
  /-- A value is not built the way the object needs. -/
  | malformed (reason : String)
  /-- No request can write the object. -/
  | notWritable
  /-- There is no such object, and it cannot be made. -/
  | noCreation
  /-- A value passed all checks and could not be stored. -/
  | commitFailed (reason : String)
  /-- A request carries more bindings than the agent takes. -/
  | tooBig (count limit : Nat)
  deriving DecidableEq

namespace Refusal

/-- The status that reports a refusal. -/
def status : Refusal → ErrorStatus
  | .wrongLength .. => .wrongLength
  | .wrongValue _ => .wrongValue
  | .wrongType .. => .wrongType
  | .inconsistentValue _ => .inconsistentValue
  | .noAccess _ => .noAccess
  | .malformed _ => .wrongLength
  | .notWritable => .notWritable
  | .noCreation => .noCreation
  | .commitFailed _ => .commitFailed
  | .tooBig .. => .tooBig

/-- The wording of a refusal. -/
def message : Refusal → String
  | .wrongLength actual min max =>
    String.join
      ["length ", toString actual, " outside [", toString min, ", ", toString max, "]"]
  | .wrongValue reason => String.join ["wrong value: ", reason]
  | .wrongType expected actual =>
    String.join ["wrong type: expected ", expected.text, ", got ", actual.text]
  | .inconsistentValue reason => String.join ["inconsistent value: ", reason]
  | .noAccess reason => String.join ["no access: ", reason]
  | .malformed reason => String.join ["malformed value: ", reason]
  | .notWritable => "object is not writable"
  | .noCreation => "object does not exist and cannot be created"
  | .commitFailed reason => String.join ["commit failed: ", reason]
  | .tooBig count limit =>
    String.join ["request too big: ", toString count, " bindings, limit ", toString limit]

/-- The kind of a refusal, as diagnostics name it. -/
def kind : Refusal → String
  | .wrongLength .. => "WrongLength"
  | .wrongValue _ => "WrongValue"
  | .wrongType .. => "WrongType"
  | .inconsistentValue _ => "InconsistentValue"
  | .noAccess _ => "NoAccess"
  | .malformed _ => "Malformed"
  | .notWritable => "NotWritable"
  | .noCreation => "NoCreation"
  | .commitFailed _ => "CommitFailed"
  | .tooBig .. => "TooBig"

/-- A refusal's structure, for diagnostics. -/
def debugText (e : Refusal) : String :=
  match e with
  | .wrongLength actual min max =>
    String.join
      [e.kind, " \x7b actual: ", toString actual, ", min: ", toString min, ", max: ",
        toString max, " \x7d"]
  | .wrongType expected actual =>
    String.join
      [e.kind, " \x7b expected: ", expected.debugText, ", actual: ", actual.debugText, " \x7d"]
  | .tooBig count limit =>
    String.join [e.kind, " \x7b count: ", toString count, ", limit: ", toString limit, " \x7d"]
  | .malformed reason =>
    String.join [e.kind, " \x7b reason: ", Text.quoted reason, " \x7d"]
  | .wrongValue reason | .inconsistentValue reason | .noAccess reason | .commitFailed reason =>
    String.join [e.kind, "(", Text.quoted reason, ")"]
  | .notWritable | .noCreation => e.kind

end Refusal

/-- Why a write does not go on. -/
inductive WriteFailure where
  /-- The binding is refused. -/
  | refused (error : Refusal)
  /-- The agent halts: a number that it computes does not fit in a machine word. -/
  | halted
  deriving DecidableEq

end SnmpSet
