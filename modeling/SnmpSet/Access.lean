import SnmpSet.Oid.Basic

/-!
# Requesters and access policies

A request may come with an authenticated principal. Whether it may write an
object is the verdict of a policy that the agent is given.
-/

namespace SnmpSet

/-- The security model that a request arrived under. -/
inductive SecurityModel where
  | any
  | snmpV1
  | snmpV2c
  | usm
  | tsm
  deriving DecidableEq

namespace SecurityModel

/-- All security models in the order of their codes. -/
def all : List SecurityModel := [.any, .snmpV1, .snmpV2c, .usm, .tsm]

/-- The registered number of a security model. -/
def code : SecurityModel → Nat
  | .any => 0
  | .snmpV1 => 1
  | .snmpV2c => 2
  | .usm => 3
  | .tsm => 4

/-- The name of a security model in stored data. -/
def name : SecurityModel → String
  | .any => "any"
  | .snmpV1 => "snmp_v1"
  | .snmpV2c => "snmp_v2c"
  | .usm => "usm"
  | .tsm => "tsm"

/-- The security model with a name. -/
def ofName? (name : String) : Option SecurityModel := all.find? fun m => m.name = name

/-- The name of a security model in diagnostics. -/
def debugText : SecurityModel → String
  | .any => "Any"
  | .snmpV1 => "SnmpV1"
  | .snmpV2c => "SnmpV2c"
  | .usm => "Usm"
  | .tsm => "Tsm"

end SecurityModel

/-- The authenticated sender of a request. -/
structure Principal where
  /-- The security name, as octets. -/
  identity : List UInt8
  model : SecurityModel
  deriving DecidableEq

/-- Who sends a request: a principal, or nobody in particular. -/
abbrev Requester := Option Principal

/-- A verdict on every requester and object. -/
structure WritePolicy where
  allows : Requester → Oid → Bool

namespace WritePolicy

/-- Every requester may write every object. -/
def grantAll : WritePolicy := ⟨fun _ _ => true⟩

/-- Every requester may write the objects of some subtrees, and no others. -/
def subtrees (roots : List Oid) : WritePolicy :=
  ⟨fun _ oid => roots.any fun root => root.isPrefixOf oid⟩

end WritePolicy

end SnmpSet
