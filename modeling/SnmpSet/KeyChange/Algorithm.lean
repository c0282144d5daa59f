import SnmpSet.Digest.Sha256
import SnmpSet.Digest.Sha512
import SnmpSet.KeyChange.Protocol

/-!
# The key-change algorithms of the agent

Each algorithm is a SHA-2 digest with the identifier registered for the
authentication protocol that uses it.
-/

namespace SnmpSet

/-- A digest that key-change columns can be configured with. -/
inductive AuthAlgorithm where
  | sha224
  | sha256
  | sha384
  | sha512
  deriving DecidableEq

namespace AuthAlgorithm

/-- All algorithms. -/
def all : List AuthAlgorithm := [.sha224, .sha256, .sha384, .sha512]

/-- The name of an algorithm. -/
def name : AuthAlgorithm → String
  | .sha224 => "sha224"
  | .sha256 => "sha256"
  | .sha384 => "sha384"
  | .sha512 => "sha512"

/-- The algorithm with exactly this name. -/
def ofName? (name : String) : Option AuthAlgorithm := all.find? fun a => a.name = name

/-- The algorithm with this name in any mixture of ASCII cases, or a message that
shows the name in lower case. -/
def ofText (text : String) : Except String AuthAlgorithm :=
  let name := String.ofList (text.toList.map Char.toLower)
  match ofName? name with
  | some a => .ok a
  | none => .error s!"unknown key-change algorithm: {name}"

/-- The name of an algorithm in diagnostics, which is capitalised. -/
def debugText (a : AuthAlgorithm) : String := a.name.capitalize

/-- The identifier registered for an algorithm's protocol. -/
def oid (a : AuthAlgorithm) : Oid :=
  let protocols : Oid := ⟨[1, 3, 6, 1, 6, 3, 10, 1, 1]⟩
  protocols.child <|
    match a with
    | .sha224 => 4
    | .sha256 => 5
    | .sha384 => 6
    | .sha512 => 7

/-- The digest of an algorithm. -/
def digest : AuthAlgorithm → Digest
  | .sha224 => Sha2.sha224
  | .sha256 => Sha2.sha256
  | .sha384 => Sha2.sha384
  | .sha512 => Sha2.sha512

/-- The protocol of an algorithm. -/
def protocol (a : AuthAlgorithm) : KeyProtocol := .ofDigest a.oid a.digest

/-- How an algorithm's protocol is shown in diagnostics. -/
def protocolDebugText (a : AuthAlgorithm) : String :=
  String.join ["DigestKeyChange \x7b id: ", a.oid.debugText, " \x7d"]

end AuthAlgorithm

end SnmpSet
