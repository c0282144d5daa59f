import SnmpSet.Oid.Basic
import SnmpSet.Text.Decimal
import SnmpSet.Text.Segments

/-!
# Dotted decimal text

An object identifier is written as its sub-identifiers in decimal, joined by
single dots. Reading also takes one leading dot, and leading zeros or one plus
sign in a segment; the leftmost bad segment is the one reported.
-/

namespace SnmpSet

namespace Oid

/-- The dotted text as characters. -/
def dotted (o : Oid) : List Char :=
  List.intercalate ['.'] (o.subIds.map fun s => Text.decimal s.toNat)

/-- The dotted text. The root has the empty text. -/
def text (o : Oid) : String := String.ofList o.dotted

instance : ToString Oid := ⟨text⟩

/-- One segment as a sub-identifier. -/
def readSubId (segment : List Char) : Except OidDefect UInt32 :=
  if segment = [] then .error .emptySegment
  else
    match Text.readUnsigned segment with
    | some n => if n < UInt32.size then .ok (UInt32.ofNat n) else .error (.badSegment segment)
    | none => .error (.badSegment segment)

/-- A text without its leading dot, if it has one. -/
def dropLeadingDot : List Char → List Char
  | '.' :: cs => cs
  | cs => cs

/-- The identifier that a dotted text denotes. -/
def readChars (cs : List Char) : Except OidDefect Oid :=
  match dropLeadingDot cs with
  | [] => .error .blank
  | cs => ((Text.segments '.' cs).mapM readSubId).map Oid.mk

/-- The identifier that a dotted string denotes. -/
def ofText (s : String) : Except OidDefect Oid := readChars s.toList

/-- The text that shows an identifier's structure in diagnostics. -/
def debugText (o : Oid) : String :=
  String.join ["Oid([", ", ".intercalate (o.subIds.map fun s => toString s.toNat), "])"]

end Oid

/-- The wording of a defect. -/
def OidDefect.message : OidDefect → String
  | .blank => "object identifier is empty"
  | .emptySegment => "object identifier contains empty sub-identifier"
  | .badSegment segment =>
    String.join ["invalid sub-identifier: ", String.ofList segment]
  | .notUnder oid base => String.join ["'", oid.text, "' is not under '", base.text, "'"]
  | .cutShort position =>
    String.join ["index component at position ", toString position, " is truncated"]
  | .notOctet subId =>
    String.join ["index sub-identifier ", toString subId, " is not an octet"]

end SnmpSet
