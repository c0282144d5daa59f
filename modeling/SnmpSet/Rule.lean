import SnmpSet.Refusal

/-!
# Validation rules

A rule judges a proposed value beside the value it would replace. Each rule
belongs to one of two stages. The rules of a stage are asked in the order they
were attached, and the first refusal ends the questioning; a judgement records
whom it asked.
-/

namespace SnmpSet

/-- The two stages of validation. -/
inductive Stage where
  | prepare
  | check
  deriving DecidableEq

/-- A range of lengths, ends included. -/
structure LengthBounds where
  min : Nat
  max : Nat
  deriving DecidableEq

/-- The lengths of a display string. -/
def LengthBounds.displayString : LengthBounds := ⟨0, 255⟩

/-- Refuses a length outside the range. -/
def LengthBounds.check (range : LengthBounds) (actual : Nat) : Except Refusal Unit :=
  if actual < range.min ∨ range.max < actual then
    .error (.wrongLength actual range.min range.max)
  else .ok ()

/-- A range of integers, ends included. -/
structure IntegerBounds where
  min : Int32
  max : Int32
  deriving DecidableEq

/-- An octet that a display string may hold: printable ASCII, or one of carriage
return, line feed and tab. -/
def isDisplayOctet (b : UInt8) : Bool :=
  (0x20 ≤ b && b ≤ 0x7e) || b = 0x0d || b = 0x0a || b = 0x09

/-- A rule that an object can have. -/
inductive Rule where
  /-- Octet strings have a length in the range. -/
  | length (range : LengthBounds)
  /-- Octet strings hold display octets only. -/
  | displayString
  /-- Integers lie in the range. -/
  | integerRange (range : IntegerBounds)
  /-- A rule of the application's own, which sees the proposed and the previous
  value and answers with a refusal or not at all. -/
  | custom (stage : Stage) (refusal : Value → Value → Option Refusal)

namespace Rule

/-- The stage that a rule belongs to. -/
def stage : Rule → Stage
  | .length _ | .displayString => .prepare
  | .integerRange _ => .check
  | .custom stage _ => stage

/-- A rule of the application's own. -/
def isCustom : Rule → Bool
  | .custom .. => true
  | _ => false

/-- Why a rule refuses a proposed value, if it does. Values of a base type that
the rule is not about pass. -/
def refusal? (rule : Rule) (proposed previous : Value) : Option Refusal :=
  match rule, proposed with
  | .length range, .octets bytes =>
    match range.check bytes.length with
    | .error e => some e
    | .ok () => none
  | .displayString, .octets bytes =>
    (bytes.findIdx? fun b => !isDisplayOctet b).map fun position =>
      .wrongValue s!"non-printable octet at {position}"
  | .integerRange range, .integer n =>
    if n < range.min ∨ range.max < n then
      some (.wrongValue s!"{n.toInt} outside [{range.min.toInt}, {range.max.toInt}]")
    else none
  | .custom _ refusal, _ => refusal proposed previous
  | _, _ => none

end Rule

/-- The outcome of a validation, with the rules that were asked, in order. -/
structure Judgement (ε : Type) where
  verdict : Except ε Unit
  asked : List Rule

namespace Judgement

variable {ε : Type}

/-- A verdict that no rule was asked for. -/
def direct (verdict : Except ε Unit) : Judgement ε := ⟨verdict, []⟩

/-- Acceptance is subject to what comes next; a refusal stands. -/
def andThen (first : Judgement ε) (next : Unit → Judgement ε) : Judgement ε :=
  match first.verdict with
  | .error _ => first
  | .ok () => ⟨(next ()).verdict, first.asked ++ (next ()).asked⟩

/-- The judgement on a write that goes no further if it is refused. -/
def ofWrite (j : Judgement Refusal) : Judgement WriteFailure :=
  ⟨j.verdict.mapError .refused, j.asked⟩

end Judgement

/-- The rules of an object, in the order of their attachment. -/
structure RuleList where
  rules : List Rule

namespace RuleList

/-- No rules. -/
def empty : RuleList := ⟨[]⟩

/-- The list with one more rule, which comes last. -/
def push (l : RuleList) (rule : Rule) : RuleList := ⟨l.rules ++ [rule]⟩

/-- Asks rules one by one until one refuses. -/
def ask (proposed previous : Value) : List Rule → Judgement Refusal
  | [] => .direct (.ok ())
  | rule :: rules =>
    match rule.refusal? proposed previous with
    | some e => ⟨.error e, [rule]⟩
    | none =>
      let rest := ask proposed previous rules
      ⟨rest.verdict, rule :: rest.asked⟩

/-- Asks the rules of one stage. -/
def judge (l : RuleList) (stage : Stage) (proposed previous : Value) : Judgement Refusal :=
  ask proposed previous (l.rules.filter fun rule => rule.stage = stage)

/-- How a list of rules is shown in diagnostics. -/
def debugText (l : RuleList) : String :=
  String.join ["ValidationPipeline \x7b rules: ", toString l.rules.length, " \x7d"]

end RuleList

end SnmpSet
