/-!
# Phases of one binding in a batch

A binding is prepared, checked and committed in this order. From each of these
it can fail, a committed one can be undone, and every one is cleaned up at the
end. No phase is entered twice.
-/

namespace SnmpSet

/-- How far one binding of a batch has come. -/
inductive Phase where
  | created
  | prepared
  | checked
  | committed
  | cleaned
  | failed
  | undoApplied
  deriving DecidableEq

namespace Phase

/-- All phases. -/
def all : List Phase :=
  [.created, .prepared, .checked, .committed, .cleaned, .failed, .undoApplied]

/-- The name of a phase. -/
def text : Phase → String
  | .created => "Created"
  | .prepared => "Prepared"
  | .checked => "Checked"
  | .committed => "Committed"
  | .cleaned => "Cleaned"
  | .failed => "Failed"
  | .undoApplied => "UndoApplied"

instance : ToString Phase := ⟨text⟩

/-- The phase with a name. -/
def ofText? (text : String) : Option Phase := all.find? fun p => p.text = text

/-- The phases that may come next. -/
def next : Phase → List Phase
  | .created => [.prepared, .failed, .cleaned]
  | .prepared => [.checked, .failed, .cleaned]
  | .checked => [.committed, .failed, .cleaned]
  | .committed => [.undoApplied, .failed, .cleaned]
  | .undoApplied => [.failed, .cleaned]
  | .failed => [.cleaned]
  | .cleaned => []

/-- Nothing comes after this phase. -/
def isFinal (p : Phase) : Bool := p = .cleaned

end Phase

/-- A step between two phases that the phases do not allow. -/
structure StepError where
  source : Phase
  target : Phase
  deriving DecidableEq

/-- The wording of a step error. -/
def StepError.message (e : StepError) : String :=
  String.join ["illegal transition ", e.source.text, " -> ", e.target.text]

/-- Refuses a step that the phases do not allow. -/
def Phase.step (source target : Phase) : Except StepError Unit :=
  if target ∈ source.next then .ok () else .error ⟨source, target⟩

end SnmpSet
