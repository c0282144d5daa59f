/-!
# Object identifiers

An object identifier is a sequence of 32-bit sub-identifiers that names a node
of the registration tree. Identifiers are ordered lexicographically, so that a
subtree is a contiguous interval that starts at its root.
-/

namespace SnmpSet

/-- A node of the registration tree, as the path of sub-identifiers from the root. -/
@[ext] structure Oid where
  /-- The sub-identifiers, outermost first. -/
  subIds : List UInt32
  deriving DecidableEq, Hashable, Inhabited

namespace Oid

/-- The root, which has no sub-identifiers. -/
def empty : Oid := ⟨[]⟩

/-- The number of sub-identifiers. -/
def length (o : Oid) : Nat := o.subIds.length

/-- The innermost sub-identifier. -/
def last? (o : Oid) : Option UInt32 := o.subIds.getLast?

/-- The node one step below. -/
def child (o : Oid) (subId : UInt32) : Oid := ⟨o.subIds ++ [subId]⟩

/-- The node reached by following another path from here. -/
def append (o below : Oid) : Oid := ⟨o.subIds ++ below.subIds⟩

/-- One node lies on the path to another, or is that node. -/
def isPrefixOf (o other : Oid) : Bool := o.subIds.isPrefixOf other.subIds

instance : LT Oid := ⟨fun a b => a.subIds < b.subIds⟩

instance : LE Oid := ⟨fun a b => a.subIds ≤ b.subIds⟩

instance (a b : Oid) : Decidable (a < b) := inferInstanceAs (Decidable (a.subIds < b.subIds))

instance (a b : Oid) : Decidable (a ≤ b) := inferInstanceAs (Decidable (a.subIds ≤ b.subIds))

instance : Ord Oid := ⟨fun a b => if a < b then .lt else if a = b then .eq else .gt⟩

theorem lt_def {a b : Oid} : a < b ↔ a.subIds < b.subIds := Iff.rfl

protected theorem lt_irrefl (a : Oid) : ¬a < a := List.lt_irrefl a.subIds

protected theorem lt_trans {a b c : Oid} (hab : a < b) (hbc : b < c) : a < c :=
  List.lt_trans (α := UInt32) hab hbc

/-- Two different identifiers are ordered one way or the other. -/
theorem lt_or_gt_of_ne {a b : Oid} (hne : a ≠ b) : a < b ∨ b < a := by
  by_cases h : a < b
  · exact .inl h
  · right
    have hle : b.subIds ≤ a.subIds := List.not_lt.mp h
    rcases List.le_iff_lt_or_eq.mp hle with hlt | heq
    · exact hlt
    · exact absurd (Oid.ext heq.symm) hne

instance : Trans (α := Oid) (· < ·) (· < ·) (· < ·) := ⟨Oid.lt_trans⟩

instance : Std.Irrefl (α := Oid) (· < ·) := ⟨Oid.lt_irrefl⟩

instance : Std.Trichotomous (α := Oid) (· < ·) where
  trichotomous _ _ hab hba := Decidable.byContradiction fun hne =>
    (lt_or_gt_of_ne hne).elim hab hba

end Oid

/-- Why a text or an operation yields no object identifier. -/
inductive OidDefect where
  /-- The text has no sub-identifiers at all. -/
  | blank
  /-- Two dots meet, or a dot ends the text. -/
  | emptySegment
  /-- A segment is not an unsigned 32-bit numeral. -/
  | badSegment (segment : List Char)
  /-- An identifier lies outside the subtree it was expected in. -/
  | notUnder (oid base : Oid)
  /-- An index component that starts here runs past the end. -/
  | cutShort (position : Nat)
  /-- A sub-identifier of an index component exceeds 255. -/
  | notOctet (subId : UInt32)
  deriving DecidableEq

/-- The path from one node to another node of its subtree. -/
def Oid.relativeTo (o base : Oid) : Except OidDefect Oid :=
  if base.isPrefixOf o then .ok ⟨o.subIds.drop base.length⟩ else .error (.notUnder o base)

end SnmpSet
