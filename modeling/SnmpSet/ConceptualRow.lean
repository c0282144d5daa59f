import SnmpSet.SortedMap
import SnmpSet.Value.Basic

/-!
# Rows of conceptual tables

A row has an index and at most one value in each column. The cell of a column
is addressed by the table's entry, the column and the index, in that order.
-/

namespace SnmpSet

/-- One row of a table. -/
structure ConceptualRow where
  /-- The index values of the row, as sub-identifiers. -/
  index : Oid
  /-- The values by column. -/
  cells : SortedMap UInt32 Value

namespace ConceptualRow

/-- A row without cells. -/
def empty (index : Oid) : ConceptualRow := ⟨index, .empty⟩

/-- The value in a column. -/
def get? (row : ConceptualRow) (column : UInt32) : Option Value := row.cells.get? column

/-- The row with a column set. -/
def put (row : ConceptualRow) (column : UInt32) (v : Value) : ConceptualRow :=
  { row with cells := row.cells.insert column v }

/-- The row with a column set, and what the column held before. -/
def replace (row : ConceptualRow) (column : UInt32) (v : Value) : ConceptualRow × Option Value :=
  (row.put column v, row.get? column)

/-- The address of a column's cell. -/
def address (row : ConceptualRow) (entry : Oid) (column : UInt32) : Oid :=
  (entry.child column).append row.index

end ConceptualRow

end SnmpSet
