import SnmpSet.KeyChange.Algorithm
import SnmpSet.KeyChange.Column
import SnmpSet.Proofs.Oid.Index

/-!
# The user that a row index names

The row of a key is indexed by the identifier of the agent and the name of the user. The
owner of a key is told from an index that starts with these two components. What follows
them is not looked at, so an index with more sub-identifiers names a user too.
-/

namespace SnmpSet

namespace Oid

variable {rowIndex rest rest' : Oid} {engine user : List UInt8}

/-- A row index has an identifier of an agent and the name of a user as its components, and
then a rest. -/
def IndexesUser (rowIndex : Oid) (user : List UInt8) (rest : Oid) : Prop :=
  ∃ engine : List UInt8, engine.length < 2 ^ 32 ∧ user.length < 2 ^ 32 ∧
    rowIndex = ((empty.appendOctets engine false).appendOctets user false).append rest

/-- The sub-identifiers of two components and a rest. -/
theorem eq_append_iff :
    rowIndex = ((empty.appendOctets engine false).appendOctets user false).append rest ↔
      rowIndex.subIds = octetComponent engine ++ (octetComponent user ++ rest.subIds) := by
  rw [Oid.ext_iff, ← List.append_assoc]
  rfl

/-- The first component of an index is read at its start. -/
theorem octetsAt_zero (hengine : engine.length < 2 ^ 32)
    (hsubIds : rowIndex.subIds = octetComponent engine ++ (octetComponent user ++ rest.subIds)) :
    rowIndex.octetsAt 0 = .ok (engine, 0 + 1 + engine.length) :=
  octetsAt_eq_ok_iff.mpr ⟨hengine, rfl, [], octetComponent user ++ rest.subIds, rfl, hsubIds⟩

/-- An index tells what follows the components of a user. -/
theorem IndexesUser.rest_unique (hindex : rowIndex.IndexesUser user rest)
    (hindex' : rowIndex.IndexesUser user rest') : rest = rest' := by
  obtain ⟨engine, hengine, -, hrowIndex⟩ := hindex
  obtain ⟨engine', hengine', -, hrowIndex'⟩ := hindex'
  rw [eq_append_iff] at hrowIndex hrowIndex'
  have hread := (octetsAt_zero hengine hrowIndex).symm.trans (octetsAt_zero hengine' hrowIndex')
  obtain rfl : engine = engine' := congrArg Prod.fst (Except.ok.inj hread)
  rw [hrowIndex] at hrowIndex'
  exact Oid.ext (List.append_cancel_left (List.append_cancel_left hrowIndex'))

end Oid

namespace KeyChangeColumn

variable {column : KeyChangeColumn} {user : List UInt8} {rest : Oid}

/-- An index that starts with two components names the user of the second one. -/
theorem owner_of_indexesUser (hindex : column.rowIndex.IndexesUser user rest) :
    column.owner = .ok user := by
  obtain ⟨engine, hengine, huser, hrowIndex⟩ := hindex
  have hsubIds := Oid.eq_append_iff.mp hrowIndex
  have hsecond : column.rowIndex.octetsAt (0 + 1 + engine.length) =
      .ok (user, 0 + 1 + engine.length + 1 + user.length) := by
    refine Oid.octetsAt_eq_ok_iff.mpr
      ⟨huser, rfl, Oid.octetComponent engine, rest.subIds, ?_, hsubIds⟩
    rw [Oid.length_octetComponent]
    omega
  simp only [owner, Oid.octetsAt_zero hengine hsubIds, hsecond]
  rfl

/-- A user is named only by an index that starts with two components. -/
theorem exists_indexesUser_of_owner (howner : column.owner = .ok user) :
    ∃ rest, column.rowIndex.IndexesUser user rest := by
  unfold owner at howner
  split at howner
  · cases howner
  · next engine next hfirst =>
    cases hsecond : column.rowIndex.octetsAt next with
    | error defect =>
      rw [hsecond] at howner
      cases howner
    | ok component =>
      obtain ⟨name, stop⟩ := component
      rw [hsecond] at howner
      obtain rfl : name = user := Except.ok.inj howner
      obtain ⟨hengine, rfl, front, behind, hfront, hsubIds⟩ :=
        Oid.octetsAt_eq_ok_iff.mp hfirst
      obtain ⟨huser, -, front', rest, hfront', hsubIds'⟩ := Oid.octetsAt_eq_ok_iff.mp hsecond
      -- The first component starts the index, so it is all that stands before the second one.
      obtain rfl : front = [] := List.length_eq_zero_iff.mp hfront
      have hlength : front'.length = (Oid.octetComponent engine).length := by
        rw [hfront', Oid.length_octetComponent]
        omega
      rw [List.nil_append, hsubIds'] at hsubIds
      obtain ⟨rfl, -⟩ := List.append_inj hsubIds hlength
      exact ⟨⟨rest⟩, engine, hengine, huser, Oid.eq_append_iff.mpr hsubIds'⟩

/-- An index names a user just if it starts with two components. -/
theorem owner_eq_ok_iff :
    column.owner = .ok user ↔ ∃ rest, column.rowIndex.IndexesUser user rest :=
  ⟨exists_indexesUser_of_owner, fun ⟨_, hindex⟩ => owner_of_indexesUser hindex⟩

/-- An index that starts with two components names the user of the second one, and every
other index is refused. So just where nothing follows the two components, the user is
named only if these are the whole index. -/
theorem owner_tells_index (column : KeyChangeColumn) :
    (∀ user, column.owner = .ok user ↔ ∃ rest, column.rowIndex.IndexesUser user rest) ∧
    ((∃ defect, column.owner = .error defect) ↔
      ∀ user rest, ¬column.rowIndex.IndexesUser user rest) ∧
    ∀ user, (column.owner = .ok user ↔ column.rowIndex.IndexesUser user .empty) ↔
      ∀ rest, column.rowIndex.IndexesUser user rest → rest = .empty := by
  refine ⟨fun user => owner_eq_ok_iff, ?refused, fun user => ⟨fun hexact rest hindex => ?_, ?_⟩⟩
  case refused =>
    constructor
    · rintro ⟨defect, hdefect⟩ user rest hindex
      rw [owner_of_indexesUser hindex] at hdefect
      cases hdefect
    · intro hnone
      cases howner : column.owner with
      | error defect => exact ⟨defect, rfl⟩
      | ok user =>
        obtain ⟨rest, hindex⟩ := exists_indexesUser_of_owner howner
        exact absurd hindex (hnone user rest)
  · exact hindex.rest_unique (hexact.mp (owner_of_indexesUser hindex))
  · intro hend
    rw [owner_eq_ok_iff]
    refine ⟨fun ⟨rest, hindex⟩ => hend rest hindex ▸ hindex, fun hindex => ⟨.empty, hindex⟩⟩

/-- A column whose row has one more sub-identifier behind the name of the user. -/
def overlongColumn : KeyChangeColumn := create AuthAlgorithm.sha224.protocol ⟨[1, 5, 1, 97, 5]⟩

/-- Not every index that names a user is made of the two components alone. -/
theorem not_forall_owner_exact :
    ¬ ∀ (column : KeyChangeColumn) (user : List UInt8),
      column.owner = .ok user ↔ column.rowIndex.IndexesUser user .empty := by
  intro h
  have hwhole := (h overlongColumn [97]).mp rfl
  have hlonger : overlongColumn.rowIndex.IndexesUser [97] ⟨[5]⟩ :=
    ⟨[5], by decide, by decide, rfl⟩
  have hsame := hwhole.rest_unique hlonger
  revert hsame
  decide

end KeyChangeColumn

end SnmpSet
