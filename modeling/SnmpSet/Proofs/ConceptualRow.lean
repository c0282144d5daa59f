import Mathlib.Data.List.Dedup
import Mathlib.Data.List.Induction
import SnmpSet.Proofs.SortedMap
import SnmpSet.TimeStamp

/-!
# Edits of a row

The columns of a row are set, directly or to the reading of a stamp's clock. A column holds what
was written last into it, and the row has a cell for each column that was written and for no
other. A stamp that is attached to no clock writes nothing. The cells of a table have different
addresses.
-/

namespace SnmpSet

namespace ConceptualRow

/-- What can be done to a row. -/
inductive Edit where
  /-- A column is set. -/
  | put (column : UInt32) (v : Value)
  /-- A column is set, and what it held before is handed out. -/
  | replace (column : UInt32) (v : Value)
  /-- A column is set to what a stamp's clock reads. -/
  | stamp (stamp : TimeStamp) (readings : Readings) (entry : Oid) (column : UInt32)

/-- What an edit writes, with the column. A stamp writes if it is attached to a clock. -/
def Edit.written? : Edit → Option (UInt32 × Value)
  | .put column v | .replace column v => some (column, v)
  | .stamp s readings _ column =>
    s.clock.map fun clock => (column, .timeTicks (readings clock))

/-- The row after an edit. -/
def after (row : ConceptualRow) : Edit → ConceptualRow
  | .put column v => row.put column v
  | .replace column v => (row.replace column v).1
  | .stamp stamp readings entry column =>
    match (stamp.stampCell readings entry column).run row with
    | .ok _ row' | .error _ row' => row'

/-- The row after edits. -/
def afterAll (row : ConceptualRow) (edits : List Edit) : ConceptualRow := edits.foldl after row

/-- What edits write, the first write first. -/
def writes (edits : List Edit) : List (UInt32 × Value) := edits.filterMap Edit.written?

/-- What edits write last into a column. -/
def latest? (column : UInt32) (edits : List Edit) : Option Value :=
  (((writes edits).filter fun write => write.1 = column).map Prod.snd).getLast?

variable {row : ConceptualRow} {edits : List Edit} {edit : Edit} {column : UInt32} {v : Value}

/-! ## One edit -/

/-- A column that was just set has its new value. -/
@[simp] theorem get?_put_self (row : ConceptualRow) (column : UInt32) (v : Value) :
    (row.put column v).get? column = some v := SortedMap.get?_insert_self row.cells column v

/-- Setting a column leaves the others alone. -/
theorem get?_put_of_ne {other : UInt32} (hne : other ≠ column) (row : ConceptualRow) (v : Value) :
    (row.put column v).get? other = row.get? other := SortedMap.get?_insert_of_ne hne row.cells v

/-- A stamp that is attached to a clock writes what that reads. -/
theorem stampCell_of_attached {stamp : TimeStamp} {clock : Clock}
    (hclock : stamp.clock = some clock) (readings : Readings) (entry : Oid) (row : ConceptualRow)
    (column : UInt32) : (stamp.stampCell readings entry column).run row =
      .ok (readings clock) (row.put column (.timeTicks (readings clock))) := by
  simp only [TimeStamp.stampCell, TimeStamp.now, hclock]
  rfl

/-- A stamp that is attached to no clock is at fault, at the address of the cell, and leaves the
row as it was. -/
theorem stampCell_of_unattached {stamp : TimeStamp} (hclock : stamp.clock = none)
    (readings : Readings) (entry : Oid) (row : ConceptualRow) (column : UInt32) :
    (stamp.stampCell readings entry column).run row =
      .error (.unattached (row.address entry column) "time source") row := by
  simp only [TimeStamp.stampCell, TimeStamp.now, hclock]
  rfl

/-- An edit sets the column that it writes into. -/
theorem after_of_written (hwritten : edit.written? = some (column, v)) :
    row.after edit = row.put column v := by
  cases edit with
  | put _ _ | replace _ _ =>
    obtain ⟨rfl, rfl⟩ := Prod.mk.inj (Option.some.inj hwritten)
    rfl
  | stamp stamp readings entry _ =>
    obtain ⟨clock, hclock, hwrite⟩ := Option.map_eq_some_iff.mp hwritten
    obtain ⟨rfl, rfl⟩ := Prod.mk.inj hwrite
    simp only [after, stampCell_of_attached hclock]

/-- An edit that writes nothing leaves the row as it was. -/
theorem after_of_not_written (hnone : edit.written? = none) : row.after edit = row := by
  cases edit with
  | put _ _ | replace _ _ => cases hnone
  | stamp stamp readings entry column =>
    have hclock : stamp.clock = none := Option.map_eq_none_iff.mp hnone
    simp only [after, stampCell_of_unattached hclock]

/-! ## Edits one after another -/

theorem afterAll_concat (row : ConceptualRow) (edits : List Edit) (edit : Edit) :
    row.afterAll (edits ++ [edit]) = (row.afterAll edits).after edit := List.foldl_concat ..

theorem writes_concat (edits : List Edit) (edit : Edit) :
    writes (edits ++ [edit]) = writes edits ++ edit.written?.toList := by
  rw [writes, List.filterMap_append, writes]
  cases h : edit.written? <;> simp [h]

/-- The last edit counts for the column that it writes into. -/
theorem latest?_concat_self (hwritten : edit.written? = some (column, v)) (edits : List Edit) :
    latest? column (edits ++ [edit]) = some v := by
  simp [latest?, writes_concat, hwritten]

/-- The last edit does not count for a column that it does not write into. -/
theorem latest?_concat_of_ne (hnot : ∀ v, edit.written? ≠ some (column, v)) (edits : List Edit) :
    latest? column (edits ++ [edit]) = latest? column edits := by
  cases hwritten : edit.written? with
  | none => simp [latest?, writes_concat, hwritten]
  | some write =>
    have hne : write.1 ≠ column := by
      rintro rfl
      exact hnot write.2 hwritten
    simp [latest?, writes_concat, hwritten, hne]

/-- A column has a latest value just if something was written into it. -/
theorem isSome_latest?_iff :
    (latest? column edits).isSome ↔ column ∈ (writes edits).map Prod.fst := by
  rw [latest?, List.getLast?_isSome]
  simp only [ne_eq, List.map_eq_nil_iff, List.filter_eq_nil_iff, decide_eq_true_eq, not_forall,
    not_not, List.mem_map, exists_prop]

/-- Edits leave the index of a row alone. -/
theorem index_afterAll (row : ConceptualRow) (edits : List Edit) :
    (row.afterAll edits).index = row.index := by
  induction edits using List.reverseRecOn with
  | nil => rfl
  | append_singleton edits edit ih =>
    rw [afterAll_concat, ← ih]
    cases hwritten : edit.written? with
    | none => rw [after_of_not_written hwritten]
    | some write =>
      rw [after_of_written hwritten]
      rfl

/-- A column of a row that was empty holds what was written last into it. The induction takes the
last edit off, which alone decides about the column that it writes into. -/
theorem get?_afterAll (index : Oid) (edits : List Edit) (column : UInt32) :
    ((empty index).afterAll edits).get? column = latest? column edits := by
  induction edits using List.reverseRecOn with
  | nil => rfl
  | append_singleton edits edit ih =>
    rw [afterAll_concat]
    cases hwritten : edit.written? with
    | none =>
      rw [after_of_not_written hwritten, ih, latest?_concat_of_ne (by simp [hwritten])]
    | some write =>
      obtain ⟨target, v⟩ := write
      rw [after_of_written hwritten]
      by_cases heq : column = target
      · subst heq
        rw [get?_put_self, latest?_concat_self hwritten]
      · have hnot : ∀ w, edit.written? ≠ some (column, w) := by
          intro w hw
          obtain ⟨rfl, -⟩ := Prod.mk.inj (Option.some.inj (hw.symm.trans hwritten))
          exact heq rfl
        rw [get?_put_of_ne heq, ih, latest?_concat_of_ne hnot]

/-- The columns of the cells are those that were written into. -/
theorem mem_keys_afterAll (index : Oid) (edits : List Edit) (column : UInt32) :
    column ∈ ((empty index).afterAll edits).cells.keys ↔ column ∈ (writes edits).map Prod.fst := by
  rw [← SortedMap.contains_iff_mem_keys, ← isSome_latest?_iff, ← get?_afterAll index]
  rfl

/-- There are as many cells as columns that were written into. -/
theorem size_afterAll (index : Oid) (edits : List Edit) :
    ((empty index).afterAll edits).cells.size = ((writes edits).map Prod.fst).dedup.length := by
  have hperm : ((empty index).afterAll edits).cells.keys.Perm
      ((writes edits).map Prod.fst).dedup := by
    refine (List.perm_ext_iff_of_nodup (SortedMap.nodup_keys _) (List.nodup_dedup _)).mpr ?_
    intro column
    rw [List.mem_dedup]
    exact mem_keys_afterAll index edits column
  rw [SortedMap.size_eq]
  exact hperm.length_eq

/-! ## Addresses of cells -/

/-- The cells of a table have different addresses if they are in different columns or rows. -/
theorem address_eq_iff {row row' : ConceptualRow} {entry : Oid} {column column' : UInt32} :
    row.address entry column = row'.address entry column' ↔
      column = column' ∧ row.index = row'.index := by
  constructor
  · intro heq
    have hsubIds := congrArg Oid.subIds heq
    have hsplit : entry.subIds ++ column :: row.index.subIds =
        entry.subIds ++ column' :: row'.index.subIds := by
      simpa [address, Oid.child, Oid.append] using hsubIds
    obtain ⟨hcolumn, hindex⟩ := List.cons_eq_cons.mp (List.append_cancel_left hsplit)
    exact ⟨hcolumn, Oid.ext hindex⟩
  · rintro ⟨rfl, hindex⟩
    rw [address, address, hindex]

/-! ## What a row tells -/

/-- What a row tells of the edits that were made since it was empty. -/
structure TellsEdits (index : Oid) (edits : List Edit) (row : ConceptualRow) : Prop where
  index_eq : row.index = index
  /-- A column holds what was written last into it. -/
  get?_eq : ∀ column, row.get? column = latest? column edits
  /-- The cells are in the order of their columns, each column at most once. -/
  ascending : row.cells.entries.Pairwise fun a b => a.1 < b.1
  /-- The cells hold what was written last. -/
  mem_cells_iff : ∀ column v, (column, v) ∈ row.cells.entries ↔ latest? column edits = some v
  /-- There are cells for just the columns that were written into. -/
  mem_columns_iff : ∀ column, column ∈ row.cells.keys ↔ column ∈ (writes edits).map Prod.fst
  size_eq : row.cells.size = ((writes edits).map Prod.fst).dedup.length
  /-- Replacing a value hands out the one that was written last before. -/
  replaced : ∀ column v, (row.replace column v).2 = latest? column edits
  /-- A stamp that is attached to a clock writes what that reads into its own column, and leaves
  the others alone. -/
  stamp_attached : ∀ (stamp : TimeStamp) clock readings entry column, stamp.clock = some clock →
    ∃ row', (stamp.stampCell readings entry column).run row = .ok (readings clock) row' ∧
      row'.index = row.index ∧ row'.get? column = some (.timeTicks (readings clock)) ∧
      ∀ other, other ≠ column → row'.get? other = row.get? other
  /-- A stamp that is attached to no clock is at fault at the address of the cell, and leaves the
  row as it was. -/
  stamp_unattached : ∀ (stamp : TimeStamp) readings entry column, stamp.clock = none →
    (stamp.stampCell readings entry column).run row =
        .error (.unattached ((entry.child column).append index) "time source") row ∧
      row.after (.stamp stamp readings entry column) = row
  /-- A cell has the address of no other cell of the table. -/
  address_eq_iff : ∀ (row' : ConceptualRow) entry column column',
    row.address entry column = row'.address entry column' ↔
      column = column' ∧ row.index = row'.index

/-- A row that was empty tells the edits that were made to it, in whatever way its columns were
set. -/
theorem tells_edits (index : Oid) (edits : List Edit) :
    TellsEdits index edits ((empty index).afterAll edits) where
  index_eq := index_afterAll (empty index) edits
  get?_eq := get?_afterAll index edits
  ascending := SortedMap.ascending _
  mem_cells_iff column v := by
    rw [← SortedMap.get?_eq_some_iff, ← get?_afterAll index]
    rfl
  mem_columns_iff := mem_keys_afterAll index edits
  size_eq := size_afterAll index edits
  replaced column v := get?_afterAll index edits column
  stamp_attached stamp clock readings entry column hclock :=
    ⟨_, stampCell_of_attached hclock readings entry _ column, rfl, get?_put_self _ _ _,
      fun other hne => get?_put_of_ne hne _ _⟩
  stamp_unattached stamp readings entry column hclock := by
    have hfault := stampCell_of_unattached hclock readings entry
      ((empty index).afterAll edits) column
    rw [address, index_afterAll] at hfault
    exact ⟨hfault, after_of_not_written (Option.map_eq_none_iff.mpr hclock)⟩
  address_eq_iff row' entry column column' := ConceptualRow.address_eq_iff

/-- Column 4 is set and stamped, column 2 is set twice, and a stamp without a clock is used for
column 9. -/
def mixedEdits : List Edit :=
  [.put 4 (.integer 1), .replace 2 (.integer 5), .stamp ⟨none⟩ (fun _ => ⟨30⟩) ⟨[1, 3]⟩ 9,
    .stamp ⟨some ⟨0⟩⟩ (fun _ => ⟨70⟩) ⟨[1, 3]⟩ 4, .put 2 (.integer 6)]

/-- The row has cells in columns 2 and 4, with what came last. The stamp without a clock has left
nothing, and would be at fault at the same cell again. -/
theorem mixedEdits_told :
    ((empty ⟨[7]⟩).afterAll mixedEdits).get? 2 = some (.integer 6) ∧
    ((empty ⟨[7]⟩).afterAll mixedEdits).get? 4 = some (.timeTicks ⟨70⟩) ∧
    ((empty ⟨[7]⟩).afterAll mixedEdits).get? 9 = none ∧
    ((empty ⟨[7]⟩).afterAll mixedEdits).cells.size = 2 ∧
    ((⟨none⟩ : TimeStamp).stampCell (fun _ => ⟨30⟩) ⟨[1, 3]⟩ 9).run
        ((empty ⟨[7]⟩).afterAll mixedEdits) =
      .error (.unattached ⟨[1, 3, 9, 7]⟩ "time source") ((empty ⟨[7]⟩).afterAll mixedEdits) ∧
    ((empty ⟨[7]⟩).afterAll mixedEdits).address ⟨[1, 3]⟩ 2 ≠
      (empty ⟨[4, 7]⟩).address ⟨[1, 3]⟩ 2 := by
  have htells := tells_edits ⟨[7]⟩ mixedEdits
  have hfault := (htells.stamp_unattached ⟨none⟩ (fun _ => ⟨30⟩) ⟨[1, 3]⟩ 9 rfl).1
  have haddress := htells.address_eq_iff (empty ⟨[4, 7]⟩) ⟨[1, 3]⟩ 2 2
  refine ⟨htells.get?_eq 2, htells.get?_eq 4, htells.get?_eq 9, htells.size_eq, hfault, ?_⟩
  intro heq
  obtain ⟨-, hindex⟩ := haddress.mp heq
  cases hindex

end ConceptualRow

end SnmpSet
