import Mathlib.Algebra.Group.Nat.Defs
import Mathlib.Data.List.Nodup
import Mathlib.Data.List.Pairwise
import SnmpSet.Proofs.CapabilityTable.Calls

/-!
# The history of a capability table

What a table tells at any time is the history of the calls made to it: which indexes it
has handed out, which statements stand and which are gone for good, and when it last
changed. Where its clock never goes back, neither do the times that it tells.
-/

namespace SnmpSet

namespace CapabilityTable

/-- The calls, each with the table that it is made to. -/
def course (t : CapabilityTable) : List Call → List (CapabilityTable × Call)
  | [] => []
  | call :: later => (t, call) :: (t.after call).course later

/-- The index that a table hands out at a call. -/
def issue? (t : CapabilityTable) : Call → Option Oid
  | .add readings capability description => (t.add readings capability description).map Prod.fst
  | .remove .. => none

/-- The indexes that a table hands out, the first one first. -/
def issued (t : CapabilityTable) (calls : List Call) : List Oid :=
  (t.course calls).filterMap fun made => made.1.issue? made.2

/-- A call is granted: a statement is added, or one is removed. -/
def grants (t : CapabilityTable) : Call → Bool
  | .add readings capability description => (t.add readings capability description).isSome
  | .remove readings index => (t.remove readings index).1.isSome

/-- The calls that a table grants, the first one first. -/
def granted (t : CapabilityTable) (calls : List Call) : List Call :=
  ((t.course calls).filter fun made => made.1.grants made.2).map Prod.snd

variable {clock : Option Clock} {calls : List Call} {t : CapabilityTable}

/-! ## Call after call -/

/-- The last call is made to the table that the others leave. -/
theorem course_append (t : CapabilityTable) (calls : List Call) (call : Call) :
    t.course (calls ++ [call]) = t.course calls ++ [(t.afterCalls calls, call)] := by
  induction calls generalizing t with
  | nil => rfl
  | cons first calls ih =>
    rw [List.cons_append, course, ih]
    rfl

/-- The last call adds its index, if it is given one, to those that are handed out. -/
theorem issued_append (t : CapabilityTable) (calls : List Call) (call : Call) :
    t.issued (calls ++ [call]) =
      t.issued calls ++ ((t.afterCalls calls).issue? call).toList := by
  rw [issued, course_append, List.filterMap_append]
  cases h : (t.afterCalls calls).issue? call <;> simp [issued, h]

/-- The last call is one more that is granted, or it is refused. -/
theorem granted_append (t : CapabilityTable) (calls : List Call) (call : Call) :
    t.granted (calls ++ [call]) =
      t.granted calls ++ if (t.afterCalls calls).grants call then [call] else [] := by
  rw [granted, course_append, List.filter_append, List.map_append]
  split <;> simp_all [granted]

/-- The calls that are granted are among those made, in the same order. -/
theorem granted_sublist (t : CapabilityTable) (calls : List Call) :
    (t.granted calls).Sublist calls := by
  induction calls using List.reverseRecOn with
  | nil => exact List.Sublist.slnil
  | append_singleton calls call ih =>
    rw [granted_append]
    refine ih.append ?_
    split
    · exact List.Sublist.refl _
    · exact List.nil_sublist _

/-! ## When a table last changed -/

/-- A call is granted and the table changes at that time, or it is not and nothing
changes. -/
theorem grants_or_keeps (t : CapabilityTable) (call : Call) :
    (t.grants call = true ∧ (t.after call).clock = t.clock ∧
      (t.after call).changedAt = call.time t.clock) ∨
    t.grants call = false ∧ t.after call = t := by
  cases call with
  | add readings capability description =>
    cases hnext : t.nextNumber with
    | none =>
      have hadd := add_eq_none hnext readings capability description
      exact .inr ⟨by rw [grants, hadd]; rfl, by rw [after, hadd]⟩
    | some number =>
      have hadd := add_eq_some hnext readings capability description
      refine .inl ⟨by rw [grants, hadd]; rfl, ?_⟩
      rw [after, hadd]
      exact ⟨rfl, now_eq t readings⟩
  | remove readings index =>
    cases hget : t.get? index with
    | none =>
      have hremove := remove_of_get?_eq_none hget readings
      exact .inr ⟨by rw [grants, hremove]; rfl, by rw [after, hremove]⟩
    | some c =>
      have hremove := remove_of_get?_eq_some hget readings
      refine .inl ⟨by rw [grants, hremove]; rfl, ?_⟩
      rw [after, hremove]
      exact ⟨rfl, now_eq t readings⟩

/-- A table changed last at the last call that it granted. -/
theorem changedAt_afterCalls (t : CapabilityTable) (calls : List Call) :
    (t.afterCalls calls).changedAt =
      ((t.granted calls).map (Call.time t.clock)).getLast?.getD t.changedAt := by
  induction calls generalizing t with
  | nil => rfl
  | cons call calls ih =>
    have htail : (t.afterCalls (call :: calls)).changedAt = _ := ih (t.after call)
    rw [htail]
    rcases t.grants_or_keeps call with ⟨hgrants, hclock, hchanged⟩ | ⟨hrefuses, hkept⟩
    · have hgranted : t.granted (call :: calls) = call :: (t.after call).granted calls := by
        simp [granted, course, hgrants]
      rw [hgranted, hclock, hchanged, List.map_cons, List.getLast?_cons, Option.getD_some]
    · have hgranted : t.granted (call :: calls) = t.granted calls := by
        simp [granted, course, hrefuses, hkept]
      rw [hgranted, hkept]

/-! ## The statements and the times -/

/-- As long as numbers fit into a word, additions are given the numbers from one on. -/
theorem issued_eq (clock : Option Clock) (hfew : additions calls < UInt32.size) :
    (create clock).issued calls = (List.range' 1 (additions calls)).map indexOf := by
  induction calls using List.reverseRecOn with
  | nil => rfl
  | append_singleton calls call ih =>
    rw [additions_append] at hfew
    have hissued := ih (by omega)
    have hfollows : Follows clock calls _ := follows_afterCalls clock (by omega)
    rw [issued_append, hissued]
    cases call with
    | add readings capability description =>
      obtain ⟨t', hadd, -⟩ := hfollows.add (by simpa using hfew) readings capability description
      rw [issue?, hadd, additions_append, additions_add, additions_nil, List.range'_concat]
      simp [Nat.add_comm]
    | remove readings index => simp [issue?]

/-- The statements that stand were added at calls that were granted, in this order. -/
theorem addedAt_sublist (clock : Option Clock) (hfew : additions calls < UInt32.size) :
    ((standing clock 1 calls).map Capability.addedAt).Sublist
      (((create clock).granted calls).map (Call.time clock)) := by
  induction calls using List.reverseRecOn with
  | nil => exact List.Sublist.slnil
  | append_singleton calls call ih =>
    rw [additions_append] at hfew
    have hsublist := ih (by omega)
    have hfollows : Follows clock calls _ := follows_afterCalls clock (by omega)
    rw [granted_append, List.map_append]
    cases call with
    | add readings capability description =>
      obtain ⟨t', hadd, -⟩ := hfollows.add (by simpa using hfew) readings capability description
      have hgrants : ((create clock).afterCalls calls).grants
          (.add readings capability description) = true := by
        rw [grants, hadd]
        rfl
      rw [standing_append_add, List.map_append, if_pos hgrants]
      exact hsublist.append (List.Sublist.refl _)
    | remove readings index =>
      rw [standing_append_remove]
      exact ((List.filter_sublist.map _).trans hsublist).trans (List.sublist_append_left _ _)

/-- An index whose statement was removed stands for none afterwards: the statements from
before have other indexes, and those that are added later have larger numbers. -/
theorem get?_eq_none_of_removed (clock : Option Clock) {before later : List Call}
    {readings : Readings} {index : Oid}
    (hfew : additions (before ++ .remove readings index :: later) < UInt32.size)
    (hsome : (((create clock).afterCalls before).get? index).isSome) :
    ((create clock).afterCalls (before ++ .remove readings index :: later)).get? index = none := by
  obtain ⟨removed, hremoved⟩ := Option.isSome_iff_exists.mp hsome
  refine Option.eq_none_iff_forall_ne_some.mpr fun c hc => ?_
  obtain ⟨hmem, hindex⟩ := (follows_afterCalls clock hfew).get?_eq_some_iff.mp hc
  rw [additions_append, additions_remove] at hfew
  have hbefore : Follows clock before _ := follows_afterCalls clock (by omega)
  obtain ⟨hstood, hindex'⟩ := hbefore.get?_eq_some_iff.mp hremoved
  rw [standing_append] at hmem
  rcases List.mem_append.mp hmem with hold | hnew
  · simp [hindex, Call.isRemovalOf] at hold
  · obtain ⟨k, -, hk, hk'⟩ := exists_number_of_mem_standing hstood
    obtain ⟨m, hm, hm', hm''⟩ := exists_number_of_mem_standing hnew
    rw [additions_remove] at hm'
    have heq : indexOf k = indexOf m := by rw [← hk', ← hm'', hindex, hindex']
    have := indexOf_injective (by omega) (by omega) heq
    omega

/-- A row has its statement in three columns. -/
theorem cells_row (c : Capability) : c.row.cells.entries =
    [(2, .objectId c.capability), (3, .octets (Text.octetsOf c.description)),
      (4, .timeTicks c.addedAt)] := rfl

/-- If the clock never goes back, statements are listed in the order of their times, and
none was added after the last change. -/
theorem times_ordered (clock : Option Clock) (hfew : additions calls < UInt32.size)
    (hforward : calls.Pairwise fun a b => (a.time clock).count ≤ (b.time clock).count) :
    (standing clock 1 calls).Pairwise (fun a b => a.addedAt.count ≤ b.addedAt.count) ∧
    ∀ c ∈ standing clock 1 calls,
      c.addedAt.count ≤ ((create clock).afterCalls calls).changedAt.count := by
  have hadded := addedAt_sublist clock hfew
  have htimes : (((create clock).granted calls).map (Call.time clock)).Pairwise
      fun a b => a.count ≤ b.count :=
    List.pairwise_map.mpr (hforward.sublist (granted_sublist _ calls))
  have hlisted := htimes.sublist hadded
  rw [List.pairwise_map] at hlisted
  refine ⟨hlisted, fun c hc => ?_⟩
  have hmem := hadded.subset (List.mem_map_of_mem hc)
  have hlast := htimes.rel_getLast_of_rel_getLast_getLast hmem (UInt32.le_refl _)
  have hchanged : ((create clock).afterCalls calls).changedAt =
      (((create clock).granted calls).map (Call.time clock)).getLast?.getD ⟨0⟩ :=
    changedAt_afterCalls (create clock) calls
  rwa [hchanged, List.getLast?_eq_some_getLast (List.ne_nil_of_mem hmem)]

/-- What a table that was new before the calls tells of them. -/
structure TellsHistory (clock : Option Clock) (calls : List Call) (t : CapabilityTable) :
    Prop where
  /-- All additions were granted, and the k-th one was given the number k. -/
  numbered : (create clock).issued calls = (List.range' 1 (additions calls)).map indexOf
  /-- No index was handed out twice. -/
  distinct : ((create clock).issued calls).Nodup
  /-- An index has the statement that was added under it with the reading of the clock, as
  long as no later call was for its removal. -/
  found : ∀ index c, t.get? index = some c ↔ c.index = index ∧ ∃ before readings later,
    calls = before ++ .add readings c.capability c.description :: later ∧
    index = indexOf (additions before + 1) ∧ c.addedAt = clock.elim ⟨0⟩ readings ∧
    ∀ removal, .remove removal index ∉ later
  /-- A removal hands out the statement of the index. -/
  removed : ∀ readings index c, t.get? index = some c → (t.remove readings index).1 = some c
  /-- An index whose statement was removed has none afterwards. -/
  gone : ∀ before readings index later, calls = before ++ .remove readings index :: later →
    (((create clock).afterCalls before).get? index).isSome → t.get? index = none
  /-- The removal of an index without a statement hands out nothing and changes nothing. -/
  absent : ∀ readings index, t.get? index = none → t.remove readings index = (none, t)
  /-- The table lists the statements that stand, in the order of their additions. -/
  listed : t.all = standing clock 1 calls
  /-- The rows show the statements that are listed, in three columns. -/
  shown : t.rows.map (fun row => (row.index, row.cells.entries)) = t.all.map fun c =>
    (c.index, [(2, .objectId c.capability), (3, .octets (Text.octetsOf c.description)),
      (4, .timeTicks c.addedAt)])
  /-- The table last changed at the last call that was granted. -/
  timed : t.changedAt = (((create clock).granted calls).map (Call.time clock)).getLast?.getD ⟨0⟩
  /-- If the clock never goes back, statements are listed in the order of their times,
  and none was added after the last change. -/
  ordered : calls.Pairwise (fun a b => (a.time clock).count ≤ (b.time clock).count) →
    t.all.Pairwise (fun a b => a.addedAt.count ≤ b.addedAt.count) ∧
    ∀ c ∈ t.all, c.addedAt.count ≤ t.changedAt.count

/-- A table that was new tells the history of the calls made to it, as long as these add
fewer statements than there are numbers. -/
theorem tells_history (clock : Option Clock) (hfew : additions calls < 2 ^ 32) :
    TellsHistory clock calls ((create clock).afterCalls calls) := by
  have hfits : additions calls < UInt32.size := hfew
  have hfollows := follows_afterCalls clock hfits
  have hlisted := hfollows.all_eq
  have hissued := issued_eq clock hfits
  refine
    { numbered := hissued
      distinct := ?distinct
      found := fun index c => ?found
      removed := fun readings index c hfound => by rw [remove_of_get?_eq_some hfound]
      gone := ?gone
      absent := fun readings index habsent => remove_of_get?_eq_none habsent readings
      listed := hlisted
      shown := ?shown
      timed := changedAt_afterCalls (create clock) calls
      ordered := fun hforward => ?ordered }
  case distinct =>
    rw [hissued]
    refine List.Nodup.map_on (fun m hm n hn heq => ?_) List.nodup_range'
    rw [List.mem_range'_1] at hm hn
    exact indexOf_injective (by omega) (by omega) heq
  case found =>
    rw [hfollows.get?_eq_some_iff, mem_standing_iff, and_comm]
    refine and_congr_right fun hindex => ?_
    rw [hindex]
    simp only [Nat.add_comm 1]
  case gone =>
    rintro before readings index later rfl hsome
    exact get?_eq_none_of_removed clock hfits hsome
  case shown =>
    rw [rows, List.map_map]
    exact List.map_congr_left fun c _ => congrArg (Prod.mk c.index) (cells_row c)
  case ordered =>
    rw [hlisted]
    exact times_ordered clock hfits hforward

/-- Two statements are added, the first one is removed twice, and another one is added. -/
def turnoverCalls : List Call :=
  [.add (fun _ => ⟨10⟩) ⟨[1, 3, 6, 1, 6, 3, 1]⟩ "SNMPv2-MIB",
    .add (fun _ => ⟨20⟩) ⟨[1, 3, 6, 1, 6, 3, 10]⟩ "SNMP-FRAMEWORK-MIB",
    .remove (fun _ => ⟨30⟩) ⟨[1]⟩,
    .remove (fun _ => ⟨40⟩) ⟨[1]⟩,
    .add (fun _ => ⟨50⟩) ⟨[1, 3, 6, 1, 6, 3, 16]⟩ "SNMP-VIEW-BASED-ACM-MIB",
    .remove (fun _ => ⟨60⟩) ⟨[4]⟩]

/-- The index that was removed is gone for good, and the refused removals are no changes. -/
theorem turnoverCalls_history :
    additions turnoverCalls < 2 ^ 32 ∧
    TellsHistory (some ⟨0⟩) turnoverCalls ((create (some ⟨0⟩)).afterCalls turnoverCalls) ∧
    (create (some ⟨0⟩)).issued turnoverCalls = [⟨[1]⟩, ⟨[2]⟩, ⟨[3]⟩] ∧
    ((create (some ⟨0⟩)).afterCalls turnoverCalls).get? ⟨[1]⟩ = none ∧
    ((create (some ⟨0⟩)).afterCalls turnoverCalls).all.map Capability.index = [⟨[2]⟩, ⟨[3]⟩] ∧
    ((create (some ⟨0⟩)).afterCalls turnoverCalls).changedAt = ⟨50⟩ ∧
    ∀ c ∈ ((create (some ⟨0⟩)).afterCalls turnoverCalls).all, c.addedAt.count ≤ 50 := by
  have hfew : additions turnoverCalls < 2 ^ 32 := by decide
  have htells := tells_history (some ⟨0⟩) hfew
  obtain ⟨-, hbefore⟩ := htells.ordered (by decide)
  have hgone := htells.gone (turnoverCalls.take 2) _ ⟨[1]⟩ (turnoverCalls.drop 3) rfl (by decide)
  exact ⟨hfew, htells, htells.numbered, hgone, rfl, rfl, hbefore⟩

end CapabilityTable

end SnmpSet
