import Mathlib.Data.List.Induction
import SnmpSet.CapabilityTable
import SnmpSet.Proofs.SortedMap

/-!
# Calls made to a capability table

What a table holds follows from the calls that were made to it: the statements that
were added and not removed since, each under the number of its addition. As the numbers
ascend, a statement that is added has an index beyond all others and so comes last in
the order of the indexes.
-/

namespace SnmpSet

namespace CapabilityTable

/-- A call that can change a table, with what the clocks read when it is made. -/
inductive Call where
  /-- Adds a statement. -/
  | add (readings : Readings) (capability : Oid) (description : String)
  /-- Removes the statement of an index. -/
  | remove (readings : Readings) (index : Oid)

namespace Call

/-- What the clocks read when the call is made. -/
def readings : Call → Readings
  | add readings _ _ => readings
  | remove readings _ => readings

/-- What the clock of a table reads when the call is made, zero without a clock. -/
def time (clock : Option Clock) (call : Call) : TimeTicks := clock.elim ⟨0⟩ call.readings

/-- The call is for a statement to be added. -/
def isAdd : Call → Bool
  | add .. => true
  | remove .. => false

/-- The call is for the statement of an index to be removed. -/
def isRemovalOf (index : Oid) : Call → Bool
  | add .. => false
  | remove _ removed => removed = index

end Call

/-- The number of calls that are for a statement to be added. -/
def additions (calls : List Call) : Nat := calls.countP Call.isAdd

/-- The table after a call. A refusal to add a statement leaves it as it was. -/
def after (t : CapabilityTable) : Call → CapabilityTable
  | .add readings capability description =>
    match t.add readings capability description with
    | some (_, t') => t'
    | none => t
  | .remove readings index => (t.remove readings index).2

/-- The table after calls. -/
def afterCalls (t : CapabilityTable) (calls : List Call) : CapabilityTable := calls.foldl after t

/-- The index that goes with a number. -/
def indexOf (number : Nat) : Oid := ⟨[UInt32.ofNat number]⟩

/-- The statements that calls add and do not remove afterwards, in the order in which they
are added. The first one is given a number, each further one the next. -/
def standing (clock : Option Clock) (number : Nat) : List Call → List Capability
  | [] => []
  | call@(.add _ capability description) :: later =>
    if later.any (Call.isRemovalOf (indexOf number)) then standing clock (number + 1) later
    else ⟨indexOf number, capability, description, call.time clock⟩ ::
      standing clock (number + 1) later
  | .remove .. :: later => standing clock number later

variable {clock : Option Clock} {calls : List Call} {t : CapabilityTable} {c : Capability}

/-! ## Numbers and their indexes -/

/-- A smaller number has the smaller index, as long as numbers fit into a word. -/
theorem indexOf_lt {m n : Nat} (hlt : m < n) (hn : n < UInt32.size) : indexOf m < indexOf n := by
  have hm : m < UInt32.size := by omega
  have hword : UInt32.ofNat m < UInt32.ofNat n := by
    rw [UInt32.lt_iff_toNat_lt, UInt32.toNat_ofNat_of_lt' hm, UInt32.toNat_ofNat_of_lt' hn]
    exact hlt
  exact Oid.lt_def.mpr (List.cons_lt_cons_iff.mpr (.inl hword))

/-- Different numbers that fit into a word have different indexes. -/
theorem indexOf_injective {m n : Nat} (hm : m < UInt32.size) (hn : n < UInt32.size)
    (heq : indexOf m = indexOf n) : m = n := by
  rcases Nat.lt_trichotomy m n with hlt | hmn | hlt
  · exact absurd (heq ▸ indexOf_lt hlt hn) (Oid.lt_irrefl _)
  · exact hmn
  · exact absurd (heq ▸ indexOf_lt hlt hm) (Oid.lt_irrefl _)

/-- The number after another is larger by one. -/
theorem following_eq_some_iff {m n : UInt32} : following m = some n ↔ n.toNat = m.toNat + 1 := by
  have hn : n.toNat < UInt32.size := n.toNat_lt
  unfold following
  split
  · next hfits =>
    have hsum : (m + 1).toNat = m.toNat + 1 := by
      rw [UInt32.toNat_add]
      exact Nat.mod_eq_of_lt hfits
    rw [Option.some.injEq, ← UInt32.toNat_inj, hsum]
    exact eq_comm
  · next hlast =>
    constructor
    · intro hnone
      cases hnone
    · omega

/-! ## Counting additions -/

@[simp] theorem additions_nil : additions [] = 0 := rfl

@[simp] theorem additions_add (readings : Readings) (capability : Oid) (description : String)
    (calls : List Call) :
    additions (.add readings capability description :: calls) = additions calls + 1 :=
  List.countP_cons_of_pos rfl

@[simp] theorem additions_remove (readings : Readings) (index : Oid) (calls : List Call) :
    additions (.remove readings index :: calls) = additions calls :=
  List.countP_cons_of_neg (by simp [Call.isAdd])

@[simp] theorem additions_append (calls later : List Call) :
    additions (calls ++ later) = additions calls + additions later := List.countP_append

/-! ## The statements that stand -/

/-- Of the statements that stand after some calls, those that more calls do not remove
stand after these too, followed by those that these add. -/
theorem standing_append (clock : Option Clock) (number : Nat) (calls later : List Call) :
    standing clock number (calls ++ later) =
      (standing clock number calls).filter (fun c => !later.any (Call.isRemovalOf c.index)) ++
        standing clock (number + additions calls) later := by
  induction calls generalizing number with
  | nil => rfl
  | cons call calls ih =>
    cases call with
    | remove readings index => simpa [standing] using ih number
    | add readings capability description =>
      have hnumber : number + 1 + additions calls = number + (additions calls + 1) := by omega
      have htail := ih (number + 1)
      rw [hnumber] at htail
      by_cases hremoved : calls.any (Call.isRemovalOf (indexOf number))
      · simp [standing, hremoved, htail]
      · by_cases hremovedLater : later.any (Call.isRemovalOf (indexOf number)) <;>
          simp [standing, hremoved, hremovedLater, htail]

/-- An addition puts one more statement behind those that stand. -/
theorem standing_append_add (clock : Option Clock) (number : Nat) (calls : List Call)
    (readings : Readings) (capability : Oid) (description : String) :
    standing clock number (calls ++ [.add readings capability description]) =
      standing clock number calls ++
        [⟨indexOf (number + additions calls), capability, description,
          clock.elim ⟨0⟩ readings⟩] := by
  rw [standing_append]
  exact congrArg₂ (· ++ ·) (List.filter_eq_self.mpr fun _ _ => rfl) rfl

/-- A removal takes the statement of its index from those that stand. -/
theorem standing_append_remove (clock : Option Clock) (number : Nat) (calls : List Call)
    (readings : Readings) (index : Oid) :
    standing clock number (calls ++ [.remove readings index]) =
      (standing clock number calls).filter fun c => c.index ≠ index := by
  simp [standing_append, standing, Call.isRemovalOf, eq_comm]

/-- Calls remove an index if one of them is for its removal. -/
theorem any_isRemovalOf_iff {index : Oid} :
    calls.any (Call.isRemovalOf index) = true ↔ ∃ readings, .remove readings index ∈ calls := by
  rw [List.any_eq_true]
  constructor
  · rintro ⟨call, hmem, hremoval⟩
    cases call with
    | add readings capability description => cases hremoval
    | remove readings removed =>
      obtain rfl : removed = index := of_decide_eq_true hremoval
      exact ⟨readings, hmem⟩
  · rintro ⟨readings, hmem⟩
    exact ⟨_, hmem, decide_eq_true rfl⟩

/-- A statement stands just if it is what a call adds under its number and no later call
removes its index. -/
theorem mem_standing_iff {number : Nat} :
    c ∈ standing clock number calls ↔ ∃ before readings later,
      calls = before ++ .add readings c.capability c.description :: later ∧
      c.index = indexOf (number + additions before) ∧ c.addedAt = clock.elim ⟨0⟩ readings ∧
      ∀ removal, .remove removal c.index ∉ later := by
  constructor
  · intro hmem
    induction calls generalizing number with
    | nil => cases hmem
    | cons call calls ih =>
      cases call with
      | remove readings index =>
        obtain ⟨before, reading, later, rfl, hrest⟩ := ih hmem
        exact ⟨.remove readings index :: before, reading, later, rfl, by simpa using hrest⟩
      | add readings capability description =>
        have hhead_or_tail :
            (c = ⟨indexOf number, capability, description, clock.elim ⟨0⟩ readings⟩ ∧
            ¬calls.any (Call.isRemovalOf (indexOf number))) ∨
            c ∈ standing clock (number + 1) calls := by
          unfold standing at hmem
          split at hmem
          · exact .inr hmem
          · next hkept =>
            exact (List.mem_cons.mp hmem).imp (fun hnew => ⟨hnew, hkept⟩) id
        rcases hhead_or_tail with ⟨rfl, hkept⟩ | htail
        · refine ⟨[], readings, calls, rfl, by simp, rfl, fun removal hremoval => hkept ?_⟩
          exact any_isRemovalOf_iff.mpr ⟨removal, hremoval⟩
        · obtain ⟨before, reading, later, rfl, hindex, hrest⟩ := ih htail
          refine ⟨.add readings capability description :: before, reading, later, rfl, ?_, hrest⟩
          rw [hindex, additions_add]
          congr 1
          omega
  · rintro ⟨before, readings, later, rfl, hindex, hadded, hkept⟩
    have hnotRemoved : ¬later.any (Call.isRemovalOf (indexOf (number + additions before))) := by
      rw [← hindex, any_isRemovalOf_iff]
      rintro ⟨removal, hremoval⟩
      exact hkept removal hremoval
    rw [standing_append, standing, if_neg hnotRemoved]
    refine List.mem_append_right _ (List.mem_cons.mpr (.inl ?_))
    rw [← hindex, Call.time, Call.readings, ← hadded]

/-- The indexes of the statements that stand go with the numbers of the additions. -/
theorem exists_number_of_mem_standing {number : Nat} (hmem : c ∈ standing clock number calls) :
    ∃ k, number ≤ k ∧ k < number + additions calls ∧ c.index = indexOf k := by
  obtain ⟨before, readings, later, rfl, hindex, -⟩ := mem_standing_iff.mp hmem
  refine ⟨number + additions before, by omega, ?_, hindex⟩
  rw [additions_append, additions_add]
  omega

/-! ## What one call does -/

/-- A table reads its clock, or zero without one. -/
theorem now_eq (t : CapabilityTable) (readings : Readings) :
    t.now readings = t.clock.elim ⟨0⟩ readings := by
  unfold now
  cases t.clock <;> rfl

/-- A table with a number left adds a statement under it. -/
theorem add_eq_some {number : UInt32} (hnext : t.nextNumber = some number) (readings : Readings)
    (capability : Oid) (description : String) :
    t.add readings capability description = some (⟨[number]⟩,
      { t with
        statements := t.statements.insert ⟨[number]⟩
          ⟨⟨[number]⟩, capability, description, t.now readings⟩
        changedAt := t.now readings
        nextNumber := following number }) := by
  rw [add, hnext]

/-- A table without a number left adds nothing. -/
theorem add_eq_none (hnext : t.nextNumber = none) (readings : Readings) (capability : Oid)
    (description : String) : t.add readings capability description = none := by
  rw [add, hnext]

/-- A removal hands out the statement that is found, and takes its index from the table. -/
theorem remove_of_get?_eq_some {index : Oid} (hfound : t.get? index = some c)
    (readings : Readings) :
    t.remove readings index =
      (some c, { t with statements := t.statements.erase index, changedAt := t.now readings }) := by
  rw [remove, show t.statements.get? index = some c from hfound]

/-- A removal hands out nothing and changes nothing where no statement is found. -/
theorem remove_of_get?_eq_none {index : Oid} (habsent : t.get? index = none)
    (readings : Readings) : t.remove readings index = (none, t) := by
  rw [remove, show t.statements.get? index = none from habsent]

/-- A removal leaves nothing but the statements and the time of the change different. -/
theorem exists_remove_eq (t : CapabilityTable) (readings : Readings) (index : Oid) :
    ∃ changedAt, (t.remove readings index).2 =
      { t with statements := t.statements.erase index, changedAt } := by
  cases hget : t.get? index with
  | none =>
    refine ⟨t.changedAt, ?_⟩
    rw [remove_of_get?_eq_none hget, SortedMap.erase_eq_self hget]
  | some c => exact ⟨t.now readings, by rw [remove_of_get?_eq_some hget]⟩

/-! ## What calls make of a table -/

/-- A table is as calls have left it: it holds the statements that stand, and its next
number is the one after those of all additions. -/
structure Follows (clock : Option Clock) (calls : List Call) (t : CapabilityTable) : Prop where
  clock_eq : t.clock = clock
  next_iff : ∀ number, t.nextNumber = some number ↔ number.toNat = additions calls + 1
  entries_eq : t.statements.entries = (standing clock 1 calls).map fun c => (c.index, c)

/-- A new table is as no calls have left it. -/
theorem follows_create (clock : Option Clock) : Follows clock [] (create clock) where
  clock_eq := rfl
  next_iff number := by
    rw [create, Option.some.injEq, ← UInt32.toNat_inj]
    exact eq_comm
  entries_eq := rfl

/-- The table lists the statements that stand. -/
theorem Follows.all_eq (h : Follows clock calls t) : t.all = standing clock 1 calls := by
  rw [all, SortedMap.values, h.entries_eq, List.map_map]
  exact List.map_id _

/-- The statement of an index is the one that stands with it. -/
theorem Follows.get?_eq_some_iff (h : Follows clock calls t) {index : Oid} :
    t.get? index = some c ↔ c ∈ standing clock 1 calls ∧ c.index = index := by
  rw [get?, SortedMap.get?_eq_some_iff, h.entries_eq, List.mem_map]
  constructor
  · rintro ⟨c', hmem, heq⟩
    obtain ⟨hindex, rfl⟩ := Prod.mk.inj heq
    exact ⟨hmem, hindex⟩
  · rintro ⟨hmem, rfl⟩
    exact ⟨c, hmem, rfl⟩

/-- As long as numbers fit into a word, a statement is added under the next one. It comes
last, since the indexes of the others go with smaller numbers. -/
theorem Follows.add (h : Follows clock calls t) (hfew : additions calls + 1 < UInt32.size)
    (readings : Readings) (capability : Oid) (description : String) :
    ∃ t', t.add readings capability description = some (indexOf (additions calls + 1), t') ∧
      Follows clock (calls ++ [.add readings capability description]) t' := by
  have hnext : t.nextNumber = some (UInt32.ofNat (additions calls + 1)) :=
    (h.next_iff _).mpr (UInt32.toNat_ofNat_of_lt' hfew)
  refine ⟨_, add_eq_some hnext readings capability description, h.clock_eq, fun number => ?_, ?_⟩
  · rw [following_eq_some_iff, UInt32.toNat_ofNat_of_lt' hfew]
    simp
  · have hbeyond : ∀ e ∈ t.statements.entries, e.1 < indexOf (additions calls + 1) := by
      intro e hmem
      rw [h.entries_eq] at hmem
      obtain ⟨c, hc, rfl⟩ := List.mem_map.mp hmem
      obtain ⟨k, -, hk, hindex⟩ := exists_number_of_mem_standing hc
      exact hindex ▸ indexOf_lt (by omega) hfew
    have hlast := SortedMap.insertEntry_of_forall_lt hbeyond
      ⟨indexOf (additions calls + 1), capability, description, t.now readings⟩
    refine hlast.trans ?_
    rw [h.entries_eq, now_eq, h.clock_eq, standing_append_add, List.map_append, Nat.add_comm 1]
    rfl

/-- A removal leaves the statements of the other indexes. -/
theorem Follows.remove (h : Follows clock calls t) (readings : Readings) (index : Oid) :
    Follows clock (calls ++ [.remove readings index]) (t.remove readings index).2 := by
  obtain ⟨changedAt, hremove⟩ := t.exists_remove_eq readings index
  rw [hremove]
  refine ⟨h.clock_eq, fun number => by simp [h.next_iff], ?_⟩
  have herased := congrArg (List.filter fun e => e.1 ≠ index) h.entries_eq
  refine herased.trans ?_
  rw [List.filter_map, standing_append_remove]
  rfl

/-- One call makes of a table what the history with that call says. -/
theorem Follows.after (h : Follows clock calls t) (call : Call)
    (hfew : additions (calls ++ [call]) < UInt32.size) :
    Follows clock (calls ++ [call]) (t.after call) := by
  cases call with
  | add readings capability description =>
    obtain ⟨t', hadd, hfollows⟩ := h.add (by simpa using hfew) readings capability description
    rwa [CapabilityTable.after, hadd]
  | remove readings index => exact h.remove readings index

/-- The last call is served by the table that the others leave. -/
theorem afterCalls_append (t : CapabilityTable) (calls : List Call) (call : Call) :
    t.afterCalls (calls ++ [call]) = (t.afterCalls calls).after call := by
  rw [afterCalls, List.foldl_append]
  rfl

/-- A table is as its calls have left it. -/
theorem follows_afterCalls (clock : Option Clock) (hfew : additions calls < UInt32.size) :
    Follows clock calls ((create clock).afterCalls calls) := by
  induction calls using List.reverseRecOn with
  | nil => exact follows_create clock
  | append_singleton calls call ih =>
    rw [additions_append] at hfew
    rw [afterCalls_append]
    exact (ih (by omega)).after call (by rwa [additions_append])

end CapabilityTable

end SnmpSet
