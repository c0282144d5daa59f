/-!
# Maps kept in key order

A map is the list of its entries in strictly ascending key order, so it holds
each key at most once and two maps with the same entries are equal.
-/

namespace SnmpSet

variable {κ ν : Type} [LT κ]

/-- Entries in strictly ascending key order. -/
structure SortedMap (κ ν : Type) [LT κ] where
  /-- The entries, smallest key first. -/
  entries : List (κ × ν)
  ascending : entries.Pairwise fun a b => a.1 < b.1

namespace SortedMap

/-- The map without entries. -/
def empty : SortedMap κ ν := ⟨[], .nil⟩

/-- The keys in ascending order. -/
def keys (m : SortedMap κ ν) : List κ := m.entries.map Prod.fst

/-- The values in the order of their keys. -/
def values (m : SortedMap κ ν) : List ν := m.entries.map Prod.snd

/-- The number of entries. -/
def size (m : SortedMap κ ν) : Nat := m.entries.length

/-- The map has no entries. -/
def isEmpty (m : SortedMap κ ν) : Bool := m.entries.isEmpty

/-- The value beside a key in a list of entries. -/
def lookup [DecidableEq κ] (k : κ) : List (κ × ν) → Option ν
  | [] => none
  | (key, v) :: rest => if k = key then some v else lookup k rest

/-- The value of a key. -/
def get? [DecidableEq κ] (m : SortedMap κ ν) (k : κ) : Option ν := lookup k m.entries

/-- The map has a key. -/
def contains [DecidableEq κ] (m : SortedMap κ ν) (k : κ) : Bool := (m.get? k).isSome

/-- Puts an entry in its place, over any entry of the same key. -/
def insertEntry [DecidableEq κ] [DecidableLT κ] (k : κ) (v : ν) : List (κ × ν) → List (κ × ν)
  | [] => [(k, v)]
  | (key, w) :: rest =>
    if k < key then (k, v) :: (key, w) :: rest
    else if k = key then (k, v) :: rest
    else (key, w) :: insertEntry k v rest

theorem mem_insertEntry [DecidableEq κ] [DecidableLT κ] {k : κ} {v : ν} {e : κ × ν}
    {entries : List (κ × ν)} (he : e ∈ insertEntry k v entries) : e = (k, v) ∨ e ∈ entries := by
  induction entries with
  | nil => simpa [insertEntry] using he
  | cons entry rest ih =>
    unfold insertEntry at he
    split at he
    · simpa using he
    · split at he
      · rcases List.mem_cons.mp he with h | h
        · exact .inl h
        · exact .inr (List.mem_cons_of_mem _ h)
      · rcases List.mem_cons.mp he with h | h
        · exact .inr (by simp [h])
        · exact (ih h).imp id (List.mem_cons_of_mem _)

/-- Putting an entry in its place keeps the keys ascending. -/
theorem ascending_insertEntry [DecidableEq κ] [DecidableLT κ]
    [htrans : Trans (α := κ) (· < ·) (· < ·) (· < ·)] [htri : Std.Trichotomous (α := κ) (· < ·)]
    (k : κ) (v : ν) {entries : List (κ × ν)}
    (hentries : entries.Pairwise fun a b => a.1 < b.1) :
    (insertEntry k v entries).Pairwise fun a b => a.1 < b.1 := by
  induction entries with
  | nil => simp [insertEntry]
  | cons entry rest ih =>
    obtain ⟨hhead, hrest⟩ := List.pairwise_cons.mp hentries
    unfold insertEntry
    split
    · next hlt =>
      refine List.pairwise_cons.mpr ⟨fun e he => ?_, hentries⟩
      rcases List.mem_cons.mp he with h | h
      · simpa [h] using hlt
      · exact htrans.trans hlt (hhead e h)
    · next hlt =>
      split
      · next heq => exact List.pairwise_cons.mpr ⟨fun e he => heq ▸ hhead e he, hrest⟩
      · next hne =>
        refine List.pairwise_cons.mpr ⟨fun e he => ?_, ih hrest⟩
        rcases mem_insertEntry he with h | h
        · rw [h]
          exact Decidable.byContradiction fun hgt => hne (htri.trichotomous _ _ hlt hgt)
        · exact hhead e h

/-- The map with a key set to a value. -/
def insert [DecidableEq κ] [DecidableLT κ] [Trans (α := κ) (· < ·) (· < ·) (· < ·)]
    [Std.Trichotomous (α := κ) (· < ·)] (m : SortedMap κ ν) (k : κ) (v : ν) : SortedMap κ ν :=
  ⟨insertEntry k v m.entries, ascending_insertEntry k v m.ascending⟩

/-- The map without a key. -/
def erase [DecidableEq κ] (m : SortedMap κ ν) (k : κ) : SortedMap κ ν :=
  ⟨m.entries.filter fun e => e.1 ≠ k, m.ascending.filter _⟩

/-! ## Reading back what was written -/

theorem lookup_insertEntry_self [DecidableEq κ] [DecidableLT κ] (k : κ) (v : ν)
    (entries : List (κ × ν)) : lookup k (insertEntry k v entries) = some v := by
  induction entries with
  | nil => simp [insertEntry, lookup]
  | cons entry rest ih =>
    unfold insertEntry
    split
    · simp [lookup]
    · split
      · simp [lookup]
      · next hne => simp [lookup, hne, ih]

theorem lookup_insertEntry_of_ne [DecidableEq κ] [DecidableLT κ] {k k' : κ} (hne : k' ≠ k) (v : ν)
    (entries : List (κ × ν)) : lookup k' (insertEntry k v entries) = lookup k' entries := by
  induction entries with
  | nil => simp [insertEntry, lookup, hne]
  | cons entry rest ih =>
    unfold insertEntry
    split
    · simp [lookup, hne]
    · split
      · next heq => subst heq; simp [lookup, hne]
      · simp [lookup, ih]

/-- A key that was just set has the new value. -/
@[simp] theorem get?_insert_self [DecidableEq κ] [DecidableLT κ]
    [Trans (α := κ) (· < ·) (· < ·) (· < ·)] [Std.Trichotomous (α := κ) (· < ·)]
    (m : SortedMap κ ν) (k : κ) (v : ν) : (m.insert k v).get? k = some v :=
  lookup_insertEntry_self k v m.entries

/-- Setting one key leaves every other key alone. -/
theorem get?_insert_of_ne [DecidableEq κ] [DecidableLT κ]
    [Trans (α := κ) (· < ·) (· < ·) (· < ·)] [Std.Trichotomous (α := κ) (· < ·)]
    {k k' : κ} (hne : k' ≠ k) (m : SortedMap κ ν) (v : ν) :
    (m.insert k v).get? k' = m.get? k' := lookup_insertEntry_of_ne hne v m.entries

end SortedMap

end SnmpSet
