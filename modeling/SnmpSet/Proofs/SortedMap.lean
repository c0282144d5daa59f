import SnmpSet.SortedMap

/-!
# Looking up, setting and erasing keys

A key is found beside the value of its entry. Setting a key that is present moves no
entry, and setting one that is not present adds its entry, which comes last if the key
lies beyond all others. Erasing a key takes nothing else away. What is found beside
each key makes up the whole map.
-/

namespace SnmpSet

namespace SortedMap

variable {κ ν : Type} [LT κ]

/-- A map is nothing but its entries. -/
theorem eq_of_entries_eq {m m' : SortedMap κ ν} (hentries : m.entries = m'.entries) : m = m' := by
  cases m
  cases m'
  congr

variable [DecidableEq κ] [DecidableLT κ]

omit [LT κ] [DecidableLT κ] in
/-- A value that is found beside a key makes up an entry with it. -/
theorem mem_of_lookup {k : κ} {v : ν} {entries : List (κ × ν)}
    (hlookup : lookup k entries = some v) : (k, v) ∈ entries := by
  induction entries with
  | nil => simp [lookup] at hlookup
  | cons entry rest ih =>
    by_cases heq : k = entry.1
    · have hv : entry.2 = v := by simpa [lookup, heq] using hlookup
      simp [heq, ← hv]
    · exact List.mem_cons_of_mem _ (ih (by simpa [lookup, heq] using hlookup))

variable [htrans : Trans (α := κ) (· < ·) (· < ·) (· < ·)] [hirrefl : Std.Irrefl (α := κ) (· < ·)]

omit [DecidableLT κ] htrans in
/-- Where the keys ascend, each entry is found beside its key. -/
theorem lookup_of_mem {k : κ} {v : ν} {entries : List (κ × ν)}
    (hascending : entries.Pairwise fun a b => a.1 < b.1) (hmem : (k, v) ∈ entries) :
    lookup k entries = some v := by
  induction entries with
  | nil => simp at hmem
  | cons entry rest ih =>
    obtain ⟨hhead, hrest⟩ := List.pairwise_cons.mp hascending
    rcases List.mem_cons.mp hmem with rfl | htail
    · simp [lookup]
    · have hlt : entry.1 < k := hhead _ htail
      have hne : k ≠ entry.1 := by
        rintro rfl
        exact hirrefl.irrefl _ hlt
      simpa [lookup, hne] using ih hrest htail

omit [DecidableEq κ] [DecidableLT κ] htrans hirrefl in
/-- The keys ascend. -/
theorem keys_ascending (m : SortedMap κ ν) : m.keys.Pairwise (· < ·) :=
  List.pairwise_map.mpr m.ascending

omit [DecidableEq κ] [DecidableLT κ] htrans in
/-- No key comes twice. -/
theorem nodup_keys (m : SortedMap κ ν) : m.keys.Nodup := by
  refine m.keys_ascending.imp ?_
  rintro k _ hlt rfl
  exact hirrefl.irrefl k hlt

omit [DecidableEq κ] [DecidableLT κ] htrans hirrefl in
/-- There are as many entries as keys. -/
theorem size_eq (m : SortedMap κ ν) : m.size = m.keys.length := by
  rw [size, keys, List.length_map]

/-- Setting a key that is present replaces its entry where it stands. -/
theorem insertEntry_of_lookup {k : κ} {w : ν} {entries : List (κ × ν)}
    (hascending : entries.Pairwise fun a b => a.1 < b.1) (hlookup : lookup k entries = some w) :
    ∃ before after, entries = before ++ (k, w) :: after ∧
      ∀ v, insertEntry k v entries = before ++ (k, v) :: after := by
  induction entries with
  | nil => simp [lookup] at hlookup
  | cons entry rest ih =>
    obtain ⟨key, u⟩ := entry
    obtain ⟨hhead, hrest⟩ := List.pairwise_cons.mp hascending
    by_cases heq : k = key
    · subst heq
      have hu : u = w := by simpa [lookup] using hlookup
      refine ⟨[], rest, by simp [hu], fun v => ?_⟩
      simp [insertEntry, hirrefl.irrefl k]
    · have htail : lookup k rest = some w := by simpa [lookup, heq] using hlookup
      obtain ⟨before, after, hsplit, hset⟩ := ih hrest htail
      have hlt : key < k := hhead _ (mem_of_lookup htail)
      have hnot : ¬k < key := fun h => hirrefl.irrefl k (htrans.trans h hlt)
      refine ⟨(key, u) :: before, after, by simp [hsplit], fun v => ?_⟩
      simp [insertEntry, hnot, heq, hset v]

omit htrans hirrefl in
/-- Setting a key that is not present adds its entry to those there are. -/
theorem insertEntry_perm {k : κ} (v : ν) {entries : List (κ × ν)}
    (hlookup : lookup k entries = none) : (insertEntry k v entries).Perm ((k, v) :: entries) := by
  induction entries with
  | nil => exact .refl _
  | cons entry rest ih =>
    obtain ⟨key, w⟩ := entry
    by_cases heq : k = key
    · simp [lookup, heq] at hlookup
    · have htail : lookup k rest = none := by simpa [lookup, heq] using hlookup
      rw [insertEntry, if_neg heq]
      split
      · exact .refl _
      · exact ((ih htail).cons _).trans (.swap _ _ _)

/-- Setting a key beyond all others puts its entry last. -/
theorem insertEntry_of_forall_lt {k : κ} {entries : List (κ × ν)}
    (hbeyond : ∀ e ∈ entries, e.1 < k) (v : ν) :
    insertEntry k v entries = entries ++ [(k, v)] := by
  induction entries with
  | nil => rfl
  | cons entry rest ih =>
    have hlt : entry.1 < k := hbeyond entry List.mem_cons_self
    have hnot : ¬k < entry.1 := fun h => hirrefl.irrefl k (htrans.trans h hlt)
    have hne : k ≠ entry.1 := by
      rintro rfl
      exact hirrefl.irrefl _ hlt
    have htail := ih fun e he => hbeyond e (List.mem_cons_of_mem _ he)
    rw [insertEntry, if_neg hnot, if_neg hne, htail, List.cons_append]

omit [DecidableLT κ] htrans in
/-- A key has a value just if the two make up an entry. -/
theorem get?_eq_some_iff {m : SortedMap κ ν} {k : κ} {v : ν} :
    m.get? k = some v ↔ (k, v) ∈ m.entries :=
  ⟨mem_of_lookup, lookup_of_mem m.ascending⟩

omit [DecidableLT κ] htrans in
/-- Erasing a key that is not present changes nothing. -/
theorem erase_eq_self {m : SortedMap κ ν} {k : κ} (hget : m.get? k = none) : m.erase k = m := by
  have hkept : ∀ e ∈ m.entries, decide (e.1 ≠ k) = true := by
    rintro ⟨k', v⟩ hmem
    rw [decide_eq_true_eq]
    rintro rfl
    have hsome := get?_eq_some_iff.mpr hmem
    rw [hget] at hsome
    cases hsome
  exact eq_of_entries_eq (List.filter_eq_self.mpr hkept)

omit [DecidableLT κ] htrans in
/-- A key that was just erased has no value. -/
@[simp] theorem get?_erase_self (m : SortedMap κ ν) (k : κ) : (m.erase k).get? k = none := by
  refine Option.eq_none_iff_forall_ne_some.mpr fun v hv => ?_
  have hmem : (k, v) ∈ m.entries.filter fun e => e.1 ≠ k := get?_eq_some_iff.mp hv
  simp at hmem

omit [DecidableLT κ] htrans in
/-- Erasing one key leaves every other key alone. -/
theorem get?_erase_of_ne {k k' : κ} (hne : k' ≠ k) (m : SortedMap κ ν) :
    (m.erase k).get? k' = m.get? k' := by
  refine Option.ext fun v => ?_
  rw [get?_eq_some_iff, get?_eq_some_iff, erase, List.mem_filter]
  simp [hne]

omit [DecidableLT κ] in
/-- Maps that have the same values beside all keys are equal. -/
theorem eq_of_get?_eq {m m' : SortedMap κ ν} (hget : ∀ k, m.get? k = m'.get? k) : m = m' := by
  have hmem : ∀ e, e ∈ m.entries ↔ e ∈ m'.entries := by
    intro ⟨k, v⟩
    rw [← get?_eq_some_iff, ← get?_eq_some_iff, hget k]
  have hnodup (n : SortedMap κ ν) : n.entries.Nodup := by
    refine List.Pairwise.imp ?_ n.ascending
    rintro e _ hlt rfl
    exact hirrefl.irrefl e.1 hlt
  have hperm := (List.perm_ext_iff_of_nodup (hnodup m) (hnodup m')).mpr hmem
  have hentries : m.entries = m'.entries :=
    hperm.eq_of_pairwise (fun _ _ _ _ hab hba => absurd (htrans.trans hab hba) (hirrefl.irrefl _))
      m.ascending m'.ascending
  exact eq_of_entries_eq hentries

variable [Std.Trichotomous (α := κ) (· < ·)]

omit hirrefl in
/-- Setting a key that is not present adds it to the keys. -/
theorem keys_insert_perm {m : SortedMap κ ν} {k : κ} (hget : m.get? k = none) (v : ν) :
    (m.insert k v).keys.Perm (k :: m.keys) :=
  (insertEntry_perm v hget).map Prod.fst

omit [DecidableLT κ] htrans [Std.Trichotomous (α := κ) (· < ·)] in
/-- A key has a value just if it is among the keys. -/
theorem contains_iff_mem_keys {m : SortedMap κ ν} {k : κ} : m.contains k ↔ k ∈ m.keys := by
  simp only [contains, Option.isSome_iff_exists, get?_eq_some_iff, keys, List.mem_map,
    Prod.exists, exists_and_right, exists_eq_right]

/-- Setting a key that is present leaves the keys alone. -/
theorem keys_insert_of_get? {m : SortedMap κ ν} {k : κ} {w : ν} (hget : m.get? k = some w)
    (v : ν) : (m.insert k v).keys = m.keys := by
  obtain ⟨before, after, hsplit, hset⟩ := insertEntry_of_lookup m.ascending hget
  have hleft : (m.insert k v).entries = before ++ (k, v) :: after := hset v
  rw [keys, keys, hleft, hsplit]
  simp

end SortedMap

end SnmpSet
