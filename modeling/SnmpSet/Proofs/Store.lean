import Mathlib.Data.List.Sort
import SnmpSet.Proofs.SortedMap
import SnmpSet.Store

/-!
# Writing to a store

An object that is put where an object already stands takes its place and moves
no other. Putting an object back as it was changes nothing at all. What is found at
each address makes up the whole store.
-/

namespace SnmpSet

namespace Store

/-- An object that is found stands at the address where it was looked for. -/
theorem oid_of_object? {s : Store} {oid : Oid} {o : ManagedObject}
    (hfound : s.object? oid = some o) : o.oid = oid :=
  s.own_oid (oid, o) (SortedMap.mem_of_lookup hfound)

/-- An object that is found has nothing but a body besides the address where it was looked
for. -/
theorem exists_body_of_object? {s : Store} {oid : Oid} {o : ManagedObject}
    (hfound : s.object? oid = some o) : ∃ body, o = ⟨oid, body⟩ := by
  obtain rfl := oid_of_object? hfound
  exact ⟨o.body, rfl⟩

/-- An address is in use just if an object is found there. -/
theorem contains_eq_isSome (s : Store) (oid : Oid) : s.contains oid = (s.object? oid).isSome := rfl

/-- There is one object at an address. -/
theorem body_unique {s : Store} {oid : Oid} {b b' : ObjectBody}
    (hfound : s.object? oid = some ⟨oid, b⟩) (hfound' : s.object? oid = some ⟨oid, b'⟩) : b = b' :=
  congrArg ManagedObject.body (Option.some.inj (hfound.symm.trans hfound'))

/-- Each object of a store is found at its own address. -/
theorem object?_of_mem_objects {s : Store} {o : ManagedObject} (hmem : o ∈ s.objects) :
    s.object? o.oid = some o := by
  obtain ⟨entry, hentry, rfl⟩ := List.mem_map.mp hmem
  rw [s.own_oid entry hentry]
  exact SortedMap.lookup_of_mem s.registered.ascending hentry

/-- An object that is found is one of the store's objects. -/
theorem mem_objects_of_object? {s : Store} {oid : Oid} {o : ManagedObject}
    (hfound : s.object? oid = some o) : o ∈ s.objects :=
  List.mem_map_of_mem (SortedMap.mem_of_lookup hfound)

/-- Stores with the same objects at all addresses are equal. -/
theorem eq_of_object?_eq {s s' : Store} (hobject : ∀ oid, s.object? oid = s'.object? oid) :
    s = s' := by
  have hregistered : s.registered = s'.registered := SortedMap.eq_of_get?_eq hobject
  cases s
  cases s'
  congr

/-- An object is found where it was put. -/
@[simp] theorem object?_put_self (s : Store) (o : ManagedObject) :
    (s.put o).object? o.oid = some o := by simp [object?, put]

/-- Putting an object leaves every other address alone. -/
theorem object?_put_of_ne {s : Store} {o : ManagedObject} {oid : Oid} (hne : oid ≠ o.oid) :
    (s.put o).object? oid = s.object? oid := by
  simp [object?, put, SortedMap.get?_insert_of_ne hne]

/-- Of two objects that are put at one address the second stays. -/
theorem put_put {s : Store} {o o' : ManagedObject} (hoid : o.oid = o'.oid) :
    (s.put o).put o' = s.put o' := by
  refine eq_of_object?_eq fun oid => ?_
  by_cases heq : oid = o'.oid
  · rw [heq, object?_put_self, object?_put_self]
  · rw [object?_put_of_ne heq, object?_put_of_ne heq, object?_put_of_ne (hoid ▸ heq)]

/-- Putting an object at an address that is not in use adds it to the objects. -/
theorem mem_objects_put {s : Store} {o o' : ManagedObject} (hfree : s.contains o.oid = false) :
    o' ∈ (s.put o).objects ↔ o' ∈ s.objects ∨ o' = o := by
  constructor
  · intro hmem
    have hfound := object?_of_mem_objects hmem
    by_cases heq : o'.oid = o.oid
    · rw [heq, object?_put_self] at hfound
      exact .inr (Option.some.inj hfound).symm
    · rw [object?_put_of_ne heq] at hfound
      exact .inl (mem_objects_of_object? hfound)
  · rintro (hmem | rfl)
    · have hfound := object?_of_mem_objects hmem
      have hne : o'.oid ≠ o.oid := by
        intro heq
        rw [← heq, contains_eq_isSome, hfound] at hfree
        cases hfree
      exact mem_objects_of_object? ((object?_put_of_ne hne).trans hfound)
    · exact mem_objects_of_object? (object?_put_self s o')

/-- Putting an object back as it was changes nothing. -/
theorem put_eq_self {s : Store} {o : ManagedObject} (hfound : s.object? o.oid = some o) :
    s.put o = s := by
  refine eq_of_object?_eq fun oid => ?_
  by_cases heq : oid = o.oid
  · rw [heq, object?_put_self, hfound]
  · exact object?_put_of_ne heq

/-- Putting an object in the place of another leaves the addresses in use alone. -/
theorem addresses_put {s : Store} {o : ManagedObject} (hused : (s.object? o.oid).isSome) :
    (s.put o).addresses = s.addresses := by
  obtain ⟨old, hold⟩ := Option.isSome_iff_exists.mp hused
  exact SortedMap.keys_insert_of_get? hold o

/-- No object is found at an address whose object was removed. -/
@[simp] theorem object?_remove_self (s : Store) (oid : Oid) :
    (s.remove oid).1.object? oid = none := by simp [object?, remove, erase]

/-- Removing an object leaves every other address alone. -/
theorem object?_remove_of_ne {s : Store} {removed oid : Oid} (hne : oid ≠ removed) :
    (s.remove removed).1.object? oid = s.object? oid := by
  simp [object?, remove, erase, SortedMap.get?_erase_of_ne hne]

/-- Just the addresses of a store are in use. -/
theorem contains_iff_mem_addresses {s : Store} {oid : Oid} :
    s.contains oid ↔ oid ∈ s.addresses := SortedMap.contains_iff_mem_keys

/-- The addresses of a store ascend. -/
theorem addresses_ascending (s : Store) : s.addresses.Pairwise (· < ·) :=
  s.registered.keys_ascending

/-- A store has as many objects as addresses. -/
theorem size_eq (s : Store) : s.size = s.addresses.length := s.registered.size_eq

/-- No address of a store comes twice. -/
theorem nodup_addresses (s : Store) : s.addresses.Nodup := s.registered.nodup_keys

/-- Stores with objects at the same addresses list the same addresses. -/
theorem addresses_eq_of_isSome {s s' : Store}
    (hsome : ∀ oid, (s.object? oid).isSome = (s'.object? oid).isSome) :
    s.addresses = s'.addresses := by
  refine s.addresses_ascending.eq_of_mem_iff s'.addresses_ascending fun oid => ?_
  rw [← contains_iff_mem_addresses, ← contains_iff_mem_addresses, contains_eq_isSome,
    contains_eq_isSome, hsome]

/-- Putting an object at an address that is not in use adds the address to those there
are. -/
theorem addresses_put_perm {s : Store} {o : ManagedObject} (hfree : s.contains o.oid = false) :
    (s.put o).addresses.Perm (o.oid :: s.addresses) := by
  refine SortedMap.keys_insert_perm ?_ o
  simpa [contains, SortedMap.contains] using hfree

end Store

end SnmpSet
