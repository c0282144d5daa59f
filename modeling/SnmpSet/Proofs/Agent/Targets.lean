import SnmpSet.Agent
import SnmpSet.Proofs.Batch.Steps
import SnmpSet.Proofs.Store

/-!
# The targets of a request

A request whose bindings address different objects of the store is paired with
these objects as they are. Any other request is refused at the first binding
that repeats an address or has no object. What a batch has made of its targets
is written back to their own addresses and to no others.
-/

namespace SnmpSet

/-- A target as a batch on a store starts with it: nothing has happened to its
write, and its object is the one at its address. -/
structure Target.Fresh (store : Store) (t : Target) : Prop where
  created : t.write.phase = .created
  prior_eq : t.write.prior = t.body.value
  found : store.object? t.write.oid = some ⟨t.write.oid, t.body⟩

/-- A binding is paired with the object at its address in a fresh target. -/
theorem Target.fresh_ofBinding {store : Store} {b : VarBind} {o : ManagedObject}
    (hfound : store.object? b.oid = some o) : (Target.ofBinding b o.body).Fresh store where
  created := rfl
  prior_eq := rfl
  found := by
    have hoid : o.oid = b.oid := Store.oid_of_object? hfound
    change store.object? b.oid = some ⟨b.oid, o.body⟩
    rw [hfound, ← hoid]

namespace Agent

/-- Bindings that address objects of the store, each a different one. -/
structure Addressed (store : Store) (bindings : List VarBind) : Prop where
  nodup : (bindings.map VarBind.oid).Nodup
  found : ∀ b ∈ bindings, (store.object? b.oid).isSome

/-- Why a binding is refused for its address, given the addresses before it. -/
def addressRefusal? (store : Store) (seen : List Oid) (b : VarBind) : Option Refusal :=
  if b.oid ∈ seen then some (.inconsistentValue s!"{b.oid} appears more than once")
  else if (store.object? b.oid).isSome then none
  else some .noCreation

/-- A binding is refused for its address as a repetition, or else for want of an object. -/
theorem status_of_addressRefusal? {store : Store} {seen : List Oid} {b : VarBind} {e : Refusal}
    (hrefused : addressRefusal? store seen b = some e) :
    e.status = if b.oid ∈ seen then .inconsistentValue else .noCreation := by
  unfold addressRefusal? at hrefused
  by_cases hseen : b.oid ∈ seen
  · rw [if_pos hseen] at hrefused ⊢
    obtain rfl := Option.some.inj hrefused
    rfl
  · rw [if_neg hseen] at hrefused ⊢
    split at hrefused
    · simp at hrefused
    · obtain rfl := Option.some.inj hrefused
      rfl

/-- Only the addresses before a binding count, not their order. -/
theorem addressRefusal?_congr {store : Store} {seen seen' : List Oid} {b : VarBind}
    (hmem : b.oid ∈ seen ↔ b.oid ∈ seen') :
    addressRefusal? store seen b = addressRefusal? store seen' b := by
  simp [addressRefusal?, hmem]

variable {store : Store}

/-- Paired bindings have fresh targets, one for each, at addresses not seen before. -/
theorem targetsOf_ok {seen : List Oid} {bindings : List VarBind} {ts : List Target}
    (hpaired : targetsOf store seen bindings = .ok ts) :
    ts.map Target.binding = bindings ∧ (∀ t ∈ ts, t.Fresh store) ∧
      (bindings.map VarBind.oid).Nodup ∧ ∀ b ∈ bindings, b.oid ∉ seen := by
  induction bindings generalizing seen ts with
  | nil =>
    obtain rfl : [] = ts := by simpa [targetsOf] using hpaired
    simp
  | cons b bindings ih =>
    unfold targetsOf at hpaired
    split at hpaired
    · simp at hpaired
    · next hunseen =>
      split at hpaired
      · simp at hpaired
      · next o hfound =>
        split at hpaired
        · simp at hpaired
        · next rest hrest =>
          obtain rfl := Except.ok.inj hpaired
          obtain ⟨hbindings, hfresh, hnodup, hseen⟩ := ih hrest
          refine ⟨by simp [hbindings, Target.binding, Target.ofBinding, PendingWrite.start,
            PendingWrite.hide], ?_, ?_, ?_⟩
          · exact List.forall_mem_cons.mpr ⟨Target.fresh_ofBinding hfound, hfresh⟩
          · refine List.nodup_cons.mpr ⟨fun hmem => ?_, hnodup⟩
            obtain ⟨b', hb', hoid⟩ := List.mem_map.mp hmem
            exact hseen b' hb' (by simp [hoid])
          · refine List.forall_mem_cons.mpr ⟨hunseen, fun b' hb' hmem => ?_⟩
            exact hseen b' hb' (List.mem_cons_of_mem _ hmem)

/-- A single binding for an object of the store is paired with it. -/
theorem targetsOf_singleton {b : VarBind} {body : ObjectBody}
    (hfound : store.object? b.oid = some ⟨b.oid, body⟩) :
    targetsOf store [] [b] = .ok [.ofBinding b body] := by
  simp [targetsOf, hfound]

/-- Paired bindings address objects of the store, each a different one. -/
theorem addressed_of_targetsOf {bindings : List VarBind} {ts : List Target}
    (hpaired : targetsOf store [] bindings = .ok ts) : Addressed store bindings := by
  obtain ⟨hbindings, hfresh, hnodup, -⟩ := targetsOf_ok hpaired
  refine ⟨hnodup, fun b hb => ?_⟩
  rw [← hbindings] at hb
  obtain ⟨t, ht, rfl⟩ := List.mem_map.mp hb
  simp [Target.binding, (hfresh t ht).found]

/-- Bindings that cannot be paired have a first one that is refused for its address. -/
theorem targetsOf_error {seen : List Oid} {bindings : List VarBind} {position : Nat} {e : Refusal}
    (hrefused : targetsOf store seen bindings = .error (position, e)) :
    ∃ before b after, bindings = before ++ b :: after ∧ position = before.length ∧
      Addressed store before ∧ (∀ u ∈ before, u.oid ∉ seen) ∧
      addressRefusal? store (before.map VarBind.oid ++ seen) b = some e := by
  induction bindings generalizing seen position with
  | nil => simp [targetsOf] at hrefused
  | cons b bindings ih =>
    unfold targetsOf at hrefused
    split at hrefused
    · next hseen =>
      obtain ⟨rfl, rfl⟩ := Prod.mk.inj (Except.error.inj hrefused)
      exact ⟨[], b, bindings, rfl, rfl, ⟨by simp, by simp⟩, by simp,
        by simp [addressRefusal?, hseen]⟩
    · next hunseen =>
      split at hrefused
      · next hmissing =>
        obtain ⟨rfl, rfl⟩ := Prod.mk.inj (Except.error.inj hrefused)
        exact ⟨[], b, bindings, rfl, rfl, ⟨by simp, by simp⟩, by simp,
          by simp [addressRefusal?, hunseen, hmissing]⟩
      · next o hfound =>
        split at hrefused
        · next position' e' hrest =>
          obtain ⟨rfl, rfl⟩ := Prod.mk.inj (Except.error.inj hrefused)
          obtain ⟨before, b', after, rfl, rfl, haddressed, hbefore, hb'⟩ := ih hrest
          refine ⟨b :: before, b', after, rfl, rfl, ⟨?_, ?_⟩, ?_, ?_⟩
          · refine List.nodup_cons.mpr ⟨fun hmem => ?_, haddressed.nodup⟩
            obtain ⟨u, hu, hoid⟩ := List.mem_map.mp hmem
            exact hbefore u hu (by simp [hoid])
          · exact List.forall_mem_cons.mpr ⟨by simp [hfound], haddressed.found⟩
          · refine List.forall_mem_cons.mpr ⟨hunseen, fun u hu hmem => ?_⟩
            exact hbefore u hu (List.mem_cons_of_mem _ hmem)
          · rw [← hb']
            refine addressRefusal?_congr ?_
            simp only [List.map_cons, List.cons_append, List.mem_cons, List.mem_append]
            exact or_left_comm
        · simp at hrefused

/-- Bindings that address objects of the store, each a different one, are paired. -/
theorem exists_targetsOf {bindings : List VarBind} (haddressed : Addressed store bindings) :
    ∃ ts, targetsOf store [] bindings = .ok ts := by
  cases hpaired : targetsOf store [] bindings with
  | ok ts => exact ⟨ts, rfl⟩
  | error failure =>
    obtain ⟨before, b, after, rfl, -, -, -, hrefused⟩ := targetsOf_error hpaired
    have hunseen : b.oid ∉ before.map VarBind.oid := by
      have hnodup := haddressed.nodup
      rw [List.map_append, List.map_cons, List.nodup_append] at hnodup
      exact fun hmem => hnodup.2.2 _ hmem _ List.mem_cons_self rfl
    have hfound := haddressed.found b (by simp)
    simp [addressRefusal?, hunseen, hfound] at hrefused

/-- A request has targets if it is neither empty nor too big and its bindings are paired. -/
theorem resolve_eq_ok {a : Agent} {bindings : List VarBind} {ts : List Target} :
    a.resolve bindings = .ok ts ↔ bindings ≠ [] ∧ bindings.length ≤ a.maxBindings ∧
      targetsOf a.store [] bindings = .ok ts := by
  unfold resolve
  split
  · next hempty => simp [hempty]
  split
  · next hbig => simp [Nat.not_le.mpr hbig]
  next hne hbig =>
  split
  · next hunpaired => simp [hunpaired]
  · next hpaired => simp [hne, Nat.not_lt.mp hbig, hpaired]

/-! ## Writing back -/

/-- Writing back leaves every address alone that no target has. -/
theorem object?_writeBack_of_forall_ne {ts : List Target} {oid : Oid}
    (hne : ∀ t ∈ ts, t.write.oid ≠ oid) : (writeBack store ts).object? oid = store.object? oid := by
  induction ts generalizing store with
  | nil => rfl
  | cons t ts ih =>
    obtain ⟨hhead, htail⟩ := List.forall_mem_cons.mp hne
    exact (ih htail).trans (Store.object?_put_of_ne (Ne.symm hhead))

/-- After writing back, each of several targets at different addresses is found at its own. -/
theorem object?_writeBack_of_mem {ts : List Target} (hnodup : (ts.map fun t => t.write.oid).Nodup)
    {t : Target} (ht : t ∈ ts) :
    (writeBack store ts).object? t.write.oid = some ⟨t.write.oid, t.body⟩ := by
  induction ts generalizing store with
  | nil => simp at ht
  | cons u ts ih =>
    obtain ⟨hhead, htail⟩ := List.nodup_cons.mp hnodup
    rcases List.mem_cons.mp ht with rfl | hmem
    · have hne : ∀ v ∈ ts, v.write.oid ≠ t.write.oid := by
        intro v hv heq
        exact hhead (List.mem_map.mpr ⟨v, hv, heq⟩)
      refine (object?_writeBack_of_forall_ne hne).trans ?_
      exact Store.object?_put_self store ⟨t.write.oid, t.body⟩
    · exact ih htail hmem

/-- Writing back objects that are as they were changes nothing. -/
theorem writeBack_eq_self {ts : List Target}
    (hsame : ∀ t ∈ ts, store.object? t.write.oid = some ⟨t.write.oid, t.body⟩) :
    writeBack store ts = store := by
  induction ts with
  | nil => rfl
  | cons t ts ih =>
    obtain ⟨hhead, htail⟩ := List.forall_mem_cons.mp hsame
    have hput : store.put ⟨t.write.oid, t.body⟩ = store := Store.put_eq_self hhead
    simpa [writeBack, hput] using ih htail

/-- Writing back leaves the addresses in use alone. -/
theorem addresses_writeBack {ts : List Target}
    (hused : ∀ t ∈ ts, (store.object? t.write.oid).isSome) :
    (writeBack store ts).addresses = store.addresses := by
  induction ts generalizing store with
  | nil => rfl
  | cons t ts ih =>
    obtain ⟨hhead, htail⟩ := List.forall_mem_cons.mp hused
    refine (ih fun u hu => ?_).trans (Store.addresses_put hhead)
    by_cases heq : u.write.oid = t.write.oid
    · rw [heq, Store.object?_put_self store ⟨t.write.oid, t.body⟩]
      rfl
    · rw [Store.object?_put_of_ne heq]
      exact htail u hu

end Agent

end SnmpSet
