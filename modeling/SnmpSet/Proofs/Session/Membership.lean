import Mathlib.Data.List.Induction
import Mathlib.Data.List.Sort
import SnmpSet.Proofs.Session.Writes

/-!
# Objects that come and go

Between the requests that an agent serves, objects can be added to its store and removed
from it. At each address there is the object that was added there last, unless it was
removed since, and the value that it holds is the one that it came with, changed by what
requests wrote to it. An object that takes the place of another has nothing of it, and
requests add and remove no objects.
-/

namespace SnmpSet

namespace Store

/-- A call that is made to a store. -/
inductive Call where
  /-- Adds an object, over any other object at its address. -/
  | add (o : ManagedObject)
  /-- Removes the object at an address. -/
  | remove (oid : Oid)
  /-- Serves a request under a policy and a limit on bindings. -/
  | serve (policy : WritePolicy) (maxBindings : Nat) (request : Request)

/-- The call adds or removes an object at an address, so it displaces any that is there. -/
def Call.displaces (oid : Oid) : Call → Bool
  | add o => o.oid = oid
  | remove removed => removed = oid
  | serve .. => false

/-- Serves a request on a store, under a policy and a limit on bindings. -/
def serve (s : Store) (policy : WritePolicy) (maxBindings : Nat) (request : Request) : Exchange :=
  (Agent.mk s policy maxBindings).serve request

/-- The store after a call. -/
def after (s : Store) : Call → Store
  | .add o => (s.add o).1
  | .remove oid => (s.remove oid).1
  | .serve policy maxBindings request => (s.serve policy maxBindings request).after.store

/-- The store after calls. -/
def afterCalls (s : Store) (calls : List Call) : Store := calls.foldl after s

/-- The call is an accepted request with a binding for an address. -/
def isWriteTo (s : Store) (oid : Oid) : Call → Bool
  | .serve policy maxBindings request => (s.serve policy maxBindings request).isWriteTo oid
  | .add _ | .remove _ => false

/-- What a call makes of the value of an object that it does not displace. -/
inductive Leads (s : Store) (oid : Oid) (kind : Kind) (v : Value) : Call → Value → Prop where
  /-- An accepted request writes what the object's kind makes of the proposal. -/
  | written {policy : WritePolicy} {maxBindings : Nat} {request : Request} {proposed : Value}
      {c : Committed} (hwrite : (s.serve policy maxBindings request).isWriteTo oid = true)
      (hproposal : request.proposal? oid = some proposed)
      (hcommitted : kind.commit v proposed = .ok c) :
      Leads s oid kind v (.serve policy maxBindings request) c.stored
  /-- Any other call leaves the value alone. -/
  | kept {call : Call} (hnot : s.isWriteTo oid call = false) : Leads s oid kind v call v

/-- The value of an object goes from one to another over calls that do not displace it. -/
inductive History (oid : Oid) (kind : Kind) : Store → Value → List Call → Value → Prop where
  | nil {s : Store} {v : Value} : History oid kind s v [] v
  | cons {s : Store} {v v' v'' : Value} {call : Call} {later : List Call}
      (hleads : s.Leads oid kind v call v')
      (hhistory : History oid kind (s.after call) v' later v'') :
      History oid kind s v (call :: later) v''

variable {s : Store} {oid : Oid} {body : ObjectBody} {call : Call} {calls : List Call}

theorem afterCalls_append (s : Store) (first later : List Call) :
    s.afterCalls (first ++ later) = (s.afterCalls first).afterCalls later := List.foldl_append

/-! ## One call -/

/-- Requests add and remove no objects. -/
theorem isSome_object?_serve (s : Store) (policy : WritePolicy) (maxBindings : Nat)
    (request : Request) (oid : Oid) :
    ((s.serve policy maxBindings request).after.store.object? oid).isSome =
      (s.object? oid).isSome := by
  obtain ⟨store, hafter, hframes⟩ := Agent.exists_store_serve ⟨s, policy, maxBindings⟩ request
  have hsome := congrArg Option.isSome (hframes oid)
  rw [serve, hafter]
  simpa [frame?] using hsome

/-- An addition leaves each object alone that it does not displace. -/
theorem object?_after_add {o : ManagedObject} (hnot : (Call.add o).displaces oid = false) :
    (s.after (.add o)).object? oid = s.object? oid := by
  have hne : o.oid ≠ oid := by simpa [Call.displaces] using hnot
  exact object?_put_of_ne hne.symm

/-- A removal leaves each object alone that it does not displace. -/
theorem object?_after_remove {removed : Oid} (hnot : (Call.remove removed).displaces oid = false) :
    (s.after (.remove removed)).object? oid = s.object? oid := by
  have hne : removed ≠ oid := by simpa [Call.displaces] using hnot
  exact object?_remove_of_ne hne.symm

/-- A call adds and removes no object at an address that it does not displace. -/
theorem isSome_object?_after (hnot : call.displaces oid = false) :
    ((s.after call).object? oid).isSome = (s.object? oid).isSome := by
  cases call with
  | add o => rw [object?_after_add hnot]
  | remove removed => rw [object?_after_remove hnot]
  | serve policy maxBindings request => exact isSome_object?_serve s policy maxBindings request oid

/-- A call leads an object that it does not displace to its next value. -/
theorem exists_leads (hfound : s.object? oid = some ⟨oid, body⟩)
    (hnot : call.displaces oid = false) :
    ∃ v, s.Leads oid body.kind body.value call v ∧
      (s.after call).object? oid = some ⟨oid, { body with value := v }⟩ := by
  cases call with
  | add o => exact ⟨body.value, .kept rfl, (object?_after_add hnot).trans hfound⟩
  | remove removed => exact ⟨body.value, .kept rfl, (object?_after_remove hnot).trans hfound⟩
  | serve policy maxBindings request =>
    rcases Agent.writes_or_keeps ⟨s, policy, maxBindings⟩ request oid with
      ⟨hwrite, requester, body', proposed, c, hwrites⟩ | ⟨hunwritten, hkept⟩
    · obtain rfl : body = body' := Agent.body_of_writes hfound hwrites
      have hproposal := hwrites.proposal?_eq
      rw [Agent.request_serve] at hproposal
      exact ⟨c.stored, .written hwrite hproposal hwrites.committed, hwrites.stored⟩
    · exact ⟨body.value, .kept hunwritten, hkept.trans hfound⟩

/-- Requests leave the addresses in use alone. -/
theorem addresses_serve (s : Store) (policy : WritePolicy) (maxBindings : Nat)
    (request : Request) :
    (s.serve policy maxBindings request).after.store.addresses = s.addresses := by
  refine addresses_eq_of_isSome fun oid => ?_
  exact isSome_object?_serve s policy maxBindings request oid

/-! ## Call after call -/

/-- An object that no call displaces has a history of its own, and is the same but for its
value. -/
theorem exists_history (hfound : s.object? oid = some ⟨oid, body⟩)
    (hnot : ∀ call ∈ calls, call.displaces oid = false) :
    ∃ v, History oid body.kind s body.value calls v ∧
      (s.afterCalls calls).object? oid = some ⟨oid, { body with value := v }⟩ := by
  induction calls generalizing s body with
  | nil => exact ⟨body.value, .nil, hfound⟩
  | cons call calls ih =>
    obtain ⟨hfirst, hlater⟩ := List.forall_mem_cons.mp hnot
    obtain ⟨v, hleads, hfound'⟩ := exists_leads hfound hfirst
    obtain ⟨v', hhistory, hlast⟩ := ih hfound' hlater
    exact ⟨v', .cons hleads hhistory, hlast⟩

/-- An object that is there after calls on an empty store was added by one of them, and none
of those that came later displaces it. -/
theorem exists_add_of_contains (hcontains : (empty.afterCalls calls).contains oid = true) :
    ∃ first o later, calls = first ++ .add o :: later ∧ o.oid = oid ∧
      ∀ call ∈ later, call.displaces oid = false := by
  induction calls using List.reverseRecOn with
  | nil => cases hcontains
  | append_singleton calls call ih =>
    rw [afterCalls_append, contains_eq_isSome] at hcontains
    change ((empty.afterCalls calls).after call |>.object? oid).isSome = true at hcontains
    cases hdisplaces : call.displaces oid with
    | true =>
      cases call with
      | add o => exact ⟨calls, o, [], rfl, by simpa [Call.displaces] using hdisplaces, by simp⟩
      | remove removed =>
        -- the call has removed the object
        obtain rfl : removed = oid := by simpa [Call.displaces] using hdisplaces
        simp [after] at hcontains
      | serve policy maxBindings request => cases hdisplaces
    | false =>
      rw [isSome_object?_after hdisplaces, ← contains_eq_isSome] at hcontains
      obtain ⟨first, o, later, rfl, hoid, hlater⟩ := ih hcontains
      refine ⟨first, o, later ++ [call], by simp, hoid, ?_⟩
      rw [List.forall_mem_append]
      exact ⟨hlater, List.forall_mem_singleton.mpr hdisplaces⟩

/-- What a store tells of the calls that were made to it when it was new. -/
structure TellsCalls (calls : List Call) (s : Store) : Prop where
  /-- At an address is the object that was added there last and is not displaced since. But
  for its value it is as it was then, and its value has come from the one that it had by
  what requests wrote to it. -/
  found : ∀ first o later, calls = first ++ .add o :: later →
    (∀ call ∈ later, call.displaces o.oid = false) →
    ∃ v, History o.oid o.body.kind (((empty.afterCalls first).add o).1) o.body.value later v ∧
      s.object? o.oid = some ⟨o.oid, { o.body with value := v }⟩
  /-- An address is in use just if an object was added there and not displaced since. -/
  contains_iff : ∀ oid, s.contains oid ↔ ∃ first o later, calls = first ++ .add o :: later ∧
    o.oid = oid ∧ ∀ call ∈ later, call.displaces oid = false
  /-- An object that is found stands at its own address. -/
  own_oid : ∀ oid o, s.object? oid = some o → o.oid = oid
  /-- An address is in use just if an object is found there. -/
  agrees : ∀ oid, s.contains oid = (s.object? oid).isSome
  /-- The addresses are listed in ascending order. -/
  ascending : s.addresses.Pairwise (· < ·)
  /-- Just the addresses of the objects that are found are listed. -/
  listed : ∀ oid, oid ∈ s.addresses ↔ (s.object? oid).isSome
  /-- There are as many objects as addresses. -/
  counted : s.size = s.addresses.length
  /-- An addition hands out the object that it replaces, with the value that it has by then,
  and the new object begins with its own. -/
  replaced : ∀ o, (s.add o).2 = s.object? o.oid ∧ (s.add o).1.object? o.oid = some o
  /-- A removal hands out the object that was there. -/
  removed : ∀ oid, (s.remove oid).2 = s.object? oid ∧ (s.remove oid).1.object? oid = none
  /-- No request adds or removes an address. -/
  kept : ∀ policy maxBindings request,
    (s.serve policy maxBindings request).after.store.addresses = s.addresses

/-- A store that was new tells of all calls made to it, whatever their number and order. -/
theorem tells_calls (calls : List Call) : TellsCalls calls (empty.afterCalls calls) where
  found first o later hcalls hlater := by
    subst hcalls
    rw [afterCalls_append]
    exact exists_history (object?_put_self _ o) hlater
  contains_iff oid := by
    refine ⟨exists_add_of_contains, ?_⟩
    rintro ⟨first, o, later, rfl, rfl, hlater⟩
    obtain ⟨v, -, hfound⟩ := exists_history (object?_put_self (empty.afterCalls first) o) hlater
    rw [afterCalls_append, contains_eq_isSome]
    exact Option.isSome_of_eq_some hfound
  own_oid _ _ hfound := oid_of_object? hfound
  agrees := contains_eq_isSome _
  ascending := addresses_ascending _
  listed oid := by rw [← contains_iff_mem_addresses, contains_eq_isSome]
  counted := size_eq _
  replaced o := ⟨rfl, object?_put_self _ o⟩
  removed oid := ⟨rfl, object?_remove_self _ oid⟩
  kept := addresses_serve _

/-- A counter and an object beside it are written together, a plain object takes the place
of the counter and is written too, and the object beside it is removed. -/
def replacementCalls : List Call :=
  [.add (.testAndIncr ⟨[1, 1]⟩ 7),
    .add (.plain ⟨[1, 2]⟩ (.octets [65])),
    .serve .grantAll 64 (.set none [⟨⟨[1, 1]⟩, .integer 7⟩, ⟨⟨[1, 2]⟩, .octets [66]⟩]),
    .add (.plain ⟨[1, 1]⟩ (.integer 3)),
    .serve .grantAll 64 (.get ⟨[1, 1]⟩),
    .serve .grantAll 64 (.set none [⟨⟨[1, 1]⟩, .integer 9⟩]),
    .remove ⟨[1, 2]⟩]

/-- The counter is handed out with the value that it was incremented to, and the value of
the plain object has come from its own alone. -/
theorem replacementCalls_told :
    TellsCalls replacementCalls (empty.afterCalls replacementCalls) ∧
    (empty.afterCalls replacementCalls).addresses = [⟨[1, 1]⟩] ∧
    ((empty.afterCalls (replacementCalls.take 3)).add (.plain ⟨[1, 1]⟩ (.integer 3))).2.map
      (fun o => o.body.value) = some (.integer 8) ∧
    ∃ v, (empty.afterCalls replacementCalls).value? ⟨[1, 1]⟩ = some v ∧ v = .integer 9 ∧
      History ⟨[1, 1]⟩ .plain (empty.afterCalls (replacementCalls.take 4)) (.integer 3)
        (replacementCalls.drop 4) v := by
  have htells := tells_calls replacementCalls
  obtain ⟨v, hhistory, hfound⟩ := htells.found (replacementCalls.take 3)
    (.plain ⟨[1, 1]⟩ (.integer 3)) (replacementCalls.drop 4) rfl (by decide)
  have hlast := value?_of_object? hfound
  have hnine : (empty.afterCalls replacementCalls).value? ⟨[1, 1]⟩ = some (.integer 9) := rfl
  exact ⟨htells, rfl, rfl, v, hlast, Option.some.inj (hlast.symm.trans hnine), hhistory⟩

end Store

end SnmpSet
