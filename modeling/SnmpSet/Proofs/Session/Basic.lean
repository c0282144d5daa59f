import SnmpSet.Proofs.Agent.Frame
import SnmpSet.Session

/-!
# The course of a session

Wherever a session is cut, its exchanges and its requests come apart alike. Whatever
its requests are, a session leaves nothing of the agent changed but values.
-/

namespace SnmpSet

/-- The value at an address is that of the object found there. -/
theorem Store.value?_of_object? {s : Store} {oid : Oid} {o : ManagedObject}
    (hfound : s.object? oid = some o) : s.value? oid = some o.body.value := by
  rw [value?, hfound, Option.map_some]

namespace Agent

variable {a : Agent} {requests : List Request}

@[simp] theorem before_serve (a : Agent) (request : Request) : (a.serve request).before = a := by
  cases request <;> rfl

@[simp] theorem request_serve (a : Agent) (request : Request) :
    (a.serve request).request = request := by
  cases request <;> rfl

/-- The exchanges of a session serve its requests, one after another. -/
theorem map_request_session (a : Agent) (requests : List Request) :
    (a.session requests).map Exchange.request = requests := by
  induction requests generalizing a with
  | nil => rfl
  | cons request requests ih => rw [session, List.map_cons, request_serve, ih]

/-- Wherever the exchanges of a session are cut, its requests can be cut alike. -/
theorem exists_split_of_session {before rest : List Exchange}
    (hsplit : a.session requests = before ++ rest) :
    ∃ first later, requests = first ++ later ∧ a.session first = before ∧
      (a.afterAll first).session later = rest := by
  induction before generalizing a requests with
  | nil => exact ⟨[], requests, rfl, rfl, hsplit⟩
  | cons x before ih =>
    cases requests with
    | nil => simp [session] at hsplit
    | cons request requests =>
      rw [session, List.cons_append, List.cons.injEq] at hsplit
      obtain ⟨rfl, htail⟩ := hsplit
      obtain ⟨first, later, rfl, rfl, hrest⟩ := ih htail
      exact ⟨request :: first, later, rfl, rfl, hrest⟩

/-- A session with a first exchange begins by serving a request. -/
theorem exists_serve_of_session {x : Exchange} {rest : List Exchange}
    (hfirst : a.session requests = x :: rest) :
    ∃ request later, requests = request :: later ∧ x = a.serve request ∧
      (a.serve request).after.session later = rest := by
  cases requests with
  | nil => simp [session] at hfirst
  | cons request later =>
    rw [session, List.cons.injEq] at hfirst
    exact ⟨request, later, rfl, hfirst.1.symm, hfirst.2⟩

/-- Each exchange of a session serves one of the requests, on the agent that those
before it leave. -/
theorem exists_of_mem_session {x : Exchange} (hx : x ∈ a.session requests) :
    ∃ first request later, requests = first ++ request :: later ∧
      x = (a.afterAll first).serve request := by
  obtain ⟨before, rest, hsplit⟩ := List.append_of_mem hx
  obtain ⟨first, later, rfl, -, hrest⟩ := exists_split_of_session hsplit
  obtain ⟨request, later, rfl, rfl, -⟩ := exists_serve_of_session hrest
  exact ⟨first, request, later, rfl, rfl⟩

/-- A request leaves nothing of an agent changed but its store, and keeps all frames. -/
theorem exists_store_serve (a : Agent) (request : Request) :
    ∃ store, (a.serve request).after = { a with store } ∧
      ∀ oid, store.frame? oid = a.store.frame? oid := by
  cases request with
  | set requester bindings => exact exists_store_set a requester bindings
  | get _ | propose _ _ => exact ⟨a.store, rfl, fun _ => rfl⟩

/-- A session leaves nothing of an agent changed but its store, and keeps all frames. -/
theorem exists_store_afterAll (a : Agent) (requests : List Request) :
    ∃ store, a.afterAll requests = { a with store } ∧
      ∀ oid, store.frame? oid = a.store.frame? oid := by
  induction requests generalizing a with
  | nil => exact ⟨a.store, rfl, fun _ => rfl⟩
  | cons request requests ih =>
    obtain ⟨store, hafter, hframes⟩ := exists_store_serve a request
    obtain ⟨store', hafter', hframes'⟩ := ih { a with store }
    refine ⟨store', ?_, fun oid => (hframes' oid).trans (hframes oid)⟩
    rw [afterAll, hafter, hafter']

/-- A session keeps the policy of an agent. -/
theorem policy_afterAll (a : Agent) (requests : List Request) :
    (a.afterAll requests).policy = a.policy := by
  obtain ⟨store, hafter, -⟩ := exists_store_afterAll a requests
  rw [hafter]

/-- A session keeps the keys of an agent bounded. -/
theorem keysBounded_afterAll (hbounded : a.store.KeysBounded) (requests : List Request) :
    (a.afterAll requests).store.KeysBounded := by
  obtain ⟨store, hafter, hframes⟩ := exists_store_afterAll a requests
  rw [hafter]
  exact hbounded.of_frames hframes

end Agent

end SnmpSet
