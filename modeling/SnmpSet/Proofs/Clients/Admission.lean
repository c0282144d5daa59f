import SnmpSet.Clients
import SnmpSet.Proofs.Agent.Targets
import SnmpSet.Proofs.Session.Basic

/-!
# What a request locks

A request that is admitted locks the addresses of its objects in ascending order, each of
them once. Which requests are admitted depends on the limit of the agent and on the addresses
in use, not on what the objects hold.
-/

namespace SnmpSet

namespace Oid

theorem le_trans {a b c : Oid} (hab : a ≤ b) (hbc : b ≤ c) : a ≤ c :=
  List.le_trans (α := UInt32) hab hbc

theorem le_total (a b : Oid) : a ≤ b ∨ b ≤ a := List.le_total (α := UInt32) a.subIds b.subIds

theorem lt_of_le_of_ne {a b : Oid} (hle : a ≤ b) (hne : a ≠ b) : a < b := by
  rcases List.le_iff_lt_or_eq.mp hle with hlt | heq
  · exact hlt
  · exact absurd (Oid.ext heq) hne

end Oid

namespace Agent

/-- Two agents with the same policy, the same limit and the same addresses in use. -/
structure Resembles (a a' : Agent) : Prop where
  policy_eq : a.policy = a'.policy
  maxBindings_eq : a.maxBindings = a'.maxBindings
  contains_eq : ∀ oid, a.store.contains oid = a'.store.contains oid

variable {a a' : Agent} {store store' : Store} {bindings : List VarBind} {ts : List Target}

theorem Resembles.refl (a : Agent) : a.Resembles a := ⟨rfl, rfl, fun _ => rfl⟩

theorem Resembles.symm (h : a.Resembles a') : a'.Resembles a :=
  ⟨h.policy_eq.symm, h.maxBindings_eq.symm, fun oid => (h.contains_eq oid).symm⟩

theorem Resembles.trans {a'' : Agent} (h : a.Resembles a') (h' : a'.Resembles a'') :
    a.Resembles a'' :=
  ⟨h.policy_eq.trans h'.policy_eq, h.maxBindings_eq.trans h'.maxBindings_eq,
    fun oid => (h.contains_eq oid).trans (h'.contains_eq oid)⟩

/-- An agent in which an object takes the place of another resembles the one before. -/
theorem resembles_put {oid : Oid} (hused : a.store.contains oid) (body : ObjectBody) :
    { a with store := a.store.put ⟨oid, body⟩ }.Resembles a where
  policy_eq := rfl
  maxBindings_eq := rfl
  contains_eq oid' := by
    by_cases heq : oid' = oid
    · subst heq
      simpa [Store.contains_eq_isSome, Store.object?_put_self a.store ⟨oid', body⟩] using hused.symm
    · have hother := Store.object?_put_of_ne (s := a.store) (o := ⟨oid, body⟩) heq
      simp only [Store.contains_eq_isSome, hother]

/-- After a session an agent resembles what it was before. -/
theorem resembles_afterAll (a : Agent) (requests : List Request) :
    (a.afterAll requests).Resembles a := by
  obtain ⟨store, hafter, hframes⟩ := exists_store_afterAll a requests
  rw [hafter]
  refine ⟨rfl, rfl, fun oid => ?_⟩
  have hsome := congrArg Option.isSome (hframes oid)
  simpa [Store.frame?, Store.contains_eq_isSome] using hsome

/-! ## Targets -/

/-- Which bindings are paired, or the first that is not, depends on the addresses in use. -/
theorem map_binding_targetsOf (hcontains : ∀ oid, store.contains oid = store'.contains oid)
    (seen : List Oid) (bindings : List VarBind) :
    (targetsOf store seen bindings).map (List.map Target.binding) =
      (targetsOf store' seen bindings).map (List.map Target.binding) := by
  induction bindings generalizing seen with
  | nil => rfl
  | cons b bindings ih =>
    have hsome : (store.object? b.oid).isSome = (store'.object? b.oid).isSome := hcontains b.oid
    have hrest := ih (b.oid :: seen)
    unfold targetsOf
    split
    · rfl
    cases hfound : store.object? b.oid <;> cases hfound' : store'.object? b.oid
    case some.some o o' =>
      dsimp only
      generalize targetsOf store (b.oid :: seen) bindings = r at hrest
      generalize targetsOf store' (b.oid :: seen) bindings = r' at hrest
      rcases r with ⟨position, e⟩ | ts <;> rcases r' with ⟨position', e'⟩ | ts'
      · obtain ⟨rfl, rfl⟩ := Prod.mk.inj (Except.error.inj hrest)
        rfl
      · cases hrest
      · cases hrest
      · exact congrArg Except.ok (congrArg (b :: ·) (Except.ok.inj hrest))
    all_goals simp_all

/-- Targets depend on the objects that the bindings address. -/
theorem targetsOf_congr {seen : List Oid}
    (hsame : ∀ b ∈ bindings, store.object? b.oid = store'.object? b.oid) :
    targetsOf store seen bindings = targetsOf store' seen bindings := by
  induction bindings generalizing seen with
  | nil => rfl
  | cons b bindings ih =>
    obtain ⟨hb, hrest⟩ := List.forall_mem_cons.mp hsame
    rw [targetsOf, targetsOf, hb, ih hrest]

/-- The writes of paired bindings are those of their targets. -/
theorem writesOf_of_targetsOf {seen : List Oid} (hpaired : targetsOf store seen bindings = .ok ts) :
    store.writesOf bindings = some (ts.map Target.write) := by
  induction bindings generalizing seen ts with
  | nil =>
    obtain rfl : [] = ts := Except.ok.inj hpaired
    rfl
  | cons b bindings ih =>
    unfold targetsOf at hpaired
    split at hpaired
    · cases hpaired
    split at hpaired
    · cases hpaired
    next o hfound =>
    split at hpaired
    · cases hpaired
    next rest hrest =>
    obtain rfl := Except.ok.inj hpaired
    have hwrites := ih hrest
    unfold Store.writesOf at hwrites ⊢
    rw [List.mapM_cons, hfound, hwrites]
    rfl

/-! ## Admission -/

/-- The targets of a request have its bindings, in request order. -/
theorem oids_of_resolve (hresolved : a.resolve bindings = .ok ts) :
    ts.map (fun t => t.write.oid) = bindings.map VarBind.oid := by
  obtain ⟨-, -, hpaired⟩ := resolve_eq_ok.mp hresolved
  obtain ⟨hbindings, -, -, -⟩ := targetsOf_ok hpaired
  rw [← hbindings, List.map_map]
  rfl

/-- Agents that resemble each other resolve the same requests. -/
theorem map_binding_resolve (h : a.Resembles a') (bindings : List VarBind) :
    (a.resolve bindings).map (List.map Target.binding) =
      (a'.resolve bindings).map (List.map Target.binding) := by
  have hpaired := map_binding_targetsOf h.contains_eq [] bindings
  unfold resolve
  rw [h.maxBindings_eq]
  split
  · rfl
  split
  · rfl
  generalize targetsOf a.store [] bindings = r at hpaired
  generalize targetsOf a'.store [] bindings = r' at hpaired
  rcases r with ⟨position, e⟩ | ts <;> rcases r' with ⟨position', e'⟩ | ts'
  · obtain ⟨rfl, rfl⟩ := Prod.mk.inj (Except.error.inj hpaired)
    rfl
  · cases hpaired
  · cases hpaired
  · exact congrArg Except.ok (Except.ok.inj hpaired)

/-- A request that is resolved by an agent is resolved by those that resemble it. -/
theorem exists_resolve (h : a.Resembles a') (hresolved : a'.resolve bindings = .ok ts) :
    ∃ ts', a.resolve bindings = .ok ts' := by
  have hmap := map_binding_resolve h bindings
  rw [hresolved] at hmap
  cases hresolve : a.resolve bindings with
  | ok ts' => exact ⟨ts', rfl⟩
  | error response => simp [hresolve, Except.map] at hmap

/-- A batch is admitted if it is resolved, and locks the addresses of its bindings. -/
theorem lockOrder_set (a : Agent) (requester : Requester) (bindings : List VarBind) :
    a.lockOrder (.set requester bindings) =
      match a.resolve bindings with
      | .error response => .error (.answered (.response response))
      | .ok _ => .ok ((bindings.map VarBind.oid).mergeSort fun o o' => decide (o ≤ o')) := by
  rw [lockOrder]
  cases hresolved : a.resolve bindings with
  | error response => rfl
  | ok ts => simp only [oids_of_resolve hresolved]

/-- Agents that resemble each other admit the same requests, and reply alike to the others. -/
theorem lockOrder_congr (h : a.Resembles a') (request : Request) :
    a.lockOrder request = a'.lockOrder request := by
  cases request with
  | set requester bindings =>
    have hmap := map_binding_resolve h bindings
    rw [lockOrder_set, lockOrder_set]
    generalize a.resolve bindings = r at hmap
    generalize a'.resolve bindings = r' at hmap
    rcases r with response | ts <;> rcases r' with response' | ts'
    · obtain rfl := Except.error.inj hmap
      rfl
    · cases hmap
    · cases hmap
    · rfl
  | get oid =>
    have hcontains := h.contains_eq oid
    simp only [lockOrder, hcontains]
    split
    · rfl
    · next hunused =>
      -- what a read of an unused address answers names no more than the address
      have hunused' := hunused
      rw [← hcontains] at hunused'
      simp only [Store.contains_eq_isSome, Option.not_isSome_iff_eq_none] at hunused hunused'
      simp only [get, Store.read, hunused, hunused']
  | propose oid proposed => simp only [lockOrder, h.contains_eq oid]

variable {request : Request} {addresses : List Oid}

/-- A batch that is admitted is resolved. -/
theorem lockOrder_set_eq_ok {requester : Requester}
    (hadmitted : a.lockOrder (.set requester bindings) = .ok addresses) :
    (∃ ts, a.resolve bindings = .ok ts) ∧
      addresses = (bindings.map VarBind.oid).mergeSort fun o o' => decide (o ≤ o') := by
  rw [lockOrder_set] at hadmitted
  split at hadmitted
  · cases hadmitted
  · next ts hresolved => exact ⟨⟨ts, hresolved⟩, (Except.ok.inj hadmitted).symm⟩

/-- The addresses that a request locks ascend. -/
theorem ascending_of_lockOrder (hadmitted : a.lockOrder request = .ok addresses) :
    addresses.Pairwise (· < ·) := by
  cases request with
  | set requester bindings =>
    obtain ⟨⟨ts, hresolved⟩, rfl⟩ := lockOrder_set_eq_ok hadmitted
    obtain ⟨-, -, hpaired⟩ := resolve_eq_ok.mp hresolved
    have hsorted : ((bindings.map VarBind.oid).mergeSort fun o o' => decide (o ≤ o')).Pairwise
        fun o o' => decide (o ≤ o') :=
      List.pairwise_mergeSort
        (fun o o' o'' h h' => by simpa using Oid.le_trans (by simpa using h) (by simpa using h'))
        (fun o o' => by simpa using Oid.le_total o o') (bindings.map VarBind.oid)
    have hnodup := (List.mergeSort_perm (bindings.map VarBind.oid)
      fun o o' => decide (o ≤ o')).nodup_iff.mpr (addressed_of_targetsOf hpaired).nodup
    exact (hsorted.and hnodup).imp fun h => Oid.lt_of_le_of_ne (by simpa using h.1) h.2
  | get oid | propose oid proposed =>
    simp only [lockOrder] at hadmitted
    split at hadmitted
    · obtain rfl := Except.ok.inj hadmitted
      exact List.pairwise_singleton _ _
    · cases hadmitted

/-- A request that is not admitted is replied to as if it were served, and changes nothing. -/
theorem serve_of_lockOrder_eq_error {reply : Reply}
    (hrefused : a.lockOrder request = .error reply) :
    a.serve request = ⟨a, request, reply, a⟩ ∧ a.notifiedBy request = [] := by
  cases request with
  | set requester bindings =>
    rw [lockOrder_set] at hrefused
    split at hrefused
    · next response hresponse =>
      obtain rfl := Except.error.inj hrefused
      simp [serve, notifiedBy, set, hresponse, answerAtOnce]
    · cases hrefused
  | get oid =>
    simp only [lockOrder] at hrefused
    split at hrefused
    · cases hrefused
    · obtain rfl := Except.error.inj hrefused
      exact ⟨rfl, rfl⟩
  | propose oid proposed =>
    simp only [lockOrder] at hrefused
    split at hrefused
    · cases hrefused
    · next hunused =>
      obtain rfl := Except.error.inj hrefused
      simp only [Store.contains_eq_isSome, Option.not_isSome_iff_eq_none] at hunused
      simp [serve, notifiedBy, hunused]

/-- A read or a proposal changes nothing and tells nobody anything. -/
theorem serve_of_noBatch (a : Agent)
    (hnoBatch : ∀ requester bindings, request ≠ .set requester bindings) :
    (a.serve request).after = a ∧ a.notifiedBy request = [] := by
  cases request with
  | set requester bindings => exact absurd rfl (hnoBatch requester bindings)
  | get | propose => exact ⟨rfl, rfl⟩

end Agent

end SnmpSet
