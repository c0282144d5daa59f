import SnmpSet.Proofs.Agent.Outcomes

/-!
# All or nothing

An accepted request gives every object that it addresses the value that the
commit of the object's kind makes of its earlier value and of the proposal. Any
other request leaves every value as it was, no matter how many of its bindings
had been committed before one of them was refused. Nothing but values ever
changes, and no value of an object that is not addressed.
-/

namespace SnmpSet

/-- No reason to refuse a request is reported as success. -/
theorem Refusal.status_ne_noError (e : Refusal) : e.status ≠ .noError := by
  cases e <;> simp [status]

/-- A batch was answered with success. -/
def Answer.isAccepted : Answer → Bool
  | .response r => r.isAccepted
  | .fault _ | .halted => false

/-- One store has come from another by new values for the objects at some
addresses: the addresses in use are the same, and no object changes in anything
but its value. -/
structure Store.Revalued (before : Store) (oids : List Oid) (after : Store) : Prop where
  addresses_eq : after.addresses = before.addresses
  elsewhere : ∀ oid, oid ∉ oids → after.object? oid = before.object? oid
  kept : ∀ oid o, before.object? oid = some o →
    ∃ value, after.object? oid = some ⟨oid, { o.body with value }⟩

/-- A store that stays as it is has no new values. -/
theorem Store.Revalued.refl (s : Store) (oids : List Oid) : s.Revalued oids s where
  addresses_eq := rfl
  elsewhere _ _ := rfl
  kept oid o hfound := by
    obtain rfl : o.oid = oid := Store.oid_of_object? hfound
    exact ⟨o.body.value, hfound⟩

/-- Each binding has been committed: what its object's kind makes of the object's
value in one store and of the proposal is the object's value in another. -/
def Store.Commits (before : Store) (bindings : List VarBind) (after : Store) : Prop :=
  ∀ b ∈ bindings, ∃ body c, before.object? b.oid = some ⟨b.oid, body⟩ ∧
    body.kind.commit body.value b.value = .ok c ∧
    after.object? b.oid = some ⟨b.oid, { body with value := c.stored }⟩

/-- Commits of the same bindings that leave all other objects alone lead to the same
store, in whatever order the bindings are taken. -/
theorem Store.eq_of_commits {s s₁ s₂ : Store} {bindings order : List VarBind}
    (hperm : order.Perm bindings) (hcommits₁ : s.Commits bindings s₁)
    (helsewhere₁ : ∀ oid ∉ bindings.map VarBind.oid, s₁.object? oid = s.object? oid)
    (hcommits₂ : s.Commits order s₂)
    (helsewhere₂ : ∀ oid ∉ order.map VarBind.oid, s₂.object? oid = s.object? oid) :
    s₂ = s₁ := by
  refine eq_of_object?_eq fun oid => ?_
  by_cases haddressed : oid ∈ bindings.map VarBind.oid
  · obtain ⟨b, hb, rfl⟩ := List.mem_map.mp haddressed
    obtain ⟨body, c, hfound, hcommit, hafter⟩ := hcommits₁ b hb
    obtain ⟨body', c', hfound', hcommit', hafter'⟩ := hcommits₂ b (hperm.mem_iff.mpr hb)
    obtain rfl : body' = body := body_unique hfound' hfound
    obtain rfl : c' = c := Except.ok.inj (hcommit'.symm.trans hcommit)
    rw [hafter', hafter]
  · have haddressed' : oid ∉ order.map VarBind.oid := by rwa [(hperm.map _).mem_iff]
    rw [helsewhere₁ oid haddressed, helsewhere₂ oid haddressed']

namespace Agent

variable {a : Agent} {requester : Requester} {bindings : List VarBind} {ts : List Target}

/-- A request that is answered with success is accepted on some targets, and only then. -/
theorem isAccepted_iff_accepts :
    (a.set requester bindings).answer.isAccepted = true ↔
      ∃ ts, a.Accepts requester bindings ts := by
  constructor
  · intro haccepted
    cases Settled.of_set a requester bindings with
    | accepted haccepts => exact ⟨_, haccepts⟩
    | tooBig hbig =>
      rw [set_of_tooBig hbig] at haccepted
      cases haccepted
    | @refused _ _ e _ hrefused =>
      rw [hrefused.answer_eq] at haccepted
      exact absurd (of_decide_eq_true haccepted) (Refusal.status_ne_noError e)
    | halted _ _ hhalted _ _ =>
      rw [hhalted] at haccepted
      cases haccepted
  · rintro ⟨ts, haccepts⟩
    rw [(set_of_accepts haccepts).1]
    rfl

/-- With bounded keys a request is accepted on some targets, or it is answered with
another status than success and leaves the agent as it was. -/
theorem accepts_or_refused (hbounded : a.store.KeysBounded) (requester : Requester)
    (bindings : List VarBind) :
    (∃ ts, a.Accepts requester bindings ts) ∨
      (∃ r, (a.set requester bindings).answer = .response r ∧ r.status ≠ .noError) ∧
        (a.set requester bindings).agent = a := by
  rcases settled_of_keysBounded hbounded requester bindings with
    haccepts | hbig | ⟨-, h, position, e, hrefused⟩
  · exact .inl haccepts
  · rw [set_of_tooBig hbig]
    have hstatus := Refusal.status_ne_noError (.tooBig bindings.length a.maxBindings)
    exact .inr ⟨⟨_, rfl, hstatus⟩, rfl⟩
  · exact .inr ⟨⟨_, hrefused.answer_eq, Refusal.status_ne_noError e⟩, hrefused.agent_eq⟩

/-- The store after a request that is accepted on these targets. -/
def storeAfter (store : Store) (ts : List Target) : Store :=
  writeBack store (ts.map fun t => t.committed t.outcome)

/-- After an accepted request each target's object holds what its commit stores. -/
theorem object?_storeAfter_of_mem {store : Store}
    (hnodup : ((ts.map Target.binding).map VarBind.oid).Nodup) {t : Target} (ht : t ∈ ts) :
    (storeAfter store ts).object? t.write.oid =
      some ⟨t.write.oid, { t.body with value := t.outcome.stored }⟩ := by
  have hnodup' : ((ts.map fun u => u.committed u.outcome).map fun u => u.write.oid).Nodup := by
    simpa [Function.comp_def, Target.binding, Target.committed] using hnodup
  exact object?_writeBack_of_mem hnodup' (List.mem_map_of_mem ht)

/-- After an accepted request each object that no binding addresses is as it was. -/
theorem object?_storeAfter_of_not_mem {store : Store} {oid : Oid}
    (hnot : oid ∉ (ts.map Target.binding).map VarBind.oid) :
    (storeAfter store ts).object? oid = store.object? oid := by
  refine object?_writeBack_of_forall_ne ?_
  rintro _ hu rfl
  obtain ⟨t, ht, rfl⟩ := List.mem_map.mp hu
  exact hnot (List.mem_map_of_mem (List.mem_map_of_mem ht))

/-- An accepted request commits each of its bindings. -/
theorem commits_storeAfter (haccepts : a.Accepts requester bindings ts) :
    a.store.Commits bindings (storeAfter a.store ts) := by
  obtain ⟨rfl, hfresh, hnodup, -⟩ := targetsOf_ok haccepts.paired
  intro b hb
  obtain ⟨t, ht, rfl⟩ := List.mem_map.mp hb
  exact ⟨t.body, t.outcome, (hfresh t ht).found, haccepts.commits t ht,
    object?_storeAfter_of_mem hnodup ht⟩

/-- An accepted request changes nothing but the values of the objects that it addresses. -/
theorem revalued_storeAfter (hpaired : targetsOf a.store [] bindings = .ok ts) :
    a.store.Revalued (bindings.map VarBind.oid) (storeAfter a.store ts) := by
  obtain ⟨rfl, hfresh, hnodup, -⟩ := targetsOf_ok hpaired
  constructor
  · refine addresses_writeBack fun u hu => ?_
    obtain ⟨t, ht, rfl⟩ := List.mem_map.mp hu
    exact Option.isSome_iff_exists.mpr ⟨_, (hfresh t ht).found⟩
  · intro oid hnot
    exact object?_storeAfter_of_not_mem hnot
  · intro oid o hfound
    by_cases hmem : oid ∈ (ts.map Target.binding).map VarBind.oid
    · obtain ⟨b, hb, rfl⟩ := List.mem_map.mp hmem
      obtain ⟨t, ht, rfl⟩ := List.mem_map.mp hb
      have hobject : (⟨t.write.oid, t.body⟩ : ManagedObject) = o :=
        Option.some.inj ((hfresh t ht).found.symm.trans hfound)
      subst hobject
      exact ⟨t.outcome.stored, object?_storeAfter_of_mem hnodup ht⟩
    · rw [object?_storeAfter_of_not_mem hmem]
      exact (Store.Revalued.refl a.store []).kept oid o hfound

/-- A request takes effect as a whole or not at all. Either it is answered with
success and each of its bindings has been committed, or it is answered with
another status and the store is as it was. Either way nothing but the values of
addressed objects can have changed. -/
theorem set_all_or_nothing (hbounded : a.store.KeysBounded) (requester : Requester)
    (bindings : List VarBind) :
    ∃ (r : Response) (after : Store),
      (a.set requester bindings).answer = .response r ∧
      (a.set requester bindings).agent = { a with store := after } ∧
      (r.status = .noError ∧ a.store.Commits bindings after ∨
        r.status ≠ .noError ∧ after = a.store) ∧
      a.store.Revalued (bindings.map VarBind.oid) after := by
  rcases settled_of_keysBounded hbounded requester bindings with
    ⟨ts, haccepts⟩ | hbig | ⟨-, h, position, e, hrefused⟩
  · obtain ⟨hanswer, hagent, -⟩ := set_of_accepts haccepts
    exact ⟨_, storeAfter a.store ts, hanswer, hagent,
      .inl ⟨rfl, commits_storeAfter haccepts⟩, revalued_storeAfter haccepts.paired⟩
  · rw [set_of_tooBig hbig]
    have hstatus := Refusal.status_ne_noError (.tooBig bindings.length a.maxBindings)
    exact ⟨_, a.store, rfl, rfl, .inr ⟨hstatus, rfl⟩, .refl _ _⟩
  · exact ⟨_, a.store, hrefused.answer_eq, hrefused.agent_eq,
      .inr ⟨Refusal.status_ne_noError e, rfl⟩, .refl _ _⟩

/-- An agent with a counter, a plain object and a key whose protocol never derives
a key of the right length. -/
def withFailingKey : Agent :=
  .ofStore <| Store.empty
    |>.put (.testAndIncr ⟨[1, 1]⟩ 7)
    |>.put (.plain ⟨[1, 2]⟩ (.octets [1]))
    |>.put (.keyChange ⟨[1, 3]⟩ (.failing 1) .empty [9])

/-- A request for all three objects, whose first two bindings can be committed. -/
def failingKeyRequest : List VarBind :=
  [⟨⟨[1, 1]⟩, .integer 7⟩, ⟨⟨[1, 2]⟩, .octets [2]⟩, ⟨⟨[1, 3]⟩, .octets [3, 4]⟩]

/-- Where the third commit fails, the first two are undone and the agent is as it was. -/
theorem set_failingKeyRequest :
    withFailingKey.store.KeysBounded ∧
      (withFailingKey.set none failingKeyRequest).answer =
        .response ⟨.commitFailed, 3, failingKeyRequest⟩ ∧
      (withFailingKey.set none failingKeyRequest).agent = withFailingKey := by
  have hbounded : withFailingKey.store.KeysBounded := by decide
  have hfailed : (withFailingKey.set none failingKeyRequest).answer =
      .response ⟨.commitFailed, 3, failingKeyRequest⟩ := by rfl
  obtain ⟨r, after, hanswer, hagent, ⟨haccepted, -⟩ | ⟨-, rfl⟩, -⟩ :=
    set_all_or_nothing hbounded none failingKeyRequest
  · obtain rfl := Answer.response.inj (hfailed.symm.trans hanswer)
    cases haccepted
  · exact ⟨hbounded, hfailed, hagent⟩

end Agent

end SnmpSet
