import SnmpSet.Proofs.Store

/-!
# Changes of values

A change gives an object a new value in place of the one that it holds. A list of
changes can be replayed on a store if each of them begins with the value that those
before it have left. Then it can also be taken back, the latest change first, and the
changes of one object make up a chain from its first value to its last.
-/

namespace SnmpSet

/-- The value of an object before something has happened to it, and after. -/
structure Change where
  oid : Oid
  old : Value
  new : Value
  deriving DecidableEq

namespace Change

/-- The change that takes a change back. -/
def inverse (c : Change) : Change := ⟨c.oid, c.new, c.old⟩

/-- The value after a change of this value. A change of any other value does not apply. -/
def follow? (v : Value) (c : Change) : Option Value := if c.old = v then some c.new else none

end Change

namespace Store

variable {s s' : Store} {c : Change} {changes : List Change}

/-- The store after a change. A change does not apply if the object holds another value
than the one the change begins with, or if there is no object. -/
def changed? (s : Store) (c : Change) : Option Store :=
  (s.object? c.oid).bind fun o =>
    if c.old = o.body.value then some (s.put ⟨c.oid, { o.body with value := c.new }⟩) else none

/-- The store after changes that apply one after another. -/
def replay? (s : Store) (changes : List Change) : Option Store := changes.foldlM changed? s

/-- A change applies to an object that holds the value it begins with. -/
theorem changed?_eq_some :
    s.changed? c = some s' ↔ ∃ body, s.object? c.oid = some ⟨c.oid, body⟩ ∧ c.old = body.value ∧
      s.put ⟨c.oid, { body with value := c.new }⟩ = s' := by
  constructor
  · intro hchanged
    obtain ⟨o, hfound, hput⟩ := Option.bind_eq_some_iff.mp hchanged
    obtain ⟨body, rfl⟩ := exists_body_of_object? hfound
    obtain ⟨hold, hput⟩ := Option.ite_none_right_eq_some.mp hput
    exact ⟨body, hfound, hold, Option.some.inj hput⟩
  · rintro ⟨body, hfound, hold, rfl⟩
    simp [changed?, hfound, hold]

/-- Changes that are replayed first leave the store for the others. -/
theorem replay?_append (s : Store) (changes later : List Change) :
    s.replay? (changes ++ later) = (s.replay? changes).bind fun s' => s'.replay? later :=
  List.foldlM_append

/-- A change that has been applied can be taken back. -/
theorem changed?_inverse (hchanged : s.changed? c = some s') : s'.changed? c.inverse = some s := by
  obtain ⟨body, hfound, hold, rfl⟩ := changed?_eq_some.mp hchanged
  refine changed?_eq_some.mpr ⟨_, object?_put_self s ⟨c.oid, _⟩, rfl, ?_⟩
  have hback : s.object? c.oid = some ⟨c.oid, { body with value := c.old }⟩ := by
    rw [hfound, hold]
  have hput := put_eq_self (o := ⟨c.oid, { body with value := c.old }⟩) hback
  exact Eq.trans (put_put rfl) hput

/-- Changes that have been replayed are taken back by their inverses in reverse. -/
theorem replay?_reverse_inverse (hreplay : s.replay? changes = some s') :
    s'.replay? (changes.reverse.map Change.inverse) = some s := by
  induction changes generalizing s with
  | nil => exact congrArg some (Option.some.inj hreplay).symm
  | cons c changes ih =>
    obtain ⟨middle, hchanged, hrest⟩ := Option.bind_eq_some_iff.mp hreplay
    rw [List.reverse_cons, List.map_append, replay?_append, ih hrest, Option.bind_some]
    exact Option.bind_eq_some_iff.mpr ⟨s, changed?_inverse hchanged, rfl⟩

/-- What replayed changes do to one object: those that are for it make up a chain, which
begins with its value before and ends with its value after. -/
theorem follow?_of_replay? (hreplay : s.replay? changes = some s') {oid : Oid} {body : ObjectBody}
    (hfound : s.object? oid = some ⟨oid, body⟩) :
    ∃ v, s'.object? oid = some ⟨oid, { body with value := v }⟩ ∧
      (changes.filter fun c => c.oid = oid).foldlM Change.follow? body.value = some v := by
  induction changes generalizing s body with
  | nil =>
    obtain rfl := Option.some.inj hreplay
    exact ⟨body.value, hfound, rfl⟩
  | cons c changes ih =>
    obtain ⟨middle, hchanged, hrest⟩ := Option.bind_eq_some_iff.mp hreplay
    obtain ⟨body', hfound', hold, rfl⟩ := changed?_eq_some.mp hchanged
    by_cases hoid : c.oid = oid
    · subst hoid
      obtain rfl : body' = body := body_unique hfound' hfound
      obtain ⟨v, hafter, hfollow⟩ := ih hrest (object?_put_self s ⟨c.oid, _⟩)
      refine ⟨v, hafter, ?_⟩
      rw [List.filter_cons_of_pos (by simp), List.foldlM_cons, Change.follow?, if_pos hold]
      exact hfollow
    · obtain ⟨v, hafter, hfollow⟩ := ih hrest ((object?_put_of_ne (Ne.symm hoid)).trans hfound)
      exact ⟨v, hafter, by rwa [List.filter_cons_of_neg (by simpa using hoid)]⟩

end Store

end SnmpSet
