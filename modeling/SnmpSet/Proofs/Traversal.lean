import Mathlib.Data.List.Forall2

/-!
# Traversals that can fail

A traversal reads the items of a list one after another and stops at the first that it
cannot read. So it succeeds just if it reads each item, and it fails with the defect of the
leftmost item that it cannot read.
-/

namespace SnmpSet

/-- Each item of the first list has a partner. -/
theorem exists_of_forall₂ {α β : Type} {R : α → β → Prop} {xs : List α} {ys : List β}
    (hpartners : List.Forall₂ R xs ys) : ∀ x ∈ xs, ∃ y, R x y := by
  induction hpartners with
  | nil => simp
  | cons hx _ ih => exact List.forall_mem_cons.mpr ⟨⟨_, hx⟩, ih⟩

variable {α β ε : Type} {f : α → Except ε β} {x : α} {xs : List α} {y : β} {ys : List β} {e : ε}

/-- A first item that is not read ends the traversal. -/
theorem mapM_cons_of_error (hx : f x = .error e) : (x :: xs).mapM f = .error e := by
  rw [List.mapM_cons, hx]
  rfl

/-- A first item that is read is put before what the rest is read as. -/
theorem mapM_cons_of_ok (hx : f x = .ok y) : (x :: xs).mapM f = (xs.mapM f).map (y :: ·) := by
  rw [List.mapM_cons, hx]
  cases xs.mapM f <;> rfl

/-- A traversal succeeds just if each item is read. -/
theorem mapM_eq_ok_iff_forall₂ :
    xs.mapM f = .ok ys ↔ List.Forall₂ (fun x y => f x = .ok y) xs ys := by
  induction xs generalizing ys with
  | nil =>
    rw [List.forall₂_nil_left_iff]
    exact ⟨fun hread => (Except.ok.inj hread).symm, fun hnil => hnil ▸ rfl⟩
  | cons x xs ih =>
    rw [List.forall₂_cons_left_iff]
    cases hx : f x with
    | error e => simp [mapM_cons_of_error hx]
    | ok y =>
      rw [mapM_cons_of_ok hx]
      constructor
      · intro hread
        cases hxs : xs.mapM f with
        | error e =>
          rw [hxs] at hread
          cases hread
        | ok rest =>
          rw [hxs] at hread
          exact ⟨y, rest, rfl, ih.mp hxs, (Except.ok.inj hread).symm⟩
      · rintro ⟨y', rest, hy', hrest, rfl⟩
        obtain rfl := Except.ok.inj hy'
        rw [ih.mpr hrest]
        rfl

/-- A traversal fails with the defect of the leftmost item that is not read. -/
theorem mapM_eq_error_iff :
    xs.mapM f = .error e ↔
      ∃ before bad after, xs = before ++ bad :: after ∧ (∀ x ∈ before, ∃ y, f x = .ok y) ∧
        f bad = .error e := by
  constructor
  · intro hfails
    induction xs with
    | nil => cases hfails
    | cons x xs ih =>
      cases hx : f x with
      | error defect =>
        rw [mapM_cons_of_error hx] at hfails
        obtain rfl := Except.error.inj hfails
        exact ⟨[], x, xs, rfl, by simp, hx⟩
      | ok y =>
        cases hxs : xs.mapM f with
        | ok rest =>
          rw [mapM_cons_of_ok hx, hxs] at hfails
          cases hfails
        | error defect =>
          rw [mapM_cons_of_ok hx, hxs] at hfails
          obtain rfl : defect = e := Except.error.inj hfails
          obtain ⟨before, bad, after, rfl, hbefore, hbad⟩ := ih hxs
          exact ⟨x :: before, bad, after, rfl, List.forall_mem_cons.mpr ⟨⟨y, hx⟩, hbefore⟩, hbad⟩
  · rintro ⟨before, bad, after, rfl, hbefore, hbad⟩
    induction before with
    | nil => exact mapM_cons_of_error hbad
    | cons x before ih =>
      obtain ⟨⟨y, hx⟩, hrest⟩ := List.forall_mem_cons.mp hbefore
      rw [List.cons_append, mapM_cons_of_ok hx, ih hrest]
      rfl

end SnmpSet
