import SnmpSet.Oid.Basic

/-!
# The order of identifiers and the subtrees

A node's subtree holds what is reached from it, and the way down is what is left of an
identifier behind the node. Going down one way from two nodes, or two ways from one node,
keeps their order. So a subtree begins with its root, and no identifier from outside stands
between two of its members.
-/

namespace SnmpSet

namespace Oid

variable {p o a b c below : Oid}

/-- A node is on the path to another just if the other is reached from it. -/
theorem isPrefixOf_iff : p.isPrefixOf o = true ↔ ∃ below, p.append below = o := by
  rw [isPrefixOf, List.isPrefixOf_iff_prefix]
  constructor
  · rintro ⟨rest, hrest⟩
    exact ⟨⟨rest⟩, Oid.ext hrest⟩
  · rintro ⟨below, rfl⟩
    exact ⟨below.subIds, rfl⟩

/-- The path down to a node is what is appended to get there. -/
theorem relativeTo_eq_ok_iff : o.relativeTo p = .ok below ↔ p.append below = o := by
  constructor
  · intro hbelow
    unfold relativeTo at hbelow
    split at hbelow
    · next hreached =>
      obtain rfl := Except.ok.inj hbelow
      obtain ⟨below, rfl⟩ := isPrefixOf_iff.mp hreached
      exact Oid.ext (congrArg (p.subIds ++ ·) List.drop_left)
    · cases hbelow
  · rintro rfl
    have hreached : p.isPrefixOf (p.append below) = true := isPrefixOf_iff.mpr ⟨below, rfl⟩
    rw [relativeTo, if_pos hreached]
    exact congrArg Except.ok (Oid.ext List.drop_left)

/-- Two ways down from one node are ordered as the nodes that they lead to. -/
theorem append_lt_append_iff : p.append a < p.append b ↔ a < b := by
  obtain ⟨path⟩ := p
  induction path with
  | nil => rfl
  | cons subId path ih =>
    rw [← ih, lt_def, lt_def]
    change subId :: (path ++ a.subIds) < subId :: (path ++ b.subIds) ↔ _
    rw [List.cons_lt_cons_iff]
    constructor
    · rintro (hlt | ⟨-, hlt⟩)
      · exact absurd hlt (UInt32.lt_irrefl subId)
      · exact hlt
    · intro hlt
      exact .inr ⟨rfl, hlt⟩

/-- The root comes before every other node. -/
theorem empty_lt (hne : o ≠ empty) : empty < o := by
  obtain ⟨path⟩ := o
  cases path with
  | nil => exact absurd rfl hne
  | cons subId path => exact List.nil_lt_cons subId path

/-- A node comes before all others of its subtree. -/
theorem lt_of_isPrefixOf (hreached : p.isPrefixOf o = true) (hne : o ≠ p) : p < o := by
  obtain ⟨below, rfl⟩ := isPrefixOf_iff.mp hreached
  have hself : p.append empty = p := Oid.ext (List.append_nil p.subIds)
  have hbelow : below ≠ empty := by
    rintro rfl
    exact hne hself
  have hlt : p.append empty < p.append below := append_lt_append_iff.mpr (empty_lt hbelow)
  rwa [hself] at hlt

/-- A path that begins two lists begins every list between them. The induction is on the path:
where it has a first element, the lists have the same one, and so has the list between. -/
theorem prefix_of_le_of_le {path as bs cs : List UInt32} (hab : path ++ as ≤ bs)
    (hbc : bs ≤ path ++ cs) : path <+: bs := by
  induction path generalizing bs with
  | nil => exact List.nil_prefix
  | cons subId path ih =>
    cases bs with
    | nil =>
      have hlt : [] < subId :: path ++ as := List.nil_lt_cons subId (path ++ as)
      exact absurd hlt (List.not_lt.mpr hab)
    | cons first bs =>
      rcases List.cons_le_cons_iff.mp hab with hlt | ⟨rfl, hab'⟩
      · rcases List.cons_le_cons_iff.mp hbc with hgt | ⟨rfl, -⟩
        · exact absurd (UInt32.lt_trans hlt hgt) (UInt32.lt_irrefl subId)
        · exact absurd hlt (UInt32.lt_irrefl first)
      · rcases List.cons_le_cons_iff.mp hbc with hgt | ⟨-, hbc'⟩
        · exact absurd hgt (UInt32.lt_irrefl subId)
        · exact List.cons_prefix_cons.mpr ⟨rfl, ih hab' hbc'⟩

/-- A subtree holds everything between two of its members. -/
theorem isPrefixOf_of_le_of_le (ha : p.isPrefixOf a = true) (hc : p.isPrefixOf c = true)
    (hab : a ≤ b) (hbc : b ≤ c) : p.isPrefixOf b = true := by
  obtain ⟨as, rfl⟩ := isPrefixOf_iff.mp ha
  obtain ⟨cs, rfl⟩ := isPrefixOf_iff.mp hc
  exact List.isPrefixOf_iff_prefix.mpr (prefix_of_le_of_le hab hbc)

/-- What the order has to do with the subtree of a node. -/
structure OrdersSubtree (p : Oid) : Prop where
  /-- The node is on the path to another just if there is a way down to that. -/
  isPrefixOf_iff : ∀ o, p.isPrefixOf o = true ↔ ∃ below, o.relativeTo p = .ok below
  /-- The way down leads there. -/
  append_eq : ∀ o below, o.relativeTo p = .ok below → p.append below = o
  /-- Ways down are ordered as the nodes that they lead to. -/
  lt_iff : ∀ a b, a < b ↔ p.append a < p.append b
  /-- The node comes before all others of its subtree. -/
  root_lt : ∀ o, p.isPrefixOf o = true → o ≠ p → p < o
  /-- What stands between two members of the subtree belongs to it. -/
  contiguous : ∀ a b c, p.isPrefixOf a = true → p.isPrefixOf c = true → a ≤ b → b ≤ c →
    p.isPrefixOf b = true

/-- The order of identifiers respects subtrees: each of them is an interval that begins with its
root, and is ordered as the ways down from there. -/
theorem order_respects_subtrees (p : Oid) : p.OrdersSubtree where
  isPrefixOf_iff o := by
    simp only [relativeTo_eq_ok_iff]
    exact isPrefixOf_iff
  append_eq o below hbelow := relativeTo_eq_ok_iff.mp hbelow
  lt_iff a b := append_lt_append_iff.symm
  root_lt o hreached hne := lt_of_isPrefixOf hreached hne
  contiguous a b c ha hc hab hbc := isPrefixOf_of_le_of_le ha hc hab hbc

/-- The node 1.3.6.5.9 stands between 1.3.6 and 1.3.6.10, so it is in the subtree of 1.3.6, whose
root it follows. The way down to it is 5.9. -/
theorem fiveNine_in_subtree :
    (⟨[1, 3, 6, 5, 9]⟩ : Oid).relativeTo ⟨[1, 3, 6]⟩ = .ok ⟨[5, 9]⟩ ∧
    (⟨[1, 3, 6]⟩ : Oid).append ⟨[5, 9]⟩ = ⟨[1, 3, 6, 5, 9]⟩ ∧
    (⟨[1, 3, 6]⟩ : Oid) < ⟨[1, 3, 6, 5, 9]⟩ ∧
    (⟨[1, 3, 6]⟩ : Oid) ≤ ⟨[1, 3, 6, 5, 9]⟩ ∧
    (⟨[1, 3, 6, 5, 9]⟩ : Oid) ≤ ⟨[1, 3, 6, 10]⟩ ∧
    (⟨[1, 3, 6]⟩ : Oid).isPrefixOf ⟨[1, 3, 6, 5, 9]⟩ = true := by
  have horders := order_respects_subtrees ⟨[1, 3, 6]⟩
  have hbelow : (⟨[1, 3, 6, 5, 9]⟩ : Oid).relativeTo ⟨[1, 3, 6]⟩ = .ok ⟨[5, 9]⟩ := rfl
  have hlow : (⟨[1, 3, 6]⟩ : Oid) ≤ ⟨[1, 3, 6, 5, 9]⟩ := by decide
  have hhigh : (⟨[1, 3, 6, 5, 9]⟩ : Oid) ≤ ⟨[1, 3, 6, 10]⟩ := by decide
  have hreached := horders.contiguous _ _ _ (by decide) (by decide) hlow hhigh
  have hfollows := horders.root_lt _ hreached (by decide)
  exact ⟨hbelow, horders.append_eq _ _ hbelow, hfollows, hlow, hhigh, hreached⟩

end Oid

end SnmpSet
