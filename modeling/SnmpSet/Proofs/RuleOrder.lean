import Mathlib.Data.List.FinRange
import Mathlib.Data.List.Induction
import Mathlib.Data.List.Sort
import Mathlib.Logic.Equiv.Fin.Rotate
import SnmpSet.Proofs.Rules

/-!
# The order in which rules are asked

A stage asks its own rules in the order of their attachment, each of them once, up to the first
that refuses. So what a stage says and whom it asks depend on the order within that stage alone,
and whether both stages accept depends on no order at all.
-/

namespace SnmpSet

namespace RuleList

variable {proposed previous : Value} {rules rules' before : List Rule} {rule : Rule}
  {stage : Stage} {e : Refusal}

/-- The list to which rules have been attached one after another. -/
def attach (rules : List Rule) : RuleList := rules.foldl push empty

/-- The rules of a stage, in the order in which they come. -/
def ofStage (stage : Stage) (rules : List Rule) : List Rule :=
  rules.filter fun rule => rule.stage = stage

/-- Both stages accept a proposal. -/
def BothAccept (l : RuleList) (proposed previous : Value) : Prop :=
  (l.judge .prepare proposed previous).verdict = .ok () ∧
    (l.judge .check proposed previous).verdict = .ok ()

/-- Rules that are attached one after another are listed in this order. -/
theorem rules_attach (rules : List Rule) : (attach rules).rules = rules := by
  induction rules using List.reverseRecOn with
  | nil => rfl
  | append_singleton rules rule ih =>
    have hlast : attach (rules ++ [rule]) = (attach rules).push rule := List.foldl_concat ..
    rw [hlast, push, ih]

/-- A stage asks those of the attached rules that belong to it. -/
theorem judge_attach (stage : Stage) (proposed previous : Value) (rules : List Rule) :
    (attach rules).judge stage proposed previous = ask proposed previous (ofStage stage rules) := by
  rw [judge, rules_attach, ofStage]

/-- Rules of which none refuses are all asked. -/
theorem ask_of_forall (hnone : ∀ rule ∈ rules, rule.refusal? proposed previous = none) :
    ask proposed previous rules = ⟨.ok (), rules⟩ := by
  induction rules with
  | nil => rfl
  | cons rule rules ih =>
    obtain ⟨hrule, hrules⟩ := List.forall_mem_cons.mp hnone
    have hrest := ih hrules
    simp only [ask, hrule, hrest]

/-- Rules are asked up to the first that refuses. -/
theorem ask_of_first (hbefore : ∀ r ∈ before, r.refusal? proposed previous = none)
    (hrefused : rule.refusal? proposed previous = some e) (after : List Rule) :
    ask proposed previous (before ++ rule :: after) = ⟨.error e, before ++ [rule]⟩ := by
  induction before with
  | nil => simp only [List.nil_append, ask, hrefused]
  | cons first before ih =>
    obtain ⟨hfirst, hrest⟩ := List.forall_mem_cons.mp hbefore
    have htail := ih hrest
    simp only [List.cons_append, ask, hfirst, htail]

/-- A rule is one of a stage just if it is attached and belongs to the stage. -/
theorem mem_ofStage : rule ∈ ofStage stage rules ↔ rule ∈ rules ∧ rule.stage = stage := by
  rw [ofStage, List.mem_filter, decide_eq_true_iff]

/-! ## Reordering -/

/-- A way to reorder rules that moves none past another of its stage: the new place of each. -/
structure Reordering (rules rules' : List Rule) where
  place : Fin rules.length ≃ Fin rules'.length
  get_place : ∀ i, rules'.get (place i) = rules.get i
  place_lt : ∀ i j, i < j → (rules.get i).stage = (rules.get j).stage → place i < place j

/-- The places at which the rules of a stage stand. -/
def placesOf (stage : Stage) (rules : List Rule) : List (Fin rules.length) :=
  (List.finRange rules.length).filter fun i => (rules.get i).stage = stage

/-- What stands at the places of a stage is its rules. -/
theorem map_get_placesOf (stage : Stage) (rules : List Rule) :
    (placesOf stage rules).map rules.get = ofStage stage rules := by
  have hfilter := List.filter_map (f := rules.get) (p := fun rule => decide (rule.stage = stage))
    (l := List.finRange rules.length)
  rw [List.map_get_finRange] at hfilter
  exact hfilter.symm

theorem mem_placesOf {i : Fin rules.length} :
    i ∈ placesOf stage rules ↔ (rules.get i).stage = stage := by
  simp [placesOf]

theorem placesOf_ascending (stage : Stage) (rules : List Rule) :
    (placesOf stage rules).Pairwise (· < ·) :=
  (List.pairwise_lt_finRange rules.length).filter _

/-- A reordering takes the places of a stage to its new places, and in the same order. -/
theorem Reordering.map_placesOf (r : Reordering rules rules') (stage : Stage) :
    (placesOf stage rules).map r.place = placesOf stage rules' := by
  have hascending : ((placesOf stage rules).map r.place).Pairwise (· < ·) := by
    rw [List.pairwise_map]
    refine (placesOf_ascending stage rules).imp_of_mem fun {i j} hi hj hlt => ?_
    have hstage : (rules.get i).stage = (rules.get j).stage :=
      (mem_placesOf.mp hi).trans (mem_placesOf.mp hj).symm
    exact r.place_lt i j hlt hstage
  refine hascending.eq_of_mem_iff (placesOf_ascending stage rules') fun k => ?_
  rw [List.mem_map, mem_placesOf]
  constructor
  · rintro ⟨i, hi, rfl⟩
    rw [r.get_place]
    exact mem_placesOf.mp hi
  · intro hk
    have hplace : r.place (r.place.symm k) = k := r.place.apply_symm_apply k
    refine ⟨r.place.symm k, mem_placesOf.mpr ?_, hplace⟩
    rw [← r.get_place, hplace]
    exact hk

/-- A reordering leaves the rules of each stage as they were. -/
theorem Reordering.ofStage_eq (r : Reordering rules rules') (stage : Stage) :
    ofStage stage rules' = ofStage stage rules :=
  calc
    ofStage stage rules' = (placesOf stage rules').map rules'.get :=
      (map_get_placesOf stage rules').symm
    _ = ((placesOf stage rules).map r.place).map rules'.get := by rw [r.map_placesOf]
    _ = (placesOf stage rules).map rules.get := by
      rw [List.map_map]
      exact List.map_congr_left fun i _ => r.get_place i
    _ = ofStage stage rules := map_get_placesOf stage rules

/-! ## What is asked of attached rules -/

/-- How attached rules are asked about a proposal. -/
structure AskedInOrder (rules : List Rule) (proposed previous : Value) : Prop where
  /-- A stage with a rule that refuses gives the refusal of the first such rule, and asks the
  rules of the stage up to this one. -/
  refused : ∀ stage before rule after e, rules = before ++ rule :: after → rule.stage = stage →
    rule.refusal? proposed previous = some e →
    (∀ r ∈ before, r.stage = stage → r.refusal? proposed previous = none) →
    (attach rules).judge stage proposed previous = ⟨.error e, ofStage stage before ++ [rule]⟩
  /-- A stage without such a rule accepts, and asks all its rules. -/
  accepted : ∀ stage,
    (∀ rule ∈ rules, rule.stage = stage → rule.refusal? proposed previous = none) →
    (attach rules).judge stage proposed previous = ⟨.ok (), ofStage stage rules⟩
  /-- Nothing that is said and nobody who is asked changes if the rules are reordered and the
  order within each stage is kept. -/
  reordered : ∀ rules', Reordering rules rules' → ∀ stage,
    (attach rules').judge stage proposed previous = (attach rules).judge stage proposed previous
  /-- Both stages accept just if each rule does. -/
  bothAccept_iff : (attach rules).BothAccept proposed previous ↔
    ∀ rule ∈ rules, rule.refusal? proposed previous = none
  /-- Whether both stages accept does not change in whatever order the rules come. -/
  permuted : ∀ rules', rules'.Perm rules →
    ((attach rules').BothAccept proposed previous ↔ (attach rules).BothAccept proposed previous)

/-- Both stages accept just if none of the attached rules refuses. -/
theorem bothAccept_attach_iff : (attach rules).BothAccept proposed previous ↔
    ∀ rule ∈ rules, rule.refusal? proposed previous = none := by
  rw [BothAccept, verdicts_judge_eq_ok, rules_attach]

/-- Attached rules are asked stage by stage in the order of their attachment, up to the first that
refuses, so that what they say does not depend on how the stages are mixed. -/
theorem asked_in_order (rules : List Rule) (proposed previous : Value) :
    AskedInOrder rules proposed previous where
  refused := by
    rintro stage before rule after e rfl hstage hrefused hbefore
    have hsplit : ofStage stage (before ++ rule :: after) =
        ofStage stage before ++ rule :: ofStage stage after := by
      rw [ofStage, List.filter_append, List.filter_cons_of_pos (by simpa using hstage)]
      rfl
    have hnone : ∀ r ∈ ofStage stage before, r.refusal? proposed previous = none := by
      intro r hr
      obtain ⟨hmem, hr⟩ := mem_ofStage.mp hr
      exact hbefore r hmem hr
    rw [judge_attach, hsplit, ask_of_first hnone hrefused]
  accepted := by
    intro stage hnone
    rw [judge_attach]
    refine ask_of_forall fun rule hrule => ?_
    obtain ⟨hmem, hstage⟩ := mem_ofStage.mp hrule
    exact hnone rule hmem hstage
  reordered := by
    intro rules' r stage
    rw [judge_attach, judge_attach, r.ofStage_eq]
  bothAccept_iff := bothAccept_attach_iff
  permuted := by
    intro rules' hperm
    simp only [bothAccept_attach_iff, hperm.mem_iff]

/-- A rule of the second stage before two of the first, of which the latter refuses everything. -/
def mixedRules : List Rule :=
  [.integerRange ⟨0, 5⟩, .length ⟨0, 3⟩, .custom .prepare fun _ _ => some .noCreation]

/-- The same rules with that of the second stage at the end. -/
def rangeLast : List Rule :=
  [.length ⟨0, 3⟩, .custom .prepare fun _ _ => some .noCreation, .integerRange ⟨0, 5⟩]

/-- The rule of the second stage moves past the others. -/
def rangeMoves : Reordering mixedRules rangeLast where
  place := (finRotate 3).symm
  get_place
    | ⟨0, _⟩ | ⟨1, _⟩ | ⟨2, _⟩ => rfl
  place_lt := by decide

/-- Four octets are refused for their length, and the rule behind that is not asked, wherever the
rule of the other stage stands. That stage asks its rule and accepts. -/
theorem mixedRules_asked :
    (attach mixedRules).judge .prepare (.octets [1, 2, 3, 4]) (.octets []) =
      ⟨.error (.wrongLength 4 0 3), [.length ⟨0, 3⟩]⟩ ∧
    (attach mixedRules).judge .check (.octets [1, 2, 3, 4]) (.octets []) =
      ⟨.ok (), [.integerRange ⟨0, 5⟩]⟩ ∧
    (attach rangeLast).judge .prepare (.octets [1, 2, 3, 4]) (.octets []) =
      ⟨.error (.wrongLength 4 0 3), [.length ⟨0, 3⟩]⟩ ∧
    ¬(attach rangeLast).BothAccept (.octets [1, 2, 3, 4]) (.octets []) := by
  have hasked := asked_in_order mixedRules (.octets [1, 2, 3, 4]) (.octets [])
  have hrefused := hasked.refused .prepare [.integerRange ⟨0, 5⟩] (.length ⟨0, 3⟩)
    [.custom .prepare fun _ _ => some .noCreation] (.wrongLength 4 0 3) rfl rfl rfl
    (by simp [Rule.stage])
  have haccepted := hasked.accepted .check (by simp [mixedRules, Rule.stage, Rule.refusal?])
  have hreordered := hasked.reordered rangeLast rangeMoves .prepare
  have hperm : rangeLast.Perm mixedRules := List.perm_append_singleton _ [_, _]
  have hrefuses : ¬(attach mixedRules).BothAccept (.octets [1, 2, 3, 4]) (.octets []) := by
    rintro ⟨hprepare, -⟩
    rw [hrefused] at hprepare
    cases hprepare
  exact ⟨hrefused, haccepted, hreordered.trans hrefused,
    fun hboth => hrefuses ((hasked.permuted rangeLast hperm).mp hboth)⟩

end RuleList

end SnmpSet
