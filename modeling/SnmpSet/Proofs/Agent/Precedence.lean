import SnmpSet.Proofs.Agent.Atomicity

/-!
# Which answer a request is due

An empty request is accepted, and one with too many bindings is refused as a
whole. Any other request is refused for the binding to blame: hurdles count
before positions, so a binding that fails an early hurdle is to blame before one
that stands ahead of it and fails a later hurdle. A request with nobody to blame
is accepted. The agent gives the one answer that is due.
-/

namespace SnmpSet

namespace Agent

/-- What is reported for a binding if its object's kind commits it. -/
def report? (a : Agent) (b : VarBind) : Option VarBind :=
  (a.store.object? b.oid).bind fun o =>
    match o.body.kind.commit o.body.value b.value with
    | .ok c => some ⟨b.oid, c.reported⟩
    | .error _ => none

/-- The response that a request is due. -/
inductive Due (a : Agent) (requester : Requester) (bindings : List VarBind) : Response → Prop where
  /-- A request without bindings is accepted. -/
  | empty (hempty : bindings = []) : Due a requester bindings ⟨.noError, 0, []⟩
  /-- A request with too many bindings is refused as a whole. -/
  | tooBig (hne : bindings ≠ []) (hbig : a.maxBindings < bindings.length) :
      Due a requester bindings ⟨.tooBig, 0, bindings⟩
  /-- A request is refused for the binding to blame. -/
  | refused {h : Hurdle} {position : Nat} {e : Refusal} (hne : bindings ≠ [])
      (hsmall : bindings.length ≤ a.maxBindings)
      (hblames : a.Blames requester bindings h position e) :
      Due a requester bindings ⟨e.status, position + 1, bindings⟩
  /-- A request whose bindings pass all hurdles is answered with their reports. -/
  | accepted {reports : List VarBind} (hne : bindings ≠ [])
      (hsmall : bindings.length ≤ a.maxBindings)
      (hpass : ∀ h position, a.refusalAt? requester bindings h position = none)
      (hreports : bindings.map a.report? = reports.map some) :
      Due a requester bindings ⟨.noError, 0, reports⟩

variable {a : Agent} {requester : Requester} {bindings : List VarBind}

/-- The report for the binding of a target that commits is what its commit reports. -/
theorem report?_binding {t : Target} (hfresh : t.Fresh a.store) (hcommits : t.Commits) :
    a.report? t.binding = some ⟨t.write.oid, t.outcome.reported⟩ := by
  unfold Target.Commits Target.commitResult at hcommits
  simp [report?, Target.binding, hfresh.found, hcommits]

/-- No request is due two different responses. -/
theorem Due.unique {r r' : Response} (hr : a.Due requester bindings r)
    (hr' : a.Due requester bindings r') : r = r' := by
  cases hr with
  | empty hempty =>
    cases hr' with
    | empty _ => rfl
    | tooBig hne _ | refused hne _ _ | accepted hne _ _ _ => exact absurd hempty hne
  | tooBig hne hbig =>
    cases hr' with
    | empty hempty => exact absurd hempty hne
    | tooBig _ _ => rfl
    | refused _ hsmall _ | accepted _ hsmall _ _ => exact absurd hbig (Nat.not_lt.mpr hsmall)
  | refused hne hsmall hblames =>
    cases hr' with
    | empty hempty => exact absurd hempty hne
    | tooBig _ hbig => exact absurd hbig (Nat.not_lt.mpr hsmall)
    | refused _ _ hblames' =>
      obtain ⟨-, rfl, rfl⟩ := hblames.unique hblames'
      rfl
    | accepted _ _ hpass _ => simpa [hpass] using hblames.refused
  | accepted hne hsmall hpass hreports =>
    cases hr' with
    | empty hempty => exact absurd hempty hne
    | tooBig _ hbig => exact absurd hbig (Nat.not_lt.mpr hsmall)
    | refused _ _ hblames => simpa [hpass] using hblames.refused
    | accepted _ _ _ hreports' =>
      have heq := hreports.symm.trans hreports'
      rw [(List.map_inj_right fun _ _ => Option.some.inj).mp heq]

/-- An accepted request is answered as it is due. -/
theorem due_of_accepts {ts : List Target} (haccepts : a.Accepts requester bindings ts) :
    a.Due requester bindings (.accepted (ts.map fun t => ⟨t.write.oid, t.outcome.reported⟩)) := by
  have haddressed := addressed_of_targetsOf haccepts.paired
  obtain ⟨rfl, hfresh, -, -⟩ := targetsOf_ok haccepts.paired
  by_cases hempty : ts = []
  · subst hempty
    exact .empty rfl
  · refine .accepted (by simpa using hempty) haccepts.small ?_ ?_
    · intro h j
      cases h with
      | address => exact haddressed.refusalAt?_eq_none j
      | prepare => exact refusalAt?_prepare_eq_none hfresh haccepts.prepares j
      | check => exact refusalAt?_check_eq_none hfresh haccepts.checks j
      | commit => exact refusalAt?_commit_eq_none hfresh haccepts.commits j
    · rw [List.map_map, List.map_map]
      exact List.map_congr_left fun t ht => report?_binding (hfresh t ht) (haccepts.commits t ht)

/-- A response blames a binding at a hurdle: its index is the binding's position
counted from one, and its status is that of the refusal there. -/
structure BlamedBy (a : Agent) (requester : Requester) (bindings : List VarBind) (h : Hurdle)
    (r : Response) : Prop where
  index_pos : 1 ≤ r.errorIndex
  index_le : r.errorIndex ≤ bindings.length
  refused : ∃ e, a.refusalAt? requester bindings h (r.errorIndex - 1) = some e ∧
    r.status = e.status
  address : h = .address → ∃ b, bindings[r.errorIndex - 1]? = some b ∧
    r.status = if b.oid ∈ (bindings.take (r.errorIndex - 1)).map VarBind.oid
      then .inconsistentValue else .noCreation
  commit : h = .commit → r.status = .commitFailed

/-- The response for the binding to blame blames it. -/
theorem Blames.blamedBy {h : Hurdle} {position : Nat} {e : Refusal}
    (hblames : a.Blames requester bindings h position e) :
    a.BlamedBy requester bindings h ⟨e.status, position + 1, bindings⟩ where
  index_pos := Nat.le_add_left 1 position
  index_le := hblames.position_lt
  refused := ⟨e, hblames.refused, rfl⟩
  address := by
    rintro rfl
    exact status_of_refusalAt?_address hblames.refused
  commit := by
    rintro rfl
    exact status_of_refusalAt?_commit hblames.refused

/-- Every request is answered with the one response that it is due. A response of
success names the addresses of the request in their order. Any other repeats the
request, and unless the request is too big it blames one of its bindings. -/
theorem set_answers_due (hbounded : a.store.KeysBounded) (requester : Requester)
    (bindings : List VarBind) :
    ∃ r, (a.set requester bindings).answer = .response r ∧
      (∀ r', a.Due requester bindings r' ↔ r' = r) ∧
      (r.status = .noError →
        r.errorIndex = 0 ∧ r.bindings.map VarBind.oid = bindings.map VarBind.oid) ∧
      (r.status ≠ .noError → r.bindings = bindings ∧
        (bindings.length ≤ a.maxBindings → ∃ h, a.BlamedBy requester bindings h r)) := by
  have hunique {r : Response} (hdue : a.Due requester bindings r) (r' : Response) :
      a.Due requester bindings r' ↔ r' = r :=
    ⟨fun hdue' => hdue'.unique hdue, fun heq => heq ▸ hdue⟩
  rcases settled_of_keysBounded hbounded requester bindings with
    ⟨ts, haccepts⟩ | hbig | ⟨hsmall, h, position, e, hrefused⟩
  · obtain ⟨hbindings, -, -, -⟩ := targetsOf_ok haccepts.paired
    refine ⟨_, (set_of_accepts haccepts).1, hunique (due_of_accepts haccepts), ?_, ?_⟩
    · intro _
      rw [← hbindings]
      simp [Response.accepted, Target.binding]
    · intro hfailed
      exact absurd rfl hfailed
  · have hne : bindings ≠ [] := by
      rintro rfl
      simp at hbig
    refine ⟨⟨.tooBig, 0, bindings⟩, by rw [set_of_tooBig hbig]; rfl, hunique (.tooBig hne hbig),
      by simp, fun _ => ⟨rfl, fun hsmall => ?_⟩⟩
    exact absurd hbig (Nat.not_lt.mpr hsmall)
  · have hne : bindings ≠ [] := by
      rintro rfl
      simpa using hrefused.blames.position_lt
    refine ⟨⟨e.status, position + 1, bindings⟩, hrefused.answer_eq,
      hunique (.refused hne hsmall hrefused.blames), ?_, ?_⟩
    · intro haccepted
      exact absurd haccepted (Refusal.status_ne_noError e)
    · intro _
      exact ⟨rfl, fun _ => ⟨h, hrefused.blames.blamedBy⟩⟩

/-- An agent with an integer that its rule keeps below six and an octet string. -/
def withBoundedInteger : Agent :=
  .ofStore <| Store.empty
    |>.put ((ManagedObject.plain ⟨[1, 1]⟩ (.integer 0)).withRule (.integerRange ⟨0, 5⟩))
    |>.put (.plain ⟨[1, 2]⟩ (.octets []))

/-- A request whose first binding fails the rule of the integer and whose second
has the wrong type. -/
def outOfOrderRequest : List VarBind := [⟨⟨[1, 1]⟩, .integer 9⟩, ⟨⟨[1, 2]⟩, .integer 3⟩]

/-- The rule is asked at check, so the second binding is to blame, and it is the
one response due. -/
theorem set_outOfOrderRequest_due :
    withBoundedInteger.store.KeysBounded ∧
      (withBoundedInteger.set none outOfOrderRequest).answer =
        .response ⟨.wrongType, 2, outOfOrderRequest⟩ ∧
      withBoundedInteger.Due none outOfOrderRequest ⟨.wrongType, 2, outOfOrderRequest⟩ ∧
      ∃ h, withBoundedInteger.BlamedBy none outOfOrderRequest h
        ⟨.wrongType, 2, outOfOrderRequest⟩ := by
  have hbounded : withBoundedInteger.store.KeysBounded := by decide
  have hblamed : (withBoundedInteger.set none outOfOrderRequest).answer =
      .response ⟨.wrongType, 2, outOfOrderRequest⟩ := by rfl
  obtain ⟨r, hanswer, hdue, -, hfailed⟩ :=
    set_answers_due hbounded none outOfOrderRequest
  obtain rfl := Answer.response.inj (hblamed.symm.trans hanswer)
  exact ⟨hbounded, hblamed, (hdue _).mpr rfl, (hfailed (by decide)).2 (by decide)⟩

end Agent

end SnmpSet
