import SnmpSet.Proofs.Agent.DigestKeys
import SnmpSet.Proofs.Agent.Precedence
import SnmpSet.Proofs.Session.Basic

/-!
# A batch and its bindings sent one by one

Whether a binding passes its hurdles, what is reported for it and what its commit
stores is up to the object that it addresses. So bindings for different objects
do not get in each other's way: their batch is accepted exactly if each of them is
accepted alone, and then it comes to the same whether they are sent together or
one after another, and in which order.
-/

namespace SnmpSet

/-- A SET request with one binding. -/
def Request.single (requester : Requester) (b : VarBind) : Request := .set requester [b]

namespace Agent

/-- A binding passes all hurdles by itself: its object is found, the policy and the
object have no objection, and the object's kind commits the proposal. -/
structure Passes (a : Agent) (requester : Requester) (b : VarBind) (body : ObjectBody)
    (c : Committed) : Prop where
  found : a.store.object? b.oid = some ⟨b.oid, body⟩
  allowed : a.policy.allows requester b.oid = true
  prepared : (body.prepare b.value requester).verdict = .ok ()
  checked : (body.check b.value).verdict = .ok ()
  committed : body.kind.commit body.value b.value = .ok c

/-- The binding that reports a binding: what its commit reports, or itself if there
is no commit. -/
def reportOf (a : Agent) (b : VarBind) : VarBind := (a.report? b).getD b

variable {a : Agent} {requester : Requester} {b : VarBind} {body : ObjectBody} {c : Committed}
  {bindings order : List VarBind} {ts : List Target} {t : Target}

/-- The report on a binding that passes is what its commit reports. -/
theorem Passes.reportOf_eq (hpasses : a.Passes requester b body c) :
    a.reportOf b = ⟨b.oid, c.reported⟩ := by
  simp [reportOf, report?, hpasses.found, hpasses.committed]

/-- A binding passes exactly if its fresh target passes all stages. -/
theorem exists_passes_iff (hfresh : t.Fresh a.store) :
    (∃ body c, a.Passes requester t.binding body c) ↔
      t.Prepares a.policy requester ∧ t.Checks ∧ t.Commits := by
  constructor
  · rintro ⟨body, c, hpasses⟩
    obtain rfl : t.body = body := Store.body_unique hfresh.found hpasses.found
    exact ⟨Target.prepares_iff.mpr ⟨hpasses.allowed, hpasses.prepared⟩, hpasses.checked,
      (Target.commits_of_ok hpasses.committed).1⟩
  · rintro ⟨hprepares, hchecks, hcommits⟩
    obtain ⟨hallowed, hprepared⟩ := Target.prepares_iff.mp hprepares
    exact ⟨t.body, t.outcome, hfresh.found, hallowed, hprepared, hchecks, hcommits⟩

/-- Bindings for different addresses that are not too many are accepted together
exactly if each of them passes by itself. -/
theorem accepts_iff_passes (hnodup : (bindings.map VarBind.oid).Nodup)
    (hsmall : bindings.length ≤ a.maxBindings) :
    (∃ ts, a.Accepts requester bindings ts) ↔
      ∀ b ∈ bindings, ∃ body c, a.Passes requester b body c := by
  constructor
  · rintro ⟨ts, haccepts⟩ b hb
    obtain ⟨rfl, hfresh, -, -⟩ := targetsOf_ok haccepts.paired
    obtain ⟨t, ht, rfl⟩ := List.mem_map.mp hb
    exact (exists_passes_iff (hfresh t ht)).mpr
      ⟨haccepts.prepares t ht, haccepts.checks t ht, haccepts.commits t ht⟩
  · intro hpasses
    have haddressed : Addressed a.store bindings := by
      refine ⟨hnodup, fun b hb => ?_⟩
      obtain ⟨body, c, hb'⟩ := hpasses b hb
      exact Option.isSome_iff_exists.mpr ⟨_, hb'.found⟩
    obtain ⟨ts, hpaired⟩ := exists_targetsOf haddressed
    obtain ⟨rfl, hfresh, -, -⟩ := targetsOf_ok hpaired
    have hstages : ∀ t ∈ ts, t.Prepares a.policy requester ∧ t.Checks ∧ t.Commits :=
      fun t ht => (exists_passes_iff (hfresh t ht)).mp (hpasses _ (List.mem_map_of_mem ht))
    exact ⟨ts, hsmall, hpaired, fun t ht => (hstages t ht).1, fun t ht => (hstages t ht).2.1,
      fun t ht => (hstages t ht).2.2⟩

/-- A single binding is accepted exactly if it passes. -/
theorem isAccepted_singleton_iff (hroom : 1 ≤ a.maxBindings) :
    (a.set requester [b]).answer.isAccepted = true ↔ ∃ body c, a.Passes requester b body c := by
  rw [isAccepted_iff_accepts, accepts_iff_passes (by simp) (by simpa using hroom),
    List.forall_mem_singleton]

/-- Bindings that pass are accepted together. Each is reported and committed, and all
other objects stay as they are. -/
theorem set_of_passes (hnodup : (bindings.map VarBind.oid).Nodup)
    (hsmall : bindings.length ≤ a.maxBindings)
    (hpasses : ∀ b ∈ bindings, ∃ body c, a.Passes requester b body c) :
    ∃ store, (a.set requester bindings).answer = .response (.accepted (bindings.map a.reportOf)) ∧
      (a.set requester bindings).agent = { a with store } ∧ a.store.Commits bindings store ∧
      ∀ oid ∉ bindings.map VarBind.oid, store.object? oid = a.store.object? oid := by
  obtain ⟨ts, haccepts⟩ := (accepts_iff_passes hnodup hsmall).mpr hpasses
  obtain ⟨hanswer, hagent, -⟩ := set_of_accepts haccepts
  refine ⟨storeAfter a.store ts, ?_, hagent, commits_storeAfter haccepts,
    (revalued_storeAfter haccepts.paired).elsewhere⟩
  obtain ⟨rfl, hfresh, -, -⟩ := targetsOf_ok haccepts.paired
  have hreports : ∀ t ∈ ts, (⟨t.write.oid, t.outcome.reported⟩ : VarBind) = a.reportOf t.binding :=
    fun t ht => by rw [reportOf, report?_binding (hfresh t ht) (haccepts.commits t ht),
      Option.getD_some]
  rw [hanswer, List.map_map, List.map_congr_left hreports]
  rfl

/-- The agent after a commit to an object: it holds what the commit stores. -/
def storing (a : Agent) (oid : Oid) (body : ObjectBody) (c : Committed) : Agent :=
  { a with store := a.store.put ⟨oid, { body with value := c.stored }⟩ }

/-- A binding passes as before, with the same report, after a commit to another object. -/
theorem Passes.storing (hpasses : a.Passes requester b body c) {oid : Oid} (hne : b.oid ≠ oid)
    (body' : ObjectBody) (c' : Committed) :
    (a.storing oid body' c').Passes requester b body c ∧
      (a.storing oid body' c').reportOf b = a.reportOf b := by
  have hstoring : (a.storing oid body' c').Passes requester b body c :=
    ⟨(Store.object?_put_of_ne hne).trans hpasses.found, hpasses.allowed, hpasses.prepared,
      hpasses.checked, hpasses.committed⟩
  exact ⟨hstoring, by rw [hstoring.reportOf_eq, hpasses.reportOf_eq]⟩

/-- A binding that passes is accepted alone, with its report, and its commit is stored. -/
theorem Passes.set_singleton (hpasses : a.Passes requester b body c)
    (hroom : 1 ≤ a.maxBindings) :
    (a.set requester [b]).answer = .response (.accepted [a.reportOf b]) ∧
      (a.set requester [b]).agent = a.storing b.oid body c := by
  rw [hpasses.reportOf_eq]
  exact Agent.set_singleton hroom hpasses.found hpasses.allowed hpasses.prepared hpasses.checked
    hpasses.committed

/-- Bindings that pass are accepted one after another. Each is reported and committed
as if it were the only one, and all other objects stay as they are. -/
theorem afterAll_of_passes (hroom : order ≠ [] → 1 ≤ a.maxBindings)
    (hnodup : (order.map VarBind.oid).Nodup)
    (hpasses : ∀ b ∈ order, ∃ body c, a.Passes requester b body c) :
    ∃ store, a.afterAll (order.map (.single requester)) = { a with store } ∧
      (a.session (order.map (.single requester))).map Exchange.reply =
        (order.map fun b => .answered (.response (.accepted [a.reportOf b]))) ∧
      a.store.Commits order store ∧
      ∀ oid ∉ order.map VarBind.oid, store.object? oid = a.store.object? oid := by
  induction order generalizing a with
  | nil => exact ⟨a.store, rfl, rfl, by simp [Store.Commits], fun _ _ => rfl⟩
  | cons b rest ih =>
    obtain ⟨hunseen, hrest⟩ := List.nodup_cons.mp hnodup
    obtain ⟨⟨body, c, hb⟩, hlater⟩ := List.forall_mem_cons.mp hpasses
    obtain ⟨hanswer, hagent⟩ := hb.set_singleton (hroom (by simp))
    -- the bindings still to come address other objects, so they pass as before
    have hother : ∀ b' ∈ rest, b'.oid ≠ b.oid :=
      fun b' hb' heq => hunseen (heq ▸ List.mem_map_of_mem hb')
    have hlater' : ∀ b' ∈ rest, ∃ body' c',
        (a.storing b.oid body c).Passes requester b' body' c' := by
      intro b' hb'
      obtain ⟨body', c', hpasses'⟩ := hlater b' hb'
      exact ⟨body', c', (hpasses'.storing (hother b' hb') body c).1⟩
    have hroom' : rest ≠ [] → 1 ≤ (a.storing b.oid body c).maxBindings := fun _ => hroom (by simp)
    obtain ⟨store, hafter, hreplies, hcommits, helsewhere⟩ := ih hroom' hrest hlater'
    refine ⟨store, ?_, ?_, ?_, ?_⟩
    · rw [List.map_cons, afterAll]
      change (a.set requester [b]).agent.afterAll _ = _
      rw [hagent, hafter]
      rfl
    · have hreports : ∀ b' ∈ rest,
          Reply.answered (.response (.accepted [(a.storing b.oid body c).reportOf b'])) =
            .answered (.response (.accepted [a.reportOf b'])) := by
        intro b' hb'
        obtain ⟨body', c', hpasses'⟩ := hlater b' hb'
        rw [(hpasses'.storing (hother b' hb') body c).2]
      rw [List.map_cons, session, List.map_cons, List.map_cons]
      change Reply.answered (a.set requester [b]).answer ::
        ((a.set requester [b]).agent.session _).map Exchange.reply = _
      rw [hanswer, hagent, hreplies, List.map_congr_left hreports]
    · refine List.forall_mem_cons.mpr ⟨⟨body, c, hb.found, hb.committed, ?_⟩, fun b' hb' => ?_⟩
      · exact (helsewhere b.oid hunseen).trans
          (Store.object?_put_self a.store ⟨b.oid, { body with value := c.stored }⟩)
      · obtain ⟨body', c', hfound', hcommit', hstored'⟩ := hcommits b' hb'
        exact ⟨body', c', (Store.object?_put_of_ne (hother b' hb')).symm.trans hfound', hcommit',
          hstored'⟩
    · intro oid hnot
      rw [List.map_cons, List.mem_cons, not_or] at hnot
      exact (helsewhere oid hnot.2).trans (Store.object?_put_of_ne hnot.1)

/-- A batch of bindings for different objects is the sum of its bindings. It is
accepted exactly if each binding is accepted alone. If so, each binding is reported
as it is alone, and the bindings come to the same agent and the same reports in
whatever order they are sent, together or one after another. -/
theorem set_sums_bindings (hnodup : (bindings.map VarBind.oid).Nodup)
    (hsmall : bindings.length ≤ a.maxBindings) :
    ((a.set requester bindings).answer.isAccepted = true ↔
      ∀ b ∈ bindings, (a.set requester [b]).answer.isAccepted = true) ∧
    ((a.set requester bindings).answer.isAccepted = true →
      ∃ report : VarBind → VarBind,
        (∀ b ∈ bindings, (report b).oid = b.oid ∧
          (a.set requester [b]).answer = .response (.accepted [report b])) ∧
        ∀ order, order.Perm bindings →
          (a.set requester order).answer = .response (.accepted (order.map report)) ∧
          (a.set requester order).agent = (a.set requester bindings).agent ∧
          a.afterAll (order.map (.single requester)) = (a.set requester bindings).agent ∧
          (a.session (order.map (.single requester))).map Exchange.reply =
            order.map fun b => .answered (.response (.accepted [report b]))) := by
  have hroom (hne : bindings ≠ []) : 1 ≤ a.maxBindings :=
    Nat.le_trans (List.length_pos_iff.mpr hne) hsmall
  constructor
  · rw [isAccepted_iff_accepts, accepts_iff_passes hnodup hsmall]
    exact forall₂_congr fun b hb =>
      (isAccepted_singleton_iff (hroom (List.ne_nil_of_mem hb))).symm
  · intro haccepted
    rw [isAccepted_iff_accepts, accepts_iff_passes hnodup hsmall] at haccepted
    obtain ⟨store, -, hagent, hcommits, helsewhere⟩ := set_of_passes hnodup hsmall haccepted
    refine ⟨a.reportOf, fun b hb => ?_, fun order hperm => ?_⟩
    · obtain ⟨body, c, hpasses⟩ := haccepted b hb
      refine ⟨by rw [hpasses.reportOf_eq], ?_⟩
      exact (hpasses.set_singleton (hroom (List.ne_nil_of_mem hb))).1
    · have hnodup' : (order.map VarBind.oid).Nodup := (hperm.map _).nodup_iff.mpr hnodup
      have hpasses : ∀ b ∈ order, ∃ body c, a.Passes requester b body c :=
        fun b hb => haccepted b (hperm.mem_iff.mp hb)
      have hroom' : order ≠ [] → 1 ≤ a.maxBindings := by
        rintro hne
        exact hroom fun hempty => hne (List.perm_nil.mp (hempty ▸ hperm))
      obtain ⟨together, hanswer, htogether, hcommits₁, helsewhere₁⟩ :=
        set_of_passes hnodup' (hperm.length_eq ▸ hsmall) hpasses
      obtain ⟨singly, hsingly, hreplies, hcommits₂, helsewhere₂⟩ :=
        afterAll_of_passes hroom' hnodup' hpasses
      obtain rfl := Store.eq_of_commits hperm hcommits helsewhere hcommits₁ helsewhere₁
      obtain rfl := Store.eq_of_commits hperm hcommits helsewhere hcommits₂ helsewhere₂
      exact ⟨hanswer, by rw [htogether, hagent], by rw [hsingly, hagent], hreplies⟩

/-- An agent with a counter, a display string and a key that is masked with the sum
of octets. -/
def withThreeKinds : Agent :=
  .ofStore <| Store.empty
    |>.put (.testAndIncr ⟨[1, 1]⟩ 7)
    |>.put ((ManagedObject.plain ⟨[1, 2]⟩ (.octets [65])).withRule .displayString)
    |>.put sumKey

/-- A batch for all three objects that can be accepted. -/
def threeKindsBatch : List VarBind :=
  [⟨⟨[1, 3]⟩, .octets [3, 4]⟩, ⟨⟨[1, 1]⟩, .integer 7⟩, ⟨⟨[1, 2]⟩, .octets [66, 10]⟩]

/-- The batch is accepted, so each of its bindings is accepted alone, and the bindings
can be sent one by one from the last to the first. -/
theorem threeKindsBatch_sums :
    (threeKindsBatch.map VarBind.oid).Nodup ∧
    threeKindsBatch.length ≤ withThreeKinds.maxBindings ∧
    (withThreeKinds.set none threeKindsBatch).answer.isAccepted = true ∧
    (∀ b ∈ threeKindsBatch, (withThreeKinds.set none [b]).answer.isAccepted = true) ∧
    ∃ report : VarBind → VarBind,
      (withThreeKinds.set none threeKindsBatch.reverse).answer =
        .response (.accepted (threeKindsBatch.reverse.map report)) ∧
      withThreeKinds.afterAll (threeKindsBatch.reverse.map (.single none)) =
        (withThreeKinds.set none threeKindsBatch).agent := by
  have hnodup : (threeKindsBatch.map VarBind.oid).Nodup := by decide
  have hsmall : threeKindsBatch.length ≤ withThreeKinds.maxBindings := by decide
  have haccepted : (withThreeKinds.set none threeKindsBatch).answer.isAccepted = true := by decide
  obtain ⟨halone, hsum⟩ := @set_sums_bindings withThreeKinds none threeKindsBatch hnodup hsmall
  obtain ⟨report, -, horder⟩ := hsum haccepted
  obtain ⟨hanswer, -, hsingly, -⟩ := horder _ (List.reverse_perm threeKindsBatch)
  exact ⟨hnodup, hsmall, haccepted, halone.mp haccepted, report, hanswer, hsingly⟩

end Agent

end SnmpSet
