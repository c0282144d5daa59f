import Mathlib.Algebra.Order.Ring.Int
import SnmpSet.Proofs.Session.Writes

/-!
# Counters over a session

Every accepted request with a binding for a counter has proposed the value that
the counter held, reports it, and moves the counter on by one. No other request
moves it. So a counter tells how many requests it has taken, modulo `2 ^ 31`, and
takes a value again only when it has gone all the way round.
-/

namespace SnmpSet

/-- The value after a natural number is the next one modulo `2 ^ 31`. -/
theorem TestAndIncr.toInt_successor {n : Int32} (hn : 0 ≤ n.toInt) :
    (successor n).toInt = (n.toInt + 1) % 2 ^ 31 := by
  have hhigh : n.toInt ≤ 2 ^ 31 - 1 := n.toInt_le
  unfold successor
  split
  · next hmax =>
    subst hmax
    rfl
  · next hmax =>
    have hne : n.toInt ≠ 2 ^ 31 - 1 := fun heq => hmax (Int32.toInt_inj.mp heq)
    have hsum : (n + 1).toInt = n.toInt + 1 := by
      rw [Int32.toInt_add, Int32.toInt_one]
      exact Int.bmod_eq_of_le (by omega) (by omega)
    omega

/-- A counter starts at its initial value, or at zero if that is negative. -/
theorem ManagedObject.value_testAndIncr (oid : Oid) (initial : Int32) :
    ∃ n, (testAndIncr oid initial).body.value = .integer n ∧ n.toInt = max initial.toInt 0 := by
  refine ⟨if initial < 0 then 0 else initial, rfl, ?_⟩
  split
  · next hnegative =>
    have hlt : initial.toInt < 0 := Int32.lt_iff_toInt_lt.mp hnegative
    rw [Int32.toInt_zero]
    omega
  · next hnatural =>
    have hle : ¬initial.toInt < 0 := fun hlt => hnatural (Int32.lt_iff_toInt_lt.mpr hlt)
    omega

/-- The object at an address is a counter that holds a number from zero on. -/
structure Store.Counts (s : Store) (oid : Oid) (n : Int32) : Prop where
  found : ∃ body, s.object? oid = some ⟨oid, body⟩ ∧ body.kind = .testAndIncr ∧
    body.value = .integer n
  natural : 0 ≤ n.toInt

/-- The value at a counter's address is the number that the counter holds. -/
theorem Store.Counts.value?_eq {s : Store} {oid : Oid} {n : Int32} (hcounts : s.Counts oid n) :
    s.value? oid = some (.integer n) := by
  obtain ⟨body, hfound, -, hvalue⟩ := hcounts.found
  rw [value?_of_object? hfound, hvalue]

/-- An exchange takes a number from a counter: the counter held it, the one binding
for the counter proposed it, and it is reported back. -/
structure Exchange.Takes (x : Exchange) (oid : Oid) (n : Int32) : Prop where
  held : x.before.store.value? oid = some (.integer n)
  proposed : ∃ requester bindings, x.request = .set requester bindings ∧
    bindings.filter (fun b => b.oid = oid) = [⟨oid, .integer n⟩]
  reported : ∃ reports, x.reply = .answered (.response (.accepted reports)) ∧
    reports.filter (fun b => b.oid = oid) = [⟨oid, .integer n⟩]

/-- Whoever writes a counter takes the number that it holds and moves it on. -/
theorem Exchange.Writes.takes {x : Exchange} {oid : Oid} {requester : Requester}
    {body : ObjectBody} {proposed : Value} {c : Committed} {n : Int32}
    (hwrites : x.Writes oid requester body proposed c) (hcounts : x.before.store.Counts oid n) :
    x.Takes oid n ∧ x.request.proposal? oid = some (.integer n) ∧
      x.after.store.Counts oid (TestAndIncr.successor n) := by
  have hheld := hcounts.value?_eq
  obtain ⟨⟨body', hfound, hkind, hvalue⟩, hnatural⟩ := hcounts
  obtain rfl : body' = body := Store.body_unique hfound hwrites.found
  obtain ⟨-, -, -, -, hprepared⟩ := ObjectBody.verdict_prepare_eq_ok.mp hwrites.prepared
  have hcommitted := hwrites.committed
  have hproposal := hwrites.proposal?_eq
  obtain ⟨bindings, hrequest, hproposed⟩ := hwrites.request_eq
  obtain ⟨reports, hreply, hreported⟩ := hwrites.reply_eq
  rw [hkind, hvalue] at hprepared hcommitted
  obtain rfl : .integer n = proposed := by
    simpa [Kind.prepare, Kind.vet, TestAndIncr.prepare] using hprepared
  obtain rfl : ⟨.integer (TestAndIncr.successor n), .integer n⟩ = c := Except.ok.inj hcommitted
  refine ⟨⟨hheld, ⟨requester, bindings, hrequest, hproposed⟩, ⟨reports, hreply, hreported⟩⟩,
    hproposal, ⟨⟨_, hwrites.stored, hkind, rfl⟩, ?_⟩⟩
  rw [TestAndIncr.toInt_successor hnatural]
  omega

namespace Agent

variable {a : Agent} {requests : List Request} {oid : Oid} {n : Int32}

/-- One request moves a counter on by one if it is a write to the counter, and
leaves it alone if not. -/
theorem counts_serve (hcounts : a.store.Counts oid n) (request : Request) :
    ∃ m, (a.serve request).after.store.Counts oid m ∧
      m.toInt = (n.toInt + if (a.serve request).isWriteTo oid then 1 else 0) % 2 ^ 31 := by
  rcases writes_or_keeps a request oid with
    ⟨hwrite, requester, body, proposed, c, hwrites⟩ | ⟨hwrite, hkept⟩
  · have hcounts' : (a.serve request).before.store.Counts oid n := by rwa [before_serve]
    obtain ⟨-, -, hafter⟩ := hwrites.takes hcounts'
    exact ⟨_, hafter, by rw [if_pos hwrite, TestAndIncr.toInt_successor hcounts.natural]⟩
  · have hhigh : n.toInt < 2 ^ 31 := n.toInt_lt
    have hnatural := hcounts.natural
    refine ⟨n, ⟨by rw [hkept]; exact hcounts.found, hnatural⟩, ?_⟩
    rw [hwrite, if_neg Bool.false_ne_true]
    omega

/-- A session moves a counter on by the number of writes to it. -/
theorem counts_afterAll (hcounts : a.store.Counts oid n) (requests : List Request) :
    ∃ m, (a.afterAll requests).store.Counts oid m ∧
      m.toInt = (n.toInt + (a.session requests).countP (Exchange.isWriteTo oid)) % 2 ^ 31 := by
  induction requests generalizing a n with
  | nil =>
    have hhigh : n.toInt < 2 ^ 31 := n.toInt_lt
    have hnatural := hcounts.natural
    refine ⟨n, hcounts, ?_⟩
    rw [session, List.countP_nil]
    omega
  | cons request requests ih =>
    obtain ⟨k, hk, hkn⟩ := counts_serve hcounts request
    obtain ⟨m, hm, hmk⟩ := ih hk
    refine ⟨m, hm, ?_⟩
    rw [hmk, hkn, session, List.countP_cons]
    split <;> omega

/-- A write to a counter takes the number that the counter holds. -/
theorem takes_of_isWriteTo (hcounts : a.store.Counts oid n) {request : Request}
    (hwrite : (a.serve request).isWriteTo oid = true) :
    (a.serve request).Takes oid n ∧ request.proposal? oid = some (.integer n) := by
  rcases writes_or_keeps a request oid with
    ⟨-, requester, body, proposed, c, hwrites⟩ | ⟨hnot, -⟩
  · have hcounts' : (a.serve request).before.store.Counts oid n := by rwa [before_serve]
    obtain ⟨htakes, hproposal, -⟩ := hwrites.takes hcounts'
    rw [request_serve] at hproposal
    exact ⟨htakes, hproposal⟩
  · simp [hwrite] at hnot

/-- Two writes to a counter propose the same value exactly if the number of writes
from the one to the other is a multiple of `2 ^ 31`. -/
theorem proposal?_eq_iff_dvd (hcounts : a.store.Counts oid n) {x y : Exchange}
    {between after : List Exchange}
    (hsession : a.session requests = x :: between ++ y :: after)
    (hx : x.isWriteTo oid = true) (hy : y.isWriteTo oid = true) :
    x.request.proposal? oid = y.request.proposal? oid ↔
      2 ^ 31 ∣ (x :: between).countP (Exchange.isWriteTo oid) := by
  obtain ⟨first, rest, rfl, hfirst, hrest⟩ := exists_split_of_session hsession
  obtain ⟨request, middle, rfl, rfl, -⟩ := exists_serve_of_session hfirst
  obtain ⟨request', -, -, rfl, -⟩ := exists_serve_of_session hrest
  obtain ⟨m, hm, hmn⟩ := counts_afterAll hcounts (request :: middle)
  obtain ⟨-, hproposal⟩ := takes_of_isWriteTo hcounts hx
  obtain ⟨-, hproposal'⟩ := takes_of_isWriteTo hm hy
  have hhigh : n.toInt < 2 ^ 31 := n.toInt_lt
  have hnatural := hcounts.natural
  have hsame : n = m ↔ n.toInt = m.toInt := Int32.toInt_inj.symm
  rw [request_serve, request_serve, hproposal, hproposal', Option.some.injEq,
    Value.integer.injEq, hsame, hmn, hfirst]
  omega

/-- After a session a counter holds its initial value and the number of writes to
it, modulo `2 ^ 31`. Each write takes the number that the counter held. Two writes
propose the same value exactly if the number of writes from the one to the other,
which is at least one, is a multiple of `2 ^ 31`. -/
theorem testAndIncr_counts_writes {initial : Int32} {rules : RuleList} {observers : List Observer}
    (hregistered : a.store.object? oid =
      some ⟨oid, { (ManagedObject.testAndIncr oid initial).body with rules, observers }⟩)
    (requests : List Request) :
    (∃ n : Int32, (a.afterAll requests).store.value? oid = some (.integer n) ∧
      n.toInt = (max initial.toInt 0 +
        (a.session requests).countP (Exchange.isWriteTo oid)) % 2 ^ 31) ∧
    (∀ x ∈ a.session requests, x.isWriteTo oid = true → ∃ n, x.Takes oid n) ∧
    ∀ before x between y after, a.session requests = before ++ (x :: between ++ y :: after) →
      x.isWriteTo oid = true → y.isWriteTo oid = true →
      0 < (x :: between).countP (Exchange.isWriteTo oid) ∧
        (x.request.proposal? oid = y.request.proposal? oid ↔
          2 ^ 31 ∣ (x :: between).countP (Exchange.isWriteTo oid)) := by
  obtain ⟨start, hstart, hinitial⟩ := ManagedObject.value_testAndIncr oid initial
  have hcounts : a.store.Counts oid start :=
    ⟨⟨_, hregistered, rfl, hstart⟩, by omega⟩
  refine ⟨?_, ?_, ?_⟩
  · obtain ⟨n, hn, htotal⟩ := counts_afterAll hcounts requests
    exact ⟨n, hn.value?_eq, by rw [htotal, hinitial]⟩
  · intro x hx hwrite
    obtain ⟨first, request, later, -, rfl⟩ := exists_of_mem_session hx
    obtain ⟨n, hn, -⟩ := counts_afterAll hcounts first
    exact ⟨n, (takes_of_isWriteTo hn hwrite).1⟩
  · intro before x between y after hsplit hx hy
    obtain ⟨first, rest, -, -, hrest⟩ := exists_split_of_session hsplit
    obtain ⟨n, hn, -⟩ := counts_afterAll hcounts first
    exact ⟨List.countP_pos_iff.mpr ⟨x, List.mem_cons_self, hx⟩,
      proposal?_eq_iff_dvd hn hrest hx hy⟩

/-- Two requests take a number from the counter. Between them one is stale, and one
is undone because its third binding fails at commit. -/
def counterRequests : List Request :=
  [.set none [⟨⟨[1, 1]⟩, .integer 7⟩],
    .set (some ⟨[97], .usm⟩) [⟨⟨[1, 1]⟩, .integer 7⟩],
    .set none [⟨⟨[1, 1]⟩, .integer 8⟩, ⟨⟨[1, 2]⟩, .octets [2]⟩, ⟨⟨[1, 3]⟩, .octets [3, 4]⟩],
    .propose ⟨[1, 1]⟩ (.integer 8),
    .set none [⟨⟨[1, 2]⟩, .octets [2]⟩, ⟨⟨[1, 1]⟩, .integer 8⟩]]

/-- The counter has moved on from seven by two, and the two requests that moved it
have not proposed the same value. -/
theorem counterRequests_counted :
    (∃ n : Int32, (withFailingKey.afterAll counterRequests).store.value? ⟨[1, 1]⟩ =
      some (.integer n) ∧ n.toInt = (max 7 0 + 2) % 2 ^ 31) ∧
    ∃ x ∈ withFailingKey.session counterRequests, ∃ y ∈ withFailingKey.session counterRequests,
      (∃ n, x.Takes ⟨[1, 1]⟩ n) ∧ (∃ n, y.Takes ⟨[1, 1]⟩ n) ∧
      x.request.proposal? ⟨[1, 1]⟩ ≠ y.request.proposal? ⟨[1, 1]⟩ := by
  have hregistered : withFailingKey.store.object? ⟨[1, 1]⟩ =
      some ⟨⟨[1, 1]⟩, (ManagedObject.testAndIncr ⟨[1, 1]⟩ 7).body⟩ := rfl
  obtain ⟨htotal, htakes, hagain⟩ :=
    testAndIncr_counts_writes hregistered counterRequests
  have hcount : (withFailingKey.session counterRequests).countP
      (Exchange.isWriteTo ⟨[1, 1]⟩) = 2 := by decide
  rw [hcount] at htotal
  obtain ⟨x, between, y, hsession, hx, hy, hone⟩ : ∃ x between y,
      withFailingKey.session counterRequests = [] ++ (x :: between ++ [y]) ∧
        x.isWriteTo ⟨[1, 1]⟩ = true ∧ y.isWriteTo ⟨[1, 1]⟩ = true ∧
        (x :: between).countP (Exchange.isWriteTo ⟨[1, 1]⟩) = 1 :=
    ⟨_, [_, _, _], _, rfl, by decide, by decide, by decide⟩
  have hx' : x ∈ withFailingKey.session counterRequests := by simp [hsession]
  have hy' : y ∈ withFailingKey.session counterRequests := by simp [hsession]
  have hdiffer : ¬x.request.proposal? ⟨[1, 1]⟩ = y.request.proposal? ⟨[1, 1]⟩ := by
    rw [(hagain [] x between y [] hsession hx hy).2, hone]
    decide
  exact ⟨htotal, x, hx', y, hy', htakes x hx' hx, htakes y hy' hy, hdiffer⟩

end Agent

end SnmpSet
