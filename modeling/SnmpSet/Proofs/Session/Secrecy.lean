import SnmpSet.Proofs.Agent.DigestKeys
import SnmpSet.Proofs.Batch.Secrecy
import SnmpSet.Proofs.Session.Basic

/-!
# What a session gives away of keys

Two agents that differ in the octets of keys alone cannot be told apart by any
session whose key-change values are no longer than they need to be. Every request
has the same reply from both, and the agents still differ in the octets of keys
alone, so the argument goes on with the next request.
-/

namespace SnmpSet

/-- Two stores have the same addresses in use, and their objects are alike. -/
def Store.Alike (s s' : Store) : Prop :=
  ∀ oid, (s.object? oid = none ∧ s'.object? oid = none) ∨
    ∃ b b', s.object? oid = some ⟨oid, b⟩ ∧ s'.object? oid = some ⟨oid, b'⟩ ∧ b.Alike b'

/-- Two agents have one policy and one limit, and their stores are alike. -/
structure Agent.Alike (a a' : Agent) : Prop where
  policy_eq : a'.policy = a.policy
  maxBindings_eq : a'.maxBindings = a.maxBindings
  store : a.store.Alike a'.store

/-- What the request proposes to the keys of a store has at most a random part and a
delta that is one key long. -/
def Request.IsShort (s : Store) : Request → Prop
  | .set _ bindings => ∀ b ∈ bindings, ∀ o ∈ s.object? b.oid, ∀ column ∈ o.body.kind.column?,
    column.IsShort b.value
  | .get _ | .propose _ _ => True

instance (s : Store) (request : Request) : Decidable (request.IsShort s) :=
  match request with
  | .set _ bindings => inferInstanceAs (Decidable (∀ b ∈ bindings, ∀ o ∈ s.object? b.oid,
      ∀ column ∈ o.body.kind.column?, column.IsShort b.value))
  | .get _ | .propose _ _ => .isTrue trivial

/-- A request that is short for a store is short for any store with the same frames. -/
theorem Request.IsShort.of_frames {s s' : Store} {request : Request}
    (hframes : ∀ oid, s'.frame? oid = s.frame? oid) (hshort : request.IsShort s) :
    request.IsShort s' := by
  cases request with
  | get _ | propose _ _ => trivial
  | set requester bindings =>
    intro b hb o' ho' column hcolumn
    have hframe : s.frame? b.oid = some o'.body.frame := by
      rw [← hframes, Store.frame?, ho', Option.map_some]
    obtain ⟨o, ho, heq⟩ := Option.map_eq_some_iff.mp hframe
    have hkind : o.body.kind = o'.body.kind := congrArg Frame.kind heq
    exact hshort b hb o ho column (hkind ▸ hcolumn)

namespace Store

variable {s s' : Store}

/-- Alike stores stay alike when alike objects are put at an address. -/
theorem Alike.put (halike : s.Alike s') {b b' : ObjectBody} (hbody : b.Alike b') (oid : Oid) :
    (s.put ⟨oid, b⟩).Alike (s'.put ⟨oid, b'⟩) := by
  intro oid'
  by_cases heq : oid' = oid
  · subst heq
    exact .inr ⟨b, b', object?_put_self s ⟨oid', b⟩, object?_put_self s' ⟨oid', b'⟩, hbody⟩
  · rw [object?_put_of_ne heq, object?_put_of_ne heq]
    exact halike oid'

/-- Alike stores read alike. -/
theorem Alike.read_eq (halike : s.Alike s') (oid : Oid) : s'.read oid = s.read oid := by
  rcases halike oid with ⟨hnone, hnone'⟩ | ⟨b, b', hfound, hfound', hbody⟩
  · rw [read, read, hnone, hnone']
  · simp only [read, hfound, hfound', hbody.read_eq]

end Store

namespace Agent

variable {a a' : Agent} {requester : Requester} {bindings : List VarBind}

/-- Bindings are paired alike with the objects of alike stores, or cannot be paired
with either for the same reason. -/
theorem targetsOf_alike {s s' : Store} (halike : s.Alike s') (seen : List Oid)
    (bindings : List VarBind) :
    (∃ failure, targetsOf s seen bindings = .error failure ∧
        targetsOf s' seen bindings = .error failure) ∨
      ∃ ps : List (Target × Target), (∀ p ∈ ps, p.1.Alike p.2) ∧
        targetsOf s seen bindings = .ok (ps.map Prod.fst) ∧
        targetsOf s' seen bindings = .ok (ps.map Prod.snd) := by
  induction bindings generalizing seen with
  | nil => exact .inr ⟨[], by simp, rfl, rfl⟩
  | cons b bindings ih =>
    by_cases hseen : b.oid ∈ seen
    · simp only [targetsOf, if_pos hseen]
      exact .inl ⟨_, rfl, rfl⟩
    simp only [targetsOf, if_neg hseen]
    rcases halike b.oid with ⟨hnone, hnone'⟩ | ⟨body, body', hfound, hfound', hbody⟩
    · simp only [hnone, hnone']
      exact .inl ⟨_, rfl, rfl⟩
    simp only [hfound, hfound']
    rcases ih (b.oid :: seen) with ⟨failure, herror, herror'⟩ | ⟨ps, hps, hok, hok'⟩
    · simp only [herror, herror']
      exact .inl ⟨_, rfl, rfl⟩
    · simp only [hok, hok']
      refine .inr ⟨(.ofBinding b body, .ofBinding b body') :: ps, ?_, rfl, rfl⟩
      exact List.forall_mem_cons.mpr ⟨⟨rfl, rfl, rfl, hbody⟩, hps⟩

/-- Alike targets start a batch alike if their request is short. -/
theorem startAlike_of_targetsOf {s s' : Store} {ps : List (Target × Target)}
    (halike : ∀ p ∈ ps, p.1.Alike p.2) (hshort : (Request.set requester bindings).IsShort s)
    (hpaired : targetsOf s [] bindings = .ok (ps.map Prod.fst))
    (hpaired' : targetsOf s' [] bindings = .ok (ps.map Prod.snd)) :
    ∀ p ∈ ps, Target.StartAlike p := by
  intro p hp
  obtain ⟨hbindings, hfresh, -, -⟩ := targetsOf_ok hpaired
  obtain ⟨-, hfresh', -, -⟩ := targetsOf_ok hpaired'
  have hfst := hfresh p.1 (List.mem_map_of_mem hp)
  have hsnd := hfresh' p.2 (List.mem_map_of_mem hp)
  refine ⟨halike p hp, ⟨hfst.created, hfst.prior_eq⟩, ⟨hsnd.created, hsnd.prior_eq⟩, ?_⟩
  have hmem : p.1.binding ∈ bindings := by
    rw [← hbindings]
    exact List.mem_map_of_mem (List.mem_map_of_mem hp)
  exact hshort p.1.binding hmem _ hfst.found

/-- Alike targets are written back alike to alike stores. -/
theorem writeBack_alike {s s' : Store} {ps : List (Target × Target)} (hstores : s.Alike s')
    (halike : ∀ p ∈ ps, p.1.Alike p.2) :
    (writeBack s (ps.map Prod.fst)).Alike (writeBack s' (ps.map Prod.snd)) := by
  induction ps generalizing s s' with
  | nil => exact hstores
  | cons p ps ih =>
    obtain ⟨hhead, htail⟩ := List.forall_mem_cons.mp halike
    have hput : (s.put ⟨p.1.write.oid, p.1.body⟩).Alike (s'.put ⟨p.2.write.oid, p.2.body⟩) := by
      rw [hhead.oid_eq]
      exact hstores.put hhead.body _
    exact ih hput htail

/-- A target that is finished reports what it did before. -/
theorem reported_finish (t : Target) : t.finish.reported = t.reported := by
  unfold Target.finish PendingWrite.finish
  split <;> rfl

/-- Alike runs are answered alike. -/
theorem answerOf_alike {r r' : Run} (halike : r.Alike r') (bindings : List VarBind) :
    answerOf bindings r' = answerOf bindings r := by
  obtain ⟨hstop, ps, hps, htargets, htargets'⟩ := halike
  have hreported : ∀ p ∈ ps, p.2.finish.reported = p.1.finish.reported := by
    intro p hp
    rw [reported_finish, reported_finish, Target.reported, Target.reported, PendingWrite.report,
      PendingWrite.report, (hps p hp).oid_eq, (hps p hp).reported_eq, (hps p hp).proposed_eq]
  unfold answerOf
  rw [hstop, htargets, htargets', List.map_map, List.map_map]
  have hmaps := List.map_congr_left hreported
  simp only [Function.comp_def, hmaps]

/-- A short request is answered alike by alike agents and leaves them alike. -/
theorem set_alike (halike : a.Alike a')
    (hshort : (Request.set requester bindings).IsShort a.store) :
    (a'.set requester bindings).answer = (a.set requester bindings).answer ∧
      (a.set requester bindings).agent.Alike (a'.set requester bindings).agent := by
  by_cases hempty : bindings = []
  · simp only [set, resolve, if_pos hempty]
    exact ⟨rfl, halike⟩
  by_cases hbig : a.maxBindings < bindings.length
  · rw [set_of_tooBig hbig, set_of_tooBig (by rwa [halike.maxBindings_eq]), halike.maxBindings_eq]
    exact ⟨rfl, halike⟩
  have hsmall := Nat.not_lt.mp hbig
  have hsmall' : bindings.length ≤ a'.maxBindings := by rwa [halike.maxBindings_eq]
  rcases targetsOf_alike halike.store [] bindings with
    ⟨failure, herror, herror'⟩ | ⟨ps, hps, hpaired, hpaired'⟩
  · simp only [set, resolve, if_neg hempty, if_neg hbig, halike.maxBindings_eq, herror, herror']
    exact ⟨rfl, halike⟩
  · have hrun : (Run.all a.policy requester (ps.map Prod.fst)).Alike
        (Run.all a.policy requester (ps.map Prod.snd)) :=
      Run.all_alike (startAlike_of_targetsOf hps hshort hpaired hpaired')
    rw [set_of_paired hempty hsmall hpaired, set_of_paired hempty hsmall' hpaired',
      halike.policy_eq]
    refine ⟨answerOf_alike hrun bindings, rfl, halike.maxBindings_eq, ?_⟩
    obtain ⟨-, qs, hqs, htargets, htargets'⟩ := hrun
    rw [htargets, htargets']
    exact writeBack_alike halike.store hqs

variable {requests : List Request}

/-- A short request has the same reply from alike agents and leaves them alike. -/
theorem serve_alike (halike : a.Alike a') {request : Request} (hshort : request.IsShort a.store) :
    (a'.serve request).reply = (a.serve request).reply ∧
      (a.serve request).after.Alike (a'.serve request).after := by
  cases request with
  | set requester bindings =>
    obtain ⟨hanswer, hafter⟩ := set_alike halike hshort
    exact ⟨congrArg Reply.answered hanswer, hafter⟩
  | get oid => exact ⟨congrArg Reply.shown (halike.store.read_eq oid), halike⟩
  | propose oid proposed =>
    refine ⟨congrArg Reply.judged ?_, halike⟩
    rcases halike.store oid with ⟨hnone, hnone'⟩ | ⟨b, b', hfound, hfound', hbody⟩
    · rw [hnone, hnone']
    · rw [hfound, hfound', Option.map_some, Option.map_some, hbody.propose_eq]

/-- Stored keys do not influence what a requester sees. In a session whose key-change
values are short, two agents whose stores differ in the octets of keys alone give
the same replies, and their stores still differ in nothing else afterwards. -/
theorem replies_independent_of_keys (halike : a.Alike a')
    (hshort : ∀ request ∈ requests, request.IsShort a.store) :
    (a'.session requests).map Exchange.reply = (a.session requests).map Exchange.reply ∧
      (a.afterAll requests).store.Alike (a'.afterAll requests).store := by
  induction requests generalizing a a' with
  | nil => exact ⟨rfl, halike.store⟩
  | cons request requests ih =>
    obtain ⟨hfirst, hrest⟩ := List.forall_mem_cons.mp hshort
    obtain ⟨hreply, hafter⟩ := serve_alike halike hfirst
    obtain ⟨store, hserved, hframes⟩ := exists_store_serve a request
    have hrest' : ∀ later ∈ requests, later.IsShort (a.serve request).after.store := by
      rw [hserved]
      exact fun later hlater => (hrest later hlater).of_frames hframes
    obtain ⟨hreplies, hstores⟩ := ih hafter hrest'
    refine ⟨?_, hstores⟩
    rw [session, session, List.map_cons, List.map_cons, hreply, hreplies]

/-- An agent with a counter and a key that is masked with the sum of octets. -/
def withSumKey (key : List UInt8) : Agent :=
  .ofStore <| Store.empty
    |>.put (.testAndIncr ⟨[1, 1]⟩ 7)
    |>.put (.keyChange ⟨[1, 3]⟩ (.ofDigest ⟨[1]⟩ octetSum) .empty key)

/-- The key is changed with the counter, cannot be changed for want of a delta, is
read and is changed again. -/
def sumKeyRequests : List Request :=
  [.set none [⟨⟨[1, 1]⟩, .integer 7⟩, ⟨⟨[1, 3]⟩, .octets [2, 5]⟩],
    .set none [⟨⟨[1, 1]⟩, .integer 8⟩, ⟨⟨[1, 3]⟩, .octets [4]⟩],
    .get ⟨[1, 3]⟩,
    .set (some ⟨[97], .usm⟩) [⟨⟨[1, 3]⟩, .octets [6, 1]⟩]]

/-- Two keys of different lengths give the same replies and lead to different keys. -/
theorem sumKeyRequests_replies :
    (withSumKey [9]).Alike (withSumKey [200, 3]) ∧
    (∀ request ∈ sumKeyRequests, request.IsShort (withSumKey [9]).store) ∧
    ((withSumKey [200, 3]).session sumKeyRequests).map Exchange.reply =
      ((withSumKey [9]).session sumKeyRequests).map Exchange.reply ∧
    ((withSumKey [9]).afterAll sumKeyRequests).store.Alike
      ((withSumKey [200, 3]).afterAll sumKeyRequests).store ∧
    ((withSumKey [9]).afterAll sumKeyRequests).store.value? ⟨[1, 3]⟩ ≠
      ((withSumKey [200, 3]).afterAll sumKeyRequests).store.value? ⟨[1, 3]⟩ := by
  have hempty : Store.empty.Alike Store.empty := fun oid => .inl ⟨rfl, rfl⟩
  have halike : (withSumKey [9]).Alike (withSumKey [200, 3]) :=
    ⟨rfl, rfl, (hempty.put (.same _) _).put (.keys rfl ⟨_, _, rfl⟩ [] _ _) _⟩
  have hshort : ∀ request ∈ sumKeyRequests, request.IsShort (withSumKey [9]).store := by decide
  obtain ⟨hreplies, hafter⟩ := replies_independent_of_keys halike hshort
  exact ⟨halike, hshort, hreplies, hafter, by decide⟩

end Agent

end SnmpSet
