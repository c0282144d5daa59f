import SnmpSet.Proofs.Agent.DigestKeys
import SnmpSet.Proofs.Session.Writes

/-!
# Who changes the objects of an agent

A value changes only by an accepted request with one binding for its object, from
a requester that the policy and the object's kind let write it. What a batch
stores before one of its bindings is refused is put back, so it changes nothing.
Under a policy of subtrees, all other objects stay as they are.
-/

namespace SnmpSet

/-- A column lets a requester pass exactly if it is the user under USM that the
row belongs to. -/
theorem KeyChangeColumn.vet_eq_ok {column : KeyChangeColumn} {requester : Requester} :
    column.vet requester = .ok () ↔ ∃ principal, requester = some principal ∧
      principal.model = .usm ∧ column.owner = .ok principal.identity := by
  constructor
  · intro hvet
    unfold vet at hvet
    split at hvet
    · simp at hvet
    · next principal =>
      split at hvet
      · next husm =>
        split at hvet
        · simp at hvet
        · next owner howner =>
          split at hvet
          · next hidentity => exact ⟨principal, rfl, husm, by rw [howner, hidentity]⟩
          · simp at hvet
      · simp at hvet
  · rintro ⟨principal, rfl, husm, howner⟩
    simp [vet, husm, howner]

/-- A requester may write an object of a kind: the policy allows it, requests can
write the kind, and a user's own key is written by that user. -/
structure WritePolicy.Authorises (policy : WritePolicy) (requester : Requester) (oid : Oid)
    (kind : Kind) : Prop where
  allowed : policy.allows requester oid = true
  writable : ∀ stamp, kind ≠ .timeStamp stamp
  owned : ∀ column, kind = .ownKeyChange column → ∃ principal, requester = some principal ∧
    principal.model = .usm ∧ column.owner = .ok principal.identity

/-- Whoever writes an object may write it. -/
theorem Exchange.Writes.authorises {x : Exchange} {oid : Oid} {requester : Requester}
    {body : ObjectBody} {proposed : Value} {c : Committed}
    (hwrites : x.Writes oid requester body proposed c) :
    x.before.policy.Authorises requester oid body.kind := by
  obtain ⟨hwritable, hvet, -, -, -⟩ := ObjectBody.verdict_prepare_eq_ok.mp hwrites.prepared
  refine ⟨hwrites.allowed, ?_, ?_⟩
  · intro stamp hkind
    simp [hkind, Kind.writable] at hwritable
  · intro column hkind
    rw [hkind] at hvet
    exact KeyChangeColumn.vet_eq_ok.mp hvet

namespace Agent

variable {a : Agent} {requests : List Request}

/-- An object that the policy allows nobody to write stays as it is in any session. -/
theorem object?_afterAll_of_not_allowed {oid : Oid}
    (hdenied : ∀ requester, a.policy.allows requester oid = false) (requests : List Request) :
    (a.afterAll requests).store.object? oid = a.store.object? oid := by
  induction requests generalizing a with
  | nil => rfl
  | cons request requests ih =>
    have hkept : (a.serve request).after.store.object? oid = a.store.object? oid := by
      rcases writes_or_keeps a request oid with
        ⟨-, requester, body, proposed, c, hwrites⟩ | ⟨-, hkept⟩
      · have hallowed := hwrites.allowed
        simp [hdenied] at hallowed
      · exact hkept
    have hrest := ih (a := (a.serve request).after) fun requester => by
      rw [show (a.serve request).after.policy = a.policy from policy_afterAll a [request]]
      exact hdenied requester
    exact hrest.trans hkept

/-- If a value changes during an exchange of a session, the exchange is an accepted
request with one binding for the object, and its requester may write the object.
Under a policy of subtrees no session changes an object outside of them. -/
theorem changes_authorised (a : Agent) (requests : List Request) :
    (∀ x ∈ a.session requests, ∀ oid,
      x.after.store.value? oid ≠ x.before.store.value? oid →
      ∃ requester bindings reports body proposed,
        x.request = .set requester bindings ∧
        x.reply = .answered (.response (.accepted reports)) ∧
        bindings.filter (fun b => b.oid = oid) = [⟨oid, proposed⟩] ∧
        x.before.store.object? oid = some ⟨oid, body⟩ ∧
        a.policy.Authorises requester oid body.kind) ∧
    ∀ roots, a.policy = .subtrees roots → ∀ oid, (∀ root ∈ roots, root.isPrefixOf oid = false) →
      (a.afterAll requests).store.object? oid = a.store.object? oid := by
  constructor
  · intro x hx oid hchanged
    obtain ⟨first, request, later, -, rfl⟩ := exists_of_mem_session hx
    rcases writes_or_keeps (a.afterAll first) request oid with
      ⟨-, requester, body, proposed, c, hwrites⟩ | ⟨-, hkept⟩
    · obtain ⟨bindings, hrequest, hfilter⟩ := hwrites.request_eq
      obtain ⟨reports, hreply, -⟩ := hwrites.reply_eq
      have hauthorises := hwrites.authorises
      rw [before_serve, policy_afterAll] at hauthorises
      exact ⟨requester, bindings, reports, body, proposed, hrequest, hreply, hfilter,
        hwrites.found, hauthorises⟩
    · rw [before_serve, Store.value?, hkept] at hchanged
      exact absurd rfl hchanged
  · intro roots hroots oid houtside
    refine object?_afterAll_of_not_allowed (fun requester => ?_) requests
    simpa [hroots, WritePolicy.subtrees] using houtside

/-- An agent that lets requests write below `1.3`, where a user has a key, and has a
plain object elsewhere. -/
def withOwnKey : Agent where
  store := Store.empty
    |>.put (.ownKeyChange ⟨[1, 3, 1]⟩ (.ofDigest ⟨[1]⟩ octetSum) ⟨[1, 128, 1, 97]⟩ [9])
    |>.put (.plain ⟨[1, 2]⟩ (.integer 0))
  policy := .subtrees [⟨[1, 3]⟩]
  maxBindings := defaultMaxBindings

/-- The user changes the key after somebody else has failed to, and nobody can
write the plain object. -/
def ownKeyRequests : List Request :=
  [.set (some ⟨[98], .usm⟩) [⟨⟨[1, 3, 1]⟩, .octets [7, 21]⟩],
    .set (some ⟨[97], .usm⟩) [⟨⟨[1, 3, 1]⟩, .octets [7, 21]⟩],
    .set (some ⟨[97], .usm⟩) [⟨⟨[1, 2]⟩, .integer 1⟩]]

/-- The one change of the key is authorised, and the plain object stays as it is. -/
theorem ownKeyRequests_authorised :
    (∃ x ∈ withOwnKey.session ownKeyRequests,
      x.before.store.value? ⟨[1, 3, 1]⟩ = some (.octets [9]) ∧
      x.after.store.value? ⟨[1, 3, 1]⟩ = some (.octets [5]) ∧
      ∃ requester bindings body, x.request = .set requester bindings ∧
        x.before.store.object? ⟨[1, 3, 1]⟩ = some ⟨⟨[1, 3, 1]⟩, body⟩ ∧
        withOwnKey.policy.Authorises requester ⟨[1, 3, 1]⟩ body.kind) ∧
    (withOwnKey.afterAll ownKeyRequests).store.object? ⟨[1, 2]⟩ =
      withOwnKey.store.object? ⟨[1, 2]⟩ := by
  obtain ⟨hchanges, houtside⟩ := changes_authorised withOwnKey ownKeyRequests
  constructor
  · refine ⟨_, List.mem_cons_of_mem _ List.mem_cons_self, rfl, rfl, ?_⟩
    obtain ⟨requester, bindings, -, body, -, hrequest, -, -, hfound, hauthorises⟩ :=
      hchanges _ (List.mem_cons_of_mem _ List.mem_cons_self) ⟨[1, 3, 1]⟩ (by decide)
    exact ⟨requester, bindings, body, hrequest, hfound, hauthorises⟩
  · exact houtside [⟨[1, 3]⟩] rfl ⟨[1, 2]⟩ (by decide)

end Agent

end SnmpSet
