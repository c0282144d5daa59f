import SnmpSet.Proofs.Completeness
import SnmpSet.Proofs.Session.Writes

/-!
# Base types are for good

What an object stores is made from the proposal and the stored value together, by
each kind in its own way. Prepare makes the two agree in base type, and every kind
gives that base type back. So no session changes the base type of a value. A counter
that holds no integer and a key that is no octet string fit no proposal at all, and
they stay as they are.
-/

namespace SnmpSet

namespace ObjectBody

variable {b : ObjectBody} {proposed : Value} {requester : Requester} {c : Committed}

/-- What an object makes of a proposal that it lets through has the base type of the
value that it held. -/
theorem baseType_of_commit (hprepare : (b.prepare proposed requester).verdict = .ok ())
    (hcheck : (b.check proposed).verdict = .ok ())
    (hcommit : b.kind.commit b.value proposed = .ok c) :
    c.stored.baseType = b.value.baseType := by
  cases fits_of_prepare_check hprepare hcheck with
  | plain hkind =>
    obtain ⟨-, -, htype, -, -⟩ := verdict_prepare_eq_ok.mp hprepare
    rw [hkind] at hcommit
    obtain rfl : ⟨proposed, proposed⟩ = c := Except.ok.inj hcommit
    exact htype
  | @counter n hkind hvalue =>
    rw [hkind, hvalue] at hcommit
    obtain rfl : ⟨.integer (TestAndIncr.successor n), proposed⟩ = c := Except.ok.inj hcommit
    rw [hvalue]
    rfl
  | key hcolumn hvalue _ _ =>
    rw [Kind.commit_of_column? hcolumn] at hcommit
    obtain ⟨-, -, key, -, -, hstored, -, -⟩ := KeyChangeColumn.exists_key_of_commit hcommit
    rw [hstored, hvalue]
    rfl

/-- The value of an object does not suit its kind: it is a counter that holds no integer,
or a key that is no octet string. -/
def Mismatched (b : ObjectBody) : Prop :=
  (b.kind = .testAndIncr ∧ b.value.baseType ≠ .integer) ∨
    (b.kind.isSecret = true ∧ b.value.baseType ≠ .octetString)

/-- No proposal fits an object whose value does not suit its kind. -/
theorem Mismatched.not_fits (hmismatched : b.Mismatched) : ¬b.Fits proposed := by
  intro hfits
  rcases hmismatched with ⟨hkind, htype⟩ | ⟨hsecret, htype⟩
  · cases hfits with
    | plain hkind' => simp [hkind] at hkind'
    | counter _ hvalue => exact htype (by rw [hvalue]; rfl)
    | key hcolumn _ _ _ => simp [hkind, Kind.column?] at hcolumn
  · cases hfits with
    | plain hkind => simp [hkind, Kind.isSecret, Kind.column?] at hsecret
    | counter hkind _ => simp [hkind, Kind.isSecret, Kind.column?] at hsecret
    | key _ hvalue _ _ => exact htype (by rw [hvalue]; rfl)

end ObjectBody

/-- The base type of the value at an address. -/
def Store.baseType? (s : Store) (oid : Oid) : Option BaseType :=
  (s.value? oid).map Value.baseType

namespace Agent

variable {a : Agent}

/-- One request keeps the base type of each value. -/
theorem baseType?_serve (a : Agent) (request : Request) (oid : Oid) :
    (a.serve request).after.store.baseType? oid = a.store.baseType? oid := by
  rcases writes_or_keeps a request oid with
    ⟨-, requester, body, proposed, c, hwrites⟩ | ⟨-, hkept⟩
  · have hfound := hwrites.found
    rw [before_serve] at hfound
    rw [Store.baseType?, Store.baseType?, Store.value?_of_object? hwrites.stored,
      Store.value?_of_object? hfound, Option.map_some, Option.map_some,
      ObjectBody.baseType_of_commit hwrites.prepared hwrites.checked hwrites.committed]
  · rw [Store.baseType?, Store.baseType?, Store.value?, Store.value?, hkept]

/-- No request writes an object whose value does not suit its kind, and each leaves it
as it was. -/
theorem keeps_mismatched {oid : Oid} {body : ObjectBody}
    (hfound : a.store.object? oid = some ⟨oid, body⟩) (hmismatched : body.Mismatched)
    (request : Request) :
    (a.serve request).isWriteTo oid = false ∧
      (a.serve request).after.store.object? oid = some ⟨oid, body⟩ := by
  have hstuck : body.Stuck := fun proposed requester hprepared hchecked =>
    hmismatched.not_fits (ObjectBody.fits_of_prepare_check hprepared hchecked)
  exact keeps_stuck hfound hstuck request

/-- A session keeps the base type of the value at each address. It leaves alone every
counter that holds no integer and every key that is no octet string, and accepts no
request with a binding for one of them. -/
theorem baseTypes_afterAll (a : Agent) (requests : List Request) :
    (∀ oid, (a.afterAll requests).store.baseType? oid = a.store.baseType? oid) ∧
    ∀ oid body, a.store.object? oid = some ⟨oid, body⟩ → body.Mismatched →
      (a.afterAll requests).store.object? oid = some ⟨oid, body⟩ ∧
        ∀ x ∈ a.session requests, x.isWriteTo oid = false := by
  induction requests generalizing a with
  | nil => exact ⟨fun _ => rfl, fun _ _ hfound _ => ⟨hfound, by simp [session]⟩⟩
  | cons request requests ih =>
    obtain ⟨hsame, hkept⟩ := ih (a.serve request).after
    refine ⟨fun oid => (hsame oid).trans (baseType?_serve a request oid), ?_⟩
    intro oid body hfound hmismatched
    obtain ⟨hnot, hfound'⟩ := keeps_mismatched hfound hmismatched request
    obtain ⟨hfound'', hnone⟩ := hkept oid body hfound' hmismatched
    exact ⟨hfound'', List.forall_mem_cons.mpr ⟨hnot, hnone⟩⟩

/-- An agent with a plain string, a counter that holds a string, and a key that is an
integer. -/
def withMismatches : Agent :=
  .ofStore <| Store.empty
    |>.put (.plain ⟨[1, 1]⟩ (.octets [65]))
    |>.put (.ofKind ⟨[1, 2]⟩ (.octets [55]) .testAndIncr)
    |>.put (.ofKind ⟨[1, 3]⟩ (.integer 9) (.keyChange (.create (.failing 1) .empty)))

/-- The counter and the key are offered what they hold, and other base types. The last
request is accepted. -/
def mismatchedRequests : List Request :=
  [.set none [⟨⟨[1, 2]⟩, .octets [55]⟩],
    .set none [⟨⟨[1, 1]⟩, .octets [66]⟩, ⟨⟨[1, 2]⟩, .integer 7⟩],
    .set none [⟨⟨[1, 3]⟩, .integer 9⟩],
    .set none [⟨⟨[1, 1]⟩, .octets [66]⟩, ⟨⟨[1, 3]⟩, .octets [3, 4]⟩],
    .set none [⟨⟨[1, 1]⟩, .octets [67, 68]⟩]]

/-- Only the plain string has changed, and it is still a string. -/
theorem mismatchedRequests_keep :
    (withMismatches.afterAll mismatchedRequests).store.value? ⟨[1, 1]⟩ = some (.octets [67, 68]) ∧
    (withMismatches.afterAll mismatchedRequests).store.baseType? ⟨[1, 1]⟩ =
      withMismatches.store.baseType? ⟨[1, 1]⟩ ∧
    (∃ body, body.Mismatched ∧ body.kind = .testAndIncr ∧
      (withMismatches.afterAll mismatchedRequests).store.object? ⟨[1, 2]⟩ = some ⟨⟨[1, 2]⟩, body⟩) ∧
    ∃ body, body.Mismatched ∧ body.value = .integer 9 ∧
      (withMismatches.afterAll mismatchedRequests).store.object? ⟨[1, 3]⟩ =
        some ⟨⟨[1, 3]⟩, body⟩ := by
  obtain ⟨hsame, hkept⟩ := baseTypes_afterAll withMismatches mismatchedRequests
  have hcounter : ObjectBody.Mismatched (.create (.octets [55]) .testAndIncr) :=
    .inl ⟨rfl, by decide⟩
  have hkey : ObjectBody.Mismatched
      (.create (.integer 9) (.keyChange (.create (.failing 1) .empty))) := .inr ⟨rfl, by decide⟩
  exact ⟨rfl, hsame ⟨[1, 1]⟩,
    ⟨_, hcounter, rfl, (hkept ⟨[1, 2]⟩ _ rfl hcounter).1⟩,
    ⟨_, hkey, rfl, (hkept ⟨[1, 3]⟩ _ rfl hkey).1⟩⟩

end Agent

end SnmpSet
