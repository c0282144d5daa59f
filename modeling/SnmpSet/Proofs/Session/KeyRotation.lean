import SnmpSet.Proofs.Completeness
import SnmpSet.Proofs.KeyChange.Masking
import SnmpSet.Proofs.Session.Authorisation

/-!
# Rotating a key

A manager that knows a key can move an agent on to any series of keys. Each
key-change value is masked for the key that the one before it has left, so the
rotations chain as long as every one of them is accepted. They all are, and
requests that are refused in between do not break the chain.
-/

namespace SnmpSet

/-- A manager's turn in a session that rotates a key. -/
inductive Turn where
  /-- Change the key to another one with a random part. -/
  | rotate (requester : Requester) (key random : List UInt8)
  /-- Send a request that is refused. -/
  | refused (requester : Requester) (bindings : List VarBind)

namespace Turn

/-- The key after a turn. -/
def keyAfter (oldKey : List UInt8) : Turn → List UInt8
  | rotate _ key _ => key
  | refused _ _ => oldKey

/-- The request of a turn, for a key at an address. -/
def request (p : KeyProtocol) (oid : Oid) (oldKey : List UInt8) : Turn → Request
  | rotate requester key random =>
    .set requester [⟨oid, .octets (p.keyChangeFor oldKey key random)⟩]
  | refused requester bindings => .set requester bindings

end Turn

/-- The key after some turns. -/
def keyAfter (oldKey : List UInt8) (turns : List Turn) : List UInt8 :=
  turns.foldl Turn.keyAfter oldKey

/-- The requests of turns, each for the key that those before it leave. -/
def requestsOf (p : KeyProtocol) (oid : Oid) : (oldKey : List UInt8) → List Turn → List Request
  | _, [] => []
  | oldKey, turn :: turns =>
    turn.request p oid oldKey :: requestsOf p oid (turn.keyAfter oldKey) turns

/-- Whoever may write an object of a kind passes the tests of the kind on requesters. -/
theorem WritePolicy.Authorises.writable_and_vet {policy : WritePolicy} {requester : Requester}
    {oid : Oid} {kind : Kind} (hauthorises : policy.Authorises requester oid kind) :
    kind.writable = .ok () ∧ kind.vet requester = .ok () := by
  cases kind with
  | timeStamp stamp => exact absurd rfl (hauthorises.writable stamp)
  | ownKeyChange column => exact ⟨rfl, KeyChangeColumn.vet_eq_ok.mpr (hauthorises.owned column rfl)⟩
  | plain | testAndIncr | keyChange _ => exact ⟨rfl, rfl⟩

/-- A store holds a key of a kind, which is masked with a digest and has no rules. -/
structure Store.HoldsKey (s : Store) (oid : Oid) (kind : Kind) (column : KeyChangeColumn)
    (key : List UInt8) : Prop where
  column_eq : kind.column? = some column
  digest : column.protocol.UsesDigest
  found : ∃ observers,
    s.object? oid = some ⟨oid, { value := .octets key, kind, rules := .empty, observers }⟩

/-- The value of a key that a store holds. -/
theorem Store.HoldsKey.value?_eq {s : Store} {oid : Oid} {kind : Kind} {column : KeyChangeColumn}
    {key : List UInt8} (hholds : s.HoldsKey oid kind column key) :
    s.value? oid = some (.octets key) := by
  obtain ⟨observers, hfound⟩ := hholds.found
  exact value?_of_object? hfound

/-- A key without rules prepares a manager's value for whoever may write it. -/
theorem ObjectBody.prepare_keyChangeFor {policy : WritePolicy} {requester : Requester} {oid : Oid}
    {kind : Kind} {column : KeyChangeColumn} {key random : List UInt8}
    (hcolumn : kind.column? = some column)
    (hdigest : column.protocol.UsesDigest) (hauthorises : policy.Authorises requester oid kind)
    (hkey : key.length = column.protocol.keyLength.toNat)
    (hrandom : random.length = column.protocol.keyLength.toNat) (oldKey : List UInt8)
    (observers : List Observer) :
    (prepare { value := .octets oldKey, kind, rules := .empty, observers }
      (.octets (column.protocol.keyChangeFor oldKey key random)) requester).verdict = .ok () := by
  obtain ⟨hwritable, hvet⟩ := hauthorises.writable_and_vet
  have hprepare := KeyChangeColumn.prepare_keyChangeFor hdigest hkey hrandom oldKey
  refine verdict_prepare_eq_ok.mpr ⟨hwritable, hvet, rfl, rfl, ?_⟩
  rw [Kind.prepare_eq_of_column? hcolumn hvet, hprepare]

namespace Agent

variable {a : Agent} {oid : Oid} {kind : Kind} {column : KeyChangeColumn} {oldKey : List UInt8}
  {turns : List Turn}

/-- A manager that knows the key of an agent moves it on to another key: the request
is accepted, reports the random part and leaves the agent with the new key. -/
theorem set_keyChangeFor {requester : Requester} {key random : List UInt8}
    (hholds : a.store.HoldsKey oid kind column oldKey) (hroom : 1 ≤ a.maxBindings)
    (hauthorises : a.policy.Authorises requester oid kind)
    (hkey : key.length = column.protocol.keyLength.toNat)
    (hrandom : random.length = column.protocol.keyLength.toNat) :
    let bindings : List VarBind :=
      [⟨oid, .octets (column.protocol.keyChangeFor oldKey key random)⟩]
    (a.set requester bindings).answer = .response (.accepted [⟨oid, .octets random⟩]) ∧
      ∃ store, (a.set requester bindings).agent = { a with store } ∧
        store.HoldsKey oid kind column key := by
  obtain ⟨hcolumn, hdigest, observers, hfound⟩ := hholds
  have hprepare := ObjectBody.prepare_keyChangeFor hcolumn hdigest hauthorises hkey hrandom
    oldKey observers
  have hcommit := (Kind.commit_of_column? hcolumn).trans
    (KeyChangeColumn.commit_keyChangeFor hdigest hkey hrandom oldKey)
  obtain ⟨hanswer, hagent⟩ := set_singleton
    (b := ⟨oid, .octets (column.protocol.keyChangeFor oldKey key random)⟩) hroom hfound
    hauthorises.allowed hprepare
    (ObjectBody.verdict_check_eq_ok.mpr ⟨rfl, Kind.check_of_column? hcolumn⟩) hcommit
  exact ⟨hanswer, _, hagent, hcolumn, hdigest, observers, Store.object?_put_self _ _⟩

/-- Turns come about as they are told on an agent: whoever changes the key may write
it and sends a key and a random part of the right length, and the agent refuses the
other requests. -/
structure Plays (a : Agent) (oid : Oid) (kind : Kind) (column : KeyChangeColumn)
    (oldKey : List UInt8) (turns : List Turn) : Prop where
  rotated : ∀ requester key random, .rotate requester key random ∈ turns →
    a.policy.Authorises requester oid kind ∧ key.length = column.protocol.keyLength.toNat ∧
      random.length = column.protocol.keyLength.toNat
  refused : ∀ before requester bindings after,
    turns = before ++ .refused requester bindings :: after →
    ∃ r, ((a.afterAll (requestsOf column.protocol oid oldKey before)).set requester
      bindings).answer = .response r ∧ r.status ≠ .noError

/-- The first ones of turns that come about do so as well. -/
theorem Plays.of_append {first rest : List Turn}
    (hplays : a.Plays oid kind column oldKey (first ++ rest)) :
    a.Plays oid kind column oldKey first where
  rotated requester key random hmem :=
    hplays.rotated requester key random (List.mem_append_left rest hmem)
  refused before requester bindings after hsplit :=
    hplays.refused before requester bindings (after ++ rest) (by simp [hsplit])

/-- A turn that comes about leaves the agent with the key that the turn makes of the
one before, and with its policy and its limit. -/
theorem holdsKey_serve {turn : Turn} (hholds : a.store.HoldsKey oid kind column oldKey)
    (hroom : 1 ≤ a.maxBindings) (hplays : a.Plays oid kind column oldKey (turn :: turns)) :
    ∃ store, (a.serve (turn.request column.protocol oid oldKey)).after = { a with store } ∧
      store.HoldsKey oid kind column (turn.keyAfter oldKey) := by
  cases turn with
  | rotate requester key random =>
    obtain ⟨hauthorises, hkey, hrandom⟩ :=
      hplays.rotated requester key random List.mem_cons_self
    exact (set_keyChangeFor hholds hroom hauthorises hkey hrandom).2
  | refused requester bindings =>
    obtain ⟨r, hanswer, hstatus⟩ := hplays.refused [] requester bindings turns rfl
    exact ⟨a.store, agent_set_of_refused hanswer hstatus, hholds⟩

/-- Turns that come about leave the agent with the last key that they change to, and
with its policy and its limit. -/
theorem holdsKey_afterAll (hholds : a.store.HoldsKey oid kind column oldKey)
    (hroom : 1 ≤ a.maxBindings) (hplays : a.Plays oid kind column oldKey turns) :
    ∃ store, a.afterAll (requestsOf column.protocol oid oldKey turns) = { a with store } ∧
      store.HoldsKey oid kind column (keyAfter oldKey turns) := by
  induction turns generalizing a oldKey with
  | nil => exact ⟨a.store, rfl, hholds⟩
  | cons turn turns ih =>
    obtain ⟨store, hafter, hholds'⟩ := holdsKey_serve hholds hroom hplays
    -- the refusals of the rest are told of the agent that this turn leaves
    have hplays' : Plays { a with store } oid kind column (turn.keyAfter oldKey) turns := by
      constructor
      · exact fun requester key random hmem =>
          hplays.rotated requester key random (List.mem_cons_of_mem turn hmem)
      · intro before requester bindings after hsplit
        rw [← hafter]
        exact hplays.refused (turn :: before) requester bindings after (by rw [hsplit]; rfl)
    obtain ⟨store', hafter', hholds''⟩ := ih (a := { a with store }) hholds' hroom hplays'
    refine ⟨store', ?_, hholds''⟩
    rw [requestsOf, afterAll, hafter, hafter']

/-- Key rotations chain. Each key-change value of a manager that goes from key to key
is accepted, it reports its random part and leaves the agent with its key, whatever
requests are refused in between, and at the end the agent has the last key. -/
theorem rotations_chain (hholds : a.store.HoldsKey oid kind column oldKey)
    (hroom : 1 ≤ a.maxBindings) (hplays : a.Plays oid kind column oldKey turns) :
    (∀ before requester key random after,
      turns = before ++ .rotate requester key random :: after →
      let served := (a.afterAll (requestsOf column.protocol oid oldKey before)).set requester
        [⟨oid, .octets (column.protocol.keyChangeFor (keyAfter oldKey before) key random)⟩]
      served.answer = .response (.accepted [⟨oid, .octets random⟩]) ∧
        served.agent.store.value? oid = some (.octets key)) ∧
    (a.afterAll (requestsOf column.protocol oid oldKey turns)).store.value? oid =
      some (.octets (keyAfter oldKey turns)) := by
  constructor
  · rintro before requester key random after rfl
    obtain ⟨hauthorises, hkey, hrandom⟩ := hplays.rotated requester key random (by simp)
    obtain ⟨store, hafter, hholds'⟩ := holdsKey_afterAll hholds hroom hplays.of_append
    obtain ⟨hanswer, store', hagent, hholds''⟩ :=
      set_keyChangeFor (a := { a with store }) hholds' hroom hauthorises hkey hrandom
    rw [hafter]
    exact ⟨hanswer, by rw [hagent]; exact hholds''.value?_eq⟩
  · obtain ⟨store, hafter, hholds'⟩ := holdsKey_afterAll hholds hroom hplays
    rw [hafter]
    exact hholds'.value?_eq

/-- A user changes the own key twice, and somebody else fails to in between. -/
def ownKeyTurns : List Turn :=
  [.rotate (some ⟨[97], .usm⟩) [5] [7],
    .refused (some ⟨[98], .usm⟩) [⟨⟨[1, 3, 1]⟩, .octets [7, 21]⟩],
    .rotate (some ⟨[97], .usm⟩) [200] [1]]

/-- The column of the own key. -/
def ownKeyColumn : KeyChangeColumn := .create (.ofDigest ⟨[1]⟩ octetSum) ⟨[1, 128, 1, 97]⟩

/-- The second change is masked for the key that the first one has left, and the
agent ends with the second key. -/
theorem ownKeyTurns_chain :
    withOwnKey.store.HoldsKey ⟨[1, 3, 1]⟩ (.ownKeyChange ownKeyColumn) ownKeyColumn [9] ∧
    withOwnKey.Plays ⟨[1, 3, 1]⟩ (.ownKeyChange ownKeyColumn) ownKeyColumn [9] ownKeyTurns ∧
    ((withOwnKey.afterAll (requestsOf ownKeyColumn.protocol ⟨[1, 3, 1]⟩ [9]
      (ownKeyTurns.take 2))).set (some ⟨[97], .usm⟩)
        [⟨⟨[1, 3, 1]⟩, .octets (ownKeyColumn.protocol.keyChangeFor [5] [200] [1])⟩]).answer =
      .response (.accepted [⟨⟨[1, 3, 1]⟩, .octets [1]⟩]) ∧
    (withOwnKey.afterAll (requestsOf ownKeyColumn.protocol ⟨[1, 3, 1]⟩ [9]
      ownKeyTurns)).store.value? ⟨[1, 3, 1]⟩ = some (.octets [200]) := by
  have hholds : withOwnKey.store.HoldsKey ⟨[1, 3, 1]⟩ (.ownKeyChange ownKeyColumn) ownKeyColumn
      [9] := ⟨rfl, ⟨_, _, rfl⟩, [], rfl⟩
  have hauthorises : withOwnKey.policy.Authorises (some ⟨[97], .usm⟩) ⟨[1, 3, 1]⟩
      (.ownKeyChange ownKeyColumn) := by
    refine ⟨by decide, by simp, ?_⟩
    intro column hkind
    obtain rfl := Kind.ownKeyChange.inj hkind
    exact ⟨_, rfl, rfl, rfl⟩
  have hplays : withOwnKey.Plays ⟨[1, 3, 1]⟩ (.ownKeyChange ownKeyColumn) ownKeyColumn [9]
      ownKeyTurns := by
    constructor
    · intro requester key random hmem
      simp only [ownKeyTurns, List.mem_cons, List.not_mem_nil, or_false] at hmem
      rcases hmem with hturn | hturn | hturn
      · cases hturn
        exact ⟨hauthorises, rfl, rfl⟩
      · cases hturn
      · cases hturn
        exact ⟨hauthorises, rfl, rfl⟩
    · intro before requester bindings after hsplit
      -- only the second of the three turns is refused
      rcases before with _ | ⟨first, _ | ⟨second, _ | ⟨third, before⟩⟩⟩
      · cases hsplit
      · cases hsplit
        exact ⟨_, rfl, by decide⟩
      · cases hsplit
      · simp [ownKeyTurns] at hsplit
  obtain ⟨hrotated, hlast⟩ := rotations_chain hholds (by decide) hplays
  exact ⟨hholds, hplays, (hrotated (ownKeyTurns.take 2) _ _ _ [] rfl).1, hlast⟩

end Agent

end SnmpSet
