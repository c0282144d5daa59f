import SnmpSet.Proofs.Completeness
import SnmpSet.Proofs.Config.InitialValues
import SnmpSet.Proofs.Session.Counter
import SnmpSet.Proofs.Session.Events

/-!
# The values that configured objects hold

A configuration starts its counters from zero on and its keys at the length that
their protocol asks for. A counter only ever moves on, and a key gives way only to
one that is as long as what follows the random part of the value written. So whatever
happens to a configured agent, its counters hold natural numbers and its keys are no
shorter than at first.
-/

namespace SnmpSet

/-- The keys of every algorithm are bounded. -/
theorem AuthAlgorithm.keyBounded_protocol (algorithm : AuthAlgorithm) :
    algorithm.protocol.KeyBounded := by
  cases algorithm <;> decide

/-- The kind of key that settings ask for has the column that they describe. -/
@[simp] theorem KeySettings.column?_kind (s : KeySettings) : s.kind.column? = some s.column := by
  unfold kind
  split <;> rfl

/-- The kind of the object that settings describe. -/
def ObjectSettings.kind (clock : Clock) : ObjectSettings → Kind
  | .plain _ => .plain
  | .testAndIncr _ => .testAndIncr
  | .timeStamp => .timeStamp ⟨some clock⟩
  | .keyChange s => s.kind

/-- No settings describe keys that are not bounded. -/
theorem ObjectSettings.keyBounded_kind (settings : ObjectSettings) (clock : Clock) :
    (settings.kind clock).KeyBounded := by
  cases settings with
  | plain _ | testAndIncr _ | timeStamp => exact Kind.keyBounded_of_column?_eq_none rfl
  | keyChange s =>
    intro column hcolumn
    obtain rfl : s.column = column := by simpa [kind] using hcolumn
    exact s.algorithm.keyBounded_protocol

namespace ObjectEntry

variable {c : ObjectEntry} {clock : Clock} {o : ManagedObject}

/-- An object that is built has the kind that its entry describes. -/
theorem kind_of_object (hbuilt : c.object clock = .ok o) :
    o.body.kind = c.settings.kind clock := by
  unfold object at hbuilt
  split at hbuilt
  · next p hsettings =>
    obtain ⟨v, -, rfl⟩ := PlainSettings.exists_value_of_object hbuilt
    rw [hsettings]
    rfl
  · next initial hsettings =>
    split at hbuilt
    · simp at hbuilt
    · obtain rfl := Except.ok.inj hbuilt
      rw [hsettings]
      rfl
  · next hsettings =>
    obtain rfl := Except.ok.inj hbuilt
    rw [hsettings]
    rfl
  · next s hsettings =>
    obtain ⟨key, rfl, -⟩ := KeySettings.exists_key_of_object hbuilt
    rw [hsettings]
    rfl

/-- The entry of a counter is built only if the counter starts from zero on. -/
theorem natural_of_object {initial : Int32} (hsettings : c.settings = .testAndIncr initial)
    (hbuilt : c.object clock = .ok o) :
    0 ≤ initial.toInt ∧ o = .testAndIncr c.oid initial := by
  simp only [object, hsettings] at hbuilt
  split at hbuilt
  · simp at hbuilt
  · next hnatural =>
    have hnot : ¬initial.toInt < 0 := fun hlt => hnatural (Int32.lt_iff_toInt_lt.mpr hlt)
    exact ⟨by omega, (Except.ok.inj hbuilt).symm⟩

end ObjectEntry

/-- The object at an address is a key of a kind, and the key has a length. -/
structure Store.HoldsKeyOfLength (s : Store) (oid : Oid) (kind : Kind) (length : Nat) : Prop where
  found : ∃ body key, s.object? oid = some ⟨oid, body⟩ ∧ body.kind = kind ∧
    body.value = .octets key ∧ key.length = length

namespace World

variable {w : World} {oid : Oid} {n : Nat}

/-- Whatever happens to a counter, it stays a counter from zero on. -/
theorem exists_counts_after {m : Int32} (hcounts : w.agent.store.Counts oid m) (event : Event) :
    ∃ m', (w.after event).agent.store.Counts oid m' := by
  obtain ⟨⟨body, hfound, hkind, hvalue⟩, hnatural⟩ := hcounts
  rcases written_or_kept hfound (by simp [hkind]) event with
    ⟨proposed, c, -, hcommit, hafter⟩ | ⟨-, hafter⟩
  · rw [hkind, hvalue] at hcommit
    obtain rfl : ⟨.integer (TestAndIncr.successor m), proposed⟩ = c := Except.ok.inj hcommit
    refine ⟨TestAndIncr.successor m, ⟨_, hafter, hkind, rfl⟩, ?_⟩
    rw [TestAndIncr.toInt_successor hnatural]
    omega
  · exact ⟨m, ⟨body, hafter, hkind, hvalue⟩, hnatural⟩

/-- Whatever a run of events does to a counter, it stays a counter from zero on. -/
theorem exists_counts_afterAll {m : Int32} (hcounts : w.agent.store.Counts oid m)
    (run : List Event) : ∃ m', (w.afterAll run).agent.store.Counts oid m' := by
  induction run generalizing w m with
  | nil => exact ⟨m, hcounts⟩
  | cons event run ih =>
    obtain ⟨m', hcounts'⟩ := exists_counts_after hcounts event
    exact ih hcounts'

section Keys

variable {kind : Kind} {column : KeyChangeColumn} (hcolumn : kind.column? = some column)
include hcolumn

/-- An event leaves a key as long as what follows the random part in the value that it
writes, or it writes none and leaves the key as long as it was. -/
theorem holdsKeyOfLength_after (hkey : w.agent.store.HoldsKeyOfLength oid kind n) (event : Event) :
    (∃ keyChange m, w.written? oid event = some (.octets keyChange) ∧
      m + column.protocol.keyLength.toNat = keyChange.length ∧
      column.protocol.keyLength.toNat ≤ m ∧
      (w.after event).agent.store.HoldsKeyOfLength oid kind m) ∨
    w.written? oid event = none ∧ (w.after event).agent.store.HoldsKeyOfLength oid kind n := by
  obtain ⟨body, key, hfound, rfl, hvalue, hlength⟩ := hkey.found
  have hnotStamp : ∀ stamp, body.kind ≠ .timeStamp stamp := by
    intro stamp hkind
    simp [hkind, Kind.column?] at hcolumn
  rcases written_or_kept hfound hnotStamp event with
    ⟨proposed, c, hwritten, hcommit, hafter⟩ | ⟨hnone, hafter⟩
  · rw [Kind.commit_of_column? hcolumn] at hcommit
    obtain ⟨keyChange, key', rfl, hstored, hsum, hlong⟩ :=
      KeyChangeColumn.keyLength_le_of_commit hcommit
    exact .inl ⟨keyChange, key'.length, hwritten, hsum, hlong, ⟨_, key', hafter, rfl, hstored, rfl⟩⟩
  · exact .inr ⟨hnone, ⟨body, key, hafter, rfl, hvalue, hlength⟩⟩

/-- A run of events leaves a key as long as what follows the random part in the last value
that it writes, or it writes none and leaves the key as long as it was. -/
theorem holdsKeyOfLength_afterAll (hkey : w.agent.store.HoldsKeyOfLength oid kind n)
    (run : List Event) :
    ∃ m, (w.afterAll run).agent.store.HoldsKeyOfLength oid kind m ∧
      (w.written oid run = [] → m = n) ∧
      ∀ earlier v, w.written oid run = earlier ++ [v] → ∃ keyChange, v = .octets keyChange ∧
        m + column.protocol.keyLength.toNat = keyChange.length ∧
        column.protocol.keyLength.toNat ≤ m := by
  induction run generalizing w n with
  | nil => exact ⟨n, hkey, fun _ => rfl, by simp [written]⟩
  | cons event run ih =>
    rcases holdsKeyOfLength_after hcolumn hkey event with
      ⟨keyChange, k, hwritten, hsum, hlong, hkey'⟩ | ⟨hnone, hkey'⟩
    · obtain ⟨m, hafter, hfirst, hlast⟩ := ih hkey'
      refine ⟨m, hafter, by simp [written, hwritten], fun earlier v hsplit => ?_⟩
      simp only [written, hwritten, Option.toList_some, List.singleton_append] at hsplit
      cases earlier with
      | nil =>
        -- the event writes the last value, and those after it write none
        obtain ⟨rfl, hrest⟩ := List.cons.inj hsplit
        obtain rfl := hfirst hrest
        exact ⟨keyChange, rfl, hsum, hlong⟩
      | cons first earlier => exact hlast earlier v (List.cons.inj hsplit).2
    · obtain ⟨m, hafter, hfirst, hlast⟩ := ih hkey'
      refine ⟨m, hafter, ?_⟩
      simpa only [written, hnone, Option.toList_none, List.nil_append] using And.intro hfirst hlast

end Keys

end World

namespace AgentConfig

variable {c : AgentConfig} {clock : Clock} {a : Agent}

/-- A configured agent has the store of its configuration. -/
theorem store_of_agent (hbuilt : c.agent clock = .ok a) : c.store clock = .ok a.store := by
  unfold agent at hbuilt
  cases hstore : c.store clock with
  | error e => simp [hstore, Except.map] at hbuilt
  | ok s =>
    rw [hstore] at hbuilt
    obtain rfl := Except.ok.inj hbuilt
    rfl

/-- The keys of a configured agent are bounded. -/
theorem keysBounded_agent (hbuilt : c.agent clock = .ok a) : a.store.KeysBounded := by
  intro o hmem
  obtain ⟨entry, -, hobject⟩ := (mem_objects_store (store_of_agent hbuilt)).mp hmem
  rw [ObjectEntry.kind_of_object hobject]
  exact entry.settings.keyBounded_kind clock

/-- Whatever happens to a configured agent, each of its counters holds a number from zero
to `2 ^ 31 - 1`, and each of its keys is an octet string that is no shorter than the keys
of its protocol. A key that has not been written is exactly so long; one that has been is as
long as the last value written is without one key length. -/
theorem values_afterEvents {w : World} (hbuilt : c.agent clock = .ok w.agent)
    (run : List Event) :
    ∀ entry ∈ c.objects,
      (∀ initial, entry.settings = .testAndIncr initial →
        ∃ body n, (w.afterAll run).object? entry.oid = some ⟨entry.oid, body⟩ ∧
          body.kind = .testAndIncr ∧ body.value = .integer n ∧
          0 ≤ n.toInt ∧ n.toInt ≤ 2 ^ 31 - 1) ∧
      ∀ s, entry.settings = .keyChange s →
        ∃ body key, (w.afterAll run).object? entry.oid = some ⟨entry.oid, body⟩ ∧
          body.kind = s.kind ∧ body.value = .octets key ∧
          s.algorithm.protocol.keyLength.toNat ≤ key.length ∧
          (w.written entry.oid run = [] →
            key.length = s.algorithm.protocol.keyLength.toNat) ∧
          ∀ earlier v, w.written entry.oid run = earlier ++ [v] →
            ∃ keyChange, v = .octets keyChange ∧
              key.length + s.algorithm.protocol.keyLength.toNat = keyChange.length := by
  intro entry hentry
  obtain ⟨o, hobject, hfound⟩ := object?_store (store_of_agent hbuilt) hentry
  constructor
  · intro initial hsettings
    obtain ⟨hnatural, rfl⟩ := ObjectEntry.natural_of_object hsettings hobject
    obtain ⟨start, hstart, hinitial⟩ := ManagedObject.value_testAndIncr entry.oid initial
    have hcounts : w.agent.store.Counts entry.oid start := ⟨⟨_, hfound, rfl, hstart⟩, by omega⟩
    obtain ⟨n, hn⟩ := World.exists_counts_afterAll hcounts run
    obtain ⟨body, hafter, hkind, hvalue⟩ := hn.found
    exact ⟨body, n, hafter, hkind, hvalue, hn.natural, n.toInt_le⟩
  · intro s hsettings
    simp only [ObjectEntry.object, hsettings] at hobject
    obtain ⟨first, rfl, hfirst⟩ := KeySettings.exists_key_of_object hobject
    have hkey : w.agent.store.HoldsKeyOfLength entry.oid s.kind _ :=
      ⟨_, first, hfound, rfl, rfl, hfirst⟩
    obtain ⟨m, hafter, hunwritten, hwritten⟩ :=
      World.holdsKeyOfLength_afterAll s.column?_kind hkey run
    obtain ⟨body, key, hfound', hkind, hvalue, rfl⟩ := hafter.found
    refine ⟨body, key, hfound', hkind, hvalue, ?_, hunwritten, fun earlier v hsplit => ?_⟩
    · rcases List.eq_nil_or_concat (w.written entry.oid run) with hnone | ⟨earlier, v, hsplit⟩
      · exact Nat.le_of_eq (hunwritten hnone).symm
      · obtain ⟨-, -, -, hlong⟩ := hwritten earlier v (by simpa using hsplit)
        exact hlong
    · obtain ⟨keyChange, hv, hsum, -⟩ := hwritten earlier v hsplit
      exact ⟨keyChange, hv, hsum⟩

/-- The settings of a counter at its largest number, a time stamp and a key. -/
def withKey : AgentConfig where
  maxBindings := 64
  objects :=
    [⟨⟨[1, 1]⟩, .testAndIncr 2147483647⟩,
      ⟨⟨[1, 2]⟩, .timeStamp⟩,
      ⟨⟨[1, 3]⟩, .keyChange
        { algorithm := .sha224, rowIndex := .empty, own := false, readable := true,
          key := "00112233445566778899aabbccddeeff00112233445566778899aabb" }⟩]

/-- The counter is moved on, the clock goes on, and the stamp is set. A value for the key is
refused together with a stale number for the counter, and is then accepted alone. It has a
random part of 28 octets and a delta of 32. -/
def withKeyEvents : List Event :=
  [.request (.set none [⟨⟨[1, 1]⟩, .integer 2147483647⟩]),
    .clocks fun _ => ⟨500⟩, .stamp ⟨[1, 2]⟩,
    .request (.set none [⟨⟨[1, 3]⟩, .octets (List.replicate 60 7)⟩, ⟨⟨[1, 1]⟩, .integer 5⟩]),
    .request (.set none [⟨⟨[1, 3]⟩, .octets (List.replicate 60 7)⟩])]

/-- The counter has gone round to zero, and the key has grown from 28 to 32 octets. -/
theorem withKeyEvents_values :
    ∃ w : World, withKey.agent ⟨0⟩ = .ok w.agent ∧
      w.written ⟨[1, 3]⟩ withKeyEvents = [.octets (List.replicate 60 7)] ∧
      (w.afterAll withKeyEvents).agent.store.value? ⟨[1, 1]⟩ = some (.integer 0) ∧
      (∃ body n, (w.afterAll withKeyEvents).object? ⟨[1, 1]⟩ = some ⟨⟨[1, 1]⟩, body⟩ ∧
        body.kind = .testAndIncr ∧ body.value = .integer n ∧ 0 ≤ n.toInt) ∧
      ∃ body key, (w.afterAll withKeyEvents).object? ⟨[1, 3]⟩ = some ⟨⟨[1, 3]⟩, body⟩ ∧
        body.value = .octets key ∧ 28 ≤ key.length ∧ key.length + 28 = 60 := by
  obtain ⟨w, hbuilt, hwritten, hround⟩ : ∃ w : World, withKey.agent ⟨0⟩ = .ok w.agent ∧
      w.written ⟨[1, 3]⟩ withKeyEvents = [.octets (List.replicate 60 7)] ∧
      (w.afterAll withKeyEvents).agent.store.value? ⟨[1, 1]⟩ = some (.integer 0) :=
    ⟨⟨_, fun _ => ⟨0⟩, []⟩, rfl, rfl, rfl⟩
  have hvalues := values_afterEvents hbuilt withKeyEvents
  obtain ⟨hcounter, -⟩ := hvalues ⟨⟨[1, 1]⟩, _⟩ List.mem_cons_self
  obtain ⟨-, hkey⟩ := hvalues ⟨⟨[1, 3]⟩, _⟩
    (List.mem_cons_of_mem _ (List.mem_cons_of_mem _ List.mem_cons_self))
  obtain ⟨body, n, hfound, hkind, hvalue, hnatural, -⟩ := hcounter _ rfl
  obtain ⟨body', key, hfound', -, hvalue', hlong, -, hlast⟩ := hkey _ rfl
  obtain ⟨keyChange, hlastValue, hsum⟩ := hlast [] _ hwritten
  obtain rfl := Value.octets.inj hlastValue
  exact ⟨w, hbuilt, hwritten, hround, ⟨body, n, hfound, hkind, hvalue, hnatural⟩,
    body', key, hfound', hvalue', hlong, hsum⟩

end AgentConfig

end SnmpSet
