import SnmpSet.Config.Reader
import SnmpSet.Proofs.Config.ValueRanges

/-!
# Building the store of a configuration

Entries are put into the store one after another, and the store under construction
tells which addresses are taken. Its addresses are those of the entries put so far, so
a store is built exactly if no two entries have one address and each can be built on
its own. Otherwise building stops at the first entry that fails among its predecessors.
-/

namespace SnmpSet

/-- The value that an object starts with. -/
def ObjectSettings.initialValue? : ObjectSettings → Option Value
  | .plain s => s.value?
  | .testAndIncr initial => some (.integer initial)
  | .timeStamp => some (.timeTicks ⟨0⟩)
  | .keyChange s => (Text.readHex s.key).toOption.map Value.octets

namespace ObjectEntry

variable {c : ObjectEntry} {clock : Clock} {o : ManagedObject}

/-- An object that is built holds the value that its entry starts with. -/
theorem initialValue?_of_object (hbuilt : c.object clock = .ok o) :
    c.settings.initialValue? = some o.body.value := by
  cases hsettings : c.settings with
  | plain s =>
    simp only [object, hsettings] at hbuilt
    obtain ⟨v, hvalue, rfl⟩ := PlainSettings.exists_value_of_object hbuilt
    exact hvalue
  | testAndIncr initial =>
    obtain ⟨hnatural, rfl⟩ := natural_of_object hsettings hbuilt
    have hnot : ¬initial < 0 := by
      rw [Int32.lt_iff_toInt_lt]
      exact Int.not_lt.mpr hnatural
    simp [ObjectSettings.initialValue?, ManagedObject.testAndIncr, ManagedObject.ofKind,
      ObjectBody.create, hnot]
  | timeStamp =>
    simp only [object, hsettings] at hbuilt
    obtain rfl := Except.ok.inj hbuilt
    rfl
  | keyChange s =>
    simp only [object, hsettings] at hbuilt
    obtain ⟨key, hread, rfl, -⟩ := KeySettings.exists_readHex_of_object hbuilt
    simp [ObjectSettings.initialValue?, hread, Except.toOption, ManagedObject.ofKind,
      ObjectBody.create]

/-- No two entries have one address, and each entry can be built. -/
structure Buildable (clock : Clock) (entries : List ObjectEntry) : Prop where
  distinct : (entries.map oid).Nodup
  built : ∀ entry ∈ entries, ∃ o, entry.object clock = .ok o

/-- What fails about an entry that follows others. That it cannot be built matters only
if its address is not taken. -/
inductive FailsAfter (clock : Clock) (earlier : List ObjectEntry) (c : ObjectEntry) :
    ConfigDefect → Prop
  | taken (htaken : c.oid ∈ earlier.map oid) : FailsAfter clock earlier c (.repeated c.oid)
  | unbuilt {e : ConfigDefect} (hfree : c.oid ∉ earlier.map oid)
      (herror : c.object clock = .error e) : FailsAfter clock earlier c e

/-- Entries are not buildable if one of them fails among its predecessors. -/
theorem FailsAfter.not_buildable {earlier later : List ObjectEntry} {e : ConfigDefect}
    (hfails : c.FailsAfter clock earlier e) : ¬Buildable clock (earlier ++ c :: later) := by
  rintro ⟨hdistinct, hbuilt⟩
  cases hfails with
  | taken htaken =>
    rw [List.map_append, List.map_cons, List.nodup_append] at hdistinct
    obtain ⟨-, -, hdisjoint⟩ := hdistinct
    exact hdisjoint _ htaken _ List.mem_cons_self rfl
  | unbuilt hfree herror =>
    obtain ⟨o, hobject⟩ := hbuilt c (by simp)
    rw [herror] at hobject
    cases hobject

end ObjectEntry

namespace AgentConfig

open ObjectEntry

variable {c : AgentConfig} {clock : Clock} {store s : Store} {entries : List ObjectEntry}
  {entry : ObjectEntry} {e : ConfigDefect}

/-- Entries are put into a store part by part. -/
theorem addObjects_append (before after : List ObjectEntry) :
    addObjects clock store (before ++ after) =
      (addObjects clock store before).bind fun s => addObjects clock s after := by
  induction before generalizing store with
  | nil => rfl
  | cons entry before ih =>
    rw [List.cons_append, addObjects, addObjects]
    split
    · rfl
    · split
      · rfl
      · exact ih

/-- The entries that are put into a store add their addresses to those of the store. -/
theorem addresses_addObjects (hbuilt : addObjects clock store entries = .ok s) :
    s.addresses.Perm (store.addresses ++ entries.map oid) := by
  induction entries generalizing store with
  | nil =>
    obtain rfl := Except.ok.inj hbuilt
    simp
  | cons entry entries ih =>
    unfold addObjects at hbuilt
    split at hbuilt
    · simp at hbuilt
    · next hused =>
      split at hbuilt
      · simp at hbuilt
      · next o hobject =>
        have hoid := oid_of_object hobject
        have hfree : store.contains o.oid = false := by simpa [hoid] using hused
        have hput := Store.addresses_put_perm hfree
        rw [hoid] at hput
        have haround := (hput.append_right (entries.map oid)).trans List.perm_middle.symm
        exact (ih hbuilt).trans haround

/-- A store that is not built has an entry that is the first to fail, once those before
it have been put into a store. -/
theorem exists_split_of_addObjects (herror : addObjects clock store entries = .error e) :
    ∃ before bad after s, entries = before ++ bad :: after ∧
      addObjects clock store before = .ok s ∧ addObjects clock s [bad] = .error e := by
  induction entries generalizing store with
  | nil => cases herror
  | cons entry entries ih =>
    -- the first entry stops everything, or it joins the entries before the one that does
    rw [← List.singleton_append, addObjects_append] at herror
    cases hfirst : addObjects clock store [entry] with
    | error e' =>
      rw [hfirst] at herror
      exact ⟨[], entry, entries, store, rfl, rfl, hfirst.trans herror⟩
    | ok next =>
      rw [hfirst] at herror
      obtain ⟨before, bad, after, s, rfl, hbefore, hbad⟩ := ih herror
      refine ⟨entry :: before, bad, after, s, rfl, ?_, hbad⟩
      rw [← List.singleton_append, addObjects_append, hfirst]
      exact hbefore

/-- The addresses of a store that is built are those of the entries. -/
theorem addresses_store (hbuilt : addObjects clock .empty entries = .ok s) :
    s.addresses.Perm (entries.map oid) := addresses_addObjects hbuilt

/-- The next entry that is put into a store under construction fails just as it fails
among the entries before it. -/
theorem addObjects_singleton_eq_error_iff {earlier : List ObjectEntry}
    (hearlier : addObjects clock .empty earlier = .ok s) :
    addObjects clock s [entry] = .error e ↔ entry.FailsAfter clock earlier e := by
  -- the store under construction stands for the entries before this one
  have hused : s.contains entry.oid ↔ entry.oid ∈ earlier.map oid :=
    Store.contains_iff_mem_addresses.trans (addresses_store hearlier).mem_iff
  by_cases htaken : entry.oid ∈ earlier.map oid
  · have hstops : addObjects clock s [entry] = .error (.repeated entry.oid) := by
      simp [addObjects, hused.mpr htaken]
    rw [hstops]
    constructor
    · intro heq
      obtain rfl := Except.error.inj heq
      exact .taken htaken
    · rintro (_ | ⟨hfree, -⟩)
      · rfl
      · exact absurd htaken hfree
  · have hfree : s.contains entry.oid = false := by
      rw [← Bool.not_eq_true, hused]
      exact htaken
    have hstops : addObjects clock s [entry] = .error e ↔ entry.object clock = .error e := by
      rw [addObjects, hfree]
      cases hobject : entry.object clock <;> simp [addObjects]
    rw [hstops]
    constructor
    · exact .unbuilt htaken
    · rintro (hmem | ⟨-, herror⟩)
      · exact absurd hmem htaken
      · exact herror

/-- Entries whose objects make up a store are buildable. -/
theorem buildable_of_addObjects (hbuilt : addObjects clock .empty entries = .ok s) :
    Buildable clock entries where
  distinct := (addresses_store hbuilt).nodup_iff.mp s.nodup_addresses
  built := exists_object_of_addObjects hbuilt

/-- The objects of entries make up a store exactly if the entries are buildable. -/
theorem exists_addObjects_eq_ok_iff :
    (∃ s, addObjects clock .empty entries = .ok s) ↔ Buildable clock entries := by
  constructor
  · rintro ⟨s, hbuilt⟩
    exact buildable_of_addObjects hbuilt
  · intro hbuildable
    cases hstore : addObjects clock .empty entries with
    | ok s => exact ⟨s, rfl⟩
    | error e =>
      obtain ⟨before, bad, after, s, rfl, hbefore, hbad⟩ := exists_split_of_addObjects hstore
      have hfails := (addObjects_singleton_eq_error_iff hbefore).mp hbad
      exact absurd hbuildable hfails.not_buildable

/-- No store is built exactly if an entry fails after others that are buildable. -/
theorem addObjects_eq_error_iff :
    addObjects clock .empty entries = .error e ↔
      ∃ before bad after, entries = before ++ bad :: after ∧ Buildable clock before ∧
        bad.FailsAfter clock before e := by
  constructor
  · intro herror
    obtain ⟨before, bad, after, s, hsplit, hbefore, hbad⟩ := exists_split_of_addObjects herror
    exact ⟨before, bad, after, hsplit, buildable_of_addObjects hbefore,
      (addObjects_singleton_eq_error_iff hbefore).mp hbad⟩
  · rintro ⟨before, bad, after, rfl, hbuildable, hfails⟩
    obtain ⟨s, hbefore⟩ := exists_addObjects_eq_ok_iff.mpr hbuildable
    have hbad := (addObjects_singleton_eq_error_iff hbefore).mpr hfails
    rw [addObjects_append, hbefore]
    change addObjects clock s ([bad] ++ after) = .error e
    rw [addObjects_append, hbad]
    rfl

/-- Building the store of a configuration succeeds exactly if its entries have different
addresses and can each be built. The store then has just the addresses of the entries, in
ascending order, and at each of them the object of the entry, with the value and the kind
that the entry gives it. Otherwise building reports what fails about the first entry that
fails after those before it. -/
theorem store_outcome (c : AgentConfig) (clock : Clock) :
    ((∃ s, c.store clock = .ok s) ↔ Buildable clock c.objects) ∧
    (∀ s, c.store clock = .ok s →
      s.addresses.Pairwise (· < ·) ∧ s.addresses.Perm (c.objects.map oid) ∧
      s.size = c.objects.length ∧
      ∀ entry ∈ c.objects, ∃ o, s.object? entry.oid = some o ∧ o.oid = entry.oid ∧
        entry.object clock = .ok o ∧ entry.settings.initialValue? = some o.body.value ∧
        o.body.kind = entry.settings.kind clock) ∧
    ∀ e, c.store clock = .error e ↔
      ∃ before bad after, c.objects = before ++ bad :: after ∧ Buildable clock before ∧
        bad.FailsAfter clock before e := by
  refine ⟨exists_addObjects_eq_ok_iff, fun s hbuilt => ?_, fun e => addObjects_eq_error_iff⟩
  have haddresses : s.addresses.Perm (c.objects.map oid) := addresses_store hbuilt
  have hsize : s.size = c.objects.length := by
    rw [s.size_eq, haddresses.length_eq, List.length_map]
  refine ⟨s.addresses_ascending, haddresses, hsize, fun entry hentry => ?_⟩
  obtain ⟨o, hobject, hfound⟩ := object?_store hbuilt hentry
  exact ⟨o, hfound, oid_of_object hobject, hobject, initialValue?_of_object hobject,
    kind_of_object hobject⟩

/-- It does not matter how addresses are spelt. -/
example :
    (ofText? "objects = [['time_stamp', '1.3'], ['time_stamp', '.1.03']]").map
      (fun c => c.objects.map oid) = some [⟨[1, 3]⟩, ⟨[1, 3]⟩] := by decide +kernel

/-- Three entries that do not come in the order of their addresses. -/
def unordered : AgentConfig where
  maxBindings := 64
  objects :=
    [⟨⟨[1, 3, 2]⟩, .timeStamp⟩,
      ⟨⟨[1, 3]⟩, .testAndIncr 5⟩,
      ⟨⟨[1, 3, 1, 9]⟩, .keyChange
        { algorithm := .sha224, rowIndex := .empty, own := false, readable := true,
          key := "00112233445566778899aabbccddeeff00112233445566778899aabb" }⟩]

/-- The three entries, and two more. The first of these has the address of another entry
and a number that no counter starts with. -/
def retaken : AgentConfig where
  maxBindings := 64
  objects := unordered.objects ++ [⟨⟨[1, 3]⟩, .testAndIncr (-1)⟩, ⟨⟨[1, 4]⟩, .timeStamp⟩]

/-- The three entries are built. A fourth that takes the address of the second is refused
for that, although it could not be built at any other address. -/
theorem unordered_outcome :
    (∃ s, unordered.store ⟨7⟩ = .ok s ∧ s.addresses.Pairwise (· < ·) ∧ s.size = 3 ∧
      ∃ o, s.object? ⟨[1, 3]⟩ = some o ∧ o.body.value = .integer 5 ∧
        o.body.kind = .testAndIncr) ∧
    retaken.store ⟨7⟩ = .error (.repeated ⟨[1, 3]⟩) := by
  have hbuildable : Buildable ⟨7⟩ unordered.objects := by
    refine ⟨by decide, fun entry hentry => ?_⟩
    simp only [unordered, List.mem_cons, List.not_mem_nil, or_false] at hentry
    obtain rfl | rfl | rfl := hentry
    · exact ⟨_, rfl⟩
    · exact ⟨_, rfl⟩
    · exact ⟨_, rfl⟩
  constructor
  · obtain ⟨hsucceeds, hstore, -⟩ := store_outcome unordered ⟨7⟩
    obtain ⟨s, hbuilt⟩ := hsucceeds.mpr hbuildable
    obtain ⟨hascending, -, hsize, hobjects⟩ := hstore s hbuilt
    obtain ⟨o, hfound, -, -, hvalue, hkind⟩ :=
      hobjects ⟨⟨[1, 3]⟩, .testAndIncr 5⟩ (List.mem_cons_of_mem _ List.mem_cons_self)
    exact ⟨s, hbuilt, hascending, hsize, o, hfound, (Option.some.inj hvalue).symm, hkind⟩
  · have htaken : FailsAfter ⟨7⟩ unordered.objects ⟨⟨[1, 3]⟩, .testAndIncr (-1)⟩
        (.repeated ⟨[1, 3]⟩) := .taken (by decide)
    obtain ⟨-, -, hfails⟩ := store_outcome retaken ⟨7⟩
    exact (hfails _).mpr ⟨_, _, _, rfl, hbuildable, htaken⟩

end AgentConfig

end SnmpSet
