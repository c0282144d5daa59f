import SnmpSet.Config.Build
import SnmpSet.Proofs.Rules
import SnmpSet.Proofs.Store

/-!
# The values that configured objects start with

The bounds of a plain object become its rules, and rules are asked when a value
is proposed. The first value is not proposed by anybody, and nothing asks whether
it lies within the bounds. So the objects of a configuration accept the values
that they start with exactly if the entries keep their own bounds.
-/

namespace SnmpSet

/-- Both stages of an object's rules accept the value that the object holds. -/
def ObjectBody.AcceptsOwnValue (b : ObjectBody) : Prop :=
  (b.rules.judge .prepare b.value b.value).verdict = .ok () ∧
    (b.rules.judge .check b.value b.value).verdict = .ok ()

/-- Rules that are attached one after another come after the rules there are. -/
theorem ManagedObject.foldl_withRule (o : ManagedObject) (rules : List Rule) :
    rules.foldl withRule o =
      ⟨o.oid, { o.body with rules := ⟨o.body.rules.rules ++ rules⟩ }⟩ := by
  induction rules generalizing o with
  | nil => simp
  | cons rule rules ih => simp [ih, withRule, RuleList.push]

namespace PlainSettings

/-- The first value lies within the bounds on later ones. The length of a string
counts its octets, and a string with a minimal length alone is held to the lengths of
a display string. -/
structure StartsInBounds (p : PlainSettings) : Prop where
  longEnough : ∀ text ∈ p.string, ∀ least ∈ p.minLength, least ≤ (Text.octetsOf text).length
  shortEnough : ∀ text ∈ p.string, ∀ most ∈ p.maxLength, (Text.octetsOf text).length ≤ most
  shortByDefault : ∀ text ∈ p.string, p.minLength.isSome → p.maxLength = none →
    (Text.octetsOf text).length ≤ 255
  displayed : ∀ text ∈ p.string, p.displayString = true →
    ∀ b ∈ Text.octetsOf text, isDisplayOctet b = true
  largeEnough : ∀ n ∈ p.integer, ∀ least ∈ p.min, least ≤ n
  smallEnough : ∀ n ∈ p.integer, ∀ most ∈ p.max, n ≤ most

instance (p : PlainSettings) : Decidable p.StartsInBounds :=
  decidable_of_iff
    ((∀ text ∈ p.string, ∀ least ∈ p.minLength, least ≤ (Text.octetsOf text).length) ∧
      (∀ text ∈ p.string, ∀ most ∈ p.maxLength, (Text.octetsOf text).length ≤ most) ∧
      (∀ text ∈ p.string, p.minLength.isSome → p.maxLength = none →
        (Text.octetsOf text).length ≤ 255) ∧
      (∀ text ∈ p.string, p.displayString = true →
        ∀ b ∈ Text.octetsOf text, isDisplayOctet b = true) ∧
      (∀ n ∈ p.integer, ∀ least ∈ p.min, least ≤ n) ∧ ∀ n ∈ p.integer, ∀ most ∈ p.max, n ≤ most)
    ⟨fun ⟨h₁, h₂, h₃, h₄, h₅, h₆⟩ => ⟨h₁, h₂, h₃, h₄, h₅, h₆⟩,
      fun ⟨h₁, h₂, h₃, h₄, h₅, h₆⟩ => ⟨h₁, h₂, h₃, h₄, h₅, h₆⟩⟩

variable {p : PlainSettings} {oid : Oid} {v : Value}

/-- The first value holds an integer if the settings give one. -/
theorem integer?_of_value? (hvalue : p.value? = some v) : v.integer? = p.integer := by
  unfold value? at hvalue
  split at hvalue
  · next n hinteger hstring => simp [← Option.some.inj hvalue, Value.integer?, hinteger]
  · next text hinteger hstring => simp [← Option.some.inj hvalue, Value.integer?, hinteger]
  · simp at hvalue

/-- The first value holds the octets of a string if the settings give one. -/
theorem mem_octets?_of_value? (hvalue : p.value? = some v) {bytes : List UInt8} :
    bytes ∈ v.octets? ↔ ∃ text ∈ p.string, Text.octetsOf text = bytes := by
  unfold value? at hvalue
  split at hvalue
  · next n hinteger hstring => simp [← Option.some.inj hvalue, Value.octets?, hstring]
  · next text hinteger hstring => simp [← Option.some.inj hvalue, Value.octets?, hstring]
  · simp at hvalue

/-- A value satisfies the rules of the settings exactly if it satisfies each of the
three that the settings ask for. -/
theorem satisfies_rules_iff :
    (∀ rule ∈ p.rules, v.Satisfies rule) ↔
      (∀ range ∈ p.lengthRange?, v.Satisfies (.length range)) ∧
      (p.displayString = true → v.Satisfies .displayString) ∧
      ∀ range ∈ p.integerRange?, v.Satisfies (.integerRange range) := by
  simp only [rules, List.mem_append, or_imp, forall_and, and_assoc]
  refine and_congr ?_ (and_congr ?_ ?_)
  · simp
  · by_cases hdisplay : p.displayString = true
    · simp [hdisplay]
    · simp [hdisplay]
  · simp

/-- The range of lengths says of a string what the two settings say of it. -/
theorem lengthRange?_iff {length : Nat} :
    (∀ range ∈ p.lengthRange?, range.min ≤ length ∧ length ≤ range.max) ↔
      (∀ least ∈ p.minLength, least ≤ length) ∧ (∀ most ∈ p.maxLength, length ≤ most) ∧
        (p.minLength.isSome → p.maxLength = none → length ≤ 255) := by
  cases hmin : p.minLength with
  | none =>
    cases hmax : p.maxLength with
    | none => simp [lengthRange?, hmin, hmax]
    | some most => simp [lengthRange?, hmin, hmax]
  | some least =>
    cases hmax : p.maxLength with
    | none => simp [lengthRange?, hmin, hmax, LengthBounds.displayString]
    | some most => simp [lengthRange?, hmin, hmax]

/-- The range of integers says of an integer what the two settings say of it. -/
theorem integerRange?_iff {n : Int32} :
    (∀ range ∈ p.integerRange?, range.min ≤ n ∧ n ≤ range.max) ↔
      (∀ least ∈ p.min, least ≤ n) ∧ ∀ most ∈ p.max, n ≤ most := by
  have hleast := Int32.minValue_le n
  have hmost := Int32.le_maxValue n
  cases hmin : p.min with
  | none =>
    cases hmax : p.max with
    | none => simp [integerRange?, hmin, hmax]
    | some most => simp [integerRange?, hmin, hmax, hleast]
  | some least =>
    cases hmax : p.max with
    | none => simp [integerRange?, hmin, hmax, hmost]
    | some most => simp [integerRange?, hmin, hmax]

/-- The first value satisfies all rules exactly if it lies within the bounds. -/
theorem satisfies_rules_iff_startsInBounds (hvalue : p.value? = some v) :
    (∀ rule ∈ p.rules, v.Satisfies rule) ↔ p.StartsInBounds := by
  have hlength : (∀ range ∈ p.lengthRange?, v.Satisfies (.length range)) ↔
      ∀ text ∈ p.string, ∀ range ∈ p.lengthRange?,
        range.min ≤ (Text.octetsOf text).length ∧ (Text.octetsOf text).length ≤ range.max := by
    constructor
    · intro h text htext range hrange
      exact h range hrange _ ((mem_octets?_of_value? hvalue).mpr ⟨text, htext, rfl⟩)
    · intro h range hrange bytes hbytes
      obtain ⟨text, htext, rfl⟩ := (mem_octets?_of_value? hvalue).mp hbytes
      exact h text htext range hrange
  have hrange : (∀ range ∈ p.integerRange?, v.Satisfies (.integerRange range)) ↔
      ∀ n ∈ p.integer, ∀ range ∈ p.integerRange?, range.min ≤ n ∧ n ≤ range.max := by
    simp only [Value.Satisfies, integer?_of_value? hvalue]
    exact ⟨fun h n hn range hrange => h range hrange n hn,
      fun h range hrange n hn => h n hn range hrange⟩
  rw [satisfies_rules_iff, hlength, hrange]
  simp only [lengthRange?_iff, integerRange?_iff]
  constructor
  · rintro ⟨hlengths, hdisplayed, hintegers⟩
    exact
      { longEnough := fun text htext => (hlengths text htext).1
        shortEnough := fun text htext => (hlengths text htext).2.1
        shortByDefault := fun text htext => (hlengths text htext).2.2
        displayed := fun text htext hdisplay =>
          hdisplayed hdisplay _ ((mem_octets?_of_value? hvalue).mpr ⟨text, htext, rfl⟩)
        largeEnough := fun n hn => (hintegers n hn).1
        smallEnough := fun n hn => (hintegers n hn).2 }
  · intro h
    refine ⟨fun text htext => ?_, fun hdisplay bytes hbytes => ?_, fun n hn => ?_⟩
    · exact ⟨h.longEnough text htext, h.shortEnough text htext, h.shortByDefault text htext⟩
    · obtain ⟨text, htext, rfl⟩ := (mem_octets?_of_value? hvalue).mp hbytes
      exact h.displayed text htext hdisplay
    · exact ⟨h.largeEnough n hn, h.smallEnough n hn⟩

/-- The rules of the settings come with the agent. -/
theorem isCustom_of_mem_rules {rule : Rule} (hrule : rule ∈ p.rules) : rule.isCustom = false := by
  have hkind : (∃ range, rule = .length range) ∨ rule = .displayString ∨
      ∃ range, rule = .integerRange range := by
    simp only [rules, List.mem_append, Option.mem_toList,
      Option.map_eq_some_iff] at hrule
    obtain (⟨range, -, rfl⟩ | hdisplay) | ⟨range, -, rfl⟩ := hrule
    · exact .inl ⟨range, rfl⟩
    · split at hdisplay
      · exact .inr (.inl (by simpa using hdisplay))
      · simp at hdisplay
    · exact .inr (.inr ⟨range, rfl⟩)
  obtain ⟨range, rfl⟩ | rfl | ⟨range, rfl⟩ := hkind <;> rfl

/-- A plain object that is built holds the first value, under all of its rules. -/
theorem exists_value_of_object {o : ManagedObject} (hbuilt : p.object oid = .ok o) :
    ∃ v, p.value? = some v ∧ o = ⟨oid, ⟨v, .plain, ⟨p.rules⟩, []⟩⟩ := by
  unfold object at hbuilt
  split at hbuilt
  · simp at hbuilt
  · next v hvalue =>
    split at hbuilt
    · simp at hbuilt
    · split at hbuilt
      · simp at hbuilt
      · refine ⟨v, hvalue, ?_⟩
        rw [← Except.ok.inj hbuilt, ManagedObject.foldl_withRule]
        simp [ManagedObject.plain, ManagedObject.ofKind, ObjectBody.create, RuleList.empty]

/-- A plain object that is built accepts its first value exactly if that value lies
within the bounds. -/
theorem acceptsOwnValue_object_iff {o : ManagedObject} (hbuilt : p.object oid = .ok o) :
    o.body.AcceptsOwnValue ↔ p.StartsInBounds := by
  obtain ⟨v, hvalue, rfl⟩ := exists_value_of_object hbuilt
  rw [ObjectBody.AcceptsOwnValue, RuleList.verdicts_judge_eq_ok,
    ← satisfies_rules_iff_startsInBounds hvalue]
  exact forall₂_congr fun rule hrule => Rule.refusal?_eq_none_iff (isCustom_of_mem_rules hrule)

end PlainSettings

namespace KeySettings

/-- No key is a plain object. -/
theorem kind_ne_plain (s : KeySettings) : s.kind ≠ .plain := by
  unfold kind
  split <;> simp

/-- A key that is built is the one that is written in its settings. It has the kind that
they give it, and the length of the keys of its protocol. -/
theorem exists_readHex_of_object {s : KeySettings} {oid : Oid} {o : ManagedObject}
    (hbuilt : s.object oid = .ok o) :
    ∃ key, Text.readHex s.key = .ok key ∧ o = .ofKind oid (.octets key) s.kind ∧
      key.length = s.algorithm.protocol.keyLength.toNat := by
  unfold object at hbuilt
  split at hbuilt
  · simp at hbuilt
  · next key hread =>
    dsimp only at hbuilt
    split at hbuilt
    · simp at hbuilt
    · next hlength =>
      split at hbuilt
      · simp at hbuilt
      · exact ⟨key, hread, (Except.ok.inj hbuilt).symm, Decidable.not_not.mp hlength⟩

/-- A key that is built has the kind that its settings give it, and the length of the
keys of its protocol. -/
theorem exists_key_of_object {s : KeySettings} {oid : Oid} {o : ManagedObject}
    (hbuilt : s.object oid = .ok o) :
    ∃ key, o = .ofKind oid (.octets key) s.kind ∧
      key.length = s.algorithm.protocol.keyLength.toNat := by
  obtain ⟨key, -, hobject, hlength⟩ := exists_readHex_of_object hbuilt
  exact ⟨key, hobject, hlength⟩

end KeySettings

namespace ObjectEntry

variable {c : ObjectEntry} {clock : Clock} {o : ManagedObject}

/-- A plain object is built from the settings of one. Any other object has the kind
of its entry. -/
theorem object_cases (hbuilt : c.object clock = .ok o) :
    (∃ p, c.settings = .plain p ∧ p.object c.oid = .ok o) ∨
      (∀ p, c.settings ≠ .plain p) ∧
        ∃ v kind, kind ≠ .plain ∧ o = .ofKind c.oid v kind := by
  unfold object at hbuilt
  split at hbuilt
  · next p hsettings => exact .inl ⟨p, hsettings, hbuilt⟩
  · next initial hsettings =>
    split at hbuilt
    · simp at hbuilt
    · exact .inr ⟨by simp [hsettings], _, .testAndIncr, by simp, (Except.ok.inj hbuilt).symm⟩
  · next hsettings =>
    exact .inr ⟨by simp [hsettings], _, .timeStamp ⟨some clock⟩, by simp,
      (Except.ok.inj hbuilt).symm⟩
  · next s hsettings =>
    obtain ⟨key, rfl, -⟩ := KeySettings.exists_key_of_object hbuilt
    exact .inr ⟨by simp [hsettings], _, s.kind, s.kind_ne_plain, rfl⟩

/-- An object that is built has the address of its entry. -/
theorem oid_of_object (hbuilt : c.object clock = .ok o) : o.oid = c.oid := by
  rcases object_cases hbuilt with ⟨p, -, hplain⟩ | ⟨-, v, kind, -, rfl⟩
  · obtain ⟨v, -, rfl⟩ := PlainSettings.exists_value_of_object hplain
    rfl
  · rfl

/-- If an object that is built is plain then it accepts its own value exactly if its
entry starts within its bounds. -/
theorem acceptsOwnValue_iff (hbuilt : c.object clock = .ok o) :
    (o.body.kind = .plain → o.body.AcceptsOwnValue) ↔
      ∀ p, c.settings = .plain p → p.StartsInBounds := by
  rcases object_cases hbuilt with ⟨p, hsettings, hobject⟩ | ⟨hsettings, v, kind, hkind, rfl⟩
  · have hplain : o.body.kind = .plain := by
      obtain ⟨v, -, rfl⟩ := PlainSettings.exists_value_of_object hobject
      rfl
    simp [hplain, hsettings, PlainSettings.acceptsOwnValue_object_iff hobject]
  · have hbody : (ManagedObject.ofKind c.oid v kind).body.kind ≠ .plain := hkind
    simp [hbody, hsettings]

end ObjectEntry

namespace AgentConfig

variable {c : AgentConfig} {clock : Clock} {store s : Store} {entries : List ObjectEntry}

/-- Each entry that is put into a store has been built. -/
theorem exists_object_of_addObjects (hbuilt : addObjects clock store entries = .ok s) :
    ∀ entry ∈ entries, ∃ o, entry.object clock = .ok o := by
  induction entries generalizing store with
  | nil => simp
  | cons entry entries ih =>
    unfold addObjects at hbuilt
    split at hbuilt
    · simp at hbuilt
    · split at hbuilt
      · simp at hbuilt
      · next o hobject => exact List.forall_mem_cons.mpr ⟨⟨o, hobject⟩, ih hbuilt⟩

/-- The objects of entries join the objects that were there, and nothing else does. -/
theorem mem_objects_of_addObjects (hbuilt : addObjects clock store entries = .ok s)
    {o : ManagedObject} :
    o ∈ s.objects ↔ o ∈ store.objects ∨ ∃ entry ∈ entries, entry.object clock = .ok o := by
  induction entries generalizing store with
  | nil => simp [← Except.ok.inj hbuilt]
  | cons entry entries ih =>
    unfold addObjects at hbuilt
    split at hbuilt
    · simp at hbuilt
    · next hfree =>
      split at hbuilt
      · simp at hbuilt
      · next o' hobject =>
        have hput : store.contains o'.oid = false := by
          simpa [ObjectEntry.oid_of_object hobject] using hfree
        rw [ih hbuilt, Store.mem_objects_put hput]
        simp [hobject, or_assoc, eq_comm]

/-- The objects of a configuration are those of its entries. -/
theorem mem_objects_store (hbuilt : c.store clock = .ok s) {o : ManagedObject} :
    o ∈ s.objects ↔ ∃ entry ∈ c.objects, entry.object clock = .ok o := by
  rw [mem_objects_of_addObjects hbuilt]
  simp [Store.empty, Store.objects, SortedMap.values, SortedMap.empty]

/-- The object of each entry is found at the address of the entry. -/
theorem object?_store (hbuilt : c.store clock = .ok s) {entry : ObjectEntry}
    (hentry : entry ∈ c.objects) :
    ∃ o, entry.object clock = .ok o ∧ s.object? entry.oid = some o := by
  obtain ⟨o, hobject⟩ := exists_object_of_addObjects hbuilt entry hentry
  have hfound := Store.object?_of_mem_objects
    ((mem_objects_store hbuilt).mpr ⟨entry, hentry, hobject⟩)
  rw [ObjectEntry.oid_of_object hobject] at hfound
  exact ⟨o, hobject, hfound⟩

/-- The plain objects of a configuration accept the values that they start with
exactly if each entry of a plain object starts within its own bounds. -/
theorem acceptOwnValues_iff (hbuilt : c.store clock = .ok s) :
    (∀ o ∈ s.objects, o.body.kind = .plain → o.body.AcceptsOwnValue) ↔
      ∀ entry ∈ c.objects, ∀ p, entry.settings = .plain p → p.StartsInBounds := by
  constructor
  · intro haccept entry hentry
    obtain ⟨o, hobject⟩ := exists_object_of_addObjects hbuilt entry hentry
    have hmem : o ∈ s.objects := (mem_objects_store hbuilt).mpr ⟨entry, hentry, hobject⟩
    exact (ObjectEntry.acceptsOwnValue_iff hobject).mp (haccept o hmem)
  · intro hstarts o ho
    obtain ⟨entry, hentry, hobject⟩ := (mem_objects_store hbuilt).mp ho
    exact (ObjectEntry.acceptsOwnValue_iff hobject).mpr (hstarts entry hentry)

/-- The settings of strings, an integer and a counter. The first string has two
characters and five octets, and the integer lies at the end of its range. -/
def withinBounds : AgentConfig where
  maxBindings := 64
  objects :=
    [⟨⟨[1, 1]⟩, .plain
        { integer := none, string := some "é€", minLength := some 5, maxLength := none,
          displayString := false, min := none, max := none }⟩,
      ⟨⟨[1, 2]⟩, .plain
        { integer := some (-3), string := none, minLength := some 9, maxLength := none,
          displayString := true, min := some (-3), max := none }⟩,
      ⟨⟨[1, 3]⟩, .plain
        { integer := none, string := some "a z", minLength := none, maxLength := some 3,
          displayString := true, min := some 1, max := some 1 }⟩,
      ⟨⟨[1, 4]⟩, .testAndIncr 3⟩]

/-- The configuration is built, its entries start within their bounds, and its objects
accept the values that they start with. -/
theorem withinBounds_accept :
    ∃ s, withinBounds.store ⟨0⟩ = .ok s ∧ s.size = 4 ∧
      (∀ entry ∈ withinBounds.objects, ∀ p, entry.settings = .plain p → p.StartsInBounds) ∧
      ∀ o ∈ s.objects, o.body.kind = .plain → o.body.AcceptsOwnValue := by
  obtain ⟨s, hbuilt, hsize⟩ : ∃ s, withinBounds.store ⟨0⟩ = .ok s ∧ s.size = 4 := ⟨_, rfl, rfl⟩
  have hstarts : ∀ entry ∈ withinBounds.objects, ∀ p, entry.settings = .plain p →
      p.StartsInBounds := by
    intro entry hentry p hsettings
    simp only [withinBounds, List.mem_cons, List.not_mem_nil, or_false] at hentry
    rcases hentry with rfl | rfl | rfl | rfl
    · obtain rfl := ObjectSettings.plain.inj hsettings
      decide
    · obtain rfl := ObjectSettings.plain.inj hsettings
      decide
    · obtain rfl := ObjectSettings.plain.inj hsettings
      decide
    · cases hsettings
  exact ⟨s, hbuilt, hsize, hstarts, (acceptOwnValues_iff hbuilt).mpr hstarts⟩

/-- A string of six octets that later values may not have more than three of. -/
def overlong : AgentConfig where
  maxBindings := 64
  objects :=
    [⟨⟨[1, 3, 1]⟩, .plain
      { integer := none, string := some "abcdef", minLength := none, maxLength := some 3,
        displayString := false, min := none, max := none }⟩]

/-- Not every configuration that is built starts with values that its objects accept. -/
theorem not_forall_acceptOwnValues :
    ¬ ∀ (c : AgentConfig) (clock : Clock) (s : Store), c.store clock = .ok s →
      ∀ o ∈ s.objects, o.body.kind = .plain → o.body.AcceptsOwnValue := by
  intro h
  obtain ⟨s, hbuilt, hobjects⟩ : ∃ s, overlong.store ⟨0⟩ = .ok s ∧
      s.objects = [⟨⟨[1, 3, 1]⟩, ⟨.octets [97, 98, 99, 100, 101, 102], .plain,
        ⟨[.length ⟨0, 3⟩]⟩, []⟩⟩] := ⟨_, rfl, rfl⟩
  have haccepts := h overlong ⟨0⟩ s hbuilt
  rw [hobjects, List.forall_mem_singleton] at haccepts
  obtain ⟨hprepared, -⟩ := haccepts rfl
  cases hprepared

end AgentConfig

end SnmpSet
