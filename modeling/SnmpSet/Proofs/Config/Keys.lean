import SnmpSet.Config.Reader
import Mathlib.Tactic.SplitIfs

/-!
# The keys that a configuration understands

A document whose top or whose limits have a key that is not understood is refused. The
table of an entry is read for the keys of its kind alone. Any other key makes no
difference, neither to whether the document is read nor to what is read, so a key that is
misspelt leaves its setting at the default.
-/

namespace SnmpSet

namespace Toml

/-- The keys of a table. Other values have none. -/
def keys : Toml → List String
  | .table fields => fields.map Prod.fst
  | _ => []

/-- A table without all keys but the given ones. -/
def restrict (known : List String) : Toml → Toml
  | .table fields => .table (fields.filter fun field => known.contains field.1)
  | v => v

/-- Each item of an array changed. -/
def mapItems (f : Toml → Toml) : Toml → Toml
  | .array items => .array (items.map f)
  | v => v

variable {fields fields' : List (String × Toml)} {known : List String}

/-- A key that is kept has the value that it had. -/
theorem lookup?_filter {key : String} (hkey : key ∈ known) :
    lookup? key (fields.filter fun field => known.contains field.1) = lookup? key fields := by
  rw [lookup?, lookup?, List.find?_filter]
  congr 2
  funext field
  by_cases heq : field.1 = key
  · simp [heq, hkey]
  · simp [heq]

/-- A table that is restricted has known keys only. -/
theorem mem_of_mem_keys_restrict {v : Toml} {key : String} (hkey : key ∈ (v.restrict known).keys) :
    key ∈ known := by
  cases v with
  | table fields =>
    obtain ⟨field, hfield, rfl⟩ := List.mem_map.mp hkey
    simpa using (List.mem_filter.mp hfield).2
  | string | integer | float | bool | dateTime | array => simp [restrict, keys] at hkey

/-- A table stays as it is exactly if all of its keys are known. -/
theorem restrict_eq_self_iff {v : Toml} :
    v.restrict known = v ↔ ∀ key ∈ v.keys, key ∈ known := by
  cases v with
  | table fields => simp [restrict, keys]
  | string | integer | float | bool | dateTime | array => simp [restrict, keys]

/-- A field that is there is read, whatever stands in for a missing one. -/
theorem Record.orElse_of_field? {α : Type} {r : Record} {position : Nat} {name : String}
    {v : Toml} (hfield : r.field? position name = some v) (read : Toml → Option α) (default : α) :
    r.orElse position name read default = read v := by
  simp [orElse, optional, hfield, Option.map_map, Function.comp_def]

end Toml

open Toml

namespace ObjectEntry

/-- The keys of an entry that its kind gives it. -/
def keysOf (kind : String) : List String :=
  if kind = "plain" then
    ["oid", "integer", "string", "min_length", "max_length", "display_string", "min", "max"]
  else if kind = "test_and_incr" then ["oid", "initial"]
  else if kind = "time_stamp" then ["oid"]
  else if kind = "key_change" then ["oid", "protocol", "row_index", "key", "own", "readable"]
  else []

/-- An entry is written with its kind and with the keys that its kind gives it. -/
theorem exists_toJson_eq (c : ObjectEntry) :
    ∃ fields, c.toJson = .object fields ∧
      fields.map Prod.fst = "kind" :: keysOf c.settings.kindName := by
  refine ⟨_, rfl, ?_⟩
  cases c.settings <;> rfl

/-- The keys that are understood in the table of an entry. -/
def knownKeys : Toml → List String
  | .table fields => "kind" :: ((lookup? "kind" fields).bind string?).elim [] keysOf
  | _ => []

/-- The table of an entry without the keys that are not understood. -/
def withoutForeignKeys (item : Toml) : Toml := item.restrict (knownKeys item)

variable {fields fields' : List (String × Toml)} {c : ObjectEntry}

/-- What is read of a table depends on the keys of its kind alone. -/
theorem ofRecord?_congr {kind : String}
    (hfields : ∀ key ∈ keysOf kind, lookup? key fields = lookup? key fields') :
    ofRecord? kind (.named fields) = ofRecord? kind (.named fields') := by
  unfold ofRecord?
  split_ifs with hplain hcounter hstamp hkey
  · subst hplain
    simp only [keysOf, ↓reduceIte, List.mem_cons, List.not_mem_nil, or_false,
      forall_eq_or_imp, forall_eq] at hfields
    simp only [readPlain, Record.required, Record.optional, Record.orElse, Record.field?,
      Record.fits, hfields]
  · subst hcounter
    simp only [keysOf, String.reduceEq, ↓reduceIte, List.mem_cons, List.not_mem_nil, or_false,
      forall_eq_or_imp, forall_eq] at hfields
    simp only [readTestAndIncr, Record.required, Record.optional, Record.orElse, Record.field?,
      Record.fits, hfields]
  · subst hstamp
    simp only [keysOf, String.reduceEq, ↓reduceIte, List.mem_cons, List.not_mem_nil, or_false,
      forall_eq] at hfields
    simp only [readTimeStamp, Record.required, Record.field?, Record.fits, hfields]
  · subst hkey
    simp only [keysOf, String.reduceEq, ↓reduceIte, List.mem_cons, List.not_mem_nil, or_false,
      forall_eq_or_imp, forall_eq] at hfields
    simp only [readKeyChange, Record.required, Record.optional, Record.orElse, Record.field?,
      Record.fits, hfields]
  · rfl

/-- The table of an entry keeps its kind. -/
theorem lookup?_kind_withoutForeignKeys :
    lookup? "kind" (fields.filter fun field => (knownKeys (.table fields)).contains field.1) =
      lookup? "kind" fields :=
  lookup?_filter List.mem_cons_self

/-- The same keys are understood where the others are missing. -/
theorem knownKeys_withoutForeignKeys (item : Toml) :
    knownKeys (withoutForeignKeys item) = knownKeys item := by
  cases item with
  | table fields =>
    rw [withoutForeignKeys, restrict, knownKeys, lookup?_kind_withoutForeignKeys, knownKeys]
  | string | integer | float | bool | dateTime | array => rfl

/-- An item is read as it would be without the keys that are not understood. -/
theorem ofToml?_withoutForeignKeys (item : Toml) :
    ofToml? (withoutForeignKeys item) = ofToml? item := by
  cases item with
  | table fields =>
    simp only [withoutForeignKeys, restrict, ofToml?, lookup?_kind_withoutForeignKeys]
    cases hname : (lookup? "kind" fields).bind string? with
    | none => rfl
    | some kind =>
      refine ofRecord?_congr fun key hkey => lookup?_filter ?_
      rw [knownKeys, hname]
      exact List.mem_cons_of_mem _ hkey
  | string | integer | float | bool | dateTime | array => rfl

/-- An entry that is read has the kind that it is read for. -/
theorem kindName_of_ofRecord? {kind : String} {r : Record} (hread : ofRecord? kind r = some c) :
    c.settings.kindName = kind := by
  unfold ofRecord? at hread
  split_ifs at hread with hplain hcounter hstamp hkey
  · simp only [readPlain, Option.bind_eq_bind, Option.bind_eq_some_iff,
      Option.ite_none_right_eq_some] at hread
    obtain ⟨_, -, _, -, _, -, _, -, _, -, _, -, _, -, _, -, -, hc⟩ := hread
    rw [← Option.some.inj hc, hplain]
    rfl
  · simp only [readTestAndIncr, Option.bind_eq_bind, Option.bind_eq_some_iff,
      Option.ite_none_right_eq_some] at hread
    obtain ⟨_, -, _, -, -, hc⟩ := hread
    rw [← Option.some.inj hc, hcounter]
    rfl
  · simp only [readTimeStamp, Option.bind_eq_bind, Option.bind_eq_some_iff,
      Option.ite_none_right_eq_some] at hread
    obtain ⟨_, -, -, hc⟩ := hread
    rw [← Option.some.inj hc, hstamp]
    rfl
  · simp only [readKeyChange, Option.bind_eq_bind, Option.bind_eq_some_iff,
      Option.ite_none_right_eq_some] at hread
    obtain ⟨_, -, _, -, _, -, _, -, _, -, _, -, -, hc⟩ := hread
    rw [← Option.some.inj hc, hkey]
    rfl

/-- The keys that are understood in a table are those that the entry read from it is
written with. -/
theorem knownKeys_of_ofToml? (hread : ofToml? (.table fields) = some c) :
    ∃ written, c.toJson = .object written ∧ knownKeys (.table fields) = written.map Prod.fst := by
  obtain ⟨kind, hkind, hentry⟩ := Option.bind_eq_some_iff.mp hread
  obtain ⟨written, hwritten, hkeys⟩ := exists_toJson_eq c
  refine ⟨written, hwritten, ?_⟩
  rw [hkeys, kindName_of_ofRecord? hentry, knownKeys, hkind, Option.elim_some]

end ObjectEntry

namespace AgentConfig

/-- The items that a document lists as its objects. -/
def itemsOf (fields : List (String × Toml)) : List Toml :=
  match lookup? "objects" fields with
  | some (.array items) => items
  | _ => []

/-- The keys of a document and of its limits are understood. -/
structure OuterKeysKnown (fields : List (String × Toml)) : Prop where
  top : ∀ key ∈ (Toml.table fields).keys, key ∈ ["engine", "objects"]
  engine : ∀ limits ∈ lookup? "engine" fields, ∀ key ∈ limits.keys, key ∈ ["max_bindings"]

/-- All keys of a document, of its limits and of its entries are understood. -/
structure KeysKnown (fields : List (String × Toml)) : Prop extends OuterKeysKnown fields where
  objects : ∀ item ∈ itemsOf fields, ∀ key ∈ item.keys, key ∈ ObjectEntry.knownKeys item

/-- A document whose entries are left without the keys that are not understood. -/
def withoutForeignKeys (fields : List (String × Toml)) : List (String × Toml) :=
  fields.map fun field =>
    (field.1,
      if field.1 = "objects" then field.2.mapItems ObjectEntry.withoutForeignKeys else field.2)

variable {fields : List (String × Toml)}

/-- A key stands beside the value that it had, of which only the entries change. -/
theorem lookup?_withoutForeignKeys (key : String) :
    lookup? key (withoutForeignKeys fields) =
      (lookup? key fields).map fun v =>
        if key = "objects" then v.mapItems ObjectEntry.withoutForeignKeys else v := by
  induction fields with
  | nil => rfl
  | cons field fields ih =>
    by_cases heq : field.1 = key
    · simp [lookup?, withoutForeignKeys, heq]
    · simpa [lookup?, withoutForeignKeys, heq] using ih

/-- The entries of a list are read without their foreign keys as they are with them. -/
theorem objectsOf?_mapItems (v : Toml) :
    objectsOf? (v.mapItems ObjectEntry.withoutForeignKeys) = objectsOf? v := by
  cases v with
  | array items =>
    have hread : ObjectEntry.ofToml? ∘ ObjectEntry.withoutForeignKeys = ObjectEntry.ofToml? :=
      funext ObjectEntry.ofToml?_withoutForeignKeys
    rw [mapItems, objectsOf?, objectsOf?, List.mapM_map, hread]
  | string | integer | float | bool | dateTime | table => rfl

/-- A document is read as it would be without the foreign keys of its entries. -/
theorem ofFields?_withoutForeignKeys (fields : List (String × Toml)) :
    ofFields? (withoutForeignKeys fields) = ofFields? fields := by
  have hkeys : onlyKeys ["engine", "objects"] (withoutForeignKeys fields) =
      onlyKeys ["engine", "objects"] fields := by
    simp only [onlyKeys, withoutForeignKeys, List.all_map, Function.comp_def]
  have hengine : lookup? "engine" (withoutForeignKeys fields) = lookup? "engine" fields := by
    simp [lookup?_withoutForeignKeys]
  have hobjects : lookup? "objects" (withoutForeignKeys fields) =
      (lookup? "objects" fields).map (mapItems ObjectEntry.withoutForeignKeys) := by
    simp [lookup?_withoutForeignKeys]
  simp only [ofFields?, hkeys, Record.orElse, Record.optional, Record.field?, hengine, hobjects]
  cases lookup? "objects" fields with
  | none => rfl
  | some v => simp only [Option.map_some, objectsOf?_mapItems]

/-- All keys of a table are among the given ones exactly if each of them is. -/
theorem onlyKeys_iff {known : List String} :
    onlyKeys known fields ↔ ∀ key ∈ (Toml.table fields).keys, key ∈ known := by
  simp [onlyKeys, Toml.keys]

/-- The limits are read only if all of their keys are understood. -/
theorem mem_keys_of_maxBindingsOf? {limits : Toml} {n : Nat}
    (hread : maxBindingsOf? limits = some n) : ∀ key ∈ limits.keys, key ∈ ["max_bindings"] := by
  cases limits with
  | table fields =>
    rw [maxBindingsOf?] at hread
    split at hread
    · next honly => exact onlyKeys_iff.mp honly
    · cases hread
  | string | integer | float | bool | dateTime | array => simp [Toml.keys]

/-- A document that is read has no key that is not understood at its top or among its
limits. -/
theorem outerKeysKnown_of_ofFields? {c : AgentConfig} (hread : ofFields? fields = some c) :
    OuterKeysKnown fields := by
  unfold ofFields? at hread
  split at hread
  · next htop =>
    obtain ⟨maxBindings, hlimit, -⟩ := Option.bind_eq_some_iff.mp hread
    refine ⟨onlyKeys_iff.mp htop, fun limits hlimits => ?_⟩
    rw [Record.orElse_of_field? (Option.mem_def.mp hlimits)] at hlimit
    exact mem_keys_of_maxBindingsOf? hlimit
  · cases hread

/-- The items of a document without foreign keys are its items without foreign keys. -/
theorem itemsOf_withoutForeignKeys (fields : List (String × Toml)) :
    itemsOf (withoutForeignKeys fields) = (itemsOf fields).map ObjectEntry.withoutForeignKeys := by
  rw [itemsOf, itemsOf, lookup?_withoutForeignKeys]
  cases lookup? "objects" fields with
  | none => rfl
  | some v => cases v <;> rfl

/-- An item without foreign keys has understood keys only. -/
theorem mem_knownKeys_of_mem_itemsOf {item : Toml}
    (hitem : item ∈ itemsOf (withoutForeignKeys fields)) :
    ∀ key ∈ item.keys, key ∈ ObjectEntry.knownKeys item := by
  rw [itemsOf_withoutForeignKeys] at hitem
  obtain ⟨item, -, rfl⟩ := List.mem_map.mp hitem
  rw [ObjectEntry.knownKeys_withoutForeignKeys]
  exact fun key hkey => mem_of_mem_keys_restrict hkey

/-- The items of a document stay as they are exactly if all of their keys are understood. -/
theorem itemsOf_withoutForeignKeys_eq_self_iff :
    itemsOf (withoutForeignKeys fields) = itemsOf fields ↔
      ∀ item ∈ itemsOf fields, ∀ key ∈ item.keys, key ∈ ObjectEntry.knownKeys item := by
  have hkept := List.map_inj_left (l := itemsOf fields) (f := ObjectEntry.withoutForeignKeys)
    (g := id)
  rw [List.map_id] at hkept
  rw [itemsOf_withoutForeignKeys, hkept]
  exact forall₂_congr fun item _ => restrict_eq_self_iff

/-- However documents are read, a text is read as if the entries of its document did not have
any foreign keys. Where it is read, the outer keys are known, all keys are without the foreign
ones, and all keys are just if no entry has a foreign one. -/
theorem readBy?_passes_over (reader : DocumentReader) (s : String) :
    readBy? reader s = ((reader s).map withoutForeignKeys).bind ofFields? ∧
    ∀ fields ∈ reader s, (readBy? reader s).isSome →
      OuterKeysKnown fields ∧ KeysKnown (withoutForeignKeys fields) ∧
        (KeysKnown fields ↔ itemsOf (withoutForeignKeys fields) = itemsOf fields) := by
  constructor
  · cases hdocument : reader s with
    | none => simp [readBy?, hdocument]
    | some fields => simp [readBy?, hdocument, ofFields?_withoutForeignKeys]
  · intro fields hfields hsome
    obtain ⟨c, hread⟩ := Option.isSome_iff_exists.mp hsome
    rw [readBy?, Option.mem_def.mp hfields] at hread
    have houter := outerKeysKnown_of_ofFields? hread
    have houter' := outerKeysKnown_of_ofFields? ((ofFields?_withoutForeignKeys fields).trans hread)
    refine ⟨houter, ⟨houter', fun item hitem => mem_knownKeys_of_mem_itemsOf hitem⟩, ?_⟩
    rw [itemsOf_withoutForeignKeys_eq_self_iff]
    exact ⟨KeysKnown.objects, fun hobjects => ⟨houter, hobjects⟩⟩

/-- What the text of a configuration says at its top and among its limits is understood,
or the configuration is refused. What it says beside the keys of an entry's kind is passed
over: any configuration is read as if its entries did not have any other keys, and all
keys of what is then left are understood. So an accepted configuration is understood as a
whole exactly if none of its entries loses a key. -/
theorem ofText?_passes_over (s : String) :
    AgentConfig.ofText? s = ((Toml.ofText? s).map withoutForeignKeys).bind ofFields? ∧
    ∀ fields ∈ Toml.ofText? s, (AgentConfig.ofText? s).isSome →
      OuterKeysKnown fields ∧ KeysKnown (withoutForeignKeys fields) ∧
        (KeysKnown fields ↔ itemsOf (withoutForeignKeys fields) = itemsOf fields) :=
  readBy?_passes_over Toml.ofText? s

/-- A configuration that means to limit the length of a string. -/
def misspelt : String :=
  "[[objects]]\nkind = \"plain\"\noid = \"1.3.1\"\nstring = \"a\"\nmax_lenght = 3\n"

/-- The configuration is read, and the string may have any length. -/
theorem ofText?_misspelt :
    ofText? misspelt = some
      { maxBindings := 64
        objects :=
          [⟨⟨[1, 3, 1]⟩, .plain
            { integer := none, string := some "a", minLength := none, maxLength := none,
              displayString := false, min := none, max := none }⟩] } := by
  decide +kernel

/-- The entry of the string has a key that is not understood. -/
theorem exists_foreign_misspelt :
    ∃ fields, Toml.ofText? misspelt = some fields ∧ ∃ item ∈ itemsOf fields,
      "max_lenght" ∈ item.keys ∧ "max_lenght" ∉ ObjectEntry.knownKeys item := by
  have hany : (Toml.ofText? misspelt).any (fun fields => (itemsOf fields).any fun item =>
      item.keys.contains "max_lenght" &&
        !(ObjectEntry.knownKeys item).contains "max_lenght") = true := by
    decide +kernel
  obtain ⟨fields, hfields, hitems⟩ := (Option.any_eq_true _ _).mp hany
  obtain ⟨item, hitem, hkeys⟩ := List.any_eq_true.mp hitems
  exact ⟨fields, hfields, item, hitem, by simpa using hkeys⟩

/-- The configuration is understood apart from the misspelt key, which is passed over. -/
theorem misspelt_passes_over :
    ∃ fields, Toml.ofText? misspelt = some fields ∧ OuterKeysKnown fields ∧
      ¬KeysKnown fields ∧ KeysKnown (withoutForeignKeys fields) ∧
      ofFields? (withoutForeignKeys fields) = ofText? misspelt := by
  obtain ⟨hread, hknown⟩ := ofText?_passes_over misspelt
  obtain ⟨fields, hfields, item, hitem, hkey, hforeign⟩ := exists_foreign_misspelt
  obtain ⟨houter, hwithout, -⟩ := hknown fields hfields (by rw [ofText?_misspelt]; rfl)
  rw [hfields] at hread
  exact ⟨fields, hfields, houter, fun h => hforeign (h.objects item hitem _ hkey), hwithout,
    hread.symm⟩

/-- Not every configuration that is read is understood as a whole. -/
theorem not_forall_keysKnown :
    ¬ ∀ (s : String) (c : AgentConfig) (fields : List (String × Toml)),
      ofText? s = some c → Toml.ofText? s = some fields → KeysKnown fields := by
  intro h
  obtain ⟨fields, hfields, item, hitem, hkey, hforeign⟩ := exists_foreign_misspelt
  have hknown := h misspelt _ fields ofText?_misspelt hfields
  exact hforeign (hknown.objects item hitem _ hkey)

end AgentConfig

end SnmpSet
