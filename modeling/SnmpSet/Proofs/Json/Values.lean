import SnmpSet.Json.Codec
import SnmpSet.Proofs.Json.Text
import SnmpSet.Proofs.Oid.Dotted

/-!
# Reading back values

A value is read back from the JSON text that is written for it. The one exception is the value
that holds the root: no dotted text denotes the root, so that its text is not read at all.
-/

namespace SnmpSet

theorem Oid.ofJson?_toJson (o : Oid) :
    ofJson? o.toJson = if o = .empty then none else some o := by
  rw [toJson, ofJson?, ofText_text]
  split <;> rfl

namespace Value

/-- The JSON of a value has no numbers but whole ones. -/
theorem isWhole_toJson (v : Value) : Json.IsWhole v.toJson := by
  have hfield : ∀ (name : String) (j : Json), j.IsWhole → Json.IsWhole (.object [(name, j)]) :=
    fun name j hj => .object fun field hmem => by
      rw [List.mem_singleton.mp hmem]
      exact hj
  cases v with
  | integer n => exact hfield _ _ (.integer _)
  | timeTicks ticks => exact hfield _ _ (.integer _)
  | octets bytes =>
    refine hfield _ _ (.array fun item hitem => ?_)
    obtain ⟨b, -, rfl⟩ := List.mem_map.mp hitem
    exact .integer _
  | objectId oid => exact hfield _ _ (.string _)

/-- Octets are read back from their numbers. -/
theorem mapM_uint8?_toNat (bytes : List UInt8) :
    (bytes.map fun b => Json.integer b.toNat).mapM
      (fun item : Json => item.integer?.bind Word.uint8?) = some bytes := by
  have hread : ((fun item : Json => item.integer?.bind Word.uint8?) ∘
      fun b : UInt8 => Json.integer b.toNat) = pure := by
    funext b
    rw [Function.comp_apply, Json.integer?, Option.bind_some, Word.uint8?_toNat]
    rfl
  rw [List.mapM_map, hread, List.mapM_pure, List.map_id']
  rfl

/-- A value is read back from its JSON, unless it holds the root. -/
theorem ofJson?_toJson (v : Value) :
    ofJson? v.toJson = if v = .objectId .empty then none else some v := by
  cases v with
  | integer n =>
    rw [if_neg nofun, toJson, ofJson?]
    unfold ofField?
    rw [if_pos rfl, Json.integer?, Option.bind_some, Word.int32?_toInt, Option.map_some]
  | timeTicks ticks =>
    rw [if_neg nofun, toJson, ofJson?]
    unfold ofField?
    rw [if_neg (by decide), if_pos rfl, Json.integer?, Option.bind_some, Word.uint32?_toNat,
      Option.map_some]
  | octets bytes =>
    rw [if_neg nofun, toJson, ofJson?]
    simp only [ofField?, mapM_uint8?_toNat]
    simp
  | objectId oid =>
    have hfield : ofJson? (toJson (.objectId oid)) =
        (Oid.ofJson? oid.toJson).map .objectId := by simp [toJson, ofJson?, ofField?]
    rw [hfield, Oid.ofJson?_toJson]
    by_cases hoid : oid = .empty <;> simp [hoid]

/-- A value is read back from what any text form of JSON writes for it, unless it holds the
root. -/
theorem ofJson?_read?_write (codec : Json.Codec) (v : Value) :
    (codec.read? (codec.write v.toJson)).bind ofJson? =
      if v = .objectId .empty then none else some v := by
  rw [codec.read?_write (isWhole_toJson v), Option.bind_some, ofJson?_toJson]

/-- A value is read back from its JSON text. The value that holds the root is the only one
that is not: the text that is written for it denotes no value. -/
theorem jsonText_reads_back (v : Value) :
    ofJsonText? v.toJson.text = if v = .objectId .empty then none else some v := by
  rw [ofJsonText?, ← Json.Codec.compact_write, ← Json.Codec.compact_read?,
    ofJson?_read?_write .compact v]

/-- Not every value is read back from its JSON text. -/
theorem not_forall_jsonText_reads_back : ¬∀ v : Value, ofJsonText? v.toJson.text = some v := by
  intro hall
  have hroot := hall (.objectId .empty)
  rw [ofJsonText?, ← Json.Codec.compact_write, ← Json.Codec.compact_read?,
    ofJson?_read?_write .compact, if_pos rfl] at hroot
  cases hroot

end Value

end SnmpSet
