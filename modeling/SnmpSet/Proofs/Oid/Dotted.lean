import SnmpSet.Oid.Dotted

/-!
# Reading back dotted text

An object identifier with at least one sub-identifier is read back from its dotted text. The
root has the empty text, which denotes no identifier at all.
-/

namespace SnmpSet

namespace Oid

theorem dot_notMem_decimal (n : Nat) : '.' ∉ Text.decimal n := by
  intro hdot
  have hdigit : '.'.isDigit = true := Text.isDigit_of_mem_decimal hdot
  cases hdigit

/-- A sub-identifier is read back from its digits. -/
theorem readSubId_decimal (s : UInt32) : readSubId (Text.decimal s.toNat) = .ok s := by
  have hsize : s.toNat < UInt32.size := s.toNat_lt
  rw [readSubId, if_neg (Text.decimal_ne_nil _), Text.readUnsigned_decimal]
  simp only [if_pos hsize, UInt32.ofNat_toNat]

/-- Sub-identifiers are read back from their digits one by one. -/
theorem mapM_readSubId_decimal (subIds : List UInt32) :
    (subIds.map fun s => Text.decimal s.toNat).mapM readSubId = .ok subIds := by
  have hread : (readSubId ∘ fun s : UInt32 => Text.decimal s.toNat) = pure :=
    funext readSubId_decimal
  rw [List.mapM_map, hread, List.mapM_pure, List.map_id']
  rfl

/-- Dotted text starts with the digits of the first sub-identifier, thus with no dot. -/
theorem exists_dotted_eq_cons (s : UInt32) (subIds : List UInt32) :
    ∃ c cs, dotted ⟨s :: subIds⟩ = c :: cs ∧ c ≠ '.' := by
  obtain ⟨rest, hdotted⟩ : ∃ rest, dotted ⟨s :: subIds⟩ = Text.decimal s.toNat ++ rest := by
    cases subIds with
    | nil => exact ⟨[], by simp [dotted]⟩
    | cons next subIds =>
      exact ⟨'.' :: dotted ⟨next :: subIds⟩, by simp [dotted, List.intercalate]⟩
  obtain ⟨c, cs, hchars, hdigit⟩ := Text.exists_decimal_eq_cons s.toNat
  refine ⟨c, cs ++ rest, by rw [hdotted, hchars, List.cons_append], ?_⟩
  rintro rfl
  cases hdigit

/-- Text that does not start with a dot is read segment by segment. -/
theorem readChars_cons {c : Char} (hc : c ≠ '.') (cs : List Char) :
    readChars (c :: cs) = ((Text.segments '.' (c :: cs)).mapM readSubId).map Oid.mk := by
  have hdrop : dropLeadingDot (c :: cs) = c :: cs := by
    rw [dropLeadingDot]
    intro cs' heq
    exact hc (List.cons.inj heq).1
  rw [readChars, hdrop]

/-- Dotted text is read back, unless it is the empty text of the root. -/
theorem readChars_dotted (o : Oid) :
    readChars o.dotted = if o = .empty then .error .blank else .ok o := by
  obtain ⟨subIds⟩ := o
  cases subIds with
  | nil => rfl
  | cons s subIds =>
    have hne : (⟨s :: subIds⟩ : Oid) ≠ .empty := by simp [Oid.empty]
    have hsegments : Text.segments '.' (dotted ⟨s :: subIds⟩) =
        (s :: subIds).map fun s => Text.decimal s.toNat :=
      Text.segments_intercalate (by simp) fun piece hpiece => by
        obtain ⟨s, -, rfl⟩ := List.mem_map.mp hpiece
        exact dot_notMem_decimal s.toNat
    obtain ⟨c, cs, hdotted, hc⟩ := exists_dotted_eq_cons s subIds
    rw [if_neg hne, hdotted, readChars_cons hc, ← hdotted, hsegments, mapM_readSubId_decimal]
    rfl

/-- The text of an identifier denotes this identifier, unless it is the root. -/
theorem ofText_text (o : Oid) : ofText o.text = if o = .empty then .error .blank else .ok o := by
  rw [ofText, text, String.toList_ofList, readChars_dotted]

end Oid

end SnmpSet
