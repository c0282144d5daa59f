import SnmpSet.Proofs.Oid.Spelling

/-!
# The text of an identifier is its shortest spelling

Leading zeros, plus signs and a leading dot give an identifier many spellings. All that a
spelling can have beyond the text of its identifier makes it longer. So this text, which is
read back, stands for all spellings of the identifier.
-/

namespace SnmpSet

namespace Text

variable {cs : List Char} {c : Char} {n : Nat}

/-- A digit is the decimal numeral of its value, which is below ten. -/
theorem decimal_of_isDigit (hdigit : c.isDigit = true) :
    c.toNat - '0'.toNat < 10 ∧ decimal (c.toNat - '0'.toNat) = [c] := by
  have hrange : '0'.toNat ≤ c.toNat ∧ c.toNat ≤ '9'.toNat := by
    simp only [Char.isDigit, Bool.and_eq_true, decide_eq_true_eq, ge_iff_le,
      UInt32.le_iff_toNat_le] at hdigit
    exact hdigit
  have hzero : '0'.toNat = 48 := rfl
  have hnine : '9'.toNat = 57 := rfl
  have hvalue : c.toNat - '0'.toNat < 10 := by omega
  have hchar : (c.toNat - '0'.toNat).digitChar = c := by
    apply Char.toNat_inj.mp
    rw [Nat.toNat_digitChar_of_lt_ten hvalue]
    omega
  exact ⟨hvalue, by rw [decimal, Nat.toDigits_of_lt_base hvalue, hchar]⟩

/-- A digit behind the decimal numeral of a positive number makes another one. -/
theorem decimal_snoc (hn : 0 < n) (hdigit : c.isDigit = true) :
    decimal (10 * n + (c.toNat - '0'.toNat)) = decimal n ++ [c] := by
  obtain ⟨hvalue, hdecimal⟩ := decimal_of_isDigit hdigit
  calc decimal (10 * n + (c.toNat - '0'.toNat))
      = decimal n ++ decimal (c.toNat - '0'.toNat) :=
        (Nat.toDigits_append_toDigits (by decide) hn hvalue).symm
    _ = decimal n ++ [c] := by rw [hdecimal]

/-- A numeral is the decimal numeral of its number, or it is longer. -/
theorem Numeral.eq_or_length_lt (hnumeral : Numeral cs n) :
    cs = decimal n ∨ (decimal n).length < cs.length := by
  induction hnumeral with
  | digit hdigit => exact .inl (decimal_of_isDigit hdigit).2.symm
  | @snoc digits n c hdigits hdigit ih =>
    have hnonempty : 0 < digits.length := List.length_pos_iff.mpr hdigits.ne_nil
    rcases Nat.eq_zero_or_pos n with rfl | hn
    · -- a leading zero
      right
      rw [Nat.mul_zero, Nat.zero_add, (decimal_of_isDigit hdigit).2, List.length_append]
      simpa using hnonempty
    · rw [decimal_snoc hn hdigit]
      rcases ih with rfl | hlonger
      · exact .inl rfl
      · right
        simpa using hlonger

end Text

namespace Oid

open Text

variable {segment : List Char} {segments : List (List Char)} {subId : UInt32}
  {subIds : List UInt32} {o o' : Oid} {s : String}

/-- A segment is the decimal numeral of its sub-identifier, or it is longer. -/
theorem Spells.eq_or_length_lt (hspells : Spells segment subId) :
    segment = decimal subId.toNat ∨ (decimal subId.toNat).length < segment.length := by
  rcases hspells with hplain | ⟨digits, rfl, hdigits⟩
  · exact hplain.eq_or_length_lt
  · right
    rw [List.length_cons]
    rcases hdigits.eq_or_length_lt with rfl | hlonger <;> omega

/-- The dotted text of several sub-identifiers is that of the first, a dot and that of the
others. -/
theorem dotted_cons_cons (s next : UInt32) (subIds : List UInt32) :
    dotted ⟨s :: next :: subIds⟩ = decimal s.toNat ++ ['.'] ++ dotted ⟨next :: subIds⟩ :=
  List.intercalate_cons_cons

/-- Joined segments are the dotted text of their sub-identifiers, or they are longer. -/
theorem intercalate_eq_or_length_lt (hspells : List.Forall₂ Spells segments subIds) :
    List.intercalate ['.'] segments = dotted ⟨subIds⟩ ∨
      (dotted ⟨subIds⟩).length < (List.intercalate ['.'] segments).length := by
  induction hspells with
  | nil => exact .inl rfl
  | @cons segment subId segments subIds hfirst hrest ih =>
    cases hrest with
    | nil => simpa [dotted] using hfirst.eq_or_length_lt
    | @cons next nextId segments subIds _ _ =>
      rw [List.intercalate_cons_cons, dotted_cons_cons]
      simp only [List.length_append, List.length_singleton]
      rcases hfirst.eq_or_length_lt with rfl | hfirst
      · rcases ih with heq | hlonger
        · exact .inl (by rw [heq])
        · exact .inr (by omega)
      · right
        rcases ih with heq | hlonger
        · rw [heq]
          omega
        · omega

/-- A string that denotes an identifier is its text, or it is longer. -/
theorem eq_text_or_length_lt (hread : ofText s = .ok o) :
    s = o.text ∨ o.text.length < s.length := by
  have htext : o.text.length = o.dotted.length := String.length_ofList
  rw [htext, ← String.length_toList]
  cases readChars_eq_iff.mp hread with
  | spelled hsegments hspells =>
    have hdotted := intercalate_eq_or_length_lt hspells
    rcases hsegments.text_eq with hdot | ⟨-, hplain⟩
    · -- a leading dot
      right
      rw [hdot, List.length_cons]
      rcases hdotted with heq | hlonger
      · rw [heq]
        omega
      · omega
    · rw [hplain]
      rcases hdotted with heq | hlonger
      · left
        rw [text, ← heq, ← hplain, String.ofList_toList]
      · exact .inr hlonger

/-- No string denotes the root. -/
theorem ne_empty_of_ofText (hread : ofText s = .ok o) : o ≠ .empty := by
  rintro rfl
  cases readChars_eq_iff.mp hread with
  | spelled hsegments hspells =>
    exact hsegments.ne_nil (List.forall₂_nil_right_iff.mp hspells)

/-- The text of an identifier denotes this identifier, if it is not the root. -/
theorem ofText_text_of_ne_empty (ho : o ≠ .empty) : ofText o.text = .ok o := by
  rw [ofText_text, if_neg ho]

/-- The text of an identifier other than the root is read back, and no other identifier but
the root has it. Every string that denotes an identifier denotes the same one as the text
of this identifier, and if it is not this text it is longer. So two strings that denote
identifiers denote the same one just if the texts of these are the same. -/
theorem text_is_canonical :
    (∀ o : Oid, o ≠ .empty → ofText o.text = .ok o) ∧
    (∀ o o' : Oid, o ≠ .empty → o' ≠ .empty → o.text = o'.text → o = o') ∧
    (∀ s o, ofText s = .ok o →
      ofText o.text = .ok o ∧ (s = o.text ∨ o.text.length < s.length)) ∧
    ∀ s s' o o', ofText s = .ok o → ofText s' = .ok o' →
      (o.text = o'.text ↔ ofText s = ofText s') := by
  have hinjective : ∀ o o' : Oid, o ≠ .empty → o' ≠ .empty → o.text = o'.text → o = o' := by
    intro o o' ho ho' htext
    have hread := ofText_text_of_ne_empty ho
    rw [htext, ofText_text_of_ne_empty ho'] at hread
    exact (Except.ok.inj hread).symm
  refine ⟨fun o => ofText_text_of_ne_empty, hinjective, fun s o hread => ?_, ?_⟩
  · exact ⟨ofText_text_of_ne_empty (ne_empty_of_ofText hread), eq_text_or_length_lt hread⟩
  · intro s s' o o' hread hread'
    rw [hread, hread']
    constructor
    · intro htext
      rw [hinjective o o' (ne_empty_of_ofText hread) (ne_empty_of_ofText hread') htext]
    · intro hsame
      rw [Except.ok.inj hsame]

/-- A spelling with a leading dot, a leading zero and a plus sign denotes the same
identifier as the text of this identifier, which is shorter. -/
theorem frilledSpelling_canonical :
    ofText ".01.+2" = .ok ⟨[1, 2]⟩ ∧ text ⟨[1, 2]⟩ = "1.2" ∧
      ofText (text ⟨[1, 2]⟩) = .ok ⟨[1, 2]⟩ ∧ (text ⟨[1, 2]⟩).length < ".01.+2".length ∧
      ∀ o : Oid, o ≠ .empty → o.text = text ⟨[1, 2]⟩ → o = ⟨[1, 2]⟩ := by
  have hread : ofText ".01.+2" = .ok ⟨[1, 2]⟩ := by decide
  obtain ⟨-, hinjective, hcanonical, -⟩ := text_is_canonical
  obtain ⟨hback, htext | hshorter⟩ := hcanonical _ _ hread
  · exact absurd htext (by decide)
  · exact ⟨hread, by decide, hback, hshorter, fun o ho => hinjective o _ ho (by decide)⟩

end Oid

end SnmpSet
