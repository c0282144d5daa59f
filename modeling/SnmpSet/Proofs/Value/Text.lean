import SnmpSet.Proofs.Judgement
import SnmpSet.Proofs.Oid.Dotted

/-!
# A shown value identifies the value

No two values of one base type have the same text. Numbers and identifiers are read back from
their digits. Octet strings are shown in quotes or in hexadecimal, both can be read back, and
hexadecimal has no quote that it could be mistaken for. So a counter that refuses a proposal
because it holds another value names two texts that differ.
-/

namespace SnmpSet

namespace Text

variable {bytes bytes' : List UInt8} {cs : List Char}

/-! ## Numerals -/

/-- A numeral is the one of no other number. -/
theorem decimal_inj {m n : Nat} : decimal m = decimal n ↔ m = n := by
  refine ⟨fun hsame => ?_, congrArg decimal⟩
  have hread := readDigits_decimal m
  rw [hsame, readDigits_decimal n] at hread
  exact (Option.some.inj hread).symm

/-- A numeral has no minus sign. -/
theorem decimal_ne_minus_cons (n : Nat) (cs : List Char) : decimal n ≠ '-' :: cs := by
  intro hsame
  have hdigit : '-'.isDigit = true := isDigit_of_mem_decimal (hsame ▸ List.mem_cons_self)
  cases hdigit

/-- The numeral of an integer is the one of no other integer. -/
theorem signedDecimal_inj {m n : Int} : signedDecimal m = signedDecimal n ↔ m = n := by
  refine ⟨fun hsame => ?_, congrArg signedDecimal⟩
  cases m with
  | ofNat m =>
    cases n with
    | ofNat n => rw [decimal_inj.mp hsame]
    | negSucc n => exact absurd hsame (decimal_ne_minus_cons m _)
  | negSucc m =>
    cases n with
    | ofNat n => exact absurd hsame.symm (decimal_ne_minus_cons n _)
    | negSucc n => rw [Nat.succ.inj (decimal_inj.mp (List.cons.inj hsame).2)]

/-! ## Octets -/

/-- Octets are read as a text just if they are the UTF-8 octets of this text. -/
theorem ofUtf8?_eq_some_iff : ofUtf8? bytes = some cs ↔ bytes = utf8 cs := by
  constructor
  · intro hread
    obtain ⟨decoded, hdecoded, rfl⟩ := Option.map_eq_some_iff.mp hread
    have hsome : bytes.toByteArray.utf8Decode?.isSome := by rw [hdecoded]; rfl
    have hback := ByteArray.utf8Encode_get_utf8Decode? (h := hsome)
    simp only [hdecoded, Option.get_some] at hback
    exact (List.toByteArray_inj.mp hback).symm
  · rintro rfl
    have hdecoded : (utf8 cs).toByteArray.utf8Decode? = some cs.toArray :=
      List.utf8Decode?_utf8Encode
    rw [ofUtf8?, hdecoded]
    rfl

/-- A hexadecimal digit is one octet, from which its value is read. -/
theorem hexDigit?_digitChar :
    ∀ n < 16, (String.utf8EncodeChar (Nat.digitChar n)).map hexDigit? = [some (UInt8.ofNat n)] := by
  decide

/-- Octets are read back from their hexadecimal digits. -/
theorem hexPairs_hex (bytes : List UInt8) (position : Nat) :
    hexPairs (utf8 (hex bytes)) position = .ok bytes := by
  induction bytes generalizing position with
  | nil => rfl
  | cons b bytes ih =>
    have hb : b.toNat < 256 := b.toNat_lt
    obtain ⟨high, hhigh, hhigh'⟩ := List.map_eq_singleton_iff.mp
      (hexDigit?_digitChar (b.toNat / 16) (by omega))
    obtain ⟨low, hlow, hlow'⟩ := List.map_eq_singleton_iff.mp
      (hexDigit?_digitChar (b.toNat % 16) (by omega))
    have hdigits : utf8 (hex (b :: bytes)) = high :: low :: utf8 (hex bytes) := by
      simp [utf8, hex, hhigh, hlow]
    have hvalue : UInt8.ofNat (b.toNat / 16) * 16 + UInt8.ofNat (b.toNat % 16) = b := by
      have hbase : UInt8.toNat 16 = 16 := rfl
      apply UInt8.toNat_inj.mp
      simp only [UInt8.toNat_add, UInt8.toNat_mul, UInt8.toNat_ofNat', hbase]
      omega
    rw [hdigits, hexPairs, hhigh', hlow']
    simp only [ih, Except.map, hvalue]

/-- Hexadecimal digits are the ones of no other octets. -/
theorem hex_inj : hex bytes = hex bytes' ↔ bytes = bytes' := by
  refine ⟨fun hsame => ?_, congrArg hex⟩
  have hread := hexPairs_hex bytes 0
  rw [hsame, hexPairs_hex bytes' 0] at hread
  exact (Except.ok.inj hread).symm

/-- Hexadecimal has no quotes. -/
theorem quote_notMem_hex (bytes : List UInt8) : '"' ∉ hex bytes := by
  have hdigit : ∀ n < 16, Nat.digitChar n ≠ '"' := by decide
  intro hquote
  obtain ⟨b, -, hb⟩ := List.mem_flatMap.mp hquote
  have hlt : b.toNat < 256 := b.toNat_lt
  rcases List.mem_cons.mp hb with hhigh | hlow
  · exact hdigit (b.toNat / 16) (by omega) hhigh.symm
  · exact hdigit (b.toNat % 16) (by omega) (List.mem_singleton.mp hlow).symm

/-- Octets are shown in hexadecimal, or as the text that they encode, in quotes. -/
theorem showOctets_cases (bytes : List UInt8) :
    showOctets bytes = hex bytes ∨
      ∃ cs, bytes = utf8 cs ∧ showOctets bytes = '"' :: cs ++ ['"'] := by
  unfold showOctets
  split
  · next cs hread =>
    split
    · exact .inl rfl
    · exact .inr ⟨cs, ofUtf8?_eq_some_iff.mp hread, rfl⟩
  · exact .inl rfl

/-- The way octets are shown is the one of no other octets. -/
theorem showOctets_inj : showOctets bytes = showOctets bytes' ↔ bytes = bytes' := by
  refine ⟨fun hsame => ?_, congrArg showOctets⟩
  have hquoted : ∀ (bytes : List UInt8) (cs : List Char), hex bytes ≠ '"' :: cs ++ ['"'] := by
    intro bytes cs heq
    exact quote_notMem_hex bytes (heq ▸ List.mem_cons_self)
  rcases showOctets_cases bytes with hhex | ⟨cs, rfl, htext⟩
  · rcases showOctets_cases bytes' with hhex' | ⟨cs', rfl, htext'⟩
    · exact hex_inj.mp (hhex.symm.trans (hsame.trans hhex'))
    · exact absurd (hhex.symm.trans (hsame.trans htext')) (hquoted _ _)
  · rcases showOctets_cases bytes' with hhex' | ⟨cs', rfl, htext'⟩
    · exact absurd (hhex'.symm.trans (hsame.symm.trans htext)) (hquoted _ _)
    · have hinside := htext.symm.trans (hsame.trans htext')
      rw [List.append_cancel_right (List.cons.inj hinside).2]

end Text

/-! ## Values -/

/-- Dotted text is the one of no other identifier. The root alone has the empty one. -/
theorem Oid.dotted_inj {o o' : Oid} : o.dotted = o'.dotted ↔ o = o' := by
  refine ⟨fun hsame => ?_, congrArg dotted⟩
  have hread := readChars_dotted o
  rw [hsame, readChars_dotted o'] at hread
  split at hread <;> split at hread
  · next ho' ho => rw [ho, ho']
  · cases hread
  · cases hread
  · exact (Except.ok.inj hread).symm

namespace Value

variable {v w : Value}

/-- A value's text is that of no other value of its base type. -/
theorem text_inj (htype : v.baseType = w.baseType) : v.text = w.text ↔ v = w := by
  refine ⟨fun hsame => ?_, congrArg text⟩
  have hchars : v.chars = w.chars := String.ofList_injective hsame
  cases v <;> cases w <;> cases htype
  case integer n n' =>
    rw [Int32.toInt_inj.mp (Text.signedDecimal_inj.mp hchars)]
  case timeTicks ticks ticks' =>
    have hdigits := Text.decimal_inj.mp (List.append_cancel_right hchars)
    rw [TimeTicks.ext (UInt32.toNat_inj.mp hdigits)]
  case octets bytes bytes' =>
    rw [Text.showOctets_inj.mp hchars]
  case objectId oid oid' =>
    rw [Oid.dotted_inj.mp hchars]

/-- Values of two base types can be shown alike. -/
example : (integer 5).text = (objectId ⟨[5]⟩).text := by decide

end Value

/-! ## Counters -/

/-- A counter refuses a proposal of its base type just if that is shown as another text than
the value that it holds, and it names the two. -/
theorem TestAndIncr.prepare_eq_error_iff {stored proposed : Value} {e : Refusal}
    (htype : stored.baseType = proposed.baseType) :
    prepare stored proposed = .error e ↔
      stored.text ≠ proposed.text ∧
        e = .inconsistentValue s!"expected {stored}, got {proposed}" := by
  rw [prepare, Ne, Value.text_inj htype]
  split
  · next hsame => simp [hsame]
  · next hother =>
    rw [Except.error.injEq]
    exact ⟨fun he => ⟨hother, he.symm⟩, fun ⟨_, he⟩ => he.symm⟩

/-- What a counter refuses to prepare is of another base type, or a rule refuses it, or the
counter does. -/
theorem ObjectBody.verdict_prepare_counter {b : ObjectBody} {proposed : Value}
    {requester : Requester} {e : Refusal} (hkind : b.kind = .testAndIncr) :
    (b.prepare proposed requester).verdict = .error (.refused e) ↔
      proposed.baseType ≠ b.value.baseType ∧
          e = .wrongType b.value.baseType proposed.baseType ∨
        proposed.baseType = b.value.baseType ∧
          ((b.rules.judge .prepare proposed b.value).verdict = .error e ∨
            (b.rules.judge .prepare proposed b.value).verdict = .ok () ∧
              TestAndIncr.prepare b.value proposed = .error e) := by
  have hwritable : b.kind.writable = .ok () := by rw [hkind]; rfl
  have hvet : b.kind.vet requester = .ok () := by rw [hkind]; rfl
  have hprepare : b.kind.prepare b.value proposed requester =
      (TestAndIncr.prepare b.value proposed).mapError .refused := by rw [hkind]; rfl
  simp only [verdict_prepare_eq_refused, screen, Judgement.verdict_andThen_eq_error,
    Judgement.verdict_andThen_eq_ok, Judgement.verdict_direct, hwritable, hvet, hprepare,
    mapError_eq_error]
  by_cases htype : proposed.baseType = b.value.baseType
  · simp [htype]
  · simp [htype, eq_comm]

namespace Value

/-- Values of one base type are shown alike only if they are the same. So a counter that no rule
keeps from judging finds a proposal at odds with the value that it holds just if the two have one
base type and are shown as texts that differ, and these are the texts that it names. -/
theorem text_identifies_value :
    (∀ v w : Value, v.baseType = w.baseType → (v.text = w.text ↔ v = w)) ∧
    ∀ (b : ObjectBody) (proposed : Value) (requester : Requester) (reason : String),
      b.kind = .testAndIncr →
      ((b.prepare proposed requester).verdict = .error (.refused (.inconsistentValue reason)) ↔
        proposed.baseType = b.value.baseType ∧
          ((b.rules.judge .prepare proposed b.value).verdict =
              .error (.inconsistentValue reason) ∨
            (b.rules.judge .prepare proposed b.value).verdict = .ok () ∧
              b.value.text ≠ proposed.text ∧
              reason = s!"expected {b.value.text}, got {proposed.text}")) := by
  refine ⟨fun v w htype => text_inj htype, fun b proposed requester reason hkind => ?_⟩
  rw [ObjectBody.verdict_prepare_counter hkind]
  constructor
  · rintro (⟨-, hwrongType⟩ | ⟨htype, hrule | ⟨haccepted, hcounter⟩⟩)
    · cases hwrongType
    · exact ⟨htype, .inl hrule⟩
    · obtain ⟨hdiffer, hreason⟩ := (TestAndIncr.prepare_eq_error_iff htype.symm).mp hcounter
      exact ⟨htype, .inr ⟨haccepted, hdiffer, Refusal.inconsistentValue.inj hreason⟩⟩
  · rintro ⟨htype, hrule | ⟨haccepted, hdiffer, rfl⟩⟩
    · exact .inr ⟨htype, .inl hrule⟩
    · have hcounter := (TestAndIncr.prepare_eq_error_iff htype.symm).mpr ⟨hdiffer, rfl⟩
      exact .inr ⟨htype, .inr ⟨haccepted, hcounter⟩⟩

/-- A counter that holds two octets which are no text. -/
def octetCounter : ObjectBody := .create (.octets [0x00, 0xff]) .testAndIncr

/-- The octets 00 and ff are not shown like the four letters that are their digits, so a refusal
of these names both. -/
theorem octetCounter_identifies :
    octetCounter.value.text ≠ (octets [0x30, 0x30, 0x66, 0x66]).text ∧
    (octetCounter.prepare (.octets [0x30, 0x30, 0x66, 0x66]) none).verdict =
      .error (.refused (.inconsistentValue "expected 00ff, got \"00ff\"")) := by
  obtain ⟨hidentifies, hcounter⟩ := text_identifies_value
  have hdiffer : octetCounter.value.text ≠ (octets [0x30, 0x30, 0x66, 0x66]).text := by
    rw [Ne, hidentifies octetCounter.value (octets [0x30, 0x30, 0x66, 0x66]) rfl]
    decide
  refine ⟨hdiffer, (hcounter _ _ none _ rfl).mpr ⟨rfl, .inr ⟨rfl, hdiffer, ?_⟩⟩⟩
  decide

end Value

end SnmpSet
