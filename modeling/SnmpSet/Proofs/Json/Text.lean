import Mathlib.Data.List.Basic
import SnmpSet.Json.Reader

/-!
# Reading back JSON text

The compact text of a value is read back as this value, if its numbers are whole. Inside
other text a value ends before a comma or a closing bracket or brace, and what follows it is
left unread. Reading a value takes at most two steps for each of its characters, so that
reading a whole text never runs out of fuel.
-/

namespace SnmpSet

namespace Text

/-- A positive number is written without leading zeros. -/
theorem head?_decimal_ne_zero {n : Nat} (hn : 0 < n) : (decimal n).head? ≠ some '0' := by
  induction n using Nat.strongRecOn with
  | ind n ih =>
    by_cases hsmall : n < 10
    · have hdigits : ∀ m < 10, 0 < m → [Nat.digitChar m].head? ≠ some '0' := by decide
      rw [decimal, Nat.toDigits_of_lt_base hsmall]
      exact hdigits n hsmall hn
    · have hhead := ih (n / 10) (by omega) (by omega)
      rw [decimal, Nat.toDigits_of_base_le (by omega) (by omega),
        List.head?_append_of_ne_nil _ Nat.toDigits_ne_nil]
      exact hhead

end Text

namespace Json

/-- Text that a value can end before: none, or text from a comma or a closing bracket or
brace on. -/
inductive Ends : List Char → Prop
  | nil : Ends []
  | comma (cs : List Char) : Ends (',' :: cs)
  | bracket (cs : List Char) : Ends (']' :: cs)
  | brace (cs : List Char) : Ends ('\x7d' :: cs)

variable {rest : List Char} {fuel : Nat}

/-! ## Numbers -/

/-- The digits of a number are read up to the end of the value. -/
theorem readDigitRun_decimal (n : Nat) (hrest : Ends rest) :
    readDigitRun (Text.decimal n ++ rest) = some (Text.decimal n, rest) := by
  have hdigits : ∀ c ∈ Text.decimal n, c.isDigit = true := fun c => Text.isDigit_of_mem_decimal
  have htake : rest.takeWhile Char.isDigit = [] := by cases hrest <;> rfl
  have hdrop : rest.dropWhile Char.isDigit = rest := by cases hrest <;> rfl
  rw [readDigitRun, List.takeWhile_append_of_pos hdigits, List.dropWhile_append_of_pos hdigits,
    htake, hdrop, List.append_nil]
  obtain ⟨c, cs, hchars, -⟩ := Text.exists_decimal_eq_cons n
  rw [hchars]

/-- The digits of a number have no leading zero that would end it. -/
theorem readWhole_decimal (n : Nat) (hrest : Ends rest) :
    readWhole (Text.decimal n ++ rest) = some (Text.decimal n, rest) := by
  rw [readWhole, readDigitRun_decimal n hrest]
  split
  · next c cs _ hrun =>
    have hdecimal : Text.decimal n = '0' :: c :: cs := congrArg Prod.fst (Option.some.inj hrun)
    rcases Nat.eq_zero_or_pos n with rfl | hn
    · cases hdecimal
    · exact absurd (by rw [hdecimal]; rfl) (Text.head?_decimal_ne_zero hn)
  · rfl

/-- Digits are read as their number, with the sign that stood before them. -/
theorem readMagnitude_decimal (negative : Bool) (n : Nat) (hrest : Ends rest) :
    readMagnitude negative (Text.decimal n ++ rest) =
      some (ofNumeral negative (Text.decimal n) [] [], rest) := by
  have hfraction : readFraction rest = some ([], rest) := by cases hrest <;> rfl
  have hexponent : readExponent rest = some ([], rest) := by cases hrest <;> rfl
  simp [readMagnitude, readWhole_decimal n hrest, hfraction, hexponent]

/-- A text of digits starts with no minus sign. -/
theorem readNumber_decimal (n : Nat) (rest : List Char) :
    readNumber (Text.decimal n ++ rest) = readMagnitude false (Text.decimal n ++ rest) := by
  obtain ⟨c, cs, hchars, hdigit⟩ := Text.exists_decimal_eq_cons n
  rw [hchars, List.cons_append, readNumber]
  intro tail heq
  obtain rfl := (List.cons.inj heq).1
  cases hdigit

/-- A whole number is read as itself. -/
theorem readNumber_signedDecimal (n : Int) (hrest : Ends rest) :
    readNumber (Text.signedDecimal n ++ rest) = some (.integer n, rest) := by
  cases n with
  | ofNat n =>
    rw [Text.signedDecimal, readNumber_decimal n rest, readMagnitude_decimal false n hrest]
    simp [ofNumeral, Text.decimal, Nat.ofDigitChars_ten_toDigits]
  | negSucc n =>
    rw [Text.signedDecimal, List.cons_append, readNumber, readMagnitude_decimal true _ hrest]
    simp [ofNumeral, Text.decimal, Nat.ofDigitChars_ten_toDigits, Int.negSucc_eq]

/-! ## Strings -/

/-- Two digits name every control character. -/
theorem readHexNumber_control {n : Nat} (hn : n < 0x20) :
    Text.readHexNumber ['0', '0', Nat.digitChar (n / 16), Nat.digitChar (n % 16)] = some n := by
  have hall : ∀ n < 0x20, Text.readHexNumber
      ['0', '0', Nat.digitChar (n / 16), Nat.digitChar (n % 16)] = some n := by decide
  exact hall n hn

/-- A character is read back from its place in a string, escaped or not. -/
theorem readString_escapeChar (c : Char) (cs : List Char) :
    readString none (escapeChar c ++ cs) = Text.startWith? (some c) (readString none cs) := by
  unfold escapeChar
  -- First the characters that have an escape letter of their own.
  split
  · next h => rcases h with rfl | rfl <;> rfl
  next hquote =>
  split
  · next h => subst h; rfl
  split
  · next h => subst h; rfl
  split
  · next h => subst h; rfl
  split
  · next h => subst h; rfl
  split
  · next h => subst h; rfl
  split
  · next hcontrol =>
    have hsingle : isHighSurrogate c.toNat = false := by
      have hsmall : ¬0xd800 ≤ c.toNat := by omega
      simp [isHighSurrogate, hsmall]
    simp only [List.cons_append, List.nil_append]
    rw [readString]
    simp [readHexNumber_control hcontrol, hsingle, Text.ofCodePoint?_toNat]
  · next hprintable =>
    rw [not_or] at hquote
    rw [List.singleton_append, readString.eq_def]
    simp [hquote, hprintable]

/-- A string is read back after its opening quote. -/
theorem readString_stringChars (cs rest : List Char) :
    readString none (stringChars cs ++ rest) = some (cs, rest) := by
  induction cs with
  | nil =>
    rw [stringChars, readString.eq_def]
    rfl
  | cons c cs ih =>
    have hsplit : stringChars (c :: cs) ++ rest = escapeChar c ++ (stringChars cs ++ rest) := by
      simp [stringChars]
    rw [hsplit, readString_escapeChar, ih]
    rfl

/-! ## Values -/

/-- Text that starts with neither a blank nor a closing bracket, as the text of a value does. -/
inductive Opens : List Char → Prop
  | cons {c : Char} (cs : List Char) (hblank : isBlank c = false) (hbracket : c ≠ ']') :
    Opens (c :: cs)

theorem Opens.append {cs : List Char} (hcs : Opens cs) (rest : List Char) : Opens (cs ++ rest) := by
  cases hcs with
  | cons cs hblank hbracket => exact .cons (cs ++ rest) hblank hbracket

/-- No blanks are skipped at the start of a value. -/
theorem Opens.skipBlanks_eq {cs : List Char} (hcs : Opens cs) : skipBlanks cs = cs := by
  cases hcs with
  | cons cs hblank _ => rw [skipBlanks, List.dropWhile_cons, hblank]; rfl

/-- The characters that a number is written with. -/
def IsNumeric (c : Char) : Prop := c = '-' ∨ c.isDigit = true

/-- The text of a number starts with a digit or with a minus sign. -/
theorem exists_signedDecimal_eq_cons (n : Int) :
    ∃ c cs, Text.signedDecimal n = c :: cs ∧ IsNumeric c := by
  cases n with
  | ofNat n =>
    obtain ⟨c, cs, hchars, hdigit⟩ := Text.exists_decimal_eq_cons n
    exact ⟨c, cs, hchars, .inr hdigit⟩
  | negSucc n => exact ⟨'-', Text.decimal (n + 1), rfl, .inl rfl⟩

/-- A character that no number is written with differs from one that a number starts with. -/
theorem IsNumeric.ne {c d : Char} (hc : IsNumeric c) (hd : ¬IsNumeric d) : c ≠ d :=
  fun heq => hd (heq ▸ hc)

instance (c : Char) : Decidable (IsNumeric c) :=
  inferInstanceAs (Decidable (c = '-' ∨ c.isDigit = true))

theorem IsNumeric.opens {c : Char} (hc : IsNumeric c) (cs : List Char) : Opens (c :: cs) := by
  have hblank : isBlank c = false := by
    simp [isBlank, hc.ne (d := ' ') (by decide), hc.ne (d := '\n') (by decide),
      hc.ne (d := '\t') (by decide), hc.ne (d := '\r') (by decide)]
  exact .cons cs hblank (hc.ne (by decide))

/-- Text that starts as a number does is read as a number. -/
theorem readValue_numeric {c : Char} (hc : IsNumeric c) (fuel : Nat) (cs : List Char) :
    readValue (fuel + 1) (c :: cs) = readNumber (c :: cs) := by
  rw [readValue]
  -- None of the other tokens starts with such a character.
  all_goals
    intro cs' heq
    obtain rfl := (List.cons.inj heq).1
    revert hc
    decide

/-- The compact text of a value is read back wherever a value can end. -/
structure ReadsBack (j : Json) : Prop where
  opens : Opens (chars j)
  readValue_chars (fuel : Nat) (rest : List Char) (hrest : Ends rest)
    (hfuel : 2 * (chars j).length ≤ fuel) : readValue fuel (chars j ++ rest) = some (j, rest)

theorem readsBack_null : ReadsBack .null where
  opens := .cons _ rfl (by decide)
  readValue_chars fuel rest _ hfuel := by
    have hlength : (chars .null).length = 4 := rfl
    obtain ⟨fuel, rfl⟩ := Nat.exists_eq_add_one.mpr (show 0 < fuel by omega)
    rfl

theorem readsBack_bool (b : Bool) : ReadsBack (.bool b) where
  opens := by cases b <;> exact .cons _ rfl (by decide)
  readValue_chars fuel rest _ hfuel := by
    have hlength : 0 < (chars (.bool b)).length := by cases b <;> decide
    obtain ⟨fuel, rfl⟩ := Nat.exists_eq_add_one.mpr (show 0 < fuel by omega)
    cases b <;> rfl

theorem readsBack_integer (n : Int) : ReadsBack (.integer n) := by
  obtain ⟨c, cs, hchars, hc⟩ := exists_signedDecimal_eq_cons n
  constructor
  · rw [chars, hchars]
    exact hc.opens cs
  · intro fuel rest hrest hfuel
    rw [chars, hchars, List.length_cons] at hfuel
    obtain ⟨fuel, rfl⟩ := Nat.exists_eq_add_one.mpr (show 0 < fuel by omega)
    have hnumber := readNumber_signedDecimal n hrest
    rw [hchars, List.cons_append] at hnumber
    rw [chars, hchars, List.cons_append, readValue_numeric hc, hnumber]

theorem opens_quotedChars (name : String) : Opens (quotedChars name) := .cons _ rfl (by decide)

theorem readsBack_string (s : String) : ReadsBack (.string s) where
  opens := opens_quotedChars s
  readValue_chars fuel rest _ hfuel := by
    rw [chars, quotedChars, List.length_cons] at hfuel
    obtain ⟨fuel, rfl⟩ := Nat.exists_eq_add_one.mpr (show 0 < fuel by omega)
    rw [chars, quotedChars, List.cons_append, readValue, readString_stringChars]
    simp

/-! ### Arrays -/

/-- An item before the closing bracket is the last one. -/
theorem readItems_last {item : Json} {cs : List Char}
    (hitem : readValue fuel cs = some (item, ']' :: rest)) :
    readItems (fuel + 1) cs = some ([item], rest) := by
  rw [readItems, hitem]
  rfl

/-- An item before a comma is put before the items after the comma. -/
theorem readItems_comma {item : Json} {items : List Json} {cs more : List Char}
    (hitem : readValue fuel cs = some (item, ',' :: more)) (hmore : Opens more)
    (hitems : readItems fuel more = some (items, rest)) :
    readItems (fuel + 1) cs = some (item :: items, rest) := by
  have hcomma : skipBlanks (',' :: more) = ',' :: more := rfl
  rw [readItems, hitem]
  simp only [hcomma, hmore.skipBlanks_eq, hitems]

/-- The items of an array are read back when each of them is. -/
theorem readItems_chars {item : Json} {items : List Json}
    (hall : ∀ i ∈ item :: items, ReadsBack i)
    (hfuel : 2 * (chars item ++ moreItems items).length ≤ fuel) (rest : List Char) :
    readItems fuel (chars item ++ moreItems items ++ rest) = some (item :: items, rest) := by
  have hitem : ReadsBack item := hall item List.mem_cons_self
  induction items generalizing item fuel with
  | nil =>
    rw [moreItems, List.length_append, List.length_singleton] at hfuel
    obtain ⟨fuel, rfl⟩ := Nat.exists_eq_add_one.mpr (show 0 < fuel by omega)
    rw [moreItems, List.append_assoc, List.singleton_append]
    exact readItems_last (hitem.readValue_chars fuel _ (.bracket rest) (by omega))
  | cons next items ih =>
    rw [moreItems, List.length_append, List.cons_append, List.length_cons] at hfuel
    obtain ⟨fuel, rfl⟩ := Nat.exists_eq_add_one.mpr (show 0 < fuel by omega)
    have hnext : ReadsBack next := hall next (by simp)
    have hmore : readItems fuel (chars next ++ moreItems items ++ rest) =
        some (next :: items, rest) :=
      ih (fun i hi => hall i (List.mem_cons_of_mem item hi)) (by omega) hnext
    rw [moreItems, List.append_assoc, List.cons_append]
    exact readItems_comma (hitem.readValue_chars fuel _ (.comma _) (by omega))
      ((hnext.opens.append _).append _) hmore

/-- Items up to the closing bracket are read as an array. -/
theorem readValue_array {items : List Json} {cs : List Char} (hcs : Opens cs)
    (hitems : readItems fuel cs = some (items, rest)) :
    readValue (fuel + 1) ('[' :: cs) = some (.array items, rest) := by
  rw [readValue]
  simp only [hcs.skipBlanks_eq]
  cases hcs with
  | cons cs _ hbracket => simp [hbracket, hitems]

theorem readsBack_array {items : List Json} (hall : ∀ item ∈ items, ReadsBack item) :
    ReadsBack (.array items) := by
  cases items with
  | nil =>
    refine ⟨.cons _ rfl (by decide), fun fuel rest _ hfuel => ?_⟩
    rw [chars, List.length_cons] at hfuel
    obtain ⟨fuel, rfl⟩ := Nat.exists_eq_add_one.mpr (show 0 < fuel by omega)
    rfl
  | cons item items =>
    refine ⟨.cons _ rfl (by decide), fun fuel rest _ hfuel => ?_⟩
    rw [chars, List.cons_append, List.length_cons] at hfuel
    obtain ⟨fuel, rfl⟩ := Nat.exists_eq_add_one.mpr (show 0 < fuel by omega)
    have hopens : Opens (chars item) := (hall item List.mem_cons_self).opens
    rw [chars, List.cons_append, List.cons_append]
    exact readValue_array ((hopens.append _).append _) (readItems_chars hall (by omega) rest)

/-! ### Objects -/

/-- A field before the closing brace is the last one. -/
theorem readFields_last {name : String} {value : Json} {cs : List Char} (hcs : Opens cs)
    (hvalue : readValue fuel cs = some (value, '\x7d' :: rest)) :
    readFields (fuel + 1) (quotedChars name ++ ':' :: cs) = some ([(name, value)], rest) := by
  have hcolon : skipBlanks (':' :: cs) = ':' :: cs := rfl
  have hbrace : skipBlanks ('\x7d' :: rest) = '\x7d' :: rest := rfl
  rw [quotedChars, List.cons_append, readFields, readString_stringChars]
  simp only [hcolon, hbrace, hcs.skipBlanks_eq, hvalue, String.ofList_toList]

/-- A field before a comma is put before the fields after the comma. -/
theorem readFields_comma {name : String} {value : Json} {fields : List (String × Json)}
    {cs more : List Char} (hcs : Opens cs)
    (hvalue : readValue fuel cs = some (value, ',' :: more)) (hmore : Opens more)
    (hfields : readFields fuel more = some (fields, rest)) :
    readFields (fuel + 1) (quotedChars name ++ ':' :: cs) =
      some ((name, value) :: fields, rest) := by
  have hcolon : skipBlanks (':' :: cs) = ':' :: cs := rfl
  have hcomma : skipBlanks (',' :: more) = ',' :: more := rfl
  rw [quotedChars, List.cons_append, readFields, readString_stringChars]
  simp only [hcolon, hcomma, hcs.skipBlanks_eq, hmore.skipBlanks_eq, hvalue, hfields,
    String.ofList_toList]

/-- The fields of an object are read back when each of their values is. -/
theorem readFields_chars {name : String} {value : Json} {fields : List (String × Json)}
    (hall : ∀ f ∈ (name, value) :: fields, ReadsBack f.2)
    (hfuel : 2 * (quotedChars name ++ ':' :: chars value ++ moreFields fields).length ≤ fuel)
    (rest : List Char) :
    readFields fuel (quotedChars name ++ ':' :: chars value ++ moreFields fields ++ rest) =
      some ((name, value) :: fields, rest) := by
  have hvalue : ReadsBack value := hall (name, value) List.mem_cons_self
  induction fields generalizing name value fuel with
  | nil =>
    rw [moreFields, List.length_append, List.length_append, List.length_cons,
      List.length_singleton] at hfuel
    obtain ⟨fuel, rfl⟩ := Nat.exists_eq_add_one.mpr (show 0 < fuel by omega)
    rw [moreFields, List.append_assoc, List.append_assoc, List.cons_append, List.singleton_append]
    exact readFields_last (hvalue.opens.append _)
      (hvalue.readValue_chars fuel _ (.brace rest) (by omega))
  | cons next fields ih =>
    obtain ⟨nextName, nextValue⟩ := next
    rw [moreFields, List.length_append, List.length_append, List.length_cons, List.cons_append,
      List.cons_append, List.length_cons] at hfuel
    obtain ⟨fuel, rfl⟩ := Nat.exists_eq_add_one.mpr (show 0 < fuel by omega)
    have hmore : readFields fuel
        (quotedChars nextName ++ ':' :: chars nextValue ++ moreFields fields ++ rest) =
          some ((nextName, nextValue) :: fields, rest) :=
      ih (fun f hf => hall f (List.mem_cons_of_mem _ hf)) (by omega)
        (hall (nextName, nextValue) (by simp))
    rw [moreFields, List.append_assoc, List.append_assoc, List.cons_append]
    exact readFields_comma (hvalue.opens.append _)
      (hvalue.readValue_chars fuel _ (.comma _) (by omega))
      ((((opens_quotedChars nextName).append _).append _).append _) hmore

/-- Fields up to the closing brace are read as an object. -/
theorem readValue_object {name : String} {fields : List (String × Json)} {cs : List Char}
    (hfields : readFields fuel (quotedChars name ++ cs) = some (fields, rest)) :
    readValue (fuel + 1) ('\x7b' :: (quotedChars name ++ cs)) = some (.object fields, rest) := by
  have hskip := ((opens_quotedChars name).append cs).skipBlanks_eq
  rw [readValue]
  rw [quotedChars, List.cons_append] at hfields hskip ⊢
  simp [hskip, hfields]

theorem readsBack_object {fields : List (String × Json)}
    (hall : ∀ field ∈ fields, ReadsBack field.2) : ReadsBack (.object fields) := by
  rcases fields with _ | ⟨⟨name, value⟩, fields⟩
  · refine ⟨.cons _ rfl (by decide), fun fuel rest _ hfuel => ?_⟩
    rw [chars, List.length_cons] at hfuel
    obtain ⟨fuel, rfl⟩ := Nat.exists_eq_add_one.mpr (show 0 < fuel by omega)
    rfl
  · refine ⟨.cons _ rfl (by decide), fun fuel rest _ hfuel => ?_⟩
    rw [chars, List.cons_append, List.cons_append, List.length_cons] at hfuel
    obtain ⟨fuel, rfl⟩ := Nat.exists_eq_add_one.mpr (show 0 < fuel by omega)
    have hlength : 2 * (quotedChars name ++ ':' :: chars value ++ moreFields fields).length ≤
        fuel := by omega
    have hfields := readFields_chars hall hlength rest
    rw [List.append_assoc, List.append_assoc] at hfields
    have hobject := readValue_object hfields
    simpa [chars] using hobject

/-! ### Whole texts -/

/-- A value without numerals, so that each of its numbers is a whole one. -/
inductive IsWhole : Json → Prop
  | null : IsWhole .null
  | bool (b : Bool) : IsWhole (.bool b)
  | integer (n : Int) : IsWhole (.integer n)
  | string (s : String) : IsWhole (.string s)
  | array {items : List Json} (hitems : ∀ item ∈ items, IsWhole item) : IsWhole (.array items)
  | object {fields : List (String × Json)} (hfields : ∀ field ∈ fields, IsWhole field.2) :
    IsWhole (.object fields)

theorem IsWhole.readsBack {j : Json} (hj : IsWhole j) : ReadsBack j := by
  induction hj with
  | null => exact readsBack_null
  | bool b => exact readsBack_bool b
  | integer n => exact readsBack_integer n
  | string s => exact readsBack_string s
  | array _ ih => exact readsBack_array ih
  | object _ ih => exact readsBack_object ih

/-- The text of a value without numerals denotes this value. -/
theorem ofText?_text {j : Json} (hj : IsWhole j) : ofText? j.text = some j := by
  have hback := hj.readsBack
  have hread := hback.readValue_chars (2 * (chars j).length + 1) [] .nil (by omega)
  rw [List.append_nil] at hread
  rw [ofText?, text, String.toList_ofList, ofChars?, hback.opens.skipBlanks_eq, hread]
  rfl

/-- A text form of values that reads back each value without numerals. -/
structure Codec where
  write : Json → String
  read? : String → Option Json
  read?_write {j : Json} (hj : IsWhole j) : read? (write j) = some j

/-- The compact text form. -/
def Codec.compact : Codec := ⟨text, ofText?, ofText?_text⟩

theorem Codec.compact_write : Codec.compact.write = text := rfl

theorem Codec.compact_read? : Codec.compact.read? = ofText? := rfl

end Json

end SnmpSet
