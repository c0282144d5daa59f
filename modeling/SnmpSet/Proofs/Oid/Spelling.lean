import Mathlib.Data.List.Induction
import SnmpSet.Proofs.Oid.Dotted
import SnmpSet.Proofs.Traversal

/-!
# The spellings of an object identifier

A text consists of segments joined by single dots, behind at most one leading dot. It
spells an identifier if each segment spells a sub-identifier: a decimal numeral of at most
32 bits, which may follow one plus sign. Of a text that spells none, the leftmost segment
that spells no sub-identifier is reported. Where no plus sign is met before that, the
numerals alone decide.
-/

namespace SnmpSet

namespace Text

/-- ASCII digits, most significant first, and the number they denote. -/
inductive Numeral : List Char → Nat → Prop
  | digit {c : Char} (hdigit : c.isDigit = true) : Numeral [c] (c.toNat - '0'.toNat)
  | snoc {digits : List Char} {n : Nat} {c : Char} (hdigits : Numeral digits n)
      (hdigit : c.isDigit = true) : Numeral (digits ++ [c]) (10 * n + (c.toNat - '0'.toNat))

variable {cs digits : List Char} {n : Nat}

namespace Numeral

theorem ne_nil (hnumeral : Numeral cs n) : cs ≠ [] := by
  cases hnumeral <;> simp

theorem isDigit_of_mem (hnumeral : Numeral cs n) : ∀ c ∈ cs, c.isDigit = true := by
  induction hnumeral with
  | digit hdigit => simpa using hdigit
  | snoc _ hdigit ih =>
    intro c hc
    rcases List.mem_append.mp hc with hc | hc
    · exact ih c hc
    · obtain rfl := List.mem_singleton.mp hc
      exact hdigit

/-- The number of a numeral is read off its digits. -/
theorem ofDigitChars_eq (hnumeral : Numeral cs n) : Nat.ofDigitChars 10 cs 0 = n := by
  induction hnumeral with
  | digit _ => simp [Nat.ofDigitChars_cons]
  | snoc _ _ ih => simp [Nat.ofDigitChars_append, ih, Nat.ofDigitChars_cons]

/-- Digits are a numeral, if there are any. -/
theorem of_isDigit (hne : cs ≠ []) (hdigits : ∀ c ∈ cs, c.isDigit = true) :
    Numeral cs (Nat.ofDigitChars 10 cs 0) := by
  induction cs using List.reverseRecOn with
  | nil => exact absurd rfl hne
  | append_singleton cs c ih =>
    have hdigit : c.isDigit = true := hdigits c (by simp)
    by_cases hcs : cs = []
    · subst hcs
      simpa [Nat.ofDigitChars_cons] using Numeral.digit hdigit
    · have hprefix := ih hcs fun c hc => hdigits c (by simp [hc])
      simpa [Nat.ofDigitChars_append, Nat.ofDigitChars_cons] using hprefix.snoc hdigit

/-- No numeral starts with a plus sign. -/
theorem plus_cons (n : Nat) : ¬Numeral ('+' :: cs) n := by
  intro hnumeral
  have hdigit := hnumeral.isDigit_of_mem '+' List.mem_cons_self
  cases hdigit

end Numeral

/-- The texts that are read as digits are the numerals. -/
theorem readDigits_eq_some_iff : readDigits cs = some n ↔ Numeral cs n := by
  rw [readDigits]
  constructor
  · intro hread
    split at hread
    · next hdigits =>
      obtain rfl := Option.some.inj hread
      exact .of_isDigit hdigits.1 (List.all_eq_true.mp hdigits.2)
    · cases hread
  · intro hnumeral
    rw [if_pos ⟨hnumeral.ne_nil, List.all_eq_true.mpr hnumeral.isDigit_of_mem⟩,
      hnumeral.ofDigitChars_eq]

/-- The texts that are read as unsigned numbers are the numerals, and the numerals behind
one plus sign. -/
theorem readUnsigned_eq_some_iff :
    readUnsigned cs = some n ↔ Numeral cs n ∨ ∃ digits, cs = '+' :: digits ∧ Numeral digits n := by
  by_cases hplus : ∃ digits, cs = '+' :: digits
  · obtain ⟨digits, rfl⟩ := hplus
    simp [readUnsigned, readDigits_eq_some_iff, Numeral.plus_cons]
  · rw [readUnsigned, readDigits_eq_some_iff]
    · have hunsigned : ¬∃ digits, cs = '+' :: digits ∧ Numeral digits n := by
        rintro ⟨digits, hcs, -⟩
        exact hplus ⟨digits, hcs⟩
      simp [hunsigned]
    · exact fun digits hcs => hplus ⟨digits, hcs⟩

end Text

namespace Oid

open Text

variable {text segment : List Char} {segments before rest : List (List Char)}
  {subId : UInt32} {subIds : List UInt32} {o : Oid} {defect : OidDefect}

/-! ## Segments -/

/-- A segment is a numeral of a sub-identifier. -/
def SpellsPlainly (segment : List Char) (subId : UInt32) : Prop := Numeral segment subId.toNat

/-- A segment is a numeral of a sub-identifier, which may follow one plus sign. -/
def Spells (segment : List Char) (subId : UInt32) : Prop :=
  SpellsPlainly segment subId ∨ ∃ digits, segment = '+' :: digits ∧ SpellsPlainly digits subId

/-- What is reported of a segment that spells no sub-identifier. -/
def segmentDefect (segment : List Char) : OidDefect :=
  if segment = [] then .emptySegment else .badSegment segment

theorem SpellsPlainly.spells (hspells : SpellsPlainly segment subId) : Spells segment subId :=
  .inl hspells

theorem Spells.ne_nil (hspells : Spells segment subId) : segment ≠ [] := by
  rcases hspells with hplain | ⟨digits, rfl, -⟩
  · exact hplain.ne_nil
  · simp

/-- A segment that is a numeral spells nothing but its number. -/
theorem Spells.plainly (hspells : Spells segment subId)
    (hplain : ∃ subId', SpellsPlainly segment subId') : SpellsPlainly segment subId := by
  rcases hspells with hspells | ⟨digits, rfl, -⟩
  · exact hspells
  · obtain ⟨subId', hplain⟩ := hplain
    exact absurd hplain (Numeral.plus_cons _)

/-- The segments that are read are those that spell a sub-identifier. -/
theorem readSubId_eq_ok_iff : readSubId segment = .ok subId ↔ Spells segment subId := by
  have hword : ∀ n, n < UInt32.size → (UInt32.ofNat n = subId ↔ n = subId.toNat) := by
    intro n hn
    rw [← UInt32.toNat_inj, UInt32.toNat_ofNat_of_lt' hn]
  have hspells : Spells segment subId ↔ readUnsigned segment = some subId.toNat :=
    readUnsigned_eq_some_iff.symm
  rw [hspells, readSubId]
  split
  · next hempty => simp [hempty, readUnsigned, readDigits]
  · cases hread : readUnsigned segment with
    | none => simp
    | some n =>
      by_cases hn : n < UInt32.size
      · simp [hn, hword n hn]
      · have hlarge : n ≠ subId.toNat := fun heq => hn (heq ▸ subId.toNat_lt)
        simp [hn, hlarge]

/-- The segments that are refused are those that spell no sub-identifier. -/
theorem readSubId_eq_error_iff :
    readSubId segment = .error defect ↔
      (∀ subId, ¬Spells segment subId) ∧ defect = segmentDefect segment := by
  have hreported : ∀ {defect}, readSubId segment = .error defect →
      defect = segmentDefect segment := by
    intro defect hread
    unfold readSubId at hread
    unfold segmentDefect
    split at hread
    · next hempty => rw [if_pos hempty, Except.error.inj hread]
    · next hne =>
      rw [if_neg hne]
      split at hread
      · split at hread
        · cases hread
        · exact (Except.error.inj hread).symm
      · exact (Except.error.inj hread).symm
  constructor
  · intro hread
    refine ⟨fun subId hspells => ?_, hreported hread⟩
    rw [readSubId_eq_ok_iff.mpr hspells] at hread
    cases hread
  · rintro ⟨hnone, rfl⟩
    cases hread : readSubId segment with
    | ok subId => exact absurd (readSubId_eq_ok_iff.mp hread) (hnone subId)
    | error defect => rw [hreported hread]

/-! ## Texts -/

/-- A text consists of segments joined by single dots, behind at most one leading dot. A
dot at the start of a text does not end a segment. -/
structure Comprises (text : List Char) (segments : List (List Char)) : Prop where
  ne_nil : segments ≠ []
  dot_notMem : ∀ segment ∈ segments, '.' ∉ segment
  text_eq : text = '.' :: List.intercalate ['.'] segments ∨
    text.head? ≠ some '.' ∧ text = List.intercalate ['.'] segments

/-- What comes of reading a text, if these segments spell these sub-identifiers. -/
inductive Reads (spells : List Char → UInt32 → Prop) (text : List Char) :
    Except OidDefect Oid → Prop
  /-- Nothing but perhaps one dot. -/
  | blank (hblank : text = [] ∨ text = ['.']) : Reads spells text (.error .blank)
  /-- Each segment spells a sub-identifier. -/
  | spelled {segments : List (List Char)} {subIds : List UInt32}
      (hsegments : Comprises text segments) (hspells : List.Forall₂ spells segments subIds) :
      Reads spells text (.ok ⟨subIds⟩)
  /-- The leftmost segment that spells no sub-identifier is reported. -/
  | misspelled {before after : List (List Char)} {bad : List Char}
      (hblank : ¬(text = [] ∨ text = ['.'])) (hsegments : Comprises text (before ++ bad :: after))
      (hbefore : ∀ segment ∈ before, ∃ subId, spells segment subId)
      (hbad : ∀ subId, ¬spells bad subId) : Reads spells text (.error (segmentDefect bad))

/-- A text consists of the segments between the dots that follow its leading dot, and of no
others. -/
theorem comprises_iff :
    Comprises text segments ↔ segments = Text.segments '.' (dropLeadingDot text) := by
  constructor
  · rintro ⟨hne, hdot, rfl | ⟨hhead, htext⟩⟩
    · rw [dropLeadingDot, segments_intercalate hne hdot]
    · have hdrop : dropLeadingDot text = text := by
        rw [dropLeadingDot]
        rintro cs rfl
        exact hhead rfl
      rw [hdrop, htext, segments_intercalate hne hdot]
  · rintro rfl
    refine ⟨segments_ne_nil _ _, fun segment => notMem_of_mem_segments, ?_⟩
    rw [intercalate_segments]
    by_cases hhead : text.head? = some '.'
    · left
      obtain ⟨cs, rfl⟩ := List.head?_eq_some_iff.mp hhead
      rfl
    · right
      refine ⟨hhead, ?_⟩
      rw [dropLeadingDot]
      rintro cs rfl
      exact hhead rfl

/-- Nothing is left of a text without its leading dot just if it is blank. -/
theorem dropLeadingDot_eq_nil_iff : dropLeadingDot text = [] ↔ text = [] ∨ text = ['.'] := by
  unfold dropLeadingDot
  split
  · simp
  · next hhead =>
    constructor
    · exact .inl
    · rintro (rfl | rfl)
      · rfl
      · exact absurd rfl (hhead [])

/-- A text that is not blank is read segment by segment. -/
theorem readChars_of_comprises (hblank : ¬(text = [] ∨ text = ['.']))
    (hsegments : Comprises text segments) :
    readChars text = (segments.mapM readSubId).map Oid.mk := by
  rw [comprises_iff.mp hsegments, readChars]
  split
  · next hnil => exact absurd (dropLeadingDot_eq_nil_iff.mp hnil) hblank
  · rfl

/-- A blank text has one empty segment. -/
theorem Comprises.eq_of_blank (hsegments : Comprises text segments)
    (hblank : text = [] ∨ text = ['.']) : segments = [[]] := by
  rw [comprises_iff.mp hsegments, dropLeadingDot_eq_nil_iff.mpr hblank]
  rfl

/-- A blank text is reported as such. -/
theorem readChars_of_blank (hblank : text = [] ∨ text = ['.']) :
    readChars text = .error .blank := by
  rcases hblank with rfl | rfl <;> rfl

/-- What a text is read as is what the spellings of its segments say. -/
theorem reads_readChars (text : List Char) : Reads Spells text (readChars text) := by
  by_cases hblank : text = [] ∨ text = ['.']
  · rw [readChars_of_blank hblank]
    exact .blank hblank
  · have hcomprises : Comprises text (Text.segments '.' (dropLeadingDot text)) :=
      comprises_iff.mpr rfl
    rw [readChars_of_comprises hblank hcomprises]
    cases hread : (Text.segments '.' (dropLeadingDot text)).mapM readSubId with
    | ok subIds =>
      refine .spelled hcomprises ?_
      exact (mapM_eq_ok_iff_forall₂.mp hread).imp fun _ _ => readSubId_eq_ok_iff.mp
    | error defect =>
      obtain ⟨before, bad, after, hsplit, hbefore, hbad⟩ := mapM_eq_error_iff.mp hread
      obtain ⟨hnone, rfl⟩ := readSubId_eq_error_iff.mp hbad
      refine .misspelled hblank (hsplit ▸ hcomprises) (fun segment hsegment => ?_) hnone
      obtain ⟨subId, hsubId⟩ := hbefore segment hsegment
      exact ⟨subId, readSubId_eq_ok_iff.mp hsubId⟩

/-- The spellings of its segments say one thing of a text, and so it is read. -/
theorem Reads.readChars_eq {r : Except OidDefect Oid} (hreads : Reads Spells text r) :
    readChars text = r := by
  cases hreads with
  | blank hblank => exact readChars_of_blank hblank
  | @spelled segments subIds hsegments hspells =>
    have hblank : ¬(text = [] ∨ text = ['.']) := by
      intro hblank
      rw [hsegments.eq_of_blank hblank, List.forall₂_cons_left_iff] at hspells
      obtain ⟨subId, _, hempty, -⟩ := hspells
      exact hempty.ne_nil rfl
    have hread : segments.mapM readSubId = .ok subIds :=
      mapM_eq_ok_iff_forall₂.mpr (hspells.imp fun _ _ => readSubId_eq_ok_iff.mpr)
    rw [readChars_of_comprises hblank hsegments, hread]
    rfl
  | @misspelled before after bad hblank hsegments hbefore hbad =>
    have hread : (before ++ bad :: after).mapM readSubId = .error (segmentDefect bad) := by
      refine mapM_eq_error_iff.mpr ⟨before, bad, after, rfl, fun segment hsegment => ?_, ?_⟩
      · obtain ⟨subId, hsubId⟩ := hbefore segment hsegment
        exact ⟨subId, readSubId_eq_ok_iff.mpr hsubId⟩
      · exact readSubId_eq_error_iff.mpr ⟨hbad, rfl⟩
    rw [readChars_of_comprises hblank hsegments, hread]
    rfl

/-- A text is read as the spellings of its segments say. -/
theorem readChars_eq_iff {r : Except OidDefect Oid} :
    readChars text = r ↔ Reads Spells text r := by
  constructor
  · rintro rfl
    exact reads_readChars text
  · exact Reads.readChars_eq

/-! ## Plus signs -/

/-- The leftmost segment that is no numeral of a sub-identifier is one behind a plus sign. -/
def SignComesFirst (segments : List (List Char)) : Prop :=
  ∃ before digits after, segments = before ++ ('+' :: digits) :: after ∧
    (∀ segment ∈ before, ∃ subId, SpellsPlainly segment subId) ∧
    ∃ subId, SpellsPlainly digits subId

/-- Segments that spell sub-identifiers are numerals up to the first plus sign. -/
theorem exists_spellsPlainly_of_spells
    (hspells : ∀ segment ∈ before, ∃ subId, Spells segment subId)
    (hnoSign : ¬SignComesFirst (before ++ rest)) :
    ∀ segment ∈ before, ∃ subId, SpellsPlainly segment subId := by
  induction before with
  | nil => simp
  | cons first before ih =>
    obtain ⟨⟨subId, hfirst⟩, hbefore⟩ := List.forall_mem_cons.mp hspells
    rcases hfirst with hplain | ⟨digits, rfl, hdigits⟩
    · refine List.forall_mem_cons.mpr ⟨⟨subId, hplain⟩, ih hbefore ?_⟩
      rintro ⟨plain, digits, after, hsplit, hplainly, hdigits⟩
      refine hnoSign ⟨first :: plain, digits, after, ?_, ?_, hdigits⟩
      · rw [List.cons_append, hsplit, List.cons_append]
      · exact List.forall_mem_cons.mpr ⟨⟨subId, hplain⟩, hplainly⟩
    · exact absurd ⟨[], digits, before ++ rest, rfl, by simp, subId, hdigits⟩ hnoSign

/-- A segment that spells a sub-identifier is a numeral, unless its plus sign comes first. -/
theorem spellsPlainly_of_spells {bad : List Char} {after : List (List Char)}
    (hbefore : ∀ segment ∈ before, ∃ subId, SpellsPlainly segment subId)
    (hnoSign : ¬SignComesFirst (before ++ bad :: after)) (hspells : Spells bad subId) :
    SpellsPlainly bad subId := by
  rcases hspells with hplain | ⟨digits, rfl, hdigits⟩
  · exact hplain
  · exact absurd ⟨before, digits, after, rfl, hbefore, subId, hdigits⟩ hnoSign

/-- Where no plus sign comes first, the numerals alone say what the spellings say. -/
theorem Reads.plainly {r : Except OidDefect Oid}
    (hnoSign : ∀ segments, Comprises text segments → ¬SignComesFirst segments)
    (hreads : Reads Spells text r) : Reads SpellsPlainly text r := by
  cases hreads with
  | blank hblank => exact .blank hblank
  | @spelled segments subIds hsegments hspells =>
    have hplain : ∀ segment ∈ segments, ∃ subId, SpellsPlainly segment subId := by
      have hnone : ¬SignComesFirst (segments ++ []) := by
        rw [List.append_nil]
        exact hnoSign segments hsegments
      exact exists_spellsPlainly_of_spells (exists_of_forall₂ hspells) hnone
    refine .spelled hsegments ?_
    exact ((List.forall₂_and_left _ _).mpr ⟨hplain, hspells⟩).imp
      fun _ _ ⟨hplain, hspells⟩ => hspells.plainly hplain
  | misspelled hblank hsegments hbefore hbad =>
    refine .misspelled hblank hsegments ?_ fun subId hplain => hbad subId hplain.spells
    exact exists_spellsPlainly_of_spells hbefore (hnoSign _ hsegments)

/-- Where no plus sign comes first, the spellings say what the numerals alone say. -/
theorem Reads.of_plainly {r : Except OidDefect Oid}
    (hnoSign : ∀ segments, Comprises text segments → ¬SignComesFirst segments)
    (hreads : Reads SpellsPlainly text r) : Reads Spells text r := by
  cases hreads with
  | blank hblank => exact .blank hblank
  | spelled hsegments hspells =>
    exact .spelled hsegments (hspells.imp fun _ _ => SpellsPlainly.spells)
  | misspelled hblank hsegments hbefore hbad =>
    refine .misspelled hblank hsegments (fun segment hsegment => ?_) fun subId hspells => ?_
    · obtain ⟨subId, hplain⟩ := hbefore segment hsegment
      exact ⟨subId, hplain.spells⟩
    · exact hbad subId (spellsPlainly_of_spells hbefore (hnoSign _ hsegments) hspells)

/-- By numerals alone a plus sign that comes first would be reported. -/
theorem reads_plainly_of_signComesFirst (hsegments : Comprises text segments)
    (hsign : SignComesFirst segments) :
    ∃ digits subId, SpellsPlainly digits subId ∧
      Reads SpellsPlainly text (.error (.badSegment ('+' :: digits))) := by
  obtain ⟨before, digits, after, rfl, hbefore, subId, hdigits⟩ := hsign
  refine ⟨digits, subId, hdigits, ?_⟩
  have hblank : ¬(text = [] ∨ text = ['.']) := by
    intro hblank
    have hsingle := hsegments.eq_of_blank hblank
    have hmem : '+' :: digits ∈ [([] : List Char)] := hsingle ▸ by simp
    simp at hmem
  exact .misspelled hblank hsegments hbefore fun _ => Numeral.plus_cons _

/-- A segment that spells a sub-identifier is not reported. -/
theorem not_reads_badSegment (hspells : Spells segment subId) :
    ¬Reads Spells text (.error (.badSegment segment)) := by
  intro hreads
  generalize hr : (Except.error (.badSegment segment) : Except OidDefect Oid) = r at hreads
  cases hreads with
  | blank => cases hr
  | spelled => cases hr
  | @misspelled _ _ bad _ _ _ hbad =>
    have hdefect : OidDefect.badSegment segment = segmentDefect bad := Except.error.inj hr
    unfold segmentDefect at hdefect
    split at hdefect
    · cases hdefect
    · obtain rfl := OidDefect.badSegment.inj hdefect
      exact hbad subId hspells

/-- A string is read as the spellings of its segments say: as an identifier if each segment
is a numeral of a sub-identifier, which may follow one plus sign, as blank if it is empty or
one dot, and as misspelled at its leftmost segment that spells nothing. This is what
numerals alone say too, unless the leftmost segment that is no numeral of a sub-identifier
is one behind a plus sign. -/
theorem ofText_follows_spelling (s : String) :
    (∀ r, ofText s = r ↔ Reads Spells s.toList r) ∧
    ((∀ r, ofText s = r ↔ Reads SpellsPlainly s.toList r) ↔
      ∀ segments, Comprises s.toList segments → ¬SignComesFirst segments) := by
  have hreads : ∀ r, ofText s = r ↔ Reads Spells s.toList r := fun _ => readChars_eq_iff
  refine ⟨hreads, fun hplainly segments hsegments hsign => ?_, fun hnoSign r => ?_⟩
  · obtain ⟨digits, subId, hdigits, hreported⟩ := reads_plainly_of_signComesFirst hsegments hsign
    have hspells : Spells ('+' :: digits) subId := .inr ⟨digits, rfl, hdigits⟩
    exact not_reads_badSegment hspells ((hreads _).mp ((hplainly _).mpr hreported))
  · exact (hreads r).trans ⟨.plainly hnoSign, .of_plainly hnoSign⟩

/-- Not every string is read as numerals alone say: a segment may have a plus sign. -/
theorem not_forall_ofText_plainly :
    ¬∀ (s : String) (r : Except OidDefect Oid),
      ofText s = r ↔ Reads SpellsPlainly s.toList r := by
  intro hall
  have hread : ofText "1.+2" = .ok ⟨[1, 2]⟩ := by decide
  have hspelled := (hall "1.+2" _).mp hread
  cases hspelled with
  | @spelled segments _ hsegments hspells =>
    obtain rfl : segments = [['1'], ['+', '2']] := comprises_iff.mp hsegments
    cases hspells with
    | cons _ hrest =>
      cases hrest with
      | cons hsecond _ => exact Numeral.plus_cons _ hsecond

end Oid

end SnmpSet
