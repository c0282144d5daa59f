import SnmpSet.Proofs.Oid.Index
import SnmpSet.Word

/-!
# What is read at a position

An octet string is read at a position just where its component stands. Elsewhere either the
component runs past the end, or it has a sub-identifier above 255, and then the first such
sub-identifier is reported. Machine words are wide enough for all of this: no sum of positions
overflows and no part is taken past the end, so that nothing halts the agent.
-/

namespace SnmpSet

namespace Word

/-- Two words have a sum if it fits. -/
theorem exists_add? {m n : UInt64} (hfits : m.toNat + n.toNat < UInt64.size) :
    ∃ k, add? m n = some k ∧ k.toNat = m.toNat + n.toNat := by
  cases hsum : add? m n with
  | none => exact absurd (uint64?_eq_none_iff.mp hsum) (by omega)
  | some k => exact ⟨k, rfl, uint64?_eq_some_iff.mp hsum⟩

/-- A sum past a limit is none that the limit allows, whether it fits or not. -/
theorem filter_add?_of_lt {m n : UInt64} {limit : Nat} (hpast : limit < m.toNat + n.toNat) :
    (add? m n).filter (fun k => k.toNat ≤ limit) = none := by
  rw [Option.filter_eq_none_iff]
  intro k hk
  have hsum : k.toNat = m.toNat + n.toNat := uint64?_eq_some_iff.mp hk
  rw [decide_eq_true_iff]
  omega

end Word

namespace Oid

variable {o : Oid} {octets : List UInt8} {position : Nat} {subId : UInt32}
  {subIds : List UInt32} {defect : OidDefect}

/-! ## Octets -/

/-- The sub-identifiers up to 255 stand for octets. -/
theorem exists_readOctet_eq_ok_iff : (∃ b, readOctet subId = .ok b) ↔ ¬255 < subId.toNat := by
  unfold readOctet
  split
  · next hoctet => exact iff_of_true ⟨subId.toUInt8, rfl⟩ (by omega)
  · next hlarge =>
    refine iff_of_false ?_ (by omega)
    rintro ⟨b, hb⟩
    cases hb

/-- The sub-identifiers above 255 are reported. -/
theorem readOctet_eq_error_iff :
    readOctet subId = .error defect ↔ 255 < subId.toNat ∧ defect = .notOctet subId := by
  unfold readOctet
  split
  · next hoctet =>
    have hsmall : ¬255 < subId.toNat := by omega
    simp [hsmall]
  · next hlarge =>
    have hlarge' : 255 < subId.toNat := by omega
    simp [hlarge', eq_comm]

/-- The first sub-identifier above 255 is reported. -/
theorem mapM_readOctet_eq_error_iff :
    subIds.mapM readOctet = .error defect ↔
      ∃ subId, subIds.find? (fun s => 255 < s.toNat) = some subId ∧ defect = .notOctet subId := by
  simp only [mapM_eq_error_iff, exists_readOctet_eq_ok_iff, readOctet_eq_error_iff,
    List.find?_eq_some_iff_append]
  constructor
  · rintro ⟨before, subId, after, hsplit, hbefore, hlarge, hdefect⟩
    exact ⟨subId, ⟨by simpa using hlarge, before, after, hsplit, by simpa using hbefore⟩, hdefect⟩
  · rintro ⟨subId, ⟨hlarge, before, after, hsplit, hbefore⟩, hdefect⟩
    exact ⟨before, subId, after, hsplit, by simpa using hbefore, by simpa using hlarge, hdefect⟩

/-! ## One position -/

/-- There is nothing at a position, or the length that is announced there runs past the end. -/
def CutShortAt (o : Oid) (position : Nat) : Prop :=
  o.length ≤ position ∨
    ∃ announced, o.subIds[position]? = some announced ∧ o.length < position + 1 + announced.toNat

/-- The sub-identifiers behind a position, as many as are announced there. -/
def announcedAt (o : Oid) (position : Nat) : List UInt32 :=
  match o.subIds[position]? with
  | none => []
  | some announced => (o.subIds.drop (position + 1)).take announced.toNat

/-- A component that is cut short is reported with its position. -/
theorem octetsAt_of_cutShortAt (hcut : o.CutShortAt position) :
    o.octetsAt position = .error (.cutShort position) := by
  rcases hcut with hpast | ⟨announced, hannounced, hlong⟩
  · rw [octetsAt, List.getElem?_eq_none hpast]
  · rw [octetsAt_of_getElem? hannounced, if_neg (Nat.not_le.mpr hlong)]

/-- A component that is not cut short is read octet by octet. -/
theorem exists_octetsAt_of_not_cutShortAt (hwhole : ¬o.CutShortAt position) :
    ∃ stop, o.octetsAt position = ((o.announcedAt position).mapM readOctet).map (·, stop) := by
  cases hannounced : o.subIds[position]? with
  | none => exact absurd (.inl (List.getElem?_eq_none_iff.mp hannounced)) hwhole
  | some announced =>
    have hfits : position + 1 + announced.toNat ≤ o.length :=
      Nat.not_lt.mp fun hlong => hwhole (.inr ⟨announced, hannounced, hlong⟩)
    refine ⟨position + 1 + announced.toNat, ?_⟩
    rw [octetsAt_of_getElem? hannounced, if_pos hfits, announcedAt, hannounced]

/-- What is reported of a position is that the component there is cut short, or its first
sub-identifier above 255. -/
theorem octetsAt_eq_error_iff :
    o.octetsAt position = .error defect ↔
      o.CutShortAt position ∧ defect = .cutShort position ∨
        ¬o.CutShortAt position ∧
          ∃ subId, (o.announcedAt position).find? (fun s => 255 < s.toNat) = some subId ∧
            defect = .notOctet subId := by
  by_cases hcut : o.CutShortAt position
  · rw [octetsAt_of_cutShortAt hcut]
    simp [hcut, eq_comm]
  · obtain ⟨stop, hread⟩ := exists_octetsAt_of_not_cutShortAt hcut
    rw [hread, ← mapM_readOctet_eq_error_iff]
    cases (o.announcedAt position).mapM readOctet <;> simp [Except.map, hcut]

/-- A component stands at a position just if it extends what is before the position to what is
before its end. -/
theorem exists_component_iff :
    (∃ front rest, front.length = position ∧
        o.subIds = front ++ (octetComponent octets ++ rest)) ↔
      (⟨o.subIds.take (position + 1 + octets.length)⟩ : Oid) =
        appendOctets ⟨o.subIds.take position⟩ octets false := by
  constructor
  · rintro ⟨front, rest, rfl, hsubIds⟩
    have hstop : (front ++ octetComponent octets).length = front.length + 1 + octets.length := by
      rw [List.length_append, length_octetComponent]
      omega
    apply Oid.ext
    rw [appendOctets, hsubIds, List.take_left, ← List.append_assoc, List.take_left' hstop]
    rfl
  · intro hextends
    have htake : o.subIds.take (position + 1 + octets.length) =
        o.subIds.take position ++ octetComponent octets := congrArg subIds hextends
    have hlength := congrArg List.length htake
    simp only [List.length_append, List.length_take, length_octetComponent] at hlength
    refine ⟨o.subIds.take position, o.subIds.drop (position + 1 + octets.length),
      List.length_take_of_le (by omega), ?_⟩
    rw [← List.append_assoc, ← htake, List.take_append_drop]

/-! ## Machine words -/

/-- The sub-identifiers from one position up to another, if the positions are in order and the
second is not past the end. -/
def slice? (o : Oid) (start stop : UInt64) : Option (List UInt32) :=
  if start ≤ stop ∧ stop.toNat ≤ o.length then
    some ((o.subIds.drop start.toNat).take (stop.toNat - start.toNat))
  else none

/-- As many sub-identifiers as the positions are apart are taken from inside an identifier. -/
theorem slice?_of_le {start stop : UInt64} {count : Nat}
    (hcount : stop.toNat = start.toNat + count) (hinside : stop.toNat ≤ o.length) :
    o.slice? start stop = some ((o.subIds.drop start.toNat).take count) := by
  have hordered : start ≤ stop := UInt64.le_iff_toNat_le.mpr (by omega)
  rw [slice?, if_pos ⟨hordered, hinside⟩, hcount, Nat.add_sub_cancel_left]

/-- What is read at a position if positions are machine words. There is no outcome where this would
halt the agent, which it does if the first sum is no word or the octets are not there to be taken.
A second sum that is no word is past the end. -/
def octetsAtInWords? (o : Oid) (position : UInt64) :
    Option (Except OidDefect (List UInt8 × UInt64)) :=
  match o.subIds[position.toNat]? with
  | none => some (.error (.cutShort position.toNat))
  | some announced =>
    (Word.add? position 1).bind fun start =>
      match (Word.add? start announced.toUInt64).filter fun stop => stop.toNat ≤ o.length with
      | none => some (.error (.cutShort position.toNat))
      | some stop =>
        (o.slice? start stop).map fun part => (part.mapM readOctet).map (·, stop)

/-- On machine words the same is read, and nothing halts the agent. -/
theorem exists_octetsAtInWords? (hlength : o.length < UInt64.size) (position : UInt64) :
    ∃ r, o.octetsAtInWords? position = some r ∧
      r.map (Prod.map id UInt64.toNat) = o.octetsAt position.toNat := by
  cases hannounced : o.subIds[position.toNat]? with
  | none =>
    refine ⟨.error (.cutShort position.toNat), ?_, ?_⟩
    · rw [octetsAtInWords?, hannounced]
    · rw [octetsAt, hannounced]
      rfl
  | some announced =>
    have hinside : position.toNat < o.length := (List.getElem?_eq_some_iff.mp hannounced).1
    have hnext : position.toNat + 1 < UInt64.size := by omega
    obtain ⟨start, hadd, hsum⟩ := Word.exists_add? (m := position) (n := 1) hnext
    have hstart : start.toNat = position.toNat + 1 := hsum
    have hwide : announced.toUInt64.toNat = announced.toNat := UInt32.toNat_toUInt64 announced
    rw [octetsAtInWords?, hannounced, octetsAt_of_getElem? hannounced, ← hstart]
    simp only [hadd, Option.bind_some]
    by_cases hfits : start.toNat + announced.toNat ≤ o.length
    · obtain ⟨stop, hadd', hstop⟩ :=
        Word.exists_add? (m := start) (n := announced.toUInt64) (by omega)
      rw [hwide] at hstop
      have hinside' : stop.toNat ≤ o.length := hstop ▸ hfits
      simp only [hadd', Option.filter_some, hinside', decide_true, if_true,
        slice?_of_le hstop hinside', Option.map_some, if_pos hfits]
      refine ⟨_, rfl, ?_⟩
      cases ((o.subIds.drop start.toNat).take announced.toNat).mapM readOctet with
      | error defect => rfl
      | ok octets => simp only [Except.map, Prod.map, id, hstop]
    · rw [Word.filter_add?_of_lt (by omega), if_neg hfits]
      exact ⟨_, rfl, rfl⟩

/-- What comes of reading an identifier at a position, told by what stands there. -/
structure ReadsComponents (o : Oid) : Prop where
  /-- Octets are read where the identifier goes on from the position to their end as it would if
  their component were appended. -/
  ok_iff : ∀ position octets stop, o.octetsAt position = .ok (octets, stop) ↔
    octets.length < 2 ^ 32 ∧ stop = position + 1 + octets.length ∧
      (⟨o.subIds.take stop⟩ : Oid) = appendOctets ⟨o.subIds.take position⟩ octets false
  /-- A component is cut short if it would run past the end. -/
  cutShort_iff : ∀ position position', o.octetsAt position = .error (.cutShort position') ↔
    o.CutShortAt position ∧ position' = position
  /-- Of the sub-identifiers of a component the first above 255 is reported. -/
  notOctet_iff : ∀ position subId, o.octetsAt position = .error (.notOctet subId) ↔
    ¬o.CutShortAt position ∧
      (o.announcedAt position).find? (fun s => 255 < s.toNat) = some subId
  /-- Nothing else is reported. -/
  error_cases : ∀ position defect, o.octetsAt position = .error defect →
    defect = .cutShort position ∨ ∃ subId, defect = .notOctet subId
  /-- Nothing halts the agent, if the length is a machine word. -/
  inWords : o.length < 2 ^ 64 → ∀ position : UInt64, ∃ r, o.octetsAtInWords? position = some r ∧
    r.map (Prod.map id UInt64.toNat) = o.octetsAt position.toNat

/-- An identifier is read at a position as an octet string just where it goes on with the
component of this octet string, at all other positions there is one defect that is reported, and
on machine words this is done without a halt. -/
theorem octetsAt_reads_components (o : Oid) : o.ReadsComponents where
  ok_iff position octets stop := by
    rw [octetsAt_eq_ok_iff]
    refine and_congr_right fun _ => and_congr_right fun hstop => ?_
    rw [hstop, exists_component_iff]
  cutShort_iff position position' := by
    rw [octetsAt_eq_error_iff]
    simp
  notOctet_iff position subId := by
    rw [octetsAt_eq_error_iff]
    simp
  error_cases position defect hdefect := by
    rcases octetsAt_eq_error_iff.mp hdefect with ⟨-, hcut⟩ | ⟨-, subId, -, hlarge⟩
    · exact .inl hcut
    · exact .inr ⟨subId, hlarge⟩
  inWords hlength position := exists_octetsAtInWords? hlength position

/-- Two octets, then two sub-identifiers that are too large for octets, then the largest length
that can be announced. -/
def faultyIndex : Oid := ⟨[2, 5, 200, 2, 300, 400, 4294967295, 7]⟩

/-- The two octets are read, the first of the large sub-identifiers is reported, and the largest
length is cut short. At the largest position nothing halts the agent. -/
theorem faultyIndex_read :
    faultyIndex.octetsAt 0 = .ok ([5, 200], 3) ∧
    faultyIndex.octetsAt 3 = .error (.notOctet 300) ∧
    faultyIndex.octetsAt 6 = .error (.cutShort 6) ∧
    ∃ r, faultyIndex.octetsAtInWords? 18446744073709551615 = some r ∧
      r.map (Prod.map id UInt64.toNat) = .error (.cutShort 18446744073709551615) := by
  have hreads := octetsAt_reads_components faultyIndex
  have hwhole : ¬faultyIndex.CutShortAt 3 := by
    rintro (hpast | ⟨announced, hannounced, hlong⟩)
    · exact absurd hpast (by decide)
    · obtain rfl : 2 = announced := Option.some.inj hannounced
      exact absurd hlong (by decide)
  have hcut : faultyIndex.CutShortAt 6 := .inr ⟨4294967295, rfl, by decide⟩
  have hpast : faultyIndex.CutShortAt 18446744073709551615 := .inl (by decide)
  obtain ⟨r, hr, hsame⟩ := hreads.inWords (by decide) 18446744073709551615
  refine ⟨(hreads.ok_iff 0 _ _).mpr ⟨by decide, rfl, rfl⟩,
    (hreads.notOctet_iff 3 300).mpr ⟨hwhole, rfl⟩, (hreads.cutShort_iff 6 6).mpr ⟨hcut, rfl⟩,
    r, hr, ?_⟩
  rw [hsame]
  exact (hreads.cutShort_iff _ _).mpr ⟨hpast, rfl⟩

end Oid

end SnmpSet
