import Mathlib.Algebra.Group.Nat.Defs
import Mathlib.Data.List.Basic
import SnmpSet.Oid.Index
import SnmpSet.Proofs.Traversal

/-!
# Reading back the components of a row index

A component that carries its length says where it ends. So components can be appended one
after another and read back one by one, and an identifier has no more than one such reading
from a position on. An implied component carries no length and is all that follows.
-/

namespace SnmpSet.Oid

variable {o base : Oid} {octets : List UInt8} {parts : List (List UInt8)} {position stop : Nat}

/-! ## One component -/

/-- The sub-identifier of an octet stands for it. -/
theorem readOctet_toUInt32 (b : UInt8) : readOctet b.toUInt32 = .ok b := by
  have hfits : b.toUInt32.toNat < 256 := by
    rw [UInt8.toNat_toUInt32]
    exact b.toNat_lt
  rw [readOctet, if_pos hfits, UInt8.toUInt8_toUInt32]

/-- A sub-identifier that stands for an octet is the one of this octet. -/
theorem eq_toUInt32_of_readOctet {subId : UInt32} {b : UInt8} (hread : readOctet subId = .ok b) :
    subId = b.toUInt32 := by
  unfold readOctet at hread
  split at hread
  · next hfits =>
    obtain rfl := Except.ok.inj hread
    rw [← UInt32.toNat_inj, UInt8.toNat_toUInt32, UInt32.toNat_toUInt8, Nat.mod_eq_of_lt hfits]
  · cases hread

/-- Sub-identifiers stand for octets just if they are the ones of these octets. -/
theorem mapM_readOctet_eq_ok_iff {subIds : List UInt32} :
    subIds.mapM readOctet = .ok octets ↔ subIds = octets.map UInt8.toUInt32 := by
  have hread : ∀ subId b, readOctet subId = .ok b ↔ subId = UInt8.toUInt32 b := fun subId b =>
    ⟨eq_toUInt32_of_readOctet, fun hsubId => hsubId ▸ readOctet_toUInt32 b⟩
  have hsame : List.Forall₂ Eq subIds (octets.map UInt8.toUInt32) ↔
      subIds = octets.map UInt8.toUInt32 := by
    rw [List.forall₂_eq_eq_eq]
  rw [mapM_eq_ok_iff_forall₂, ← hsame, List.forall₂_map_right_iff]
  simp only [hread]

/-- A component has one sub-identifier more than octets. -/
theorem length_octetComponent (octets : List UInt8) :
    (octetComponent octets).length = octets.length + 1 := by
  rw [octetComponent, List.length_cons, List.length_map]

/-- What is read at a position hangs on the length that is announced there. -/
theorem octetsAt_of_getElem? {announced : UInt32}
    (hannounced : o.subIds[position]? = some announced) :
    o.octetsAt position =
      if position + 1 + announced.toNat ≤ o.length then
        (((o.subIds.drop (position + 1)).take announced.toNat).mapM readOctet).map
          (·, position + 1 + announced.toNat)
      else .error (.cutShort position) := by
  rw [octetsAt, hannounced]

/-- A component is read at its position, whatever stands before and after it. -/
theorem octetsAt_append (front rest : List UInt32) (hshort : octets.length < UInt32.size) :
    octetsAt ⟨front ++ (octetComponent octets ++ rest)⟩ front.length =
      .ok (octets, front.length + 1 + octets.length) := by
  have hsome : (front ++ (octetComponent octets ++ rest))[front.length]? =
      some (UInt32.ofNat octets.length) := by
    rw [List.getElem?_append_right (Nat.le_refl _), Nat.sub_self]
    rfl
  have hfits : front.length + 1 + octets.length ≤
      length ⟨front ++ (octetComponent octets ++ rest)⟩ := by
    simp only [length, List.length_append, length_octetComponent]
    omega
  have hcut : ((front ++ (octetComponent octets ++ rest)).drop (front.length + 1)).take
      octets.length = octets.map UInt8.toUInt32 := by
    rw [← List.drop_drop, List.drop_left]
    exact List.take_left' (List.length_map _)
  rw [octetsAt_of_getElem? hsome, UInt32.toNat_ofNat_of_lt' hshort, if_pos hfits, hcut,
    mapM_readOctet_eq_ok_iff.mpr rfl]
  rfl

/-- What is read at a position is a component that stands there. -/
theorem exists_component_of_octetsAt (hread : o.octetsAt position = .ok (octets, stop)) :
    octets.length < UInt32.size ∧ stop = position + 1 + octets.length ∧
      ∃ front rest, front.length = position ∧
        o.subIds = front ++ (octetComponent octets ++ rest) := by
  cases hsome : o.subIds[position]? with
  | none =>
    rw [octetsAt, hsome] at hread
    cases hread
  | some announced =>
    rw [octetsAt_of_getElem? hsome] at hread
    split at hread
    · next hfits =>
      cases hoctets : ((o.subIds.drop (position + 1)).take announced.toNat).mapM readOctet with
      | error e =>
        rw [hoctets] at hread
        cases hread
      | ok read =>
        rw [hoctets] at hread
        obtain ⟨rfl, rfl⟩ := Prod.mk.inj (Except.ok.inj hread)
        have hcut := mapM_readOctet_eq_ok_iff.mp hoctets
        obtain ⟨hlt, hhead⟩ := List.getElem?_eq_some_iff.mp hsome
        have hlength : read.length = announced.toNat := by
          have hcount := congrArg List.length hcut
          rw [List.length_map, List.length_take, List.length_drop] at hcount
          unfold length at hfits
          omega
        have hword : UInt32.ofNat read.length = announced := by
          rw [hlength, UInt32.ofNat_toNat]
        refine ⟨hlength ▸ announced.toNat_lt, by rw [hlength], o.subIds.take position,
          (o.subIds.drop (position + 1)).drop announced.toNat,
          List.length_take_of_le (Nat.le_of_lt hlt), ?_⟩
        calc o.subIds
            = o.subIds.take position ++ o.subIds.drop position :=
              (List.take_append_drop position o.subIds).symm
          _ = o.subIds.take position ++ announced :: o.subIds.drop (position + 1) := by
              rw [List.drop_eq_getElem_cons hlt, hhead]
          _ = o.subIds.take position ++ announced ::
                ((o.subIds.drop (position + 1)).take announced.toNat ++
                  (o.subIds.drop (position + 1)).drop announced.toNat) := by
              rw [List.take_append_drop]
          _ = _ := by rw [hcut, octetComponent, hword, List.cons_append]
    · cases hread

/-- An octet string is read at a position just if its component stands there. -/
theorem octetsAt_eq_ok_iff :
    o.octetsAt position = .ok (octets, stop) ↔
      octets.length < UInt32.size ∧ stop = position + 1 + octets.length ∧
        ∃ front rest, front.length = position ∧
          o.subIds = front ++ (octetComponent octets ++ rest) := by
  refine ⟨exists_component_of_octetsAt, ?_⟩
  rintro ⟨hshort, rfl, front, rest, rfl, hsubIds⟩
  have ho : o = ⟨front ++ (octetComponent octets ++ rest)⟩ := Oid.ext hsubIds
  rw [ho, octetsAt_append front rest hshort]

/-! ## Components one after another -/

/-- The identifier extended by octet strings that carry their lengths. -/
def appendAll (base : Oid) (parts : List (List UInt8)) : Oid :=
  parts.foldl (fun o octets => o.appendOctets octets false) base

/-- The positions just past components that start at a position. -/
def stopsFrom (position : Nat) : List (List UInt8) → List Nat
  | [] => []
  | octets :: parts =>
    (position + 1 + octets.length) :: stopsFrom (position + 1 + octets.length) parts

/-- The components stand behind the identifier in their order. -/
theorem subIds_appendAll (base : Oid) (parts : List (List UInt8)) :
    (base.appendAll parts).subIds = base.subIds ++ parts.flatMap octetComponent := by
  induction parts generalizing base with
  | nil => exact (List.append_nil _).symm
  | cons octets parts ih =>
    have hrest := ih (base.appendOctets octets false)
    rw [List.flatMap_cons, ← List.append_assoc]
    exact hrest

/-- The components follow the identifier. -/
theorem length_appendAll (base : Oid) (parts : List (List UInt8)) :
    (base.appendAll parts).length = base.length + (parts.flatMap octetComponent).length := by
  rw [length, subIds_appendAll, List.length_append]
  rfl

/-- Each component takes a sub-identifier at least. -/
theorem length_le_length_components (parts : List (List UInt8)) :
    parts.length ≤ (parts.flatMap octetComponent).length := by
  induction parts with
  | nil => exact Nat.le_refl _
  | cons octets parts ih =>
    rw [List.flatMap_cons, List.length_append, length_octetComponent, List.length_cons]
    omega

/-- There is one position for each component. -/
theorem length_stopsFrom (position : Nat) (parts : List (List UInt8)) :
    (stopsFrom position parts).length = parts.length := by
  induction parts generalizing position with
  | nil => rfl
  | cons octets parts ih => rw [stopsFrom, List.length_cons, List.length_cons, ih]

/-- The positions past components ascend from where these start. -/
theorem pairwise_stopsFrom (position : Nat) (parts : List (List UInt8)) :
    (position :: stopsFrom position parts).Pairwise (· < ·) := by
  induction parts generalizing position with
  | nil => exact List.pairwise_singleton _ _
  | cons octets parts ih =>
    have hrest := ih (position + 1 + octets.length)
    refine List.pairwise_cons.mpr ⟨fun stop hstop => ?_, hrest⟩
    rcases List.mem_cons.mp hstop with rfl | hstop
    · omega
    · have hlt := (List.pairwise_cons.mp hrest).1 stop hstop
      omega

/-- The last position is the one past all components. -/
theorem getLast?_stopsFrom (position : Nat) (parts : List (List UInt8)) :
    (position :: stopsFrom position parts).getLast? =
      some (position + (parts.flatMap octetComponent).length) := by
  induction parts generalizing position with
  | nil => rfl
  | cons octets parts ih =>
    rw [stopsFrom, List.getLast?_cons_cons, ih, List.flatMap_cons, List.length_append,
      length_octetComponent]
    congr 1
    omega

/-- Reading components one after another reads those that stand at the position, and then
goes on behind them. -/
theorem octetStringsFrom_append (front rest : List UInt32) (fuel : Nat)
    (hshort : ∀ octets ∈ parts, octets.length < UInt32.size)
    (hparts : o.subIds = front ++ (parts.flatMap octetComponent ++ rest)) :
    o.octetStringsFrom (parts.length + fuel) front.length =
      let behind := o.octetStringsFrom fuel (front.length + (parts.flatMap octetComponent).length)
      (parts.zip (stopsFrom front.length parts) ++ behind.1, behind.2) := by
  induction parts generalizing front with
  | nil => simp
  | cons octets parts ih =>
    obtain ⟨hfirst, hothers⟩ := List.forall_mem_cons.mp hshort
    have hnext : (front ++ octetComponent octets).length = front.length + 1 + octets.length := by
      rw [List.length_append, length_octetComponent]
      omega
    have hrest := ih (front ++ octetComponent octets) hothers (by simp [hparts])
    rw [hnext] at hrest
    have hread : o.octetsAt front.length = .ok (octets, front.length + 1 + octets.length) :=
      octetsAt_eq_ok_iff.mpr ⟨hfirst, rfl, front, parts.flatMap octetComponent ++ rest, rfl,
        by simp [hparts]⟩
    have hinside : front.length < o.length := by
      rw [length, hparts, List.length_append, List.flatMap_cons, List.append_assoc,
        List.length_append, length_octetComponent]
      omega
    have hbehind : front.length + ((octets :: parts).flatMap octetComponent).length =
        front.length + 1 + octets.length + (parts.flatMap octetComponent).length := by
      rw [List.flatMap_cons, List.length_append, length_octetComponent]
      omega
    rw [List.length_cons, Nat.add_right_comm, octetStringsFrom, if_pos hinside, hread, hbehind]
    simp only [hrest, stopsFrom, List.zip_cons_cons, List.cons_append]

/-- Nothing is read at the end. -/
theorem octetStringsFrom_of_le (fuel : Nat) (hend : o.length ≤ position) :
    o.octetStringsFrom fuel position = ([], none) := by
  cases fuel with
  | zero => rfl
  | succ fuel => rw [octetStringsFrom, if_neg (Nat.not_lt.mpr hend)]

/-- Components that are appended are all read again, each with the position past it. -/
theorem octetStrings_appendAll (base : Oid)
    (hshort : ∀ octets ∈ parts, octets.length < UInt32.size) :
    (base.appendAll parts).octetStrings base.length =
      (parts.zip (stopsFrom base.length parts), none) := by
  have hsubIds : (base.appendAll parts).subIds =
      base.subIds ++ (parts.flatMap octetComponent ++ []) := by
    rw [subIds_appendAll, List.append_nil]
  have hlength := length_appendAll base parts
  have hcount := length_le_length_components parts
  obtain ⟨fuel, hfuel⟩ : ∃ fuel, (base.appendAll parts).length = parts.length + fuel :=
    Nat.exists_eq_add_of_le (by omega)
  have hread := octetStringsFrom_append base.subIds [] fuel hshort hsubIds
  have hend : (base.appendAll parts).octetStringsFrom fuel
      (base.subIds.length + (parts.flatMap octetComponent).length) = ([], none) :=
    octetStringsFrom_of_le fuel (Nat.le_of_eq hlength)
  simp only [hend, List.append_nil] at hread
  rw [octetStrings, hfuel]
  exact hread

/-- Components that are appended are read again before an implied one that follows them. -/
theorem octetStringsFrom_appendOctets (base : Oid) (last : List UInt8)
    (hshort : ∀ octets ∈ parts, octets.length < UInt32.size) :
    ((base.appendAll parts).appendOctets last true).octetStringsFrom parts.length base.length =
      (parts.zip (stopsFrom base.length parts), none) := by
  have hsubIds : ((base.appendAll parts).appendOctets last true).subIds =
      base.subIds ++ (parts.flatMap octetComponent ++ last.map UInt8.toUInt32) := by
    rw [appendOctets, subIds_appendAll, List.append_assoc]
    rfl
  have hread := octetStringsFrom_append base.subIds _ 0 hshort hsubIds
  simp only [octetStringsFrom, List.append_nil, Nat.add_zero] at hread
  exact hread

/-- Components that are appended to an identifier are read back in their order, at
positions that ascend up to the end. An implied component that follows them has its octets
from there on. So other components behind the same identifier make another identifier. -/
theorem appendAll_reads_back (base : Oid) (hshort : ∀ octets ∈ parts, octets.length < 2 ^ 32) :
    ∃ stops : List Nat,
      (base.appendAll parts).octetStrings base.length = (parts.zip stops, none) ∧
      stops.length = parts.length ∧
      (base.length :: stops).Pairwise (· < ·) ∧
      (base.length :: stops).getLast? = some (base.appendAll parts).length ∧
      (∀ last : List UInt8,
        ((base.appendAll parts).appendOctets last true).octetStringsFrom parts.length
            base.length = (parts.zip stops, none) ∧
        ((base.appendAll parts).appendOctets last true).subIds.drop
            (base.appendAll parts).length = last.map UInt8.toUInt32) ∧
      ∀ parts' : List (List UInt8), (∀ octets ∈ parts', octets.length < 2 ^ 32) →
        base.appendAll parts' = base.appendAll parts → parts' = parts := by
  have hread := octetStrings_appendAll base hshort
  refine ⟨stopsFrom base.length parts, hread, length_stopsFrom _ _, pairwise_stopsFrom _ _, ?_,
    fun last => ⟨octetStringsFrom_appendOctets base last hshort, ?_⟩, ?_⟩
  · rw [getLast?_stopsFrom, length_appendAll]
  · exact List.drop_left
  · intro parts' hshort' heq
    have hread' := octetStrings_appendAll base hshort'
    rw [heq, hread] at hread'
    have hsame := congrArg (fun walk => walk.1.map Prod.fst) hread'
    simp only [List.map_fst_zip (Nat.le_of_eq (length_stopsFrom _ _).symm)] at hsame
    exact hsame.symm

/-- An empty octet string, two octets and one octet behind an identifier. -/
def threeParts : List (List UInt8) := [[], [5, 200], [0]]

/-- The three parts are read back, also before an implied part that looks like a component. -/
theorem threeParts_read_back :
    (∀ octets ∈ threeParts, octets.length < 2 ^ 32) ∧
    (appendAll ⟨[1, 3]⟩ threeParts).subIds = [1, 3, 0, 2, 5, 200, 1, 0] ∧
    (appendAll ⟨[1, 3]⟩ threeParts).octetStrings 2 =
      ([([], 3), ([5, 200], 6), ([0], 8)], none) ∧
    (((appendAll ⟨[1, 3]⟩ threeParts).appendOctets [1, 7] true).subIds.drop 8 = [1, 7]) ∧
    appendAll ⟨[1, 3]⟩ [[], [5, 200, 1, 0]] ≠ appendAll ⟨[1, 3]⟩ threeParts := by
  have hshort : ∀ octets ∈ threeParts, octets.length < 2 ^ 32 := by decide
  obtain ⟨stops, hread, -, -, -, himplied, hunique⟩ := appendAll_reads_back ⟨[1, 3]⟩ hshort
  refine ⟨hshort, rfl, ?_, (himplied [1, 7]).2, fun heq => ?_⟩
  · decide
  · have hsame := hunique [[], [5, 200, 1, 0]] (by decide) heq
    revert hsame
    decide

end SnmpSet.Oid
