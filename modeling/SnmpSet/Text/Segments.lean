/-!
# Splitting text at a separator

Splitting and joining are inverse as long as no piece holds the separator.
-/

namespace SnmpSet.Text

/-- The pieces of a text between occurrences of a separator. -/
def segments (separator : Char) : List Char → List (List Char)
  | [] => [[]]
  | c :: cs =>
    if c = separator then [] :: segments separator cs
    else
      match segments separator cs with
      | [] => [[c]]
      | piece :: pieces => (c :: piece) :: pieces

theorem segments_ne_nil (separator : Char) (cs : List Char) : segments separator cs ≠ [] := by
  cases cs with
  | nil => simp [segments]
  | cons c cs =>
    unfold segments
    split
    · simp
    · split <;> simp

/-- Text without the separator is one piece. -/
theorem segments_eq_singleton {separator : Char} {cs : List Char} (hcs : separator ∉ cs) :
    segments separator cs = [cs] := by
  induction cs with
  | nil => rfl
  | cons c cs ih =>
    have hc : c ≠ separator := fun h => hcs (by simp [h])
    rw [segments, if_neg hc, ih fun h => hcs (by simp [h])]

/-- A piece before a separator is split off whole. -/
theorem segments_append_cons {separator : Char} {piece : List Char} (hpiece : separator ∉ piece)
    (cs : List Char) :
    segments separator (piece ++ separator :: cs) = piece :: segments separator cs := by
  induction piece with
  | nil => simp [segments]
  | cons c piece ih =>
    have hc : c ≠ separator := fun h => hpiece (by simp [h])
    rw [List.cons_append, segments, if_neg hc, ih fun h => hpiece (by simp [h])]

/-- Splitting undoes joining. -/
theorem segments_intercalate {separator : Char} {pieces : List (List Char)} (hne : pieces ≠ [])
    (hpieces : ∀ piece ∈ pieces, separator ∉ piece) :
    segments separator (List.intercalate [separator] pieces) = pieces := by
  induction pieces with
  | nil => exact absurd rfl hne
  | cons piece pieces ih =>
    have hpiece := hpieces piece (by simp)
    cases pieces with
    | nil => simpa using segments_eq_singleton hpiece
    | cons next pieces =>
      have hrest := ih (by simp) fun p hp => hpieces p (by simp [hp])
      have hjoin : List.intercalate [separator] (piece :: next :: pieces) =
          piece ++ separator :: List.intercalate [separator] (next :: pieces) := by
        simp [List.intercalate]
      rw [hjoin, segments_append_cons hpiece, hrest]

/-- A text that does not start with the separator extends its first piece. -/
theorem exists_segments_cons (separator : Char) {c : Char} (hc : c ≠ separator) (cs : List Char) :
    ∃ piece pieces, segments separator cs = piece :: pieces ∧
      segments separator (c :: cs) = (c :: piece) :: pieces := by
  cases hcs : segments separator cs with
  | nil => exact absurd hcs (segments_ne_nil separator cs)
  | cons piece pieces => exact ⟨piece, pieces, rfl, by rw [segments, if_neg hc, hcs]⟩

/-- No piece holds the separator. -/
theorem notMem_of_mem_segments {separator : Char} {cs piece : List Char}
    (hpiece : piece ∈ segments separator cs) : separator ∉ piece := by
  induction cs generalizing piece with
  | nil =>
    obtain rfl := List.mem_singleton.mp hpiece
    exact List.not_mem_nil
  | cons c cs ih =>
    by_cases hc : c = separator
    · rw [segments, if_pos hc] at hpiece
      rcases List.mem_cons.mp hpiece with rfl | hpiece
      · exact List.not_mem_nil
      · exact ih hpiece
    · obtain ⟨first, rest, hcs, hsegments⟩ := exists_segments_cons separator hc cs
      rw [hcs] at ih
      rw [hsegments] at hpiece
      rcases List.mem_cons.mp hpiece with rfl | hpiece
      · rw [List.mem_cons]
        rintro (rfl | hmem)
        · exact hc rfl
        · exact ih List.mem_cons_self hmem
      · exact ih (List.mem_cons_of_mem first hpiece)

/-- Joining undoes splitting. -/
theorem intercalate_segments (separator : Char) (cs : List Char) :
    List.intercalate [separator] (segments separator cs) = cs := by
  induction cs with
  | nil => rfl
  | cons c cs ih =>
    by_cases hc : c = separator
    · have hcs := segments_ne_nil separator cs
      rw [segments, if_pos hc, List.intercalate_cons_of_ne_nil hcs, ih, hc]
      rfl
    · obtain ⟨piece, pieces, hcs, hsegments⟩ := exists_segments_cons separator hc cs
      rw [hcs] at ih
      rw [hsegments]
      -- the first piece alone is longer, whether it is the only one or not
      cases pieces with
      | nil =>
        rw [List.intercalate_singleton] at ih ⊢
        rw [ih]
      | cons next pieces =>
        rw [List.intercalate_cons_cons] at ih ⊢
        rw [← ih]
        rfl

end SnmpSet.Text
