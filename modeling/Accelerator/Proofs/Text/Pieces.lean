import Accelerator.Text.Blank

/-! The pieces that a text is cut into at a character. -/

namespace Accelerator

theorem pieces_eq_cons (sep : Char) (cs : List Char) : ∃ p ps, pieces sep cs = p :: ps := by
  induction cs with
  | nil => exact ⟨[], [], rfl⟩
  | cons c cs ih =>
    obtain ⟨p, ps, h⟩ := ih
    by_cases hc : c = sep
    · exact ⟨[], p :: ps, by simp [pieces, hc, h]⟩
    · exact ⟨c :: p, ps, by simp [pieces, hc, h]⟩

theorem pieces_append (sep : Char) (cs ds : List Char) :
    pieces sep (cs ++ sep :: ds) = pieces sep cs ++ pieces sep ds := by
  induction cs with
  | nil => simp [pieces]
  | cons c cs ih =>
    by_cases hc : c = sep
    · simp [pieces, hc, ih]
    · obtain ⟨p, ps, hp⟩ := pieces_eq_cons sep cs
      simp [pieces, hc, ih, hp]

theorem pieces_of_notMem {sep : Char} {cs : List Char} (h : sep ∉ cs) : pieces sep cs = [cs] := by
  induction cs with
  | nil => rfl
  | cons c cs ih =>
    simp only [List.mem_cons, not_or] at h
    simp [pieces, Ne.symm h.1, ih h.2]

/-- A text of lines that each end in the separator is cut into these, with nothing after them. -/
theorem pieces_flatMap {sep : Char} {lines : List (List Char)} (h : ∀ line ∈ lines, sep ∉ line) :
    pieces sep (lines.flatMap fun line => line ++ [sep]) = lines ++ [[]] := by
  induction lines with
  | nil => rfl
  | cons line lines ih =>
    have hline := pieces_of_notMem (h line List.mem_cons_self)
    have hlines := ih fun line hm => h line (List.mem_cons_of_mem _ hm)
    rw [List.flatMap_cons, List.append_assoc, List.singleton_append, pieces_append, hline, hlines]
    rfl

theorem pieces_eq_splitOn (sep : Char) (cs : List Char) : pieces sep cs = cs.splitOn sep := by
  induction cs with
  | nil => rfl
  | cons c cs ih =>
    rw [List.splitOn_cons_eq_if_modifyHead, ← ih]
    by_cases hc : c = sep
    · simp [pieces, hc]
    · obtain ⟨p, ps, hp⟩ := pieces_eq_cons sep cs
      simp [pieces, hc, hp]

theorem pieces_intercalate {sep : Char} {parts : List (List Char)} (hne : parts ≠ [])
    (h : ∀ p ∈ parts, sep ∉ p) : pieces sep ([sep].intercalate parts) = parts := by
  rw [pieces_eq_splitOn, List.splitOn_intercalate sep h hne]

theorem intercalate_pieces (sep : Char) (cs : List Char) :
    [sep].intercalate (pieces sep cs) = cs := by
  rw [pieces_eq_splitOn, List.intercalate_splitOn]

theorem mem_of_mem_intercalate {sep c : Char} {parts : List (List Char)}
    (h : c ∈ [sep].intercalate parts) : c = sep ∨ ∃ p ∈ parts, c ∈ p := by
  induction parts with
  | nil => cases h
  | cons p parts ih =>
    by_cases hne : parts = []
    · rw [hne, List.intercalate_singleton] at h
      exact Or.inr ⟨p, List.mem_cons_self, h⟩
    · rw [List.intercalate_cons_of_ne_nil hne, List.append_assoc, List.mem_append,
        List.singleton_append, List.mem_cons] at h
      rcases h with h | rfl | h
      · exact Or.inr ⟨p, List.mem_cons_self, h⟩
      · exact Or.inl rfl
      · rcases ih h with hsep | ⟨q, hq, hc⟩
        · exact Or.inl hsep
        · exact Or.inr ⟨q, List.mem_cons_of_mem _ hq, hc⟩

theorem notMem_of_mem_pieces {sep : Char} {cs p : List Char} (h : p ∈ pieces sep cs) :
    sep ∉ p := by
  induction cs generalizing p with
  | nil => simp_all [pieces]
  | cons c cs ih =>
    obtain ⟨q, qs, hq⟩ := pieces_eq_cons sep cs
    rw [hq] at ih
    by_cases hc : c = sep
    · simp only [pieces, hc, if_true, hq, List.mem_cons] at h
      rcases h with rfl | h
      · exact List.not_mem_nil
      · exact ih (List.mem_cons.mpr h)
    · simp only [pieces, hc, if_false, hq, List.mem_cons] at h
      rcases h with rfl | h
      · simp [Ne.symm hc, ih List.mem_cons_self]
      · exact ih (List.mem_cons_of_mem _ h)

end Accelerator
