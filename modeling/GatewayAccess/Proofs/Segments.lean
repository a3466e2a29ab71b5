import GatewayAccess.Text.Segments

/-! # Cutting is the inverse of joining

`segments` finds the one way to write a text as stretches without a separator, joined by it:
`segments_eq_iff`. `cut` does the same for the first separator alone: `cut_eq_none_iff` and
`cut_eq_some_iff`.
-/

namespace GatewayAccess

variable {sep : Char}

/-- No stretch holds a separator. -/
theorem not_mem_of_mem_segments {cs part : List Char} (h : part ∈ segments sep cs) :
    sep ∉ part := by
  -- A stretch grows at its head, and only by characters that are no separators.
  induction cs generalizing part with
  | nil =>
      rw [segments, List.mem_singleton] at h
      rw [h]
      exact List.not_mem_nil
  | cons c rest ih =>
      rw [segments] at h
      by_cases hc : c = sep
      · rw [if_pos hc, List.mem_cons] at h
        rcases h with rfl | h
        · exact List.not_mem_nil
        · exact ih h
      · rw [if_neg hc] at h
        cases hrest : segments sep rest with
        | nil => exact absurd hrest (segments_ne_nil sep rest)
        | cons first others =>
            rw [hrest] at h ih
            rcases List.mem_cons.1 h with rfl | h
            · intro hmem
              rcases List.mem_cons.1 hmem with he | hmem
              · exact hc he.symm
              · exact ih List.mem_cons_self hmem
            · exact ih (List.mem_cons_of_mem _ h)

/-- There is one more stretch than separators. -/
theorem length_segments (sep : Char) (cs : List Char) :
    (segments sep cs).length = cs.count sep + 1 := by
  induction cs with
  | nil => rfl
  | cons c rest ih =>
      rw [segments]
      by_cases hc : c = sep
      · rw [if_pos hc, hc, List.length_cons, List.count_cons_self, ih]
      · rw [if_neg hc, List.count_cons_of_ne hc, ← ih]
        cases hrest : segments sep rest with
        | nil => exact absurd hrest (segments_ne_nil sep rest)
        | cons first others => rfl

/-- Joining the stretches of a text gives it back. -/
theorem intercalate_segments (sep : Char) (cs : List Char) :
    [sep].intercalate (segments sep cs) = cs := by
  induction cs with
  | nil => rfl
  | cons c rest ih =>
      cases hrest : segments sep rest with
      | nil => exact absurd hrest (segments_ne_nil sep rest)
      | cons first others =>
          rw [hrest] at ih
          by_cases hc : c = sep
          · rw [segments, if_pos hc, hrest, List.intercalate_cons_cons, ih, hc]
            rfl
          · rw [segments, if_neg hc, hrest, ← ih]
            cases others with
            | nil => rfl
            | cons second others => rw [List.intercalate_cons_cons, List.intercalate_cons_cons]; rfl

/-- Stretches without a separator are found again when they are joined. -/
theorem segments_intercalate {parts : List (List Char)} (hne : parts ≠ [])
    (h : ∀ part ∈ parts, sep ∉ part) : segments sep ([sep].intercalate parts) = parts := by
  induction parts with
  | nil => exact absurd rfl hne
  | cons first others ih =>
      have hfirst : sep ∉ first := h first List.mem_cons_self
      cases others with
      | nil => rw [List.intercalate_singleton, segments_of_not_mem hfirst]
      | cons second others =>
          have hothers : segments sep ([sep].intercalate (second :: others)) = second :: others :=
            ih (List.cons_ne_nil _ _) fun part hp => h part (List.mem_cons_of_mem _ hp)
          calc segments sep ([sep].intercalate (first :: second :: others))
              = segments sep (first ++ sep :: [sep].intercalate (second :: others)) := by
                rw [List.intercalate_cons_cons, List.append_assoc, List.singleton_append]
            _ = first :: segments sep ([sep].intercalate (second :: others)) :=
                segments_append hfirst _
            _ = first :: second :: others := by rw [hothers]

/-- The stretches of a text are the only parts without a separator of which it is the joint. -/
theorem segments_eq_iff {cs : List Char} {parts : List (List Char)} :
    segments sep cs = parts ↔
      parts ≠ [] ∧ (∀ part ∈ parts, sep ∉ part) ∧ cs = [sep].intercalate parts := by
  constructor
  · rintro rfl
    exact ⟨segments_ne_nil sep cs, fun _ => not_mem_of_mem_segments,
      (intercalate_segments sep cs).symm⟩
  · rintro ⟨hne, h, rfl⟩
    exact segments_intercalate hne h

/-- A text is left whole if it does not hold the separator. -/
theorem cut_eq_none_iff {cs before : List Char} :
    cut sep cs = (before, none) ↔ sep ∉ cs ∧ before = cs := by
  constructor
  · intro h
    by_cases hmem : sep ∈ cs
    · obtain ⟨left, right, rfl, hleft⟩ := List.eq_append_cons_of_mem hmem
      rw [cut_append hleft] at h
      exact absurd (congrArg Prod.snd h) (Option.some_ne_none right)
    · rw [cut_of_not_mem hmem] at h
      exact ⟨hmem, (congrArg Prod.fst h).symm⟩
  · rintro ⟨hmem, rfl⟩
    exact cut_of_not_mem hmem

/-- A text that holds the separator is cut in the one place before which there is none. -/
theorem cut_eq_some_iff {cs before after : List Char} :
    cut sep cs = (before, some after) ↔ sep ∉ before ∧ cs = before ++ sep :: after := by
  constructor
  · intro h
    by_cases hmem : sep ∈ cs
    · obtain ⟨left, right, rfl, hleft⟩ := List.eq_append_cons_of_mem hmem
      rw [cut_append hleft, Prod.mk.injEq, Option.some.injEq] at h
      obtain ⟨rfl, rfl⟩ := h
      exact ⟨hleft, rfl⟩
    · rw [cut_of_not_mem hmem] at h
      exact absurd (congrArg Prod.snd h).symm (Option.some_ne_none after)
  · rintro ⟨hbefore, rfl⟩
    exact cut_append hbefore after

end GatewayAccess
