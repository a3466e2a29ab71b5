/-! # Cutting a text at a separator

`cut` parts a text at the first separator, `segments` at every one. Both keep all characters but
the separators, so joining the parts again gives the text.
-/

namespace GatewayAccess

/-- The characters before the first separator and, if there is one, those after it. -/
def cut (sep : Char) : List Char → List Char × Option (List Char)
  | [] => ([], none)
  | c :: rest =>
      if c = sep then ([], some rest)
      else
        let (before, after) := cut sep rest
        (c :: before, after)

/-- The stretches between separators; a text without one is a single stretch. -/
def segments (sep : Char) : List Char → List (List Char)
  | [] => [[]]
  | c :: rest =>
      if c = sep then [] :: segments sep rest
      else
        match segments sep rest with
        | [] => [[c]]
        | first :: others => (c :: first) :: others

theorem segments_ne_nil (sep : Char) (cs : List Char) : segments sep cs ≠ [] := by
  cases cs with
  | nil => simp [segments]
  | cons c rest =>
      simp only [segments]
      split
      · simp
      · split <;> simp

/-- A text without the separator is not cut. -/
theorem cut_of_not_mem {sep : Char} {cs : List Char} (h : sep ∉ cs) : cut sep cs = (cs, none) := by
  induction cs with
  | nil => rfl
  | cons c rest ih =>
      have hc : c ≠ sep := fun e => h (e ▸ List.mem_cons_self)
      simp [cut, hc, ih fun m => h (List.mem_cons_of_mem _ m)]

/-- A text is cut at the first separator. -/
theorem cut_append {sep : Char} {before : List Char} (h : sep ∉ before) (after : List Char) :
    cut sep (before ++ sep :: after) = (before, some after) := by
  induction before with
  | nil => simp [cut]
  | cons c rest ih =>
      have hc : c ≠ sep := fun e => h (e ▸ List.mem_cons_self)
      simp [cut, hc, ih fun m => h (List.mem_cons_of_mem _ m)]

/-- A text without the separator is one stretch. -/
theorem segments_of_not_mem {sep : Char} {cs : List Char} (h : sep ∉ cs) :
    segments sep cs = [cs] := by
  induction cs with
  | nil => rfl
  | cons c rest ih =>
      have hc : c ≠ sep := fun e => h (e ▸ List.mem_cons_self)
      simp [segments, hc, ih fun m => h (List.mem_cons_of_mem _ m)]

/-- The first stretch ends at the first separator. -/
theorem segments_append {sep : Char} {before : List Char} (h : sep ∉ before) (after : List Char) :
    segments sep (before ++ sep :: after) = before :: segments sep after := by
  induction before with
  | nil => simp [segments]
  | cons c rest ih =>
      have hc : c ≠ sep := fun e => h (e ▸ List.mem_cons_self)
      simp [segments, hc, ih fun m => h (List.mem_cons_of_mem _ m)]

end GatewayAccess
