import WireTypes.Proofs.Text.Runs

/-!
# Text — Pieces and lines

Cutting a text at a separator and joining the pieces again are inverse
to each other on pieces that do not hold the separator. For lines this
says that a text built from lines is read back as these lines, which is
what every statement about a whole block of lines rests on.
-/

namespace WireTypes.Text

variable {sep : Char} {a b t l piece : Text} {ls : List Text}

/-! ## Pieces between separators -/

theorem splitOn_of_not_mem (h : sep ∉ a) : splitOn sep a = [a] := by
  induction a with
  | nil => rfl
  | cons c a ih =>
      simp only [List.mem_cons, not_or] at h
      rw [splitOn, if_neg (Ne.symm h.1), ih h.2]

/-- Two texts with a separator between them are cut each for itself. -/
theorem splitOn_append (sep : Char) (a b : Text) :
    splitOn sep (a ++ sep :: b) = splitOn sep a ++ splitOn sep b := by
  induction a with
  | nil => simp [splitOn]
  | cons c a ih =>
      rw [List.cons_append, splitOn, splitOn, ih]
      split
      · rfl
      · obtain ⟨piece, pieces, hs⟩ := List.exists_cons_of_ne_nil (splitOn_ne_nil sep a)
        rw [hs]
        rfl

/-- The first separator ends the first piece. -/
theorem splitOn_append_cons (h : sep ∉ a) :
    splitOn sep (a ++ sep :: b) = a :: splitOn sep b := by
  rw [splitOn_append, splitOn_of_not_mem h, List.singleton_append]

/-- No piece holds the separator. -/
theorem not_mem_of_mem_splitOn (h : a ∈ splitOn sep t) : sep ∉ a := by
  induction t generalizing a with
  | nil =>
      simp only [splitOn, List.mem_singleton] at h
      subst h
      simp
  | cons c t ih =>
      rw [splitOn] at h
      split at h
      · rcases List.mem_cons.mp h with rfl | h
        · simp
        · exact ih h
      · rename_i hc
        obtain ⟨piece, pieces, hs⟩ := List.exists_cons_of_ne_nil (splitOn_ne_nil sep t)
        rw [hs] at h ih
        rcases List.mem_cons.mp h with rfl | h
        · simp only [List.mem_cons, not_or]
          exact ⟨Ne.symm hc, ih (by simp)⟩
        · exact ih (by simp [h])

/-- The pieces are made of the characters of the text. -/
theorem mem_of_mem_splitOn {c : Char} (h : a ∈ splitOn sep t) (hc : c ∈ a) : c ∈ t := by
  induction t generalizing a with
  | nil =>
      simp only [splitOn, List.mem_singleton] at h
      rwa [h] at hc
  | cons d t ih =>
      rw [splitOn] at h
      split at h
      · rcases List.mem_cons.mp h with rfl | h
        · simp at hc
        · exact List.mem_cons_of_mem d (ih h hc)
      · obtain ⟨piece, pieces, hs⟩ := List.exists_cons_of_ne_nil (splitOn_ne_nil sep t)
        rw [hs] at h ih
        rcases List.mem_cons.mp h with rfl | h
        · rcases List.mem_cons.mp hc with rfl | hc
          · simp
          · exact List.mem_cons_of_mem d (ih (by simp) hc)
        · exact List.mem_cons_of_mem d (ih (by simp [h]) hc)

/-- The first piece is what stands before the first separator. -/
theorem exists_splitOn_eq (sep : Char) (t : Text) :
    ∃ pieces, splitOn sep t = t.takeWhile (· != sep) :: pieces := by
  induction t with
  | nil => exact ⟨[], rfl⟩
  | cons c t ih =>
      obtain ⟨pieces, hpieces⟩ := ih
      rw [splitOn]
      split
      · rename_i hc
        exact ⟨splitOn sep t, by simp [hc]⟩
      · rename_i hc
        exact ⟨pieces, by simp [hpieces, hc]⟩

/-- A piece behind the first: it stands between a separator and the next
one, or the end. -/
def IsLaterPiece (sep : Char) (piece t : Text) : Prop :=
  sep ∉ piece ∧ ∃ before after, t = before ++ sep :: (piece ++ after) ∧
    StartsOutside (· != sep) after

theorem IsLaterPiece.cons (h : IsLaterPiece sep piece t) (c : Char) :
    IsLaterPiece sep piece (c :: t) := by
  obtain ⟨hpiece, before, after, rfl, hafter⟩ := h
  exact ⟨hpiece, c :: before, after, rfl, hafter⟩

/-- What stands up to the next separator is the first piece. -/
theorem head_mem_splitOn (hpiece : sep ∉ piece) (hrest : StartsOutside (· != sep) b) :
    piece ∈ splitOn sep (piece ++ b) := by
  obtain ⟨pieces, hpieces⟩ := exists_splitOn_eq sep (piece ++ b)
  rw [takeWhile_append_rest (bne_of_not_mem hpiece) hrest] at hpieces
  rw [hpieces]
  exact List.mem_cons_self

/-- **The later pieces of a text are the tail of its pieces.** -/
theorem mem_tail_splitOn_iff : piece ∈ (splitOn sep t).tail ↔ IsLaterPiece sep piece t := by
  constructor
  · intro h
    induction t with
    | nil => cases h
    | cons c t ih =>
        obtain ⟨pieces, hpieces⟩ := exists_splitOn_eq sep t
        rw [splitOn] at h
        split at h
        · rename_i hc
          subst hc
          rw [List.tail_cons] at h
          rw [hpieces] at h ih
          rcases List.mem_cons.mp h with rfl | h
          · refine ⟨?_, [], t.dropWhile (· != c), ?_, startsOutside_dropWhile t⟩
            · exact fun hmem => absurd (List.mem_takeWhile_imp hmem) (by simp)
            · rw [List.nil_append, List.takeWhile_append_dropWhile]
          · exact (ih h).cons c
        · rw [hpieces] at h ih
          exact (ih h).cons c
  · rintro ⟨hpiece, before, after, rfl, hafter⟩
    obtain ⟨pieces, hpieces⟩ := exists_splitOn_eq sep before
    rw [splitOn_append, hpieces, List.cons_append, List.tail_cons]
    exact List.mem_append_right _ (head_mem_splitOn hpiece hafter)

/-- Pieces without the separator are the pieces of the text they make. -/
theorem splitOn_intercalate (hne : ls ≠ []) (h : ∀ l ∈ ls, sep ∉ l) :
    splitOn sep (List.intercalate [sep] ls) = ls := by
  induction ls with
  | nil => exact absurd rfl hne
  | cons l ls ih =>
      have hl : sep ∉ l := h l (by simp)
      cases ls with
      | nil =>
          rw [List.intercalate_singleton]
          exact splitOn_of_not_mem hl
      | cons m ls =>
          rw [List.intercalate_cons_cons, List.append_assoc, List.singleton_append,
            splitOn_append_cons hl]
          exact congrArg (l :: ·) (ih (by simp) fun m hm => h m (by simp [hm]))

/-! ## Lines -/

theorem lines_ne_nil (t : Text) : lines t ≠ [] := splitOn_ne_nil '\n' t

theorem not_mem_of_mem_lines (h : l ∈ lines t) : '\n' ∉ l := not_mem_of_mem_splitOn h

theorem lines_append_newline (a b : Text) : lines (a ++ '\n' :: b) = lines a ++ lines b :=
  splitOn_append '\n' a b

/-- More lines behind a text that ends in no blank leave its lines as they
are, also when the blanks around the text are trimmed. -/
theorem lines_trim_extended (hend : EndsOutside isBlank t) (hne : trim t ≠ []) (more : Text) :
    lines (trim t) <+: lines (trim (t ++ '\n' :: more)) := by
  have hstart : trimStart t ≠ [] := by
    intro hnil
    exact hne (by rw [trim, hnil]; rfl)
  obtain ⟨before, hsplit, -⟩ := exists_trimStart_append t
  have hendTrimmed : EndsOutside isBlank (trimStart t) := by
    rw [hsplit, endsOutside_append hstart] at hend
    exact hend
  have htrim : trim t = trimStart t := trimEnd_of_endsOutside hendTrimmed
  obtain ⟨rest, hrest⟩ := prefix_trimEnd hendTrimmed ('\n' :: more)
  have hlonger : trim (t ++ '\n' :: more) = trim t ++ rest := by
    rw [htrim, hrest, trim, trimStart, List.dropWhile_append, ← trimStart,
      if_neg (by simpa using hstart)]
  -- what trimming leaves behind the text is nothing, or starts with the line feed
  obtain ⟨gap, hgap, -⟩ := exists_trimEnd_append (trimStart t ++ '\n' :: more)
  rw [← hrest, List.append_assoc, List.append_cancel_left_eq] at hgap
  cases rest with
  | nil =>
      have hsame : trim (t ++ '\n' :: more) = trim t := by rw [hlonger, List.append_nil]
      exact hsame ▸ List.prefix_refl _
  | cons c rest =>
      obtain ⟨rfl, -⟩ := List.cons.inj hgap
      rw [hlonger, lines_append_newline]
      exact List.prefix_append _ _

@[simp] theorem unlines_singleton (l : Text) : unlines [l] = l := by
  simp [unlines]

theorem unlines_cons (l : Text) (hne : ls ≠ []) :
    unlines (l :: ls) = l ++ '\n' :: unlines ls := by
  obtain ⟨m, ls, rfl⟩ := List.exists_cons_of_ne_nil hne
  simp [unlines, List.intercalate_cons_cons]

/-- Lines that hold no line feed are the lines of the text they make. -/
theorem lines_unlines (hne : ls ≠ []) (h : ∀ l ∈ ls, '\n' ∉ l) : lines (unlines ls) = ls :=
  splitOn_intercalate hne h

/-- The first line is what stands before the first line feed. -/
theorem takeWhile_unlines (hl : '\n' ∉ l) :
    (unlines (l :: ls)).takeWhile (· != '\n') = l := by
  have hall : ∀ c ∈ l, (c != '\n') = true := bne_of_not_mem hl
  by_cases hls : ls = []
  · subst hls
    rw [unlines_singleton]
    simpa using takeWhile_append_rest hall startsOutside_nil
  · rw [unlines_cons l hls]
    exact takeWhile_append_rest hall (by simp)

/-- Every text has a first line. -/
theorem exists_lines_eq (t : Text) : ∃ rest, lines t = t.takeWhile (· != '\n') :: rest :=
  exists_splitOn_eq '\n' t

theorem startsOutside_unlines {p : Char → Bool} (hne : l ≠ []) :
    StartsOutside p (unlines (l :: ls)) ↔ StartsOutside p l := by
  by_cases hls : ls = []
  · subst hls; rw [unlines_singleton]
  · rw [unlines_cons l hls, startsOutside_append hne]

theorem unlines_concat (l : Text) (hne : ls ≠ []) :
    unlines (ls ++ [l]) = unlines ls ++ '\n' :: l := by
  induction ls with
  | nil => exact absurd rfl hne
  | cons m ls ih =>
      by_cases hls : ls = []
      · subst hls
        rw [List.singleton_append, unlines_cons m (by simp), unlines_singleton,
          unlines_singleton]
      · rw [List.cons_append, unlines_cons m (by simp), ih hls, unlines_cons m hls,
          List.append_assoc, List.cons_append]

/-- Lines that each end in a line feed, and a last one without. -/
theorem flatten_terminated (ls : List Text) (last : Text) :
    (ls.map (· ++ ['\n'])).flatten ++ last = unlines (ls ++ [last]) := by
  induction ls with
  | nil => simp
  | cons l ls ih =>
      rw [List.cons_append, unlines_cons l (by simp), ← ih]
      simp

theorem endsOutside_unlines {p : Char → Bool} (hne : l ≠ []) :
    EndsOutside p (unlines (ls ++ [l])) ↔ EndsOutside p l := by
  by_cases hls : ls = []
  · subst hls; rw [List.nil_append, unlines_singleton]
  · rw [unlines_concat l hls, ← List.singleton_append, ← List.append_assoc,
      endsOutside_append hne]

end WireTypes.Text
