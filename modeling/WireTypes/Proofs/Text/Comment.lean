import WireTypes.Proofs.Text.Lines

/-!
# Text — Comments on a line

A comment behind a member starts with two slashes, or with a slash and a
star, stays on its line and has no blanks at its end. In this form every
writer gives it back; with two slashes, as a line comment, every reader
of a line keeps it, too.
-/

namespace WireTypes.Text

/-- A comment to the end of its line, without the blanks that end it. -/
structure IsLineComment (t : Text) : Prop where
  start : "//".toList <+: t
  oneLine : '\n' ∉ t
  trimmed : EndsOutside isBlank t

namespace IsLineComment

variable {t gap after : Text}

theorem exists_eq (h : IsLineComment t) : ∃ rest, t = '/' :: '/' :: rest := by
  obtain ⟨rest, hrest⟩ := h.start
  exact ⟨rest, hrest.symm⟩

theorem ne_nil (h : IsLineComment t) : t ≠ [] := by
  obtain ⟨rest, rfl⟩ := h.exists_eq
  simp

/-- A comment starts outside every class that has no slash. -/
theorem startsOutside (h : IsLineComment t) {p : Char → Bool} (hp : p '/' = false) :
    StartsOutside p (t ++ after) := by
  obtain ⟨rest, rfl⟩ := h.exists_eq
  simpa using hp

theorem startsOutside_self (h : IsLineComment t) {p : Char → Bool} (hp : p '/' = false) :
    StartsOutside p t := by
  have hstart : StartsOutside p (t ++ []) := h.startsOutside hp
  rwa [List.append_nil] at hstart

/-- Blanks around a comment are trimmed off it. -/
theorem trim_append (h : IsLineComment t) (hgap : ∀ c ∈ gap, isBlank c = true)
    (hafter : ∀ c ∈ after, isBlank c = true) : trim (gap ++ (t ++ after)) = t := by
  rw [trim_append_append hgap hafter (h.startsOutside_self (by decide)) h.ne_nil,
    trimEnd_of_endsOutside h.trimmed]

end IsLineComment

/-- A comment of either kind, without the blanks that end it. -/
structure IsComment (t : Text) : Prop where
  start : "//".toList <+: t ∨ "/*".toList <+: t
  oneLine : '\n' ∉ t
  trimmed : EndsOutside isBlank t

theorem IsLineComment.isComment {t : Text} (h : IsLineComment t) : IsComment t :=
  ⟨Or.inl h.start, h.oneLine, h.trimmed⟩

namespace IsComment

variable {t : Text}

theorem exists_eq (h : IsComment t) : ∃ rest, t = '/' :: rest := by
  rcases h.start with ⟨rest, hrest⟩ | ⟨rest, hrest⟩
  · exact ⟨'/' :: rest, hrest.symm⟩
  · exact ⟨'*' :: rest, hrest.symm⟩

theorem ne_nil (h : IsComment t) : t ≠ [] := by
  obtain ⟨rest, rfl⟩ := h.exists_eq
  simp

theorem trim_eq (h : IsComment t) : trim t = t := by
  refine trim_of_outside ?_ h.trimmed
  obtain ⟨rest, rfl⟩ := h.exists_eq
  rw [startsOutside_cons]
  decide

/-- A comment that is no block comment is a line comment. -/
theorem isLineComment (h : IsComment t) (hblock : ¬ "/*".toList <+: t) : IsLineComment t :=
  ⟨h.start.resolve_right hblock, h.oneLine, h.trimmed⟩

end IsComment

/-- A start with no blank at either end stays one when the text is
trimmed. -/
theorem prefix_trim {t opener : Text} (hopener : opener ≠ [])
    (hstart : StartsOutside isBlank opener) (hend : EndsOutside isBlank opener)
    (h : opener <+: t) : opener <+: trim t := by
  obtain ⟨rest, rfl⟩ := h
  rw [trim, trimStart_of_startsOutside ((startsOutside_append hopener).mpr hstart)]
  exact prefix_trimEnd hend rest

theorem isLineComment_trim {t : Text} (h : "//".toList <+: t) (hline : '\n' ∉ t) :
    IsLineComment (trim t) where
  start := prefix_trim (by decide) (by decide) (by decide) h
  oneLine := fun hmem => hline (mem_of_mem_trim hmem)
  trimmed := endsOutside_trim t

theorem isComment_trim {t : Text} (h : "//".toList <+: t ∨ "/*".toList <+: t)
    (hline : '\n' ∉ t) : IsComment (trim t) where
  start := h.imp (prefix_trim (by decide) (by decide) (by decide))
    (prefix_trim (by decide) (by decide) (by decide))
  oneLine := fun hmem => hline (mem_of_mem_trim hmem)
  trimmed := endsOutside_trim t

end WireTypes.Text
