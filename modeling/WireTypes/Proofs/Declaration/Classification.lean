import WireTypes.Proofs.Declaration.Block

/-!
# Declaration — The first line decides

A text is classified by the first line of what trimming leaves of it, and
the block of its declaration is searched for from its first line on. The
two agree: when the first line opens a declaration, the block starts there
(`exists_marks_eq`), and the declaration is read without fail
(`read_of_header?`).
-/

namespace WireTypes

open Text

variable {n : Notation} {t line name : Text}

/-- The line that decides what a text is: the first one that is not
blank, without the blanks around the text. -/
def firstLine (t : Text) : Text := (trim t).takeWhile (· != '\n')

/-! ## The verdict -/

theorem classify_of_ne_nil (hne : trim t ≠ []) :
    classify t =
      if (structHeader? (firstLine t)).isSome then .ok .struct
      else if (interfaceHeader? (firstLine t)).isSome then .ok .interface
      else .error .unrecognized := by
  rw [classify, if_neg (by simpa using hne)]
  rfl

theorem classify_eq_empty_iff : classify t = .error .empty ↔ trim t = [] := by
  by_cases hne : trim t = []
  · simp [classify, hne]
  · rw [classify_of_ne_nil hne]
    simp only [hne, iff_false]
    intro h
    split at h
    · cases h
    · split at h <;> cases h

theorem classify_eq_unrecognized_iff :
    classify t = .error .unrecognized ↔
      trim t ≠ [] ∧ ∀ n : Notation, n.header? (firstLine t) = none := by
  by_cases hne : trim t = []
  · rw [classify_eq_empty_iff.mpr hne]
    simp [hne]
  · rw [classify_of_ne_nil hne]
    constructor
    · intro h
      split at h
      · cases h
      · rename_i hstruct
        split at h
        · cases h
        · rename_i hinterface
          refine ⟨hne, fun n => ?_⟩
          cases n with
          | struct => exact Option.not_isSome_iff_eq_none.mp hstruct
          | interface => exact Option.not_isSome_iff_eq_none.mp hinterface
    · rintro ⟨-, hnone⟩
      have hstruct : structHeader? (firstLine t) = none := hnone .struct
      have hinterface : interfaceHeader? (firstLine t) = none := hnone .interface
      simp [hstruct, hinterface]

/-- The notation of a text is one whose header its first line is. -/
theorem exists_header_of_classify (h : classify t = .ok n) :
    ∃ name, n.header? (firstLine t) = some name := by
  have hne : trim t ≠ [] := by
    intro hnil
    rw [classify_eq_empty_iff.mpr hnil] at h
    cases h
  rw [classify_of_ne_nil hne] at h
  split at h
  · rename_i hstruct
    cases h
    exact Option.isSome_iff_exists.mp hstruct
  · split at h
    · rename_i hinterface
      cases h
      exact Option.isSome_iff_exists.mp hinterface
    · cases h

/-- A line opens a declaration in one notation only: the two start with
different words. -/
theorem structHeader?_eq_none (h : interfaceHeader? line = some name) :
    structHeader? line = none := by
  cases hstart : trimStart line with
  | nil =>
      rw [structHeader?, hstart]
      rfl
  | cons c rest =>
      by_cases hc : 't' = c
      · subst hc
        rw [interfaceHeader?, hstart] at h
        cases h
      · rw [structHeader?, hstart]
        have hword : "type".toList.isPrefixOf? (c :: rest) = none := by
          show List.isPrefixOf? ('t' :: _) (c :: rest) = none
          rw [List.isPrefixOf?, if_neg (by simpa using hc)]
        rw [hword]
        rfl

theorem classify_of_header? (h : n.header? (firstLine t) = some name) : classify t = .ok n := by
  have hne : trim t ≠ [] := by
    intro hnil
    rw [firstLine, hnil] at h
    cases n <;> cases h
  rw [classify_of_ne_nil hne]
  cases n with
  | struct =>
      have hstruct : structHeader? (firstLine t) = some name := h
      rw [hstruct]
      rfl
  | interface =>
      have hinterface : interfaceHeader? (firstLine t) = some name := h
      rw [structHeader?_eq_none hinterface, hinterface]
      rfl

theorem classify_eq_struct_iff :
    classify t = .ok .struct ↔ ∃ name, structHeader? (firstLine t) = some name := by
  constructor
  · exact exists_header_of_classify
  · rintro ⟨name, hname⟩
    have hne : trim t ≠ [] := by
      intro hnil
      rw [firstLine, hnil] at hname
      cases hname
    rw [classify_of_ne_nil hne, hname]
    rfl

/-- What a text is does not depend on the blanks around it. -/
theorem classify_congr {t' : Text} (h : trim t = trim t') : classify t = classify t' := by
  rw [classify, classify, h]

/-! ## Names in headers -/

theorem word_of_interfaceName? (h : interfaceName? t = some name) :
    name ≠ [] ∧ ∀ c ∈ name, isWord c = true := by
  simp only [interfaceName?, Option.bind_eq_bind, Option.bind_eq_some_iff] at h
  obtain ⟨_, _, _, _, ⟨_, _⟩, hword, h⟩ := h
  cases h
  exact word_of_takeWord? hword

/-- The name in a header is a word. -/
theorem Notation.word_of_header? (h : n.header? line = some name) :
    name ≠ [] ∧ ∀ c ∈ name, isWord c = true := by
  cases n with
  | struct =>
      simp only [header?, structHeader?, Option.bind_eq_bind, Option.bind_eq_some_iff] at h
      obtain ⟨_, _, _, _, ⟨_, _⟩, hword, _, _, _, _, h⟩ := h
      split at h
      · cases h
      · cases h
        exact word_of_takeWord? hword
  | interface =>
      rw [header?, interfaceHeader?] at h
      split at h
      · simp only [Option.bind_eq_bind, Option.bind_eq_some_iff] at h
        obtain ⟨_, _, h⟩ := h
        exact word_of_interfaceName? h
      · exact word_of_interfaceName? h

/-! ## The block starts at the first line -/

namespace Block

/-- A header on the first line is the header of the block. -/
theorem exists_marks_eq (h : n.header? (firstLine t) = some name) :
    ∃ rest, marks n (trim t) = ⟨.header, firstLine t,
      if closesItself (firstLine t) then .done else .inside⟩ :: rest := by
  obtain ⟨rest, hlines⟩ := exists_lines_eq (trim t)
  have hmark : mark n .searching (firstLine t) = ⟨.header, firstLine t,
      if closesItself (firstLine t) then .done else .inside⟩ := by
    rw [mark, h]
    rfl
  refine ⟨marksFrom n (mark n .searching (firstLine t)).progress rest, ?_⟩
  rw [marks, hlines, marksFrom, ← firstLine, hmark]

theorem name?_of_header? (h : n.header? (firstLine t) = some name) :
    name? n (trim t) = some name := by
  obtain ⟨rest, hlines⟩ := exists_lines_eq (trim t)
  rw [name?, hlines, ← firstLine, List.findSome?_cons_of_isSome (by rw [h]; rfl), h]

end Block

/-- **A text whose first line opens a declaration is read**, under the
name in that line. -/
theorem Declaration.read_of_header? (v : Vocabulary) (h : n.header? (firstLine t) = some name) :
    read v n (trim t) = .ok ⟨name, n, fieldsOf v n (Block.body n (trim t)),
      Block.isComplete n (trim t)⟩ := by
  rw [read, Block.name?_of_header? h]

end WireTypes
