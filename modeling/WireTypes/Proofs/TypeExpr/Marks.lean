import WireTypes.Proofs.Canonical.Types
import WireTypes.Proofs.TypeExpr.Reading

/-!
# Types — Marks and brackets

A struct writes stars and brackets in front of a base type, an interface
writes brackets behind it, and blanks may stand between any two of them.
However deep that goes, a translation looks the base type up in its table
and keeps the brackets. Of the stars it is remembered only whether there is
one (`translate_spelling`).

Reading peels one mark at a time (`ofStruct_mark`), so a whole run of marks
becomes a fold over the type behind it (`ofStruct_behindMarks`), and all
that is asked of such a fold follows from what one mark does.
-/

namespace WireTypes.TypeExpr

open Text Canonical

variable {v : Vocabulary} {t base : Text}

/-! ## Spellings -/

/-- Blanks, perhaps none. -/
structure Gap where
  text : Text
  blank : ∀ c ∈ text, isBlank c = true

/-- A mark in front of a type of a struct. -/
inductive Mark where
  /-- The star of a pointer. -/
  | star
  /-- The brackets of a slice. -/
  | brackets
deriving DecidableEq, Repr

namespace Mark

/-- The mark as it is written. -/
def toText : Mark → Text
  | star => "*".toList
  | brackets => "[]".toList

/-- The type that a mark makes of the one behind it. -/
def wrap : Mark → TypeExpr → TypeExpr
  | star => nullable
  | brackets => array

end Mark

/-- A text behind marks, each with the blanks in front of it. -/
def behindMarks : List (Gap × Mark) → Text → Text
  | [], t => t
  | (gap, m) :: marks, t => gap.text ++ (m.toText ++ behindMarks marks t)

/-- A text with brackets behind it, each with the blanks in front of them. -/
def beforeBrackets : List Gap → Text → Text
  | [], t => t
  | gap :: gaps, t => beforeBrackets gaps (t ++ gap.text ++ "[]".toList)

/-- A type as a struct can spell it: marks, then a base type that none of
them stands in front of. -/
structure StructSpelling where
  marks : List (Gap × Mark)
  before : Gap
  base : Text
  after : Gap
  trimmed : trim base = base
  noStar : ¬ "*".toList <+: base
  noBrackets : ¬ "[]".toList <+: base

/-- A type as an interface can spell it: a base type that no brackets stand
behind, then brackets. -/
structure InterfaceSpelling where
  before : Gap
  base : Text
  gaps : List Gap
  after : Gap
  trimmed : trim base = base
  noBrackets : ¬ "[]".toList <:+ base

/-- The text of the spelling. -/
def StructSpelling.toText (s : StructSpelling) : Text :=
  behindMarks s.marks (s.before.text ++ (s.base ++ s.after.text))

/-- The marks without their blanks. -/
def StructSpelling.bareMarks (s : StructSpelling) : List Mark := s.marks.map (·.2)

/-- The text of the spelling. -/
def InterfaceSpelling.toText (s : InterfaceSpelling) : Text :=
  beforeBrackets s.gaps (s.before.text ++ s.base) ++ s.after.text

/-! ## Every text is a spelling -/

theorem beforeBrackets_concat (gaps : List Gap) (gap : Gap) (t : Text) :
    beforeBrackets (gaps ++ [gap]) t = beforeBrackets gaps t ++ gap.text ++ "[]".toList := by
  induction gaps generalizing t with
  | nil => rfl
  | cons first gaps ih => rw [List.cons_append, beforeBrackets, ih, beforeBrackets]

/-- No blanks. -/
def Gap.none : Gap := ⟨[], by simp⟩

/-- Another mark in front of a spelling. -/
def StructSpelling.marked (s : StructSpelling) (m : Mark) : StructSpelling :=
  { s with marks := (Gap.none, m) :: s.marks }

/-- Another blank in front of a spelling. -/
theorem StructSpelling.exists_blank {c : Char} (s : StructSpelling) (hc : isBlank c = true) :
    ∃ s' : StructSpelling, s'.toText = c :: s.toText := by
  have hgap : ∀ gap : Gap, ∀ d ∈ c :: gap.text, isBlank d = true := fun gap =>
    List.forall_mem_cons.mpr ⟨hc, gap.blank⟩
  cases hmarks : s.marks with
  | nil =>
      refine ⟨{ s with before := ⟨c :: s.before.text, hgap _⟩ }, ?_⟩
      simp [toText, hmarks, behindMarks]
  | cons head marks =>
      refine ⟨{ s with marks := (⟨c :: head.1.text, hgap _⟩, head.2) :: marks }, ?_⟩
      simp [toText, hmarks, behindMarks]

/-- Every text is a type as a struct can spell it. -/
theorem StructSpelling.exists_toText_eq (t : Text) : ∃ s : StructSpelling, s.toText = t := by
  induction t using ofStruct.induct with
  | case1 => exact ⟨⟨[], .none, [], .none, rfl, by decide, by decide⟩, rfl⟩
  | case2 rest ih =>
      obtain ⟨s, rfl⟩ := ih
      exact ⟨s.marked .star, rfl⟩
  | case3 rest ih =>
      obtain ⟨s, rfl⟩ := ih
      exact ⟨s.marked .brackets, rfl⟩
  | case4 c rest _ _ hblank ih =>
      obtain ⟨s, rfl⟩ := ih
      exact s.exists_blank hblank
  | case5 c rest hstar hbrackets hblank =>
      -- the whole text is the base type, with the blanks behind it
      obtain ⟨after, hsplit, hafter⟩ := exists_trimEnd_append (c :: rest)
      have hstart : StartsOutside isBlank (c :: rest) :=
        startsOutside_cons.mpr (Bool.not_eq_true _ ▸ hblank)
      have hprefix : trimEnd (c :: rest) <+: c :: rest := ⟨after, hsplit.symm⟩
      refine ⟨⟨[], .none, trimEnd (c :: rest), ⟨after, hafter⟩, ?_, ?_, ?_⟩, hsplit.symm⟩
      · exact trim_of_outside (startsOutside_trimEnd hstart) (endsOutside_trimEnd _)
      · intro hmark
        obtain ⟨more, heq⟩ := hmark.trans hprefix
        exact hstar (List.cons.inj heq).1.symm
      · intro hmark
        obtain ⟨more, heq⟩ := hmark.trans hprefix
        obtain ⟨rfl, rfl⟩ := List.cons.inj heq
        exact hbrackets more rfl rfl

/-- Every text is a type as an interface can spell it. -/
theorem InterfaceSpelling.exists_toText_eq (t : Text) :
    ∃ s : InterfaceSpelling, s.toText = t := by
  have hreversed : ∀ r : Text, ∃ s : InterfaceSpelling, s.toText = r.reverse := by
    intro r
    induction r using ofInterfaceReversed.induct with
    | case1 => exact ⟨⟨.none, [], [], .none, rfl, by decide⟩, rfl⟩
    | case2 rest ih =>
        obtain ⟨s, hs⟩ := ih
        refine ⟨{ s with gaps := s.gaps ++ [s.after], after := .none }, ?_⟩
        rw [toText, beforeBrackets_concat, ← toText, hs]
        simp [Gap.none]
    | case3 c rest _ hblank ih =>
        obtain ⟨s, hs⟩ := ih
        have hafter : ∀ d ∈ s.after.text ++ [c], isBlank d = true :=
          List.forall_mem_append.mpr ⟨s.after.blank, by simpa using hblank⟩
        refine ⟨{ s with after := ⟨s.after.text ++ [c], hafter⟩ }, ?_⟩
        rw [List.reverse_cons, ← hs]
        simp [toText]
    | case4 c rest hbrackets hblank =>
        obtain ⟨before, hsplit, hbefore⟩ := exists_trimStart_append (c :: rest).reverse
        have hend : EndsOutside isBlank (c :: rest).reverse := by
          rw [List.reverse_cons, endsOutside_concat]
          simpa using hblank
        have hsuffix : trimStart (c :: rest).reverse <:+ (c :: rest).reverse :=
          ⟨before, hsplit.symm⟩
        refine ⟨⟨⟨before, hbefore⟩, trimStart (c :: rest).reverse, [], .none, ?_, ?_⟩, ?_⟩
        · rw [trim_trimStart, trim]
          exact trimEnd_of_endsOutside (hend.of_suffix hsuffix)
        · intro hmark
          obtain ⟨more, heq⟩ := List.reverse_prefix.mpr (hmark.trans hsuffix)
          rw [List.reverse_reverse] at heq
          obtain ⟨rfl, rfl⟩ := List.cons.inj heq
          exact hbrackets more rfl rfl
        · exact (List.append_nil _).trans hsplit.symm
  obtain ⟨s, hs⟩ := hreversed t.reverse
  exact ⟨s, by rw [hs, List.reverse_reverse]⟩

/-! ## A run of marks -/

theorem ofStruct_mark (m : Mark) (t : Text) :
    ofStruct v (m.toText ++ t) = m.wrap (ofStruct v t) := by
  cases m <;> rfl

/-- The marks in front of a type are read one by one. -/
theorem ofStruct_behindMarks (marks : List (Gap × Mark)) (t : Text) :
    ofStruct v (behindMarks marks t) = (marks.map (·.2)).foldr Mark.wrap (ofStruct v t) := by
  induction marks with
  | nil => rfl
  | cons head marks ih =>
      obtain ⟨gap, m⟩ := head
      rw [behindMarks, ofStruct_gap_append gap.blank, ofStruct_mark, ih]
      rfl

/-- An interface keeps the brackets and forgets the stars. -/
theorem toInterface_foldr_wrap (marks : List Mark) (e : TypeExpr) :
    (marks.foldr Mark.wrap e).toInterface v
      = e.toInterface v ++ brackets (marks.count .brackets) := by
  induction marks with
  | nil => exact (List.append_nil _).symm
  | cons m marks ih =>
      cases m with
      | star =>
          rw [List.count_cons_of_ne (by decide), ← ih]
          rfl
      | brackets =>
          rw [List.count_cons_self, brackets_succ_append, ← List.append_assoc, ← ih]
          rfl

theorem isNullable_foldr_wrap (marks : List Mark) (e : TypeExpr) :
    (marks.foldr Mark.wrap e).isNullable = true ↔ .star ∈ marks ∨ e.isNullable = true := by
  induction marks with
  | nil => simp
  | cons m marks ih =>
      cases m with
      | star => simp [Mark.wrap, isNullable]
      | brackets => simpa [Mark.wrap, isNullable] using ih

/-- The brackets behind a type are read one by one. -/
theorem ofInterface_beforeBrackets (gaps : List Gap) (t : Text) :
    ofInterface v (beforeBrackets gaps t) = arrays gaps.length (ofInterface v t) := by
  induction gaps generalizing t with
  | nil => rfl
  | cons gap gaps ih =>
      have hstep : ofInterface v (t ++ gap.text ++ "[]".toList) = arrays 1 (ofInterface v t) := by
        rw [ofInterface_append_brackets, ofInterface_append_gap gap.blank]
        rfl
      rw [beforeBrackets, ih, hstep, arrays_arrays, List.length_cons]

/-! ## Whole types -/

theorem StructSpelling.ofStruct_toText (s : StructSpelling) :
    ofStruct v s.toText = s.bareMarks.foldr Mark.wrap (structBase v s.base) := by
  rw [toText, ofStruct_behindMarks, ofStruct_gap_append s.before.blank,
    ofStruct_append_gap s.trimmed s.noStar s.noBrackets s.after.blank, bareMarks]

theorem InterfaceSpelling.ofInterface_toText (s : InterfaceSpelling) :
    ofInterface v s.toText = arrays s.gaps.length (interfaceBase v s.base) := by
  rw [toText, ofInterface_append_gap s.after.blank, ofInterface_beforeBrackets,
    ofInterface_gap_append s.trimmed s.noBrackets s.before.blank]

/-- **Translations keep the depth and the nullability of a type.** Whatever
the two tables are, an interface writes what its table has for the base
type of a struct, or a map as it stands, and one pair of brackets behind it
for each pair in front of it; the type is nullable exactly if there is a
star among the marks. A struct writes what its table has for the base type
of an interface and as many brackets in front of it as stood behind it. -/
theorem translate_spelling (v : Vocabulary) :
    (∀ s : StructSpelling,
      (ofStruct v s.toText).toInterface v =
        (if "map[".toList <+: s.base then s.base
          else (v.toInterface.getD s.base (.string s.base)).plain) ++
          brackets (s.bareMarks.count .brackets) ∧
      ((ofStruct v s.toText).isNullable = true ↔ .star ∈ s.bareMarks)) ∧
    ∀ s : InterfaceSpelling,
      (ofInterface v s.toText).toStruct v =
        brackets s.gaps.length ++ (v.toStruct.getD s.base (.string s.base)).plain := by
  refine ⟨fun s => ?_, fun s => ?_⟩
  · rw [s.ofStruct_toText]
    constructor
    · rw [toInterface_foldr_wrap, toInterface_structBase]
    · rw [isNullable_foldr_wrap, isNullable_structBase]
      simp
  · rw [s.ofInterface_toText, toStruct_arrays, toStruct_interfaceBase]

-- A slice of pointers becomes a plain array, and only the star tells that it was nullable.
example : (ofStruct .default " [] *\tint ".toList).toInterface .default = "number[]".toList ∧
    (ofStruct .default " [] *\tint ".toList).isNullable = true := by decide

end WireTypes.TypeExpr
