import WireTypes.Proofs.Struct.FieldLine

/-!
# Struct — What is kept behind a tag

A line with a tag is put together from its parts, and `ofLine?_toText`
reads them back with any text behind the tag. Text that starts no comment
is passed over there. Text that starts one is kept up to the end of the
line, for a block comment too: what stands behind its closer is kept with
it, and `blockComment?`, which stops at the closer, says less.
-/

namespace WireTypes

open Text

/-! ## Block comments -/

namespace Text

variable {t run inner after block : Text}

/-- The text up to the first closer of a block comment, with the closer. -/
def throughCloser? : Text → Option Text
  | [] => none
  | c :: rest =>
    if "*/".toList <+: c :: rest then some "*/".toList
    else (throughCloser? rest).map (c :: ·)

/-- The block comment that a text starts with. -/
def blockComment? (t : Text) : Option Text := do
  let body ← "/*".toList.isPrefixOf? t
  return "/*".toList ++ (← throughCloser? body)

/-- A text that ends with its first closer. The last character before the
closer may be a star, but not one that closes early. -/
def EndsWithFirstCloser (run : Text) : Prop :=
  ∃ inner, run = inner ++ "*/".toList ∧ ¬ "*/".toList <:+: inner ++ ['*']

/-- A block comment: an opener, then text that ends with its first closer. -/
def IsBlockComment (t : Text) : Prop :=
  ∃ run, t = "/*".toList ++ run ∧ EndsWithFirstCloser run

/-- Whether a closer stands at the start of a text is seen from what
comes before the slash of a later one. -/
theorem closer_prefix_iff {c : Char} :
    "*/".toList <+: c :: (inner ++ ("*/".toList ++ after)) ↔
      "*/".toList <+: c :: (inner ++ ['*']) := by
  have hsplit : c :: (inner ++ ("*/".toList ++ after))
      = (c :: (inner ++ ['*'])) ++ '/' :: after := by simp
  rw [hsplit]
  constructor
  · intro h
    exact List.prefix_of_prefix_length_le h (List.prefix_append _ _) (by simp)
  · exact fun h => h.trans (List.prefix_append _ _)

theorem throughCloser?_append (h : EndsWithFirstCloser run) (after : Text) :
    throughCloser? (run ++ after) = some run := by
  obtain ⟨inner, rfl, hfirst⟩ := h
  rw [List.append_assoc]
  induction inner with
  | nil => rfl
  | cons c inner ih =>
      rw [List.cons_append, List.infix_cons_iff, not_or] at hfirst
      have hopen : ¬ "*/".toList <+: c :: (inner ++ ("*/".toList ++ after)) :=
        fun hclosed => hfirst.1 (closer_prefix_iff.mp hclosed)
      rw [List.cons_append, throughCloser?, if_neg hopen, ih hfirst.2, Option.map_some,
        List.cons_append]

theorem exists_of_throughCloser? (h : throughCloser? t = some run) :
    EndsWithFirstCloser run ∧ ∃ after, t = run ++ after := by
  induction t generalizing run with
  | nil => cases h
  | cons c rest ih =>
      rw [throughCloser?] at h
      split at h
      · rename_i hclosed
        cases h
        obtain ⟨after, hafter⟩ := hclosed
        exact ⟨⟨[], rfl, by decide⟩, after, hafter.symm⟩
      · rename_i hopen
        obtain ⟨tail, htail, rfl⟩ := Option.map_eq_some_iff.mp h
        obtain ⟨⟨inner, rfl, hfirst⟩, after, rfl⟩ := ih htail
        rw [List.append_assoc, closer_prefix_iff] at hopen
        refine ⟨⟨c :: inner, rfl, ?_⟩, after, rfl⟩
        rw [List.cons_append, List.infix_cons_iff, not_or]
        exact ⟨hopen, hfirst⟩

/-- **What `blockComment?` reads is the block comment at the start.** -/
theorem blockComment?_eq_some_iff :
    blockComment? t = some block ↔ IsBlockComment block ∧ block <+: t := by
  rw [blockComment?]
  simp only [Option.bind_eq_bind, Option.bind_eq_some_iff, Option.pure_def, Option.some.injEq,
    List.isPrefixOf?_eq_some_iff_append_eq]
  constructor
  · rintro ⟨body, rfl, run, hrun, rfl⟩
    obtain ⟨hclosed, after, rfl⟩ := exists_of_throughCloser? hrun
    exact ⟨⟨run, rfl, hclosed⟩, after, by rw [List.append_assoc]⟩
  · rintro ⟨⟨run, rfl, hclosed⟩, after, rfl⟩
    exact ⟨run ++ after, (List.append_assoc _ _ _).symm, run,
      throughCloser?_append hclosed after, rfl⟩

/-- A text is its own block comment exactly if nothing follows the closer. -/
theorem blockComment?_eq_self_iff : blockComment? t = some t ↔ IsBlockComment t := by
  rw [blockComment?_eq_some_iff, and_iff_left (List.prefix_refl t)]

end Text

/-! ## Lines with a tag -/

/-- The parts of a line with a tag, with the blanks between them and any
text behind the tag. -/
structure TaggedLine where
  indent : Text
  name : Text
  gap : Text
  type : Text
  lead : Text
  tag : Text
  rest : Text
  isBlank_indent : ∀ c ∈ indent, isBlank c = true
  name_ne_nil : name ≠ []
  isWord_name : ∀ c ∈ name, isWord c = true
  gap_ne_nil : gap ≠ []
  isBlank_gap : ∀ c ∈ gap, isBlank c = true
  type_ne_nil : type ≠ []
  isStructTypeChar_type : ∀ c ∈ type, isStructTypeChar c = true
  lead_ne_nil : lead ≠ []
  isBlank_lead : ∀ c ∈ lead, isBlank c = true
  not_mem_tag : '`' ∉ tag

namespace FieldTail

variable {opener rest : Text}

/-- The text starts as a comment of either kind. -/
def StartsComment (t : Text) : Prop := "//".toList <+: t ∨ "/*".toList <+: t

instance (t : Text) : Decidable (StartsComment t) :=
  inferInstanceAs (Decidable ("//".toList <+: t ∨ "/*".toList <+: t))

/-- An opener stands at the start with the blanks at the end or without. -/
theorem prefix_trimStart_iff (hend : EndsOutside isBlank opener) :
    opener <+: trimStart rest ↔ opener <+: trim rest := by
  constructor
  · rintro ⟨more, hmore⟩
    rw [trim, ← hmore]
    exact prefix_trimEnd hend more
  · intro h
    obtain ⟨gap, hgap, -⟩ := exists_trimEnd_append (trimStart rest)
    rw [hgap]
    exact h.trans (List.prefix_append _ gap)

theorem startsComment_trimStart_iff : StartsComment (trimStart rest) ↔ StartsComment (trim rest) :=
  or_congr (prefix_trimStart_iff (by decide)) (prefix_trimStart_iff (by decide))

/-- **A comment behind a tag is all the trimmed text, or there is none.** -/
theorem map_trim_commentAfterTag (h : '\n' ∉ rest) :
    (commentAfterTag (trimStart rest)).map trim =
      if StartsComment (trim rest) then some (trim rest) else none := by
  by_cases hstart : StartsComment (trimStart rest)
  · have hline : '\n' ∉ trimStart rest := fun hmem => h (List.dropWhile_subset _ hmem)
    rw [if_pos (startsComment_trimStart_iff.mp hstart), commentAfterTag_of_start hstart,
      dropFinalNewline_of_not_mem hline, Option.map_some, trim_trimStart]
  · rw [if_neg (startsComment_trimStart_iff.not.mp hstart), commentAfterTag, if_neg,
      Option.map_none]
    rwa [Bool.or_eq_true, List.isPrefixOf_iff_prefix, List.isPrefixOf_iff_prefix]

end FieldTail

namespace TaggedLine

variable {u : TaggedLine}

/-- The text of the line. -/
def toText (u : TaggedLine) : Text :=
  u.indent ++ (u.name ++ (u.gap ++ (u.type ++ (u.lead ++ '`' :: (u.tag ++ '`' :: u.rest)))))

/-- The parts that are read of the line. -/
def parts (u : TaggedLine) : FieldLine where
  indent := u.indent
  name := u.name
  type := u.type
  tail := .tagged u.tag (FieldTail.commentAfterTag (trimStart u.rest))

theorem parts_wellFormed (u : TaggedLine) : u.parts.WellFormed where
  indent := u.isBlank_indent
  name_ne_nil := u.name_ne_nil
  name := u.isWord_name
  type_ne_nil := u.type_ne_nil
  type := u.isStructTypeChar_type

theorem rest_oneLine (h : '\n' ∉ u.toText) : '\n' ∉ u.rest :=
  fun hmem => h (by simp [toText, hmem])

/-- A line with a tag is read as its parts. -/
theorem ofLine?_toText (h : '\n' ∉ u.toText) : FieldLine.ofLine? u.toText = some u.parts := by
  have htail : FieldTail.ofText? (u.lead ++ '`' :: (u.tag ++ '`' :: u.rest)) = some u.parts.tail :=
    FieldTail.ofText?_of_tagged?
      (FieldTail.tagged?_append u.lead_ne_nil u.isBlank_lead u.not_mem_tag (rest_oneLine h))
  have hstop : StartsOutside isStructTypeChar (u.lead ++ '`' :: (u.tag ++ '`' :: u.rest)) := by
    rw [startsOutside_append u.lead_ne_nil]
    exact startsOutside_of_forall fun c hc => isStructTypeChar_of_isBlank (u.isBlank_lead c hc)
  exact FieldLine.ofLine?_eq_some_iff.mpr
    ⟨u.parts_wellFormed, u.gap, _, rfl, u.gap_ne_nil, u.isBlank_gap, hstop, htail⟩

/-- The serialised name of the field is no dash if the tag names none. -/
theorem serialised_ne_dash (hexported : Name.isExported u.name = true)
    (hdash : ∀ e, JsonEntry.ofTag? u.tag = some e → e.name ≠ ['-']) :
    u.parts.serialised.name ≠ ['-'] := by
  have hentry : u.parts.entry? = JsonEntry.ofTag? u.tag := rfl
  rw [FieldLine.serialised]
  split
  · -- the tag leaves the field its own name
    exact ne_singleton_of_class u.isWord_name (by decide)
  · rename_i entry _ hfound
    exact hdash entry (hentry ▸ hfound)
  · exact Name.camel_ne_dash hexported

/-- The field of a line with a tag. -/
theorem structField?_toText {v : Vocabulary} (hline : '\n' ∉ u.toText)
    (hexported : Name.isExported u.name = true)
    (hdash : ∀ e, JsonEntry.ofTag? u.tag = some e → e.name ≠ ['-']) :
    structField? v u.toText = some
      { name := u.name
        type := TypeExpr.ofStruct v u.type
        jsonName := u.parts.serialised.name
        omittable := u.parts.serialised.omittable
        comment := if FieldTail.StartsComment (trim u.rest) then some (trim u.rest)
          else none } := by
  rw [structField?, ofLine?_toText hline, ← FieldTail.map_trim_commentAfterTag (rest_oneLine hline)]
  exact FieldLine.toField?_of_serialised hexported rfl (serialised_ne_dash hexported hdash)

/-- **What is kept behind a tag.** The line declares a field with the name
and the type that stand on it. Text behind the tag that starts as no
comment is passed over, and a line comment is kept without the blanks
around it. Text that starts as a block comment is kept to the end of the
line, whether the comment is closed there or not: this is the block
comment alone exactly if nothing but blanks follows its first closer. -/
theorem exists_field_of_taggedLine (v : Vocabulary) (u : TaggedLine) (hline : '\n' ∉ u.toText)
    (hexported : Name.isExported u.name = true)
    (hdash : ∀ e, JsonEntry.ofTag? u.tag = some e → e.name ≠ ['-']) :
    ∃ f, structField? v u.toText = some f ∧ f.name = u.name ∧
      f.type = TypeExpr.ofStruct v u.type ∧
      (¬ "//".toList <+: trim u.rest → ¬ "/*".toList <+: trim u.rest → f.comment = none) ∧
      ("//".toList <+: trim u.rest → f.comment = some (trim u.rest)) ∧
      ("/*".toList <+: trim u.rest → f.comment = some (trim u.rest) ∧
        (f.comment = blockComment? (trim u.rest) ↔ IsBlockComment (trim u.rest))) := by
  refine ⟨_, structField?_toText hline hexported hdash, rfl, rfl, fun hslashes hstar => ?_,
    fun hslashes => ?_, fun hstar => ?_⟩
  · exact if_neg (not_or.mpr ⟨hslashes, hstar⟩)
  · exact if_pos (Or.inl hslashes)
  · have hkept : (if FieldTail.StartsComment (trim u.rest) then some (trim u.rest) else none)
        = some (trim u.rest) := if_pos (Or.inr hstar)
    refine ⟨hkept, ?_⟩
    rw [hkept, eq_comm, blockComment?_eq_self_iff]

/-- A line with text behind a closed block comment. -/
def labelled : TaggedLine where
  indent := ['\t']
  name := "Name".toList
  gap := [' ']
  type := "string".toList
  lead := [' ']
  tag := "json:\"name\"".toList
  rest := " /* label */ extra".toList
  isBlank_indent := List.all_eq_true.mp (by decide)
  name_ne_nil := by decide
  isWord_name := List.all_eq_true.mp (by decide)
  gap_ne_nil := by decide
  isBlank_gap := List.all_eq_true.mp (by decide)
  type_ne_nil := by decide
  isStructTypeChar_type := List.all_eq_true.mp (by decide)
  lead_ne_nil := by decide
  isBlank_lead := List.all_eq_true.mp (by decide)
  not_mem_tag := by decide

theorem exists_field_of_taggedLine_label :
    '\n' ∉ labelled.toText ∧ Name.isExported labelled.name = true ∧
    (∀ e, JsonEntry.ofTag? labelled.tag = some e → e.name ≠ ['-']) ∧
    "/*".toList <+: trim labelled.rest ∧
    ∃ f, structField? .default labelled.toText = some f ∧ f.name = "Name".toList ∧
      f.comment = some "/* label */ extra".toList := by
  have hline : '\n' ∉ labelled.toText := by decide
  have hexported : Name.isExported labelled.name = true := by decide
  have hdash : ∀ e, JsonEntry.ofTag? labelled.tag = some e → e.name ≠ ['-'] := by
    have hentry : JsonEntry.ofTag? labelled.tag = some ⟨"name".toList, false⟩ := by decide
    rintro e he
    cases hentry.symm.trans he
    decide
  have hstar : "/*".toList <+: trim labelled.rest := by decide
  obtain ⟨f, hf, hname, -, -, -, hblock⟩ :=
    exists_field_of_taggedLine .default labelled hline hexported hdash
  exact ⟨hline, hexported, hdash, hstar, f, hf, hname, (hblock hstar).1⟩

/-- The text behind a closed block comment is kept with it. -/
theorem kept_behind_block_comment :
    trim labelled.rest = "/* label */ extra".toList ∧
    blockComment? (trim labelled.rest) = some "/* label */".toList ∧
    (structField? .default labelled.toText).map (·.comment)
      = some (some "/* label */ extra".toList) := by
  decide

end TaggedLine

end WireTypes
