import Mathlib.Data.List.Forall2
import WireTypes.Proofs.Struct.TagRepair

/-!
# Struct — The lines that a repair rewrites

A repair rewrites whole lines and leaves all others as they are. The
lines it rewrites have a shape that can be said without a reader:
`UntaggedLine` lists the pieces, and `UntaggedLine.tagged` is what becomes
of them. `repair_lines` goes through a text line by line.
-/

namespace WireTypes

open Text

/-! ## Parts of a text -/

theorem Text.hasPart_eq_true_iff {part t : Text} : hasPart part t = true ↔ part <:+: t := by
  induction t with
  | nil => simp [hasPart]
  | cons c rest ih =>
      rw [hasPart, Bool.or_eq_true, List.isPrefixOf_iff_prefix, ih, List.infix_cons_iff]

/-! ## Lines without a tag -/

/-- The pieces of a field line without a tag, in their order: the name is
a word, the type is made of type characters, blanks stand between them,
and behind the type there is at most a comment. -/
structure UntaggedLine where
  indent : Text
  name : Text
  gap : Text
  type : Text
  /-- The comment with the blanks before it, or nothing. -/
  comment : Text
  trail : Text
  isBlank_indent : ∀ c ∈ indent, isBlank c = true
  name_ne_nil : name ≠ []
  isWord_name : ∀ c ∈ name, isWord c = true
  gap_ne_nil : gap ≠ []
  isBlank_gap : ∀ c ∈ gap, isBlank c = true
  type_ne_nil : type ≠ []
  isStructTypeChar_type : ∀ c ∈ type, isStructTypeChar c = true
  comment_spec : comment = [] ∨
    ∃ lead text, comment = lead ++ text ∧ (∀ c ∈ lead, isBlank c = true) ∧ IsLineComment text
  isBlank_trail : ∀ c ∈ trail, isBlank c = true

namespace UntaggedLine

/-- The line. -/
def toText (u : UntaggedLine) : Text :=
  u.indent ++ (u.name ++ (u.gap ++ (u.type ++ (u.comment ++ u.trail))))

/-- The line with a tag: one space on both sides of the type, one more
before the comment, and of the blanks at the end only a carriage return. -/
def tagged (u : UntaggedLine) : Text :=
  u.indent ++ u.name ++ [' '] ++ u.type ++ [' ', '`'] ++ "json:\"".toList ++ Name.snake u.name
    ++ ['"', '`'] ++ (if u.comment = [] then [] else ' ' :: u.comment)
    ++ (if u.toText.getLast? = some '\r' then ['\r'] else [])

/-- The parts that the line is read as. -/
def parts (u : UntaggedLine) : FieldLine where
  indent := u.indent
  name := u.name
  type := u.type
  tail := .untagged (if u.comment = [] then none else some u.comment)

variable (u : UntaggedLine)

theorem parts_wellFormed : u.parts.WellFormed :=
  ⟨u.isBlank_indent, u.name_ne_nil, u.isWord_name, u.type_ne_nil, u.isStructTypeChar_type⟩

/-- Behind the type stand blanks, then nothing or a comment. -/
theorem exists_rest : ∃ lead text, u.comment ++ u.trail = lead ++ text ∧
    (∀ c ∈ lead, isBlank c = true) ∧ (text = [] ∨ text.head? = some '/') := by
  rcases u.comment_spec with hnil | ⟨lead, text, heq, hlead, htext⟩
  · exact ⟨u.trail, [], by rw [hnil]; simp, u.isBlank_trail, Or.inl rfl⟩
  · obtain ⟨rest, rfl⟩ := htext.exists_eq
    exact ⟨lead, _, by rw [heq, List.append_assoc], hlead, Or.inr rfl⟩

theorem startsOutside_rest : StartsOutside isStructTypeChar (u.comment ++ u.trail) := by
  obtain ⟨lead, text, heq, hlead, htext⟩ := u.exists_rest
  rw [heq]
  intro c hc
  cases lead with
  | nil =>
      rcases htext with rfl | hslash
      · cases hc
      · rw [List.nil_append, hslash] at hc
        cases hc
        decide
  | cons b lead =>
      cases hc
      exact isStructTypeChar_of_isBlank (hlead c (by simp))

/-- No backquote opens a tag behind the type. -/
theorem tagged?_rest : FieldTail.tagged? (u.comment ++ u.trail) = none := by
  obtain ⟨lead, text, heq, hlead, htext⟩ := u.exists_rest
  have houtside : ∀ p : Char → Bool, p '/' = false → StartsOutside p text := by
    intro p hp
    rcases htext with rfl | hslash
    · exact startsOutside_nil
    · intro c hc
      rw [hslash] at hc
      cases hc
      exact hp
  apply FieldTail.tagged?_eq_none
  rw [heq, trimStart_append hlead, trimStart_of_startsOutside (houtside isBlank (by decide))]
  exact houtside _ (by decide)

theorem untagged?_rest :
    FieldTail.untagged? (u.comment ++ u.trail)
      = some (.untagged (if u.comment = [] then none else some u.comment)) := by
  rw [FieldTail.untagged?, ← trim]
  rcases u.comment_spec with hnil | ⟨lead, text, heq, hlead, htext⟩
  · have htrim : trim ([] ++ ([] ++ u.trail)) = [] :=
      trim_between_blanks (by simp) u.isBlank_trail []
    rw [List.nil_append] at htrim
    rw [hnil, htrim]
    rfl
  · obtain ⟨rest, rfl⟩ := htext.exists_eq
    have hne : u.comment ≠ [] := by rw [heq]; simp
    have htake : (lead ++ ('/' :: '/' :: rest ++ u.trail)).takeWhile isBlank = lead :=
      takeWhile_append_rest hlead (htext.startsOutside (by decide))
    have hline : ('/' :: '/' :: rest).contains '\n' = false := by
      simpa using htext.oneLine
    have hstart : "//".toList.isPrefixOf ('/' :: '/' :: rest) = true :=
      List.isPrefixOf_iff_prefix.mpr htext.start
    rw [if_neg hne, heq, List.append_assoc, htext.trim_append hlead u.isBlank_trail, htake,
      hstart, hline]
    rfl

/-- **The line is read as its parts.** -/
theorem ofLine?_toText : FieldLine.ofLine? u.toText = some u.parts := by
  refine FieldLine.ofLine?_eq_some_iff.mpr ⟨u.parts_wellFormed, u.gap, u.comment ++ u.trail, rfl,
    u.gap_ne_nil, u.isBlank_gap, u.startsOutside_rest, ?_⟩
  rw [FieldTail.ofText?, u.tagged?_rest]
  exact u.untagged?_rest

/-- A line that is read without a tag consists of such pieces. -/
theorem exists_of_ofLine? {line : Text} {l : FieldLine} {comment : Option Text}
    (h : FieldLine.ofLine? line = some l) (htail : l.tail = .untagged comment) :
    ∃ u : UntaggedLine, u.toText = line ∧ u.parts = l := by
  obtain ⟨hl, gap, rest, hline, hne, hgap, -, hread⟩ := FieldLine.ofLine?_eq_some_iff.mp h
  obtain ⟨indent, name, type, tail⟩ := l
  cases htail
  rcases FieldTail.exists_of_untagged? (FieldTail.untagged?_of_ofText? hread) with
    ⟨htail, hblank⟩ | ⟨lead, text, trail, htail, rfl, hlead, htext, htrail⟩
  · cases htail
    exact ⟨⟨indent, name, gap, type, [], rest, hl.indent, hl.name_ne_nil, hl.name, hne, hgap,
      hl.type_ne_nil, hl.type, Or.inl rfl, hblank⟩, hline.symm, rfl⟩
  · cases htail
    have hne' : lead ++ text ≠ [] := List.append_ne_nil_of_right_ne_nil _ htext.ne_nil
    refine ⟨⟨indent, name, gap, type, lead ++ text, trail, hl.indent, hl.name_ne_nil, hl.name,
      hne, hgap, hl.type_ne_nil, hl.type, Or.inr ⟨lead, text, rfl, hlead, htext⟩, htrail⟩, ?_, ?_⟩
    · rw [hline, toText, List.append_assoc lead]
    · rw [parts, if_neg hne']

/-- The repaired line, piece by piece. -/
theorem withTag_toText : TagRepair.withTag u.toText u.parts = u.tagged := by
  have hafter : TagRepair.afterTag u.toText u.parts
      = (if u.comment = [] then [] else ' ' :: u.comment)
        ++ (if u.toText.getLast? = some '\r' then ['\r'] else []) := by
    rw [TagRepair.afterTag, TagRepair.lineReturn, FieldLine.comment?, parts]
    by_cases hnil : u.comment = []
    · simp only [if_pos hnil, Option.elim_none]
    · simp only [if_neg hnil, Option.elim_some]
  rw [TagRepair.withTag_eq, hafter, TagRepair.entryOf, JsonEntry.toTag_eq, JsonEntry.value, tagged]
  simp only [parts, Bool.false_eq_true, if_false, List.append_assoc, List.cons_append,
    List.nil_append]

/-- The tagged line ends in a carriage return exactly when the line does. -/
theorem getLast?_tagged : u.tagged.getLast? = some '\r' ↔ u.toText.getLast? = some '\r' := by
  rw [tagged]
  by_cases hreturn : u.toText.getLast? = some '\r'
  · simp only [hreturn, if_true, List.getLast?_append_cons, List.getLast?_singleton]
  · -- without the carriage return the line ends in its comment or in the closing quote
    rw [if_neg hreturn, List.append_nil, iff_false_right hreturn]
    by_cases hnil : u.comment = []
    · rw [if_pos hnil, List.append_nil, List.getLast?_append_cons]
      decide
    · obtain ⟨lead, text, heq, -, htext⟩ := u.comment_spec.resolve_left hnil
      rw [if_neg hnil, heq, ← List.cons_append, ← List.append_assoc,
        List.getLast?_append_of_ne_nil _ htext.ne_nil]
      intro hlast
      exact absurd (htext.trimmed '\r' hlast) (by decide)

/-- The name is the first word of the line. -/
theorem takeWhile_toText : (trimStart u.toText).takeWhile isWord = u.name := by
  have hstart : StartsOutside isWord (u.gap ++ (u.type ++ (u.comment ++ u.trail))) := by
    rw [startsOutside_append u.gap_ne_nil]
    exact startsOutside_of_forall fun c hc => isWord_of_isBlank (u.isBlank_gap c hc)
  have hname : StartsOutside isBlank (u.name ++ (u.gap ++ (u.type ++ (u.comment ++ u.trail)))) :=
    u.parts_wellFormed.name_startsOutside
  rw [toText, trimStart_append u.isBlank_indent, trimStart_of_startsOutside hname]
  exact takeWhile_append_rest u.isWord_name hstart

end UntaggedLine

namespace TagRepair

variable {line t : Text}

/-- A line needs a tag: it does not speak of `json:` and declares an
exported field without a tag. -/
def NeedsTag (line : Text) : Prop :=
  ¬ "json:".toList <:+: line ∧
    ∃ u : UntaggedLine, u.toText = line ∧ Name.isExported u.name = true

theorem untagged?_toText {u : UntaggedLine} (hpart : ¬ "json:".toList <:+: u.toText)
    (hexported : Name.isExported u.name = true) : untagged? u.toText = some u.parts := by
  refine untagged?_eq_some_iff.mpr ⟨?_, u.ofLine?_toText, hexported, _, rfl⟩
  rw [← hasPart_eq_true_iff] at hpart
  simpa using hpart

/-- The two descriptions of a line that needs a tag agree. -/
theorem exists_untagged?_iff :
    (∃ l, untagged? line = some l) ↔ NeedsTag line := by
  constructor
  · rintro ⟨l, h⟩
    obtain ⟨hpart, hline, hexported, comment, htail⟩ := untagged?_eq_some_iff.mp h
    obtain ⟨u, rfl, rfl⟩ := UntaggedLine.exists_of_ofLine? hline htail
    have hfree : ¬ "json:".toList <:+: u.toText := by
      rw [← hasPart_eq_true_iff, hpart]
      exact Bool.false_ne_true
    exact ⟨hfree, u, rfl, hexported⟩
  · rintro ⟨hpart, u, rfl, hexported⟩
    exact ⟨u.parts, untagged?_toText hpart hexported⟩

theorem repairLine_ne_self_iff : repairLine line ≠ line ↔ NeedsTag line := by
  rw [Ne, repairLine_eq_self_iff, ← exists_untagged?_iff, Option.eq_none_iff_forall_ne_some]
  push Not
  rfl

/-- The line that a repair makes of another, given where that one stands. -/
structure Rewritten (m : Block.Mark) (line : Text) : Prop where
  ne_iff : line ≠ m.line ↔ m.role = .body ∧ NeedsTag m.line
  eq_tagged : line ≠ m.line →
    ∃ u : UntaggedLine, u.toText = m.line ∧ Name.isExported u.name = true ∧ line = u.tagged
  getLast? : line.getLast? = some '\r' ↔ m.line.getLast? = some '\r'

theorem rewritten_repairMark (m : Block.Mark) : Rewritten m (repairMark m) := by
  rw [repairMark]
  by_cases hbody : m.role = .body
  · rw [if_pos hbody]
    have hne : repairLine m.line ≠ m.line ↔ m.role = .body ∧ NeedsTag m.line := by
      rw [repairLine_ne_self_iff, and_iff_right hbody]
    by_cases hneeds : NeedsTag m.line
    · obtain ⟨hpart, u, hu, hexported⟩ := hneeds
      have heq : repairLine m.line = u.tagged := by
        rw [← hu, repairLine_of_untagged? (untagged?_toText (hu ▸ hpart) hexported),
          u.withTag_toText]
      exact ⟨hne, fun _ => ⟨u, hu, hexported, heq⟩, by rw [heq, ← hu, u.getLast?_tagged]⟩
    · have heq : repairLine m.line = m.line := by
        by_contra hdiffers
        exact hneeds (repairLine_ne_self_iff.mp hdiffers)
      exact ⟨hne, fun hdiffers => absurd heq hdiffers, by rw [heq]⟩
  · rw [if_neg hbody]
    exact ⟨by simp [hbody], fun hdiffers => absurd rfl hdiffers, Iff.rfl⟩

/-! ## All lines of a text -/

theorem lines_repair (t : Text) : lines (repair t) = (Block.marks .struct t).map repairMark := by
  rw [repair_eq_mapBody, Block.lines_mapBody keepsBody_repairLine]
  apply List.map_congr_left
  intro m _
  rw [repairMark, Block.Mark.mapBody]
  split <;> rfl

/-- The first word of a line. -/
def firstWord (line : Text) : Text := (trimStart line).takeWhile isWord

/-- A line that needs a tag is reported under its first word. -/
theorem map_name_untagged? (line : Text) :
    (untagged? line).map (·.name)
      = if repairLine line ≠ line then some (firstWord line) else none := by
  cases h : untagged? line with
  | none => rw [if_neg (not_not.mpr (repairLine_of_none h)), Option.map_none]
  | some l =>
      obtain ⟨-, hline, -, comment, htail⟩ := untagged?_eq_some_iff.mp h
      obtain ⟨u, rfl, rfl⟩ := UntaggedLine.exists_of_ofLine? hline htail
      rw [if_pos (repairLine_ne_self h), firstWord, u.takeWhile_toText]
      rfl

/-- The names reported as missing a tag are the first words of the lines
that a repair changes. -/
theorem missing_eq_firstWords (t : Text) :
    missing t = (((lines t).zip (lines (repair t))).filter fun p => p.2 ≠ p.1).map
      fun p => firstWord p.1 := by
  have hlines : lines t = (Block.marks .struct t).map (·.line) :=
    (Block.map_line_marksFrom .searching (lines t)).symm
  rw [lines_repair, hlines, missing, Block.body]
  -- line by line: a line outside the body is neither changed nor reported
  induction Block.marks .struct t with
  | nil => rfl
  | cons m ms ih =>
      rw [List.map_cons, List.map_cons, List.zip_cons_cons]
      by_cases hbody : m.role = .body
      · rw [List.filter_cons_of_pos (by simpa using hbody), List.map_cons, List.filterMap_cons,
          map_name_untagged?, ih, repairMark, if_pos hbody]
        by_cases hchanged : repairLine m.line = m.line
        · simp [hchanged]
        · simp [hchanged]
      · rw [List.filter_cons_of_neg (by simpa using hbody), ih, repairMark, if_neg hbody]
        simp

/-- **A repair changes only the lines it reports.** Line by line, the
repaired text has the lines of the text, as many and in the same order.
A line is another one exactly where a line of the struct's body needs a
tag, and then it is the tagged form of that line; it ends in a carriage
return if the line did. The names reported as missing a tag are those on
the changed lines, in order, so there are some exactly when the text is
changed. -/
theorem repair_lines (t : Text) :
    (Block.marks .struct t).map (·.line) = lines t ∧
    (lines (repair t)).length = (lines t).length ∧
    List.Forall₂ Rewritten (Block.marks .struct t) (lines (repair t)) ∧
    missing t = (((lines t).zip (lines (repair t))).filter fun p => p.2 ≠ p.1).map
      (fun p => firstWord p.1) ∧
    (∀ u : UntaggedLine, firstWord u.toText = u.name) ∧
    (missing t ≠ [] ↔ repair t ≠ t) := by
  have hlines : (Block.marks .struct t).map (·.line) = lines t :=
    Block.map_line_marksFrom .searching (lines t)
  refine ⟨hlines, ?_, ?_, missing_eq_firstWords t, fun u => u.takeWhile_toText, ?_⟩
  · rw [lines_repair, ← hlines, List.length_map, List.length_map]
  · rw [lines_repair, List.forall₂_map_right_iff, List.forall₂_same]
    exact fun m _ => rewritten_repairMark m
  · rw [Ne, Ne, repair_eq_self_iff]

end TagRepair

end WireTypes
