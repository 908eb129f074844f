import WireTypes.Proofs.Declaration.Block
import WireTypes.Proofs.Name.Characters
import WireTypes.Proofs.Struct.FieldLine
import WireTypes.Proofs.Struct.Tag
import WireTypes.Struct.TagRepair

/-!
# Struct — Tag repair

A repaired line is read as the parts it was, with a tag behind them
(`ofLine?_withTag`), and is not repaired again. It starts with a word as
it did before, so the block keeps its shape and a repaired text needs no
repair (`repair_repair`, `missing_repair`).

Two readers look at each line: the one that decides whether a tag is
missing and the one that reads the field. `untagged?_eq_some_iff` and
`FieldLine.ofLine?_eq_some_iff` bring both down to the same parts.
-/

namespace WireTypes

open Text

namespace Text

/-- A text has the part that it holds somewhere. -/
theorem hasPart_append (before part after : Text) :
    hasPart part (before ++ (part ++ after)) = true := by
  induction before with
  | nil =>
      rw [List.nil_append]
      cases h : part ++ after with
      | nil =>
          obtain ⟨rfl, -⟩ := List.append_eq_nil_iff.mp h
          rfl
      | cons c rest =>
          have hprefix : part.isPrefixOf (c :: rest) = true := by
            rw [← h, List.isPrefixOf_iff_prefix]
            exact List.prefix_append part after
          rw [hasPart, hprefix, Bool.true_or]
  | cons c before ih => rw [List.cons_append, hasPart, ih, Bool.or_true]

end Text

namespace TagRepair

variable {line t : Text} {l : FieldLine}

/-! ## Lines that need a tag -/

theorem untagged?_eq_some_iff :
    untagged? line = some l ↔
      hasPart "json:".toList line = false ∧ FieldLine.ofLine? line = some l ∧
        Name.isExported l.name = true ∧ ∃ comment, l.tail = .untagged comment := by
  constructor
  · intro h
    rw [untagged?] at h
    split at h
    · cases h
    · rename_i hpart
      split at h
      · rename_i indent name type comment hline
        split at h
        · rename_i hexported
          cases h
          exact ⟨by simpa using hpart, hline, hexported, comment, rfl⟩
        · cases h
      · cases h
  · rintro ⟨hpart, hline, hexported, comment, htail⟩
    obtain ⟨indent, name, type, tail⟩ := l
    cases htail
    simp only [untagged?, hpart, hline, Bool.false_eq_true, if_false]
    exact if_pos hexported

/-- The entry that a repair writes. -/
def entryOf (l : FieldLine) : JsonEntry := ⟨Name.snake l.name, false⟩

/-- The carriage return that a line may end in. -/
def lineReturn (line : Text) : Text := if line.getLast? = some '\r' then ['\r'] else []

theorem isBlank_of_mem_lineReturn {c : Char} (h : c ∈ lineReturn line) :
    isBlank c = true ∧ c ≠ '\n' := by
  rw [lineReturn] at h
  split at h
  · rw [List.mem_singleton] at h
    subst h
    decide
  · exact absurd h List.not_mem_nil

/-- What a repaired line has behind its tag. -/
def afterTag (line : Text) (l : FieldLine) : Text :=
  l.comment?.elim [] (' ' :: ·) ++ lineReturn line

theorem withTag_eq (line : Text) (l : FieldLine) :
    withTag line l = l.indent ++ (l.name ++ ([' '] ++ (l.type ++
      ([' '] ++ '`' :: ((entryOf l).toTag ++ '`' :: afterTag line l))))) := by
  unfold withTag afterTag entryOf lineReturn JsonEntry.quotedTag
  cases l.comment? with
  | none => simp only [Option.elim_none, List.append_assoc, List.cons_append, List.nil_append]
  | some comment =>
      simp only [Option.elim_some, List.append_assoc, List.cons_append, List.nil_append]

/-- Behind the tag of a repaired line stands the comment that the line
had, on the same line. -/
theorem afterTag_spec (hnewline : '\n' ∉ line) (h : untagged? line = some l) :
    '\n' ∉ afterTag line l ∧
      (FieldTail.commentAfterTag (trimStart (afterTag line l))).map trim
        = l.comment?.map trim := by
  obtain ⟨-, hline, -, comment, htail⟩ := untagged?_eq_some_iff.mp h
  obtain ⟨-, gap, rest, hparts, -, -, -, hread⟩ := FieldLine.ofLine?_eq_some_iff.mp hline
  rw [htail] at hread
  have hrest : '\n' ∉ rest := by
    rw [hparts] at hnewline
    simp only [List.mem_append, not_or] at hnewline
    exact hnewline.2.2.2.2
  have hreturn : ∀ c ∈ lineReturn line, isBlank c = true :=
    fun c hc => (isBlank_of_mem_lineReturn hc).1
  have hreturnLine : '\n' ∉ lineReturn line :=
    fun hc => (isBlank_of_mem_lineReturn hc).2 rfl
  rcases FieldTail.exists_of_untagged? (FieldTail.untagged?_of_ofText? hread) with
    ⟨htail', -⟩ | ⟨blanks, text, after, htail', rfl, hblanks, htext, -⟩
  -- no comment: at most the carriage return is left, and it is blank
  · cases htail'
    have hcomment : l.comment? = none := by rw [FieldLine.comment?, htail]
    rw [afterTag, hcomment, Option.elim_none, List.nil_append]
    have htrim : trimStart (lineReturn line) = [] := by
      rw [← List.append_nil (lineReturn line), trimStart_append hreturn]
      rfl
    exact ⟨hreturnLine, by rw [htrim, FieldTail.commentAfterTag_nil]⟩
  -- a comment keeps the blanks before it; both readings trim them
  · cases htail'
    have hcomment : l.comment? = some (blanks ++ text) := by rw [FieldLine.comment?, htail]
    have hspaces : ∀ c ∈ ' ' :: blanks, isBlank c = true := by
      intro c hc
      rcases List.mem_cons.mp hc with rfl | hc
      · exact isBlank_space
      · exact hblanks c hc
    have hafter : afterTag line l = (' ' :: blanks) ++
        (text ++ lineReturn line) := by
      rw [afterTag, hcomment, Option.elim_some, List.cons_append, List.append_assoc,
        List.cons_append]
    rw [hafter, trimStart_append hspaces,
      trimStart_of_startsOutside (htext.startsOutside (by decide)),
      FieldTail.commentAfterTag_comment htext hreturnLine, hcomment]
    refine ⟨?_, ?_⟩
    · simp only [List.mem_append, List.mem_cons, not_or] at hrest ⊢
      exact ⟨⟨by decide, hrest.1⟩, hrest.2.1, hreturnLine⟩
    · have hout : trim ([] ++ (text ++ lineReturn line)) = text :=
        htext.trim_append (by simp) hreturn
      have hin : trim (blanks ++ (text ++ [])) = text := htext.trim_append hblanks (by simp)
      rw [List.nil_append] at hout
      rw [List.append_nil] at hin
      rw [Option.map_some, Option.map_some, hout, hin]

/-! ## The repaired line -/

theorem isKeyChar_entryOf (hl : l.WellFormed) : ∀ c ∈ (entryOf l).name, isKeyChar c = true :=
  Name.isKeyChar_of_mem_snake hl.name

/-- **A repaired line is read as the parts it had**, with the new tag
behind them. -/
theorem ofLine?_withTag (hnewline : '\n' ∉ line) (h : untagged? line = some l) :
    FieldLine.ofLine? (withTag line l) = some { l with
      tail := .tagged (entryOf l).toTag
        (FieldTail.commentAfterTag (trimStart (afterTag line l))) } := by
  obtain ⟨-, hline, -, -⟩ := untagged?_eq_some_iff.mp h
  obtain ⟨hl, -⟩ := FieldLine.ofLine?_eq_some_iff.mp hline
  have htag : '`' ∉ (entryOf l).toTag :=
    JsonEntry.not_mem_toTag (not_mem_of_class (isKeyChar_entryOf hl) (by decide)) (by decide)
      (by decide) (by decide)
  refine FieldLine.ofLine?_eq_some_iff.mpr
    ⟨⟨hl.indent, hl.name_ne_nil, hl.name, hl.type_ne_nil, hl.type⟩,
      [' '], _, withTag_eq line l, by simp, by simp [isBlank_space], ?_, ?_⟩
  · simp only [List.singleton_append, startsOutside_cons]
    exact isStructTypeChar_of_isBlank isBlank_space
  · exact FieldTail.ofText?_of_tagged? (FieldTail.tagged?_append (by simp)
      (by simp [isBlank_space]) htag (afterTag_spec hnewline h).1)

theorem startsWithWord_withTag (h : untagged? line = some l) :
    StartsWithWord (withTag line l) := by
  obtain ⟨-, hline, -, -⟩ := untagged?_eq_some_iff.mp h
  obtain ⟨hl, -⟩ := FieldLine.ofLine?_eq_some_iff.mp hline
  rw [withTag_eq]
  exact startsWithWord_append hl.indent hl.name_ne_nil hl.name

theorem startsWithWord_of_untagged? (h : untagged? line = some l) : StartsWithWord line := by
  obtain ⟨-, hline, -, -⟩ := untagged?_eq_some_iff.mp h
  obtain ⟨hl, gap, rest, hparts, -⟩ := FieldLine.ofLine?_eq_some_iff.mp hline
  rw [hparts]
  exact startsWithWord_append hl.indent hl.name_ne_nil hl.name

theorem not_mem_withTag (hnewline : '\n' ∉ line) (h : untagged? line = some l) :
    '\n' ∉ withTag line l := by
  obtain ⟨-, hline, -, -⟩ := untagged?_eq_some_iff.mp h
  obtain ⟨hl, gap, rest, hparts, -⟩ := FieldLine.ofLine?_eq_some_iff.mp hline
  have htag : '\n' ∉ (entryOf l).toTag :=
    JsonEntry.not_mem_toTag (not_mem_of_class (isKeyChar_entryOf hl) (by decide)) (by decide)
      (by decide) (by decide)
  have hafter := (afterTag_spec hnewline h).1
  rw [hparts] at hnewline
  simp only [List.mem_append, not_or] at hnewline
  rw [withTag_eq]
  simp only [List.mem_append, List.mem_cons, List.not_mem_nil, or_false, not_or]
  exact ⟨hnewline.1, hnewline.2.1, by decide, hnewline.2.2.2.1, by decide, by decide, htag,
    by decide, hafter⟩

/-- A line with a tag for the serialised form needs none. -/
theorem untagged?_of_toTag (before after : Text) (e : JsonEntry) :
    untagged? (before ++ (e.toTag ++ after)) = none := by
  have hpart : hasPart "json:".toList (before ++ (e.toTag ++ after)) = true := by
    have hkey : e.toTag ++ after = "json:".toList ++ ('"' :: ((e.value ++ ['"']) ++ after)) := by
      rw [JsonEntry.toTag_eq, List.append_assoc]
      rfl
    rw [hkey]
    exact hasPart_append _ _ _
  rw [untagged?, if_pos hpart]

/-- A repaired line is not repaired again. -/
theorem untagged?_withTag (line : Text) (l : FieldLine) : untagged? (withTag line l) = none := by
  have hshape : withTag line l = (l.indent ++ (l.name ++ ([' '] ++ (l.type ++ [' ', '`'])))) ++
      ((entryOf l).toTag ++ '`' :: afterTag line l) := by
    rw [withTag_eq]
    simp only [List.append_assoc, List.cons_append, List.nil_append]
  rw [hshape]
  exact untagged?_of_toTag _ _ _

theorem repairLine_of_untagged? (h : untagged? line = some l) :
    repairLine line = withTag line l := by rw [repairLine, h]

theorem repairLine_of_none (h : untagged? line = none) : repairLine line = line := by
  rw [repairLine, h]

@[simp] theorem untagged?_repairLine (line : Text) : untagged? (repairLine line) = none := by
  cases h : untagged? line with
  | none => rw [repairLine_of_none h, h]
  | some l => rw [repairLine_of_untagged? h, untagged?_withTag]

/-- The lines that a repair changes are those that need a tag. -/
theorem repairLine_eq_self_iff : repairLine line = line ↔ untagged? line = none := by
  constructor
  · intro h
    rw [← h]
    exact untagged?_repairLine line
  · exact repairLine_of_none

theorem repairLine_ne_self (h : untagged? line = some l) : repairLine line ≠ line := by
  rw [Ne, repairLine_eq_self_iff, h]
  simp

/-! ## The repaired text -/

theorem repair_eq_mapBody (t : Text) : repair t = Block.mapBody .struct repairLine t := by
  rw [repair, Block.mapBody]
  congr 1
  apply List.map_congr_left
  intro m _
  rw [repairMark, Block.Mark.mapBody]
  split <;> rfl

theorem keepsBody_repairLine : Block.KeepsBody repairLine where
  oneLine line hnewline := by
    cases h : untagged? line with
    | none => rwa [repairLine_of_none h]
    | some l => rw [repairLine_of_untagged? h]; exact not_mem_withTag hnewline h
  isOpen line hopen := by
    cases h : untagged? line with
    | none => rwa [repairLine_of_none h]
    | some l => rw [repairLine_of_untagged? h]; exact (startsWithWord_withTag h).isClosing_eq_false

theorem body_repair (t : Text) :
    Block.body .struct (repair t) = (Block.body .struct t).map repairLine := by
  rw [repair_eq_mapBody, Block.body_mapBody keepsBody_repairLine]

theorem name?_repair (t : Text) : Block.name? .struct (repair t) = Block.name? .struct t := by
  rw [repair_eq_mapBody, Block.name?_mapBody keepsBody_repairLine]

theorem isComplete_repair (t : Text) :
    Block.isComplete .struct (repair t) = Block.isComplete .struct t := by
  rw [repair_eq_mapBody, Block.isComplete_mapBody keepsBody_repairLine]

/-- A repaired text is missing no tag. -/
theorem missing_repair (t : Text) : missing (repair t) = [] := by
  rw [missing, body_repair, List.filterMap_map]
  simp

/-- The texts that a repair leaves alone are those that miss no tag. -/
theorem repair_eq_self_iff (t : Text) : repair t = t ↔ missing t = [] := by
  constructor
  · intro h
    rw [← h]
    exact missing_repair t
  · intro h
    have hmarks : (Block.marks .struct t).map repairMark
        = (Block.marks .struct t).map (·.line) := by
      apply List.map_congr_left
      intro m hm
      rw [repairMark]
      split
      · rename_i hbody
        have hline : m.line ∈ Block.body .struct t :=
          List.mem_map.mpr ⟨m, List.mem_filter.mpr ⟨hm, by simpa using hbody⟩, rfl⟩
        rw [missing, List.filterMap_eq_nil_iff] at h
        exact repairLine_of_none (Option.map_eq_none_iff.mp (h _ hline))
      · rfl
    rw [repair, hmarks, Block.marks, Block.map_line_marksFrom, unlines_lines]

/-- **A repaired text needs no repair.** -/
theorem repair_repair (t : Text) : repair (repair t) = repair t :=
  (repair_eq_self_iff (repair t)).mpr (missing_repair t)

/-! ## The ends of the repaired text -/

theorem endsOutside_repairLine (hne : line ≠ []) (h : EndsOutside isBlank line) :
    repairLine line ≠ [] ∧ EndsOutside isBlank (repairLine line) := by
  cases hl : untagged? line with
  | none =>
      rw [repairLine_of_none hl]
      exact ⟨hne, h⟩
  | some l =>
      obtain ⟨-, hline, -, comment, htail⟩ := untagged?_eq_some_iff.mp hl
      obtain ⟨-, gap, rest, -, -, -, -, hread⟩ := FieldLine.ofLine?_eq_some_iff.mp hline
      -- a carriage return is a blank, so the line does not end in one
      have hreturn : lineReturn line = [] := by
        rw [lineReturn, if_neg]
        intro hlast
        exact absurd (h '\r' hlast) (by decide)
      have hafter : EndsOutside isBlank ('`' :: afterTag line l) := by
        rw [htail] at hread
        rcases FieldTail.exists_of_untagged? (FieldTail.untagged?_of_ofText? hread) with
          ⟨htail', -⟩ | ⟨blanks, text, after, htail', -, -, htext, -⟩
        · cases htail'
          rw [afterTag, FieldLine.comment?, htail, hreturn]
          intro c hc
          cases hc
          decide
        · cases htail'
          have hshape : '`' :: afterTag line l = ('`' :: ' ' :: blanks) ++ text := by
            rw [afterTag, FieldLine.comment?, htail, hreturn, List.append_nil]
            rfl
          rw [hshape, endsOutside_append htext.ne_nil]
          exact htext.trimmed
      have hshape : withTag line l = (l.indent ++ (l.name ++ ([' '] ++ (l.type ++
          ([' ', '`'] ++ (entryOf l).toTag))))) ++ '`' :: afterTag line l := by
        rw [withTag_eq]
        simp only [List.append_assoc, List.cons_append, List.nil_append]
      rw [repairLine_of_untagged? hl, hshape, endsOutside_append (by simp)]
      exact ⟨by simp, hafter⟩

end TagRepair

end WireTypes
