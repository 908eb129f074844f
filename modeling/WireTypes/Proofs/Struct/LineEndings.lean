import WireTypes.Proofs.Declaration.Returns
import WireTypes.Proofs.Struct.RewrittenLines

/-!
# Struct — Tag repair under either line ending

Whether a line needs a tag does not depend on the blanks behind it
(`untagged?_append_gap`), and a repaired line gets back the carriage
return that the line ended in. So it is the same to repair a text and then
write it with the longer line ending, or to do so the other way round
(`repair_withReturns`).
-/

namespace WireTypes

open Text

variable {line gap t : Text} {l : FieldLine}

/-! ## Blanks behind a line without a tag -/

namespace UntaggedLine

/-- The line with more blanks at its end. -/
def extend (u : UntaggedLine) (gap : Text) (hgap : ∀ c ∈ gap, isBlank c = true) :
    UntaggedLine :=
  { u with
    trail := u.trail ++ gap
    isBlank_trail := List.forall_mem_append.mpr ⟨u.isBlank_trail, hgap⟩ }

variable (u : UntaggedLine) (hgap : ∀ c ∈ gap, isBlank c = true)

theorem toText_extend : (u.extend gap hgap).toText = u.toText ++ gap := by
  simp only [toText, extend, List.append_assoc]

theorem parts_extend : (u.extend gap hgap).parts = u.parts := rfl

end UntaggedLine

namespace TagRepair

section Gap

variable (hgap : ∀ c ∈ gap, isBlank c = true)

include hgap

theorem hasPart_json_append_gap (line : Text) :
    hasPart "json:".toList (line ++ gap) = hasPart "json:".toList line :=
  hasPart_append_gap hgap (by decide) (by decide) line

/-- A line that needs a tag has the same parts with blanks behind it. -/
theorem untagged?_append_gap_of_eq_some (h : untagged? line = some l) :
    untagged? (line ++ gap) = some l := by
  obtain ⟨hpart, hline, hexported, comment, htail⟩ := untagged?_eq_some_iff.mp h
  obtain ⟨u, rfl, rfl⟩ := UntaggedLine.exists_of_ofLine? hline htail
  refine untagged?_eq_some_iff.mpr ⟨?_, ?_, hexported, comment, htail⟩
  · rw [hasPart_json_append_gap hgap, hpart]
  · rw [← u.toText_extend hgap, (u.extend gap hgap).ofLine?_toText, u.parts_extend]

/-- **Blanks behind a line do not decide whether it needs a tag.** -/
theorem untagged?_append_gap (hline : '\n' ∉ line) (hnewline : '\n' ∉ gap) :
    untagged? (line ++ gap) = untagged? line := by
  cases h : untagged? line with
  | some l => exact untagged?_append_gap_of_eq_some hgap h
  | none =>
      refine Option.eq_none_iff_forall_ne_some.mpr fun l' h' => ?_
      obtain ⟨hpart, hread, hexported, comment, htail⟩ := untagged?_eq_some_iff.mp h'
      -- without the blanks the line is read as the same parts, up to the blanks of its comment
      have hreads := FieldLine.ofLine?_append_gap hgap hline hnewline
      rw [hread, Option.map_some] at hreads
      obtain ⟨l, hl, htrimmed⟩ := Option.map_eq_some_iff.mp hreads.symm
      obtain ⟨-, hname, -, htails⟩ := FieldLine.mk.inj htrimmed
      have huntagged : ∃ comment, l.tail = .untagged comment := by
        rw [htail] at htails
        cases hcases : l.tail with
        | tagged => rw [hcases] at htails; cases htails
        | untagged comment => exact ⟨comment, rfl⟩
      have hneeds : untagged? line = some l :=
        untagged?_eq_some_iff.mpr ⟨by rw [← hasPart_json_append_gap hgap, hpart], hl,
          by rw [hname, hexported], huntagged⟩
      rw [h] at hneeds
      cases hneeds

end Gap

/-! ## Carriage returns -/

theorem withTag_append_return (h : line.getLast? ≠ some '\r') (l : FieldLine) :
    withTag (line ++ ['\r']) l = withTag line l ++ ['\r'] := by
  rw [withTag, withTag, List.getLast?_concat, if_pos rfl, if_neg h, List.append_nil]

/-- A repaired line ends in the carriage return that the line ended in. -/
theorem repairLine_append_return (hline : '\n' ∉ line) (h : line.getLast? ≠ some '\r') :
    repairLine (line ++ ['\r']) = repairLine line ++ ['\r'] := by
  have hneeds := untagged?_append_gap isBlank_return hline not_newline_mem_return
  cases hcases : untagged? line with
  | none =>
      rw [hcases] at hneeds
      rw [repairLine_of_none hcases, repairLine_of_none hneeds]
  | some l =>
      rw [hcases] at hneeds
      rw [repairLine_of_untagged? hcases, repairLine_of_untagged? hneeds, withTag_append_return h]

theorem repairMark_withReturn {m : Block.Mark} (hline : '\n' ∉ m.line)
    (h : m.line.getLast? ≠ some '\r') : repairMark m.withReturn = repairMark m ++ ['\r'] := by
  rw [repairMark, repairMark]
  show (if m.role = .body then repairLine (m.line ++ ['\r']) else m.line ++ ['\r']) = _
  split
  · exact repairLine_append_return hline h
  · rfl

/-- A text without carriage returns has none at the end of a line. -/
theorem getLast?_ne_return (h : '\r' ∉ t) {m : Block.Mark} (hm : m ∈ Block.marks .struct t) :
    m.line.getLast? ≠ some '\r' := by
  intro hlast
  have hmem : m.line ∈ lines t := by
    rw [← Block.map_line_marksFrom (n := .struct) .searching (lines t)]
    exact List.mem_map_of_mem hm
  exact h (mem_of_mem_splitOn hmem (List.mem_of_getLast? hlast))

theorem lines_repair_withReturns (h : '\r' ∉ t) :
    lines (repair (withReturns t)) = mapInit (· ++ ['\r']) (lines (repair t)) := by
  rw [lines_repair, lines_repair, Block.marks_withReturns]
  exact map_mapInit_comm fun m hm =>
    repairMark_withReturn (Block.mem_of_mem_marks hm) (getLast?_ne_return h hm)

theorem missing_withReturns (t : Text) : missing (withReturns t) = missing t := by
  have hended : ∀ line ∈ Block.endedBody .struct t,
      untagged? (line ++ ['\r']) = untagged? line := fun line hline =>
    untagged?_append_gap isBlank_return (Block.not_newline_mem_of_mem_endedBody hline)
      not_newline_mem_return
  rw [missing, Block.body_withReturns, missing, Block.body_eq, List.filterMap_append,
    List.filterMap_append, List.filterMap_map]
  refine congrArg (· ++ _) (List.filterMap_congr fun line hline => ?_)
  rw [Function.comp_apply, hended line hline]

/-- **A repair commutes with the line ending.** A text without carriage
returns can be repaired before or after it gets one before each line feed,
and the same tags are missing. -/
theorem repair_withReturns (t : Text) (h : '\r' ∉ t) :
    repair (withReturns t) = withReturns (repair t) ∧ missing (withReturns t) = missing t := by
  refine ⟨?_, missing_withReturns t⟩
  rw [← unlines_lines (repair (withReturns t)), lines_repair_withReturns h, ← lines_withReturns,
    unlines_lines]

/-- A struct with blanks behind a comment and behind its last line, which
stands in the body. -/
def beacon : Text :=
  ("type Beacon struct \x7b\n\tRange int // in miles \t\n\tHexID string\n\tlit bool\n"
    ++ "\tHz float64 ").toList

theorem repair_withReturns_beacon :
    '\r' ∉ beacon ∧ repair (withReturns beacon) = withReturns (repair beacon) ∧
      missing (withReturns beacon) = missing beacon := by
  have hfree : '\r' ∉ beacon := by decide
  exact ⟨hfree, repair_withReturns beacon hfree⟩

end TagRepair

end WireTypes
