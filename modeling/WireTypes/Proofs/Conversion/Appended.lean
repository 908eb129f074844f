import WireTypes.Proofs.Conversion.Outcome
import WireTypes.Proofs.Declaration.Appended
import WireTypes.Proofs.Struct.RewrittenLines

/-!
# Conversion — Text behind the closing brace

Whatever stands behind a closed declaration, a conversion makes the same
of it: the first line, the lines that miss tags and the declaration are
the same. If the text is given tags, the lines behind the closing one
come out as they are (`ofText_append`).
-/

namespace WireTypes

open Text

variable {fs : Files} {s : Settings} {n : Notation} {t t' : Text} {c : Conversion} {k : Nat}

/-! ## Tag repair -/

namespace TagRepair

variable {more : List Text}

theorem missing_of_lines_append (hmore : lines t' = lines t ++ more)
    (hclosed : Block.isComplete .struct t = true) : missing t' = missing t := by
  rw [missing, Block.body_append hmore hclosed, missing]

theorem map_repairMark_outsideMarks (p : Block.Progress) (ls : List Text) :
    (Block.outsideMarks p ls).map repairMark = ls := by
  rw [Block.outsideMarks, List.map_map]
  exact List.map_id ls

/-- A repair leaves the lines behind a closed block as they are. -/
theorem lines_repair_append (hmore : lines t' = lines t ++ more)
    (hclosed : Block.isComplete .struct t = true) :
    lines (repair t') = lines (repair t) ++ more := by
  rw [lines_repair, Block.marks_append hmore hclosed, List.map_append, map_repairMark_outsideMarks,
    lines_repair]

/-- The closing line keeps its place. -/
theorem closingLine?_repair (t : Text) :
    Block.closingLine? .struct (repair t) = Block.closingLine? .struct t := by
  rw [Block.closingLine?, repair_eq_mapBody, Block.marks_mapBody keepsBody_repairLine,
    List.findIdx?_map]
  simp only [Function.comp_def, Block.Mark.mapBody_role]
  rfl

/-- A struct that misses tags is closed by a line, if it is closed. Behind
that line the repaired text is the text. -/
theorem exists_closingLine (hclosed : Block.isComplete .struct t = true)
    (hmissing : missing t ≠ []) :
    ∃ k, Block.closingLine? .struct t = some k ∧ k < (lines t).length ∧
      k < (lines (repair t)).length ∧
      (lines (repair t)).drop (k + 1) = (lines t).drop (k + 1) := by
  have hbody : Block.body .struct t ≠ [] := by
    intro hnil
    exact hmissing (by rw [missing, hnil]; rfl)
  obtain ⟨front, close, after, hmarks, hfront⟩ := Block.exists_closing_of_body hclosed hbody
  have hlines : lines t = front.map (·.line) ++ close :: after := by
    rw [← Block.map_line_marksFrom (n := .struct) .searching (lines t), ← Block.marks, hmarks,
      List.map_append, List.map_cons, Block.outsideMarks, List.map_map]
    exact congrArg (fun ls => front.map (·.line) ++ close :: ls) (List.map_id after)
  have hrepaired : lines (repair t) = front.map repairMark ++ close :: after := by
    rw [lines_repair, hmarks, List.map_append, List.map_cons, map_repairMark_outsideMarks]
    rfl
  have hbehind : ∀ g : Block.Mark → Text,
      (front.map g ++ close :: after).drop (front.length + 1) = after := by
    intro g
    simp [List.drop_append]
  refine ⟨front.length, Block.closingLine?_eq hmarks hfront rfl, ?_, ?_, ?_⟩
  · rw [hlines]
    simp
  · rw [hrepaired]
    simp
  · rw [hlines, hrepaired, hbehind, hbehind]

end TagRepair

/-! ## Conversion -/

namespace Conversion

variable (h : lines (trim t) <+: lines (trim t')) (hverdict : classify t = .ok n)
  (hclosed : Block.isComplete n (trim t) = true)

include h hverdict hclosed

theorem plan_extended (check : Bool) : plan check t' = plan check t := by
  rw [plan, plan, classify_extended h hverdict, hverdict]
  cases n with
  | struct =>
      obtain ⟨more, hmore⟩ := h
      rw [TagRepair.missing_of_lines_append hmore.symm hclosed]
  | interface => rfl

/-- What a declaration is converted to does not depend on what stands
behind it. -/
theorem ofText_extended {source : Notation} (hplan : plan s.tagCheck.isSet t = .convert source) :
    ofText fs s t' = ofText fs s t := by
  obtain ⟨hsource, -⟩ := plan_eq_convert_iff.mp hplan
  rw [hverdict] at hsource
  cases hsource
  have hread : ∀ v, Declaration.read v n (trim t') = Declaration.read v n (trim t) :=
    fun v => Declaration.read_extended v h hverdict hclosed
  rw [ofText, ofText, plan_extended h hverdict hclosed, hplan]
  simp only [carryOver, hread]

omit h hverdict hclosed

/-- The lines of a result up to the closing one are those of another, and
the lines behind it are those of its source. The closing line has the same
number in all three. -/
structure EndsLike (result other source : Text) (k : Nat) : Prop where
  closes_result : Block.closingLine? .struct result = some k
  closes_other : Block.closingLine? .struct other = some k
  closes_source : Block.closingLine? .struct source = some k
  upTo : (lines result).take (k + 1) = (lines other).take (k + 1)
  behind : (lines result).drop (k + 1) = (lines source).drop (k + 1)

theorem exists_endsLike_extended (h : lines (trim t) <+: lines (trim t'))
    (hclosed : Block.isComplete .struct (trim t) = true)
    (hmissing : TagRepair.missing (trim t) ≠ []) :
    ∃ k, EndsLike (TagRepair.repair (trim t')) (TagRepair.repair (trim t)) (trim t') k := by
  obtain ⟨more, hmore⟩ := h
  obtain ⟨k, hk, hlength, hrepaired, hbehind⟩ := TagRepair.exists_closingLine hclosed hmissing
  have hk' := Block.closingLine?_append hmore.symm hclosed hk
  have hlines := TagRepair.lines_repair_append hmore.symm hclosed
  refine ⟨k, ⟨?_, ?_, hk', ?_, ?_⟩⟩
  · rw [TagRepair.closingLine?_repair, hk']
  · rw [TagRepair.closingLine?_repair, hk]
  · rw [hlines, List.take_append_of_le_length hrepaired]
  · rw [hlines, ← hmore, List.drop_append_of_le_length hrepaired,
      List.drop_append_of_le_length hlength, hbehind]

/-- **Text behind the closing brace is inert.** A text that ends in no
blank is accepted and its declaration is complete: with anything behind it
on further lines it is accepted as well, with the same warnings and the
same report. The result is the same, too, unless the text is given tags;
then the lines up to the closing one are the same, and those behind it are
as they were in the trimmed text. -/
theorem ofText_append (fs : Files) (s : Settings) (t more : Text) (c : Conversion)
    (hend : EndsOutside isBlank t) (hc : ofText fs s t = .ok c) (haccepted : c.rejection? = none)
    (hclosed : ∀ n, classify t = .ok n → Block.isComplete n (trim t) = true) :
    ∃ c', ofText fs s (t ++ '\n' :: more) = .ok c' ∧ c'.rejection? = none ∧
      c'.warnings = c.warnings ∧ c'.metadata = c.metadata ∧
      (c.action? ≠ some addTags → c'.result = c.result) ∧
      (c.action? = some addTags →
        ∃ k, EndsLike c'.result c.result (trim (t ++ '\n' :: more)) k) := by
  obtain ⟨n, name, hrecognised⟩ := (outcome_of_ofText hc).exists_recognised haccepted
  have hverdict := hrecognised.verdict
  have hne : trim t ≠ [] := by
    intro hnil
    rw [classify_eq_empty_iff.mpr hnil] at hverdict
    cases hverdict
  have hlines := lines_trim_extended hend hne more
  have hclosed := hclosed n hverdict
  have hplan := plan_extended hlines hverdict hclosed s.tagCheck.isSet
  cases outcome_of_ofText hc with
  | rejected verdict => cases haccepted
  | tagged verdict check missing =>
      rw [hverdict] at verdict
      cases verdict
      rw [plan_eq_addTags_iff.mpr ⟨hverdict, check, missing⟩] at hplan
      obtain ⟨rest, hrest⟩ := hlines
      have hmissing := TagRepair.missing_of_lines_append hrest.symm hclosed
      refine ⟨.tagged (TagRepair.repair (trim (t ++ '\n' :: more)))
        (TagRepair.missing (trim (t ++ '\n' :: more))), ?_, rfl, rfl, ?_, ?_, ?_⟩
      · rw [ofText, hplan]
      · rw [hmissing]
        rfl
      · exact fun hne => absurd (action?_tagged _ _) hne
      · exact fun _ => exists_endsLike_extended ⟨rest, hrest⟩ hclosed missing
  | @converted n' o d out verdict complete options declared written =>
      have hconvert := plan_eq_convert_iff.mpr ⟨verdict, complete⟩
      refine ⟨_, (ofText_extended hlines hverdict hclosed hconvert).trans hc, rfl, rfl, rfl,
        fun _ => rfl, fun htags => absurd htags (action?_converted _ _ _)⟩

/-- A struct that misses a tag, closed by a brace with a comment, and one
more line. -/
def pier : Text :=
  "\n  type Pier struct \x7b\n\tDepth float64 // at low tide\n\x7d; // \x7b\n\x7d".toList

/-- Another struct, which misses a tag as well, and blanks. -/
def quay : Text := "type Quay struct \x7b\n\tBerths int\n\x7d\n \t\n".toList

theorem ofText_append_quay :
    EndsOutside isBlank pier ∧
    (∀ n, classify pier = .ok n → Block.isComplete n (trim pier) = true) ∧
    ∃ c, ofText [] {} pier = .ok c ∧ c.rejection? = none ∧ c.action? = some addTags ∧
      ∃ c', ofText [] {} (pier ++ '\n' :: quay) = .ok c' ∧ c'.rejection? = none ∧
        c'.warnings = c.warnings ∧ c'.metadata = c.metadata ∧
        (c.action? ≠ some addTags → c'.result = c.result) ∧
        (c.action? = some addTags →
          ∃ k, EndsLike c'.result c.result (trim (pier ++ '\n' :: quay)) k) := by
  have hend : EndsOutside isBlank pier := by decide
  have hclosed : ∀ n, classify pier = .ok n → Block.isComplete n (trim pier) = true := by
    intro n hn
    have hverdict : classify pier = .ok .struct := by decide +kernel
    rw [hverdict] at hn
    cases hn
    decide +kernel
  have hplan : plan (Settings.tagCheck {}).isSet pier = .addTags := by decide +kernel
  have hc : ofText [] {} pier
      = .ok (.tagged (TagRepair.repair (trim pier)) (TagRepair.missing (trim pier))) := by
    rw [ofText, hplan]
  exact ⟨hend, hclosed, _, hc, rfl, rfl, ofText_append [] {} pier quay _ hend hc rfl hclosed⟩

end Conversion

end WireTypes
