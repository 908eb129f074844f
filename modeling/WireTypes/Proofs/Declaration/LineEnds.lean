import WireTypes.Proofs.Declaration.Block
import WireTypes.Proofs.Interface.Layout
import WireTypes.Proofs.Struct.FieldLine
import WireTypes.Proofs.Text.LineEnds

/-!
# Declaration — Blanks behind a line

No reader of lines sees the blanks behind a line: not the readers of
headers and closing braces, nor that of a struct's fields. The reader of
properties has one exception. Behind its colon a property needs a type,
and where the line offers no other, a blank is taken for one; so a line
that ends in the colon declares nothing by itself, and a property of
unknown type with blanks behind it (`ofLine?_append_gap_of_untyped`).
-/

namespace WireTypes

open Text

variable {line gap t : Text}

/-! ## Comments without the blanks around them -/

/-- A tail with the blanks around its comment trimmed off. -/
def FieldTail.trimmed : FieldTail → FieldTail
  | tagged tag comment => tagged tag (comment.map trim)
  | untagged comment => untagged (comment.map trim)

namespace FieldLine

/-- A line with the blanks around its comment trimmed off. -/
def trimmed (l : FieldLine) : FieldLine := { l with tail := l.tail.trimmed }

/-- A field does not depend on the blanks around its comment. -/
theorem toField?_trimmed (v : Vocabulary) (l : FieldLine) :
    l.trimmed.toField? v = l.toField? v := by
  have htrim : ∀ comment : Option Text, (comment.map trim).map trim = comment.map trim := by
    intro comment
    cases comment with
    | none => rfl
    | some comment =>
        rw [Option.map_some, Option.map_some,
          trim_of_outside (startsOutside_trim comment) (endsOutside_trim comment)]
  have hserialised : l.trimmed.serialised = l.serialised := by
    obtain ⟨indent, name, type, tail⟩ := l
    cases tail <;> rfl
  have hcomment : l.trimmed.comment?.map trim = l.comment?.map trim := by
    obtain ⟨indent, name, type, tail⟩ := l
    cases tail <;> exact htrim _
  rw [toField?, toField?, hserialised, hcomment]
  rfl

end FieldLine

namespace Property

/-- A property with the blanks around its comment trimmed off. -/
def trimmed (p : Property) : Property := { p with comment := p.comment.map trim }

theorem toField_trimmed (v : Vocabulary) (p : Property) : p.trimmed.toField v = p.toField v := by
  obtain ⟨name, optional, type, comment⟩ := p
  cases comment with
  | none => rfl
  | some comment =>
      have htrim : trim (trim comment) = trim comment :=
        trim_of_outside (startsOutside_trim comment) (endsOutside_trim comment)
      simp only [toField, trimmed, Option.map_some, htrim]

/-! ## Behind the colon of a property -/

/-- The property that blanks make of a line that ends in its colon: a
blank is taken for its type. -/
def untyped? (line : Text) : Option Property :=
  match head? line with
  | some (name, optional, []) => some ⟨name, optional, [' '], none⟩
  | _ => none

/-- Blanks alone behind the colon are the type. -/
theorem ofHead?_of_blank {name afterColon : Text} {optional : Bool}
    (hlength : 0 < afterColon.length) (h : trimStart afterColon = []) :
    ofHead? (name, optional, afterColon) = some ⟨name, optional, [' '], none⟩ := by
  simp [ofHead?, h, typeAndTail?, Tail.ofText?, hlength, Tail.comment?]

/-- A line that ends in its colon has no property by itself. -/
theorem ofLine?_of_untyped {p : Property} (h : untyped? line = some p) : ofLine? line = none := by
  rw [untyped?] at h
  split at h
  · rename_i name optional hhead
    rw [ofLine?_eq_bind, hhead]
    rfl
  · cases h

/-- The colon of a property is the first one on its line. -/
theorem exists_of_head? {name afterColon : Text} {optional : Bool}
    (h : head? line = some (name, optional, afterColon)) :
    ∃ before, line = before ++ ':' :: afterColon ∧ ':' ∉ before := by
  obtain ⟨head, rfl, -, -⟩ := exists_head_of_head? h
  refine ⟨head.indent.text ++ (keywordText head.keyword ++ (head.name ++
    ((if head.optional then ['?'] else []) ++ head.beforeColon.text))), ?_, ?_⟩
  · simp only [Head.before, Head.afterName, List.append_assoc]
  · have hblank : ∀ gap : TypeExpr.Gap, ':' ∉ gap.text :=
      fun gap => not_mem_of_class gap.blank (by decide)
    have hkeyword : ':' ∉ keywordText head.keyword := by
      cases head.keyword with
      | none => exact List.not_mem_nil
      | some gap =>
          rw [keywordText_some, List.mem_append, not_or]
          exact ⟨by decide, hblank gap⟩
    have hmark : ':' ∉ (if head.optional then ['?'] else []) := by
      split <;> decide
    simp only [List.mem_append, not_or]
    exact ⟨hblank _, hkeyword, not_mem_of_class head.name_word (by decide), hmark, hblank _⟩

/-- What follows the colon stands on the line. -/
theorem mem_of_head? {name afterColon : Text} {optional : Bool}
    (h : head? line = some (name, optional, afterColon)) : ∀ c ∈ afterColon, c ∈ line := by
  obtain ⟨before, rfl, -⟩ := exists_of_head? h
  intro c hc
  exact List.mem_append_right _ (List.mem_cons_of_mem _ hc)

end Property

section Gap

variable (hgap : ∀ c ∈ gap, isBlank c = true)

include hgap

/-! ## Header lines -/

theorem interfaceName?_append_gap (t : Text) : interfaceName? (t ++ gap) = interfaceName? t := by
  have hkeyword : "interface".toList.any isBlank = false := by decide
  simp only [interfaceName?, Option.bind_eq_bind]
  refine isPrefixOf?_bind_congr_gap hgap hkeyword (fun u => ?_) t
  refine skipBlanks?_bind_congr_gap hgap rfl ?_
  exact takeWord?_bind_congr_gap hgap (fun _ _ => rfl) _

theorem interfaceHeader?_append_gap (line : Text) :
    interfaceHeader? (line ++ gap) = interfaceHeader? line := by
  have hkeyword : "export".toList.any isBlank = false := by decide
  rcases trimStart_append_gap hgap line with htrim | ⟨hnil, htrim⟩
  rotate_left
  · rw [interfaceHeader?, interfaceHeader?, htrim, hnil]
  rw [interfaceHeader?, interfaceHeader?, htrim, isPrefixOf?_append_gap hgap hkeyword]
  cases "export".toList.isPrefixOf? (trimStart line) with
  | none => exact interfaceName?_append_gap hgap _
  | some rest => exact skipBlanks?_bind_congr_gap hgap rfl (interfaceName?_append_gap hgap _)

theorem structHeader?_append_gap (line : Text) :
    structHeader? (line ++ gap) = structHeader? line := by
  have htype : "type".toList.any isBlank = false := by decide
  have hstruct : "struct".toList.any isBlank = false := by decide
  simp only [structHeader?, Option.bind_eq_bind]
  rcases trimStart_append_gap hgap line with htrim | ⟨hnil, htrim⟩
  rotate_left
  · rw [htrim, hnil]
  rw [htrim]
  refine isPrefixOf?_bind_congr_gap hgap htype (fun t => ?_) _
  refine skipBlanks?_bind_congr_gap hgap rfl ?_
  refine takeWord?_bind_congr_gap hgap (fun name t => ?_) _
  refine skipBlanks?_bind_congr_gap hgap rfl ?_
  refine isPrefixOf?_bind_congr_gap hgap hstruct (fun t => ?_) _
  -- a blank is no word character, so it does not run into the keyword
  rw [any_head?_append (startsOutside_gap hgap fun _ => isWord_of_isBlank)]

theorem Notation.header?_append_gap (n : Notation) (line : Text) :
    n.header? (line ++ gap) = n.header? line := by
  cases n with
  | struct => exact structHeader?_append_gap hgap line
  | interface => exact interfaceHeader?_append_gap hgap line

/-! ## Lines that close a block or say nothing -/

theorem closesItself_append_gap (line : Text) :
    closesItself (line ++ gap) = closesItself line := by
  have htail : trimStart (line ++ gap).reverse = trimStart line.reverse := by
    rw [List.reverse_append, trimStart_append (by simpa using hgap)]
  rw [closesItself, closesItself, htail]

theorem isFiller_append_gap (line : Text) : isFiller (line ++ gap) = isFiller line := by
  rw [isFiller, isFiller, trim_append_gap hgap]

/-- What stands before the comment is the same, but for the blanks. -/
theorem trim_beforeComment_append_gap (hline : '\n' ∉ line) (hnewline : '\n' ∉ gap) :
    trim (beforeComment (line ++ gap)) = trim (beforeComment line) := by
  have hslashes : "//".toList.any isBlank = false := by decide
  have hsplit : beforeComment (line ++ gap) = beforeComment line ∨
      beforeComment (line ++ gap) = beforeComment line ++ gap := by
    induction line with
    | nil =>
        have hslash : ∀ c ∈ gap, c ≠ '/' := fun c hc =>
          ne_of_class (hgap c hc) (by decide)
        have hnone : beforeComment (gap ++ []) = gap ++ beforeComment [] :=
          beforeComment_append hslash
        rw [List.append_nil] at hnone
        right
        rw [List.nil_append, hnone]
        simp [beforeComment]
    | cons c line ih =>
        rw [List.mem_cons, not_or] at hline
        have hfits : fitsLine (c :: line) = true :=
          fitsLine_of_not_mem (by rw [List.mem_cons, not_or]; exact hline)
        have hfitsGap : fitsLine (c :: line ++ gap) = true :=
          fitsLine_of_not_mem (by simp [hline, hnewline])
        have hstart : "//".toList.isPrefixOf (c :: line ++ gap)
            = "//".toList.isPrefixOf (c :: line) :=
          isPrefixOf_append_gap hgap hslashes (c :: line)
        rw [List.cons_append] at hfitsGap hstart ⊢
        rw [beforeComment, beforeComment, hstart, hfits, hfitsGap]
        split
        · exact Or.inl rfl
        · rcases ih hline.2 with h | h
          · exact Or.inl (by rw [h])
          · exact Or.inr (by rw [h, List.cons_append])
  rcases hsplit with h | h
  · rw [h]
  · rw [h, trim_append_gap hgap]

theorem isClosing_append_gap (hline : '\n' ∉ line) (hnewline : '\n' ∉ gap) :
    isClosing (line ++ gap) = isClosing line := by
  rw [isClosing, isClosing, trim_beforeComment_append_gap hgap hline hnewline]

/-! ## Fields of a struct -/

namespace FieldTail

theorem untagged?_append_gap (t : Text) : untagged? (t ++ gap) = untagged? t := by
  have htrim : trimEnd (trimStart (t ++ gap)) = trimEnd (trimStart t) := trim_append_gap hgap t
  rw [untagged?, untagged?, htrim]
  by_cases hblank : trimStart t = []
  · rw [hblank]
    rfl
  · -- the blanks before the comment end where the comment starts
    have hlead : (t ++ gap).takeWhile isBlank = t.takeWhile isBlank :=
      takeWhile_append_of_dropWhile_ne_nil hblank gap
    rw [hlead]

theorem commentAfterTag_append_gap (hline : '\n' ∉ t) (hnewline : '\n' ∉ gap) :
    (commentAfterTag (trimStart (t ++ gap))).map trim
      = (commentAfterTag (trimStart t)).map trim := by
  by_cases hblank : trimStart t = []
  · rw [hblank, trimStart_append_of_eq_nil hgap hblank]
  · have hfree : '\n' ∉ trimStart t := fun h => hline (List.dropWhile_subset _ h)
    have hfreeGap : '\n' ∉ trimStart t ++ gap := by simp [hfree, hnewline]
    have hopens : ∀ part : Text, part.any isBlank = false →
        part.isPrefixOf (trimStart t ++ gap) = part.isPrefixOf (trimStart t) :=
      fun part hpart => isPrefixOf_append_gap hgap hpart _
    rw [trimStart_append_of_ne_nil gap hblank, commentAfterTag, commentAfterTag,
      hopens _ (by decide), hopens _ (by decide), dropFinalNewline_of_not_mem hfree,
      dropFinalNewline_of_not_mem hfreeGap]
    split
    · rw [Option.map_some, Option.map_some, trim_append_gap hgap]
    · rfl

theorem tagged?_append_gap (hline : '\n' ∉ t) (hnewline : '\n' ∉ gap) :
    (tagged? (t ++ gap)).map trimmed = (tagged? t).map trimmed := by
  have hquote : "`".toList.any isBlank = false := by decide
  have hinside : ∀ c ∈ gap, (c != '`') = true := fun c hc =>
    bne_iff_ne.mpr (ne_of_class (hgap c hc) (by decide))
  have hfree : '\n' ∉ trimStart t := fun h => hline (List.dropWhile_subset _ h)
  simp only [tagged?, Option.bind_eq_bind, Option.map_bind]
  refine skipBlanks?_bind_congr_gap hgap rfl ?_
  rw [Function.comp_apply, Function.comp_apply, isPrefixOf?_append_gap hgap hquote]
  cases hopened : "`".toList.isPrefixOf? (trimStart t) with
  | none => rfl
  | some opened =>
      have hopenedFree : '\n' ∉ opened := by
        rw [← List.isPrefixOf?_eq_some_iff_append_eq.mp hopened] at hfree
        exact fun h => hfree (List.mem_append_right _ h)
      simp only [Option.map_some, Option.bind_some]
      by_cases hclosed : opened.dropWhile (· != '`') = []
      · -- no backquote closes the tag, and none is among the blanks
        have hnone : (opened ++ gap).dropWhile (· != '`') = [] := by
          rw [List.dropWhile_append, hclosed]
          exact List.dropWhile_eq_nil_iff.mpr hinside
        rw [hclosed, hnone]
        rfl
      · have hdrop : (opened ++ gap).dropWhile (· != '`') = opened.dropWhile (· != '`') ++ gap :=
          dropWhile_append_of_dropWhile_ne_nil hclosed gap
        have htag : (opened ++ gap).takeWhile (· != '`') = opened.takeWhile (· != '`') :=
          takeWhile_append_of_dropWhile_ne_nil hclosed gap
        rw [hdrop, htag, isPrefixOf?_append_gap hgap hquote]
        cases hrest : "`".toList.isPrefixOf? (opened.dropWhile (· != '`')) with
        | none => rfl
        | some rest =>
            have hrestFree : '\n' ∉ rest := by
              intro h
              refine hopenedFree (List.dropWhile_subset (· != '`') ?_)
              rw [← List.isPrefixOf?_eq_some_iff_append_eq.mp hrest]
              exact List.mem_append_right _ h
            have hfits : ∀ u : Text, '\n' ∉ u → fitsLine (trimStart u) = true := fun u hu =>
              fitsLine_of_not_mem fun h => hu (List.dropWhile_subset _ h)
            have hcomment := commentAfterTag_append_gap hgap hrestFree hnewline
            simp only [Option.map_some, Option.bind_some,
              hfits rest hrestFree, hfits (rest ++ gap) (by simp [hrestFree, hnewline]), if_true,
              trimmed, hcomment]

theorem ofText?_append_gap (hline : '\n' ∉ t) (hnewline : '\n' ∉ gap) :
    (ofText? (t ++ gap)).map trimmed = (ofText? t).map trimmed := by
  have htagged := tagged?_append_gap hgap hline hnewline
  rw [ofText?, ofText?, untagged?_append_gap hgap]
  cases htail : tagged? t with
  | none =>
      rw [htail, Option.map_none, Option.map_eq_none_iff] at htagged
      rw [htagged]
  | some tail =>
      rw [htail, Option.map_some, Option.map_eq_some_iff] at htagged
      obtain ⟨tail', htail', heq⟩ := htagged
      rw [htail', Option.map_some, Option.map_some, heq]

end FieldTail

namespace FieldLine

theorem ofLine?_append_gap (hline : '\n' ∉ line) (hnewline : '\n' ∉ gap) :
    (ofLine? (line ++ gap)).map trimmed = (ofLine? line).map trimmed := by
  have htype : StartsOutside isStructTypeChar gap :=
    startsOutside_gap hgap fun _ => isStructTypeChar_of_isBlank
  simp only [ofLine?, Option.bind_eq_bind]
  rcases trimStart_append_gap hgap line with htrim | ⟨hnil, htrim⟩
  rotate_left
  · rw [htrim, hnil]
    rfl
  rw [htrim, takeWord?_append_gap hgap]
  cases hname : takeWord? (trimStart line) with
  | none => rfl
  | some found =>
      obtain ⟨name, afterName⟩ := found
      obtain ⟨heq, hne, -, -⟩ := takeRun?_eq_some_iff.mp hname
      have hblank : line.dropWhile isBlank ≠ [] := by
        show trimStart line ≠ []
        rw [heq]
        exact List.append_ne_nil_of_left_ne_nil hne _
      have hfree : '\n' ∉ trimStart afterName := by
        intro h
        refine hline (List.dropWhile_subset isBlank ?_)
        show '\n' ∈ trimStart line
        rw [heq]
        exact List.mem_append_right _ (List.dropWhile_subset _ h)
      simp only [Option.map_some, Option.bind_some, takeWhile_append_of_dropWhile_ne_nil hblank gap,
        Option.map_bind]
      refine skipBlanks?_bind_congr_gap hgap rfl ?_
      rw [Function.comp_apply, Function.comp_apply, takeRun?_append_gap htype]
      cases hrun : takeRun? isStructTypeChar (trimStart afterName) with
      | none => rfl
      | some found =>
          obtain ⟨type, afterType⟩ := found
          obtain ⟨hsplit, -⟩ := takeRun?_eq_some_iff.mp hrun
          have hrest : '\n' ∉ afterType := by
            rw [hsplit] at hfree
            exact fun h => hfree (List.mem_append_right _ h)
          have htail := FieldTail.ofText?_append_gap hgap hrest hnewline
          have hmade : ∀ u, ((FieldTail.ofText? u).bind fun tail =>
              some (FieldLine.mk (line.takeWhile isBlank) name type tail)).map trimmed
              = ((FieldTail.ofText? u).map FieldTail.trimmed).map
                (FieldLine.mk (line.takeWhile isBlank) name type) := by
            intro u
            cases FieldTail.ofText? u <;> rfl
          exact (hmade (afterType ++ gap)).trans (htail ▸ (hmade afterType).symm)

end FieldLine

theorem structField?_append_gap (v : Vocabulary) (hline : '\n' ∉ line) (hnewline : '\n' ∉ gap) :
    structField? v (line ++ gap) = structField? v line := by
  have hread : ∀ u, structField? v u
      = ((FieldLine.ofLine? u).map FieldLine.trimmed).bind (FieldLine.toField? v) := by
    intro u
    rw [structField?, Option.bind_map]
    exact Option.bind_congr fun l _ => (l.toField?_trimmed v).symm
  rw [hread, hread, FieldLine.ofLine?_append_gap hgap hline hnewline]

/-! ## Properties of an interface -/

namespace Property

theorem name?_append_gap (t : Text) :
    name? (t ++ gap) = (name? t).map fun r => (r.1, r.2 ++ gap) := by
  have hkeyword : "readonly".toList.any isBlank = false := by decide
  have hword := takeWord?_append_gap hgap
  rw [name?, name?, isPrefixOf?_append_gap hgap hkeyword]
  cases "readonly".toList.isPrefixOf? t with
  | none => exact hword t
  | some rest =>
      have hskip : (skipBlanks? (rest ++ gap)).bind takeWord?
          = ((skipBlanks? rest).bind takeWord?).map fun r => (r.1, r.2 ++ gap) :=
        skipBlanks?_bind_append_gap hgap rfl (hword _)
      simp only [Option.map_some, hskip]
      cases (skipBlanks? rest).bind takeWord? with
      | none => exact hword t
      | some found => rfl

theorem takeMark_append_gap (t : Text) :
    takeMark (t ++ gap) = ((takeMark t).1, (takeMark t).2 ++ gap) := by
  cases t with
  | nil =>
      cases hcases : gap with
      | nil => rfl
      | cons b rest =>
          have hmark : b ≠ '?' := ne_of_class (hgap b (by simp [hcases])) (by decide)
          simp [takeMark, hmark]
  | cons c t => by_cases hmark : c = '?' <;> simp [takeMark, hmark]

/-- Blanks at the end of the line stand at the end of what follows the
colon. -/
theorem head?_append_gap (line : Text) :
    head? (line ++ gap) = (head? line).map fun r => (r.1, r.2.1, r.2.2 ++ gap) := by
  have hcolon : ":".toList.any isBlank = false := by decide
  simp only [head?, Option.bind_eq_bind]
  rcases trimStart_append_gap hgap line with htrim | ⟨hnil, htrim⟩
  rotate_left
  · rw [htrim, hnil]
    rfl
  rw [htrim, name?_append_gap hgap]
  cases name? (trimStart line) with
  | none => rfl
  | some found =>
      obtain ⟨name, afterName⟩ := found
      simp only [Option.map_some, Option.bind_some, takeMark_append_gap hgap]
      rcases trimStart_append_gap hgap (takeMark afterName).2 with htrim | ⟨hnil, htrim⟩
      · rw [htrim, isPrefixOf?_append_gap hgap hcolon]
        cases ":".toList.isPrefixOf? (trimStart (takeMark afterName).2) <;> rfl
      · rw [htrim, hnil]
        rfl

/-- The comment of a tail without the blanks around it. -/
def Tail.trimmed? (tail : Tail) : Option Text := tail.comment?.map trim

theorem Tail.ofText?_append_gap (hne : t ≠ []) (hline : '\n' ∉ t) (hnewline : '\n' ∉ gap) :
    (ofText? (t ++ gap)).map trimmed? = (ofText? t).map trimmed? := by
  obtain ⟨c, rest, rfl⟩ := List.exists_cons_of_ne_nil hne
  have hstart : "//".toList.isPrefixOf (c :: rest ++ gap) = "//".toList.isPrefixOf (c :: rest) :=
    isPrefixOf_append_gap hgap (by decide) _
  have hfree : '\n' ∉ c :: rest ++ gap := by
    rw [List.mem_append, not_or]
    exact ⟨hline, hnewline⟩
  rw [List.cons_append] at hstart hfree ⊢
  simp only [ofText?, hstart, fitsLine_of_not_mem hline, fitsLine_of_not_mem hfree,
    dropFinalNewline_of_not_mem hline, dropFinalNewline_of_not_mem hfree, Bool.and_true]
  split
  · simp only [Option.map_some, trimmed?, comment?]
    rw [← List.cons_append, trim_append_gap hgap]
  · rfl

theorem typeAndTail?_append_gap (hline : '\n' ∉ t) (hnewline : '\n' ∉ gap) :
    (typeAndTail? (t ++ gap)).map (fun r => (r.1, r.2.trimmed?))
      = (typeAndTail? t).map fun r => (r.1, r.2.trimmed?) := by
  have htail : ∀ (type u u' : Text), (Tail.ofText? u').map Tail.trimmed?
      = (Tail.ofText? u).map Tail.trimmed? →
      ((Tail.ofText? u').bind fun tail => some (type, tail)).map (fun r => (r.1, r.2.trimmed?))
        = ((Tail.ofText? u).bind fun tail => some (type, tail)).map
          fun r => (r.1, r.2.trimmed?) := by
    intro type u u' h
    have hmade : ∀ w, ((Tail.ofText? w).bind fun tail => some (type, tail)).map
        (fun r => (r.1, r.2.trimmed?)) = ((Tail.ofText? w).map Tail.trimmed?).map (type, ·) := by
      intro w
      cases Tail.ofText? w <;> rfl
    rw [hmade, hmade, h]
  have hrest : '\n' ∉ t.dropWhile isTypeChar := fun h => hline (List.dropWhile_subset _ h)
  have hinside : ∀ c ∈ gap, isTypeChar c = true := fun c hc => isTypeChar_of_isBlank (hgap c hc)
  simp only [typeAndTail?, Option.bind_eq_bind]
  by_cases hend : t.dropWhile isTypeChar = []
  · -- the type goes on to the end of the line
    have hall : ∀ c ∈ t, isTypeChar c = true := by
      simpa using List.dropWhile_eq_nil_iff.mp hend
    have htake : (t ++ gap).takeWhile isTypeChar = t.takeWhile isTypeChar ++ gap := by
      rw [List.takeWhile_append_of_pos hall, List.takeWhile_eq_self_iff.mpr hinside,
        List.takeWhile_eq_self_iff.mpr hall]
    have hdrop : (t ++ gap).dropWhile isTypeChar = [] := by
      rw [List.dropWhile_append, hend]
      exact List.dropWhile_eq_nil_iff.mpr (by simpa using hinside)
    rw [htake, trimEnd_append hgap, hdrop, hend]
  · rw [takeWhile_append_of_dropWhile_ne_nil hend, dropWhile_append_of_dropWhile_ne_nil hend]
    cases hcases : t.dropWhile isTypeChar with
    | nil => exact absurd hcases hend
    | cons c rest =>
        rw [hcases] at hrest
        by_cases hc : c = ';'
        · subst hc
          rw [List.mem_cons, not_or] at hrest
          rw [List.cons_append]
          refine htail _ _ _ ?_
          by_cases hnil : trimStart rest = []
          · rw [trimStart_append_of_eq_nil hgap hnil, hnil]
          · rw [trimStart_append_of_ne_nil gap hnil]
            exact Tail.ofText?_append_gap hgap hnil
              (fun h => hrest.2 (List.dropWhile_subset _ h)) hnewline
        · simp only [List.cons_append, List.cons.injEq, hc, false_and, imp_self, implies_true]
          exact htail _ _ _ (Tail.ofText?_append_gap hgap (by simp) hrest hnewline)

/-- Blanks behind a property change nothing if something stands behind its
colon. -/
theorem ofHead?_append_gap {name afterColon : Text} {optional : Bool} (hne : afterColon ≠ [])
    (hline : '\n' ∉ afterColon) (hnewline : '\n' ∉ gap) :
    (ofHead? (name, optional, afterColon ++ gap)).map trimmed
      = (ofHead? (name, optional, afterColon)).map trimmed := by
  have hlonger : 0 < afterColon.length := List.length_pos_iff.mpr hne
  by_cases hblank : trimStart afterColon = []
  · -- only blanks: one of them is the type
    rw [ofHead?_of_blank hlonger hblank, ofHead?_of_blank (by rw [List.length_append]; omega)
      (trimStart_append_of_eq_nil hgap hblank)]
  · have hfree : '\n' ∉ trimStart afterColon := fun h => hline (List.dropWhile_subset _ h)
    have hread := typeAndTail?_append_gap hgap hfree hnewline
    have hempty : ((trimStart afterColon ++ gap).takeWhile isTypeChar).isEmpty
        = ((trimStart afterColon).takeWhile isTypeChar).isEmpty := by
      obtain ⟨c, rest, hcases⟩ := List.exists_cons_of_ne_nil hblank
      rw [hcases, List.cons_append, List.takeWhile_cons, List.takeWhile_cons]
      split <;> rfl
    have hlength : (trimStart afterColon ++ gap).length < (afterColon ++ gap).length
        ↔ (trimStart afterColon).length < afterColon.length := by
      rw [List.length_append, List.length_append]
      omega
    -- a property is made of its type and the trimmed comment
    have hmade : ∀ (found : Option (Text × Tail)), (found.bind fun r =>
        if ((trimStart afterColon).takeWhile isTypeChar).isEmpty then
          if (trimStart afterColon).length < afterColon.length then
            some (Property.mk name optional [' '] r.2.comment?)
          else none
        else some ⟨name, optional, r.1, r.2.comment?⟩).map trimmed
        = (found.map fun r => (r.1, r.2.trimmed?)).bind fun r =>
          if ((trimStart afterColon).takeWhile isTypeChar).isEmpty then
            if (trimStart afterColon).length < afterColon.length then
              some (Property.mk name optional [' '] r.2)
            else none
          else some ⟨name, optional, r.1, r.2⟩ := by
      intro found
      cases found with
      | none => rfl
      | some r =>
          simp only [Option.bind_some, Option.map_some]
          split
          · split <;> rfl
          · rfl
    simp only [ofHead?, Option.bind_eq_bind, trimStart_append_of_ne_nil gap hblank, hempty, hlength]
    rw [hmade, hmade, hread]

/-- **Blanks behind a line make no other property of it**, unless it ends
in the colon. -/
theorem ofLine?_append_gap (hline : '\n' ∉ line) (hnewline : '\n' ∉ gap)
    (huntyped : untyped? line = none) :
    (ofLine? (line ++ gap)).map trimmed = (ofLine? line).map trimmed := by
  rw [ofLine?_eq_bind, ofLine?_eq_bind, head?_append_gap hgap]
  cases hhead : head? line with
  | none => rfl
  | some found =>
      obtain ⟨name, optional, afterColon⟩ := found
      have hne : afterColon ≠ [] := by
        rintro rfl
        simp [untyped?, hhead] at huntyped
      have hfree : '\n' ∉ afterColon := fun h => hline (mem_of_head? hhead _ h)
      exact ofHead?_append_gap hgap hne hfree hnewline

/-- A line that ends in its colon has a property with blanks behind it. -/
theorem ofLine?_append_gap_of_untyped {p : Property} (hne : gap ≠ [])
    (h : untyped? line = some p) : ofLine? (line ++ gap) = some p := by
  rw [untyped?] at h
  split at h
  · rename_i name optional hhead
    cases h
    have hlength : 0 < gap.length := List.length_pos_iff.mpr hne
    rw [ofLine?_eq_bind, head?_append_gap hgap, hhead, Option.map_some, Option.bind_some]
    exact ofHead?_of_blank hlength (trimStart_gap hgap)
  · cases h

end Property

theorem interfaceField?_append_gap (v : Vocabulary) (hline : '\n' ∉ line) (hnewline : '\n' ∉ gap)
    (huntyped : Property.untyped? line = none) :
    interfaceField? v (line ++ gap) = interfaceField? v line := by
  have hread : ∀ u, interfaceField? v u
      = ((Property.ofLine? u).map Property.trimmed).map (Property.toField v) := by
    intro u
    rw [interfaceField?, Option.map_map]
    exact Option.map_congr fun p _ => (p.toField_trimmed v).symm
  rw [hread, hread, Property.ofLine?_append_gap hgap hline hnewline huntyped]

end Gap

end WireTypes
