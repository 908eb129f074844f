import Mathlib.Data.List.Forall2
import WireTypes.Proofs.Conversion.Outcome
import WireTypes.Proofs.Interface.Layout
import WireTypes.Proofs.Struct.FieldLine
import WireTypes.Proofs.Struct.Tag
import WireTypes.Proofs.Struct.TagRepair

/-!
# Conversion — What is written is read back

A declaration is written as a header, a line per field and a brace. The
header is read back under any options, and every line is read by itself,
up to the first one that closes the block (`read_block`). What a line
gives depends on its field alone: it is read as the field if the parts of
the field can be told apart again on it (`structField?_memberLine`,
`interfaceField?_memberLine`). A conversion puts the two together
(`exists_block_of_lines`).
-/

namespace WireTypes

open Text

namespace Emission

variable {v : Vocabulary} {o : Options} {f : Field} {d : Declaration} {n : Notation}

/-! ## The header -/

section Header

variable {name : Text} (hne : name ≠ []) (hword : ∀ c ∈ name, isWord c = true)

include hne hword in
/-- A space in front of the name is passed over. -/
theorem skip_before_name (after : Text) :
    skipBlanks? ([' '] ++ (name ++ after)) = some (name ++ after) := by
  apply skipBlanks?_append (by simp) (by simp [isBlank_space])
  rw [startsOutside_append hne]
  exact startsOutside_of_forall fun c hc => isBlank_of_isWord (hword c hc)

include hword in
/-- The header is one line, which starts with no blank and ends with the
brace that opens the block. -/
theorem exists_headerLine_eq (o : Options) (n : Notation) : ∃ before, before ≠ [] ∧
    headerLine o name n = before ++ ['\x7b'] ∧ StartsOutside isBlank before ∧ '\n' ∉ before := by
  -- the name has no blanks, so all depends on the texts around it
  have haround : ∀ first last : Text, first ≠ [] → StartsOutside isBlank first → '\n' ∉ first →
      '\n' ∉ last → first ++ (name ++ last) ≠ [] ∧
        StartsOutside isBlank (first ++ (name ++ last)) ∧ '\n' ∉ first ++ (name ++ last) := by
    intro first last hfirstNe hstart hfirst hlast
    refine ⟨List.append_ne_nil_of_left_ne_nil hfirstNe _,
      (startsOutside_append hfirstNe).mpr hstart, ?_⟩
    rw [List.mem_append, List.mem_append, not_or, not_or]
    exact ⟨hfirst, not_mem_of_class hword (by decide), hlast⟩
  cases n with
  | struct =>
      obtain ⟨hbefore, hstart, hnewline⟩ := haround "type ".toList " struct ".toList (by decide)
        (by decide) (by decide) (by decide)
      refine ⟨_, hbefore, ?_, hstart, hnewline⟩
      rw [List.append_assoc, List.append_assoc]
      rfl
  | interface =>
      have hopener : ∀ exported : Bool,
          (if exported then "export ".toList else []) ++ "interface ".toList ≠ [] ∧
          StartsOutside isBlank
            ((if exported then "export ".toList else []) ++ "interface ".toList) ∧
          '\n' ∉ (if exported then "export ".toList else []) ++ "interface ".toList := by decide
      obtain ⟨hfirstNe, hfirstStart, hfirst⟩ := hopener o.exported
      obtain ⟨hbefore, hstart, hnewline⟩ := haround _ " ".toList hfirstNe hfirstStart hfirst
        (by decide)
      refine ⟨_, hbefore, ?_, hstart, hnewline⟩
      rw [headerLine]
      simp only [List.append_assoc]
      rfl

include hword in
theorem headerLine_ne_nil (o : Options) (n : Notation) : headerLine o name n ≠ [] := by
  obtain ⟨before, -, hheader, -, -⟩ := exists_headerLine_eq hword o n
  rw [hheader]
  simp

include hword in
theorem startsOutside_headerLine (o : Options) (n : Notation) :
    StartsOutside isBlank (headerLine o name n) := by
  obtain ⟨before, hbefore, hheader, hstart, -⟩ := exists_headerLine_eq hword o n
  rw [hheader, startsOutside_append hbefore]
  exact hstart

include hword in
theorem endsOutside_headerLine (o : Options) (n : Notation) :
    EndsOutside isBlank (headerLine o name n) := by
  obtain ⟨before, -, hheader, -, -⟩ := exists_headerLine_eq hword o n
  rw [hheader, endsOutside_concat]
  decide

include hword in
theorem not_newline_mem_headerLine (o : Options) (n : Notation) : '\n' ∉ headerLine o name n := by
  obtain ⟨before, -, hheader, -, hbefore⟩ := exists_headerLine_eq hword o n
  rw [hheader, List.mem_append, not_or]
  exact ⟨hbefore, by decide⟩

include hword in
theorem closesItself_headerLine (o : Options) (n : Notation) :
    closesItself (headerLine o name n) = false := by
  obtain ⟨before, -, hheader, -, -⟩ := exists_headerLine_eq hword o n
  have hreverse : trimStart (headerLine o name n).reverse = '\x7b' :: before.reverse := by
    rw [hheader, List.reverse_append]
    exact trimStart_of_startsOutside (by simp; decide)
  rw [closesItself, hreverse]
  rfl

include hne hword in
theorem structHeader?_headerLine (o : Options) :
    structHeader? (headerLine o name .struct) = some name := by
  have hline : headerLine o name .struct = "type".toList ++ ([' '] ++ (name ++ ([' '] ++
      ("struct".toList ++ " \x7b".toList)))) := rfl
  have hkeyword : "type".toList.isPrefixOf? (headerLine o name .struct)
      = some ([' '] ++ (name ++ ([' '] ++ ("struct".toList ++ " \x7b".toList)))) :=
    List.isPrefixOf?_eq_some_iff_append_eq.mpr hline.symm
  have hname : takeWord? (name ++ ([' '] ++ ("struct".toList ++ " \x7b".toList)))
      = some (name, [' '] ++ ("struct".toList ++ " \x7b".toList)) :=
    takeRun?_append hne hword (by decide)
  have hafter : skipBlanks? ([' '] ++ ("struct".toList ++ " \x7b".toList))
      = some ("struct".toList ++ " \x7b".toList) := by decide
  have hstruct : "struct".toList.isPrefixOf? ("struct".toList ++ " \x7b".toList)
      = some " \x7b".toList := List.isPrefixOf?_eq_some_iff_append_eq.mpr rfl
  rw [structHeader?, trimStart_of_startsOutside (startsOutside_headerLine hword o .struct),
    hkeyword]
  simp only [Option.bind_eq_bind, Option.bind_some, skip_before_name hne hword, hname, hafter,
    hstruct]
  rfl

include hne hword in
theorem interfaceHeader?_headerLine (o : Options) :
    interfaceHeader? (headerLine o name .interface) = some name := by
  have hkeyword : "interface".toList.isPrefixOf?
        ("interface".toList ++ ([' '] ++ (name ++ " \x7b".toList)))
      = some ([' '] ++ (name ++ " \x7b".toList)) :=
    List.isPrefixOf?_eq_some_iff_append_eq.mpr rfl
  have htake : takeWord? (name ++ " \x7b".toList) = some (name, " \x7b".toList) :=
    takeRun?_append hne hword (by decide)
  have hname : interfaceName? ("interface".toList ++ ([' '] ++ (name ++ " \x7b".toList)))
      = some name := by
    rw [interfaceName?, hkeyword]
    simp only [Option.bind_eq_bind, Option.bind_some, skip_before_name hne hword, htake]
    rfl
  rw [interfaceHeader?, trimStart_of_startsOutside (startsOutside_headerLine hword o .interface),
    headerLine]
  cases o.exported with
  | false => exact hname
  | true =>
      have hexport : "export".toList.isPrefixOf?
            ("export ".toList ++ ("interface ".toList ++ (name ++ " \x7b".toList)))
          = some ([' '] ++ ("interface ".toList ++ (name ++ " \x7b".toList))) :=
        List.isPrefixOf?_eq_some_iff_append_eq.mpr rfl
      have hskip : skipBlanks? ([' '] ++ ("interface ".toList ++ (name ++ " \x7b".toList)))
          = some ("interface ".toList ++ (name ++ " \x7b".toList)) := by
        apply skipBlanks?_append (by simp) (by simp [isBlank_space])
        exact (startsOutside_append (by decide)).mpr (by decide)
      simp only [if_true, hexport, hskip, Option.bind_eq_bind, Option.bind_some]
      exact hname

include hne hword in
/-- **The header is read back**, under any options. -/
theorem header?_headerLine (o : Options) (n : Notation) :
    n.header? (headerLine o name n) = some name := by
  cases n with
  | struct => exact structHeader?_headerLine hne hword o
  | interface => exact interfaceHeader?_headerLine hne hword o

end Header

/-! ## Comments -/

section Comments

variable {comment : Option Text}

theorem commentSuffix_some {c : Text} (h : IsComment c) : commentSuffix (some c) = ' ' :: c := by
  have hnonempty : c.isEmpty = false := by simpa using h.ne_nil
  rw [commentSuffix, hnonempty, h.trim_eq]
  rfl

theorem not_newline_mem_commentSuffix (h : ∀ c ∈ comment, IsComment c) :
    '\n' ∉ commentSuffix comment := by
  cases comment with
  | none => simp [commentSuffix]
  | some c =>
      rw [commentSuffix_some (h c rfl), List.mem_cons, not_or]
      exact ⟨by decide, (h c rfl).oneLine⟩

/-- A member ends in its comment or in the mark before it. -/
theorem endsOutside_commentSuffix (h : ∀ c ∈ comment, IsComment c) {before : Text} {mark : Char}
    (hmark : isBlank mark = false) :
    EndsOutside isBlank (before ++ (mark :: commentSuffix comment)) := by
  cases comment with
  | none => rwa [commentSuffix, endsOutside_concat]
  | some c =>
      have hshape : before ++ mark :: ' ' :: c = (before ++ [mark, ' ']) ++ c := by simp
      rw [commentSuffix_some (h c rfl), hshape, endsOutside_append (h c rfl).ne_nil]
      exact (h c rfl).trimmed

theorem trimStart_commentSuffix {c : Text} (h : IsComment c) :
    trimStart (commentSuffix (some c)) = c := by
  rw [commentSuffix_some h]
  apply trimStart_space
  obtain ⟨rest, rfl⟩ := h.exists_eq
  rw [startsOutside_cons]
  decide

/-- Behind a tag both kinds of comment are read. -/
theorem commentAfterTag_commentSuffix (h : ∀ c ∈ comment, IsComment c) :
    FieldTail.commentAfterTag (trimStart (commentSuffix comment)) = comment := by
  cases comment with
  | none => exact FieldTail.commentAfterTag_nil
  | some c =>
      rw [trimStart_commentSuffix (h c rfl), FieldTail.commentAfterTag_of_start (h c rfl).start,
        dropFinalNewline_of_not_mem (h c rfl).oneLine]

/-- Behind a property only a line comment is read. -/
theorem exists_tail_commentSuffix (h : ∀ c ∈ comment, IsLineComment c) :
    ∃ tail, Property.Tail.ofText? (trimStart (commentSuffix comment)) = some tail ∧
      tail.comment? = comment := by
  cases comment with
  | none => exact ⟨.nothing, Property.tail_nothing, rfl⟩
  | some c =>
      refine ⟨.comment c, ?_, rfl⟩
      rw [commentSuffix_some (h c rfl).isComment]
      exact Property.tail_comment (h c rfl)

theorem map_trim_comment (h : ∀ c ∈ comment, IsComment c) : comment.map trim = comment := by
  cases comment with
  | none => rfl
  | some c => rw [Option.map_some, (h c rfl).trim_eq]

end Comments

/-! ## Lines of a struct -/

/-- The parts of a field stay on its line in a struct and can be told
apart there, as far as its name is a word. -/
structure FitsStruct (v : Vocabulary) (f : Field) : Prop where
  key_ne_nil : f.jsonName ≠ []
  key : ∀ c ∈ f.jsonName, isKeyChar c = true
  name_oneLine : '\n' ∉ Name.pascal f.jsonName
  type_ne_nil : f.type.toStruct v ≠ []
  type : ∀ c ∈ f.type.toStruct v, isStructTypeChar c = true
  comment : ∀ c ∈ f.comment, IsComment c

/-- The tag of a field, without its quotes. -/
def tagOf (f : Field) : Text := (JsonEntry.mk f.jsonName f.omittable).toTag

theorem memberLine_struct_eq (v : Vocabulary) (f : Field) : memberLine v .struct f
    = "\t".toList ++ (Name.pascal f.jsonName ++ ([' '] ++ (f.type.toStruct v ++ ([' '] ++
        '`' :: (tagOf f ++ '`' :: commentSuffix f.comment))))) := by
  rw [memberLine, JsonEntry.quotedTag, tagOf]
  simp only [List.append_assoc, List.cons_append, List.nil_append]
  rfl

/-- A member stays on its line in a struct if its parts do. -/
theorem not_newline_mem_structLine (hkey : '\n' ∉ f.jsonName)
    (hname : '\n' ∉ Name.pascal f.jsonName) (htype : '\n' ∉ f.type.toStruct v)
    (hcomment : ∀ c ∈ f.comment, IsComment c) : '\n' ∉ memberLine v .struct f := by
  rw [memberLine_struct_eq]
  simp only [List.mem_append, List.mem_cons, List.not_mem_nil, or_false, not_or]
  exact ⟨by decide, hname, by decide, htype, by decide, by decide,
    JsonEntry.not_mem_toTag hkey (by decide) (by decide) (by decide), by decide,
    not_newline_mem_commentSuffix hcomment⟩

theorem endsOutside_structLine (hcomment : ∀ c ∈ f.comment, IsComment c) :
    EndsOutside isBlank (memberLine v .struct f) := by
  have hshape : memberLine v .struct f = ("\t".toList ++ (Name.pascal f.jsonName ++ ([' '] ++
      (f.type.toStruct v ++ ([' ', '`'] ++ tagOf f))))) ++ '`' :: commentSuffix f.comment := by
    rw [memberLine_struct_eq]
    simp only [List.append_assoc, List.cons_append, List.nil_append]
  rw [hshape]
  exact endsOutside_commentSuffix hcomment (by decide)

/-- Every line of a struct has its tag. -/
theorem untagged?_memberLine (v : Vocabulary) (f : Field) :
    TagRepair.untagged? (memberLine v .struct f) = none := by
  have hshape : memberLine v .struct f = ("\t".toList ++ (Name.pascal f.jsonName ++ ([' '] ++
      (f.type.toStruct v ++ [' ', '`'])))) ++ (tagOf f ++ '`' :: commentSuffix f.comment) := by
    rw [memberLine_struct_eq]
    simp only [List.append_assoc, List.cons_append, List.nil_append]
  rw [hshape]
  exact TagRepair.untagged?_of_toTag _ _ _

namespace FitsStruct

variable (h : FitsStruct v f)

include h

theorem not_newline_mem : '\n' ∉ memberLine v .struct f :=
  not_newline_mem_structLine (not_mem_of_class h.key (by decide)) h.name_oneLine
    (not_mem_of_class h.type (by decide)) h.comment

theorem endsOutside : EndsOutside isBlank (memberLine v .struct f) :=
  endsOutside_structLine h.comment

/-- A line whose name is a word is taken apart as it was put together. -/
theorem ofLine?_memberLine (hne : Name.pascal f.jsonName ≠ [])
    (hword : ∀ c ∈ Name.pascal f.jsonName, isWord c = true) :
    FieldLine.ofLine? (memberLine v .struct f) = some
      ⟨"\t".toList, Name.pascal f.jsonName, f.type.toStruct v, .tagged (tagOf f) f.comment⟩ := by
  have htag : '`' ∉ tagOf f :=
    JsonEntry.not_mem_toTag (not_mem_of_class h.key (by decide)) (by decide) (by decide) (by decide)
  have htail : FieldTail.ofText? ([' '] ++ '`' :: (tagOf f ++ '`' :: commentSuffix f.comment))
      = some (.tagged (tagOf f) f.comment) := by
    conv => rhs; rw [← commentAfterTag_commentSuffix h.comment]
    exact FieldTail.ofText?_of_tagged? (FieldTail.tagged?_append (by simp)
      (by simp [isBlank_space]) htag (not_newline_mem_commentSuffix h.comment))
  have htab : ∀ c ∈ "\t".toList, isBlank c = true := List.all_eq_true.mp (by decide)
  refine FieldLine.ofLine?_eq_some_iff.mpr
    ⟨⟨htab, hne, hword, h.type_ne_nil, h.type⟩, [' '], _, memberLine_struct_eq v f, by simp,
      by simp [isBlank_space], ?_, htail⟩
  rw [List.singleton_append, startsOutside_cons]
  exact isStructTypeChar_of_isBlank isBlank_space

/-- **A field with an exported name is read back from its line in a
struct**, under that name. -/
theorem structField?_memberLine (hexported : Name.isExported (Name.pascal f.jsonName) = true)
    (hword : ∀ c ∈ Name.pascal f.jsonName, isWord c = true) :
    structField? v (memberLine v .struct f) = some
      { name := Name.pascal f.jsonName
        type := TypeExpr.ofStruct v (f.type.toStruct v)
        jsonName := f.jsonName
        omittable := f.omittable
        comment := f.comment } := by
  have hne : Name.pascal f.jsonName ≠ [] := by
    intro hnil
    rw [hnil] at hexported
    exact absurd hexported (by decide)
  have hentry : FieldLine.entry?
      ⟨"\t".toList, Name.pascal f.jsonName, f.type.toStruct v, .tagged (tagOf f) f.comment⟩
      = some ⟨f.jsonName, f.omittable⟩ := JsonEntry.ofTag?_toTag_of_key h.key
  have hserialised := (FieldLine.serialised_of_entry hentry).trans (if_neg h.key_ne_nil)
  -- a dash would take the field out of the serialised form
  have hdash : f.jsonName ≠ ['-'] := ne_singleton_of_class h.key (by decide)
  rw [structField?, h.ofLine?_memberLine hne hword]
  show FieldLine.toField? v _ = _
  rw [FieldLine.toField?_of_serialised hexported hserialised hdash]
  simp only [FieldLine.comment?, map_trim_comment h.comment]

end FitsStruct

/-! ## Lines of an interface -/

/-- The parts of a field stay on its line in an interface, and its type
can be told apart there. -/
structure FitsInterface (v : Vocabulary) (f : Field) : Prop where
  name_oneLine : '\n' ∉ f.jsonName
  type_ne_nil : trimStart (interfaceTypeText v f) ≠ []
  type : ∀ c ∈ interfaceTypeText v f, Property.isTypeChar c = true
  type_oneLine : '\n' ∉ interfaceTypeText v f
  type_ends : EndsOutside isBlank (interfaceTypeText v f)
  comment : ∀ c ∈ f.comment, IsComment c

namespace FitsInterface

variable (h : FitsInterface v f)

include h

theorem not_newline_mem : '\n' ∉ memberLine v .interface f := by
  have hmark : '\n' ∉ (if f.omittable then ['?'] else []) := by
    split <;> decide
  rw [memberLine]
  simp only [List.mem_append, not_or]
  exact ⟨by decide, h.name_oneLine, hmark, by decide, h.type_oneLine, by decide,
    not_newline_mem_commentSuffix h.comment⟩

theorem endsOutside : EndsOutside isBlank (memberLine v .interface f) := by
  have hshape : memberLine v .interface f = ("  ".toList ++ (f.jsonName ++
      ((if f.omittable then ['?'] else []) ++ (": ".toList ++ interfaceTypeText v f)))) ++
        ';' :: commentSuffix f.comment := by
    rw [memberLine]
    simp only [List.append_assoc]
    rfl
  rw [hshape]
  exact endsOutside_commentSuffix h.comment (by decide)

/-- The line of a field whose serialised name is a word is taken apart as
it was put together, if its comment can be. -/
theorem ofLine?_memberLine (hne : f.jsonName ≠ []) (hword : ∀ c ∈ f.jsonName, isWord c = true) :
    Property.ofLine? (memberLine v .interface f)
      = (Property.Tail.ofText? (trimStart (commentSuffix f.comment))).map fun tail =>
          ⟨f.jsonName, f.omittable, trimStart (interfaceTypeText v f), tail.comment?⟩ :=
  Property.ofLine?_written (List.all_eq_true.mp (by decide)) hne hword h.type_ne_nil h.type
    h.type_ends

/-- **A field whose serialised name is a word is read back from its line
in an interface**, if its comment is a line comment. -/
theorem interfaceField?_memberLine (hne : f.jsonName ≠ [])
    (hword : ∀ c ∈ f.jsonName, isWord c = true) (hcomment : ∀ c ∈ f.comment, IsLineComment c) :
    interfaceField? v (memberLine v .interface f) = some
      { name := f.jsonName
        type := Union.toType v f.omittable (trimStart (interfaceTypeText v f))
        jsonName := f.jsonName
        omittable := f.omittable
        comment := f.comment } := by
  obtain ⟨tail, htail, hkept⟩ := exists_tail_commentSuffix hcomment
  rw [interfaceField?, h.ofLine?_memberLine hne hword, htail, Option.map_some, Option.map_some,
    Property.toField, hkept]
  simp only [map_trim_comment h.comment]

/-- A block comment keeps the line from being read. -/
theorem interfaceField?_of_blockComment (hne : f.jsonName ≠ [])
    (hword : ∀ c ∈ f.jsonName, isWord c = true) {comment : Text}
    (hcomment : f.comment = some comment) (hblock : "/*".toList <+: comment) :
    interfaceField? v (memberLine v .interface f) = none := by
  have hsuffix : commentSuffix f.comment = ' ' :: comment := by
    rw [hcomment]
    exact commentSuffix_some (h.comment comment hcomment)
  rw [interfaceField?, h.ofLine?_memberLine hne hword, hsuffix,
    Property.tail_blockComment hblock]
  rfl

end FitsInterface

/-! ## Blocks -/

/-- The field that is read from the line of a field. -/
def readBack (v : Vocabulary) (n : Notation) (f : Field) : Option Field :=
  n.lineField? v (memberLine v n f)

/-- What a serialised member is known by: its name, whether it may be left
out, and its comment. -/
structure SameMember (f f' : Field) : Prop where
  jsonName : f'.jsonName = f.jsonName
  omittable : f'.omittable = f.omittable
  comment : f'.comment = f.comment

/-- Whether the block goes on behind the line of a field. -/
def staysOpen (v : Vocabulary) (n : Notation) (f : Field) : Bool :=
  !isClosing (memberLine v n f)

/-- A pair per field that is read back, when a test tells which are. -/
theorem forall₂_readBack {R : Field → Field → Prop} {p : Field → Bool} {fs : List Field}
    (hkept : ∀ f ∈ fs, p f = true → ∃ f', readBack v n f = some f' ∧ R f f')
    (hlost : ∀ f ∈ fs, p f = false → readBack v n f = none) :
    List.Forall₂ R (fs.filter p) (fs.filterMap (readBack v n)) := by
  induction fs with
  | nil => exact .nil
  | cons f fs ih =>
      have hrest := ih (fun g hg => hkept g (by simp [hg])) fun g hg => hlost g (by simp [hg])
      cases hp : p f with
      | true =>
          obtain ⟨f', hread, hrel⟩ := hkept f (by simp) hp
          rw [List.filter_cons_of_pos hp, List.filterMap_cons_some hread]
          exact .cons hrel hrest
      | false =>
          rw [List.filter_cons_of_neg (by simp [hp]),
            List.filterMap_cons_none (hlost f (by simp) hp)]
          exact hrest

/-- Lines that end without blanks are left as they are. -/
theorem tidy_unlines {ls : List Text} (hne : ls ≠ [])
    (h : ∀ line ∈ ls, '\n' ∉ line ∧ EndsOutside isBlank line) : tidy (unlines ls) = unlines ls := by
  have hlines : (lines (unlines ls)).map trimEnd = ls := by
    rw [lines_unlines hne fun line hline => (h line hline).1]
    conv => rhs; rw [← List.map_id ls]
    exact List.map_congr_left fun line hline => trimEnd_of_endsOutside (h line hline).2
  rw [tidy, hlines]

section Block

variable (hne : d.name ≠ []) (hword : ∀ c ∈ d.name, isWord c = true)
  (hfields : ∀ f ∈ d.fields, '\n' ∉ memberLine o.vocabulary n f ∧
    EndsOutside isBlank (memberLine o.vocabulary n f))

include hword hfields in
theorem tidy_block : tidy (block o n d) = block o n d := by
  refine tidy_unlines (by simp) ?_
  intro line hline
  simp only [List.mem_cons, List.mem_append, List.not_mem_nil, or_false] at hline
  rcases hline with rfl | hline | rfl
  · exact ⟨not_newline_mem_headerLine hword o n, endsOutside_headerLine hword o n⟩
  · obtain ⟨f, hf, rfl⟩ := List.mem_map.mp hline
    exact hfields f hf
  · exact ⟨by decide, by decide⟩

include hword hfields in
theorem not_newline_mem_block :
    ∀ line ∈ headerLine o d.name n :: d.fields.map (memberLine o.vocabulary n), '\n' ∉ line := by
  intro line hline
  rcases List.mem_cons.mp hline with rfl | hline
  · exact not_newline_mem_headerLine hword o n
  · obtain ⟨f, hf, rfl⟩ := List.mem_map.mp hline
    exact (hfields f hf).1

include hword hfields in
/-- A written block has a line per field. -/
theorem lines_block : lines (block o n d)
    = headerLine o d.name n :: (d.fields.map (memberLine o.vocabulary n) ++ [['}']]) :=
  Block.lines_block (not_newline_mem_block hword hfields)

include hne hword hfields in
theorem body_block : Block.body n (block o n d)
    = (d.fields.map (memberLine o.vocabulary n)).takeWhile (!isClosing ·) :=
  Block.body_block (header?_headerLine hne hword o n) (closesItself_headerLine hword o n)
    (not_newline_mem_block hword hfields)

include hne hword hfields in
/-- **A written block declares what its lines declare**, one by one and in
order, up to the first line that closes it. -/
theorem read_block : Declaration.read o.vocabulary n (block o n d)
    = .ok ⟨d.name, n,
        (d.fields.takeWhile (staysOpen o.vocabulary n)).filterMap (readBack o.vocabulary n),
        true⟩ := by
  rw [block, Declaration.read_block (header?_headerLine hne hword o n)
    (closesItself_headerLine hword o n) (not_newline_mem_block hword hfields), List.takeWhile_map,
    List.filterMap_map]
  rfl

include hword in
/-- A written block has no blanks at its ends. -/
theorem trim_block (o : Options) (n : Notation) : trim (block o n d) = block o n d := by
  apply trim_of_outside
  · rw [block, startsOutside_unlines (headerLine_ne_nil hword o n)]
    exact startsOutside_headerLine hword o n
  · rw [block, ← List.cons_append, endsOutside_unlines (by decide)]
    decide

include hne hword in
/-- **A written block is recognised**, whatever its lines declare. -/
theorem classify_block (o : Options) (n : Notation) : classify (block o n d) = .ok n := by
  have hfirst : firstLine (block o n d) = headerLine o d.name n := by
    rw [firstLine, trim_block hword, block]
    exact takeWhile_unlines (not_newline_mem_headerLine hword o n)
  have hheader : n.header? (firstLine (block o n d)) = some d.name := by
    rw [hfirst]
    exact header?_headerLine hne hword o n
  exact classify_of_header? hheader

end Block

/-- A written struct misses no tag. -/
theorem missing_block (hne : d.name ≠ []) (hword : ∀ c ∈ d.name, isWord c = true)
    (hfields : ∀ f ∈ d.fields, '\n' ∉ memberLine o.vocabulary .struct f ∧
      EndsOutside isBlank (memberLine o.vocabulary .struct f)) :
    TagRepair.missing (block o .struct d) = [] := by
  rw [TagRepair.missing, body_block hne hword hfields, List.filterMap_eq_nil_iff]
  intro line hline
  obtain ⟨f, -, rfl⟩ := List.mem_map.mp ((List.takeWhile_prefix _).subset hline)
  rw [untagged?_memberLine]
  rfl

end Emission

/-! ## Conversions -/

namespace Conversion

open Emission

variable {n : Notation} {t : Text}

/-- **A text is converted to a block, which is read line by line**, when
each field of its body stays on a line in the other notation. -/
theorem exists_block_of_lines (fs : Files) (check : Bool) (hverdict : classify t = .ok n)
    (hcomplete : n = .struct → check = true → TagRepair.missing (trim t) = [])
    (hlines : ∀ line ∈ Block.body n (trim t), ∀ f, n.field? .default line = some f →
      '\n' ∉ memberLine .default n.target f ∧
        EndsOutside isBlank (memberLine .default n.target f)) :
    ∃ d, Declaration.read .default n (trim t) = .ok d ∧
      (∀ f ∈ d.fields, ∃ line ∈ Block.body n (trim t), n.field? .default line = some f) ∧
      ofText fs { tagCheck := .bool check } t = .ok (.converted n d (block {} n.target d)) ∧
      lines (block {} n.target d) = headerLine {} d.name n.target ::
        (d.fields.map (memberLine .default n.target) ++ [['}']]) ∧
      Declaration.read .default n.target (block {} n.target d) = .ok ⟨d.name, n.target,
        (d.fields.takeWhile (staysOpen .default n.target)).filterMap (readBack .default n.target),
        true⟩ := by
  obtain ⟨name, hname⟩ := exists_header_of_classify hverdict
  obtain ⟨hnameNe, hnameWord⟩ := Notation.word_of_header? hname
  have hread := Declaration.read_of_header? .default hname
  -- what is known of the fields is known from the lines they were read from
  have hsource : ∀ f ∈ Declaration.fieldsOf .default n (Block.body n (trim t)),
      ∃ line ∈ Block.body n (trim t), n.field? .default line = some f :=
    fun f hf => Declaration.exists_line_of_mem_fields hread hf
  have hfields : ∀ f ∈ Declaration.fieldsOf .default n (Block.body n (trim t)),
      '\n' ∉ memberLine .default n.target f ∧
        EndsOutside isBlank (memberLine .default n.target f) := by
    intro f hf
    obtain ⟨line, hline, hfield⟩ := hsource f hf
    exact hlines line hline f hfield
  have hsettings : Settings.UsesBuiltIn fs { tagCheck := .bool check } :=
    Settings.usesBuiltIn_of_noFolder fs rfl rfl rfl
  have hcheck : n = .struct → (Settings.tagCheck { tagCheck := .bool check }).isSet = true →
      TagRepair.missing (trim t) = [] := by
    intro hstruct hset
    cases check with
    | true => exact hcomplete hstruct rfl
    | false => exact absurd hset (by decide)
  have hconverted := ofText_eq_converted hsettings (o := {}) rfl hverdict hcheck hread
  rw [tidy_block hnameWord hfields] at hconverted
  exact ⟨_, hread, hsource, hconverted, lines_block hnameWord hfields,
    read_block hnameNe hnameWord hfields⟩

end Conversion

end WireTypes
