import WireTypes.Proofs.Struct.Retagging
import WireTypes.Proofs.Struct.RewrittenLines
import WireTypes.Proofs.Struct.TaggedLine
import WireTypes.Proofs.TypeExpr.Marks

/-!
# Struct — One reading of a field line

A line is read as its parts and one tail, with a tag or without, so it
cannot have the forms of both (`FieldLine.not_tagged_and_untagged`). Where
the type ends is settled by the characters: what may stand behind a type is
no character of one (`FieldLine.Opening.ofLine?_before`). From there on a
backquote behind blanks opens a tag, and a line comment is kept as it is,
with any backquotes in it.
-/

namespace WireTypes

open Text
open TypeExpr (Gap)

variable {v : Vocabulary} {line tag rest : Text} {tail : FieldTail}

/-! ## The two forms of a line -/

namespace FieldLine

/-- The lines that are read with a tag. -/
theorem exists_taggedLine_iff (hline : '\n' ∉ line) :
    (∃ u : TaggedLine, u.toText = line) ↔
      ∃ l tag comment, ofLine? line = some l ∧ l.tail = .tagged tag comment := by
  constructor
  · rintro ⟨u, rfl⟩
    exact ⟨u.parts, _, _, TaggedLine.ofLine?_toText hline, rfl⟩
  · rintro ⟨l, tag, comment, hread, htail⟩
    obtain ⟨hl, gap, after, rfl, hgap, hblank, -, hafter⟩ := ofLine?_eq_some_iff.mp hread
    rw [htail] at hafter
    obtain ⟨lead, tag', rest, rfl, hlead, hleadBlank, htag, -, -⟩ :=
      FieldTail.tagged?_eq_some_iff.mp (FieldTail.tagged?_of_ofText? hafter)
    exact ⟨⟨l.indent, l.name, gap, l.type, lead, tag', rest, hl.indent, hl.name_ne_nil, hl.name,
      hgap, hblank, hl.type_ne_nil, hl.type, hlead, hleadBlank, htag⟩, rfl⟩

/-- The lines that are read without one. -/
theorem exists_untaggedLine_iff :
    (∃ u : UntaggedLine, u.toText = line) ↔
      ∃ l comment, ofLine? line = some l ∧ l.tail = .untagged comment := by
  constructor
  · rintro ⟨u, rfl⟩
    exact ⟨u.parts, _, u.ofLine?_toText, rfl⟩
  · rintro ⟨l, comment, hread, htail⟩
    obtain ⟨u, hu, -⟩ := UntaggedLine.exists_of_ofLine? hread htail
    exact ⟨u, hu⟩

/-- No line has both forms: it is read with one tail. -/
theorem not_tagged_and_untagged (hline : '\n' ∉ line) :
    ¬ ((∃ u : TaggedLine, u.toText = line) ∧ ∃ u : UntaggedLine, u.toText = line) := by
  rw [exists_taggedLine_iff hline, exists_untaggedLine_iff]
  rintro ⟨⟨l, tag, comment, hread, htail⟩, l', comment', hread', htail'⟩
  cases hread.symm.trans hread'
  cases htail.symm.trans htail'

end FieldLine

/-! ## Comments as they are written -/

/-- A line comment, perhaps with blanks at its end. -/
structure LineComment where
  text : Text
  start : "//".toList <+: text
  oneLine : '\n' ∉ text

namespace LineComment

/-- The text of a comment, if there is one. -/
def textOf (comment : Option LineComment) : Text := comment.elim [] LineComment.text

/-- What is kept of a comment. -/
def kept (comment : Option LineComment) : Option Text := comment.map fun c => trim c.text

variable {comment : Option LineComment}

theorem startsOutside_textOf {p : Char → Bool} (hp : p '/' = false) :
    StartsOutside p (textOf comment) := by
  cases comment with
  | none => exact startsOutside_nil
  | some c =>
      obtain ⟨more, hmore⟩ := c.start
      show StartsOutside p c.text
      rw [← hmore]
      exact startsOutside_cons.mpr hp

theorem oneLine_textOf : '\n' ∉ textOf comment := by
  cases comment with
  | none => exact List.not_mem_nil
  | some c => exact c.oneLine

theorem trimStart_textOf (gap : Gap) : trimStart (gap.text ++ textOf comment) = textOf comment := by
  rw [trimStart_append gap.blank, trimStart_of_startsOutside (startsOutside_textOf (by decide))]

theorem commentAfterTag_textOf :
    (FieldTail.commentAfterTag (textOf comment)).map trim = kept comment := by
  cases comment with
  | none => rfl
  | some c =>
      show (FieldTail.commentAfterTag c.text).map trim = some (trim c.text)
      rw [FieldTail.commentAfterTag_of_start (Or.inl c.start),
        dropFinalNewline_of_not_mem c.oneLine, Option.map_some]

end LineComment

open LineComment (textOf kept)

/-! ## Lines put together -/

namespace FieldLine

/-- What a field line starts with, up to its type. -/
structure Opening where
  indent : Gap
  name : Text
  name_ne_nil : name ≠ []
  isWord_name : ∀ c ∈ name, isWord c = true
  gap : Gap
  gap_ne_nil : gap.text ≠ []
  type : Text
  type_ne_nil : type ≠ []
  isStructTypeChar_type : ∀ c ∈ type, isStructTypeChar c = true

namespace Opening

/-- The line that goes on with `rest` behind its type. -/
def before (o : Opening) (rest : Text) : Text :=
  o.indent.text ++ (o.name ++ (o.gap.text ++ (o.type ++ rest)))

/-- The line without a tag. -/
def untagged (o : Opening) (lead : Gap) (comment : Option LineComment) (trail : Gap) : Text :=
  o.before (lead.text ++ (textOf comment ++ trail.text))

/-- The line with a tag. -/
def tagged (o : Opening) (lead : Gap) (tag : Text) (gap : Gap) (comment : Option LineComment) :
    Text :=
  o.before (lead.text ++ '`' :: (tag ++ '`' :: (gap.text ++ textOf comment)))

/-- The field with this name and type under an entry. -/
def field (o : Opening) (v : Vocabulary) (e : JsonEntry) (comment : Option LineComment) :
    Field where
  name := o.name
  type := TypeExpr.ofStruct v o.type
  jsonName := e.name
  omittable := e.omittable
  comment := kept comment

variable {o : Opening} {lead gap trail : Gap} {comment : Option LineComment}

/-- What stands behind the type decides what is read. -/
theorem ofLine?_before (hrest : StartsOutside isStructTypeChar rest)
    (htail : FieldTail.ofText? rest = some tail) :
    ofLine? (o.before rest) = some ⟨o.indent.text, o.name, o.type, tail⟩ :=
  ofLine?_eq_some_iff.mpr
    ⟨⟨o.indent.blank, o.name_ne_nil, o.isWord_name, o.type_ne_nil, o.isStructTypeChar_type⟩,
      o.gap.text, rest, rfl, o.gap_ne_nil, o.gap.blank, hrest, htail⟩

/-- A line without a tag has the form of one, and its comment is kept. -/
theorem exists_untaggedLine (o : Opening) (lead : Gap) (comment : Option LineComment)
    (trail : Gap) : ∃ u : UntaggedLine, u.toText = o.untagged lead comment trail ∧
      u.name = o.name ∧ u.type = o.type ∧ u.parts.comment?.map trim = kept comment := by
  cases comment with
  | none =>
      have htrail : ∀ c ∈ lead.text ++ trail.text, isBlank c = true := fun c hc =>
        (List.mem_append.mp hc).elim (lead.blank c) (trail.blank c)
      exact ⟨⟨o.indent.text, o.name, o.gap.text, o.type, [], lead.text ++ trail.text,
        o.indent.blank, o.name_ne_nil, o.isWord_name, o.gap_ne_nil, o.gap.blank, o.type_ne_nil,
        o.isStructTypeChar_type, Or.inl rfl, htrail⟩, rfl, rfl, rfl, rfl⟩
  | some c =>
      -- blanks at the ends of the comment count as blanks around it
      obtain ⟨first, last, hc, hfirst, hlast⟩ := exists_trim_between c.text
      have htext : IsLineComment (trim c.text) := isLineComment_trim c.start c.oneLine
      have hlead : ∀ d ∈ lead.text ++ first, isBlank d = true := fun d hd =>
        (List.mem_append.mp hd).elim (lead.blank d) (hfirst d)
      have htrail : ∀ d ∈ last ++ trail.text, isBlank d = true := fun d hd =>
        (List.mem_append.mp hd).elim (hlast d) (trail.blank d)
      have hne : lead.text ++ first ++ trim c.text ≠ [] :=
        List.append_ne_nil_of_right_ne_nil _ htext.ne_nil
      refine ⟨⟨o.indent.text, o.name, o.gap.text, o.type, lead.text ++ first ++ trim c.text,
        last ++ trail.text, o.indent.blank, o.name_ne_nil, o.isWord_name, o.gap_ne_nil,
        o.gap.blank, o.type_ne_nil, o.isStructTypeChar_type,
        Or.inr ⟨_, _, rfl, hlead, htext⟩, htrail⟩, ?_, rfl, rfl, ?_⟩
      · show o.before _ = o.before (lead.text ++ (c.text ++ trail.text))
        conv => rhs; rw [hc]
        simp only [List.append_assoc]
      · have htrim : trim (lead.text ++ first ++ (trim c.text ++ [])) = trim c.text :=
          htext.trim_append hlead (by simp)
        rw [List.append_nil] at htrim
        simp only [UntaggedLine.parts, comment?, if_neg hne, Option.map_some, htrim]
        rfl

/-- **A line without a tag** declares its field under the camel form of the
name. -/
theorem structField?_untagged (hexported : Name.isExported o.name = true) :
    structField? v (o.untagged lead comment trail)
      = some (o.field v ⟨Name.camel o.name, false⟩ comment) := by
  obtain ⟨u, hu, hname, htype, hcomment⟩ := o.exists_untaggedLine lead comment trail
  have hserialised : u.parts.serialised = ⟨Name.camel u.name, false⟩ :=
    serialised_of_untagged rfl
  rw [← hname] at hexported
  rw [← hu, structField?, u.ofLine?_toText]
  refine (toField?_of_serialised hexported hserialised
    (Name.camel_ne_dash hexported)).trans ?_
  rw [hcomment, field, ← hname, ← htype]
  rfl

section Tagged

variable (hlead : lead.text ≠ []) (htag : '`' ∉ tag)

/-- The parts that a line with a tag is read as. -/
def taggedParts (o : Opening) (tag : Text) (comment : Option LineComment) : FieldLine where
  indent := o.indent.text
  name := o.name
  type := o.type
  tail := .tagged tag (FieldTail.commentAfterTag (textOf comment))

include hlead htag in
/-- **A line with a tag** is read as its parts. -/
theorem structField?_tagged : structField? v (o.tagged lead tag gap comment)
    = (o.taggedParts tag comment).toField? v := by
  have hfits : fitsLine (trimStart (gap.text ++ textOf comment)) = true := by
    rw [LineComment.trimStart_textOf]
    exact fitsLine_of_not_mem LineComment.oneLine_textOf
  have htail := FieldTail.ofText?_of_tagged? (FieldTail.tagged?_eq_some_iff.mpr
    ⟨lead.text, tag, gap.text ++ textOf comment, rfl, hlead, lead.blank, htag, hfits, rfl⟩)
  rw [LineComment.trimStart_textOf] at htail
  have hstop : StartsOutside isStructTypeChar
      (lead.text ++ '`' :: (tag ++ '`' :: (gap.text ++ textOf comment))) := by
    rw [startsOutside_append hlead]
    exact startsOutside_of_forall fun c hc => isStructTypeChar_of_isBlank (lead.blank c hc)
  rw [structField?, tagged, ofLine?_before hstop htail]
  rfl

/-- The field under the entry that the tag leads to. -/
theorem toField?_taggedParts {e : JsonEntry} (hexported : Name.isExported o.name = true)
    (he : (o.taggedParts tag comment).serialised = e) (hdash : e.name ≠ ['-']) :
    (o.taggedParts tag comment).toField? v = some (o.field v e comment) := by
  refine (toField?_of_serialised (l := o.taggedParts tag comment) hexported he
    hdash).trans ?_
  rw [field, ← LineComment.commentAfterTag_textOf]
  rfl

end Tagged

end Opening

end FieldLine

open FieldLine (Opening)

/-- **A field line has one reading.** A line has the form of one with a tag
exactly if it is read with a tag, the form of one without exactly if it is
read without, and never both. However the parts are spaced, a line without
a tag is read as its name and type under the camel form of the name; a line
with a tag is read under the entry of the tag, with the name itself where
the entry names none and the camel form where there is no entry, and it
declares nothing if the entry's name is a dash. A line comment behind
either is kept without the blanks around it. -/
theorem structField?_readings (v : Vocabulary) :
    (∀ line, '\n' ∉ line →
      ((∃ u : TaggedLine, u.toText = line) ↔
        ∃ l tag comment, FieldLine.ofLine? line = some l ∧ l.tail = .tagged tag comment) ∧
      ((∃ u : UntaggedLine, u.toText = line) ↔
        ∃ l comment, FieldLine.ofLine? line = some l ∧ l.tail = .untagged comment) ∧
      ¬ ((∃ u : TaggedLine, u.toText = line) ∧ ∃ u : UntaggedLine, u.toText = line)) ∧
    (∀ (o : Opening) (lead : Gap) (comment : Option LineComment) (trail : Gap),
      Name.isExported o.name = true →
      structField? v (o.untagged lead comment trail)
        = some (o.field v ⟨Name.camel o.name, false⟩ comment)) ∧
    ∀ (o : Opening) (lead : Gap) (tag : Text) (gap : Gap) (comment : Option LineComment),
      Name.isExported o.name = true → lead.text ≠ [] → '`' ∉ tag →
      (JsonEntry.ofTag? tag = none → structField? v (o.tagged lead tag gap comment)
        = some (o.field v ⟨Name.camel o.name, false⟩ comment)) ∧
      ∀ e, JsonEntry.ofTag? tag = some e →
        (e.name = [] → structField? v (o.tagged lead tag gap comment)
          = some (o.field v ⟨o.name, e.omittable⟩ comment)) ∧
        (e.name = ['-'] → structField? v (o.tagged lead tag gap comment) = none) ∧
        (e.name ≠ [] → e.name ≠ ['-'] → structField? v (o.tagged lead tag gap comment)
          = some (o.field v e comment)) := by
  refine ⟨fun line hline => ⟨FieldLine.exists_taggedLine_iff hline,
    FieldLine.exists_untaggedLine_iff, FieldLine.not_tagged_and_untagged hline⟩,
    fun o lead comment trail hexported => Opening.structField?_untagged hexported,
    fun o lead tag gap comment hexported hlead htag => ?_⟩
  rw [Opening.structField?_tagged hlead htag]
  have hentry : FieldLine.entry? (o.taggedParts tag comment) = JsonEntry.ofTag? tag := rfl
  refine ⟨fun hnone => ?_, fun e he => ?_⟩
  · exact Opening.toField?_taggedParts hexported
      (FieldLine.serialised_of_no_entry (hentry.trans hnone)) (Name.camel_ne_dash hexported)
  · have hserialised := FieldLine.serialised_of_entry (hentry.trans he)
    refine ⟨fun hnil => ?_, fun hdash => ?_, fun hne hdash => ?_⟩
    · exact Opening.toField?_taggedParts hexported (hserialised.trans (if_pos hnil))
        (ne_singleton_of_class o.isWord_name (by decide))
    · have hself : (o.taggedParts tag comment).serialised = e :=
        hserialised.trans (if_neg (by rw [hdash]; exact List.cons_ne_nil _ _))
      rw [FieldLine.toField?, hself, hdash]
      simp
    · exact Opening.toField?_taggedParts hexported (hserialised.trans (if_neg hne)) hdash

/-- The start of a line, up to its type. -/
def weightOpening : Opening where
  indent := ⟨"\t\t".toList, List.all_eq_true.mp (by decide)⟩
  name := "NetWeight".toList
  name_ne_nil := by decide
  isWord_name := List.all_eq_true.mp (by decide)
  gap := ⟨" \t".toList, List.all_eq_true.mp (by decide)⟩
  gap_ne_nil := by decide
  type := "*float64".toList
  type_ne_nil := by decide
  isStructTypeChar_type := List.all_eq_true.mp (by decide)

/-- A comment with backquotes in it, and a blank at its end. -/
def weightComment : LineComment where
  text := "// in `kg` ".toList
  start := ⟨" in `kg` ".toList, rfl⟩
  oneLine := by decide

theorem structField?_readings_weight :
    let o := weightOpening
    let space : Gap := ⟨[' '], List.all_eq_true.mp (by decide)⟩
    let noGap : Gap := ⟨[], List.forall_mem_nil _⟩
    let field := fun e => o.field .default e (some weightComment)
    let line := o.untagged space (some weightComment) noGap
    let tagged := fun tag => structField? .default (o.tagged space tag noGap (some weightComment))
    line = "\t\tNetWeight \t*float64 // in `kg` ".toList ∧
    (¬ ((∃ u : TaggedLine, u.toText = line) ∧ ∃ u : UntaggedLine, u.toText = line)) ∧
    structField? .default line = some (field ⟨"netWeight".toList, false⟩) ∧
    tagged "xml:\"w\"".toList = some (field ⟨"netWeight".toList, false⟩) ∧
    tagged "json:\",omitempty\"".toList = some (field ⟨"NetWeight".toList, true⟩) ∧
    tagged "json:\"-\"".toList = none ∧
    tagged "json:\"net\"".toList = some (field ⟨"net".toList, false⟩) := by
  intro o space noGap field line tagged
  obtain ⟨hone, huntagged, htagged⟩ := structField?_readings .default
  have hexported : Name.isExported o.name = true := by decide +kernel
  have hcamel : Name.camel o.name = "netWeight".toList := by decide +kernel
  have hline : line = "\t\tNetWeight \t*float64 // in `kg` ".toList := by decide +kernel
  have hreading := fun tag htag =>
    htagged o space tag noGap (some weightComment) hexported (by decide) htag
  refine ⟨hline, (hone line (by rw [hline]; decide)).2.2, ?_, ?_, ?_, ?_, ?_⟩
  · rw [← hcamel]
    exact huntagged o space (some weightComment) noGap hexported
  · rw [← hcamel]
    exact (hreading "xml:\"w\"".toList (by decide)).1 (by decide +kernel)
  · exact ((hreading "json:\",omitempty\"".toList (by decide)).2 ⟨[], true⟩
      (by decide +kernel)).1 rfl
  · exact ((hreading "json:\"-\"".toList (by decide)).2 ⟨['-'], false⟩
      (by decide +kernel)).2.1 rfl
  · exact ((hreading "json:\"net\"".toList (by decide)).2 ⟨"net".toList, false⟩
      (by decide +kernel)).2.2 (by decide) (by decide)

end WireTypes
