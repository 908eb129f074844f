import WireTypes.Proofs.Conversion.ReadBack
import WireTypes.Proofs.TypeExpr.Settling

/-!
# Conversion — An emitted interface read back

Every field that is read from a struct fits a line of an interface
(`fitsInterface_of_structField?`): its type is written with the characters
of a type, its name and its comment stay on the line. What is read from
that line depends on two things only, the serialised name and the kind of
the comment. A name that is a word, with no block comment behind the
member, gives the field back (`readBack_of_word`); a block comment hides
the field. So the interface of a struct whose serialised names are words
declares the fields without block comments, and no others
(`exists_recovered_struct`).
-/

namespace WireTypes

open Text

/-! ## Types of a struct in an interface -/

namespace TypeExpr

variable {t : Text}

/-- A type of a struct is written with type characters; nothing is
written only for a pointer to nothing. -/
theorem toInterface_ofStruct (h : ∀ c ∈ t, isStructTypeChar c = true) :
    (t ≠ [] → (ofStruct .default t).isNullable = false →
      (ofStruct .default t).toInterface .default ≠ []) ∧
    ∀ c ∈ (ofStruct .default t).toInterface .default, isStructTypeChar c = true := by
  obtain ⟨base, k, hbase, hwritten, hpresent⟩ := exists_ofStruct_eq (v := .default) h
  rw [← interfaceName] at hwritten
  rw [hwritten]
  constructor
  · intro hne hrequired hnil
    rw [List.append_eq_nil_iff, brackets_eq_nil_iff] at hnil
    have hbaseNil : base = [] := by
      by_contra hbaseNe
      exact interfaceName_ne_nil hbaseNe hnil.1
    rw [hpresent hne hbaseNil hnil.2] at hrequired
    exact absurd hrequired (by decide)
  · intro c hc
    rcases List.mem_append.mp hc with hc | hc
    · exact hbase.interfaceName.chars c hc
    · exact Canonical.brackets_chars k c hc

end TypeExpr

namespace Conversion

open Emission

variable {line t : Text} {f f' : Field}

/-! ## Fields of a struct on a line of an interface -/

theorem jsonName_ne_nil_of_structField? (hline : '\n' ∉ line)
    (h : structField? .default line = some f) : f.jsonName ≠ [] := by
  obtain ⟨l, hl, hf⟩ := Option.bind_eq_some_iff.mp h
  obtain ⟨-, -, rfl⟩ := FieldLine.toField?_eq_some_iff.mp hf
  exact (FieldLine.serialised_spec hl hline).1

/-- **Every field of a struct fits a line of an interface.** -/
theorem fitsInterface_of_structField? (hline : '\n' ∉ line)
    (h : structField? .default line = some f) : FitsInterface .default f := by
  obtain ⟨l, hl, hf⟩ := Option.bind_eq_some_iff.mp h
  obtain ⟨-, -, rfl⟩ := FieldLine.toField?_eq_some_iff.mp hf
  obtain ⟨hwell, -⟩ := FieldLine.ofLine?_eq_some_iff.mp hl
  obtain ⟨hsome, hchars⟩ := TypeExpr.toInterface_ofStruct hwell.type
  have hnull : ∀ c ∈ " | null".toList, Property.isTypeChar c = true :=
    List.all_eq_true.mp (by decide)
  have hnullLine : '\n' ∉ " | null".toList := by decide
  constructor
  case name_oneLine => exact (FieldLine.serialised_spec hl hline).2
  case type_ne_nil =>
    rw [interfaceTypeText_eq]
    split
    · -- the bar is left even if the type itself is written as nothing
      exact trimStart_ne_nil (c := '|') (by simp) (by decide)
    · rename_i hrequired
      rw [Bool.or_eq_true, not_or] at hrequired
      have hne := hsome hwell.type_ne_nil (by simpa [Field.isNullable] using hrequired.2)
      rw [List.append_nil, trimStart_of_startsOutside]
      · exact hne
      · exact startsOutside_of_forall fun c hc => isBlank_of_isStructTypeChar (hchars c hc)
  case type =>
    intro c hc
    rw [interfaceTypeText_eq, List.mem_append] at hc
    rcases hc with hc | hc
    · exact Property.isTypeChar_of_isStructTypeChar (hchars c hc)
    · split at hc
      · exact hnull c hc
      · simp at hc
  case type_oneLine =>
    intro hc
    rw [interfaceTypeText_eq, List.mem_append] at hc
    rcases hc with hc | hc
    · exact not_mem_of_class hchars (by decide) hc
    · split at hc
      · exact hnullLine hc
      · simp at hc
  case type_ends =>
    rw [interfaceTypeText_eq]
    split
    · rw [endsOutside_append (by decide)]
      decide
    · rw [List.append_nil]
      exact endsOutside_of_forall fun c hc => isBlank_of_isStructTypeChar (hchars c hc)
  case comment =>
    intro comment hcomment
    obtain ⟨raw, hraw, rfl⟩ := Option.map_eq_some_iff.mp (Option.mem_def.mp hcomment)
    exact FieldLine.isComment_of_ofLine? hl hraw

/-! ## What the line gives back -/

/-- The field has a comment between a slash with a star and whatever ends
it. -/
def hasBlockComment (f : Field) : Bool := f.comment.any ("/*".toList.isPrefixOf ·)

/-- The block goes on behind the line of a field whose serialised name is
a word, and the line is not passed over. -/
theorem staysOpen_interface (hne : f.jsonName ≠ []) (hword : ∀ c ∈ f.jsonName, isWord c = true) :
    staysOpen .default .interface f = true ∧ readBack .default .interface f
      = interfaceField? .default (memberLine .default .interface f) := by
  have hstart : StartsWithWord (memberLine .default .interface f) :=
    startsWithWord_append (List.all_eq_true.mp (by decide)) hne hword
  refine ⟨?_, Notation.lineField?_of_startsWithWord hstart⟩
  rw [staysOpen, hstart.isClosing_eq_false]
  rfl

/-- **A serialised name that is a word is read back**, and the line closes
nothing; a block comment hides the field. -/
theorem readBack_of_word (h : FitsInterface .default f) (hne : f.jsonName ≠ [])
    (hword : ∀ c ∈ f.jsonName, isWord c = true) :
    staysOpen .default .interface f = true ∧
      (hasBlockComment f = true → readBack .default .interface f = none) ∧
      (hasBlockComment f = false →
        ∃ f', readBack .default .interface f = some f' ∧ SameMember f f') := by
  obtain ⟨hopen, hread⟩ := staysOpen_interface hne hword
  refine ⟨hopen, fun hblock => ?_, fun hblock => ?_⟩
  · obtain ⟨comment, hcomment, hprefix⟩ := (Option.any_eq_true _ _).mp hblock
    rw [hread]
    exact h.interfaceField?_of_blockComment hne hword hcomment
      (List.isPrefixOf_iff_prefix.mp hprefix)
  · have hcomment : ∀ c ∈ f.comment, IsLineComment c := by
      intro c hc
      refine (h.comment c hc).isLineComment fun hprefix => ?_
      rw [hasBlockComment, Option.mem_def.mp hc, Option.any_some,
        List.isPrefixOf_iff_prefix.mpr hprefix] at hblock
      exact absurd hblock (by decide)
    exact ⟨_, hread.trans (h.interfaceField?_memberLine hne hword hcomment), rfl, rfl, rfl⟩

/-! ## Structs in an interface -/

/-- What the interface `d'` that was written for the struct `d` declares. -/
structure Recovers (d d' : Declaration) : Prop where
  name : d'.name = d.name
  complete : d'.complete = true
  /-- The lines of the fields are read one by one, up to the first that
  closes the block. -/
  byLine : d'.fields = (d.fields.takeWhile (staysOpen .default .interface)).filterMap
    (readBack .default .interface)
  /-- The line of a field whose serialised name is a word closes nothing,
  and gives the field back unless it has a block comment. -/
  word : ∀ f ∈ d.fields, (∀ c ∈ f.jsonName, isWord c = true) →
    staysOpen .default .interface f = true ∧
      (hasBlockComment f = true → readBack .default .interface f = none) ∧
      (hasBlockComment f = false →
        ∃ f', readBack .default .interface f = some f' ∧ SameMember f f')
  /-- If all serialised names are words, just the fields without block
  comments are given back. -/
  words : (∀ f ∈ d.fields, ∀ c ∈ f.jsonName, isWord c = true) →
    List.Forall₂ SameMember (d.fields.filter (!hasBlockComment ·)) d'.fields

/-- The fields of a declaration that is read from a struct fit the lines
of an interface. -/
theorem recovers_of_fits {d : Declaration}
    (h : ∀ f ∈ d.fields, FitsInterface .default f ∧ f.jsonName ≠ []) :
    Recovers d ⟨d.name, .interface, (d.fields.takeWhile (staysOpen .default .interface)).filterMap
      (readBack .default .interface), true⟩ where
  name := rfl
  complete := rfl
  byLine := rfl
  word := fun f hf => readBack_of_word (h f hf).1 (h f hf).2
  words := by
    intro hall
    have hword := fun f hf => readBack_of_word (h f hf).1 (h f hf).2 (hall f hf)
    have hopen : d.fields.takeWhile (staysOpen .default .interface) = d.fields :=
      List.takeWhile_eq_self_iff.mpr fun f hf => (hword f hf).1
    rw [hopen]
    refine forall₂_readBack (fun f hf hkept => ?_) fun f hf hlost => ?_
    · exact (hword f hf).2.2 (by simpa using hkept)
    · exact (hword f hf).2.1 (by simpa using hlost)

/-- **What the interface of a struct declares.** Every struct is converted
without the tag check, and the interface that comes out is read as
`Recovers` says. -/
theorem exists_recovered_struct (fs : Files) (h : classify t = .ok .struct) :
    ∃ d out d', Declaration.read .default .struct (trim t) = .ok d ∧
      ofText fs { tagCheck := .bool false } t = .ok (.converted .struct d out) ∧
      Declaration.read .default .interface out = .ok d' ∧ Recovers d d' := by
  have hfits : ∀ line ∈ Block.body .struct (trim t), ∀ f, structField? .default line = some f →
      FitsInterface .default f ∧ f.jsonName ≠ [] := by
    intro line hline f hfield
    have hnewline := Block.not_newline_mem_of_mem_body hline
    exact ⟨fitsInterface_of_structField? hnewline hfield,
      jsonName_ne_nil_of_structField? hnewline hfield⟩
  obtain ⟨d, hread, hsource, hconverted, -, hback⟩ := exists_block_of_lines fs false h
    (fun _ hcheck => nomatch hcheck) fun line hline f hfield =>
      have hf := (hfits line hline f hfield).1
      ⟨hf.not_newline_mem, hf.endsOutside⟩
  refine ⟨d, _, _, hread, hconverted, hback, recovers_of_fits fun f hf => ?_⟩
  obtain ⟨line, hline, hfield⟩ := hsource f hf
  exact hfits line hline f hfield

/-- A struct whose names are words, with comments of both kinds, a field
without a tag and a pointer to nothing. -/
def ticket : Text :=
  "type Ticket struct \x7b\n\tSeat *string `json:\"seat,omitempty\"` // window\n".toList ++
    "\tPrice float64 // net\n\tDay time.Time `json:\"day\"` /* local */\n\tGate *\n\x7d".toList

theorem exists_recovered_struct_ticket :
    classify ticket = .ok .struct ∧
    ∃ d out d', Declaration.read .default .struct (trim ticket) = .ok d ∧
      ofText [] { tagCheck := .bool false } ticket = .ok (.converted .struct d out) ∧
      Declaration.read .default .interface out = .ok d' ∧ Recovers d d' := by
  have hstruct : classify ticket = .ok .struct := by decide +kernel
  exact ⟨hstruct, exists_recovered_struct [] hstruct⟩

/-- A struct with a block comment, with a serialised name that is no word,
and with neither. -/
def label : Text :=
  "type Label struct \x7b\n\tName string `json:\"name\"` /* display */\n".toList ++
    "\tWidth int `json:\"label-width\"`\n\tText string `json:\"text\"`\n\x7d".toList

def labelDeclaration : Declaration where
  name := "Label".toList
  kind := .struct
  fields :=
    [{ name := "Name".toList
       type := .known "string".toList
       jsonName := "name".toList
       comment := some "/* display */".toList },
     { name := "Width".toList
       type := .known "int".toList
       jsonName := "label-width".toList },
     { name := "Text".toList
       type := .known "string".toList
       jsonName := "text".toList }]

/-- The property of the interface that is read back. -/
def labelText : Field where
  name := "text".toList
  type := .known "string".toList
  jsonName := "text".toList

def labelInterface : Text :=
  "interface Label \x7b\n  name: string; /* display */\n".toList ++
    "  label-width: number;\n  text: string;\n\x7d".toList

/-- **An emitted interface may declare less than the struct.** Of the three
fields of the label only the last is read back. -/
theorem lost_in_interface_label :
    classify label = .ok .struct ∧
    Declaration.read .default .struct (trim label) = .ok labelDeclaration ∧
    ofText [] { tagCheck := .bool false } label
      = .ok (.converted .struct labelDeclaration labelInterface) ∧
    ∃ d', Declaration.read .default .interface labelInterface = .ok d' ∧
      d'.fields.map (·.jsonName) = ["text".toList] ∧
      ¬ List.Forall₂ SameMember labelDeclaration.fields d'.fields := by
  have hstruct : classify label = .ok .struct := by decide +kernel
  have hread : Declaration.read .default .struct (trim label) = .ok labelDeclaration := by
    decide +kernel
  have hsettings : Settings.UsesBuiltIn [] { tagCheck := .bool false } :=
    Settings.usesBuiltIn_of_noFolder [] rfl rfl rfl
  have hwritten : tidy (block {} .interface labelDeclaration) = labelInterface := by
    decide +kernel
  have hconverted := ofText_eq_converted hsettings (o := {}) rfl hstruct
    (fun _ hcheck => absurd hcheck (by decide)) hread
  rw [Notation.target, hwritten] at hconverted
  have hback : Declaration.read .default .interface labelInterface
      = .ok ⟨"Label".toList, .interface, [labelText], true⟩ := by decide +kernel
  refine ⟨hstruct, hread, hconverted, _, hback, rfl, fun hall => ?_⟩
  exact absurd hall.length_eq (by decide)

end Conversion

end WireTypes
