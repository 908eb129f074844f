import WireTypes.Proofs.Canonical.RoundTrip
import WireTypes.Proofs.Conversion.SkippedLines
import WireTypes.Proofs.Name.Casing

/-!
# Canonical — Structs without tags

A field without a tag is serialised under the camel form of its name. When
the Pascal form of that is the name again and the type is canonical, the
line gives the field of a canonical member, as if it had the tag
(`exists_member`). A struct of such lines therefore declares what a
canonical record declares. It is converted to the interface of that
record, and from there the round trip of canonical texts leads back to the
same names and types (`comesBack_of_members`).
-/

namespace WireTypes.Canonical

open Text Emission

variable {t line : Text} {l : FieldLine} {f : Field}

/-! ## Lines that declare fields -/

/-- The lines of a struct that declare a field, taken apart. -/
def keptLines (t : Text) : List FieldLine :=
  (Block.fieldLines .default .struct (trim t)).filterMap FieldLine.ofLine?

theorem exists_of_mem_keptLines (h : l ∈ keptLines t) :
    ∃ line f, FieldLine.ofLine? line = some l ∧ l.toField? .default = some f := by
  obtain ⟨line, hmem, hline⟩ := List.mem_filterMap.mp h
  obtain ⟨f, hf⟩ := Option.isSome_iff_exists.mp (List.mem_filter.mp hmem).2
  rw [Notation.field?, structField?, hline] at hf
  exact ⟨line, f, hline, hf⟩

/-- The fields of the struct are those of these lines. -/
theorem fieldsOf_eq_keptLines (t : Text) :
    Declaration.fieldsOf .default .struct (Block.body .struct (trim t))
      = (keptLines t).filterMap (·.toField? .default) := by
  rw [Declaration.fieldsOf_body .default, keptLines, List.filterMap_filterMap]
  rfl

/-! ## A line without a tag -/

/-- A base type under some brackets, perhaps behind a star. -/
def IsBaseType (type : Text) : Prop :=
  ∃ (starred : Bool) (depth : Nat) (base : Base),
    type = (if starred then "*".toList else []) ++ (brackets depth ++ base.inStruct)

/-- A field line without a tag, with a name that its camel form keeps and
a canonical type. -/
structure IsUntagged (l : FieldLine) : Prop where
  ascii : ∀ c ∈ l.name, isAscii c = true
  capital : ∃ c ∈ l.name.head?, isAsciiUpper c = true
  folded : Name.IsFolded l.name
  type : IsBaseType l.type
  tail : ∃ comment, l.tail = .untagged comment

/-- The line stands for the member: it gives the field of the member, and
has its type. -/
structure StandsFor (l : FieldLine) (m : Member) : Prop where
  field : l.toField? .default = some (m.field .struct)
  type : l.type = m.structType

theorem StandsFor.name {m : Member} (h : StandsFor l m) : l.name = Name.pascal m.key := by
  obtain ⟨-, -, hfield⟩ := FieldLine.toField?_eq_some_iff.mp h.field
  exact (congrArg Field.name hfield).symm

theorem isLineComment_of_isUntagged (hline : FieldLine.ofLine? line = some l)
    (h : IsUntagged l) : ∀ c ∈ l.comment?.map trim, IsLineComment c := by
  obtain ⟨comment, htail⟩ := h.tail
  intro c hc
  obtain ⟨raw, hraw, rfl⟩ := Option.map_eq_some_iff.mp (Option.mem_def.mp hc)
  rw [FieldLine.comment?, htail] at hraw
  subst hraw
  exact FieldLine.isLineComment_of_untagged hline htail

/-- **A line without a tag stands for a canonical member**, whose key is
the camel form of the name. -/
theorem exists_member (hline : FieldLine.ofLine? line = some l)
    (hfield : l.toField? .default = some f) (h : IsUntagged l) : ∃ m, StandsFor l m := by
  obtain ⟨hexported, -, -⟩ := FieldLine.toField?_eq_some_iff.mp hfield
  obtain ⟨hwell, -⟩ := FieldLine.ofLine?_eq_some_iff.mp hline
  obtain ⟨starred, depth, base, htype⟩ := h.type
  obtain ⟨comment, htail⟩ := h.tail
  have hpascal : Name.pascal (Name.camel l.name) = l.name :=
    Name.pascal_camel_eq_self h.ascii h.capital h.folded
  let m : Member :=
    { key := Name.camel l.name
      key_word := Name.Casing.isWord_of_mem_spell (k := .camel) h.ascii hwell.name
      pascal_word := by rw [hpascal]; exact hwell.name
      pascal_exported := by rw [hpascal]; exact hexported
      base
      depth
      presence := if starred then .nullable else .required
      comment := l.comment?.map trim
      comment_line := isLineComment_of_isUntagged hline h }
  have htypeOf : l.type = m.structType := by
    rw [htype, Member.structType]
    cases starred <;> rfl
  have homittable : m.isOmittable = false := by
    show decide ((if starred then Presence.nullable else .required) = .omittable) = false
    cases starred <;> rfl
  refine ⟨m, ?_, htypeOf⟩
  rw [FieldLine.toField?_of_serialised hexported (FieldLine.serialised_of_untagged htail)
    (Name.camel_ne_dash hexported), Member.field, homittable, htypeOf, m.ofStruct_structType,
    hpascal]

theorem exists_members {ls : List FieldLine} (h : ∀ l ∈ ls, ∃ m, StandsFor l m) :
    ∃ ms, List.Forall₂ StandsFor ls ms := by
  induction ls with
  | nil => exact ⟨[], .nil⟩
  | cons l ls ih =>
      obtain ⟨m, hm⟩ := h l (by simp)
      obtain ⟨ms, hms⟩ := ih fun l' hl' => h l' (by simp [hl'])
      exact ⟨m :: ms, .cons hm hms⟩

/-! ## The record of a struct without tags -/

/-- The name and the type on a field line. -/
def nameAndType (l : FieldLine) : Text × Text := (l.name, l.type)

section Members

variable {ls : List FieldLine} {ms : List Member} (h : List.Forall₂ StandsFor ls ms)

include h in
theorem filterMap_toField? : ls.filterMap (·.toField? .default) = ms.map (·.field .struct) := by
  induction h with
  | nil => rfl
  | cons hm _ ih => rw [List.filterMap_cons_some hm.field, ih, List.map_cons]

include h in
theorem map_nameAndType :
    ls.map nameAndType = ms.map fun m => (Name.pascal m.key, m.structType) := by
  induction h with
  | nil => rfl
  | cons hm _ ih => rw [List.map_cons, ih, List.map_cons, nameAndType, hm.name, hm.type]

end Members

/-- The line of a member in a struct, taken apart. -/
def Member.fieldLine (m : Member) : FieldLine :=
  ⟨"\t".toList, Name.pascal m.key, m.structType, .tagged (tagOf (m.field .interface)) m.comment⟩

theorem ofLine?_structLine (m : Member) : FieldLine.ofLine? m.structLine = some m.fieldLine := by
  have htype : (m.field .interface).type.toStruct .default = m.structType :=
    m.toStruct_interfaceExpr
  rw [m.structLine_eq, m.fitsStruct_field.ofLine?_memberLine m.pascal_ne_nil m.pascal_word, htype]
  rfl

/-- The names and types of a canonical struct are those of its members. -/
theorem keptLines_text (r : Record) :
    (keptLines (r.text .struct)).map nameAndType
      = r.members.map fun m => (Name.pascal m.key, m.structType) := by
  have hdeclared : Block.fieldLines .default .struct (r.text .struct)
      = r.members.map (Record.line .struct) := by
    rw [Block.fieldLines, body_text, List.filter_eq_self]
    intro line hline
    obtain ⟨m, -, rfl⟩ := List.mem_map.mp hline
    rw [field?_line, Option.isSome_some]
  have hread : FieldLine.ofLine? ∘ Record.line .struct = some ∘ Member.fieldLine :=
    funext ofLine?_structLine
  rw [keptLines, trim_text, hdeclared, List.filterMap_map, hread, ← List.filterMap_map,
    List.filterMap_some, List.map_map]
  rfl

/-- What is had of a struct `t` that declares `d` when the struct `back`
comes out of two conversions: the same declaration, field by field, and
the same names and types on its lines. -/
structure ComesBack (t back : Text) (d d' : Declaration) : Prop where
  recognised : classify back = .ok .struct
  declared : Declaration.read .default .struct (trim t) = .ok d
  returned : Declaration.read .default .struct (trim back) = .ok d'
  name : d'.name = d.name
  fields : d'.fields = d.fields
  lines : (keptLines back).map nameAndType = (keptLines t).map nameAndType

/-- A struct whose members stand on its lines is converted as their record
is. -/
theorem comesBack_of_members (fs : Files) (hstruct : classify t = .ok .struct) {ms : List Member}
    (hms : List.Forall₂ StandsFor (keptLines t) ms) :
    ∃ d out d' back d'',
      Conversion.ofText fs { tagCheck := .bool false } t = .ok (.converted .struct d out) ∧
      Conversion.ofText fs { tagCheck := .bool false } out = .ok (.converted .interface d' back) ∧
      ComesBack t back d d'' := by
  obtain ⟨name, hname⟩ := exists_header_of_classify hstruct
  obtain ⟨hnameNe, hnameWord⟩ := Notation.word_of_header? hname
  have hread := Declaration.read_of_header? .default hname
  let r : Record := ⟨name, hnameNe, hnameWord, ms⟩
  have hmembers : Declaration.fieldsOf .default .struct (Block.body .struct (trim t))
      = (declaration r .struct).fields := by
    rw [fieldsOf_eq_keptLines, filterMap_toField? hms]
    rfl
  -- the record is written whether or not the struct was closed
  have hblock : block {} .interface ⟨name, .struct,
      Declaration.fieldsOf .default .struct (Block.body .struct (trim t)),
      Block.isComplete .struct (trim t)⟩ = r.text .interface := by
    rw [hmembers]
    exact block_declaration r .struct
  have hsettings : Settings.UsesBuiltIn fs { tagCheck := .bool false } :=
    Settings.usesBuiltIn_of_noFolder fs rfl rfl rfl
  have hconverted := Conversion.ofText_eq_converted hsettings (o := {}) rfl hstruct
    (fun _ hcheck => absurd hcheck (by decide)) hread
  rw [Notation.target, hblock, tidy_text] at hconverted
  exact ⟨_, _, _, r.text .struct, declaration r .struct, hconverted,
    ofText_text r .interface fs false,
    { recognised := classify_text r .struct
      declared := hread
      returned := by rw [trim_text, read_text]
      name := rfl
      fields := hmembers.symm
      lines := by rw [keptLines_text, map_nameAndType hms] }⟩

/-- **Camel and Pascal case are two casings of one name**: the one chosen
last counts, and an exported name without words to fold comes back from
its camel form. So a struct whose fields have such names, canonical types
and no tags comes back from its interface. -/
theorem casings_of_untagged_struct :
    (∀ name : Text, (∀ c ∈ name, isAscii c = true) →
      Name.camel (Name.pascal name) = Name.camel name ∧
      Name.pascal (Name.camel name) = Name.pascal name ∧
      Name.camel (Name.camel name) = Name.camel name ∧
      Name.pascal (Name.pascal name) = Name.pascal name ∧
      ((∃ c ∈ name.head?, isAsciiUpper c = true) → Name.IsFolded name →
        Name.pascal (Name.camel name) = name)) ∧
    ∀ (fs : Files) (t : Text), classify t = .ok .struct → (∀ l ∈ keptLines t, IsUntagged l) →
      ∃ d out d' back d'',
        Conversion.ofText fs { tagCheck := .bool false } t = .ok (.converted .struct d out) ∧
        Conversion.ofText fs { tagCheck := .bool false } out
          = .ok (.converted .interface d' back) ∧
        ComesBack t back d d'' := by
  constructor
  · intro name h
    exact ⟨Name.Casing.spell_spell .camel .pascal h, Name.Casing.spell_spell .pascal .camel h,
      Name.Casing.spell_spell .camel .camel h, Name.Casing.spell_spell .pascal .pascal h,
      Name.pascal_camel_eq_self h⟩
  · intro fs t hstruct hfields
    obtain ⟨ms, hms⟩ : ∃ ms, List.Forall₂ StandsFor (keptLines t) ms := by
      refine exists_members fun l hl => ?_
      obtain ⟨line, f, hline, hf⟩ := exists_of_mem_keptLines hl
      exact exists_member hline hf (hfields l hl)
    exact comesBack_of_members fs hstruct hms

/-- A struct without tags on the fields that it serialises. -/
def invoice : Text :=
  "type Invoice struct \x7b\n\tOrderID int\n\tUnit_Price *[]bank.Money // net\n".toList ++
    "\tdraft bool `json:\"draft\"`\n\tX any\n\x7d".toList

/-- The field lines of the invoice; the draft is not exported. -/
theorem keptLines_invoice : keptLines invoice =
    [⟨"\t".toList, "OrderID".toList, "int".toList, .untagged none⟩,
     ⟨"\t".toList, "Unit_Price".toList, "*[]bank.Money".toList, .untagged (some " // net".toList)⟩,
     ⟨"\t".toList, "X".toList, "any".toList, .untagged none⟩] := by
  decide +kernel

theorem isUntagged_invoice : ∀ l ∈ keptLines invoice, IsUntagged l := by
  rw [keptLines_invoice]
  simp only [List.forall_mem_cons, List.not_mem_nil, false_imp_iff, implies_true, and_true]
  exact ⟨⟨List.all_eq_true.mp (by decide), ⟨_, rfl, by decide⟩, by decide +kernel,
      ⟨false, 0, .number, rfl⟩, _, rfl⟩,
    ⟨List.all_eq_true.mp (by decide), ⟨_, rfl, by decide⟩, by decide +kernel,
      ⟨true, 1, .foreign money, rfl⟩, _, rfl⟩,
    ⟨List.all_eq_true.mp (by decide), ⟨_, rfl, by decide⟩, by decide +kernel,
      ⟨false, 0, .any, rfl⟩, _, rfl⟩⟩

theorem casings_of_untagged_struct_invoice :
    Name.pascal (Name.camel "Unit_Price".toList) = "Unit_Price".toList ∧
    Name.camel (Name.pascal "__unit_price".toList) = Name.camel "__unit_price".toList ∧
    classify invoice = .ok .struct ∧ (∀ l ∈ keptLines invoice, IsUntagged l) ∧
    ∃ d out d' back d'',
      Conversion.ofText [] { tagCheck := .bool false } invoice = .ok (.converted .struct d out) ∧
      Conversion.ofText [] { tagCheck := .bool false } out
        = .ok (.converted .interface d' back) ∧
      ComesBack invoice back d d'' := by
  have hstruct : classify invoice = .ok .struct := by decide +kernel
  have hprice : ∀ c ∈ "Unit_Price".toList, isAscii c = true := List.all_eq_true.mp (by decide)
  have hunder : ∀ c ∈ "__unit_price".toList, isAscii c = true := List.all_eq_true.mp (by decide)
  exact ⟨(casings_of_untagged_struct.1 _ hprice).2.2.2.2 ⟨_, rfl, by decide⟩ (by decide +kernel),
    (casings_of_untagged_struct.1 _ hunder).1, hstruct, isUntagged_invoice,
    casings_of_untagged_struct.2 [] invoice hstruct isUntagged_invoice⟩

end WireTypes.Canonical
