import WireTypes.Proofs.Conversion.ReadBack
import WireTypes.Proofs.TypeExpr.Settling

/-!
# Conversion — An emitted struct read back

A property is written in a struct under the Pascal form of its name. Its
other parts always fit the line, as long as its type is a word under
brackets (`fitsStruct_of_ofLine?`), so the Pascal form alone decides what
the line is read as. If it is a word and starts with a capital, the
property is given back under that name; if not, the line gives no field,
and closes nothing either (`readBack_struct`). So the struct declares just
the properties that have a field name (`exists_struct_of_interface`).
-/

namespace WireTypes.Conversion

open Text Emission

variable {line t type : Text} {f : Field} {p : Property}

/-! ## Types of an interface in a struct -/

/-- A type that is a word under brackets, perhaps beside `null` or
`undefined`. -/
def IsPlainType (type : Text) : Prop :=
  ∃ word k, word ≠ [] ∧ (∀ c ∈ word, isWord c = true) ∧
    Union.values type = [word ++ Canonical.brackets k]

/-- The type of a property with a plain type is written with type
characters, at least one. -/
theorem toStruct_toType (h : IsPlainType type) (optional : Bool) :
    (Union.toType .default optional type).toStruct .default ≠ [] ∧
      ∀ c ∈ (Union.toType .default optional type).toStruct .default,
        isStructTypeChar c = true := by
  obtain ⟨word, k, hne, hword, hvalues⟩ := h
  have hchars : ∀ c ∈ TypeExpr.structName word, isStructTypeChar c = true :=
    TypeExpr.structName_chars fun c hc => isStructTypeChar_of_isWord (hword c hc)
  have hvalue : Union.valueType .default type
      = Canonical.arrays k (TypeExpr.interfaceBase .default word) := by
    rw [Union.valueType, hvalues]
    simp only
    rw [Canonical.ofInterface_brackets,
      Canonical.ofInterface_of_not_bracket (fun c hc => isBlank_of_isWord (hword c hc))
        (not_mem_of_class hword (by decide))]
  rw [Union.toType, hvalue, TypeExpr.toStruct_arrays_base]
  exact ⟨List.append_ne_nil_of_right_ne_nil _
    (List.append_ne_nil_of_right_ne_nil _ (TypeExpr.structName_ne_nil hne)),
    TypeExpr.starred_chars _ k hchars⟩

/-! ## Properties on a line of a struct -/

/-- **Every property with a plain type fits a line of a struct.** -/
theorem fitsStruct_of_ofLine? (h : Property.ofLine? line = some p) (htype : IsPlainType p.type) :
    FitsStruct .default (p.toField .default) := by
  obtain ⟨hne, hword⟩ := Property.word_of_ofLine? h
  obtain ⟨htypeNe, htypeChars⟩ := toStruct_toType htype p.optional
  exact
    { key_ne_nil := hne
      key := fun c hc => isKeyChar_of_isWord (hword c hc)
      name_oneLine := not_mem_of_class (Name.isInertChar_of_mem_pascal hword) (by decide)
      type_ne_nil := htypeNe
      type := htypeChars
      comment := by
        intro comment hcomment
        obtain ⟨raw, hraw, rfl⟩ := Option.map_eq_some_iff.mp (Option.mem_def.mp hcomment)
        exact (Property.isLineComment_of_ofLine? h hraw).isComment }

/-- The Pascal form of the serialised name is a field name: a word that
starts with a capital. -/
def hasFieldName (f : Field) : Bool :=
  (Name.pascal f.jsonName).all isWord && Name.isExported (Name.pascal f.jsonName)

/-- What a struct has for a property: the same member, under an exported
name. -/
structure FieldFor (f f' : Field) : Prop extends SameMember f f' where
  name : f'.name = Name.pascal f.jsonName
  isExported : Name.isExported f'.name = true

/-- The name on a line of a struct: what stands up to the next blank. -/
def writtenName (line : Text) : Text := (trimStart line).takeWhile (!isBlank ·)

section Line

variable (hne : f.jsonName ≠ []) (hword : ∀ c ∈ f.jsonName, isWord c = true)

include hne hword in
/-- The line of a member starts with its name. -/
theorem exists_trimStart_memberLine : ∃ c rest,
    trimStart (memberLine .default .struct f) = c :: rest ∧ isInertChar c = true := by
  have hinert := Name.isInertChar_of_mem_pascal hword
  obtain ⟨c, rest, hname⟩ := List.exists_cons_of_ne_nil (Name.pascal_ne_nil hne)
  rw [hname] at hinert
  have hc := hinert c (by simp)
  rw [memberLine_struct_eq, hname, trimStart_append (List.all_eq_true.mp (by decide))]
  refine ⟨c, _, trimStart_of_startsOutside ?_, hc⟩
  rw [List.cons_append, startsOutside_cons]
  exact isBlank_of_isKeyChar (isKeyChar_of_isInertChar hc)

include hne hword in
/-- The block goes on behind the line, and the line is not passed over. -/
theorem staysOpen_struct : staysOpen .default .struct f = true ∧
    readBack .default .struct f = structField? .default (memberLine .default .struct f) := by
  obtain ⟨c, rest, hstart, hc⟩ := exists_trimStart_memberLine hne hword
  have hslash : c ≠ '/' := ne_of_class hc (by decide)
  constructor
  · rw [staysOpen, isClosing_eq_false hstart hslash (ne_of_class hc (by decide))]
    rfl
  · rw [readBack, Notation.lineField?, isFiller_eq_false hstart hslash]
    rfl

include hne hword in
theorem writtenName_memberLine :
    writtenName (memberLine .default .struct f) = Name.pascal f.jsonName := by
  rw [writtenName, memberLine_struct_eq]
  refine takeWhile_trimStart (List.all_eq_true.mp (by decide)) (Name.pascal_ne_nil hne)
    (fun c hc => isBlank_of_isKeyChar (isKeyChar_of_isInertChar
      (Name.isInertChar_of_mem_pascal hword c hc))) ?_
  rw [List.singleton_append, startsOutside_cons]
  decide

include hne hword in
/-- A name that is read from the line is all of the Pascal form. -/
theorem name_of_ofLine?_memberLine {l : FieldLine}
    (hl : FieldLine.ofLine? (memberLine .default .struct f) = some l) :
    l.name = Name.pascal f.jsonName := by
  obtain ⟨hwell, gap, rest, hline, hgap, hblank, -⟩ := FieldLine.ofLine?_eq_some_iff.mp hl
  -- both are the first run without blanks on the line
  have hread : writtenName (memberLine .default .struct f) = l.name := by
    rw [writtenName, hline]
    refine takeWhile_trimStart hwell.indent hwell.name_ne_nil
      (fun c hc => isBlank_of_isWord (hwell.name c hc)) ?_
    rw [startsOutside_append hgap]
    exact startsOutside_of_forall fun c hc => by rw [hblank c hc]; rfl
  rw [← hread, writtenName_memberLine hne hword]

include hne hword in
/-- A line that gives a field has a field name. -/
theorem hasFieldName_of_structField? {f' : Field}
    (h : structField? .default (memberLine .default .struct f) = some f') :
    hasFieldName f = true := by
  -- whatever is read has all of the Pascal form as its name, which must then be a field name
  obtain ⟨l, hl, hfield⟩ := Option.bind_eq_some_iff.mp h
  obtain ⟨hexported, -, -⟩ := FieldLine.toField?_eq_some_iff.mp hfield
  obtain ⟨hwell, -⟩ := FieldLine.ofLine?_eq_some_iff.mp hl
  rw [hasFieldName, Bool.and_eq_true, List.all_eq_true, ← name_of_ofLine?_memberLine hne hword hl]
  exact ⟨hwell.name, hexported⟩

include hword in
/-- **The Pascal form decides what the line of a property gives**: the
property under that name if it is a field name, and else nothing. -/
theorem readBack_struct (h : FitsStruct .default f) :
    staysOpen .default .struct f = true ∧
      (hasFieldName f = true →
        ∃ f', readBack .default .struct f = some f' ∧ FieldFor f f') ∧
      (hasFieldName f = false → readBack .default .struct f = none) := by
  obtain ⟨hopen, hread⟩ := staysOpen_struct h.key_ne_nil hword
  refine ⟨hopen, fun hname => ?_, fun hname => ?_⟩
  · rw [hasFieldName, Bool.and_eq_true, List.all_eq_true] at hname
    exact ⟨_, hread.trans (h.structField?_memberLine hname.2 hname.1), ⟨rfl, rfl, rfl⟩, rfl,
      hname.2⟩
  · rw [hread, Option.eq_none_iff_forall_ne_some]
    intro f' hf'
    rw [hasFieldName_of_structField? h.key_ne_nil hword hf'] at hname
    exact absurd hname (by decide)

end Line

/-! ## Interfaces in a struct -/

/-- All properties of the interface have plain types. -/
def DeclaresPlainTypes (t : Text) : Prop :=
  ∀ p ∈ (Block.body .interface t).filterMap Property.ofLine?, IsPlainType p.type

/-- What the struct `d'` that was written as `out` for the interface `d`
declares. -/
structure Carries (d : Declaration) (out : Text) (d' : Declaration) : Prop where
  name : d'.name = d.name
  complete : d'.complete = true
  /-- Between the header and the brace there is a line per property. -/
  layout : lines out
    = headerLine {} d.name .struct :: (d.fields.map (memberLine .default .struct) ++ [['}']])
  /-- The properties with a field name are given back, in order and under
  these names, and no others. -/
  fields : List.Forall₂ FieldFor (d.fields.filter hasFieldName) d'.fields

theorem carries_of_fits {d : Declaration} {out : Text}
    (h : ∀ f ∈ d.fields, FitsStruct .default f ∧ ∀ c ∈ f.jsonName, isWord c = true)
    (hlayout : lines out
      = headerLine {} d.name .struct :: (d.fields.map (memberLine .default .struct) ++ [['}']])) :
    Carries d out ⟨d.name, .struct, (d.fields.takeWhile (staysOpen .default .struct)).filterMap
      (readBack .default .struct), true⟩ where
  name := rfl
  complete := rfl
  layout := hlayout
  fields := by
    have hline := fun f hf => readBack_struct (h f hf).2 (h f hf).1
    have hopen : d.fields.takeWhile (staysOpen .default .struct) = d.fields :=
      List.takeWhile_eq_self_iff.mpr fun f hf => (hline f hf).1
    rw [hopen]
    exact forall₂_readBack (fun f hf => (hline f hf).2.1) fun f hf => (hline f hf).2.2

/-- **What the struct of an interface declares.** Every interface is
converted, and when its types are plain, the struct that comes out is read
as `Carries` says. -/
theorem exists_struct_of_interface (fs : Files) (check : Bool) (h : classify t = .ok .interface)
    (htypes : DeclaresPlainTypes (trim t)) :
    ∃ d out d', Declaration.read .default .interface (trim t) = .ok d ∧
      ofText fs { tagCheck := .bool check } t = .ok (.converted .interface d out) ∧
      Declaration.read .default .struct out = .ok d' ∧ Carries d out d' := by
  have hfits : ∀ line ∈ Block.body .interface (trim t), ∀ f,
      interfaceField? .default line = some f →
      FitsStruct .default f ∧ ∀ c ∈ f.jsonName, isWord c = true := by
    intro line hline f hfield
    obtain ⟨p, hp, rfl⟩ := Option.map_eq_some_iff.mp hfield
    have htype := htypes p (List.mem_filterMap.mpr ⟨line, hline, hp⟩)
    exact ⟨fitsStruct_of_ofLine? hp htype, (Property.word_of_ofLine? hp).2⟩
  obtain ⟨d, hread, hsource, hconverted, hlayout, hback⟩ := exists_block_of_lines fs check h
    (fun hn => nomatch hn) fun line hline f hfield =>
      have hf := (hfits line hline f hfield).1
      ⟨hf.not_newline_mem, hf.endsOutside⟩
  refine ⟨d, _, _, hread, hconverted, hback, carries_of_fits (fun f hf => ?_) hlayout⟩
  obtain ⟨line, hline, hfield⟩ := hsource f hf
  exact hfits line hline f hfield

/-- An interface with an optional array, a type beside `undefined`, and a
name without a capital. -/
def route : Text :=
  "interface Route \x7b\n  stop_ids?: string[] | null;\n".toList ++
    "  readonly via: Station[][] | undefined // may be empty\n  _7: number;\n\x7d".toList

def routeProperties : List Property :=
  [⟨"stop_ids".toList, true, "string[] | null".toList, none⟩,
   ⟨"via".toList, false, "Station[][] | undefined".toList, some "// may be empty".toList⟩,
   ⟨"_7".toList, false, "number".toList, none⟩]

theorem declaresPlainTypes_route : DeclaresPlainTypes (trim route) := by
  have hproperties : (Block.body .interface (trim route)).filterMap Property.ofLine?
      = routeProperties := by decide +kernel
  rw [DeclaresPlainTypes, hproperties]
  simp only [routeProperties, List.forall_mem_cons, List.not_mem_nil, false_imp_iff, implies_true,
    and_true]
  exact ⟨⟨"string".toList, 1, by decide, List.all_eq_true.mp (by decide +kernel),
      by decide +kernel⟩,
    ⟨"Station".toList, 2, by decide, List.all_eq_true.mp (by decide +kernel), by decide +kernel⟩,
    ⟨"number".toList, 0, by decide, List.all_eq_true.mp (by decide +kernel), by decide +kernel⟩⟩

theorem exists_struct_of_interface_route :
    classify route = .ok .interface ∧ DeclaresPlainTypes (trim route) ∧
    ∃ d out d', Declaration.read .default .interface (trim route) = .ok d ∧
      ofText [] { tagCheck := .bool true } route = .ok (.converted .interface d out) ∧
      Declaration.read .default .struct out = .ok d' ∧ Carries d out d' := by
  have hinterface : classify route = .ok .interface := by decide +kernel
  exact ⟨hinterface, declaresPlainTypes_route,
    exists_struct_of_interface [] true hinterface declaresPlainTypes_route⟩

/-- An interface with a name without a capital, with one whose capital is
spelled with a combining mark, and with neither. -/
def medal : Text :=
  "interface Medal \x7b\n  _1: string;\n  \u01F0: string;\n  place: string;\n\x7d".toList

def medalDeclaration : Declaration where
  name := "Medal".toList
  kind := .interface
  fields :=
    [{ name := "_1".toList, type := .known "string".toList, jsonName := "_1".toList },
     { name := "\u01F0".toList, type := .known "string".toList, jsonName := "\u01F0".toList },
     { name := "place".toList, type := .known "string".toList, jsonName := "place".toList }]

/-- The field of the struct that is read back. -/
def medalPlace : Field where
  name := "Place".toList
  type := .known "string".toList
  jsonName := "place".toList

def medalStruct : Text :=
  "type Medal struct \x7b\n\t_1 string `json:\"_1\"`\n".toList ++
    "\tJ\u030C string `json:\"\u01F0\"`\n\tPlace string `json:\"place\"`\n\x7d".toList

theorem declaresPlainTypes_medal : DeclaresPlainTypes (trim medal) := by
  have htypes : ((Block.body .interface (trim medal)).filterMap Property.ofLine?).map (·.type)
      = List.replicate 3 "string".toList := by decide +kernel
  intro p hp
  have htype : p.type = "string".toList := by
    have hmem := List.mem_map_of_mem (f := (·.type)) hp
    rw [htypes] at hmem
    exact List.eq_of_mem_replicate hmem
  rw [htype]
  exact ⟨"string".toList, 0, by decide, List.all_eq_true.mp (by decide +kernel),
    by decide +kernel⟩

/-- **An emitted struct may declare less than the interface.** Of the three
properties of the medal only the last is read back: the first has no
exported name, and the second has a name that is no word. -/
theorem lost_in_struct_medal :
    classify medal = .ok .interface ∧ DeclaresPlainTypes (trim medal) ∧
    Declaration.read .default .interface (trim medal) = .ok medalDeclaration ∧
    ofText [] {} medal = .ok (.converted .interface medalDeclaration medalStruct) ∧
    (medalDeclaration.fields.map fun f => Name.isExported (Name.pascal f.jsonName))
      = [false, true, true] ∧
    ∃ d', Declaration.read .default .struct medalStruct = .ok d' ∧
      d'.fields.map (·.jsonName) = ["place".toList] ∧
      ¬ List.Forall₂ SameMember medalDeclaration.fields d'.fields := by
  have hinterface : classify medal = .ok .interface := by decide +kernel
  have hread : Declaration.read .default .interface (trim medal) = .ok medalDeclaration := by
    decide +kernel
  have hsettings : Settings.UsesBuiltIn [] {} := Settings.usesBuiltIn_of_noFolder [] rfl rfl rfl
  have hwritten : tidy (block {} .struct medalDeclaration) = medalStruct := by decide +kernel
  have hconverted := ofText_eq_converted hsettings (o := {}) rfl hinterface
    (fun hn => nomatch hn) hread
  rw [Notation.target, hwritten] at hconverted
  have hback : Declaration.read .default .struct medalStruct
      = .ok ⟨"Medal".toList, .struct, [medalPlace], true⟩ := by decide +kernel
  refine ⟨hinterface, declaresPlainTypes_medal, hread, hconverted, by decide +kernel, _, hback,
    rfl, fun hall => ?_⟩
  exact absurd hall.length_eq (by decide)

end WireTypes.Conversion
