import WireTypes.Proofs.Template.BuiltIn
import WireTypes.Proofs.Text.Lines
import WireTypes.Conversion.Basic

/-!
# Conversion — Emission through the built-in templates

With the built-in templates every declaration can be written, and what is
written is a block: a header line, one line per field, a brace
(`emit_eq`). `Settings.UsesBuiltIn` collects what the settings must give
for that; all settings that pass their checks and name no folder give it.
-/

namespace WireTypes

open Text

namespace Emission

/-! ## Lines of a declaration -/

/-- The text of the type of a field in an interface. -/
def interfaceTypeText (v : Vocabulary) (f : Field) : Text := (interfaceType v f).plain

/-- The line of a field. -/
def memberLine (v : Vocabulary) : Notation → Field → Text
  | .struct, f =>
    "\t".toList ++ (Name.pascal f.jsonName ++ (" ".toList ++ (f.type.toStruct v ++ (" ".toList ++
      ((JsonEntry.mk f.jsonName f.omittable).quotedTag ++ commentSuffix f.comment)))))
  | .interface, f =>
    "  ".toList ++ (f.jsonName ++ ((if f.omittable then ['?'] else []) ++ (": ".toList ++
      (interfaceTypeText v f ++ (";".toList ++ commentSuffix f.comment)))))

/-- The header line. -/
def headerLine (o : Options) (name : Text) : Notation → Text
  | .struct => "type ".toList ++ (name ++ " struct \x7b".toList)
  | .interface => (if o.exported then "export ".toList else []) ++
      ("interface ".toList ++ (name ++ " \x7b".toList))

/-- The block of a declaration in a notation. -/
def block (o : Options) (n : Notation) (d : Declaration) : Text :=
  unlines (headerLine o d.name n :: (d.fields.map (memberLine o.vocabulary n) ++ [['}']]))

/-- The type, and behind all brackets whether it can be null. -/
theorem interfaceTypeText_eq (v : Vocabulary) (f : Field) : interfaceTypeText v f
    = f.type.toInterface v ++ if f.omittable || f.isNullable then " | null".toList else [] := by
  rw [interfaceTypeText, interfaceType]
  split
  · rfl
  · rw [List.append_nil]
    rfl

/-! ## Rendering a field -/

open Template

variable {scope : Scope} {o : Options} {v : Vocabulary} {f : Field} {d : Declaration}

/-- The parts of a field that templates name. None of them is hidden by an
operation of objects. -/
def parts : List String := ["name", "type", "tag", "marker", "comment"]

private theorem parts_not_common :
    ∀ part ∈ parts, part.toList ∉ words Kind.commonOperations.toList := by
  have htext : ∃ t, Kind.commonOperations.toList = t ∧ ∀ part ∈ parts, part.toList ∉ words t := by
    refine ⟨_, toList_append_of_eq (toList_append_of_eq (toList_of_eq rfl) (toList_of_eq rfl))
      (toList_of_eq rfl), ?_⟩
    decide +kernel
  obtain ⟨t, ht, hparts⟩ := htext
  rwa [ht]

private theorem parts_not_own : ∀ part ∈ parts, part.toList ∉ (Kind.named "dict").own := by
  have htext : ∃ names t, Kind.ownOperations.lookup "dict" = some names ∧ names.toList = t ∧
      ∀ part ∈ parts, part.toList ∉ words t := by
    refine ⟨_, _, rfl, toList_append_of_eq (toList_append_of_eq (toList_of_eq rfl)
      (toList_of_eq rfl)) (toList_of_eq rfl), ?_⟩
    decide +kernel
  obtain ⟨names, t, hnames, ht, hparts⟩ := htext
  have hown : (Kind.named "dict").own = words t := by
    rw [Kind.own, Kind.named, String.ofList_toList, hnames, Option.map_some, Option.getD_some, ht]
  rwa [hown]

theorem parts_visible : ∀ part ∈ parts, part.toList ≠ kindName ∧ part.toList ≠ "__hash__".toList ∧
    (Kind.named "dict").hasOperation part.toList = false := by
  intro part hpart
  have hspecial : ∀ part ∈ parts, part.toList ≠ kindName ∧ part.toList ≠ "__hash__".toList := by
    decide
  have hnone : (Kind.named "dict").hasOperation part.toList = false := by
    rw [Kind.hasOperation, Bool.or_eq_false_iff, List.contains_eq_mem, List.contains_eq_mem,
      decide_eq_false_iff_not, decide_eq_false_iff_not]
    exact ⟨parts_not_common part hpart, parts_not_own part hpart⟩
  exact ⟨(hspecial part hpart).1, (hspecial part hpart).2, hnone⟩

theorem render_part {part : String} {members : Table Json} {value : Json} (hpart : part ∈ parts)
    (hfield : valueOf scope "field".toList = .data (.object members))
    (h : Table.get? members part.toList = some value) :
    (placeOfPart part).render false scope = .ok value.plain := by
  obtain ⟨hkind, hhash, hoperation⟩ := parts_visible part hpart
  exact render_placeOfPart hfield (dataPart_object hkind hhash hoperation h)

theorem render_structMember (h : valueOf scope "field".toList = .data (structMember v f)) :
    renderAll false scope structMemberNodes = .ok (memberLine v .struct f ++ ['\n']) := by
  have hname : (placeOfPart "name").render false scope
      = .ok (Json.string (Name.pascal f.jsonName)).plain := render_part (by decide) h rfl
  have htype : (placeOfPart "type").render false scope = .ok (f.type.structValue v).plain :=
    render_part (by decide) h rfl
  have htag : (placeOfPart "tag").render false scope
      = .ok (Json.string (JsonEntry.mk f.jsonName f.omittable).quotedTag).plain :=
    render_part (by decide) h rfl
  have hcomment : (placeOfPart "comment").render false scope
      = .ok (Json.string (commentSuffix f.comment)).plain := render_part (by decide) h rfl
  have hnodes := renderAll_cons (render_text "\t".toList) (renderAll_cons hname
    (renderAll_cons (render_text " ".toList) (renderAll_cons htype
      (renderAll_cons (render_text " ".toList) (renderAll_cons htag
        (renderAll_cons hcomment (renderAll_cons (render_text "\n".toList)
          (by rw [renderAll]))))))))
  rw [structMemberNodes, hnodes, memberLine]
  simp only [List.append_assoc]
  rfl

theorem render_interfaceMember (h : valueOf scope "field".toList = .data (interfaceMember v f)) :
    renderAll false scope interfaceMemberNodes = .ok (memberLine v .interface f ++ ['\n']) := by
  have hname : (placeOfPart "name").render false scope = .ok (Json.string f.jsonName).plain :=
    render_part (by decide) h rfl
  have hmarker : (placeOfPart "marker").render false scope
      = .ok (Json.string (if f.omittable then ['?'] else [])).plain :=
    render_part (by decide) h rfl
  have htype : (placeOfPart "type").render false scope = .ok (interfaceType v f).plain :=
    render_part (by decide) h rfl
  have hcomment : (placeOfPart "comment").render false scope
      = .ok (Json.string (commentSuffix f.comment)).plain := render_part (by decide) h rfl
  have hnodes := renderAll_cons (render_text "  ".toList) (renderAll_cons hname
    (renderAll_cons hmarker (renderAll_cons (render_text ": ".toList) (renderAll_cons htype
      (renderAll_cons (render_text ";".toList) (renderAll_cons hcomment
        (renderAll_cons (render_text "\n".toList) (by rw [renderAll]))))))))
  rw [interfaceMemberNodes, hnodes, memberLine]
  simp only [List.append_assoc]
  rfl

/-! ## Rendering a declaration -/

/-- The source of the built-in template of a notation. -/
def builtInSource : Notation → Text
  | .struct => structSource
  | .interface => interfaceSource

theorem isMarkup_templateName (n : Notation) : isMarkup (some (templateName n)) = false := by
  cases n <;> rfl

/-- What a template of a notation has in scope for a declaration. -/
def scopeFor (o : Options) (d : Declaration) (n : Notation) : Scope :=
  (selfName, selfValue (some (templateName n))) ::
    (context o d n).map fun (key, value) => (key, .data value)

theorem scopeOf_context (o : Options) (d : Declaration) (n : Notation) :
    scopeOf (some (templateName n)) (context o d n) = .ok (scopeFor o d n) := by
  cases n <;> rfl

theorem render_structNodes (o : Options) (d : Declaration) :
    renderAll false (scopeFor o d .struct) structNodes = .ok (block o .struct d) := by
  have hname : (placeOf "struct_name").render false (scopeFor o d .struct) = .ok d.name :=
    render_placeOf rfl
  have hloop : renderAll false (scopeFor o d .struct) (fieldLoop structMemberNodes)
      = .ok ((d.fields.map fun f => memberLine o.vocabulary .struct f ++ ['\n']).flatten
          ++ ['}']) :=
    render_fieldLoop rfl fun f _ inner hinner => render_structMember hinner
  have hnodes := renderAll_cons (render_text "type ".toList) (renderAll_cons hname
    (renderAll_cons (render_text " struct \x7b\n".toList) hloop))
  rw [structNodes, hnodes, block, unlines_cons _ (by simp), ← flatten_terminated, headerLine]
  simp only [List.map_map, Function.comp_def, List.append_assoc]
  rfl

theorem render_interfaceNodes (o : Options) (d : Declaration) :
    renderAll false (scopeFor o d .interface) interfaceNodes = .ok (block o .interface d) := by
  have hprefix : (placeOf "prefix").render false (scopeFor o d .interface)
      = .ok (if o.exported then "export ".toList else []) := render_placeOf rfl
  have hname : (placeOf "interface_name").render false (scopeFor o d .interface) = .ok d.name :=
    render_placeOf rfl
  have hloop : renderAll false (scopeFor o d .interface) (fieldLoop interfaceMemberNodes)
      = .ok ((d.fields.map fun f => memberLine o.vocabulary .interface f ++ ['\n']).flatten
          ++ ['}']) :=
    render_fieldLoop rfl fun f _ inner hinner => render_interfaceMember hinner
  have hnodes := renderAll_cons hprefix (renderAll_cons (render_text "interface ".toList)
    (renderAll_cons hname (renderAll_cons (render_text " \x7b\n".toList) hloop)))
  rw [interfaceNodes, hnodes, block, unlines_cons _ (by simp), ← flatten_terminated, headerLine]
  simp only [List.map_map, Function.comp_def, List.append_assoc]
  rfl

/-- A built-in template renders to a block. -/
theorem renderText_builtIn (o : Options) (d : Declaration) (n : Notation) :
    renderText (some (templateName n)) (builtInSource n) (context o d n) = .ok (block o n d) := by
  rw [renderText, isMarkup_templateName, scopeOf_context]
  cases n with
  | struct =>
      rw [builtInSource, compile_structSource]
      exact render_structNodes o d
  | interface =>
      rw [builtInSource, compile_interfaceSource]
      exact render_interfaceNodes o d

end Emission

/-! ## Settings with the built-in templates -/

open Emission Template

/-- Settings with the built-in templates: their overrides have entries, so
that they give options, and no file of their folder stands in for a
template. -/
structure Settings.UsesBuiltIn (fs : Files) (s : Settings) : Prop where
  options : ∃ o, Options.ofSettings s = .ok o
  templates : ∃ l, Library.ofFolder fs s.templateFolder = .ok l ∧
    ∀ n, l.source fs (templateName n) = .ok (builtInSource n)

namespace Settings

variable {fs : Files} {s : Settings} {n : Notation} {d : Declaration}

theorem source_builtIn (fs : Files) (n : Notation) :
    Library.source ⟨none, Library.builtIn⟩ fs (templateName n) = .ok (builtInSource n) := by
  cases n <;> rfl

/-- Overrides that are objects give a vocabulary. -/
theorem exists_ofSettings_eq {toInterface toStruct : Table Json}
    (hstruct : s.structOverrides = .object toInterface)
    (hinterface : s.interfaceOverrides = .object toStruct) :
    ∃ v, Options.ofSettings s = .ok (Options.withVocabulary s v) := by
  have hentries : ∀ t : Table Json, ∃ es, (Json.object t).entriesIfSet = .ok es := by
    intro t
    rw [Json.entriesIfSet]
    split
    · exact ⟨_, rfl⟩
    · exact ⟨_, rfl⟩
  obtain ⟨es, hes⟩ := hentries toInterface
  obtain ⟨es', hes'⟩ := hentries toStruct
  rw [Options.ofSettings, Options.vocabularyOf, hstruct, hinterface, hes, hes']
  exact ⟨_, rfl⟩

/-- Without a folder, overrides that are objects are enough. -/
theorem usesBuiltIn_of_noFolder (fs : Files) {toInterface toStruct : Table Json}
    (hfolder : s.templateFolder = .null) (hstruct : s.structOverrides = .object toInterface)
    (hinterface : s.interfaceOverrides = .object toStruct) : s.UsesBuiltIn fs where
  options := (exists_ofSettings_eq hstruct hinterface).imp' _ fun _ h => h
  templates := by
    rw [hfolder]
    exact ⟨_, rfl, source_builtIn fs⟩

/-- Settings that pass their checks and name no folder use the built-in
templates. -/
theorem usesBuiltIn_of_problems (hfolder : s.templateFolder = .null)
    (h : s.problems fs = .ok []) : s.UsesBuiltIn fs := by
  rw [problems, hfolder, folderProblems] at h
  simp only [bind, Except.bind, pure, Except.pure, Except.ok.injEq, List.append_eq_nil_iff] at h
  have hobject : ∀ key value, overrideProblems key value = [] → ∃ t, value = .object t := by
    intro key value hvalue
    cases value with
    | object t => exact ⟨t, rfl⟩
    | _ => exact absurd hvalue (by simp [overrideProblems])
  obtain ⟨toInterface, hstruct⟩ := hobject _ _ h.1.2
  obtain ⟨toStruct, hinterface⟩ := hobject _ _ h.2
  exact usesBuiltIn_of_noFolder fs hfolder hstruct hinterface

end Settings

/-- What the built-in templates make of a declaration is a block without
blanks at the ends of its lines. -/
theorem emit_of_builtInSource {fs : Files} {o : Options} {l : Library}
    (hl : Library.ofFolder fs o.templateFolder = .ok l)
    (hsource : ∀ n, l.source fs (templateName n) = .ok (builtInSource n)) (n : Notation)
    (d : Declaration) : d.emit fs o n = .ok (tidy (block o n d)) := by
  rw [Declaration.emit, hl]
  show (do return tidy (← l.render fs (templateName n) (context o d n))) = _
  rw [Library.render, hsource]
  show (do return tidy (← renderText (some (templateName n)) (builtInSource n) (context o d n))) = _
  rw [renderText_builtIn]
  rfl

/-- **With the built-in templates every declaration can be written**, as a
block without blanks at the ends of its lines. -/
theorem emit_eq {fs : Files} {s : Settings} {o : Options} (h : s.UsesBuiltIn fs)
    (ho : Options.ofSettings s = .ok o) (n : Notation) (d : Declaration) :
    d.emit fs o n = .ok (tidy (block o n d)) := by
  obtain ⟨l, hl, hsource⟩ := h.templates
  have hfolder : o.templateFolder = s.templateFolder := by
    rw [Options.ofSettings] at ho
    cases hv : Options.vocabularyOf s with
    | error cause => rw [hv] at ho; cases ho
    | ok v => rw [hv] at ho; cases ho; rfl
  exact emit_of_builtInSource (by rw [hfolder, hl]) hsource n d

end WireTypes
