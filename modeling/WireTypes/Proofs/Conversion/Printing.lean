import WireTypes.Proofs.Conversion.Emission

/-!
# Conversion — What is emitted is printed

Templates are a detour: without a folder of them, the text of a
declaration is that of its lines, printed one by one and joined. What
stands in a name, a type or a comment reaches the text as it is, also
where it looks like a mark of a template or of markup.
-/

namespace WireTypes

open Text Emission

/-- The line of a field of a struct, as it is printed. -/
theorem structLine_printed (v : Vocabulary) (f : Field) : memberLine v .struct f
    = "\t".toList ++ Name.pascal f.jsonName ++ " ".toList ++ f.type.toStruct v ++ " ".toList ++
      (JsonEntry.mk f.jsonName f.omittable).quotedTag ++ commentSuffix f.comment := by
  rw [memberLine]
  simp only [List.append_assoc]

/-- The line of a property of an interface, as it is printed. -/
theorem interfaceLine_printed (v : Vocabulary) (f : Field) : memberLine v .interface f
    = "  ".toList ++ f.jsonName ++ (if f.omittable then "?".toList else []) ++ ": ".toList ++
      f.type.toInterface v ++ (if f.omittable || f.isNullable then " | null".toList else []) ++
      ";".toList ++ commentSuffix f.comment := by
  rw [memberLine, interfaceTypeText_eq]
  simp only [List.append_assoc]
  rfl

/-- **A declaration is emitted as it would be printed**, with any
vocabulary: a header, one line for each field in its order and a brace,
joined by line feeds and without blanks at the ends of lines. Overrides
that are objects give such a vocabulary. -/
theorem emit_eq_printed (fs : Files) (s : Settings) (hfolder : s.templateFolder = .null)
    (v : Vocabulary) (d : Declaration) :
    (∀ toInterface toStruct, s.structOverrides = .object toInterface →
      s.interfaceOverrides = .object toStruct →
      ∃ own, Options.ofSettings s = .ok (Options.withVocabulary s own)) ∧
    d.emit fs (Options.withVocabulary s v) .struct = .ok (tidy (unlines (
      ("type ".toList ++ d.name ++ " struct \x7b".toList) ::
      (d.fields.map (fun f =>
        "\t".toList ++ Name.pascal f.jsonName ++ " ".toList ++ f.type.toStruct v ++ " ".toList ++
          (JsonEntry.mk f.jsonName f.omittable).quotedTag ++ commentSuffix f.comment) ++
        ["\x7d".toList])))) ∧
    d.emit fs (Options.withVocabulary s v) .interface = .ok (tidy (unlines (
      ((if s.exported.isSet then "export ".toList else []) ++ "interface ".toList ++ d.name ++
        " \x7b".toList) ::
      (d.fields.map (fun f =>
        "  ".toList ++ f.jsonName ++ (if f.omittable then "?".toList else []) ++ ": ".toList ++
          f.type.toInterface v ++ (if f.omittable || f.isNullable then " | null".toList else []) ++
          ";".toList ++ commentSuffix f.comment) ++
        ["\x7d".toList])))) := by
  have hemit : ∀ n, d.emit fs (Options.withVocabulary s v) n
      = .ok (tidy (block (Options.withVocabulary s v) n d)) := by
    intro n
    refine emit_of_builtInSource ?_ (Settings.source_builtIn fs) n d
    rw [Options.withVocabulary, hfolder]
    rfl
  refine ⟨fun _ _ => Settings.exists_ofSettings_eq, ?_, ?_⟩
  · rw [hemit, block, headerLine, ← List.append_assoc]
    simp only [← structLine_printed]
    rfl
  · rw [hemit, block, headerLine, ← List.append_assoc, ← List.append_assoc]
    simp only [← interfaceLine_printed]
    rfl

/-- A declaration whose texts hold marks of templates and of markup. -/
def banner : Declaration where
  name := "\x7b\x7b fields \x7d\x7d".toList
  kind := .interface
  fields := [
    { name := "note".toList
      type := .nullable (.array (.known "string".toList))
      jsonName := "note_\x7b# a #\x7d".toList
      omittable := true
      comment := some "// <b>'\x7b\x7b x \x7d\x7d'</b> \t".toList },
    { name := "tail".toList
      type := .named "\x7b% endfor %\x7d".toList
      jsonName := "tail_end".toList }]

/-- Settings that export interfaces. -/
def bannerSettings : Settings := { exported := .bool true }

theorem emit_eq_printed_banner :
    bannerSettings.templateFolder = .null ∧
    (∃ own, Options.ofSettings bannerSettings = .ok (Options.withVocabulary bannerSettings own)) ∧
    banner.emit [] (Options.withVocabulary bannerSettings .default) .struct = .ok (
      "type \x7b\x7b fields \x7d\x7d struct \x7b\n".toList ++
      "\tNote_\x7b# a #\x7d *[]string `json:\"note_\x7b# a #\x7d,omitempty\"`".toList ++
      " // <b>'\x7b\x7b x \x7d\x7d'</b>\n".toList ++
      "\tTailEnd \x7b% endfor %\x7d `json:\"tail_end\"`\n\x7d".toList) ∧
    banner.emit [] (Options.withVocabulary bannerSettings .default) .interface = .ok (
      "export interface \x7b\x7b fields \x7d\x7d \x7b\n".toList ++
      "  note_\x7b# a #\x7d?: string[] | null; // <b>'\x7b\x7b x \x7d\x7d'</b>\n".toList ++
      "  tail_end: \x7b% endfor %\x7d;\n\x7d".toList) := by
  have hfolder : bannerSettings.templateFolder = .null := rfl
  obtain ⟨hoptions, hstruct, hinterface⟩ :=
    emit_eq_printed [] bannerSettings hfolder .default banner
  refine ⟨hfolder, hoptions [] [] rfl rfl, ?_, ?_⟩
  · rw [hstruct]
    decide +kernel
  · rw [hinterface]
    decide +kernel

end WireTypes
