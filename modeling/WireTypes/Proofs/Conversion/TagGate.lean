import WireTypes.Proofs.Conversion.Outcome
import WireTypes.Proofs.Struct.Retagging

/-!
# Conversion — The tag gate

With the tag check a struct is converted only when the repair would leave
it alone. The repair and the reader of fields look at a line in different
ways: the repair passes by every line that has a tag of any kind or
mentions a JSON tag anywhere, the reader asks for the entry of the tag.
So a converted field has a line with a tag, or at least such a mention, and
its serialised name is that of the entry if the tag has one
(`exists_source_of_converted`).
-/

namespace WireTypes.Conversion

open Text TagRepair

variable {v : Vocabulary} {line t : Text} {l : FieldLine} {f : Field}

/-- Where the serialised name of a field of a struct comes from. -/
inductive NameSource (line : Text) (l : FieldLine) (f : Field) : Prop where
  /-- The tag has an entry, which gives a name or leaves the field its
  own. -/
  | entry {e : JsonEntry} (read : l.entry? = some e)
      (named : f.jsonName = if e.name = [] then l.name else e.name)
  /-- The tag has no entry; the name is derived. -/
  | foreignTag {tag : Text} {comment : Option Text} (tail : l.tail = .tagged tag comment)
      (absent : JsonEntry.ofTag? tag = none) (derived : f.jsonName = Name.camel l.name)
  /-- There is no tag, but the line mentions one; the name is derived. -/
  | mention {comment : Option Text} (tail : l.tail = .untagged comment)
      (mentions : hasPart "json:".toList line = true) (derived : f.jsonName = Name.camel l.name)

/-- A line that the repair leaves alone gives its field a name in one of
three ways. -/
theorem nameSource_of_untagged? (hline : FieldLine.ofLine? line = some l)
    (hfield : l.toField? v = some f) (hkept : untagged? line = none) : NameSource line l f := by
  obtain ⟨hexported, -, hparts⟩ := FieldLine.toField?_eq_some_iff.mp hfield
  have hname : f.jsonName = l.serialised.name := by rw [hparts]
  cases hentry : l.entry? with
  | some e =>
      exact .entry hentry (by
        rw [hname, FieldLine.serialised_of_entry hentry, apply_ite JsonEntry.name])
  | none =>
      have hderived : f.jsonName = Name.camel l.name := by
        rw [hname, FieldLine.serialised_of_no_entry hentry]
      cases htail : l.tail with
      | tagged tag comment =>
          unfold FieldLine.entry? at hentry
          rw [htail] at hentry
          exact .foreignTag htail hentry hderived
      | untagged comment =>
          refine .mention htail ?_ hderived
          -- without the mention the repair would give the line a tag
          by_contra hpart
          have hneeded : untagged? line = some l := untagged?_eq_some_iff.mpr
            ⟨by simpa using hpart, hline, hexported, comment, htail⟩
          rw [hneeded] at hkept
          cases hkept

theorem untagged?_of_missing_eq_nil (h : missing t = []) (hline : line ∈ Block.body .struct t) :
    untagged? line = none := by
  rw [missing, List.filterMap_eq_nil_iff] at h
  exact Option.map_eq_none_iff.mp (h line hline)

/-- A line and its field stand in the body and belong together. -/
theorem of_mem_fieldLines {p : Text × Field} (h : p ∈ fieldLines v t) :
    p.1 ∈ Block.body .struct t ∧ structField? v p.1 = some p.2 := by
  obtain ⟨line, hline, hp⟩ := List.mem_filterMap.mp h
  obtain ⟨f, hf, rfl⟩ := Option.map_eq_some_iff.mp hp
  rw [lineField?] at hf
  split at hf
  · cases hf
  · exact ⟨hline, hf⟩

/-- **What the tag check lets through.** When a struct is converted with
the tag check, under any settings, its fields are read from lines of the
body, one each, and each serialised name comes from the entry of the tag,
unless the line has a tag without an entry, or no tag and a mention of a
JSON tag. -/
theorem exists_source_of_converted {fs : Files} {s : Settings} {d : Declaration} {out : Text}
    (hcheck : s.tagCheck.isSet = true) (h : ofText fs s t = .ok (.converted .struct d out)) :
    ∃ o, Options.ofSettings s = .ok o ∧ d.emit fs o .interface = .ok out ∧
      (fieldLines o.vocabulary (trim t)).map (·.2) = d.fields ∧
      ∀ p ∈ fieldLines o.vocabulary (trim t), p.1 ∈ Block.body .struct (trim t) ∧
        ∃ l, FieldLine.ofLine? p.1 = some l ∧ l.toField? o.vocabulary = some p.2 ∧
          NameSource p.1 l p.2 := by
  cases outcome_of_ofText h with
  | converted verdict complete options declared written =>
      rename_i o
      have hmissing : missing (trim t) = [] := complete rfl hcheck
      obtain ⟨name, hname⟩ := exists_header_of_classify verdict
      rw [Declaration.read_of_header? o.vocabulary hname] at declared
      cases declared
      refine ⟨o, options, written, map_snd_fieldLines _ _, fun p hp => ?_⟩
      obtain ⟨hbody, hfield⟩ := of_mem_fieldLines hp
      obtain ⟨l, hline, hl⟩ := Option.bind_eq_some_iff.mp hfield
      exact ⟨hbody, l, hline, hl,
        nameSource_of_untagged? hline hl (untagged?_of_missing_eq_nil hmissing hbody)⟩

/-! ## A struct that is let through -/

/-- A struct with an entry that has a name, with one that has none, and with
a tag of another kind. -/
def draft : Text :=
  "type Draft struct \x7b\n\tTitle string `json:\"headline\"`\n".toList ++
    "\tNotes string `json:\",omitempty\"`\n\tBody string `xml:\"body\"`\n\x7d".toList

def draftDeclaration : Declaration where
  name := "Draft".toList
  kind := .struct
  fields :=
    [{ name := "Title".toList
       type := .known "string".toList
       jsonName := "headline".toList },
     { name := "Notes".toList
       type := .known "string".toList
       jsonName := "Notes".toList
       omittable := true },
     { name := "Body".toList
       type := .known "string".toList
       jsonName := "body".toList }]

def draftInterface : Text :=
  "interface Draft \x7b\n  headline: string;\n  Notes?: string | null;\n".toList ++
    "  body: string;\n\x7d".toList

theorem ofText_draft (fs : Files) :
    ofText fs {} draft = .ok (.converted .struct draftDeclaration draftInterface) := by
  have hsettings : Settings.UsesBuiltIn fs {} := Settings.usesBuiltIn_of_noFolder fs rfl rfl rfl
  have hread : Declaration.read .default .struct (trim draft) = .ok draftDeclaration := by
    decide +kernel
  have hwritten : Emission.tidy (Emission.block {} .interface draftDeclaration)
      = draftInterface := by decide +kernel
  rw [ofText_eq_converted hsettings rfl (by decide +kernel) (fun _ _ => by decide +kernel) hread]
  exact congrArg (fun out => Except.ok (converted .struct draftDeclaration out)) hwritten

/-- **The tag check lets fields without an entry through.** A field of the
draft is converted although the tag of its line has no entry under the key
`json`, and its serialised name is derived. -/
theorem converted_without_entry :
    (Settings.tagCheck {}).isSet = true ∧
    ofText [] {} draft = .ok (.converted .struct draftDeclaration draftInterface) ∧
    (fieldLines .default (trim draft)).map (·.2) = draftDeclaration.fields ∧
    (fieldLines .default (trim draft)).map
        (fun p => ((FieldLine.ofLine? p.1).bind FieldLine.entry?, p.2.jsonName)) =
      [(some ⟨"headline".toList, false⟩, "headline".toList), (some ⟨[], true⟩, "Notes".toList),
       (none, Name.camel "Body".toList)] :=
  ⟨rfl, ofText_draft [], by decide +kernel, by decide +kernel⟩

theorem exists_source_of_converted_draft :
    (Settings.tagCheck {}).isSet = true ∧
    ofText [] {} draft = .ok (.converted .struct draftDeclaration draftInterface) ∧
    ∃ o, Options.ofSettings {} = .ok o ∧
      draftDeclaration.emit [] o .interface = .ok draftInterface ∧
      (fieldLines o.vocabulary (trim draft)).map (·.2) = draftDeclaration.fields ∧
      ∀ p ∈ fieldLines o.vocabulary (trim draft), p.1 ∈ Block.body .struct (trim draft) ∧
        ∃ l, FieldLine.ofLine? p.1 = some l ∧ l.toField? o.vocabulary = some p.2 ∧
          NameSource p.1 l p.2 := by
  have hcheck : (Settings.tagCheck {}).isSet = true := rfl
  exact ⟨hcheck, ofText_draft [], exists_source_of_converted hcheck (ofText_draft [])⟩

end WireTypes.Conversion
