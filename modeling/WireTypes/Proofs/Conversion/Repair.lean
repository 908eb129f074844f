import WireTypes.Proofs.Conversion.Outcome
import WireTypes.Proofs.Struct.TagRepair

/-!
# Conversion — A text that was given tags

A text that a conversion gave tags to is a struct as it stands: it starts
with its header, ends without blanks, and is missing no tag. So the next
conversion converts it (`convert_after_repair`).
-/

namespace WireTypes

open Text

namespace TagRepair

variable {t header : Text} {rest : List Text}

/-- The header line stays the first line. -/
theorem exists_repair_eq (hlines : lines t = header :: rest)
    (hheader : (structHeader? header).isSome = true) :
    ∃ more, repair t = unlines (header :: more) := by
  refine ⟨(Block.marksFrom .struct (Block.mark .struct .searching header).progress rest).map
    repairMark, ?_⟩
  have hrole : Block.mark .struct .searching header
      = ⟨.header, header, if closesItself header then .done else .inside⟩ := by
    rw [Block.mark]
    exact if_pos hheader
  rw [repair, Block.marks, hlines, Block.marksFrom, List.map_cons, hrole]
  rfl

/-- The last line ends as it did. -/
theorem endsOutside_repair (hne : t ≠ []) (h : EndsOutside isBlank t) :
    EndsOutside isBlank (repair t) := by
  have hlines : (Block.marks .struct t).map (·.line) = lines t :=
    Block.map_line_marksFrom .searching (lines t)
  obtain ⟨ms, m, hms⟩ : ∃ ms m, Block.marks .struct t = ms ++ [m] :=
    ⟨_, _, (List.dropLast_append_getLast (Block.marks_ne_nil .struct t)).symm⟩
  have ht : t = unlines (ms.map (·.line) ++ [m.line]) := by
    conv => lhs; rw [← unlines_lines t, ← hlines, hms]
    rw [List.map_append, List.map_singleton]
  -- an empty last line would stand behind a line feed, which is a blank
  have hlast : m.line ≠ [] := by
    intro hnil
    rw [hnil] at ht
    by_cases hms' : ms.map (·.line) = []
    · rw [hms', List.nil_append, unlines_singleton] at ht
      exact hne ht
    · rw [unlines_concat [] hms'] at ht
      rw [ht, endsOutside_concat, isBlank_newline] at h
      exact absurd h (by decide)
  have hend : EndsOutside isBlank m.line := by
    rw [ht] at h
    exact (endsOutside_unlines hlast).mp h
  have hmark : repairMark m ≠ [] ∧ EndsOutside isBlank (repairMark m) := by
    rw [repairMark]
    split
    · exact endsOutside_repairLine hlast hend
    · exact ⟨hlast, hend⟩
  rw [repair, hms, List.map_append, List.map_singleton, endsOutside_unlines hmark.1]
  exact hmark.2

end TagRepair

namespace Conversion

open TagRepair

variable {t : Text}

/-- A repaired struct has no blanks at its ends and is recognised. -/
theorem classify_repair (h : classify t = .ok .struct) :
    trim (repair (trim t)) = repair (trim t) ∧ classify (repair (trim t)) = .ok .struct := by
  obtain ⟨name, hname⟩ := classify_eq_struct_iff.mp h
  obtain ⟨rest, hlines⟩ := exists_lines_eq (trim t)
  have hnewline : '\n' ∉ firstLine t := not_mem_of_mem_lines (by rw [hlines]; simp [firstLine])
  have htrim : trim t = unlines (firstLine t :: rest) := by rw [firstLine, ← hlines, unlines_lines]
  have hheaderNe : firstLine t ≠ [] := by
    intro hnil
    rw [hnil] at hname
    cases hname
  have hne : trim t ≠ [] := fun hnil => hheaderNe (by rw [firstLine, hnil]; rfl)
  obtain ⟨more, hrepair⟩ := exists_repair_eq hlines (Option.isSome_iff_exists.mpr ⟨name, hname⟩)
  rw [← firstLine] at hrepair
  have hstart : StartsOutside isBlank (repair (trim t)) := by
    have hsource := startsOutside_trim t
    rw [htrim, startsOutside_unlines hheaderNe] at hsource
    rw [hrepair, startsOutside_unlines hheaderNe]
    exact hsource
  have htrimmed : trim (repair (trim t)) = repair (trim t) :=
    trim_of_outside hstart (endsOutside_repair hne (endsOutside_trim t))
  -- the header is no body line, so the first line is the one it was
  have hfirst : firstLine (repair (trim t)) = firstLine t := by
    conv => lhs; rw [firstLine, htrimmed, hrepair]
    exact takeWhile_unlines hnewline
  exact ⟨htrimmed, classify_eq_struct_iff.mpr ⟨name, by rw [hfirst, hname]⟩⟩

/-- A text is given tags if it is a struct that misses some. -/
theorem eq_of_tagged {fs : Files} {s : Settings} {r : Text} {names : List Text}
    (h : ofText fs s t = .ok (.tagged r names)) :
    classify t = .ok .struct ∧ r = repair (trim t) := by
  cases outcome_of_ofText h with
  | tagged verdict check missing => exact ⟨verdict, rfl⟩

/-- A recognised struct without missing tags is converted. -/
theorem ofText_of_complete_tags {fs : Files} {s : Settings} (hs : s.UsesBuiltIn fs)
    (hclass : classify t = .ok .struct) (hmissing : missing (trim t) = []) :
    ∃ d out, ofText fs s t = .ok (.converted .struct d out) := by
  obtain ⟨o, ho⟩ := hs.options
  obtain ⟨name, hname⟩ := exists_header_of_classify hclass
  exact ⟨_, _, ofText_eq_converted hs ho hclass (fun _ _ => hmissing)
    (Declaration.read_of_header? o.vocabulary hname)⟩

/-- **The repair reaches a fixed point in one pass, and what it gives is
converted.** Repairing a repaired text changes nothing and no tag is
missing in it; and when a conversion with the tag check gives a text
tags, the conversion of the result under the same settings is carried
out. -/
theorem convert_after_repair :
    (∀ t : Text, repair (repair t) = repair t ∧ missing (repair t) = []) ∧
    ∀ (fs : Files) (s : Settings) (t r : Text) (names : List Text), s.UsesBuiltIn fs →
      ofText fs s t = .ok (.tagged r names) →
      ∃ d out, ofText fs s r = .ok (.converted .struct d out) := by
  refine ⟨fun t => ⟨repair_repair t, missing_repair t⟩, ?_⟩
  intro fs s t r names hs h
  obtain ⟨hclass, rfl⟩ := eq_of_tagged h
  obtain ⟨htrim, hrepaired⟩ := classify_repair hclass
  exact ofText_of_complete_tags hs hrepaired (by rw [htrim, missing_repair])

/-- A struct between blanks, with a field that has a tag and two that
have none. -/
def badge : Text :=
  "\n  type Badge struct \x7b\n\tID int `json:\"id\"`\n\tHolder *string // may be empty\n".toList ++
    "\tExpiresAt time.Time\n\x7d\n".toList

theorem convert_after_repair_badge :
    Settings.UsesBuiltIn [] {} ∧
    ofText [] {} badge = .ok (.tagged (repair (trim badge)) (missing (trim badge))) ∧
    ∃ d out, ofText [] {} (repair (trim badge)) = .ok (.converted .struct d out) := by
  have hsettings : Settings.UsesBuiltIn [] {} := Settings.usesBuiltIn_of_problems rfl rfl
  have hplan : plan (Settings.tagCheck {}).isSet badge = .addTags := by decide +kernel
  have htagged : ofText [] {} badge
      = .ok (.tagged (repair (trim badge)) (missing (trim badge))) := by
    rw [ofText, hplan]
  exact ⟨hsettings, htagged, convert_after_repair.2 [] {} badge _ _ hsettings htagged⟩

end Conversion

end WireTypes
