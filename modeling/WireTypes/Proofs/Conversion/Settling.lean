import Mathlib.Logic.Function.Iterate
import WireTypes.Proofs.Conversion.AnyType
import WireTypes.Proofs.Conversion.Repair
import WireTypes.Proofs.Conversion.SkippedLines

/-!
# Conversion — Repeated conversion settles

What comes out of a conversion is accepted again, so a text starts a
sequence in which each text is the conversion of the one before. Apart
from a struct that is only given its tags, what comes out is a block, and
what happens to a block happens to its fields one by one (`next_block`). A
field that has been written in an interface and in a struct and was read
from both is settled (`IsSettled`): it is read back from either line, and
only its type can still change (`Declaration.returned`). Types come to rest
after one way there and back, and so the sequence alternates between two
texts from the sixth step on (`iterate_next_settles`).
-/

namespace WireTypes

open Text Emission

/-- The declaration that is read from the block of a declaration. -/
def Declaration.reread (n : Notation) (d : Declaration) : Declaration where
  name := d.name
  kind := n
  fields := (d.fields.takeWhile (staysOpen .default n)).filterMap (readBack .default n)

/-- The declaration that is read in the end when a declaration is written
in an interface and what is read there in a struct. -/
def Declaration.returned (d : Declaration) : Declaration := (d.reread .interface).reread .struct

namespace Conversion

open TypeExpr

variable {fs : Files} {n : Notation} {t line : Text} {f f' : Field} {d : Declaration}

/-! ## The sequence of conversions -/

/-- A conversion with the default settings accepts the text. -/
def Accepts (fs : Files) (t : Text) : Prop :=
  ∃ c, ofText fs {} t = .ok c ∧ c.rejection? = none

/-- What a conversion with the default settings makes of the text. -/
def next (fs : Files) (t : Text) : Text :=
  match ofText fs {} t with
  | .ok c => c.result
  | .error _ => []

theorem next_eq {c : Conversion} (h : ofText fs {} t = .ok c) : next fs t = c.result := by
  rw [next, h]

theorem usesBuiltIn_default (fs : Files) : Settings.UsesBuiltIn fs {} :=
  Settings.usesBuiltIn_of_noFolder fs rfl rfl rfl

/-- Just the texts that are recognised are accepted. -/
theorem accepts_iff : Accepts fs t ↔ ∃ n, classify t = .ok n := by
  constructor
  · rintro ⟨c, hc, haccepted⟩
    cases outcome_of_ofText hc with
    | rejected verdict => cases haccepted
    | tagged verdict => exact ⟨_, verdict⟩
    | converted verdict => exact ⟨_, verdict⟩
  · rintro ⟨n, hn⟩
    obtain ⟨c, hc⟩ := exists_ofText_eq (usesBuiltIn_default fs) t
    refine ⟨c, hc, ?_⟩
    cases outcome_of_ofText hc with
    | rejected verdict =>
        rw [hn] at verdict
        cases verdict
    | tagged => rfl
    | converted => rfl

/-! ## Blocks -/

/-- The declaration can be written in the notation: its name is a word,
and its fields stay on their lines. -/
structure IsWritable (n : Notation) (d : Declaration) : Prop where
  name_ne_nil : d.name ≠ []
  name_word : ∀ c ∈ d.name, isWord c = true
  lines : ∀ f ∈ d.fields, '\n' ∉ memberLine .default n f ∧
    EndsOutside isBlank (memberLine .default n f)

/-- Every field that is read from a line stays on its line in the other
notation. -/
theorem memberLine_of_field? (hline : '\n' ∉ line) (h : n.field? .default line = some f) :
    '\n' ∉ memberLine .default n.target f ∧
      EndsOutside isBlank (memberLine .default n.target f) := by
  cases n with
  | struct =>
      have hfits := fitsInterface_of_structField? hline h
      exact ⟨hfits.not_newline_mem, hfits.endsOutside⟩
  | interface =>
      have hproperty := isProperty_of_interfaceField? hline h
      exact ⟨hproperty.not_newline_mem, hproperty.endsOutside⟩

/-- **A recognised text that misses no tag is converted to a block**, with
the fields that its lines declare. -/
theorem exists_block (fs : Files) (hverdict : classify t = .ok n)
    (hcomplete : n = .struct → TagRepair.missing (trim t) = []) :
    ∃ d, IsWritable n.target d ∧ Declaration.read .default n (trim t) = .ok d ∧
      (∀ f ∈ d.fields, ∃ line, '\n' ∉ line ∧ n.field? .default line = some f) ∧
      ofText fs {} t = .ok (.converted n d (block {} n.target d)) := by
  obtain ⟨d, hread, hsource, hconverted, -⟩ := exists_block_of_lines fs true hverdict
    (fun hn _ => hcomplete hn) fun line hline f hfield =>
      memberLine_of_field? (Block.not_newline_mem_of_mem_body hline) hfield
  have hlines : ∀ f ∈ d.fields, ∃ line, '\n' ∉ line ∧ n.field? .default line = some f := by
    intro f hf
    obtain ⟨line, hline, hfield⟩ := hsource f hf
    exact ⟨line, Block.not_newline_mem_of_mem_body hline, hfield⟩
  obtain ⟨name, hname⟩ := exists_header_of_classify hverdict
  obtain ⟨hnameNe, hnameWord⟩ := Notation.word_of_header? hname
  rw [Declaration.read_of_header? .default hname] at hread
  cases hread
  refine ⟨_, ⟨hnameNe, hnameWord, fun f hf => ?_⟩, Declaration.read_of_header? .default hname,
    hlines, hconverted⟩
  obtain ⟨line, hline, hfield⟩ := hlines f hf
  exact memberLine_of_field? hline hfield

namespace IsWritable

variable (h : IsWritable n d)

include h

theorem reread : IsWritable n.target (d.reread n) where
  name_ne_nil := h.name_ne_nil
  name_word := h.name_word
  lines := by
    intro f hf
    obtain ⟨g, hg, hread⟩ := List.mem_filterMap.mp hf
    rw [readBack, Notation.lineField?_eq_field?] at hread
    exact memberLine_of_field? (h.lines g (List.takeWhile_subset _ hg)).1 hread

/-- **A block is converted field by field**: each line is read, up to the
first that closes the block, and written in the other notation. -/
theorem ofText_block (fs : Files) : ofText fs {} (block {} n d)
    = .ok (.converted n (d.reread n) (block {} n.target (d.reread n))) := by
  have hverdict : classify (block {} n d) = .ok n := classify_block h.name_ne_nil h.name_word {} n
  have htrim : trim (block {} n d) = block {} n d := trim_block h.name_word {} n
  have hcomplete : n = .struct → TagRepair.missing (trim (block {} n d)) = [] := by
    rintro rfl
    rw [htrim]
    exact missing_block (o := {}) h.name_ne_nil h.name_word h.lines
  obtain ⟨d', -, hread, -, hconverted⟩ := exists_block fs hverdict hcomplete
  have hreread : Declaration.read .default n (block {} n d) = .ok (d.reread n) :=
    read_block (o := {}) h.name_ne_nil h.name_word h.lines
  rw [htrim, hreread] at hread
  cases hread
  exact hconverted

theorem next_block (fs : Files) : next fs (block {} n d) = block {} n.target (d.reread n) :=
  next_eq (h.ofText_block fs)

end IsWritable

theorem IsWritable.returned (h : IsWritable .interface d) : IsWritable .interface d.returned :=
  h.reread.reread

/-- Two steps lead from an interface to the interface of what is returned
from its struct. -/
theorem IsWritable.iterate_two_block (h : IsWritable .interface d) (fs : Files) :
    (next fs)^[2] (block {} .interface d) = block {} .interface d.returned := by
  have hstruct : IsWritable .struct (d.reread .interface) := h.reread
  show next fs (next fs (block {} .interface d)) = _
  rw [h.next_block]
  exact hstruct.next_block fs

/-- **What comes out of a conversion is accepted again.** -/
theorem accepts_next (h : Accepts fs t) : Accepts fs (next fs t) := by
  obtain ⟨c, hc, haccepted⟩ := h
  rw [next_eq hc, accepts_iff]
  cases outcome_of_ofText hc with
  | rejected verdict => cases haccepted
  | tagged verdict => exact ⟨_, (classify_repair verdict).2⟩
  | @converted n o d out verdict complete options declared written =>
      obtain ⟨d', hd', -, -, hconverted⟩ := exists_block fs verdict fun hn => complete hn rfl
      rw [hconverted] at hc
      cases hc
      exact ⟨_, classify_block hd'.name_ne_nil hd'.name_word {} _⟩

/-- All texts of the sequence are accepted. -/
theorem accepts_iterate_next (h : Accepts fs t) (i : Nat) : Accepts fs ((next fs)^[i] t) := by
  induction i with
  | zero => exact h
  | succ i ih =>
      rw [Function.iterate_succ_apply']
      exact accepts_next ih

/-! ## Settled fields -/

/-- The field that an interface has for a field. -/
def inInterface (f : Field) : Field where
  name := f.jsonName
  type := Union.toType .default f.omittable (trimStart (interfaceTypeText .default f))
  jsonName := f.jsonName
  omittable := f.omittable
  comment := f.comment

/-- The field that a struct has for a property. -/
def inStruct (f : Field) : Field where
  name := Name.pascal f.jsonName
  type := ofStruct .default (f.type.toStruct .default)
  jsonName := f.jsonName
  omittable := f.omittable
  comment := f.comment

/-- What an interface writes for a type of a struct. -/
theorem interfaceTypeText_eq_unionText {type : Text} (h : f.type = ofStruct .default type) :
    interfaceTypeText .default f = unionText f.omittable (ofStruct .default type) := by
  rw [interfaceTypeText_eq, Field.isNullable, h, unionText]

/-- What a struct writes for it then. -/
theorem toStruct_inInterface {type : Text} (h : f.type = ofStruct .default type) :
    (inInterface f).type.toStruct .default = returned f.omittable type := by
  rw [inInterface, interfaceTypeText_eq_unionText h, returned]

theorem type_inStruct {type : Text} (h : f.type = ofStruct .default type) :
    (inStruct (inInterface f)).type = ofStruct .default (returned f.omittable type) := by
  rw [← toStruct_inInterface h]
  rfl

/-- A field of a struct that either notation gives back: its serialised
name is a word that gives a field name, and it has no block comment. -/
structure IsSettled (f : Field) : Prop where
  key_ne_nil : f.jsonName ≠ []
  key_word : ∀ c ∈ f.jsonName, isWord c = true
  fieldName : hasFieldName f = true
  comment : ∀ c ∈ f.comment, IsLineComment c
  fits : FitsInterface .default f
  type : ∃ type, type ≠ [] ∧ (∀ c ∈ type, isStructTypeChar c = true) ∧
    f.type = ofStruct .default type

/-- **What is read back from a line of a struct is settled**, if the type
on the line has no mark that ends a type. -/
theorem isSettled_of_readBack (h : IsProperty f) (hquote : '`' ∉ f.type.toStruct .default)
    (hslash : '/' ∉ f.type.toStruct .default) (hread : readBack .default .struct f = some f') :
    f' = inStruct f ∧ IsSettled f' := by
  rw [(staysOpen_struct h.key_ne_nil h.key_word).2] at hread
  have hfits := h.fitsStruct_of_structField? hquote hslash hread
  have hfieldName := hasFieldName_of_structField? h.key_ne_nil h.key_word hread
  have hinterface := fitsInterface_of_structField? h.not_newline_mem hread
  have hname := hfieldName
  rw [hasFieldName, Bool.and_eq_true, List.all_eq_true] at hname
  rw [hfits.structField?_memberLine hname.2 hname.1] at hread
  obtain rfl := Option.some.inj hread
  exact ⟨rfl, h.key_ne_nil, h.key_word, hfieldName, h.comment, hinterface, _, hfits.type_ne_nil,
    hfits.type, rfl⟩

namespace IsSettled

variable (h : IsSettled f)

include h

/-- The line of a settled field in an interface gives its property. -/
theorem readBack_interface : staysOpen .default .interface f = true ∧
    readBack .default .interface f = some (inInterface f) := by
  obtain ⟨hopen, hread⟩ := staysOpen_interface h.key_ne_nil h.key_word
  exact ⟨hopen, hread.trans (h.fits.interfaceField?_memberLine h.key_ne_nil h.key_word h.comment)⟩

theorem isProperty_inInterface : IsProperty (inInterface f) :=
  isProperty_of_interfaceField? h.fits.not_newline_mem
    (h.fits.interfaceField?_memberLine h.key_ne_nil h.key_word h.comment)

theorem fitsStruct_inInterface : FitsStruct .default (inInterface f) := by
  refine h.isProperty_inInterface.fitsStruct ?_
  obtain ⟨type, hne, hchars, htype⟩ := h.type
  obtain ⟨s, hs, -⟩ := exists_settled hne hchars f.omittable
  rw [toStruct_inInterface htype, hs]
  exact s.inStruct_chars

/-- The line of the property in a struct gives the field, which is settled
again. -/
theorem readBack_struct : staysOpen .default .struct (inInterface f) = true ∧
    readBack .default .struct (inInterface f) = some (inStruct (inInterface f)) ∧
    IsSettled (inStruct (inInterface f)) := by
  have hproperty := h.isProperty_inInterface
  have hfits := h.fitsStruct_inInterface
  obtain ⟨hopen, hread⟩ := staysOpen_struct hproperty.key_ne_nil hproperty.key_word
  have hname := h.fieldName
  rw [hasFieldName, Bool.and_eq_true, List.all_eq_true] at hname
  have hback : readBack .default .struct (inInterface f) = some (inStruct (inInterface f)) :=
    hread.trans (hfits.structField?_memberLine hname.2 hname.1)
  exact ⟨hopen, hback, (isSettled_of_readBack hproperty (not_mem_of_class hfits.type (by decide))
    (not_mem_of_class hfits.type (by decide)) hback).2⟩

/-- **A settled field is at rest after one way there and back**: an
interface has the same line for it from then on. -/
theorem memberLine_twice :
    memberLine .default .interface (inStruct (inInterface (inStruct (inInterface f))))
      = memberLine .default .interface (inStruct (inInterface f)) := by
  obtain ⟨type, hne, hchars, htype⟩ := h.type
  have hreturned := type_inStruct htype
  have hagain := type_inStruct hreturned
  have hsame : interfaceTypeText .default (inStruct (inInterface (inStruct (inInterface f))))
      = interfaceTypeText .default (inStruct (inInterface f)) := by
    rw [interfaceTypeText_eq_unionText hagain, interfaceTypeText_eq_unionText hreturned]
    exact unionText_returned_returned hne hchars f.omittable
  -- only the type of the field is another one
  rw [memberLine, memberLine, hsame]
  rfl

end IsSettled

/-! ## Settled declarations -/

/-- All fields of the declaration are settled. -/
def AllSettled (d : Declaration) : Prop := ∀ f ∈ d.fields, IsSettled f

namespace AllSettled

variable (h : AllSettled d)

include h

theorem fields_reread_interface :
    (d.reread .interface).fields = d.fields.map inInterface := by
  have hopen : d.fields.takeWhile (staysOpen .default .interface) = d.fields :=
    List.takeWhile_eq_self_iff.mpr fun f hf => (h f hf).readBack_interface.1
  rw [Declaration.reread, hopen, ← List.filterMap_eq_map]
  exact List.filterMap_congr fun f hf => (h f hf).readBack_interface.2

theorem fields_returned : d.returned.fields = d.fields.map fun f => inStruct (inInterface f) := by
  have hopen : (d.fields.map inInterface).takeWhile (staysOpen .default .struct)
      = d.fields.map inInterface := by
    refine List.takeWhile_eq_self_iff.mpr fun g hg => ?_
    obtain ⟨f, hf, rfl⟩ := List.mem_map.mp hg
    exact (h f hf).readBack_struct.1
  rw [Declaration.returned, Declaration.reread, h.fields_reread_interface, hopen,
    List.filterMap_map, ← List.filterMap_eq_map]
  exact List.filterMap_congr fun f hf => (h f hf).readBack_struct.2.1

theorem returned : AllSettled d.returned := by
  intro g hg
  rw [h.fields_returned] at hg
  obtain ⟨f, hf, rfl⟩ := List.mem_map.mp hg
  exact (h f hf).readBack_struct.2.2

/-- **A declaration of settled fields is at rest after one way there and
back.** -/
theorem block_returned_returned :
    block {} .interface d.returned.returned = block {} .interface d.returned := by
  have hlines : d.returned.returned.fields.map (memberLine .default .interface)
      = d.returned.fields.map (memberLine .default .interface) := by
    rw [h.returned.fields_returned, h.fields_returned, List.map_map, List.map_map, List.map_map]
    exact List.map_congr_left fun f hf => (h f hf).memberLine_twice
  exact congrArg (fun ls => unlines (headerLine {} d.name .interface :: (ls ++ [['\x7d']]))) hlines

end AllSettled

/-- **After three steps all fields are settled**, from a struct that misses
no tag on: a struct, its interface, the struct of the interface. -/
theorem exists_settled_declaration (fs : Files) (hverdict : classify t = .ok .struct)
    (hcomplete : TagRepair.missing (trim t) = []) :
    ∃ d, IsWritable .interface d ∧ AllSettled d ∧ (next fs)^[3] t = block {} .interface d := by
  obtain ⟨d, hd, -, hsource, hconverted⟩ := exists_block fs hverdict fun _ => hcomplete
  have hwritable : IsWritable .interface d := hd
  refine ⟨d.returned, hwritable.returned, ?_, ?_⟩
  · intro f₂ hf₂
    obtain ⟨f₁, hf₁, hread₂⟩ := List.mem_filterMap.mp hf₂
    obtain ⟨f₀, hf₀, hread₁⟩ := List.mem_filterMap.mp (List.takeWhile_subset _ hf₁)
    obtain ⟨line, -, hfield⟩ := hsource f₀ (List.takeWhile_subset _ hf₀)
    rw [readBack, Notation.lineField?_eq_field?] at hread₁
    have hline := (hd.lines f₀ (List.takeWhile_subset _ hf₀)).1
    obtain ⟨hquote, hslash⟩ := plainMarks_of_interfaceField? hfield hread₁
    exact (isSettled_of_readBack (isProperty_of_interfaceField? hline hread₁) hquote hslash
      hread₂).2
  · rw [Function.iterate_succ_apply, next_eq hconverted]
    exact hwritable.iterate_two_block fs

/-- From a struct that misses no tag on, the seventh step gives what the
fifth gave. -/
theorem iterate_seven (fs : Files) (hverdict : classify t = .ok .struct)
    (hcomplete : TagRepair.missing (trim t) = []) : (next fs)^[7] t = (next fs)^[5] t := by
  obtain ⟨d, hd, hsettled, hthree⟩ := exists_settled_declaration fs hverdict hcomplete
  have hfive : (next fs)^[2 + 3] t = block {} .interface d.returned := by
    rw [Function.iterate_add_apply, hthree, hd.iterate_two_block]
  have hseven : (next fs)^[2 + (2 + 3)] t = block {} .interface d.returned.returned := by
    rw [Function.iterate_add_apply, hfive, hd.returned.iterate_two_block]
  exact hseven.trans (hsettled.block_returned_returned.trans hfive.symm)

/-- Every text is a struct that misses no tag, or its conversion is one. -/
theorem struct_of_accepts (h : Accepts fs t) :
    (classify t = .ok .struct ∧ TagRepair.missing (trim t) = []) ∨
      (classify (next fs t) = .ok .struct ∧ TagRepair.missing (trim (next fs t)) = []) := by
  obtain ⟨c, hc, haccepted⟩ := h
  rw [next_eq hc]
  cases outcome_of_ofText hc with
  | rejected verdict => cases haccepted
  | tagged verdict =>
      obtain ⟨htrim, hstruct⟩ := classify_repair verdict
      refine Or.inr ⟨hstruct, ?_⟩
      rw [Conversion.result, htrim, TagRepair.missing_repair]
  | @converted n o d out verdict complete options declared written =>
      cases n with
      | struct => exact Or.inl ⟨verdict, complete rfl rfl⟩
      | interface =>
          obtain ⟨d', hd', -, -, hconverted⟩ := exists_block fs verdict fun hn => nomatch hn
          rw [hconverted] at hc
          cases hc
          refine Or.inr ⟨classify_block hd'.name_ne_nil hd'.name_word {} _, ?_⟩
          rw [Conversion.result, Notation.target, trim_block hd'.name_word]
          exact missing_block (o := {}) hd'.name_ne_nil hd'.name_word hd'.lines

/-- **Repeated conversion settles.** When a text is accepted, the
conversion of its result is accepted as well, and so on, and after six
steps each text is what comes again two steps later. -/
theorem iterate_next_settles (fs : Files) (t : Text) (h : Accepts fs t) :
    (∀ i, ∃ c, ofText fs {} ((next fs)^[i] t) = .ok c ∧ c.rejection? = none ∧
      (next fs)^[i + 1] t = c.result) ∧
    ∀ n, 6 ≤ n → (next fs)^[n + 2] t = (next fs)^[n] t := by
  refine ⟨fun i => ?_, fun n hn => ?_⟩
  · obtain ⟨c, hc, haccepted⟩ := accepts_iterate_next h i
    refine ⟨c, hc, haccepted, ?_⟩
    rw [Function.iterate_succ_apply', next_eq hc]
  · -- the struct that misses no tag is the text itself or the one behind it
    have hsix : (next fs)^[7 + 1] t = (next fs)^[5 + 1] t := by
      rcases struct_of_accepts h with ⟨hstruct, hcomplete⟩ | ⟨hstruct, hcomplete⟩
      · rw [Function.iterate_succ_apply', iterate_seven fs hstruct hcomplete,
          ← Function.iterate_succ_apply' (next fs)]
      · rw [Function.iterate_succ_apply, iterate_seven fs hstruct hcomplete,
          ← Function.iterate_succ_apply (next fs)]
    obtain ⟨k, rfl⟩ := Nat.exists_eq_add_of_le' hn
    have hlate : (next fs)^[k + (7 + 1)] t = (next fs)^[k + (5 + 1)] t := by
      rw [Function.iterate_add_apply, hsix, ← Function.iterate_add_apply]
    exact hlate

/-- An interface with types that change on the way: a name that a struct
has for a number, a word for the absence of a value, and a type that no
struct has; and with a name that is not exported in a struct. -/
def cargo : Text :=
  "interface Cargo \x7b\n  sizes?: int8[] | null; // in meters\n  owner: undefined;\n".toList ++
    "  tags: Map<string, string>;\n  _id: string;\n\x7d".toList

theorem iterate_next_settles_cargo :
    Accepts [] cargo ∧
    (∀ i, ∃ c, ofText [] {} ((next [])^[i] cargo) = .ok c ∧ c.rejection? = none ∧
      (next [])^[i + 1] cargo = c.result) ∧
    ∀ n, 6 ≤ n → (next [])^[n + 2] cargo = (next [])^[n] cargo := by
  have haccepted : Accepts [] cargo := accepts_iff.mpr ⟨.interface, by decide +kernel⟩
  exact ⟨haccepted, iterate_next_settles [] cargo haccepted⟩

end Conversion

end WireTypes
