import WireTypes.Proofs.Canonical.Lines
import WireTypes.Proofs.Conversion.Outcome

/-!
# Canonical — Round trips

A canonical text is the block that is written for its record, and all its
lines are read back, so it is read as the record (`read_text`). A canonical
text of either notation is converted to the canonical text of the same
record in the other one (`ofText_text`). Going there and back is therefore
the identity on the canonical texts of both notations:
`convert_struct_twice` and `convert_interface_twice`.
-/

namespace WireTypes.Canonical

open Text Emission

variable (r : Record) (n : Notation)

/-! ## The text -/

/-- The declaration that is read from the text of the record. -/
def declaration : Declaration := ⟨r.name, n, r.members.map (·.field n), true⟩

/-- The declaration is written as the text in the other notation. -/
theorem block_declaration : block {} n.target (declaration r n) = r.text n.target := by
  have hheader : headerLine {} r.name n.target = r.header n.target := by cases n <;> rfl
  have hlines : memberLine (Options.vocabulary {}) n.target ∘ (·.field n)
      = Record.line n.target := by
    funext m
    exact memberLine_field n m
  rw [block, declaration, hheader, List.map_map, hlines, Record.text]
  rfl

theorem text_eq : r.text n = block {} n (declaration r n.target) := by
  have htext := (block_declaration r n.target).symm
  rwa [Notation.target_target] at htext

/-- A field of the declaration is written as the line of its member. -/
theorem exists_member_of_mem {f : Field} (hf : f ∈ (declaration r n.target).fields) :
    ∃ m, memberLine .default n f = Record.line n m := by
  obtain ⟨m, -, rfl⟩ := List.mem_map.mp hf
  have hline := memberLine_field n.target m
  rw [Notation.target_target] at hline
  exact ⟨m, hline⟩

theorem memberLine_spec : ∀ f ∈ (declaration r n.target).fields,
    '\n' ∉ memberLine .default n f ∧ EndsOutside isBlank (memberLine .default n f) := by
  intro f hf
  obtain ⟨m, hline⟩ := exists_member_of_mem r n hf
  rw [hline]
  exact line_spec n m

theorem staysOpen_field :
    ∀ f ∈ (declaration r n.target).fields, staysOpen .default n f = true := by
  intro f hf
  obtain ⟨m, hline⟩ := exists_member_of_mem r n hf
  rw [staysOpen, hline, (startsWithWord_line n m).isClosing_eq_false]
  rfl

/-- The field that is written for a member is read back as the field of
the member in the other notation. -/
theorem readBack_field (m : Member) :
    readBack .default n (m.field n.target) = some (m.field n) := by
  have hline := memberLine_field n.target m
  rw [Notation.target_target] at hline
  rw [readBack, hline, Notation.lineField?_of_startsWithWord (startsWithWord_line n m),
    field?_line]

/-- The body of the text has a line per member. -/
theorem body_text : Block.body n (r.text n) = r.members.map (Record.line n) := by
  have hlines : (declaration r n.target).fields.map (memberLine .default n)
      = r.members.map (Record.line n) := by
    rw [declaration, List.map_map]
    refine List.map_congr_left fun m _ => ?_
    have hline := memberLine_field n.target m
    rwa [Notation.target_target] at hline
  have hbody := body_block (o := {}) r.name_ne_nil r.name_word (memberLine_spec r n)
  rw [text_eq, hbody]
  show List.takeWhile _ ((declaration r n.target).fields.map (memberLine .default n)) = _
  rw [hlines, List.takeWhile_eq_self_iff]
  intro line hline
  obtain ⟨m, -, rfl⟩ := List.mem_map.mp hline
  rw [(startsWithWord_line n m).isClosing_eq_false]
  rfl

/-- **The canonical text is read as the record.** -/
theorem read_text : Declaration.read .default n (r.text n) = .ok (declaration r n) := by
  have hopen := List.takeWhile_eq_self_iff.mpr (staysOpen_field r n)
  have hread : (declaration r n.target).fields.filterMap (readBack .default n)
      = (declaration r n).fields := by
    have hfield : readBack .default n ∘ (fun m : Member => m.field n.target)
        = some ∘ fun m => m.field n := by
      funext m
      exact readBack_field n m
    rw [declaration, List.filterMap_map, hfield, ← List.filterMap_map, List.filterMap_some]
    rfl
  have hblock := read_block (o := {}) r.name_ne_nil r.name_word (memberLine_spec r n)
  rw [show List.takeWhile (staysOpen _ _) _ = _ from hopen] at hblock
  rw [text_eq, hblock]
  show Except.ok (Declaration.mk r.name n
    ((declaration r n.target).fields.filterMap (readBack .default n)) true) = _
  rw [hread]
  rfl

theorem trim_text : trim (r.text n) = r.text n := by
  rw [text_eq]
  exact trim_block r.name_word {} n

theorem classify_text : classify (r.text n) = .ok n := by
  rw [text_eq]
  exact classify_block r.name_ne_nil r.name_word {} n

theorem missing_text : TagRepair.missing (r.text .struct) = [] := by
  rw [text_eq]
  exact missing_block (o := {}) r.name_ne_nil r.name_word (memberLine_spec r .struct)

theorem tidy_text : tidy (r.text n) = r.text n := by
  rw [text_eq]
  exact tidy_block r.name_word (memberLine_spec r n)

/-! ## Conversion -/

/-- **A canonical text is converted to the canonical text of the same
record in the other notation**, with the tag check and without it. -/
theorem ofText_text (fs : Files) (check : Bool) :
    Conversion.ofText fs { tagCheck := .bool check } (r.text n)
      = .ok (.converted n (declaration r n) (r.text n.target)) := by
  have hsettings : Settings.UsesBuiltIn fs { tagCheck := .bool check } :=
    Settings.usesBuiltIn_of_noFolder fs rfl rfl rfl
  have hoptions : Options.ofSettings { tagCheck := .bool check } = .ok {} := rfl
  -- with the tag check, too: every member of a struct has its tag
  have hcomplete : n = .struct → (Settings.tagCheck { tagCheck := .bool check }).isSet = true →
      TagRepair.missing (trim (r.text n)) = [] := by
    rintro rfl -
    rw [trim_text, missing_text]
  have hread : Declaration.read .default n (trim (r.text n)) = .ok (declaration r n) := by
    rw [trim_text, read_text]
  rw [Conversion.ofText_eq_converted hsettings hoptions (classify_text r n) hcomplete hread,
    block_declaration, tidy_text]

/-! ## There and back -/

/-- **Struct to interface to struct is the identity on canonical
structs**, with the tag check and without it. -/
theorem convert_struct_twice (fs : Files) (check : Bool) (t : Text) (h : IsCanonical .struct t) :
    ∃ d u d', Conversion.ofText fs { tagCheck := .bool check } t = .ok (.converted .struct d u) ∧
      Conversion.ofText fs { tagCheck := .bool check } u = .ok (.converted .interface d' t) := by
  obtain ⟨r, rfl⟩ := h
  exact ⟨_, _, _, ofText_text r .struct fs check, ofText_text r .interface fs check⟩

/-- **Interface to struct to interface is the identity on canonical
interfaces.** -/
theorem convert_interface_twice (fs : Files) (t : Text) (h : IsCanonical .interface t) :
    ∃ d u d', Conversion.ofText fs {} t = .ok (.converted .interface d u) ∧
      Conversion.ofText fs {} u = .ok (.converted .struct d' t) := by
  obtain ⟨r, rfl⟩ := h
  exact ⟨_, _, _, ofText_text r .interface fs true, ofText_text r .struct fs true⟩

/-! ## A record in both notations -/

/-- A name that is in neither table. -/
def money : ForeignName where
  text := "bank.Money".toList
  ne_nil := by decide +kernel
  chars := List.all_eq_true.mp (by decide +kernel)
  notInStructs := by decide +kernel
  notInInterfaces := by decide +kernel
  notNull := by decide +kernel

/-- Members of all presences, with brackets and comments. -/
def orderMembers : List Member :=
  [{ key := "order_id".toList
     key_word := List.all_eq_true.mp (by decide +kernel)
     pascal_word := List.all_eq_true.mp (by decide +kernel)
     pascal_exported := by decide +kernel
     base := .number
     depth := 0
     presence := .required
     comment := none
     comment_line := by simp },
   { key := "readonly".toList
     key_word := List.all_eq_true.mp (by decide +kernel)
     pascal_word := List.all_eq_true.mp (by decide +kernel)
     pascal_exported := by decide +kernel
     base := .foreign money
     depth := 2
     presence := .nullable
     comment := some "// in `cents`; see \"limits\"".toList
     comment_line := by
       rintro _ ⟨⟩
       exact ⟨⟨_, rfl⟩, by decide +kernel, by decide +kernel⟩ },
   { key := "paid".toList
     key_word := List.all_eq_true.mp (by decide +kernel)
     pascal_word := List.all_eq_true.mp (by decide +kernel)
     pascal_exported := by decide +kernel
     base := .boolean
     depth := 1
     presence := .omittable
     comment := some "//".toList
     comment_line := by
       rintro _ ⟨⟩
       exact ⟨⟨_, rfl⟩, by decide +kernel, by decide +kernel⟩ }]

def order : Record where
  name := "Order".toList
  name_ne_nil := by decide +kernel
  name_word := List.all_eq_true.mp (by decide +kernel)
  members := orderMembers

def orderStruct : Text :=
  "type Order struct \x7b\n\tOrderId int `json:\"order_id\"`\n".toList ++
  "\tReadonly *[][]bank.Money `json:\"readonly\"` // in `cents`; see \"limits\"\n".toList ++
  "\tPaid []bool `json:\"paid,omitempty\"` //\n\x7d".toList

def orderInterface : Text :=
  "interface Order \x7b\n  order_id: number;\n".toList ++
  "  readonly: bank.Money[][] | null; // in `cents`; see \"limits\"\n".toList ++
  "  paid?: boolean[] | null; //\n\x7d".toList

theorem convert_struct_twice_order :
    IsCanonical .struct orderStruct ∧
    ∃ d u d', Conversion.ofText [] { tagCheck := .bool true } orderStruct
        = .ok (.converted .struct d u) ∧
      Conversion.ofText [] { tagCheck := .bool true } u
        = .ok (.converted .interface d' orderStruct) := by
  have h : IsCanonical .struct orderStruct := ⟨order, by decide +kernel⟩
  exact ⟨h, convert_struct_twice [] true orderStruct h⟩

theorem convert_interface_twice_order :
    IsCanonical .interface orderInterface ∧
    ∃ d u d', Conversion.ofText [] {} orderInterface = .ok (.converted .interface d u) ∧
      Conversion.ofText [] {} u = .ok (.converted .struct d' orderInterface) := by
  have h : IsCanonical .interface orderInterface := ⟨order, by decide +kernel⟩
  exact ⟨h, convert_interface_twice [] orderInterface h⟩

end WireTypes.Canonical
