import WireTypes.Proofs.Canonical.Types
import WireTypes.Proofs.Conversion.ReadBack

/-!
# Canonical — Lines of members

The line of a canonical member is read as the field of the member, and
this field is written in the other notation as the line of the same
member there. Both facts hold in both directions, so they are stated for
a notation and its target.
-/

namespace WireTypes.Canonical

open Text

namespace Member

variable (m : Member)

/-! ## The field of a member -/

/-- Whether the member may be left out. -/
def isOmittable : Bool := m.presence = .omittable

/-- The field that is read from the line of the member in a notation. -/
def field : Notation → Field
  | .struct =>
    { name := Name.pascal m.key
      type := m.structExpr
      jsonName := m.key
      omittable := m.isOmittable
      comment := m.comment }
  | .interface =>
    { name := m.key
      type := m.interfaceExpr
      jsonName := m.key
      omittable := m.isOmittable
      comment := m.comment }

theorem key_ne_nil : m.key ≠ [] := by
  intro hnil
  have hexported := m.pascal_exported
  rw [hnil] at hexported
  exact absurd hexported (by decide)

theorem pascal_ne_nil : Name.pascal m.key ≠ [] := by
  intro hnil
  have hexported := m.pascal_exported
  rw [hnil] at hexported
  exact absurd hexported (by decide)

theorem isComment_comment : ∀ c ∈ m.comment, IsComment c :=
  fun c hc => (m.comment_line c hc).isComment

theorem commentSuffix_comment : Emission.commentSuffix m.comment = m.suffix := by
  rw [suffix]
  cases h : m.comment with
  | none => rfl
  | some comment => exact Emission.commentSuffix_some (m.isComment_comment comment h)

/-! ## Lines of a struct -/

theorem structType_ne_nil : m.structType ≠ [] := by
  intro hnil
  rw [structType] at hnil
  have hrest := (List.append_eq_nil_iff.mp hnil).2
  exact m.base.inStruct_ne_nil (List.append_eq_nil_iff.mp hrest).2

theorem structType_chars : ∀ c ∈ m.structType, isStructTypeChar c = true := by
  intro c hc
  rw [structType, List.mem_append, List.mem_append] at hc
  rcases hc with hc | hc | hc
  · split at hc
    · have hstar : ∀ d ∈ "*".toList, isStructTypeChar d = true :=
        List.all_eq_true.mp (by decide)
      exact hstar c hc
    · simp at hc
  · exact brackets_chars m.depth c hc
  · exact isStructTypeChar_of_isBaseChar (m.base.inStruct_chars c hc)

/-- The field of the member in an interface can be written in a struct. -/
theorem fitsStruct_field : Emission.FitsStruct .default (m.field .interface) where
  key_ne_nil := m.key_ne_nil
  key := fun c hc => isKeyChar_of_isWord (m.key_word c hc)
  name_oneLine := not_mem_of_class m.pascal_word (by decide)
  type_ne_nil := by
    show m.interfaceExpr.toStruct .default ≠ []
    rw [m.toStruct_interfaceExpr]
    exact m.structType_ne_nil
  type := by
    show ∀ c ∈ m.interfaceExpr.toStruct .default, isStructTypeChar c = true
    rw [m.toStruct_interfaceExpr]
    exact m.structType_chars
  comment := m.isComment_comment

theorem structLine_eq :
    m.structLine = Emission.memberLine .default .struct (m.field .interface) := by
  have htag : Emission.tagOf (m.field .interface) = "json:\"".toList ++ (m.tagValue ++ ['"']) := by
    rw [Emission.tagOf, JsonEntry.toTag_eq, JsonEntry.value, tagValue]
    show "json:\"".toList ++ ((m.key ++ if m.isOmittable then _ else _) ++ ['"']) = _
    rw [isOmittable]
    simp only [decide_eq_true_eq]
  have htype : (m.field .interface).type.toStruct .default = m.structType :=
    m.toStruct_interfaceExpr
  have hsuffix : Emission.commentSuffix (m.field .interface).comment = m.suffix :=
    m.commentSuffix_comment
  have hquote : " `json:\"".toList = ' ' :: '`' :: "json:\"".toList := rfl
  have hclose : "\"`".toList = ['"', '`'] := rfl
  rw [structLine, Emission.memberLine_struct_eq, htag, htype, hsuffix, hquote, hclose]
  simp only [List.append_assoc, List.cons_append, List.nil_append]
  rfl

/-! ## Lines of an interface -/

theorem interfaceType_ne_nil : m.interfaceType ≠ [] := by
  intro hnil
  rw [interfaceType] at hnil
  exact m.base.inInterface_ne_nil (List.append_eq_nil_iff.mp hnil).1

theorem interfaceType_chars : ∀ c ∈ m.interfaceType, Property.isTypeChar c = true := by
  intro c hc
  rw [interfaceType_eq, List.mem_append] at hc
  rcases hc with hc | hc
  · exact Property.isTypeChar_of_isStructTypeChar (plain_chars m.base m.depth c hc)
  · split at hc
    · simp at hc
    · have hnull : ∀ d ∈ " | null".toList, Property.isTypeChar d = true :=
        List.all_eq_true.mp (by decide)
      exact hnull c hc

theorem not_newline_mem_interfaceType : '\n' ∉ m.interfaceType := by
  rw [interfaceType_eq, List.mem_append, not_or]
  refine ⟨not_mem_of_class (plain_chars m.base m.depth) (by decide), ?_⟩
  split <;> decide

theorem interfaceType_outside :
    StartsOutside isBlank m.interfaceType ∧ EndsOutside isBlank m.interfaceType := by
  have hchars := plain_chars m.base m.depth
  rw [interfaceType_eq]
  constructor
  · rw [startsOutside_append m.plainType_ne_nil]
    exact startsOutside_of_typeChars hchars
  · split
    · rw [List.append_nil]
      exact endsOutside_of_typeChars hchars
    · rw [endsOutside_append (by decide)]
      intro c hc
      cases hc
      decide

theorem isNullable_structExpr : m.structExpr.isNullable = decide (m.presence = .nullable) := by
  rw [structExpr]
  split
  · rename_i hnullable
    rw [hnullable]
    rfl
  · rename_i hnullable
    rw [isNullable_arrays, decide_eq_false hnullable]

/-- The type that an interface writes for a field of a struct. -/
theorem interfaceTypeText_field :
    Emission.interfaceTypeText .default (m.field .struct) = m.interfaceType := by
  have hmark : ((m.field .struct).omittable || (m.field .struct).isNullable)
      = !decide (m.presence = .required) := by
    show (m.isOmittable || m.structExpr.isNullable) = _
    rw [isNullable_structExpr, isOmittable]
    cases m.presence <;> rfl
  have hplain : (m.field .struct).type.toInterface .default = m.plainType :=
    m.toInterface_structExpr
  rw [Emission.interfaceTypeText_eq, hmark, interfaceType_eq, hplain]
  by_cases hrequired : m.presence = .required
  · rw [if_neg (by simp [hrequired]), if_pos hrequired]
  · rw [if_pos (by simp [hrequired]), if_neg hrequired]

/-- The field of the member in a struct can be written in an interface. -/
theorem fitsInterface_field : Emission.FitsInterface .default (m.field .struct) where
  name_oneLine := not_mem_of_class m.key_word (by decide)
  type_ne_nil := by
    rw [m.interfaceTypeText_field, trimStart_of_startsOutside m.interfaceType_outside.1]
    exact m.interfaceType_ne_nil
  type := by
    rw [m.interfaceTypeText_field]
    exact m.interfaceType_chars
  type_oneLine := by
    rw [m.interfaceTypeText_field]
    exact m.not_newline_mem_interfaceType
  type_ends := by
    rw [m.interfaceTypeText_field]
    exact m.interfaceType_outside.2
  comment := m.isComment_comment

theorem interfaceLine_eq :
    m.interfaceLine = Emission.memberLine .default .interface (m.field .struct) := by
  have hsuffix : Emission.commentSuffix (m.field .struct).comment = m.suffix :=
    m.commentSuffix_comment
  rw [Emission.memberLine, m.interfaceTypeText_field, hsuffix, interfaceLine]
  show _ = "  ".toList ++ (m.key ++ ((if m.isOmittable then ['?'] else []) ++ _))
  rw [isOmittable]
  simp only [decide_eq_true_eq]
  rfl

end Member

/-! ## Both notations -/

section Notations

variable (n : Notation) (m : Member)

/-- **The field of a member is written as its line in the other
notation.** -/
theorem memberLine_field :
    Emission.memberLine .default n.target (m.field n) = Record.line n.target m := by
  cases n with
  | struct => exact m.interfaceLine_eq.symm
  | interface => exact m.structLine_eq.symm

/-- **The line of a member is read as its field.** -/
theorem field?_line : n.field? .default (Record.line n m) = some (m.field n) := by
  cases n with
  | struct =>
      have htype : TypeExpr.ofStruct .default ((m.field .interface).type.toStruct .default)
          = m.structExpr := by
        rw [← m.ofStruct_structType]
        exact congrArg _ m.toStruct_interfaceExpr
      show structField? .default m.structLine = _
      rw [m.structLine_eq,
        m.fitsStruct_field.structField?_memberLine m.pascal_exported m.pascal_word, htype]
      rfl
  | interface =>
      have htype : Union.toType .default (m.field .struct).omittable
          (trimStart (Emission.interfaceTypeText .default (m.field .struct)))
          = m.interfaceExpr := by
        rw [m.interfaceTypeText_field, trimStart_of_startsOutside m.interfaceType_outside.1]
        exact m.toType_interfaceType
      show interfaceField? .default m.interfaceLine = _
      rw [m.interfaceLine_eq,
        m.fitsInterface_field.interfaceField?_memberLine m.key_ne_nil m.key_word m.comment_line,
        htype]
      rfl

theorem startsWithWord_line : StartsWithWord (Record.line n m) := by
  cases n with
  | struct =>
      show StartsWithWord m.structLine
      rw [Member.structLine]
      exact startsWithWord_append (List.all_eq_true.mp (by decide)) m.pascal_ne_nil m.pascal_word
  | interface =>
      show StartsWithWord m.interfaceLine
      rw [Member.interfaceLine]
      exact startsWithWord_append (List.all_eq_true.mp (by decide)) m.key_ne_nil m.key_word

/-- The line of a member is one line without blanks at its end. -/
theorem line_spec : '\n' ∉ Record.line n m ∧ EndsOutside isBlank (Record.line n m) := by
  cases n with
  | struct =>
      show '\n' ∉ m.structLine ∧ EndsOutside isBlank m.structLine
      rw [m.structLine_eq]
      exact ⟨m.fitsStruct_field.not_newline_mem, m.fitsStruct_field.endsOutside⟩
  | interface =>
      show '\n' ∉ m.interfaceLine ∧ EndsOutside isBlank m.interfaceLine
      rw [m.interfaceLine_eq]
      exact ⟨m.fitsInterface_field.not_newline_mem, m.fitsInterface_field.endsOutside⟩

end Notations

end WireTypes.Canonical
