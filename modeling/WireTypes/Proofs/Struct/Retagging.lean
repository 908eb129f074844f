import Mathlib.Data.List.Forall2
import WireTypes.Proofs.Struct.TagRepair

/-!
# Struct — What a repair leaves of a declaration

The repaired text declares the fields of the text, in their order and
with their types and comments; a field has a new serialised name exactly
where its line was rewritten (`read_repair`). The statement speaks of
fields together with the lines they stand on: `fieldLines`.
-/

namespace WireTypes.TagRepair

open Text

variable {v : Vocabulary} {line t : Text} {l : FieldLine} {body : List Text}

/-! ## Fields and their lines -/

/-- The field of a body line that is not passed over. -/
def lineField? (v : Vocabulary) (line : Text) : Option Field :=
  if isFiller line then none else structField? v line

/-- The lines of a text that declare fields, each with its field. -/
def fieldLines (v : Vocabulary) (t : Text) : List (Text × Field) :=
  (Block.body .struct t).filterMap fun line => (lineField? v line).map (line, ·)

theorem map_snd_fieldLines (v : Vocabulary) (t : Text) :
    (fieldLines v t).map (·.2) = Declaration.fieldsOf v .struct (Block.body .struct t) := by
  rw [Declaration.fieldsOf_eq_filterMap, fieldLines, List.map_filterMap]
  congr 1
  funext line
  simp [Function.comp_def, lineField?, Notation.lineField?, Notation.field?]

/-- What a repair makes of a field and its line: the line may be a new
one, and then the serialised name is the snake form of the name. All else
stays. -/
structure Retagged (p p' : Text × Field) : Prop where
  line : p'.1 = repairLine p.1
  name : p'.2.name = p.2.name
  type : p'.2.type = p.2.type
  isExported : p'.2.exported = p.2.exported
  omittable : p'.2.omittable = p.2.omittable
  comment : p'.2.comment = p.2.comment
  jsonName : p'.2.jsonName = if p'.1 = p.1 then p.2.jsonName else Name.snake p.2.name

/-! ## The field of a line that needs a tag -/

theorem serialised_entryOf {comment : Option Text} (hl : l.WellFormed)
    (hexported : Name.isExported l.name = true) :
    FieldLine.serialised { l with tail := .tagged (entryOf l).toTag comment } = entryOf l := by
  have hread : FieldLine.entry? { l with tail := .tagged (entryOf l).toTag comment }
      = some (entryOf l) := JsonEntry.ofTag?_toTag_of_key (isKeyChar_entryOf hl)
  exact (FieldLine.serialised_of_entry hread).trans (if_neg (Name.snake_ne_nil hexported))

/-- The two readings of a line that needs a tag. -/
theorem lineField?_of_untagged? (hnewline : '\n' ∉ line) (h : untagged? line = some l) :
    ∃ f f', lineField? v line = some f ∧ lineField? v (repairLine line) = some f' ∧
      f.name = l.name ∧ Retagged (line, f) (repairLine line, f') := by
  obtain ⟨-, hline, hexported, comment, htail⟩ := untagged?_eq_some_iff.mp h
  obtain ⟨hl, -⟩ := FieldLine.ofLine?_eq_some_iff.mp hline
  -- a dash would take the field out of the serialised form: neither name is one
  have hsnake : (entryOf l).name ≠ ['-'] :=
    ne_singleton_of_class (isKeyChar_entryOf hl) (by decide)
  have hfield : lineField? v line = some
      { name := l.name, type := TypeExpr.ofStruct v l.type, jsonName := Name.camel l.name,
        omittable := false, comment := l.comment?.map trim } := by
    rw [lineField?, (startsWithWord_of_untagged? h).isFiller_eq_false, structField?, hline]
    exact FieldLine.toField?_of_serialised hexported (FieldLine.serialised_of_untagged htail)
      (Name.camel_ne_dash hexported)
  have hfield' : lineField? v (repairLine line) = some
      { name := l.name, type := TypeExpr.ofStruct v l.type, jsonName := Name.snake l.name,
        omittable := false, comment := l.comment?.map trim } := by
    rw [repairLine_of_untagged? h, lineField?, (startsWithWord_withTag h).isFiller_eq_false,
      structField?, ofLine?_withTag hnewline h, ← (afterTag_spec hnewline h).2]
    refine FieldLine.toField?_of_serialised ?_ (serialised_entryOf hl hexported) hsnake
    exact hexported
  refine ⟨_, _, hfield, hfield', rfl, ⟨rfl, rfl, rfl, rfl, rfl, rfl, ?_⟩⟩
  exact (if_neg (repairLine_ne_self h)).symm

/-! ## All lines of a body -/

/-- A pair per line: the field before the repair and after it. -/
theorem forall₂_retagged (hbody : ∀ line ∈ body, '\n' ∉ line) :
    List.Forall₂ Retagged
      (body.filterMap fun line => (lineField? v line).map (line, ·))
      ((body.map repairLine).filterMap fun line => (lineField? v line).map (line, ·)) := by
  -- line by line: a line that needs no tag gives the same pair again
  induction body with
  | nil => exact .nil
  | cons line body ih =>
      have hrest := ih fun m hm => hbody m (by simp [hm])
      rw [List.map_cons, List.filterMap_cons, List.filterMap_cons]
      cases h : untagged? line with
      | some l =>
          obtain ⟨f, f', hf, hf', -, hretagged⟩ :=
            lineField?_of_untagged? (v := v) (hbody line (by simp)) h
          rw [hf, hf']
          exact .cons hretagged hrest
      | none =>
          rw [repairLine_of_none h]
          cases lineField? v line with
          | none => exact hrest
          | some f =>
              refine .cons ⟨(repairLine_of_none h).symm, rfl, rfl, rfl, rfl, rfl, ?_⟩ hrest
              exact (if_pos rfl).symm

/-- The names that are missing a tag are those of the rewritten lines. -/
theorem missing_eq_rewritten (hbody : ∀ line ∈ body, '\n' ∉ line) :
    (body.filterMap fun line => (untagged? line).map (·.name))
      = ((body.filterMap fun line => (lineField? v line).map (line, ·)).filter
          fun p => repairLine p.1 ≠ p.1).map (·.2.name) := by
  induction body with
  | nil => rfl
  | cons line body ih =>
      have hrest := ih fun m hm => hbody m (by simp [hm])
      rw [List.filterMap_cons, List.filterMap_cons]
      cases h : untagged? line with
      | some l =>
          obtain ⟨f, f', hf, -, hname, -⟩ :=
            lineField?_of_untagged? (v := v) (hbody line (by simp)) h
          have hchanged : repairLine line ≠ line := repairLine_ne_self h
          rw [hf]
          simp only [Option.map_some, List.filter_cons, ne_eq, hchanged, not_false_eq_true,
            decide_true, if_true, List.map_cons, hname, hrest]
      | none =>
          have hsame := repairLine_of_none h
          cases hf : lineField? v line with
          | none => simpa using hrest
          | some f => simpa [hsame] using hrest

/-! ## The declaration -/

/-- **Repair preserves the declaration.** A text with a header line and
its repair both declare a struct, with the same name, equally complete,
and with the same fields up to the serialised names on the rewritten
lines; the names reported as missing a tag are those of the fields on
these lines, in order. -/
theorem read_repair (v : Vocabulary) (t : Text)
    (h : ∃ line ∈ lines t, (structHeader? line).isSome = true) :
    ∃ d d', Declaration.read v .struct t = .ok d ∧
      Declaration.read v .struct (repair t) = .ok d' ∧
      d'.name = d.name ∧ d'.complete = d.complete ∧ d'.fields.length = d.fields.length ∧
      (fieldLines v t).map (·.2) = d.fields ∧
      (fieldLines v (repair t)).map (·.2) = d'.fields ∧
      List.Forall₂ Retagged (fieldLines v t) (fieldLines v (repair t)) ∧
      missing t = ((fieldLines v t).filter fun p => repairLine p.1 ≠ p.1).map (·.2.name) := by
  have hbody : ∀ line ∈ Block.body .struct t, '\n' ∉ line :=
    fun _ => Block.not_newline_mem_of_mem_body
  have hname : (Block.name? .struct t).isSome = true := by
    rw [Block.name?, List.findSome?_isSome_iff]
    exact h
  obtain ⟨name, hname⟩ := Option.isSome_iff_exists.mp hname
  have hpairs : List.Forall₂ Retagged (fieldLines v t) (fieldLines v (repair t)) := by
    rw [fieldLines, fieldLines, body_repair]
    exact forall₂_retagged hbody
  have hfields := map_snd_fieldLines v t
  have hfields' := map_snd_fieldLines v (repair t)
  have hread : Declaration.read v .struct t = .ok ⟨name, .struct,
      (fieldLines v t).map (·.2), Block.isComplete .struct t⟩ := by
    rw [Declaration.read, hname, hfields]
  have hread' : Declaration.read v .struct (repair t) = .ok ⟨name, .struct,
      (fieldLines v (repair t)).map (·.2), Block.isComplete .struct (repair t)⟩ := by
    rw [Declaration.read, name?_repair, hname, hfields']
  refine ⟨_, _, hread, hread', rfl, isComplete_repair t, ?_, rfl, rfl, hpairs,
    missing_eq_rewritten hbody⟩
  rw [List.length_map, List.length_map, hpairs.length_eq]

/-- A struct behind another line, with a line that ends in a carriage
return and has a backquote in its comment. -/
def account : Text :=
  "package bank\ntype Account struct \x7b\r\n\tUserID int64 // the `key`\r\n".toList ++
    "\tname string\n\n\tÉtat *string `json:\"state\"`\n\x7d".toList

theorem read_repair_account :
    (∃ line ∈ lines account, (structHeader? line).isSome = true) ∧
    ∃ d d', Declaration.read .default .struct account = .ok d ∧
      Declaration.read .default .struct (repair account) = .ok d' ∧
      d'.name = d.name ∧ d'.complete = d.complete ∧ d'.fields.length = d.fields.length ∧
      (fieldLines .default account).map (·.2) = d.fields ∧
      (fieldLines .default (repair account)).map (·.2) = d'.fields ∧
      List.Forall₂ Retagged (fieldLines .default account) (fieldLines .default (repair account)) ∧
      missing account
        = ((fieldLines .default account).filter fun p => repairLine p.1 ≠ p.1).map (·.2.name) := by
  have hheader : ∃ line ∈ lines account, (structHeader? line).isSome = true := by decide +kernel
  exact ⟨hheader, read_repair .default account hheader⟩

end WireTypes.TagRepair
