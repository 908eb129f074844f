import WireTypes.Proofs.Conversion.Outcome
import WireTypes.Proofs.Interface.Property
import WireTypes.Proofs.Struct.Retagging

/-!
# Conversion — Skipped lines have no influence

Of the lines in a block only those that declare a field count: the reader
passes over the others, and a line that needs a tag always declares a field,
so the check for tags passes over them as well. Two texts with the same
header, the same lines with fields and the same end are therefore converted
alike (`alike_of_sameFieldLines`), and unexported fields can be exchanged for
one another without a trace (`sameFieldLines_of_exchanged`).
-/

namespace WireTypes

open Text

variable {v v' : Vocabulary} {n : Notation} {line t t' name : Text} {f : Field}

/-! ## Lines that declare a field -/

theorem startsWithWord_of_takeWord? {rest : Text}
    (h : takeWord? (trimStart line) = some (name, rest)) : StartsWithWord line := by
  obtain ⟨hline, hne, hchars, -⟩ := takeRun?_eq_some_iff.mp h
  obtain ⟨c, word, rfl⟩ := List.exists_cons_of_ne_nil hne
  exact ⟨c, word ++ rest, hline, hchars c (by simp)⟩

/-- A line that may name a property starts with a word: the name, or the one
before it. -/
theorem startsWithWord_of_name? {rest : Text}
    (h : Property.name? (trimStart line) = some (name, rest)) : StartsWithWord line := by
  rw [Property.name?] at h
  split at h
  · exact startsWithWord_of_takeWord? h
  · rename_i afterKeyword hkeyword
    exact ⟨'r', _, (List.isPrefixOf?_eq_some_iff_append_eq.mp hkeyword).symm, by decide⟩

namespace Notation

/-- A line with a field starts with a word. -/
theorem startsWithWord_of_field? (h : n.field? v line = some f) : StartsWithWord line := by
  cases n with
  | struct =>
      obtain ⟨l, hline, -⟩ := Option.bind_eq_some_iff.mp h
      obtain ⟨hl, gap, rest, rfl, -⟩ := FieldLine.ofLine?_eq_some_iff.mp hline
      exact startsWithWord_append hl.indent hl.name_ne_nil hl.name
  | interface =>
      obtain ⟨p, hline, -⟩ := Option.map_eq_some_iff.mp h
      simp only [Property.ofLine?, Option.bind_eq_bind, Option.bind_eq_some_iff] at hline
      obtain ⟨⟨name, rest⟩, hname, -⟩ := hline
      exact startsWithWord_of_name? hname

/-- Nothing that is passed over in silence would have been a field. -/
theorem lineField?_eq_field? (v : Vocabulary) (n : Notation) (line : Text) :
    n.lineField? v line = n.field? v line := by
  cases h : n.field? v line with
  | none => simp [lineField?, h]
  | some f => rw [lineField?_of_startsWithWord (startsWithWord_of_field? h), h]

/-- Whether a line declares a field is a matter of the line alone. -/
theorem isSome_field?_eq (v v' : Vocabulary) (n : Notation) (line : Text) :
    (n.field? v line).isSome = (n.field? v' line).isSome := by
  cases n with
  | struct =>
      rw [field?, field?, structField?, structField?]
      cases FieldLine.ofLine? line with
      | none => rfl
      | some l =>
          simp only [Option.bind_eq_bind, Option.bind_some, FieldLine.toField?]
          split <;> rfl
  | interface => simp [field?, interfaceField?]

end Notation

namespace Block

/-- The lines of the body that declare a field. -/
def fieldLines (v : Vocabulary) (n : Notation) (t : Text) : List Text :=
  (body n t).filter fun line => (n.field? v line).isSome

/-- What is read of lines with fields only is read of these lines. -/
theorem filterMap_fieldLines {α : Type} {g : Text → Option α}
    (h : ∀ line ∈ body n t, (g line).isSome = true → (n.field? v line).isSome = true) :
    (fieldLines v n t).filterMap g = (body n t).filterMap g := by
  rw [fieldLines, List.filterMap_filter]
  refine List.filterMap_congr fun line hline => ?_
  split
  · rfl
  · rename_i hnone
    exact (Option.not_isSome_iff_eq_none.mp fun hsome => hnone (h line hline hsome)).symm

end Block

theorem Declaration.fieldsOf_body (v v' : Vocabulary) (n : Notation) (t : Text) :
    fieldsOf v' n (Block.body n t) = (Block.fieldLines v n t).filterMap (n.field? v') := by
  have hfield : n.lineField? v' = n.field? v' := funext fun line => n.lineField?_eq_field? v' line
  rw [fieldsOf_eq_filterMap, hfield]
  exact (Block.filterMap_fieldLines fun line _ h => by rwa [Notation.isSome_field?_eq v v']).symm

/-- A line that needs a tag declares a field, so the check for tags sees no
other lines. -/
theorem TagRepair.missing_eq (v : Vocabulary) (t : Text) :
    missing t = (Block.fieldLines v .struct t).filterMap fun line =>
      (untagged? line).map (·.name) := by
  refine (Block.filterMap_fieldLines fun line hline h => ?_).symm
  rw [Option.isSome_map] at h
  obtain ⟨l, hl⟩ := Option.isSome_iff_exists.mp h
  obtain ⟨f, f', hf, -⟩ :=
    lineField?_of_untagged? (v := v) (Block.not_newline_mem_of_mem_body hline) hl
  have hfield : Notation.lineField? v .struct line = some f := hf
  rw [← Notation.lineField?_eq_field?, hfield, Option.isSome_some]

/-! ## Texts with the same lines -/

/-- Two texts open a declaration with the same line, have the same lines with
fields, and both close it or both do not. -/
structure SameFieldLines (v : Vocabulary) (n : Notation) (t t' : Text) : Prop where
  header : firstLine t = firstLine t'
  fields : Block.fieldLines v n (trim t) = Block.fieldLines v n (trim t')
  closed : Block.isComplete n (trim t) = Block.isComplete n (trim t')

namespace SameFieldLines

theorem missing_eq (h : SameFieldLines v .struct t t') :
    TagRepair.missing (trim t) = TagRepair.missing (trim t') := by
  rw [TagRepair.missing_eq v, TagRepair.missing_eq v, h.fields]

theorem read_eq (h : SameFieldLines v n t t') (hheader : n.header? (firstLine t) = some name)
    (v' : Vocabulary) : Declaration.read v' n (trim t) = Declaration.read v' n (trim t') := by
  rw [Declaration.read_of_header? v' hheader, Declaration.read_of_header? v' (h.header ▸ hheader),
    Declaration.fieldsOf_body v v', Declaration.fieldsOf_body v v', h.fields, h.closed]

end SameFieldLines

namespace Conversion

variable {fs : Files} {s : Settings}

/-- Two conversions come to the same, but for the lines of a text that is
given tags. -/
inductive Alike : Except Fault Conversion → Except Fault Conversion → Prop where
  /-- Both give the same result, warnings and properties, or fail alike. -/
  | same (outcome : Except Fault Conversion) : Alike outcome outcome
  /-- Both texts are given tags, on fields of the same names. -/
  | tagged (result result' : Text) (names : List Text) :
    Alike (.ok (.tagged result names)) (.ok (.tagged result' names))

/-- **Lines without a field have no influence.** -/
theorem alike_of_sameFieldLines (hheader : n.header? (firstLine t) = some name)
    (h : SameFieldLines v n t t') (fs : Files) (s : Settings) :
    Alike (ofText fs s t) (ofText fs s t') := by
  have hverdict : classify t = .ok n := classify_of_header? hheader
  have hverdict' : classify t' = .ok n := classify_of_header? (h.header ▸ hheader)
  have hplan : plan s.tagCheck.isSet t = plan s.tagCheck.isSet t' := by
    rw [plan, plan, hverdict, hverdict']
    cases n with
    | struct => simp only [h.missing_eq]
    | interface => rfl
  rw [ofText, ofText, ← hplan]
  cases hp : plan s.tagCheck.isSet t with
  | reject cause => exact .same _
  | addTags =>
      obtain ⟨hstruct, -⟩ := plan_eq_addTags_iff.mp hp
      obtain rfl : n = .struct := by
        rw [hverdict] at hstruct
        exact Except.ok.inj hstruct
      simp only [h.missing_eq]
      exact .tagged _ _ _
  | convert source =>
      obtain rfl : n = source := by
        have hsource := (plan_eq_convert_iff.mp hp).1
        rw [hverdict] at hsource
        exact Except.ok.inj hsource
      simp only [carryOver, h.read_eq hheader]
      exact .same _

end Conversion

/-! ## Exchanging unexported fields -/

/-- A line with a field that is not exported. -/
def IsPrivate (line : Text) : Prop :=
  ∃ l, FieldLine.ofLine? line = some l ∧ Name.isExported l.name = false

/-- A line stays, or an unexported field takes the place of another. -/
def Exchanged (line line' : Text) : Prop := line = line' ∨ IsPrivate line ∧ IsPrivate line'

namespace IsPrivate

theorem field?_eq_none (h : IsPrivate line) : Notation.field? v .struct line = none := by
  obtain ⟨l, hline, hprivate⟩ := h
  rw [Notation.field?, structField?, hline]
  simp [FieldLine.toField?, hprivate]

theorem isClosing_eq_false (h : IsPrivate line) : isClosing line = false := by
  obtain ⟨l, hline, -⟩ := h
  obtain ⟨hl, gap, rest, rfl, -⟩ := FieldLine.ofLine?_eq_some_iff.mp hline
  exact (startsWithWord_append hl.indent hl.name_ne_nil hl.name).isClosing_eq_false

end IsPrivate

theorem Exchanged.isClosing_eq {line' : Text} (h : Exchanged line line') :
    isClosing line = isClosing line' := by
  rcases h with rfl | ⟨hline, hline'⟩
  · rfl
  · rw [hline.isClosing_eq_false, hline'.isClosing_eq_false]

/-- The line is the same, or neither has a field. -/
theorem Exchanged.filter_eq {line' : Text} (h : Exchanged line line') :
    [line].filter (fun line => (Notation.field? v .struct line).isSome)
      = [line'].filter fun line => (Notation.field? v .struct line).isSome := by
  rcases h with rfl | ⟨hline, hline'⟩
  · rfl
  · simp [hline.field?_eq_none, hline'.field?_eq_none]

namespace Block

/-- The lines with fields of a struct among some marks. -/
def markedFieldLines (v : Vocabulary) (ms : List Mark) : List Text :=
  ((ms.filter (·.role = .body)).map (·.line)).filter fun line =>
    (Notation.field? v .struct line).isSome

theorem markedFieldLines_cons_body (v : Vocabulary) (p : Progress) (line : Text)
    (ms : List Mark) : markedFieldLines v (⟨.body, line, p⟩ :: ms)
      = [line].filter (fun line => (Notation.field? v .struct line).isSome)
        ++ markedFieldLines v ms := by
  simp only [markedFieldLines, ← List.filter_append]
  rfl

theorem markedFieldLines_cons {m : Mark} (h : m.role ≠ .body) (ms : List Mark) :
    markedFieldLines v (m :: ms) = markedFieldLines v ms := by
  rw [markedFieldLines, List.filter_cons_of_neg (by simpa using h), markedFieldLines]

/-- Behind the header, an exchange moves no line with a field and no closing
brace. -/
theorem marksFrom_exchanged {p : Progress} {ls ls' : List Text} (hp : p ≠ .searching)
    (h : List.Forall₂ Exchanged ls ls') :
    markedFieldLines v (marksFrom .struct p ls) = markedFieldLines v (marksFrom .struct p ls') ∧
      (marksFrom .struct p ls).any (·.progress = .done)
        = (marksFrom .struct p ls').any (·.progress = .done) := by
  -- both lines of a pair close the block or both are in its body
  induction h generalizing p with
  | nil => exact ⟨rfl, rfl⟩
  | @cons line line' ls ls' hline _ ih =>
      have hsame := hline.isClosing_eq
      rw [marksFrom, marksFrom]
      cases p with
      | searching => exact absurd rfl hp
      | done =>
          obtain ⟨hfields, -⟩ := ih (p := .done) (by decide)
          simp only [mark]
          rw [markedFieldLines_cons (by simp), markedFieldLines_cons (by simp)]
          exact ⟨hfields, rfl⟩
      | inside =>
          simp only [mark, ← hsame]
          cases isClosing line with
          | true =>
              obtain ⟨hfields, -⟩ := ih (p := .done) (by decide)
              simp only [if_true]
              rw [markedFieldLines_cons (by simp), markedFieldLines_cons (by simp)]
              exact ⟨hfields, rfl⟩
          | false =>
              obtain ⟨hfields, hdone⟩ := ih (p := .inside) (by decide)
              simp only [Bool.false_eq_true, if_false]
              rw [markedFieldLines_cons_body, markedFieldLines_cons_body, hline.filter_eq, hfields]
              exact ⟨rfl, hdone⟩

end Block

section Exchange

variable {header : Text} {ls ls' : List Text}

theorem firstLine_of_lines (h : lines (trim t) = header :: ls) : firstLine t = header := by
  obtain ⟨rest, heq⟩ := exists_lines_eq (trim t)
  rw [heq] at h
  exact (List.cons.inj h).1

theorem exists_marks_of_lines (hheader : structHeader? header = some name)
    (h : lines (trim t) = header :: ls) :
    Block.marks .struct (trim t) = ⟨.header, header, if closesItself header then .done else .inside⟩
      :: Block.marksFrom .struct (if closesItself header then .done else .inside) ls := by
  have hsome : (Notation.header? .struct header).isSome = true := by
    rw [Notation.header?, hheader, Option.isSome_some]
  rw [Block.marks, h, Block.marksFrom, Block.mark, hsome, if_pos rfl]

/-- An exchange of unexported fields keeps all other lines with fields. -/
theorem sameFieldLines_of_exchanged (v : Vocabulary) (hheader : structHeader? header = some name)
    (hlines : lines (trim t) = header :: ls) (hlines' : lines (trim t') = header :: ls')
    (h : List.Forall₂ Exchanged ls ls') : SameFieldLines v .struct t t' := by
  have hp : (if closesItself header then .done else .inside : Block.Progress) ≠ .searching := by
    cases closesItself header <;> decide
  have hmarks := exists_marks_of_lines hheader hlines
  have hmarks' := exists_marks_of_lines hheader hlines'
  obtain ⟨hfields, hdone⟩ := Block.marksFrom_exchanged (v := v) hp h
  refine ⟨(firstLine_of_lines hlines).trans (firstLine_of_lines hlines').symm, ?_, ?_⟩
  · show Block.markedFieldLines v (Block.marks .struct (trim t))
      = Block.markedFieldLines v (Block.marks .struct (trim t'))
    rw [hmarks, hmarks', Block.markedFieldLines_cons (by simp),
      Block.markedFieldLines_cons (by simp), hfields]
  · rw [Block.isComplete, Block.isComplete, hmarks, hmarks', List.any_cons, List.any_cons, hdone]

end Exchange

namespace Conversion

/-- **Skipped lines never influence a conversion.** Two texts that open a
declaration with the same line, have the same lines with fields in their
block and both close it or both do not, are converted alike under any
settings: to the same result, with the same warnings and properties, or
with the same fields given tags. In particular unexported fields leave no
trace: their names, types, tags and comments can be exchanged for others. -/
theorem ofText_skipped_lines (fs : Files) (s : Settings) :
    (∀ (v : Vocabulary) (n : Notation) (name t t' : Text), n.header? (firstLine t) = some name →
      SameFieldLines v n t t' → Alike (ofText fs s t) (ofText fs s t')) ∧
    ∀ (header name t t' : Text) (ls ls' : List Text), structHeader? header = some name →
      lines (trim t) = header :: ls → lines (trim t') = header :: ls' →
      List.Forall₂ Exchanged ls ls' → Alike (ofText fs s t) (ofText fs s t') := by
  constructor
  · intro v n name t t' hheader hsame
    exact alike_of_sameFieldLines hheader hsame fs s
  · intro header name t t' ls ls' hheader hlines hlines' hexchange
    have hopens : Notation.header? .struct (firstLine t) = some name := by
      rw [firstLine_of_lines hlines]
      exact hheader
    exact alike_of_sameFieldLines hopens
      (sameFieldLines_of_exchanged .default hheader hlines hlines' hexchange) fs s

/-- The lines behind a header: a comment, a field with a tag, another field
and the closing brace. -/
def ledgerLines (field : Text) : List Text :=
  ["// totals".toList, "\tID int `json:\"id\"`".toList, field, ['}']]

/-- The header line of the struct. -/
def ledgerHeader : Text := "type Ledger struct \x7b".toList

/-- A struct with a comment and an unexported field. -/
def ledger : Text := unlines (ledgerHeader :: ledgerLines "\tsecret string // one".toList)

/-- The same struct with another unexported field. -/
def saltedLedger : Text := unlines (ledgerHeader :: ledgerLines "\tsalt []byte `json:\"s\"`".toList)

/-- The same struct with neither. -/
def shortLedger : Text := unlines [ledgerHeader, "\tID int `json:\"id\"`".toList, ['}']]

theorem ofText_skipped_lines_ledger :
    Notation.header? .struct (firstLine ledger) = some "Ledger".toList ∧
    SameFieldLines .default .struct ledger shortLedger ∧
    Alike (ofText [] {} ledger) (ofText [] {} shortLedger) ∧
    Alike (ofText [] {} ledger) (ofText [] {} saltedLedger) := by
  obtain ⟨hskipped, hprivate⟩ := ofText_skipped_lines [] {}
  have hheader : Notation.header? .struct (firstLine ledger) = some "Ledger".toList := by decide
  have hsame : SameFieldLines .default .struct ledger shortLedger :=
    ⟨by decide, by decide, by decide⟩
  have hsecret : IsPrivate "\tsecret string // one".toList :=
    ⟨⟨"\t".toList, "secret".toList, "string".toList, .untagged (some " // one".toList)⟩,
      by decide, by decide⟩
  have hsalt : IsPrivate "\tsalt []byte `json:\"s\"`".toList :=
    ⟨⟨"\t".toList, "salt".toList, "[]byte".toList, .tagged "json:\"s\"".toList none⟩,
      by decide, by decide⟩
  have hexchange : List.Forall₂ Exchanged (ledgerLines "\tsecret string // one".toList)
      (ledgerLines "\tsalt []byte `json:\"s\"`".toList) :=
    .cons (.inl rfl) (.cons (.inl rfl) (.cons (.inr ⟨hsecret, hsalt⟩) (.cons (.inl rfl) .nil)))
  exact ⟨hheader, hsame, hskipped _ _ _ _ _ hheader hsame,
    hprivate ledgerHeader "Ledger".toList _ _ _ _ (by decide) (by decide) (by decide) hexchange⟩

end Conversion

end WireTypes
