import WireTypes.Proofs.Conversion.SkippedLines
import WireTypes.Proofs.Declaration.Returns

/-!
# Conversion — Line endings

A text may end its lines with a line feed or with a carriage return
before it. Line by line, readers see no difference: marks keep their
roles (`Block.marks_withReturns`), and a line gives the field it gave. The
one exception are lines of an interface that end in the colon of a
property, whose type stands on the next line: with a carriage return such
a line declares a property of unknown type (`ofText_withReturns`).
-/

namespace WireTypes

open Text

variable {n : Notation} {t line : Text}

/-! ## The verdict -/

theorem withReturns_eq_nil_iff : withReturns t = [] ↔ t = [] := by
  cases t with
  | nil => simp [withReturns]
  | cons c t =>
      rw [withReturns, List.flatMap_cons]
      split <;> simp

/-- The first line opens what it opened. -/
theorem header?_firstLine_withReturns (n : Notation) (t : Text) :
    n.header? (firstLine (withReturns t)) = n.header? (firstLine t) := by
  obtain ⟨rest, hlines⟩ := exists_lines_eq (trim t)
  obtain ⟨rest', hlines'⟩ := exists_lines_eq (withReturns (trim t))
  rw [firstLine, trim_withReturns, firstLine]
  rw [lines_withReturns, hlines] at hlines'
  cases rest with
  | nil => rw [← (List.cons.inj hlines').1]
  | cons next rest =>
      rw [← (List.cons.inj hlines').1, n.header?_append_gap isBlank_return]

theorem classify_withReturns (t : Text) : classify (withReturns t) = classify t := by
  have hstruct : structHeader? (firstLine (withReturns t)) = structHeader? (firstLine t) :=
    header?_firstLine_withReturns .struct t
  have hinterface : interfaceHeader? (firstLine (withReturns t)) = interfaceHeader? (firstLine t) :=
    header?_firstLine_withReturns .interface t
  by_cases hnil : trim t = []
  · rw [classify_eq_empty_iff.mpr hnil, classify_eq_empty_iff, trim_withReturns, hnil]
    rfl
  · have hnil' : trim (withReturns t) ≠ [] := by
      rw [trim_withReturns, Ne, withReturns_eq_nil_iff]
      exact hnil
    rw [classify_of_ne_nil hnil, classify_of_ne_nil hnil', hstruct, hinterface]

/-! ## Declarations -/

theorem lineField?_append_return {v : Vocabulary} (h : '\n' ∉ line)
    (huntyped : n = .interface → Property.untyped? line = none) :
    n.lineField? v (line ++ ['\r']) = n.lineField? v line := by
  rw [Notation.lineField?, Notation.lineField?, isFiller_append_gap isBlank_return]
  cases n with
  | struct =>
      rw [Notation.field?, structField?_append_gap isBlank_return v h not_newline_mem_return]
  | interface =>
      rw [Notation.field?, interfaceField?_append_gap isBlank_return v h not_newline_mem_return
        (huntyped rfl)]

namespace Property

/-- A line that ends in its colon declares nothing, and with a carriage
return the property that lacks a type. -/
theorem lineField?_of_untyped {v : Vocabulary} {p : Property} (h : untyped? line = some p) :
    Notation.lineField? v .interface line = none ∧
      Notation.lineField? v .interface (line ++ ['\r']) = some (p.toField v) := by
  have hgiven : Notation.field? v .interface (line ++ ['\r']) = some (p.toField v) := by
    rw [Notation.field?, interfaceField?, ofLine?_append_gap_of_untyped isBlank_return (by simp) h]
    rfl
  constructor
  · rw [Notation.lineField?_eq_field?, Notation.field?, interfaceField?, ofLine?_of_untyped h]
    rfl
  · rw [Notation.lineField?_eq_field?, hgiven]

/-- The type that a blank stands for is unknown. -/
theorem type_toField_of_untyped {p : Property} (h : untyped? line = some p) (v : Vocabulary) :
    (p.toField v).type = TypeExpr.ofInterface v "unknown".toList := by
  rw [untyped?] at h
  split at h
  · cases h
    have hmembers : Union.members [' '] = [] := by decide
    simp [toField, Union.toType, Union.hasNull, Union.valueType, Union.values, hmembers]
  · cases h

end Property

/-- What some items have beside what they had. -/
theorem filterMap_added {α β : Type} {f g h : α → Option β} {l : List α}
    (hsame : ∀ a ∈ l, h a = none → g a = f a)
    (hadded : ∀ a ∈ l, ∀ b, h a = some b → f a = none ∧ g a = some b) :
    (l.filterMap f).Sublist (l.filterMap g) ∧
      (l.filterMap g).Perm (l.filterMap f ++ l.filterMap h) := by
  induction l with
  | nil => exact ⟨.refl _, .refl _⟩
  | cons a l ih =>
      obtain ⟨hsub, hperm⟩ := ih (fun a ha => hsame a (List.mem_cons_of_mem _ ha))
        fun a ha => hadded a (List.mem_cons_of_mem _ ha)
      rw [List.filterMap_cons, List.filterMap_cons, List.filterMap_cons]
      cases hha : h a with
      | none =>
          rw [hsame a (by simp) hha]
          cases f a with
          | none => exact ⟨hsub, hperm⟩
          | some b => exact ⟨hsub.cons_cons b, hperm.cons b⟩
      | some b =>
          obtain ⟨hf, hg⟩ := hadded a (by simp) b hha
          rw [hf, hg]
          exact ⟨hsub.cons b, (hperm.cons b).trans List.perm_middle.symm⟩

namespace Conversion

/-- The properties of an interface whose lines end in the colon and are
followed by another line. -/
def untyped (t : Text) : List Property :=
  match classify t with
  | .ok .interface => (Block.endedBody .interface (trim t)).filterMap Property.untyped?
  | _ => []

/-- Two declarations are the same but for some more properties of the
second, which stand among the others. -/
structure Gains (v : Vocabulary) (added : List Property) (d d' : Declaration) : Prop where
  name : d'.name = d.name
  kind : d'.kind = d.kind
  complete : d'.complete = d.complete
  fields : d.fields.Sublist d'.fields
  added : d'.fields.Perm (d.fields ++ added.map (·.toField v))

namespace Gains

variable {v : Vocabulary} {added : List Property} {d d' : Declaration}

theorem eq_of_nil (h : Gains v [] d d') : d' = d := by
  have hlength : d'.fields.length = d.fields.length := by
    simpa using h.added.length_eq
  have hfields : d.fields = d'.fields := h.fields.eq_of_length hlength.symm
  obtain ⟨name, kind, fields, complete⟩ := d
  obtain ⟨name', kind', fields', complete'⟩ := d'
  obtain ⟨hname, hkind, hcomplete, -, -⟩ := h
  simp only at hname hkind hcomplete hfields
  rw [hname, hkind, hcomplete, hfields]

end Gains

/-- The field that a carriage return adds to a line. -/
def addedField? (v : Vocabulary) : Notation → Text → Option Field
  | .struct, _ => none
  | .interface, line => (Property.untyped? line).map (·.toField v)

theorem map_toField_untyped (v : Vocabulary) (hverdict : classify t = .ok n) :
    (untyped t).map (·.toField v)
      = (Block.endedBody n (trim t)).filterMap (addedField? v n) := by
  rw [untyped, hverdict]
  cases n with
  | struct => simp [addedField?]
  | interface => rw [List.map_filterMap]; rfl

theorem lineField?_of_addedField? {v : Vocabulary} {f : Field}
    (h : addedField? v n line = some f) :
    n.lineField? v line = none ∧ n.lineField? v (line ++ ['\r']) = some f := by
  cases n with
  | struct => cases h
  | interface =>
      obtain ⟨p, hp, rfl⟩ := Option.map_eq_some_iff.mp h
      exact Property.lineField?_of_untyped hp

theorem lineField?_of_addedField?_eq_none {v : Vocabulary} (hline : '\n' ∉ line)
    (h : addedField? v n line = none) : n.lineField? v (line ++ ['\r']) = n.lineField? v line := by
  refine lineField?_append_return hline fun hn => ?_
  subst hn
  exact Option.map_eq_none_iff.mp h

/-- **What is read under the longer line ending** is what was read before,
and the properties that lack a type. -/
theorem read_withReturns (v : Vocabulary) (hverdict : classify t = .ok n) :
    ∃ d d', Declaration.read v n (trim t) = .ok d ∧
      Declaration.read v n (trim (withReturns t)) = .ok d' ∧ Gains v (untyped t) d d' := by
  obtain ⟨name, hname⟩ := exists_header_of_classify hverdict
  have hread := Declaration.read_of_header? v hname
  have hread' := Declaration.read_of_header? v ((header?_firstLine_withReturns n t).trans hname)
  have hclosed : Block.isComplete n (trim (withReturns t)) = Block.isComplete n (trim t) := by
    rw [trim_withReturns, Block.isComplete_withReturns]
  -- the lines that are followed by another one, and the last one, which has no line ending
  have hfields : Declaration.fieldsOf v n (Block.body n (trim t))
      = (Block.endedBody n (trim t)).filterMap (n.lineField? v)
        ++ (Block.openBody n (trim t)).filterMap (n.lineField? v) := by
    rw [Block.body_eq, Declaration.fieldsOf_eq_filterMap, List.filterMap_append]
  have hfields' : Declaration.fieldsOf v n (Block.body n (trim (withReturns t)))
      = (Block.endedBody n (trim t)).filterMap (fun line => n.lineField? v (line ++ ['\r']))
        ++ (Block.openBody n (trim t)).filterMap (n.lineField? v) := by
    rw [trim_withReturns, Block.body_withReturns, Declaration.fieldsOf_eq_filterMap,
      List.filterMap_append, List.filterMap_map]
    rfl
  obtain ⟨hsub, hperm⟩ := filterMap_added
    (fun line hline => lineField?_of_addedField?_eq_none (v := v)
      (Block.not_newline_mem_of_mem_endedBody hline))
    (fun _ _ _ hadded => lineField?_of_addedField? hadded)
  refine ⟨_, _, hread, hread', rfl, rfl, hclosed, ?_, ?_⟩
  · rw [hfields, hfields']
    exact hsub.append_right _
  · rw [hfields, hfields', map_toField_untyped v hverdict, List.append_assoc]
    exact (hperm.append_right _).trans
      (by rw [List.append_assoc]; exact List.perm_append_comm.append_left _)

variable {fs : Files} {s : Settings}

/-- A text whose reading gains nothing is converted to the same. -/
theorem ofText_withReturns_of_nil (hcheck : s.tagCheck.isSet = false) (h : untyped t = []) :
    ofText fs s (withReturns t) = ofText fs s t := by
  have hplan : plan s.tagCheck.isSet (withReturns t) = plan s.tagCheck.isSet t := by
    rw [plan, plan, classify_withReturns, hcheck]
    rfl
  rw [ofText, ofText, hplan]
  cases hp : plan s.tagCheck.isSet t with
  | reject cause => rfl
  | addTags =>
      have hset := (plan_eq_addTags_iff.mp hp).2.1
      rw [hcheck] at hset
      exact absurd hset (by decide)
  | convert source =>
      have hverdict := (plan_eq_convert_iff.mp hp).1
      have hread : ∀ v, Declaration.read v source (trim (withReturns t))
          = Declaration.read v source (trim t) := by
        intro v
        obtain ⟨d, d', hd, hd', hgains⟩ := read_withReturns v hverdict
        rw [h] at hgains
        rw [hd, hd', hgains.eq_of_nil]
      simp only [carryOver, hread]

/-- The number of fields that a conversion reports. -/
theorem get?_fieldCount (n : Notation) (d : Declaration) (out : Text) :
    (converted n d out).metadata.get? "field_count".toList = some (.whole d.fields.length) :=
  (reports_converted n d out).fieldCount

theorem Gains.metadata_ne {v : Vocabulary} {added : List Property} {d d' : Declaration}
    (h : Gains v added d d') (hne : added ≠ []) (n n' : Notation) (out out' : Text) :
    (converted n' d' out').metadata ≠ (converted n d out).metadata := by
  intro heq
  have hcount := get?_fieldCount n d out
  rw [← heq, get?_fieldCount] at hcount
  rw [Option.some.injEq, Json.whole.injEq] at hcount
  have hadded := h.added.length_eq
  rw [List.length_append, List.length_map] at hadded
  have hpos : 0 < added.length := List.length_pos_iff.mpr hne
  omega

/-- An interface with properties that lack a type is read as another
declaration. -/
theorem ofText_withReturns_of_ne_nil {c : Conversion} (h : untyped t ≠ [])
    (hc : ofText fs s t = .ok c) :
    ∃ o d d', Options.ofSettings s = .ok o ∧ c = .converted .interface d c.result ∧
      Gains o.vocabulary (untyped t) d d' ∧
      ∀ c', ofText fs s (withReturns t) = .ok c' →
        c' = .converted .interface d' c'.result ∧ c'.metadata ≠ c.metadata := by
  have hverdict : classify t = .ok .interface := by
    rw [untyped] at h
    split at h
    · rename_i hverdict
      exact hverdict
    · exact absurd rfl h
  cases outcome_of_ofText hc with
  | rejected verdict => rw [hverdict] at verdict; cases verdict
  | tagged verdict check missing => rw [hverdict] at verdict; cases verdict
  | @converted n o d out verdict complete options declared written =>
      rw [hverdict] at verdict
      cases verdict
      obtain ⟨e, d', hd, hd', hgains⟩ := read_withReturns o.vocabulary hverdict
      rw [hd] at declared
      cases declared
      refine ⟨o, _, d', options, rfl, hgains, fun c' hc' => ?_⟩
      cases outcome_of_ofText hc' with
      | rejected verdict' => rw [classify_withReturns, hverdict] at verdict'; cases verdict'
      | tagged verdict' check' missing' =>
          rw [classify_withReturns, hverdict] at verdict'
          cases verdict'
      | @converted n' o' e' out' verdict' complete' options' declared' written' =>
          rw [classify_withReturns, hverdict] at verdict'
          cases verdict'
          rw [options] at options'
          cases options'
          rw [hd'] at declared'
          cases declared'
          exact ⟨rfl, hgains.metadata_ne h _ _ _ _⟩

/-- **Line endings do not matter, but for properties that lack a type.**
Without the tag check, a text and the same text with a carriage return
before each line feed are the same kind of text and are converted to the
same, whatever the settings are, unless a line of an interface ends in
the colon of a property. Each such line then declares one more property,
of unknown type, among those that were there. -/
theorem ofText_withReturns (fs : Files) (s : Settings) (t : Text)
    (hcheck : s.tagCheck.isSet = false) :
    classify (withReturns t) = classify t ∧
    (untyped t = [] → ofText fs s (withReturns t) = ofText fs s t) ∧
    (∀ c, untyped t ≠ [] → ofText fs s t = .ok c →
      ∃ o d d', Options.ofSettings s = .ok o ∧ c = .converted .interface d c.result ∧
        Gains o.vocabulary (untyped t) d d' ∧
        ∀ c', ofText fs s (withReturns t) = .ok c' →
          c' = .converted .interface d' c'.result ∧ c'.metadata ≠ c.metadata) ∧
    ∀ p ∈ untyped t, ∀ v, (p.toField v).type = TypeExpr.ofInterface v "unknown".toList := by
  refine ⟨classify_withReturns t, ofText_withReturns_of_nil hcheck,
    fun c h hc => ofText_withReturns_of_ne_nil h hc, fun p hp v => ?_⟩
  rw [untyped] at hp
  split at hp
  · obtain ⟨line, -, hline⟩ := List.mem_filterMap.mp hp
    exact Property.type_toField_of_untyped hline v
  · cases hp

/-- An interface with the type of a property on a line of its own. -/
def pallet : Text :=
  "interface Pallet \x7b\n  weight:\n    number;\n  label?: string; // stencilled\n\x7d".toList

/-- Settings without the tag check. -/
def unchecked : Settings := { tagCheck := .bool false }

theorem ofText_withReturns_pallet :
    unchecked.tagCheck.isSet = false ∧ untyped pallet ≠ [] ∧
    classify (withReturns pallet) = classify pallet ∧
    (untyped pallet = [] → ofText [] unchecked (withReturns pallet) = ofText [] unchecked pallet) ∧
    (∀ c, untyped pallet ≠ [] → ofText [] unchecked pallet = .ok c →
      ∃ o d d', Options.ofSettings unchecked = .ok o ∧ c = .converted .interface d c.result ∧
        Gains o.vocabulary (untyped pallet) d d' ∧
        ∀ c', ofText [] unchecked (withReturns pallet) = .ok c' →
          c' = .converted .interface d' c'.result ∧ c'.metadata ≠ c.metadata) ∧
    ∀ p ∈ untyped pallet, ∀ v, (p.toField v).type = TypeExpr.ofInterface v "unknown".toList :=
  ⟨rfl, by decide, ofText_withReturns [] unchecked pallet rfl⟩

/-- The longer line ending can change what is reported. -/
theorem not_metadata_withReturns :
    ¬ ∀ (fs : Files) (s : Settings) (t : Text) (c c' : Conversion), '\r' ∉ t →
      s.tagCheck.isSet = false → ofText fs s t = .ok c → ofText fs s (withReturns t) = .ok c' →
      c'.metadata = c.metadata := by
  intro h
  have hsettings : unchecked.UsesBuiltIn [] := Settings.usesBuiltIn_of_noFolder [] rfl rfl rfl
  have huntyped : untyped pallet ≠ [] := by decide
  obtain ⟨c, hc⟩ := exists_ofText_eq hsettings pallet
  obtain ⟨c', hc'⟩ := exists_ofText_eq hsettings (withReturns pallet)
  obtain ⟨o, d, d', -, -, -, hdiffers⟩ := ofText_withReturns_of_ne_nil huntyped hc
  exact (hdiffers c' hc').2 (h [] unchecked pallet c c' (by decide) rfl hc hc')

end Conversion

end WireTypes
