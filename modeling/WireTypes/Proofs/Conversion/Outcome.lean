import WireTypes.Proofs.Conversion.Emission
import WireTypes.Proofs.Declaration.Classification
import WireTypes.Conversion.Basic

/-!
# Conversion — What a text comes to

A conversion has three outcomes: the text is rejected, given tags, or
written in the other notation. `Outcome` names them with all that holds
in each, for any settings under which the conversion comes to an end
(`outcome_of_ofText`); with the built-in templates it always does
(`exists_ofText_eq`). Everything said about a conversion as a whole is a
case analysis over `Outcome`.
-/

namespace WireTypes.Conversion

open Text

variable {fs : Files} {s : Settings} {t : Text} {c : Conversion} {n : Notation}

/-! ## The three outcomes -/

/-- What became of a text, with the reasons for it. -/
inductive Outcome (fs : Files) (s : Settings) (t : Text) : Conversion → Prop where
  /-- Its first line opens no declaration. -/
  | rejected {cause : Rejection} (verdict : classify t = .error cause) :
      Outcome fs s t (.rejected cause)
  /-- It is a struct that misses tags, and they are checked. -/
  | tagged (verdict : classify t = .ok .struct) (check : s.tagCheck.isSet = true)
      (missing : TagRepair.missing (trim t) ≠ []) :
      Outcome fs s t (.tagged (TagRepair.repair (trim t)) (TagRepair.missing (trim t)))
  /-- It misses no tag that is checked for, and what it declares is
  written in the other notation. -/
  | converted {n : Notation} {o : Options} {d : Declaration} {out : Text}
      (verdict : classify t = .ok n)
      (complete : n = .struct → s.tagCheck.isSet = true → TagRepair.missing (trim t) = [])
      (options : Options.ofSettings s = .ok o)
      (declared : Declaration.read o.vocabulary n (trim t) = .ok d)
      (written : d.emit fs o n.target = .ok out) :
      Outcome fs s t (.converted n d out)

theorem plan_eq_addTags_iff {check : Bool} :
    plan check t = .addTags ↔
      classify t = .ok .struct ∧ check = true ∧ TagRepair.missing (trim t) ≠ [] := by
  rw [plan]
  split
  · rename_i hverdict
    simp [hverdict]
  · rename_i hverdict
    simp [hverdict]
  · rename_i hverdict
    simp [hverdict]

theorem plan_eq_convert_iff {check : Bool} :
    plan check t = .convert n ↔
      classify t = .ok n ∧ (n = .struct → check = true → TagRepair.missing (trim t) = []) := by
  rw [plan]
  split
  · rename_i hverdict
    simp [hverdict]
  · rename_i hverdict
    cases n with
    | struct => simp [hverdict]
    | interface =>
        simp only [hverdict, Except.ok.injEq, reduceCtorEq, false_and, iff_false]
        split <;> simp
  · rename_i hverdict
    cases n <;> simp [hverdict]

theorem plan_eq_reject_iff {check : Bool} {cause : Rejection} :
    plan check t = .reject cause ↔ classify t = .error cause := by
  rw [plan]
  split
  · rename_i hverdict
    simp [hverdict]
  · rename_i hverdict
    simp only [hverdict, reduceCtorEq, iff_false]
    split <;> simp
  · rename_i hverdict
    simp [hverdict]

/-- Whatever is carried over was declared in the text and is written by
the emitter. -/
theorem exists_of_carryOver (hverdict : classify t = .ok n)
    (h : carryOver fs s n (trim t) = .ok c) :
    ∃ o d out, Options.ofSettings s = .ok o ∧ Declaration.read o.vocabulary n (trim t) = .ok d ∧
      d.emit fs o n.target = .ok out ∧ c = .converted n d out := by
  rw [carryOver] at h
  split at h
  · cases h
  · rename_i o ho
    obtain ⟨name, hname⟩ := exists_header_of_classify hverdict
    have hread := Declaration.read_of_header? o.vocabulary hname
    rw [hread] at h
    simp only [ofDeclaration] at h
    split at h
    · cases h
    · rename_i out hout
      cases h
      exact ⟨o, _, out, ho, hread, hout, rfl⟩

/-- **Every conversion that comes to an end has one of the three
outcomes.** -/
theorem outcome_of_ofText (h : ofText fs s t = .ok c) : Outcome fs s t c := by
  rw [ofText] at h
  split at h
  · rename_i cause hplan
    cases h
    exact .rejected (plan_eq_reject_iff.mp hplan)
  · rename_i hplan
    cases h
    obtain ⟨hverdict, hcheck, hmissing⟩ := plan_eq_addTags_iff.mp hplan
    exact .tagged hverdict hcheck hmissing
  · rename_i source hplan
    obtain ⟨hverdict, hcomplete⟩ := plan_eq_convert_iff.mp hplan
    obtain ⟨o, d, out, ho, hread, hout, rfl⟩ := exists_of_carryOver hverdict h
    exact .converted hverdict hcomplete ho hread hout

/-- With the built-in templates a declaration is written as a block. -/
theorem ofText_eq_converted {o : Options} {d : Declaration} (hs : s.UsesBuiltIn fs)
    (ho : Options.ofSettings s = .ok o) (hverdict : classify t = .ok n)
    (hcomplete : n = .struct → s.tagCheck.isSet = true → TagRepair.missing (trim t) = [])
    (hread : Declaration.read o.vocabulary n (trim t) = .ok d) :
    ofText fs s t = .ok (.converted n d (Emission.tidy (Emission.block o n.target d))) := by
  rw [ofText, plan_eq_convert_iff.mpr ⟨hverdict, hcomplete⟩]
  show carryOver fs s n (trim t) = _
  rw [carryOver, ho]
  simp only [hread, ofDeclaration, emit_eq hs ho]

/-- With the built-in templates every text comes to something. -/
theorem exists_ofText_eq (hs : s.UsesBuiltIn fs) (t : Text) : ∃ c, ofText fs s t = .ok c := by
  cases hplan : plan s.tagCheck.isSet t with
  | reject cause => exact ⟨_, by rw [ofText, hplan]⟩
  | addTags => exact ⟨_, by rw [ofText, hplan]⟩
  | convert n =>
      obtain ⟨hverdict, hcomplete⟩ := plan_eq_convert_iff.mp hplan
      obtain ⟨o, ho⟩ := hs.options
      obtain ⟨name, hname⟩ := exists_header_of_classify hverdict
      exact ⟨_, ofText_eq_converted hs ho hverdict hcomplete
        (Declaration.read_of_header? o.vocabulary hname)⟩

/-- A conversion sees only what trimming leaves of a text. -/
theorem ofText_congr {t' : Text} (h : trim t = trim t') : ofText fs s t = ofText fs s t' := by
  rw [ofText, ofText, plan, plan, classify_congr h, h]

/-! ## What is reported -/

/-- The warning about a declaration without a closing brace. -/
def unclosedWarning (name : Text) : Text :=
  "Declaration '".toList ++ name ++ "' is missing its closing brace".toList

/-- The two warnings end differently. -/
theorem exists_warnings_eq (d : Declaration) : ∃ other, unclosedWarning d.name ≠ other ∧
    d.warnings = (if d.fields.isEmpty then [other] else []) ++
      if d.complete then [] else [unclosedWarning d.name] := by
  refine ⟨"Declaration '".toList ++ d.name ++ "' has no fields".toList, ?_, rfl⟩
  have hendings : "' is missing its closing brace".toList ≠ "' has no fields".toList := by
    decide
  exact fun heq => hendings (List.append_cancel_left heq)

/-- The warning is given exactly when the brace is missing. -/
theorem unclosedWarning_mem_iff (d : Declaration) :
    unclosedWarning d.name ∈ d.warnings ↔ d.complete = false := by
  obtain ⟨other, hother, hwarnings⟩ := exists_warnings_eq d
  rw [hwarnings]
  cases d.complete with
  | true =>
      rw [if_pos rfl, List.append_nil]
      split <;> simp [hother]
  | false => simp

/-- What a conversion reports of the declaration it wrote. -/
structure Reports (c : Conversion) (d : Declaration) : Prop where
  action : c.metadata.get? "action".toList = some (.string "convert".toList)
  name : c.metadata.get? "name".toList = some (.string d.name)
  fieldCount : c.metadata.get? "field_count".toList = some (.whole d.fields.length)
  complete : c.metadata.get? "complete".toList = some (.bool d.complete)
  unclosed : d.complete = false ↔ unclosedWarning d.name ∈ c.warnings

theorem reports_converted (n : Notation) (d : Declaration) (out : Text) :
    Reports (.converted n d out) d where
  action := rfl
  name := rfl
  fieldCount := rfl
  complete := rfl
  unclosed := (unclosedWarning_mem_iff d).symm

/-- What was done with a text. -/
def action? (c : Conversion) : Option Json := c.metadata.get? "action".toList

/-- The action on a text that is given tags. -/
def addTags : Json := .string "add_tags".toList

theorem action?_tagged (result : Text) (names : List Text) :
    (tagged result names).action? = some addTags := rfl

theorem action?_converted (n : Notation) (d : Declaration) (out : Text) :
    (converted n d out).action? ≠ some addTags := by
  intro h
  have hword : "convert".toList = "add_tags".toList := Json.string.inj (Option.some.inj h)
  exact absurd hword (by decide)

/-! ## All texts -/

/-- What is said of a text that is not rejected: the reader of its
notation finds the header on the first line and reads the declaration;
the text is given tags if it is a struct that misses tags which are
checked for, and else the declaration is reported. -/
structure Recognised (s : Settings) (t : Text) (c : Conversion) (n : Notation) (name : Text) :
    Prop where
  verdict : classify t = .ok n
  opens : n.header? (firstLine t) = some name
  header : ∃ progress rest, Block.marks n (trim t) = ⟨.header, firstLine t, progress⟩ :: rest
  readable : ∀ v, ∃ d, Declaration.read v n (trim t) = .ok d ∧ d.name = name
  tagged : c.action? = some addTags ↔
    n = .struct ∧ s.tagCheck.isSet = true ∧ TagRepair.missing (trim t) ≠ []
  reported : c.action? ≠ some addTags → ∃ o d, Options.ofSettings s = .ok o ∧
    Declaration.read o.vocabulary n (trim t) = .ok d ∧ d.name = name ∧ Reports c d

/-- A conversion is a rejection exactly when the verdict is one. -/
theorem Outcome.rejection?_eq_some_iff {cause : Rejection} (h : Outcome fs s t c) :
    c.rejection? = some cause ↔ classify t = .error cause := by
  cases h with
  | rejected verdict => simp [rejection?, verdict]
  | tagged verdict check missing => simp [rejection?, verdict]
  | converted verdict complete options declared written => simp [rejection?, verdict]

theorem Outcome.exists_recognised (h : Outcome fs s t c) (hc : c.rejection? = none) :
    ∃ n name, Recognised s t c n name := by
  cases h with
  | rejected verdict => cases hc
  | tagged verdict check missing =>
      obtain ⟨name, hname⟩ := exists_header_of_classify verdict
      obtain ⟨rest, hmarks⟩ := Block.exists_marks_eq hname
      refine ⟨.struct, name, verdict, hname, ⟨_, rest, hmarks⟩, fun v => ?_, ?_, ?_⟩
      · exact ⟨_, Declaration.read_of_header? v hname, rfl⟩
      · exact ⟨fun _ => ⟨rfl, check, missing⟩, fun _ => action?_tagged _ _⟩
      · exact fun hne => absurd (action?_tagged _ _) hne
  | converted verdict complete options declared written =>
      rename_i n o d out
      obtain ⟨name, hname⟩ := exists_header_of_classify verdict
      obtain ⟨rest, hmarks⟩ := Block.exists_marks_eq hname
      have hread := Declaration.read_of_header? o.vocabulary hname
      have hdname : d.name = name := by
        rw [hread] at declared
        cases declared
        rfl
      refine ⟨n, name, verdict, hname, ⟨_, rest, hmarks⟩, fun v => ?_, ?_, ?_⟩
      · exact ⟨_, Declaration.read_of_header? v hname, rfl⟩
      · refine ⟨fun h => absurd h (action?_converted n d out), ?_⟩
        rintro ⟨hstruct, hcheck, hmissing⟩
        exact absurd (complete hstruct hcheck) hmissing
      · exact fun _ => ⟨o, d, options, declared, hdname, reports_converted n d out⟩

/-- **Every text is rejected or recognised, by its first line.** With the
built-in templates a conversion always comes to an end. It is a rejection
if the text is blank or its first line opens no declaration, and then it
gives nothing; else the text is recognised. Blanks around the text make
no difference. -/
theorem ofText_partition (fs : Files) (s : Settings) (hs : s.UsesBuiltIn fs) (t : Text) :
    ∃ c, ofText fs s t = .ok c ∧
      (c.rejection? = some .empty ↔ trim t = []) ∧
      (c.rejection? = some .unrecognized ↔
        trim t ≠ [] ∧ ∀ n : Notation, n.header? (firstLine t) = none) ∧
      (c.rejection? ≠ none → c.result = [] ∧ c.warnings = [] ∧ c.metadata = []) ∧
      (c.rejection? = none → ∃ n name, Recognised s t c n name) ∧
      ∀ before after : Text, (∀ b ∈ before, isBlank b = true) → (∀ b ∈ after, isBlank b = true) →
        ofText fs s (before ++ (t ++ after)) = .ok c := by
  obtain ⟨c, hc⟩ := exists_ofText_eq hs t
  have houtcome := outcome_of_ofText hc
  have hverdict : ∀ cause, c.rejection? = some cause ↔ classify t = .error cause :=
    fun cause => houtcome.rejection?_eq_some_iff
  refine ⟨c, hc, ?_, ?_, ?_, houtcome.exists_recognised, ?_⟩
  · rw [hverdict, classify_eq_empty_iff]
  · rw [hverdict, classify_eq_unrecognized_iff]
  · intro hne
    cases houtcome with
    | rejected verdict => exact ⟨rfl, rfl, rfl⟩
    | tagged verdict check missing => exact absurd rfl hne
    | converted verdict complete options declared written => exact absurd rfl hne
  · intro before after hbefore hafter
    rw [ofText_congr (trim_between_blanks hbefore hafter t), hc]

/-- A struct without a closing brace behind a no-break space, with a field
whose missing tag is not checked for. -/
def parcel : Text :=
  "\u00A0\n\ttype Parcel struct \x7b\n\tSentAt time.Time // local\n\tgrams int\n\u3000".toList

/-- Settings without the tag check, with a name of their own. -/
def parcelSettings : Settings :=
  { tagCheck := .bool false
    structOverrides := .object [("time.Time".toList, .string "Date".toList)]
    exported := .bool true }

theorem ofText_partition_parcel :
    parcelSettings.UsesBuiltIn [] ∧
    ∃ c, ofText [] parcelSettings parcel = .ok c ∧
      (c.rejection? = some .empty ↔ trim parcel = []) ∧
      (c.rejection? = some .unrecognized ↔
        trim parcel ≠ [] ∧ ∀ n : Notation, n.header? (firstLine parcel) = none) ∧
      (c.rejection? ≠ none → c.result = [] ∧ c.warnings = [] ∧ c.metadata = []) ∧
      (c.rejection? = none → ∃ n name, Recognised parcelSettings parcel c n name) ∧
      ∀ before after : Text, (∀ b ∈ before, isBlank b = true) → (∀ b ∈ after, isBlank b = true) →
        ofText [] parcelSettings (before ++ (parcel ++ after)) = .ok c := by
  have hsettings : parcelSettings.UsesBuiltIn [] := Settings.usesBuiltIn_of_noFolder [] rfl rfl rfl
  exact ⟨hsettings, ofText_partition [] parcelSettings hsettings parcel⟩

end WireTypes.Conversion
