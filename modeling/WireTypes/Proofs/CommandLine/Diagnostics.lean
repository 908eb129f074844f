import WireTypes.CommandLine.Arguments

/-!
# Command line — Arguments that ask for diagnostics

Whether the properties of a conversion are shown, and which events are
reported, are the two diagnostic settings. The reader of arguments goes
through a command line in the same steps whatever they are: two
progresses that differ in them only take every argument alike
(`sameStep_step`), and so come to the same request
(`sameRequest_requestFrom`). A command line with another level, or with one
more diagnostic option in front, asks for the same otherwise.
-/

namespace WireTypes.CommandLine

open Text

variable {α β : Type}

/-! ## Readings that agree -/

/-- Two readings fail for the same reason or come to results that agree. -/
inductive SameResult (R : α → α → Prop) : Except UsageFault α → Except UsageFault α → Prop where
  | error (fault : UsageFault) : SameResult R (.error fault) (.error fault)
  | ok {a a' : α} (h : R a a') : SameResult R (.ok a) (.ok a')

theorem SameResult.bind {R : α → α → Prop} {S : β → β → Prop} {x x' : Except UsageFault α}
    {f f' : α → Except UsageFault β} (h : SameResult R x x')
    (hf : ∀ a a', R a a' → SameResult S (f a) (f' a')) : SameResult S (x >>= f) (x' >>= f') := by
  cases h with
  | error fault => exact .error fault
  | ok h => exact hf _ _ h

/-- Arguments that ask for the same but for the diagnostics. Both name a
level or neither does. -/
def SameButDiagnostics (a a' : Arguments) : Prop :=
  ∃ verbose level, a' = { a with verbose := verbose, logLevel := level } ∧
    level.isSome = a.logLevel.isSome

theorem SameButDiagnostics.refl (a : Arguments) : SameButDiagnostics a a :=
  ⟨a.verbose, a.logLevel, rfl, rfl⟩

/-- Requests for the same but for the diagnostics. -/
inductive SameRequest : Request → Request → Prop where
  | help : SameRequest .help .help
  | version : SameRequest .version .version
  | run {a a' : Arguments} (h : SameButDiagnostics a a') : SameRequest (.run a) (.run a')

theorem SameRequest.refl (r : Request) : SameRequest r r := by
  cases r with
  | help => exact .help
  | version => exact .version
  | run a => exact .run (.refl a)

/-- Progresses that are the same but for the diagnostics. -/
structure SameProgress (p p' : Progress) : Prop where
  arguments : SameButDiagnostics p.arguments p'.arguments
  filePassed : p'.filePassed = p.filePassed
  extras : p'.extras = p.extras

/-- Arguments that are the same but for the values of options for the level. -/
inductive SameButLevel : List Argument → List Argument → Prop where
  | nil : SameButLevel [] []
  | cons {l l' : List Argument} (a : Argument) (h : SameButLevel l l') :
    SameButLevel (a :: l) (a :: l')
  | level {l l' : List Argument} {spelling x y : Text} (hx : x ∈ levels) (hy : y ∈ levels)
    (h : SameButLevel l l') :
    SameButLevel (.option .logLevel spelling .none :: .value x :: l)
      (.option .logLevel spelling .none :: .value y :: l')

namespace SameButLevel

variable {l l' : List Argument}

theorem refl (l : List Argument) : SameButLevel l l := by
  induction l with
  | nil => exact .nil
  | cons a l ih => exact .cons a ih

theorem length_eq (h : SameButLevel l l') : l'.length = l.length := by
  induction h with
  | nil => rfl
  | cons a h ih => rw [List.length_cons, List.length_cons, ih]
  | level hx hy h ih => simp only [List.length_cons, ih]

/-! ## Steps of the reader -/

theorem nextValue (h : SameButLevel l l') (o : Opt) :
    SameResult (fun r r' => r'.1 = r.1 ∧ SameButLevel r.2 r'.2)
      (CommandLine.nextValue o l) (CommandLine.nextValue o l') := by
  cases h with
  | nil => exact .error _
  | cons a h =>
      cases a with
      | value t => exact .ok ⟨rfl, h⟩
      | option | stranger | separator => exact .error _
  | level hx hy h => exact .error _

theorem skipSeparator (h : SameButLevel l l') :
    SameButLevel (CommandLine.skipSeparator l) (CommandLine.skipSeparator l') := by
  cases h with
  | nil => exact .nil
  | cons a h =>
      cases a with
      | separator => exact h
      | value t => exact .cons _ h
      | option | stranger => exact .cons _ h
  | level hx hy h => exact .level hx hy h

/-- Behind letters for help only the presence of a value counts. -/
theorem helpWith (h : SameButLevel l l') (letters : Text) :
    CommandLine.helpWith l' letters = CommandLine.helpWith l letters := by
  have houtput : (do let _ ← CommandLine.nextValue .output l'; return Request.help)
      = (do let _ ← CommandLine.nextValue .output l; return Request.help) := by
    have hvalue := h.nextValue .output
    revert hvalue
    generalize CommandLine.nextValue .output l = r
    generalize CommandLine.nextValue .output l' = r'
    rintro (fault | same)
    · rfl
    · rfl
  induction letters with
  | nil => rfl
  | cons c letters ih =>
      by_cases hhelp : c = 'h'
      · subst hhelp
        cases letters with
        | nil => rfl
        | cons d letters => exact ih
      · by_cases hout : c = 'o'
        · subst hout
          cases letters with
          | nil => exact houtput
          | cons d letters => rfl
        · simp [CommandLine.helpWith, hhelp, hout]

end SameButLevel

section Steps

variable {a a' : Arguments} {p p' : Progress}

theorem SameButDiagnostics.setFlag (h : SameButDiagnostics a a') (o : Opt) :
    SameResult SameButDiagnostics (CommandLine.setFlag a o) (CommandLine.setFlag a' o) := by
  obtain ⟨verbose, level, rfl, hlevel⟩ := h
  cases o with
  | stdin =>
      simp only [CommandLine.setFlag]
      split
      · exact .error _
      · exact .ok ⟨verbose, level, rfl, hlevel⟩
  | verbose => exact .ok ⟨true, level, rfl, hlevel⟩
  | noTagCheck | exported | pretty | listNotations => exact .ok ⟨verbose, level, rfl, hlevel⟩
  | help | output | config | templateFolder | logLevel | version =>
      exact .ok ⟨verbose, level, rfl, hlevel⟩

theorem SameButDiagnostics.setValue (h : SameButDiagnostics a a') (o : Opt) (value : Text) :
    SameResult SameButDiagnostics (CommandLine.setValue a o value)
      (CommandLine.setValue a' o value) := by
  obtain ⟨verbose, level, rfl, hlevel⟩ := h
  cases o with
  | logLevel =>
      simp only [CommandLine.setValue]
      split
      · exact .ok ⟨verbose, none, rfl, rfl⟩
      · split
        · exact .ok ⟨verbose, some _, rfl, rfl⟩
        · exact .error _
  | output | config | templateFolder => exact .ok ⟨verbose, level, rfl, hlevel⟩
  | help | stdin | noTagCheck | exported | pretty | verbose | listNotations | version =>
      exact .ok ⟨verbose, level, rfl, hlevel⟩

/-- A level that can be asked for is set, whichever it is. -/
theorem setValue_logLevel {level : Text} (h : level ∈ levels) (a : Arguments) :
    CommandLine.setValue a .logLevel level = .ok { a with logLevel := some level } := by
  have hmark : level ≠ separatorMark := by
    rintro rfl
    exact absurd h (by decide)
  simp [CommandLine.setValue, valueGiven, hmark, h]

theorem SameProgress.takeValue (h : SameProgress p p') (t : Text) :
    SameResult SameProgress (CommandLine.takeValue p t) (CommandLine.takeValue p' t) := by
  obtain ⟨⟨verbose, level, harguments, hlevel⟩, hfile, hextras⟩ := h
  obtain ⟨arguments, passed, extras⟩ := p
  obtain ⟨arguments', passed', extras'⟩ := p'
  cases harguments
  cases hfile
  cases hextras
  simp only [CommandLine.takeValue, setFile]
  split
  · exact .ok ⟨⟨verbose, level, rfl, hlevel⟩, rfl, rfl⟩
  · split
    · exact .error _
    · exact .ok ⟨⟨verbose, level, rfl, hlevel⟩, rfl, rfl⟩

theorem SameProgress.withExtra (h : SameProgress p p') (t : Text) :
    SameProgress { p with extras := p.extras ++ [t] } { p' with extras := p'.extras ++ [t] } :=
  ⟨h.arguments, h.filePassed, by simp [h.extras]⟩

end Steps

/-! ## Whole steps -/

/-- Steps that come to the same but for the diagnostics. -/
inductive SameStep : Step → Step → Prop where
  | done {r r' : Request} (h : SameRequest r r') : SameStep (.done r) (.done r')
  | next {p p' : Progress} {l l' : List Argument} (hp : SameProgress p p')
    (hl : SameButLevel l l') : SameStep (.next p l) (.next p' l')

/-- A level is set in one step. -/
theorem step_level {spelling level : Text} (h : level ∈ levels) (p : Progress)
    (l : List Argument) : step p (.option .logLevel spelling .none :: .value level :: l)
      = .ok (.next { p with arguments := { p.arguments with logLevel := some level } } l) := by
  show valueStep p .logLevel level l = _
  rw [valueStep, setValue_logLevel h]
  rfl

section WholeSteps

variable {p p' : Progress} {l l' : List Argument} (hp : SameProgress p p') (hl : SameButLevel l l')

include hp hl

theorem sameStep_valueStep (o : Opt) (value : Text) :
    SameResult SameStep (valueStep p o value l) (valueStep p' o value l') :=
  (hp.arguments.setValue o value).bind fun _ _ ha => .ok (.next ⟨ha, hp.filePassed, hp.extras⟩ hl)

theorem sameStep_flagStep (o : Opt) : SameResult SameStep (flagStep p o l) (flagStep p' o l') := by
  rw [flagStep, flagStep]
  split
  · exact .ok (.done (.refl _))
  · exact (hp.arguments.setFlag o).bind fun _ _ ha =>
      .ok (.next ⟨ha, hp.filePassed, hp.extras⟩ hl)

theorem sameStep_optionStep (o : Opt) (spelling : Text) (attached : Attached) :
    SameResult SameStep (optionStep p o spelling attached l)
      (optionStep p' o spelling attached l') := by
  -- an ignored value is refused, or it is letters behind that for help
  have hignored : ∀ value : Text, SameResult SameStep
      (if Opt.letters.contains spelling then do return .done (← helpWith l value)
        else throw (.valueIgnored o value))
      (if Opt.letters.contains spelling then do return .done (← helpWith l' value)
        else throw (.valueIgnored o value)) := by
    intro value
    rw [hl.helpWith]
    split
    · cases helpWith l value with
      | error fault => exact .error fault
      | ok r => exact .ok (.done (.refl r))
    · exact .error _
  cases htakes : o.takesValue with
  | true =>
      cases attached with
      | none =>
          simp only [optionStep, htakes]
          exact (hl.nextValue o).bind fun r r' ⟨hsame, hrest⟩ =>
            hsame ▸ sameStep_valueStep hp hrest o r.1
      | explicit value | joined value =>
          simp only [optionStep, htakes]
          exact sameStep_valueStep hp hl o value
  | false =>
      cases attached with
      | none =>
          simp only [optionStep, htakes]
          exact sameStep_flagStep hp hl o
      | explicit value | joined value =>
          simp only [optionStep, htakes]
          exact hignored value

theorem sameStep_separatorStep :
    SameResult SameStep (separatorStep p l) (separatorStep p' l') := by
  unfold separatorStep
  by_cases hfile : p.filePassed = true
  · rw [if_pos hfile, if_pos (hp.filePassed.trans hfile)]
    exact .ok (.next (hp.withExtra separatorMark) hl)
  · rw [if_neg hfile, if_neg (by rwa [hp.filePassed])]
    have hpassed : SameProgress { p with filePassed := true } { p' with filePassed := true } :=
      ⟨hp.arguments, rfl, hp.extras⟩
    -- only a value behind the separator is taken together with it
    cases hl with
    | nil => exact .ok (.next hpassed .nil)
    | level hx hy hl => exact .ok (.next hpassed (.level hx hy hl))
    | cons a hl =>
        cases a with
        | value t => exact (hp.takeValue t).bind fun _ _ hq => .ok (.next hq hl)
        | option | stranger | separator => exact .ok (.next hpassed (.cons _ hl))

/-- **Every step is the same**, whatever the diagnostics are. -/
theorem sameStep_step : SameResult SameStep (step p l) (step p' l') := by
  cases hl with
  | nil =>
      simp only [step, hp.extras]
      split
      · exact .ok (.done (.run hp.arguments))
      · exact .error _
  | @level l l' spelling x y hx hy hl =>
      rw [step_level hx, step_level hy]
      obtain ⟨verbose, level, harguments, -⟩ := hp.arguments
      refine .ok (.next ⟨⟨verbose, some y, ?_, rfl⟩, hp.filePassed, hp.extras⟩ hl)
      rw [harguments]
  | cons a hl =>
      cases a with
      | value t =>
          refine (hp.takeValue t).bind fun q q' hq => .ok (.next hq ?_)
          rw [hp.filePassed]
          split
          · exact hl
          · exact hl.skipSeparator
      | stranger t => exact .ok (.next (hp.withExtra t) hl)
      | separator => exact sameStep_separatorStep hp hl
      | option o spelling attached => exact sameStep_optionStep hp hl o spelling attached

end WholeSteps

/-! ## Whole command lines -/

/-- **The reader goes through the arguments in the same steps**, whatever
the diagnostics are. -/
theorem sameRequest_requestFrom (fuel : Nat) {p p' : Progress} {l l' : List Argument}
    (hp : SameProgress p p') (hl : SameButLevel l l') :
    SameResult SameRequest (requestFrom fuel p l) (requestFrom fuel p' l') := by
  induction fuel generalizing p p' l l' with
  | zero => exact .ok (.run hp.arguments)
  | succ fuel ih =>
      refine (sameStep_step hp hl).bind fun s s' hstep => ?_
      cases hstep with
      | done h => exact .ok h
      | next hp hl => exact ih hp hl

section Lengths

variable {p q : Progress} {o : Opt} {l rest : List Argument}

theorem length_of_nextValue {value : Text} (h : nextValue o l = .ok (value, rest)) :
    rest.length < l.length := by
  cases l with
  | nil => cases h
  | cons a l =>
      cases a with
      | value t =>
          cases h
          exact Nat.lt_succ_self _
      | option | stranger | separator => cases h

theorem length_skipSeparator_le (l : List Argument) : (skipSeparator l).length ≤ l.length := by
  fun_cases skipSeparator l with
  | case1 rest => exact Nat.le_succ _
  | case2 => exact Nat.le_refl _

/-- A step that sets something goes on behind it. -/
theorem rest_of_bind {α : Type} {x : Except UsageFault α} {f : α → Progress}
    (h : (do return Step.next (f (← x)) l) = Except.ok (Step.next q rest)) : rest = l := by
  cases x with
  | error fault => cases h
  | ok a =>
      cases h
      rfl

theorem length_of_optionStep {spelling : Text} {attached : Attached}
    (h : optionStep p o spelling attached l = .ok (.next q rest)) : rest.length ≤ l.length := by
  unfold optionStep at h
  split at h
  · cases hnext : nextValue o l with
    | error fault =>
        rw [hnext] at h
        cases h
    | ok r =>
        rw [hnext] at h
        rw [rest_of_bind h]
        exact Nat.le_of_lt (length_of_nextValue hnext)
  · exact Nat.le_of_eq (congrArg _ (rest_of_bind h))
  · exact Nat.le_of_eq (congrArg _ (rest_of_bind h))
  · rw [flagStep] at h
    split at h
    · cases h
    · exact Nat.le_of_eq (congrArg _ (rest_of_bind h))
  -- behind a value that is ignored or letters for help nothing is left to do
  all_goals
    rename_i value _
    split at h
    · cases hhelp : helpWith l value <;> rw [hhelp] at h <;> cases h
    · cases h

theorem length_of_separatorStep (h : separatorStep p l = .ok (.next q rest)) :
    rest.length ≤ l.length := by
  unfold separatorStep at h
  split at h
  · cases h
    exact Nat.le_refl _
  · split at h
    · rw [rest_of_bind h]
      exact Nat.le_succ _
    · cases h
      exact Nat.le_refl _

/-- **Every step takes an argument.** -/
theorem length_of_step (h : step p l = .ok (.next q rest)) : rest.length < l.length := by
  cases l with
  | nil =>
      rw [step] at h
      split at h <;> cases h
  | cons a l =>
      refine Nat.lt_succ_of_le ?_
      cases a with
      | value t =>
          rw [rest_of_bind h]
          split
          · exact Nat.le_refl _
          · exact length_skipSeparator_le l
      | stranger t =>
          cases h
          exact Nat.le_refl _
      | separator => exact length_of_separatorStep h
      | option o spelling attached => exact length_of_optionStep h

end Lengths

/-- Fuel for all arguments is enough. -/
theorem requestFrom_succ (fuel : Nat) (p : Progress) {l : List Argument} (h : l.length < fuel) :
    requestFrom (fuel + 1) p l = requestFrom fuel p l := by
  induction fuel generalizing p l with
  | zero => exact absurd h (Nat.not_lt_zero _)
  | succ fuel ih =>
      rw [requestFrom, requestFrom]
      cases hstep : step p l with
      | error fault => rfl
      | ok s =>
          cases s with
          | done r => rfl
          | next q rest =>
              exact ih q (Nat.lt_of_lt_of_le (length_of_step hstep) (Nat.le_of_lt_succ h))

/-- What a command line with another level comes to in the end. -/
theorem sameRequest_of_classifyArgs {args args' : List Text}
    (h : SameResult SameButLevel (classifyArgs args) (classifyArgs args')) :
    SameResult SameRequest (request args) (request args') := by
  refine h.bind fun l l' hl => ?_
  rw [hl.length_eq]
  exact sameRequest_requestFrom _ ⟨.refl _, rfl, rfl⟩ hl

/-- The option for the level, as spelled in full. -/
def levelOption : Text := "--log-level".toList

/-- The option for what is shown of a conversion, as spelled in full. -/
def verboseOption : Text := "--verbose".toList

theorem classifyArgs_cons {t : Text} {a : Argument} (hmark : t ≠ separatorMark)
    (h : classifyArg t = .ok a) (args : List Text) :
    classifyArgs (t :: args) = (do return a :: (← classifyArgs args)) := by
  rw [classifyArgs, if_neg hmark, h]
  rfl

theorem classifyArg_level : ∀ level ∈ levels,
    level ≠ separatorMark ∧ classifyArg level = .ok (.value level) := by
  have hall : ∀ level ∈ levels, level ≠ separatorMark ∧ optOf? level = none ∧
      level.head? ≠ some '-' := by decide
  intro level hlevel
  obtain ⟨hmark, hnone, hdash⟩ := hall level hlevel
  refine ⟨hmark, ?_⟩
  rw [classifyArg.eq_def, hnone]
  split
  · rename_i heq
    cases heq
  · exact absurd rfl hdash
  · rfl

theorem classifyArg_of_optOf? {t : Text} {o : Opt} (h : optOf? t = some o) :
    classifyArg t = .ok (.option o t .none) := by
  rw [classifyArg.eq_def, h]

theorem classifyArgs_level {level : Text} (h : level ∈ levels) (args : List Text) :
    classifyArgs (levelOption :: level :: args) = (do
      return .option .logLevel levelOption .none :: .value level :: (← classifyArgs args)) := by
  obtain ⟨hmark, hvalue⟩ := classifyArg_level level h
  have hoption : classifyArg levelOption = .ok (.option .logLevel levelOption .none) :=
    classifyArg_of_optOf? (by decide)
  rw [classifyArgs_cons (by decide) hoption, classifyArgs_cons hmark hvalue]
  cases classifyArgs args <;> rfl

/-- Another level in its place changes only its value. -/
theorem classifyArgs_changeLevel {before after : List Text} {x y : Text}
    (hx : x ∈ levels) (hy : y ∈ levels) (hbefore : separatorMark ∉ before) :
    SameResult SameButLevel (classifyArgs (before ++ levelOption :: x :: after))
      (classifyArgs (before ++ levelOption :: y :: after)) := by
  induction before with
  | nil =>
      rw [List.nil_append, List.nil_append, classifyArgs_level hx, classifyArgs_level hy]
      cases classifyArgs after with
      | error fault => exact .error fault
      | ok l => exact .ok (.level hx hy (.refl l))
  | cons t before ih =>
      rw [List.mem_cons, not_or] at hbefore
      rw [List.cons_append, List.cons_append, classifyArgs, classifyArgs,
        if_neg (Ne.symm hbefore.1), if_neg (Ne.symm hbefore.1)]
      cases classifyArg t with
      | error fault => exact .error fault
      | ok a => exact (ih hbefore.2).bind fun l l' hl => .ok (.cons a hl)

theorem exists_of_sameRequest {args args' : List Text} {a : Arguments}
    (h : SameResult SameRequest (request args) (request args')) (ha : request args = .ok (.run a)) :
    ∃ a', request args' = .ok (.run a') ∧ SameButDiagnostics a a' := by
  rw [ha] at h
  generalize request args' = r at h
  cases h with
  | ok h =>
      cases h with
      | run h => exact ⟨_, rfl, h⟩

/-- **Another level asks for the same otherwise.** -/
theorem request_changeLevel {before after : List Text} {x y : Text} {a : Arguments}
    (hx : x ∈ levels) (hy : y ∈ levels) (hbefore : separatorMark ∉ before)
    (ha : request (before ++ levelOption :: x :: after) = .ok (.run a)) :
    ∃ a', request (before ++ levelOption :: y :: after) = .ok (.run a') ∧
      SameButDiagnostics a a' :=
  exists_of_sameRequest (sameRequest_of_classifyArgs (classifyArgs_changeLevel hx hy hbefore)) ha

/-- **A level in front asks for the same otherwise.** A later one wins. -/
theorem request_addLevel {args : List Text} {level : Text} {a : Arguments} (h : level ∈ levels)
    (ha : request args = .ok (.run a)) :
    ∃ a', request (levelOption :: level :: args) = .ok (.run a') ∧ SameButDiagnostics a a' := by
  refine exists_of_sameRequest ?_ ha
  rw [request, request, classifyArgs_level h]
  cases classifyArgs args with
  | error fault => exact .error fault
  | ok l =>
      -- the option and its value are two arguments but one step
      show SameResult SameRequest (requestFrom (l.length + 1) {} l)
        (requestFrom (l.length + 3) {} (.option .logLevel levelOption .none :: .value level :: l))
      have hstep : requestFrom (l.length + 3) {}
          (.option .logLevel levelOption .none :: .value level :: l)
            = requestFrom (l.length + 2) { arguments := { logLevel := some level } } l := by
        rw [requestFrom, step_level h]
        rfl
      rw [hstep, requestFrom_succ _ _ (Nat.lt_succ_self _)]
      exact sameRequest_requestFrom _ ⟨⟨false, some level, rfl, rfl⟩, rfl, rfl⟩ (.refl l)

/-- **Showing what was done asks for the same otherwise.** -/
theorem request_addVerbose {args : List Text} {a : Arguments} (ha : request args = .ok (.run a)) :
    ∃ a', request (verboseOption :: args) = .ok (.run a') ∧ SameButDiagnostics a a' := by
  refine exists_of_sameRequest ?_ ha
  have hoption : classifyArg verboseOption = .ok (.option .verbose verboseOption .none) :=
    classifyArg_of_optOf? (by decide)
  rw [request, request, classifyArgs_cons (by decide) hoption]
  cases classifyArgs args with
  | error fault => exact .error fault
  | ok l => exact sameRequest_requestFrom _ ⟨⟨true, some _, rfl, rfl⟩, rfl, rfl⟩ (.refl l)

end WireTypes.CommandLine
