import WireTypes.CommandLine.Run
import WireTypes.Proofs.CommandLine.Diagnostics
import WireTypes.Proofs.Files.Writing

/-!
# Command line — What a run leaves behind

A run that converts goes through four stages: the settings are loaded, the
input is read, the text is converted and the result is put out. `Converts`
says that the first three go well, `Completes` that all of them do, and
`Ends` lists how a run can end: it failed and left nothing but a message and
perhaps the beginning of its result in the output file, it printed the
result, or it saved the result in one file (`ends_of_perform`). The
diagnostic settings change the messages only
(`perform_sameButDiagnostics`).
-/

namespace WireTypes.CommandLine

open Text

variable {device : Device} {fs fs' : Files} {a a' : Arguments} {stdin t : Text} {s : Settings}
  {c : Conversion} {o : Outcome} {args : List Text}

/-! ## The stages of a run -/

/-- The text to convert: that of the file that is named, or standard input. -/
def InputIs (fs : Files) (a : Arguments) (stdin t : Text) : Prop :=
  (given a.file = none ∧ t = unifyNewlines stdin) ∨
    ∃ file content, given a.file = some file ∧
      fs.read (Path.ofText file) = .ok (.text content) ∧ t = unifyNewlines content

/-- A run comes to a result: the settings are loaded, the input is read, and
the text is converted and not rejected. -/
structure Converts (fs : Files) (a : Arguments) (stdin : Text) (s : Settings) (t : Text)
    (c : Conversion) : Prop where
  settings : Settings.load fs (.object (overrides a)) ((given a.config).map Path.ofText) = .ok s
  input : InputIs fs a stdin t
  converted : Conversion.ofText fs s t = .ok c
  accepted : c.rejection? = none

/-- What is saved of a result. -/
def savedText (c : Conversion) : Text := c.result ++ ['\n']

/-- All stages of a run go well: it comes to a result, and all of it can be
written where it should be. -/
structure Completes (device : Device) (fs : Files) (a : Arguments) (stdin : Text) (s : Settings)
    (t : Text) (c : Conversion) : Prop extends Converts fs a stdin s t c where
  taken : ∀ name, given a.output = some name → fs.Takes device (Path.ofText name) (savedText c)

theorem settings_eq_ok_iff : settings fs a = .ok (.ok s) ↔
    Settings.load fs (.object (overrides a)) ((given a.config).map Path.ofText) = .ok s := by
  rw [settings]
  split
  · rename_i s' hload
    rw [hload]
    simp
  · rename_i cause hload
    rw [hload]
    split <;> simp

theorem input_eq_ok_iff : input fs a stdin = .ok (.ok t) ↔ InputIs fs a stdin t := by
  rw [input, InputIs]
  cases hfile : given a.file with
  | none => simp [eq_comm]
  | some file =>
      simp only [reduceCtorEq, false_and, false_or, Option.some.injEq, exists_and_left,
        exists_eq_left']
      -- a file that is read is there
      have hpresent : ∀ content, fs.read (Path.ofText file) = .ok content →
          fs.present (Path.ofText file) = .ok true := by
        intro content hread
        rw [Files.read] at hread
        cases hentry : fs.entry (Path.ofText file) with
        | error cause =>
            rw [hentry] at hread
            cases hread
        | ok e =>
            rw [Files.present, Files.look, hentry]
            rfl
      cases hthere : fs.present (Path.ofText file) with
      | error cause =>
          simp only [reduceCtorEq, false_iff]
          rintro ⟨content, hread, -⟩
          rw [hpresent _ hread] at hthere
          cases hthere
      | ok found =>
          cases found with
          | false =>
              simp only [Except.ok.injEq, reduceCtorEq, false_iff]
              rintro ⟨content, hread, -⟩
              rw [hpresent _ hread] at hthere
              cases hthere
          | true =>
              cases hread : fs.read (Path.ofText file) with
              | error cause => simp
              | ok content => cases content <;> simp [eq_comm]

/-- The stages come to one result only. -/
theorem eq_of_converts {s' : Settings} {t' : Text} {c' : Conversion}
    (h : Converts fs a stdin s t c) (hs : settings fs a = .ok (.ok s'))
    (ht : input fs a stdin = .ok (.ok t')) (hc : Conversion.ofText fs s' t' = .ok c') : c' = c := by
  rw [settings_eq_ok_iff.mpr h.settings] at hs
  cases hs
  rw [input_eq_ok_iff.mpr h.input] at ht
  cases ht
  rw [h.converted] at hc
  cases hc
  rfl

theorem Converts.unique {s' : Settings} {t' : Text} {c' : Conversion}
    (h : Converts fs a stdin s t c) (h' : Converts fs a stdin s' t' c') : c' = c :=
  eq_of_converts h (settings_eq_ok_iff.mpr h'.settings) (input_eq_ok_iff.mpr h'.input) h'.converted

/-! ## How a run ends -/

/-- What is printed of a result. -/
def printed (a : Arguments) (c : Conversion) : Text :=
  if a.pretty then Display.code c.result else c.result ++ ['\n']

/-- How the result of a conversion is put out. -/
inductive Put (device : Device) (fs : Files) (a : Arguments) (c : Conversion) : Outcome → Prop where
  | notSaved {name stderr : Text} {fs' : Files} (output : given a.output = some name)
    (untaken : ¬ fs.Takes device (Path.ofText name) (savedText c))
    (left : fs' = fs ∨ fs.CutAt device (Path.ofText name) (savedText c) fs') :
    Put device fs a c { exitCode := 1, stderr := stderr, files := fs' }
  | saved {name stderr : Text} {fs' : Files} (output : given a.output = some name)
    (taken : fs.Takes device (Path.ofText name) (savedText c))
    (written : fs.WrittenAt fs' (Path.ofText name) (.text (savedText c))) :
    Put device fs a c { exitCode := 0, stderr := stderr, files := fs' }
  | printed {stderr : Text} (output : given a.output = none) :
    Put device fs a c { exitCode := 0, stdout := printed a c, stderr := stderr, files := fs }

theorem put_of_putOut {said : Text} (h : putOut device fs a said c = .ok o) :
    Put device fs a c o := by
  unfold putOut at h
  cases houtput : given a.output with
  | none =>
      simp only [houtput, bind, Except.bind, pure, Except.pure] at h
      split at h
      · cases h
      · cases h
        exact .printed houtput
  | some name =>
      simp only [houtput, bind, Except.bind, pure, Except.pure] at h
      rcases Files.writeOn_cases device fs (Path.ofText name) (savedText c) with
        ⟨htaken, fs', hwrite, hwritten⟩ | ⟨huntaken, fs', fault, hwrite, hleft⟩
      · rw [savedText] at hwrite
        rw [hwrite] at h
        dsimp only at h
        split at h
        · cases h
        · split at h
          · cases h
          · cases h
            exact .saved houtput htaken hwritten
      · rw [savedText] at hwrite
        rw [hwrite] at h
        split at h
        · cases h
        · rename_i heq
          cases heq
          split at h
          · cases h
          · cases h
            exact .notSaved houtput huntaken hleft
        · rename_i heq
          cases heq

/-- How a run that converts ends. -/
inductive Ends (device : Device) (fs : Files) (a : Arguments) (stdin : Text) : Outcome → Prop where
  | failed {stderr : Text} (incomplete : ∀ s t c, ¬ Completes device fs a stdin s t c) :
    Ends device fs a stdin { exitCode := 1, stderr := stderr, files := fs }
  | cut {s : Settings} {t name stderr : Text} {c : Conversion} {fs' : Files}
    (incomplete : ∀ s t c, ¬ Completes device fs a stdin s t c)
    (converts : Converts fs a stdin s t c) (output : given a.output = some name)
    (left : fs.CutAt device (Path.ofText name) (savedText c) fs') :
    Ends device fs a stdin { exitCode := 1, stderr := stderr, files := fs' }
  | saved {s : Settings} {t name stderr : Text} {c : Conversion} {fs' : Files}
    (complete : Completes device fs a stdin s t c) (output : given a.output = some name)
    (written : fs.WrittenAt fs' (Path.ofText name) (.text (savedText c))) :
    Ends device fs a stdin { exitCode := 0, stderr := stderr, files := fs' }
  | printed {s : Settings} {t stderr : Text} {c : Conversion}
    (complete : Completes device fs a stdin s t c) (output : given a.output = none) :
    Ends device fs a stdin
      { exitCode := 0, stdout := printed a c, stderr := stderr, files := fs }

theorem ends_of_refuse {fault : InputFault} (hincomplete : ∀ s t c, ¬ Converts fs a stdin s t c)
    (h : (refuse fs fault).result = .ok o) : Ends device fs a stdin o := by
  unfold refuse at h
  split at h
  · cases h
  · cases h
    exact .failed fun s t c hcompletes => hincomplete s t c hcompletes.toConverts

/-- A conversion that was accepted ends as its result is put out. -/
theorem ends_of_put (hconverts : Converts fs a stdin s t c) (h : Put device fs a c o) :
    Ends device fs a stdin o := by
  cases h with
  | notSaved houtput huntaken hleft =>
      have hincomplete : ∀ s t c, ¬ Completes device fs a stdin s t c := by
        intro s' t' c' hcompletes
        cases hconverts.unique hcompletes.toConverts
        exact huntaken (hcompletes.taken _ houtput)
      rcases hleft with rfl | hcut
      · exact .failed hincomplete
      · exact .cut hincomplete hconverts houtput hcut
  | saved houtput htaken hwritten =>
      refine .saved ⟨hconverts, fun name hname => ?_⟩ houtput hwritten
      rw [houtput] at hname
      cases hname
      exact htaken
  | printed houtput =>
      refine .printed ⟨hconverts, fun name hname => ?_⟩ houtput
      rw [houtput] at hname
      cases hname

/-- A conversion ends by its answer: a message for a text that was
rejected, and otherwise its result. -/
theorem ends_of_answer (hs : settings fs a = .ok (.ok s)) (ht : input fs a stdin = .ok (.ok t))
    (hc : Conversion.ofText fs s t = .ok c) (h : answer device fs a c = .ok o) :
    Ends device fs a stdin o := by
  have hconverts : c.rejection? = none → Converts fs a stdin s t c := fun haccepted =>
    ⟨settings_eq_ok_iff.mp hs, input_eq_ok_iff.mp ht, hc, haccepted⟩
  cases c with
  | rejected cause =>
      have hincomplete : ∀ s' t' c', ¬ Completes device fs a stdin s' t' c' := by
        intro s' t' c' hcompletes
        have haccepted := hcompletes.accepted
        rw [← eq_of_converts hcompletes.toConverts hs ht hc] at haccepted
        cases haccepted
      simp only [answer, bind, Except.bind, pure, Except.pure] at h
      split at h
      · cases h
      · cases h
        exact .failed hincomplete
  | tagged result names =>
      simp only [answer, bind, Except.bind] at h
      split at h
      · cases h
      · exact ends_of_put (hconverts rfl) (put_of_putOut h)
  | converted n d out => exact ends_of_put (hconverts rfl) (put_of_putOut h)

/-- **Every run that converts and comes to an end, ends in one of these
ways.** -/
theorem ends_of_perform (hlist : a.listNotations = false)
    (h : (perform device fs stdin a).result = .ok o) : Ends device fs a stdin o := by
  rw [perform, if_neg (by simp [hlist])] at h
  cases hsettings : settings fs a with
  | error crash =>
      rw [hsettings] at h
      cases h
  | ok loaded =>
      rw [hsettings] at h
      cases loaded with
      | error fault =>
          refine ends_of_refuse (fun s t c hconverts => ?_) h
          rw [settings_eq_ok_iff.mpr hconverts.settings] at hsettings
          cases hsettings
      | ok s =>
          cases hinput : input fs a stdin with
          | error crash =>
              rw [hinput] at h
              cases h
          | ok found =>
              rw [hinput] at h
              cases found with
              | error fault =>
                  refine ends_of_refuse (fun s t c hconverts => ?_) h
                  rw [input_eq_ok_iff.mpr hconverts.input] at hinput
                  cases hinput
              | ok t =>
                  simp only [convert] at h
                  split at h
                  · cases h
                  · rename_i hc
                    exact ends_of_answer hsettings hinput hc h

/-! ## Diagnostics -/

/-- Two outcomes that are the same but for what is said on standard error. -/
structure SameButMessages (o o' : Outcome) : Prop where
  exitCode : o'.exitCode = o.exitCode
  stdout : o'.stdout = o.stdout
  files : o'.files = o.files

theorem SameButMessages.refl (o : Outcome) : SameButMessages o o := ⟨rfl, rfl, rfl⟩

/-- What is shown beside a result does not change where the result goes. -/
theorem putOut_sameButDiagnostics {said : Text} (h : SameButDiagnostics a a')
    (ho : putOut device fs a said c = .ok o) :
    ∃ o', putOut device fs a' said c = .ok o' ∧ SameButMessages o o' := by
  obtain ⟨verbose, level, rfl, -⟩ := h
  unfold putOut at ho ⊢
  cases houtput : given a.output with
  | none =>
      simp only [houtput, bind, Except.bind, pure, Except.pure] at ho ⊢
      cases hwarnings : warningText c.warnings with
      | error crash => simp [hwarnings] at ho
      | ok shown =>
          simp only [hwarnings] at ho ⊢
          cases ho
          exact ⟨_, rfl, rfl, rfl, rfl⟩
  | some name =>
      simp only [houtput, bind, Except.bind, pure, Except.pure] at ho ⊢
      split at ho
      · cases ho
      · split at ho
        · cases ho
        · cases ho
          exact ⟨_, rfl, .refl _⟩
      · split at ho
        · cases ho
        · cases hwarnings : warningText c.warnings with
          | error crash => simp [hwarnings] at ho
          | ok shown =>
              simp only [hwarnings] at ho ⊢
              cases ho
              exact ⟨_, rfl, rfl, rfl, rfl⟩

/-- **The diagnostics change the messages of a run only.** -/
theorem perform_sameButDiagnostics (h : SameButDiagnostics a a')
    (ho : (perform device fs stdin a).result = .ok o) :
    ∃ o', (perform device fs stdin a').result = .ok o' ∧ SameButMessages o o' := by
  have hput : ∀ {said c}, putOut device fs a said c = .ok o →
      ∃ o', putOut device fs a' said c = .ok o' ∧ SameButMessages o o' :=
    putOut_sameButDiagnostics h
  have hanswer : ∀ {c}, answer device fs a c = .ok o →
      ∃ o', answer device fs a' c = .ok o' ∧ SameButMessages o o' := by
    intro c ho
    cases c with
    | rejected cause => exact ⟨o, ho, .refl o⟩
    | converted n d out => exact hput ho
    | tagged result names =>
        simp only [answer, bind, Except.bind] at ho ⊢
        cases hsaid : say taggedNote with
        | error crash => simp [hsaid] at ho
        | ok said =>
            simp only [hsaid] at ho ⊢
            exact hput ho
  obtain ⟨verbose, level, rfl, -⟩ := h
  -- settings and input are found without a look at the diagnostics
  have hsettings :
      settings fs { a with verbose := verbose, logLevel := level } = settings fs a := rfl
  have hinput :
      input fs { a with verbose := verbose, logLevel := level } stdin = input fs a stdin := rfl
  rw [perform] at ho ⊢
  rw [hsettings, hinput]
  split at ho
  · rename_i hlist
    rw [if_pos hlist]
    exact ⟨o, ho, .refl o⟩
  · rename_i hlist
    rw [if_neg hlist]
    split at ho
    · cases ho
    · exact ⟨o, ho, .refl o⟩
    · split at ho
      · cases ho
      · exact ⟨o, ho, .refl o⟩
      · simp only [convert] at ho ⊢
        split at ho
        · cases ho
        · exact hanswer ho

/-! ## The whole command line -/

/-- What is seen of a result is seen of a run that came to it. -/
theorem exists_of_seen {α β ε : Type} {x : Except ε α} {f : α → β} {b : β}
    (h : x.toOption.map f = some b) : ∃ r, x = .ok r ∧ f r = b := by
  cases x with
  | error cause => cases h
  | ok r => exact ⟨r, rfl, Option.some.inj h⟩

theorem runOn_eq (hrequest : request args = .ok (.run a)) (hlevel : a.logLevel.isSome = true) :
    (runOn device fs args stdin).result = (perform device fs stdin a).result := by
  obtain ⟨level, hlevel⟩ := Option.isSome_iff_exists.mp hlevel
  simp only [runOn, hrequest, hlevel]

theorem isSome_of_runOn (hrequest : request args = .ok (.run a))
    (h : (runOn device fs args stdin).result = .ok o) : a.logLevel.isSome = true := by
  simp only [runOn, hrequest] at h
  split at h
  · cases h
  · rename_i level hlevel
    rw [hlevel, Option.isSome_some]

/-- A run for the same but the diagnostics leaves the same behind. -/
theorem runOn_sameButDiagnostics {args' : List Text} (hrequest : request args = .ok (.run a))
    (h : (runOn device fs args stdin).result = .ok o)
    (hrequest' : ∃ a', request args' = .ok (.run a') ∧ SameButDiagnostics a a') :
    ∃ o', (runOn device fs args' stdin).result = .ok o' ∧ SameButMessages o o' := by
  obtain ⟨a', hrequest', hsame⟩ := hrequest'
  have hlevel := isSome_of_runOn hrequest h
  have hlevel' : a'.logLevel.isSome = true := by
    obtain ⟨verbose, level, rfl, hlevels⟩ := hsame
    rw [← hlevel, ← hlevels]
  rw [runOn_eq hrequest hlevel] at h
  rw [runOn_eq hrequest' hlevel']
  exact perform_sameButDiagnostics hsame h

/-- What holds of a run that converts and comes to an end. -/
structure Accounted (device : Device) (fs : Files) (args : List Text) (stdin : Text)
    (a : Arguments) (o : Outcome) : Prop where
  /-- It succeeds exactly when all stages go well. -/
  succeeds_iff : o.exitCode = 0 ↔ ∃ s t c, Completes device fs a stdin s t c
  /-- A failed run leaves no output. It changes no file, unless the device
  breaks off the result behind a beginning that is left in the output file. -/
  failed : o.exitCode ≠ 0 → o.exitCode = 1 ∧ o.stdout = [] ∧
    (o.files = fs ∨ ∃ s t c name, Converts fs a stdin s t c ∧ given a.output = some name ∧
      fs.CutAt device (Path.ofText name) (c.result ++ ['\n']) o.files)
  /-- With a file for the output the result is saved there, and nothing else happens. -/
  saved : ∀ s t c, Completes device fs a stdin s t c → ∀ name, given a.output = some name →
    o.stdout = [] ∧ fs.WrittenAt o.files (Path.ofText name) (.text (c.result ++ ['\n']))
  /-- Without one no file is changed, and a plain result is printed as it is. -/
  printed : ∀ s t c, Completes device fs a stdin s t c → given a.output = none →
    o.files = fs ∧ (a.pretty = false → o.stdout = c.result ++ ['\n'])
  /-- A command line for the same but the diagnostics leaves the same behind. -/
  diagnostics : ∀ args', (∃ a', request args' = .ok (.run a') ∧ SameButDiagnostics a a') →
    ∃ o', (runOn device fs args' stdin).result = .ok o' ∧ SameButMessages o o'
  /-- Such is the one that shows what was done, -/
  addVerbose : ∃ a', request (verboseOption :: args) = .ok (.run a') ∧ SameButDiagnostics a a'
  /-- the one with a level in front, -/
  addLevel : ∀ level ∈ levels,
    ∃ a', request (levelOption :: level :: args) = .ok (.run a') ∧ SameButDiagnostics a a'
  /-- and the one with another level in the place of its own. -/
  changeLevel : ∀ before after x y, args = before ++ levelOption :: x :: after →
    separatorMark ∉ before → x ∈ levels → y ∈ levels →
    ∃ a', request (before ++ levelOption :: y :: after) = .ok (.run a') ∧ SameButDiagnostics a a'

/-- **A run writes converted code only, and all of it on success only.** This
holds of every command line that asks for a conversion, whatever the device,
the files and the standard input are, if the run comes to an end. -/
theorem run_outcome (device : Device) (fs : Files) (args : List Text) (stdin : Text)
    (a : Arguments) (o : Outcome) (hrequest : request args = .ok (.run a))
    (hlist : a.listNotations = false) (hrun : (runOn device fs args stdin).result = .ok o) :
    Accounted device fs args stdin a o := by
  have hends : Ends device fs a stdin o := by
    rw [runOn_eq hrequest (isSome_of_runOn hrequest hrun)] at hrun
    exact ends_of_perform hlist hrun
  constructor
  case succeeds_iff =>
    cases hends with
    | failed incomplete | cut incomplete => simpa using incomplete
    | saved complete => exact ⟨fun _ => ⟨_, _, _, complete⟩, fun _ => rfl⟩
    | printed complete => exact ⟨fun _ => ⟨_, _, _, complete⟩, fun _ => rfl⟩
  case failed =>
    intro hcode
    cases hends with
    | failed => exact ⟨rfl, rfl, .inl rfl⟩
    | cut incomplete converts output left =>
        exact ⟨rfl, rfl, .inr ⟨_, _, _, _, converts, output, left⟩⟩
    | saved | printed => exact absurd rfl hcode
  case saved =>
    intro s t c hcompletes name hname
    cases hends with
    | failed incomplete | cut incomplete => exact absurd hcompletes (incomplete s t c)
    | saved complete output written =>
        rw [hname] at output
        cases output
        cases hcompletes.unique complete.toConverts
        exact ⟨rfl, written⟩
    | printed complete output =>
        rw [hname] at output
        cases output
  case printed =>
    intro s t c hcompletes hnone
    cases hends with
    | failed incomplete | cut incomplete => exact absurd hcompletes (incomplete s t c)
    | saved complete output written =>
        rw [hnone] at output
        cases output
    | printed complete output =>
        cases hcompletes.unique complete.toConverts
        refine ⟨rfl, fun hplain => ?_⟩
        rw [CommandLine.printed, hplain]
        rfl
  case diagnostics => exact fun args' => runOn_sameButDiagnostics hrequest hrun
  case addVerbose => exact request_addVerbose hrequest
  case addLevel => exact fun level hlevel => request_addLevel hlevel hrequest
  case changeLevel =>
    rintro before after x y rfl hbefore hx hy
    exact request_changeLevel hx hy hbefore hrequest

/-- A struct whose field misses its tag. -/
def crate : Text := "type Crate struct \x7b\n\tWeight int\n\x7d".toList

/-- A command line that saves the result and asks for few events. -/
def crateArgs : List Text :=
  ["-o".toList, "crate.go".toList, levelOption, "ERROR".toList]

/-- What it asks for. -/
def crateArguments : Arguments :=
  { output := some "crate.go".toList, logLevel := some "ERROR".toList }

/-- A device without space: it opens files and takes nothing. -/
def fullDevice : Device := fun _ _ => .cut 0 .full

theorem request_crateArgs : request crateArgs = .ok (.run crateArguments) := by rfl

/-- On the full device the run fails and leaves a file. -/
theorem runOn_fullDevice_crate : ∃ o, (runOn fullDevice [] crateArgs crate).result = .ok o ∧
    o.exitCode = 1 ∧ o.files.isEmpty = false := by
  have hseen : (runOn fullDevice [] crateArgs crate).result.toOption.map
      (fun o => (o.exitCode, o.files.isEmpty)) = some (1, false) := by decide +kernel
  obtain ⟨o, hrun, hseen⟩ := exists_of_seen hseen
  exact ⟨o, hrun, Prod.mk.inj hseen⟩

/-- One run on a device that takes the result, and one on a full device. -/
theorem run_outcome_crate :
    request crateArgs = .ok (.run crateArguments) ∧ crateArguments.listNotations = false ∧
    (∃ o, (runOn .sound [] crateArgs crate).result = .ok o ∧ o.exitCode = 0 ∧
      Accounted .sound [] crateArgs crate crateArguments o) ∧
    ∃ o, (runOn fullDevice [] crateArgs crate).result = .ok o ∧ o.exitCode = 1 ∧
      Accounted fullDevice [] crateArgs crate crateArguments o := by
  have hseen : (runOn .sound [] crateArgs crate).result.toOption.map Outcome.exitCode = some 0 := by
    decide +kernel
  obtain ⟨o, hrun, hzero⟩ := exists_of_seen hseen
  obtain ⟨o', hrun', hone, -⟩ := runOn_fullDevice_crate
  exact ⟨request_crateArgs, rfl,
    ⟨o, hrun, hzero, run_outcome _ _ _ _ _ o request_crateArgs rfl hrun⟩,
    o', hrun', hone, run_outcome _ _ _ _ _ o' request_crateArgs rfl hrun'⟩

/-- The option for the output can come with an empty value: the run then
succeeds, as without the option, and prints the result. And a run that
fails because the device is full has created its output file. -/
theorem not_stdout_eq_nil_and_not_files_eq :
    (¬ ∀ (fs : Files) (args : List Text) (stdin : Text) (a : Arguments) (o : Outcome),
      request args = .ok (.run a) → a.listNotations = false → (run fs args stdin).result = .ok o →
      a.output.isSome = true → o.exitCode = 0 → o.stdout = []) ∧
    ¬ ∀ (device : Device) (fs : Files) (args : List Text) (stdin : Text) (a : Arguments)
      (o : Outcome), request args = .ok (.run a) → a.listNotations = false →
      (runOn device fs args stdin).result = .ok o → o.exitCode = 1 → o.files = fs := by
  constructor
  · intro h
    have hseen : (run [] ["--output".toList, []] crate).result.toOption.map
        (fun o => (o.exitCode, o.stdout.isEmpty)) = some (0, false) := by decide +kernel
    obtain ⟨o, hrun, hseen⟩ := exists_of_seen hseen
    rw [Prod.mk.injEq] at hseen
    have hnil := h [] ["--output".toList, []] crate { output := some [] } o rfl rfl hrun rfl hseen.1
    rw [hnil] at hseen
    exact absurd hseen.2 (by decide)
  · intro h
    obtain ⟨o, hrun, hone, hleft⟩ := runOn_fullDevice_crate
    rw [h _ _ _ _ _ o request_crateArgs rfl hrun hone] at hleft
    cases hleft

end WireTypes.CommandLine
