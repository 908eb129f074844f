import WireTypes.Proofs.Settings.Members
import WireTypes.Settings.Store

/-!
# Settings — How loading ends

Settings that are loaded make sense. Loading can also fail, with a message
about the settings or without one: some of what loading relies on has faults
of its own that nobody turns into faults of the settings, and so has the
wording of the messages. `Escapes` lists these, and `load_outcome` says that
there are no others.
-/

namespace WireTypes

open Text

/-! ## Faults of lookups -/

namespace Files

variable {fs : Files} {p : Path} {cause : FileFault}

theorem look_eq_error (h : fs.look p = .error cause) : cause = .tooLong := by
  rw [look] at h
  split at h <;> cases h
  rfl

/-- Whatever is made of what is found, a fault comes from looking. -/
theorem bind_look_eq_error {α : Type} {f : Option FileEntry → α}
    (h : (fs.look p >>= fun found => pure (f found)) = .error cause) : cause = .tooLong := by
  cases hlook : fs.look p with
  | error found =>
      rw [hlook] at h
      cases h
      exact look_eq_error hlook
  | ok found =>
      rw [hlook] at h
      cases h

theorem present_eq_error (h : fs.present p = .error cause) : cause = .tooLong :=
  bind_look_eq_error h

theorem hasFolder_eq_error (h : fs.hasFolder p = .error cause) : cause = .tooLong :=
  bind_look_eq_error h

end Files

namespace Settings

/-! ## Members from all sources -/

/-- The members of the file, if there is one. -/
def fileMembers (fs : Files) : Option Path → Except Fault (Table Json)
  | some p => membersOfFile fs p
  | none => .ok []

/-- The defaults, below the members of a file, below overrides. -/
def given (ofFile overrides : Table Json) : Table Json :=
  ((fixedMembers {}).merge ofFile).merge overrides

/-- Checks settings that were made. -/
def checked (fs : Files) (s : Settings) : Except Fault Settings :=
  match s.check fs with
  | .error .unwordable => .error .longNumber
  | .error (.folder cause) => .error (.path cause)
  | .ok [] => .ok s
  | .ok ps => .error (.problems ps)

/-- Makes settings of members and checks them. -/
def made (fs : Files) (members : Table Json) : Except Fault Settings :=
  ((ofMembers (Entries.ofTable members)).mapError .entries).bind (checked fs)

/-- The flags can be shown, as every message about them does. -/
def FlagsShowable (s : Settings) : Prop :=
  s.tagCheck.isShowable = true ∧ s.exported.isShowable = true

/-- How loading ends without settings and without a message about them. -/
inductive Escapes (fs : Files) (overrides : Table Json) (file : Option Path) : Fault → Prop where
  /-- A name on the way to the file is too long. -/
  | lookup {p : Path} (hfile : file = some p) (h : fs.present p = .error .tooLong) :
    Escapes fs overrides file (.path .tooLong)
  /-- The file holds bytes that are no text. -/
  | bytes {p : Path} (hfile : file = some p) (hpresent : fs.present p = .ok true)
      (hname : lower p.extension = ".json".toList) (h : fs.read p = .ok .binary) :
    Escapes fs overrides file .undecodable
  /-- A whole number in the file is too long. -/
  | number {p : Path} {t : Text} {fault : Json.Fault} (hfile : file = some p)
      (hpresent : fs.present p = .ok true) (hname : lower p.extension = ".json".toList)
      (hread : fs.read p = .ok (.text t)) (htext : Json.ofText (unifyNewlines t) = .error fault)
      (h : fault.problem = .longNumber) :
    Escapes fs overrides file .longNumber
  /-- There are members without a meaning, and the custom settings that they
  should go to have no entries. -/
  | custom {ofFile : Table Json} {key : Text} {cause : Json.EntryFault}
      (hfile : fileMembers fs file = .ok ofFile) (hkey : key ∈ (given ofFile overrides).keys)
      (hother : key ∉ knownKeys)
      (h : ((given ofFile overrides).getD customKey (.object [])).entries = .error cause) :
    Escapes fs overrides file (.entries cause)
  /-- A flag or the folder of templates is of the wrong kind, and it holds a
  whole number that is too long to be shown. -/
  | unshown {ofFile : Table Json} {s : Settings}
      (hfile : fileMembers fs file = .ok ofFile)
      (hmade : ofMembers (Entries.ofTable (given ofFile overrides)) = .ok s)
      (h : ¬ (s.FlagsShowable ∧ s.templateFolder.isShowable = true)) :
    Escapes fs overrides file .longNumber
  /-- A name on the way to the folder of templates is too long. The flags are
  looked at first. -/
  | folder {ofFile : Table Json} {s : Settings} {t : Text}
      (hfile : fileMembers fs file = .ok ofFile)
      (hmade : ofMembers (Entries.ofTable (given ofFile overrides)) = .ok s)
      (hflags : s.FlagsShowable) (htext : s.templateFolder = .string t)
      (h : fs.hasFolder (Path.ofText t) = .error .tooLong) :
    Escapes fs overrides file (.path .tooLong)

variable {fs : Files} {file : Option Path} {p : Path} {t : Text} {s : Settings}
  {ofFile overrides members : Table Json} {value : Json} {fault : Fault} {cause : FileFault}

theorem nodup_given (ofFile overrides : Table Json) : (given ofFile overrides).keys.Nodup :=
  Table.nodup_keys_merge (Table.nodup_keys_merge (nodup_keys_fixedMembers {}))

theorem entriesIfSet_object (overrides : Table Json) :
    (Json.object overrides).entriesIfSet = .ok (Entries.ofTable overrides) := by
  cases overrides <;> rfl

/-- Loading reads the file, makes settings and checks them. -/
theorem load_eq (h : value.entriesIfSet = .ok (Entries.ofTable overrides)) :
    load fs value file =
      (fileMembers fs file).bind fun ofFile => made fs (given ofFile overrides) := by
  have hmerge : ∀ ofFile : Table Json,
      (Entries.ofTable (Table.merge (fixedMembers {}) ofFile)).merge (Entries.ofTable overrides)
        = Entries.ofTable (given ofFile overrides) := fun _ => Entries.merge_ofTable _ _
  unfold load
  cases file with
  | none =>
      simp only [h, bind, Except.bind, hmerge, fileMembers, made]
      cases ofMembers (Entries.ofTable (given [] overrides)) <;> rfl
  | some p =>
      simp only [h, bind, Except.bind, hmerge, fileMembers, made]
      cases membersOfFile fs p with
      | error fault => rfl
      | ok ofFile =>
          simp only
          cases ofMembers (Entries.ofTable (given ofFile overrides)) <;> rfl

/-! ## Where each step fails -/

/-- Of the faults of a text only a number that is too long has no message. -/
theorem membersOfText_eq_error (h : membersOfText p t = .error fault)
    (hmessage : fault.message? = none) : fault = .longNumber ∧
      ∃ found, Json.ofText (unifyNewlines t) = .error found ∧ found.problem = .longNumber := by
  rw [membersOfText] at h
  cases htext : Json.ofText (unifyNewlines t) with
  | ok value =>
      simp only [htext] at h
      split at h
      · cases h
      · cases h
        cases hmessage
      · contradiction
  | error found =>
      simp only [htext] at h
      split at h
      · rename_i hlong
        cases h
        exact ⟨rfl, found, rfl, hlong⟩
      · cases h
        cases hmessage

theorem membersOfText_of_longNumber {found : Json.Fault}
    (htext : Json.ofText (unifyNewlines t) = .error found) (h : found.problem = .longNumber) :
    membersOfText p t = .error .longNumber := by
  simp only [membersOfText, htext, h, if_true]

/-- A file that is there and has the right name is read. -/
theorem membersOfFile_eq (hpresent : fs.present p = .ok true)
    (hname : lower p.extension = ".json".toList) :
    membersOfFile fs p =
      match fs.read p with
      | .error cause => .error (.unreadable p cause)
      | .ok .binary => .error .undecodable
      | .ok (.text t) => membersOfText p t := by
  cases hread : fs.read p with
  | error cause => simp [membersOfFile, hpresent, hname, hread]
  | ok content => cases content <;> simp [membersOfFile, hpresent, hname, hread]

theorem membersOfFile_eq_error (h : membersOfFile fs p = .error fault)
    (hmessage : fault.message? = none) : Escapes fs overrides (some p) fault := by
  cases hpresent : fs.present p with
  | error cause =>
      obtain rfl := Files.present_eq_error hpresent
      simp only [membersOfFile, hpresent] at h
      cases h
      exact .lookup rfl hpresent
  | ok found =>
      cases found with
      | false =>
          simp only [membersOfFile, hpresent] at h
          cases h
          cases hmessage
      | true =>
          by_cases hname : lower p.extension = ".json".toList
          · rw [membersOfFile_eq hpresent hname] at h
            split at h
            · cases h
              cases hmessage
            · rename_i hread
              cases h
              exact .bytes rfl hpresent hname hread
            · rename_i t hread
              obtain ⟨rfl, found, htext, hlong⟩ := membersOfText_eq_error h hmessage
              exact .number rfl hpresent hname hread htext hlong
          · simp only [membersOfFile, hpresent, bne_iff_ne.mpr hname, if_true] at h
            cases h
            cases hmessage

theorem otherMembers_eq_nil_iff :
    otherMembers members = [] ↔ ∀ key ∈ members.keys, key ∈ knownKeys := by
  simp [otherMembers, Table.keys]

/-- Only custom settings without entries stand in the way of settings, and
only if members have to go behind them. -/
theorem ofMembers_eq_error_iff {cause : Json.EntryFault} (h : members.keys.Nodup) :
    ofMembers (Entries.ofTable members) = .error cause ↔
      (∃ key ∈ members.keys, key ∉ knownKeys) ∧
        (members.getD customKey (.object [])).entries = .error cause := by
  have hothers : otherMembers members ≠ [] ↔ ∃ key ∈ members.keys, key ∉ knownKeys := by
    rw [Ne, otherMembers_eq_nil_iff]
    simp
  rw [ofMembers_ofTable h, ← hothers]
  by_cases hnone : otherMembers members = []
  · simp [hnone]
  · rw [if_neg hnone]
    cases (members.getD customKey (.object [])).entries <;> simp [hnone, Except.map]

/-- Of what is checked only the folder is looked up. -/
theorem problems_eq_error_iff : s.problems fs = .error cause ↔
    ∃ t, s.templateFolder = .string t ∧ fs.hasFolder (Path.ofText t) = .error cause := by
  have hfolder : s.problems fs = .error cause ↔
      folderProblems fs templateFolderKey s.templateFolder = .error cause := by
    rw [problems]
    cases folderProblems fs templateFolderKey s.templateFolder <;>
      simp [bind, Except.bind, pure, Except.pure]
  rw [hfolder]
  cases hvalue : s.templateFolder with
  | string t =>
      rw [folderProblems]
      cases hfound : fs.hasFolder (Path.ofText t) <;>
        simp [bind, Except.bind, pure, Except.pure, hfound]
  | _ => simp [folderProblems]

/-! ### What can be put into words -/

theorem all_isWordable_boolProblems (key : Text) (value : Json) :
    (boolProblems key value).all (·.isWordable) = value.isShowable := by
  cases value with
  | bool b => rfl
  | _ => simp [boolProblems, Problem.isWordable]

theorem all_isWordable_folderProblems {key : Text} {ps : List Problem}
    (h : folderProblems fs key value = .ok ps) : ps.all (·.isWordable) = value.isShowable := by
  cases value with
  | null =>
      cases h
      rfl
  | string t =>
      rw [folderProblems] at h
      cases hfound : fs.hasFolder (Path.ofText t) with
      | error cause =>
          rw [hfound] at h
          cases h
      | ok found =>
          rw [hfound] at h
          cases found <;> cases h <;> rfl
  | _ =>
      cases h
      simp [Problem.isWordable]

/-- Problems with overrides name a key only. -/
theorem all_isWordable_overrideProblems (key : Text) (value : Json) :
    (overrideProblems key value).all (·.isWordable) = true := by
  cases value with
  | object members =>
      simp only [overrideProblems, List.all_eq_true, List.mem_filterMap]
      rintro problem ⟨member, -, hmember⟩
      split at hmember
      · cases hmember
      · cases hmember
        rfl
  | _ => rfl

theorem all_isWordable_flagProblems :
    s.flagProblems.all (·.isWordable) = true ↔ s.FlagsShowable := by
  rw [flagProblems, List.all_append, all_isWordable_boolProblems, all_isWordable_boolProblems,
    Bool.and_eq_true, FlagsShowable]

/-- All problems can be put into words if what they show can be shown. -/
theorem all_isWordable_problems {ps : List Problem} (h : s.problems fs = .ok ps) :
    ps.all (·.isWordable) = true ↔ s.FlagsShowable ∧ s.templateFolder.isShowable = true := by
  rw [problems] at h
  cases hfolder : folderProblems fs templateFolderKey s.templateFolder with
  | error cause =>
      rw [hfolder] at h
      cases h
  | ok found =>
      rw [hfolder] at h
      cases h
      rw [List.all_append, List.all_append, List.all_append, all_isWordable_overrideProblems,
        all_isWordable_overrideProblems, Bool.and_true, Bool.and_true, Bool.and_eq_true,
        all_isWordable_flagProblems, all_isWordable_folderProblems hfolder]

/-! ### Checks -/

/-- Where nothing is wrong nothing has to be put into words. -/
theorem check_eq_ok_nil_iff : s.check fs = .ok [] ↔ s.problems fs = .ok [] := by
  rw [check]
  cases hproblems : s.problems fs with
  | error cause => split <;> simp
  | ok ps =>
      cases ps with
      | nil =>
          have hflags := ((all_isWordable_problems hproblems).mp rfl).1
          rw [if_pos (all_isWordable_flagProblems.mpr hflags)]
          simp
      | cons p ps =>
          simp only [Except.ok.injEq, reduceCtorEq, iff_false]
          split
          · split <;> simp
          · simp

/-- The folder is looked up if the flags can be shown. -/
theorem check_eq_folder_iff : s.check fs = .error (.folder cause) ↔
    s.FlagsShowable ∧ s.problems fs = .error cause := by
  rw [check]
  split
  · rename_i hflags
    cases s.problems fs with
    | error found => simp [all_isWordable_flagProblems.mp hflags]
    | ok ps =>
        dsimp only
        split <;> simp
  · rename_i hflags
    simp [mt all_isWordable_flagProblems.mpr hflags]

/-- A value that cannot be shown is of the wrong kind for each setting whose
value is shown, so its problem has to be put into words. -/
theorem check_eq_unwordable_iff : s.check fs = .error .unwordable ↔
    ¬ (s.FlagsShowable ∧ s.templateFolder.isShowable = true) := by
  rw [check]
  split
  · rename_i hflags
    cases hproblems : s.problems fs with
    | error cause =>
        obtain ⟨t, htext, -⟩ := problems_eq_error_iff.mp hproblems
        have hfolder : s.templateFolder.isShowable = true := by
          rw [htext]
          rfl
        simp [all_isWordable_flagProblems.mp hflags, hfolder]
    | ok ps =>
        rw [← all_isWordable_problems hproblems]
        split <;> simp_all
  · rename_i hflags
    simp [mt all_isWordable_flagProblems.mpr hflags]

theorem checked_eq_ok_iff {s' : Settings} :
    checked fs s = .ok s' ↔ s = s' ∧ s.problems fs = .ok [] := by
  rw [checked, ← check_eq_ok_nil_iff]
  cases s.check fs with
  | error cause => cases cause <;> simp
  | ok ps => cases ps <;> simp

/-- Problems in words are a message. What cannot be put into words has none,
and neither has the lookup of the folder. -/
theorem checked_eq_error_iff : (checked fs s = .error fault ∧ fault.message? = none) ↔
    (s.check fs = .error .unwordable ∧ fault = .longNumber) ∨
      ∃ cause, s.check fs = .error (.folder cause) ∧ fault = .path cause := by
  have hsilent : ∀ found : Fault, found.message? = none →
      ((Except.error found : Except Fault Settings) = .error fault ∧ fault.message? = none ↔
        fault = found) := by
    intro found hnone
    constructor
    · rintro ⟨h, -⟩
      cases h
      rfl
    · rintro rfl
      exact ⟨rfl, hnone⟩
  rw [checked]
  cases s.check fs with
  | error cause =>
      cases cause with
      | unwordable =>
          rw [hsilent .longNumber rfl]
          simp
      | folder cause =>
          rw [hsilent (.path cause) rfl]
          simp
  | ok ps =>
      simp only [reduceCtorEq, false_and, exists_false, or_self, iff_false]
      rintro ⟨h, hmessage⟩
      cases ps <;> cases h
      cases hmessage

/-! ## All endings -/

theorem made_eq_ok_iff : made fs members = .ok s ↔
    ofMembers (Entries.ofTable members) = .ok s ∧ s.problems fs = .ok [] := by
  rw [made]
  cases ofMembers (Entries.ofTable members) with
  | error cause => simp [Except.mapError, Except.bind]
  | ok s' =>
      simp only [Except.mapError, Except.bind, checked_eq_ok_iff, Except.ok.injEq]
      constructor
      · rintro ⟨rfl, hproblems⟩
        exact ⟨rfl, hproblems⟩
      · rintro ⟨rfl, hproblems⟩
        exact ⟨rfl, hproblems⟩

/-- Each of these faults ends the loading, and none has a message. -/
theorem Escapes.load_eq_error (h : Escapes fs overrides file fault) :
    load fs (.object overrides) file = .error fault ∧ fault.message? = none := by
  have hload : load fs (.object overrides) file = _ := load_eq (entriesIfSet_object overrides)
  cases h with
  | lookup hfile h =>
      subst hfile
      rw [hload, fileMembers, membersOfFile, h]
      exact ⟨rfl, rfl⟩
  | bytes hfile hpresent hname h =>
      subst hfile
      rw [hload, fileMembers, membersOfFile_eq hpresent hname, h]
      exact ⟨rfl, rfl⟩
  | number hfile hpresent hname hread htext h =>
      subst hfile
      rw [hload, fileMembers, membersOfFile_eq hpresent hname, hread]
      exact ⟨congrArg (Except.bind · _) (membersOfText_of_longNumber htext h), rfl⟩
  | custom hfile hkey hother h =>
      have hmade := (ofMembers_eq_error_iff (nodup_given _ _)).mpr ⟨⟨_, hkey, hother⟩, h⟩
      refine ⟨?_, rfl⟩
      rw [hload, hfile, Except.bind, made, hmade]
      rfl
  | unshown hfile hmade h =>
      obtain ⟨hchecked, hmessage⟩ :=
        checked_eq_error_iff.mpr (.inl ⟨check_eq_unwordable_iff.mpr h, rfl⟩)
      refine ⟨?_, hmessage⟩
      rw [hload, hfile, Except.bind, made, hmade]
      exact hchecked
  | folder hfile hmade hflags htext h =>
      have hcheck := check_eq_folder_iff.mpr ⟨hflags, problems_eq_error_iff.mpr ⟨_, htext, h⟩⟩
      obtain ⟨hchecked, hmessage⟩ := checked_eq_error_iff.mpr (.inr ⟨_, hcheck, rfl⟩)
      refine ⟨?_, hmessage⟩
      rw [hload, hfile, Except.bind, made, hmade]
      exact hchecked

theorem Escapes.of_load_eq_error (h : load fs (.object overrides) file = .error fault)
    (hmessage : fault.message? = none) : Escapes fs overrides file fault := by
  rw [load_eq (entriesIfSet_object overrides)] at h
  cases hfile : fileMembers fs file with
  | error found =>
      rw [hfile] at h
      cases h
      cases file with
      | none => cases hfile
      | some p => exact membersOfFile_eq_error hfile hmessage
  | ok ofFile =>
      rw [hfile, Except.bind, made] at h
      cases hmade : ofMembers (Entries.ofTable (given ofFile overrides)) with
      | error cause =>
          rw [hmade] at h
          cases h
          obtain ⟨⟨key, hkey, hother⟩, hentries⟩ :=
            (ofMembers_eq_error_iff (nodup_given _ _)).mp hmade
          exact .custom hfile hkey hother hentries
      | ok s =>
          rw [hmade] at h
          rcases checked_eq_error_iff.mp ⟨h, hmessage⟩ with ⟨hcheck, rfl⟩ | ⟨cause, hcheck, rfl⟩
          · exact .unshown hfile hmade (check_eq_unwordable_iff.mp hcheck)
          · obtain ⟨hflags, hproblems⟩ := check_eq_folder_iff.mp hcheck
            obtain ⟨t, htext, hfolder⟩ := problems_eq_error_iff.mp hproblems
            obtain rfl := Files.hasFolder_eq_error hfolder
            exact .folder hfile hmade hflags htext hfolder

theorem check_of_load_eq_ok (h : load fs (.object overrides) file = .ok s) :
    s.check fs = .ok [] := by
  rw [load_eq (entriesIfSet_object overrides)] at h
  cases hfile : fileMembers fs file with
  | error fault =>
      rw [hfile] at h
      cases h
  | ok ofFile =>
      rw [hfile] at h
      exact check_eq_ok_nil_iff.mpr (made_eq_ok_iff.mp h).2

/-- **How loading ends.** Settings that are loaded pass the check. A failure
has a message about the settings, unless it is one of those that escape: a
name that is too long, bytes that are no text, a whole number that is too
long to be read or to be shown, or custom settings that should take other
members in and have no entries. -/
theorem load_outcome (fs : Files) (overrides : Table Json) (file : Option Path) :
    (∀ s, load fs (.object overrides) file = .ok s → s.check fs = .ok []) ∧
    ∀ fault, (load fs (.object overrides) file = .error fault ∧ fault.message? = none) ↔
      Escapes fs overrides file fault :=
  ⟨fun _ => check_of_load_eq_ok,
    fun _ => ⟨fun h => .of_load_eq_error h.1 h.2, Escapes.load_eq_error⟩⟩

/-- The defaults are loaded. A custom setting beside a number in the place of
the custom settings escapes, and so does a long number in the place of a
flag. -/
theorem load_outcome_number :
    (∃ s, load [] (.object []) none = .ok s ∧ s.check [] = .ok []) ∧
    Escapes [] [(customKey, .whole 5), ("x".toList, .whole 1)] none (.entries .kind) ∧
    Escapes [] [(tagCheckKey, .whole (.ofNat (Nat.pow 10 Json.maxWholeDigits)))] none
      .longNumber := by
  have hdefaults : load [] (.object []) none = .ok {} := rfl
  have hflag : ∀ value, value.isShowable ≠ true →
      load [] (.object [(tagCheckKey, value)]) none = .error .longNumber := by
    intro value hvalue
    have hcheck : check [] { tagCheck := value } = .error .unwordable :=
      check_eq_unwordable_iff.mpr fun h => hvalue h.1.1
    rw [load_eq (entriesIfSet_object _)]
    show checked [] { tagCheck := value } = _
    rw [checked, hcheck]
  have hlong := hflag (.whole (.ofNat (Nat.pow 10 Json.maxWholeDigits))) (by decide +kernel)
  exact ⟨⟨{}, hdefaults, (load_outcome [] [] none).1 _ hdefaults⟩,
    ((load_outcome [] _ none).2 _).mp ⟨rfl, rfl⟩, ((load_outcome [] _ none).2 _).mp ⟨hlong, rfl⟩⟩

/-- Bytes that are no text end the loading without a message. -/
theorem load_binary_file :
    let p : Path := ⟨[], ["c.json".toList]⟩
    let fs : Files := Files.create [] p.names (.file .binary)
    ¬ ((∃ s, load fs (.object []) (some p) = .ok s ∧ s.check fs = .ok []) ∨
      ∃ fault, load fs (.object []) (some p) = .error fault ∧ fault.message? ≠ none) := by
  intro p fs h
  have hload : load fs (.object []) (some p) = .error .undecodable := by rfl
  rcases h with ⟨s, hok, -⟩ | ⟨fault, herror, hmessage⟩
  · rw [hload] at hok
    cases hok
  · rw [hload] at herror
    cases herror
    exact hmessage rfl

end Settings

end WireTypes
