import WireTypes.Json.Entries
import WireTypes.Json.Reader
import WireTypes.Files.Basic

/-! Settings: what a conversion can be told, as JSON values that need not make sense yet. -/

namespace WireTypes

open Text

/-- The settings that have no meaning of their own. -/
inductive Custom where
  /-- A value as it was given. -/
  | value (j : Json)
  /-- Entries whose keys are not all texts. -/
  | entries (es : Entries)
deriving Repr

namespace Custom

/-- The custom settings with some entries: an object if all keys are texts. -/
def ofEntries (es : Entries) : Custom := if es.allTexts then .value es.toJson else .entries es

/-- The entries of the custom settings. -/
def toEntries : Custom → Except Json.EntryFault Entries
  | value j => j.entries
  | entries es => .ok es

/-- The custom settings as JSON. -/
def toJson : Custom → Json
  | value j => j
  | entries es => es.toJson

/-- Equality by value. -/
def same : Custom → Custom → Bool
  | value a, value b => a.same b
  | entries a, entries b => a.same b
  | _, _ => false

end Custom

/-- The settings as they were given. -/
structure Settings where
  /-- Whether a struct that lacks tags is given tags instead of being converted. -/
  tagCheck : Json := .bool true
  /-- Further interface names for base types of a struct. -/
  structOverrides : Json := .object []
  /-- Further struct names for base types of an interface. -/
  interfaceOverrides : Json := .object []
  /-- Whether an interface is exported. -/
  exported : Json := .bool false
  /-- The folder of templates that replace the built-in ones. -/
  templateFolder : Json := .null
  /-- Everything else that was given. -/
  custom : Custom := .value (.object [])
deriving Repr

namespace Settings

/-! ### Keys -/

/-- The key of the tag check. -/
def tagCheckKey : Text := "enable_json_tag_check".toList

/-- The key of the names for base types of a struct. -/
def structOverridesKey : Text := "go_type_overrides".toList

/-- The key of the names for base types of an interface. -/
def interfaceOverridesKey : Text := "ts_type_overrides".toList

/-- The key of the export of interfaces. -/
def exportedKey : Text := "ts_export".toList

/-- The key of the folder of templates. -/
def templateFolderKey : Text := "template_dir".toList

/-- The key of everything else. -/
def customKey : Text := "custom".toList

/-- All keys that have a meaning. -/
def knownKeys : List Text :=
  [tagCheckKey, structOverridesKey, interfaceOverridesKey, exportedKey, templateFolderKey, customKey]

/-- The settings without the custom ones, by key. -/
def fixedMembers (s : Settings) : Table Json :=
  [(tagCheckKey, s.tagCheck), (structOverridesKey, s.structOverrides),
   (interfaceOverridesKey, s.interfaceOverrides), (exportedKey, s.exported),
   (templateFolderKey, s.templateFolder)]

/-- The settings with a value at a key that has a meaning. -/
def set (s : Settings) (key : Text) (value : Json) : Settings :=
  if key = tagCheckKey then { s with tagCheck := value }
  else if key = structOverridesKey then { s with structOverrides := value }
  else if key = interfaceOverridesKey then { s with interfaceOverrides := value }
  else if key = exportedKey then { s with exported := value }
  else if key = templateFolderKey then { s with templateFolder := value }
  else if key = customKey then { s with custom := .value value }
  else s

/-- The default settings with values at some keys that have a meaning. -/
def ofKnown (members : Table Json) : Settings :=
  members.foldl (fun s (key, value) => s.set key value) {}

/-- Equality of settings by value. -/
def same (a b : Settings) : Bool :=
  a.tagCheck.same b.tagCheck && a.structOverrides.same b.structOverrides &&
    a.interfaceOverrides.same b.interfaceOverrides && a.exported.same b.exported &&
    a.templateFolder.same b.templateFolder && a.custom.same b.custom

/-- Whether a key has a meaning. -/
def isKnown : Json → Bool
  | .string key => knownKeys.contains key
  | _ => false

/-- Settings from members: those whose keys have no meaning go to the custom ones, behind those that
are there. -/
def ofMembers (members : Entries) : Except Json.EntryFault Settings := do
  let (known, others) := members.partition fun (key, _) => isKnown key
  let settings := ofKnown (Entries.texts known)
  if others.isEmpty then return settings
  else return { settings with custom := .ofEntries ((← settings.custom.toEntries).merge others) }

/-! ### Problems -/

/-- What is wrong with a setting. -/
inductive Problem where
  /-- A value that is neither true nor false. -/
  | notBool (key : Text) (value : Json)
  /-- A folder that is no text. -/
  | notText (key : Text) (value : Json)
  /-- A folder that is not there. -/
  | noFolder (key : Text) (name : Text)
  /-- Overrides that are no object. -/
  | notObject (key : Text)
  /-- An override by something other than text. -/
  | notTextEntry (key : Text) (name : Text)
deriving Repr

/-- The wording of a problem, if it can be put into words (`isWordable`). -/
def Problem.message : Problem → Text
  | notBool key value => key ++ " must be a boolean, got ".toList ++ value.shown
  | notText key value => key ++ " must be a string, got ".toList ++ value.shown
  | noFolder key name => key ++ " is not a directory: ".toList ++ name
  | notObject key => key ++ " must be an object".toList
  | notTextEntry key name => key ++ " entries must map strings to strings: ".toList ++ quoted name

/-- Whether a problem can be put into words: the value that is shown must be one that can be. -/
def Problem.isWordable : Problem → Bool
  | notBool _ value | notText _ value => value.isShowable
  | noFolder .. | notObject _ | notTextEntry .. => true

/-- What is wrong with a value that should be true or false. -/
def boolProblems (key : Text) : Json → List Problem
  | .bool _ => []
  | value => [.notBool key value]

/-- What is wrong with a folder. -/
def folderProblems (fs : Files) (key : Text) : Json → Except FileFault (List Problem)
  | .null => .ok []
  | .string t => do return if ← fs.hasFolder (Path.ofText t) then [] else [.noFolder key t]
  | value => .ok [.notText key value]

/-- What is wrong with overrides. -/
def overrideProblems (key : Text) : Json → List Problem
  | .object members => members.filterMap fun (name, value) =>
    match value with
    | .string _ => none
    | _ => some (.notTextEntry key name)
  | _ => [.notObject key]

/-- What is wrong with the settings that are true or false. -/
def flagProblems (s : Settings) : List Problem :=
  boolProblems tagCheckKey s.tagCheck ++ boolProblems exportedKey s.exported

/-- What is wrong with the settings. -/
def problems (fs : Files) (s : Settings) : Except FileFault (List Problem) := do
  let folder ← folderProblems fs templateFolderKey s.templateFolder
  return s.flagProblems ++ folder ++ overrideProblems structOverridesKey s.structOverrides ++
    overrideProblems interfaceOverridesKey s.interfaceOverrides

/-- Why settings cannot be checked. -/
inductive CheckFault where
  /-- A problem cannot be put into words. -/
  | unwordable
  /-- The folder of templates cannot be looked up. -/
  | folder (cause : FileFault)
deriving DecidableEq, Repr

/-- Checks settings: what is wrong with them, where all of it can be put into words. Each problem is
put into words when it is found, those of the flags before the folder is looked up. -/
def check (fs : Files) (s : Settings) : Except CheckFault (List Problem) :=
  if s.flagProblems.all (·.isWordable) then
    match s.problems fs with
    | .error cause => .error (.folder cause)
    | .ok ps => if ps.all (·.isWordable) then .ok ps else .error .unwordable
  else .error .unwordable

end Settings

end WireTypes
