import WireTypes.Settings.Basic

/-! Loading settings from a file and from overrides, and saving them. -/

namespace WireTypes

open Text

namespace Settings

/-- Why settings cannot be loaded or saved. -/
inductive Fault where
  /-- There is no file. -/
  | missing (p : Path)
  /-- The name of the file does not end as that of a JSON file. -/
  | notJson (p : Path)
  /-- The file is no JSON. -/
  | invalidJson (p : Path) (problem : Json.Problem) (place : Json.Place)
  /-- The file cannot be read. -/
  | unreadable (p : Path) (cause : FileFault)
  /-- The file holds something other than an object. -/
  | notObject (p : Path)
  /-- Some settings make no sense. -/
  | problems (ps : List Problem)
  /-- The file cannot be written. -/
  | unsaved (p : Path) (cause : FileFault)
  /-- The file holds bytes that are no text. -/
  | undecodable
  /-- A whole number is too long: one that is read from the file, or one that a message shows. -/
  | longNumber
  /-- The overrides or the custom settings have no entries. -/
  | entries (cause : Json.EntryFault)
  /-- A path cannot be looked up. -/
  | path (cause : FileFault)
deriving Repr

/-- The wording of a fault of the settings; none for those that are not about settings. -/
def Fault.message? : Fault → Option Text
  | missing p => some ("Configuration file not found: ".toList ++ p.toText)
  | notJson p => some ("Configuration file must be JSON: ".toList ++ p.toText)
  | invalidJson p problem place =>
    some ("Invalid JSON in configuration file ".toList ++ p.toText ++ ": ".toList ++
      problem.message ++
      ": line ".toList ++ ofNat place.line ++ " column ".toList ++ ofNat place.column ++
      " (char ".toList ++ ofNat place.offset ++ ")".toList)
  | unreadable p cause =>
    some ("Failed to load configuration file ".toList ++ p.toText ++ ": ".toList ++ cause.message p)
  | notObject p => some ("Configuration file must contain a JSON object: ".toList ++ p.toText)
  | problems ps => some (List.intercalate "; ".toList (ps.map (·.message)))
  | unsaved p cause =>
    some ("Failed to save configuration to ".toList ++ p.toText ++ ": ".toList ++ cause.message p)
  | undecodable | longNumber | entries _ | path _ => none

/-- The members in the text of a settings file. -/
def membersOfText (p : Path) (t : Text) : Except Fault (Table Json) :=
  let t := unifyNewlines t
  match Json.ofText t with
  | .ok (.object members) => .ok members
  | .ok _ => .error (.notObject p)
  | .error fault =>
    if fault.problem = .longNumber then .error .longNumber
    else .error (.invalidJson p fault.problem (fault.place t))

/-- The members in a settings file. -/
def membersOfFile (fs : Files) (p : Path) : Except Fault (Table Json) :=
  match fs.present p with
  | .error cause => .error (.path cause)
  | .ok false => .error (.missing p)
  | .ok true =>
    if lower p.extension != ".json".toList then .error (.notJson p)
    else
      match fs.read p with
      | .error cause => .error (.unreadable p cause)
      | .ok .binary => .error .undecodable
      | .ok (.text t) => membersOfText p t

/-- The settings as defaults, below those of a file, below some overrides. -/
def load (fs : Files) (overrides : Json) (file : Option Path) : Except Fault Settings := do
  let ofFile ← match file with
    | some p => membersOfFile fs p
    | none => .ok []
  let members := Entries.ofTable (Table.merge (fixedMembers {}) ofFile)
  match do ofMembers (members.merge (← overrides.entriesIfSet)) with
  | .error cause => throw (.entries cause)
  | .ok settings =>
    match settings.check fs with
    | .error .unwordable => throw .longNumber
    | .error (.folder cause) => throw (.path cause)
    | .ok [] => return settings
    | .ok ps => throw (.problems ps)

/-- The members of the file that settings are saved in. Custom settings stand beside the others and
replace those of their names. -/
def savedMembers (s : Settings) : Except Json.EntryFault Entries := do
  return (Entries.ofTable s.fixedMembers).merge (← s.custom.toEntries)

/-- The files after settings were saved on a device that takes every text. -/
def save (fs : Files) (s : Settings) (p : Path) : Except Fault Files :=
  match s.savedMembers with
  | .error cause => .error (.entries cause)
  | .ok members =>
    match fs.write p (members.toJson.indented 0) with
    | .error .badName => .error (.path .badName)
    | .error cause => .error (.unsaved p cause)
    | .ok fs => .ok fs

end Settings

end WireTypes
