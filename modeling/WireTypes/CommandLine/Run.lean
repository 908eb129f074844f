import WireTypes.CommandLine.Arguments
import WireTypes.CommandLine.Usage
import WireTypes.Conversion.Basic
import WireTypes.Display.Grid
import WireTypes.Display.Listing
import WireTypes.Display.Markup
import WireTypes.Log
import WireTypes.Registry
import WireTypes.Settings.Store

/-! A run of the command line, from arguments, standard input and files on a device to an exit code,
two outputs and files. -/

namespace WireTypes

open Text

namespace CommandLine

/-- What a run leaves behind. -/
structure Outcome where
  exitCode : Nat
  stdout : Text := []
  stderr : Text := []
  files : Files
deriving DecidableEq, Repr

/-- Why a run breaks off. -/
inductive Crash where
  /-- A file to be read is no text. -/
  | undecodable
  /-- The settings break off the run without a message. -/
  | settings (cause : Settings.Fault)
  /-- A text cannot be converted. -/
  | conversion (cause : Conversion.Fault)
  /-- A message cannot be shown. -/
  | markup (cause : Display.MarkupFault)
  /-- A path cannot be used. -/
  | path (cause : FileFault)
  /-- The option for the level of events names none. -/
  | noLevel
deriving Repr

/-- A run: what it leaves behind or why it breaks off, and what it reports on the way. -/
structure Run where
  result : Except Crash Outcome
  events : List Event

/-- A message as it is shown, with its style tags taken out. -/
def say (t : Text) : Except Crash Text :=
  match Display.plain t with
  | .ok shown => .ok (Display.message shown)
  | .error cause => .error (.markup cause)

/-! ### The list of notations -/

/-- The row of a notation in the list. -/
def notationRow (i : Registry.Info) : List Text :=
  [i.served.name, i.served.extension, i.reader.name, i.writer.name,
   if i.aliases.isEmpty then "none".toList else commaSeparated i.aliases]

/-- The list of notations. -/
def notationList (r : Registry) : Text :=
  Display.Grid.toText {
    title := "Supported Notations".toList
    frame := .rounded
    head := ["Notation".toList, "Extension".toList, "Parser".toList, "Emitter".toList,
             "Aliases".toList]
    rows := r.names.filterMap fun name => (r.info name).toOption.map notationRow }

/-! ### Input -/

/-- Why there is no text to convert. -/
inductive InputFault where
  | notFound (p : Path)
  | unreadable (p : Path) (cause : FileFault)
  /-- The settings cannot be loaded. -/
  | settings (message : Text)
deriving DecidableEq, Repr

/-- The wording of a fault. -/
def InputFault.message : InputFault → Text
  | notFound p => "File not found: ".toList ++ p.toText
  | unreadable p cause => "Failed to read ".toList ++ p.toText ++ ": ".toList ++ cause.message p
  | settings message => message

/-- A text that was given and is not empty. -/
def given (t : Option Text) : Option Text := t.filter (!·.isEmpty)

/-- The settings that arguments override. -/
def overrides (a : Arguments) : Table Json :=
  (if a.noTagCheck then [(Settings.tagCheckKey, .bool false)] else []) ++
  (if a.exported then [(Settings.exportedKey, .bool true)] else []) ++
  (match given a.templateFolder with
    | some folder => [(Settings.templateFolderKey, .string folder)]
    | none => [])

/-- The settings of a run: an answer for the user if they cannot be loaded. -/
def settings (fs : Files) (a : Arguments) : Except Crash (Except InputFault Settings) :=
  match Settings.load fs (.object (overrides a)) ((given a.config).map Path.ofText) with
  | .ok s => .ok (.ok s)
  | .error cause =>
    match cause.message? with
    | some message => .ok (.error (.settings message))
    | none => .error (.settings cause)

/-- The text to convert: that of the file, or standard input without one. -/
def input (fs : Files) (a : Arguments) (stdin : Text) : Except Crash (Except InputFault Text) :=
  match given a.file with
  | none => .ok (.ok (unifyNewlines stdin))
  | some file =>
    let p := Path.ofText file
    match fs.present p with
    | .error cause => .error (.path cause)
    | .ok false => .ok (.error (.notFound p))
    | .ok true =>
      match fs.read p with
      | .ok (.text t) => .ok (.ok (unifyNewlines t))
      | .ok .binary => .error .undecodable
      | .error cause => .ok (.error (.unreadable p cause))

/-! ### Output -/

/-- A property with a capital at the start of each word. -/
def propertyLabel (key : Text) : Text :=
  List.intercalate [' '] ((splitOn '_' key).map fun word =>
    match word with
    | [] => []
    | c :: rest => upperChar c ++ rest)

/-- The table of what was done. -/
def metadataTable (metadata : Table Json) : Text :=
  Display.Grid.toText {
    title := "Conversion Metadata".toList
    frame := .plain
    head := ["Property".toList, "Value".toList]
    rows := metadata.map fun (key, value) => [propertyLabel key, value.plain] }

/-- The warnings of a conversion. -/
def warningText (warnings : List Text) : Except Crash Text := do
  if warnings.isEmpty then return []
  else
    let shown ← warnings.mapM fun w => say ("  • ".toList ++ w)
    return (← say "Warnings:".toList) ++ shown.flatten

/-- Puts out the result of a conversion, behind what has been said on standard error. A result that
is not taken as a whole leaves in its file what was taken. -/
def putOut (device : Device) (fs : Files) (a : Arguments) (said : Text) (c : Conversion) :
    Except Crash Outcome := do
  let remarks := do
    let table := if a.verbose && !c.metadata.isEmpty then metadataTable c.metadata else []
    return table ++ (← warningText c.warnings)
  match given a.output with
  | some name =>
    let p := Path.ofText name
    match fs.writeOn device p (c.result ++ ['\n']) with
    | (_, some (.path .badName)) => throw (.path .badName)
    | (left, some cause) =>
      let shown ← say ("[red]✗ Failed to write to ".toList ++ p.toText ++ ":[/red] ".toList ++
        cause.message p)
      return { exitCode := 1, stderr := said ++ shown, files := left }
    | (written, none) =>
      let shown ← say ("[green]✓[/green] Saved to [cyan]".toList ++ p.toText ++ "[/cyan]".toList)
      return { exitCode := 0, stderr := said ++ shown ++ (← remarks), files := written }
  | none =>
    let shown := if a.pretty then Display.code c.result else c.result ++ ['\n']
    return { exitCode := 0, stdout := shown, stderr := said ++ (← remarks), files := fs }

/-! ### Runs -/

/-- What a rejected text is answered with. -/
def rejection (cause : Rejection) : Text :=
  match cause with
  | .empty => "[yellow]⚠ ".toList ++ cause.message ++ "[/yellow]".toList
  | .unrecognized => "[red]✗ ".toList ++ cause.message ++ "[/red]".toList

/-- What is said when a struct is given tags. -/
def taggedNote : Text := "[yellow]Added missing JSON tags; run again to convert.[/yellow]".toList

/-- Answers a conversion. -/
def answer (device : Device) (fs : Files) (a : Arguments) (c : Conversion) :
    Except Crash Outcome := do
  match c with
  | .rejected cause => return { exitCode := 1, stderr := ← say (rejection cause), files := fs }
  | .tagged .. => putOut device fs a (← say taggedNote) c
  | .converted .. => putOut device fs a [] c

/-- Converts a text as some settings say. -/
def convert (device : Device) (fs : Files) (a : Arguments) (s : Settings) (t : Text) : Run :=
  let result := match Conversion.ofText fs s t with
    | .error cause => .error (.conversion cause)
    | .ok c => answer device fs a c
  ⟨result, Conversion.events fs s t⟩

/-- Answers a fault of the input. -/
def refuse (fs : Files) (fault : InputFault) : Run :=
  match say ("[red]✗ Error:[/red] ".toList ++ fault.message) with
  | .error crash => ⟨.error crash, []⟩
  | .ok shown => ⟨.ok { exitCode := 1, stderr := shown, files := fs }, [.failed fault.message]⟩

/-- Runs what the arguments ask for. -/
def perform (device : Device) (fs : Files) (stdin : Text) (a : Arguments) : Run :=
  if a.listNotations then
    ⟨.ok { exitCode := 0, stderr := notationList .builtIn, files := fs }, []⟩
  else
    match settings fs a with
    | .error crash => ⟨.error crash, []⟩
    | .ok (.error fault) => refuse fs fault
    | .ok (.ok s) =>
      match input fs a stdin with
      | .error crash => ⟨.error crash, []⟩
      | .ok (.error fault) => refuse fs fault
      | .ok (.ok t) => convert device fs a s t

/-- A run of the command line. Only events that reach the level asked for are reported. -/
def runOn (device : Device) (fs : Files) (args : List Text) (stdin : Text) : Run :=
  match request args with
  | .error fault =>
    ⟨.ok { exitCode := 2, stderr := usageError fault.message, files := fs }, []⟩
  | .ok .help => ⟨.ok { exitCode := 0, stdout := helpText, files := fs }, []⟩
  | .ok .version => ⟨.ok { exitCode := 0, stdout := versionText, files := fs }, []⟩
  | .ok (.run a) =>
    match a.logLevel with
    | none => ⟨.error .noLevel, []⟩
    | some level =>
      let r := perform device fs stdin a
      let rank := (Log.rankOfName? level).getD Severity.warning.rank
      ⟨r.result, Log.keptEvents rank (.configured level :: r.events)⟩

/-- A run on a device that takes every text. -/
def run (fs : Files) (args : List Text) (stdin : Text) : Run := runOn .sound fs args stdin

end CommandLine

end WireTypes
