import WireTypes.CommandLine.Run

/-! The program: reads what a run can see, runs, and writes what it leaves behind. -/

namespace WireTypes

/-- What is at a place of the file system. -/
def entryOf? (name : String) : IO (Option FileEntry) := do
  try
    let found ← IO.FS.realPath name
    if ← found.isDir then return some .folder
    let bytes ← IO.FS.readBinFile found
    match String.fromUTF8? bytes with
    | some t => return some (.file (.text t.toList))
    | none => return some (.file .binary)
  catch _ => return none

/-- Adds what is at a path and on the way to it. -/
def look (fs : Files) (p : Path) : IO Files := do
  let mut fs := fs
  let mut place := FilePlace.start p
  let mut passed : List Text := []
  for name in p.names do
    passed := passed ++ [name]
    place := place.step name
    match ← entryOf? (String.ofList { p with names := passed : Path }.toText) with
    | none => return fs
    | some e => if !place.names.isEmpty then fs := fs.put place e
  return fs

/-- Adds the templates of a folder. -/
def lookForTemplates (fs : Files) (folder : Text) : IO Files := do
  let p := Path.ofText folder
  let fs ← look fs p
  let fs ← look fs (p.append [Emission.templateName .struct])
  look fs (p.append [Emission.templateName .interface])

/-- The folder of templates that a settings file names. -/
def configuredFolder? (fs : Files) (a : CommandLine.Arguments) : Option Text := do
  let config ← CommandLine.given a.config
  let members ← (Settings.membersOfFile fs (Path.ofText config)).toOption
  match Table.get? members Settings.templateFolderKey with
  | some (.string folder) => some folder
  | _ => none

/-- The files that a run with some arguments can see. -/
def filesFor (a : CommandLine.Arguments) : IO Files := do
  let named := [a.file, a.config, a.output].filterMap CommandLine.given
  let fs ← named.foldlM (fun fs name => look fs (Path.ofText name)) []
  let folders := [CommandLine.given a.templateFolder, configuredFolder? fs a].filterMap id
  folders.foldlM lookForTemplates fs

/-- Writes the output file of a run. -/
def writeOutput (a : CommandLine.Arguments) (o : CommandLine.Outcome) : IO Unit := do
  match CommandLine.given a.output with
  | none => return
  | some name =>
    if o.exitCode = 0 then
      match o.files.read (Path.ofText name) with
      | .ok (.text t) => IO.FS.writeFile (String.ofList (Path.ofText name).toText) (String.ofList t)
      | _ => return

/-- Runs and reports. -/
def report (a : CommandLine.Arguments) (r : CommandLine.Run) : IO UInt32 := do
  for e in r.events do
    IO.eprintln (String.ofList (e.severity.name ++ ' ' :: e.message))
  match r.result with
  | .error _ =>
    IO.eprintln "broken off"
    return 1
  | .ok o =>
    writeOutput a o
    IO.print (String.ofList o.stdout)
    IO.eprint (String.ofList o.stderr)
    return UInt32.ofNat o.exitCode

end WireTypes

open WireTypes

/-- The program. -/
def main (args : List String) : IO UInt32 := do
  let args := args.map String.toList
  match CommandLine.request args with
  | .ok (.run a) =>
    let fs ← filesFor a
    let stdin ←
      if (CommandLine.given a.file).isSome || a.listNotations then pure ""
      else do (← IO.getStdin).readToEnd
    report a (CommandLine.run fs args stdin.toList)
  | _ => report {} (CommandLine.run [] args [])
