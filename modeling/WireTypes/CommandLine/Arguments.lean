import WireTypes.Text.Blank
import WireTypes.Text.Digit
import WireTypes.Text.Quoted

/-! The arguments of the command line: options, which may be shortened, and one file. -/

namespace WireTypes

open Text

namespace CommandLine

/-- An option. -/
inductive Opt where
  | help
  | stdin
  | output
  | config
  | templateFolder
  | noTagCheck
  | exported
  | pretty
  | verbose
  | logLevel
  | listNotations
  | version
deriving DecidableEq, Repr

namespace Opt

/-- The spellings of an option. -/
def spellings : Opt → List Text
  | help => ["-h".toList, "--help".toList]
  | stdin => ["--stdin".toList]
  | output => ["--output".toList, "-o".toList]
  | config => ["--config".toList]
  | templateFolder => ["--template-dir".toList]
  | noTagCheck => ["--no-tag-check".toList]
  | exported => ["--export".toList]
  | pretty => ["--pretty".toList]
  | verbose => ["--verbose".toList]
  | logLevel => ["--log-level".toList]
  | listNotations => ["--list-notations".toList]
  | version => ["--version".toList]

/-- All options. -/
def all : List Opt :=
  [help, stdin, output, config, templateFolder, noTagCheck, exported, pretty, verbose, logLevel,
   listNotations, version]

/-- Whether an option comes with a value. -/
def takesValue : Opt → Bool
  | output | config | templateFolder | logLevel => true
  | _ => false

/-- The name of an option in messages. -/
def name (o : Opt) : Text := List.intercalate ['/'] o.spellings

end Opt

/-- The options of one letter that come without a value. -/
def Opt.letters : List Text := ["-h".toList]

/-- All spellings with their options. -/
def spelled : List (Text × Opt) := Opt.all.flatMap fun o => o.spellings.map fun s => (s, o)

/-- The option of a spelling. -/
def optOf? (s : Text) : Option Opt := spelled.lookup s

/-- The levels that can be asked for. -/
def levels : List Text :=
  ["DEBUG".toList, "INFO".toList, "WARNING".toList, "ERROR".toList]

/-- What the arguments ask for. -/
structure Arguments where
  /-- The file to read; standard input without one. -/
  file : Option Text := none
  stdin : Bool := false
  output : Option Text := none
  config : Option Text := none
  templateFolder : Option Text := none
  noTagCheck : Bool := false
  exported : Bool := false
  pretty : Bool := false
  verbose : Bool := false
  /-- The level that events have to reach; none if the option names none. -/
  logLevel : Option Text := some "WARNING".toList
  listNotations : Bool := false
deriving DecidableEq, Repr

/-- Why arguments make no sense. -/
inductive UsageFault where
  | ambiguous (arg : Text) (matching : List Text)
  | valueExpected (o : Opt)
  | valueIgnored (o : Opt) (value : Text)
  | badLevel (value : Text)
  /-- A file is given behind the option to read standard input. -/
  | fileBesideStdin
  /-- The option to read standard input is given behind a file. -/
  | stdinBesideFile
  | unrecognized (args : List Text)
deriving DecidableEq, Repr

/-- A message about an argument. -/
def about (argument what : Text) : Text :=
  "argument ".toList ++ argument ++ ": ".toList ++ what

/-- The wording of a fault. -/
def UsageFault.message : UsageFault → Text
  | ambiguous arg matching =>
    "ambiguous option: ".toList ++ arg ++ " could match ".toList ++ commaSeparated matching
  | valueExpected o => about o.name "expected one argument".toList
  | valueIgnored o value => about o.name ("ignored explicit argument ".toList ++ quoted value)
  | badLevel value =>
    about Opt.logLevel.name ("invalid choice: ".toList ++ quoted value ++ " (choose from ".toList ++
      commaSeparated (levels.map quoted) ++ ")".toList)
  | fileBesideStdin => about "file".toList ("not allowed with argument ".toList ++ Opt.stdin.name)
  | stdinBesideFile => about Opt.stdin.name "not allowed with argument file".toList
  | unrecognized args => "unrecognized arguments: ".toList ++ List.intercalate [' '] args

/-! ### What an argument is -/

/-- How a value is attached to an option in the same argument. -/
inductive Attached where
  | none
  /-- Behind an equals sign. -/
  | explicit (value : Text)
  /-- Right behind a single letter. -/
  | joined (value : Text)
deriving DecidableEq, Repr

/-- An argument by itself. -/
inductive Argument where
  | option (o : Opt) (spelling : Text) (attached : Attached)
  /-- Looks like an option, but there is none of this name. -/
  | stranger (t : Text)
  | value (t : Text)
  /-- The mark behind which everything is a value. -/
  | separator
deriving DecidableEq, Repr

/-- A text cut at its first equals sign. -/
def splitEquals (t : Text) : Text × Option Text :=
  match t.dropWhile (· != '=') with
  | '=' :: value => (t.takeWhile (· != '='), some value)
  | _ => (t, none)

/-- The attachment of the part behind an equals sign. -/
def attachedOf : Option Text → Attached
  | some value => .explicit value
  | none => .none

/-- The options that a text may be short for, as spelled in full. -/
def candidates (t : Text) : List (Text × Opt × Attached) :=
  match t with
  | '-' :: '-' :: _ =>
    let (start, value) := splitEquals t
    (spelled.filter fun (s, _) => start.isPrefixOf s).map fun (s, o) => (s, o, attachedOf value)
  | '-' :: c :: rest =>
    spelled.filterMap fun (s, o) =>
      if s = ['-', c] then some (s, o, .joined rest)
      else if t.isPrefixOf s then some (s, o, .none)
      else none
  | _ => []

/-- Whether a text is a negative number, perhaps with a line feed at its end. -/
def isNegativeNumber (t : Text) : Bool :=
  match dropFinalNewline t with
  | '-' :: rest =>
    let whole := rest.takeWhile isDigit
    match rest.drop whole.length with
    | [] => !whole.isEmpty
    | '.' :: fraction => !fraction.isEmpty && fraction.all isDigit
    | _ => false
  | _ => false

/-- The only argument that a text which starts with a dash can be. -/
def dashed (t : Text) : Except UsageFault Argument :=
  match candidates t with
  | [(s, o, attached)] => .ok (.option o s attached)
  | [] => .ok (if isNegativeNumber t || t.contains ' ' then .value t else .stranger t)
  | several => .error (.ambiguous t (several.map (·.1)))

/-- What a text is as an argument. -/
def classifyArg (t : Text) : Except UsageFault Argument :=
  match t, optOf? t with
  | _, some o => .ok (.option o t .none)
  | '-' :: _ :: _, none =>
    match splitEquals t with
    | (s, some value) =>
      match optOf? s with
      | some o => .ok (.option o s (.explicit value))
      | none => dashed t
    | (_, none) => dashed t
  | _, none => .ok (.value t)

/-- The mark behind which all arguments are values. -/
def separatorMark : Text := "--".toList

/-- What some texts are as arguments. -/
def classifyArgs : List Text → Except UsageFault (List Argument)
  | [] => .ok []
  | t :: rest =>
    if t = separatorMark then .ok (.separator :: rest.map Argument.value)
    else do
      let first ← classifyArg t
      let others ← classifyArgs rest
      return first :: others

/-! ### What arguments ask for -/

/-- What is asked for so far. -/
structure Progress where
  arguments : Arguments := {}
  /-- Whether the place of the file has been passed. -/
  filePassed : Bool := false
  /-- The arguments that have no meaning. -/
  extras : List Text := []

/-- What the whole command line asks for. -/
inductive Request where
  | help
  | version
  | run (a : Arguments)
deriving DecidableEq, Repr

/-- The request of an option that ends the reading of arguments. -/
def endOf? : Opt → Option Request
  | .help => some .help
  | .version => some .version
  | _ => none

/-- The effect of an option without a value. -/
def setFlag (a : Arguments) : Opt → Except UsageFault Arguments
  | .stdin => if a.file.isSome then .error .stdinBesideFile else .ok { a with stdin := true }
  | .noTagCheck => .ok { a with noTagCheck := true }
  | .exported => .ok { a with exported := true }
  | .pretty => .ok { a with pretty := true }
  | .verbose => .ok { a with verbose := true }
  | .listNotations => .ok { a with listNotations := true }
  | _ => .ok a

/-- The value that an option is given: the mark behind which all arguments are values is none. -/
def valueGiven (value : Text) : Option Text := if value = separatorMark then none else some value

/-- The effect of an option with a value. -/
def setValue (a : Arguments) (o : Opt) (value : Text) : Except UsageFault Arguments :=
  match o with
  | .output => .ok { a with output := valueGiven value }
  | .config => .ok { a with config := valueGiven value }
  | .templateFolder => .ok { a with templateFolder := valueGiven value }
  | .logLevel =>
    match valueGiven value with
    | none => .ok { a with logLevel := none }
    | some level =>
      if levels.contains level then .ok { a with logLevel := some level }
      else .error (.badLevel level)
  | _ => .ok a

/-- The effect of a file. -/
def setFile (a : Arguments) (file : Text) : Except UsageFault Arguments :=
  if a.stdin then .error .fileBesideStdin else .ok { a with file := some file }

/-- The value at the start of some arguments, for an option that needs one. -/
def nextValue (o : Opt) : List Argument → Except UsageFault (Text × List Argument)
  | .value t :: rest => .ok (t, rest)
  | _ => .error (.valueExpected o)

/-- The request of the letter for help with letters behind it: help, if they are letters for help
and at most one letter for the output, which may have its value behind it. -/
def helpWith (rest : List Argument) : Text → Except UsageFault Request
  | ['h'] => .ok .help
  | 'h' :: letters => helpWith rest letters
  | ['o'] => do
    let _ ← nextValue .output rest
    return .help
  | 'o' :: _ => .ok .help
  | letters => .error (.valueIgnored .help letters)

/-- The effect of a value that belongs to no option: the first one is the file. -/
def takeValue (p : Progress) (t : Text) : Except UsageFault Progress := do
  if p.filePassed then return { p with extras := p.extras ++ [t] }
  else return { p with arguments := ← setFile p.arguments t, filePassed := true }

/-- The arguments behind the file, where a separator right behind it does not count. -/
def skipSeparator : List Argument → List Argument
  | .separator :: rest => rest
  | rest => rest

/-- Where the reading of arguments has come to. -/
inductive Step where
  /-- The request is known, whatever follows. -/
  | done (r : Request)
  | next (p : Progress) (rest : List Argument)

/-- The step for the mark behind which all arguments are values: it has no meaning behind the file,
and is taken together with a file right behind it. -/
def separatorStep (p : Progress) (rest : List Argument) : Except UsageFault Step :=
  if p.filePassed then .ok (.next { p with extras := p.extras ++ [separatorMark] } rest)
  else
    match rest with
    | .value t :: rest => do return .next (← takeValue p t) rest
    | rest => .ok (.next { p with filePassed := true } rest)

/-- The step for an option with its value. -/
def valueStep (p : Progress) (o : Opt) (value : Text) (rest : List Argument) :
    Except UsageFault Step := do
  return .next { p with arguments := ← setValue p.arguments o value } rest

/-- The step for an option without a value. -/
def flagStep (p : Progress) (o : Opt) (rest : List Argument) : Except UsageFault Step :=
  match endOf? o with
  | some r => .ok (.done r)
  | none => do return .next { p with arguments := ← setFlag p.arguments o } rest

/-- The step for an option. -/
def optionStep (p : Progress) (o : Opt) (spelling : Text) (attached : Attached)
    (rest : List Argument) : Except UsageFault Step :=
  match o.takesValue, attached with
  | true, .none => do
    let (value, rest) ← nextValue o rest
    valueStep p o value rest
  | true, .explicit value | true, .joined value => valueStep p o value rest
  | false, .none => flagStep p o rest
  | false, .explicit value | false, .joined value =>
    if Opt.letters.contains spelling then do return .done (← helpWith rest value)
    else throw (.valueIgnored o value)

/-- The step for the first of some arguments. -/
def step (p : Progress) : List Argument → Except UsageFault Step
  | [] =>
    if p.extras.isEmpty then .ok (.done (.run p.arguments)) else .error (.unrecognized p.extras)
  | .value t :: rest => do
    return .next (← takeValue p t) (if p.filePassed then rest else skipSeparator rest)
  | .stranger t :: rest => .ok (.next { p with extras := p.extras ++ [t] } rest)
  | .separator :: rest => separatorStep p rest
  | .option o spelling attached :: rest => optionStep p o spelling attached rest

/-- The request of arguments, read from left to right. The fuel bounds their number. -/
def requestFrom : Nat → Progress → List Argument → Except UsageFault Request
  | 0, p, _ => .ok (.run p.arguments)
  | fuel + 1, p, args => do
    match ← step p args with
    | .done r => return r
    | .next p rest => requestFrom fuel p rest

/-- What a command line asks for. -/
def request (args : List Text) : Except UsageFault Request := do
  let arguments ← classifyArgs args
  requestFrom (arguments.length + 1) {} arguments

end CommandLine

end WireTypes
