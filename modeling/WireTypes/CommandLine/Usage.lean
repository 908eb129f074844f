import WireTypes.Text.Basic

/-! The texts that explain the command line. -/

namespace WireTypes

namespace CommandLine

/-- The name of the program. -/
def programName : Text := "structbridge".toList

/-- The answer to the question for the version. -/
def versionText : Text := "structbridge 0.1.0\n".toList

/-- The line that lists the options. -/
def usageLine : Text :=
  ("usage: structbridge [-h] [--stdin] [--output FILE] [--config FILE] [--template-dir DIR] " ++
   "[--no-tag-check] [--export] [--pretty] [--verbose] " ++
   "[--log-level \x7bDEBUG,INFO,WARNING,ERROR\x7d] [--list-notations] [--version] [file]\n").toList

/-- The lines that explain the options. -/
def optionLines : List String := [
  "",
  "Convert a Go struct to a TypeScript interface and back",
  "",
  "positional arguments:",
  "  file                  File holding the declaration",
  "",
  "options:",
  "  -h, --help            show this help message and exit",
  "  --stdin               Read the declaration from standard input (default when no file is given)",
  "  --output FILE, -o FILE",
  "                        Output file (default: stdout)",
  "  --config FILE         JSON configuration file",
  "  --template-dir DIR    Directory with struct.go.j2 / interface.ts.j2 overriding the built-in templates",
  "  --no-tag-check        Convert Go structs even when fields lack JSON tags",
  "  --export              Emit `export interface` for TypeScript",
  "  --pretty              Show the result with syntax highlighting",
  "  --verbose             Show conversion metadata",
  "  --log-level \x7bDEBUG,INFO,WARNING,ERROR\x7d",
  "                        Logging level (default: WARNING)",
  "  --list-notations      List supported notations and exit",
  "  --version             show program's version number and exit",
  "",
  "Examples:",
  "  structbridge user.go",
  "  pbpaste | structbridge --no-tag-check",
  "  structbridge models.ts --output models.go",
  "  structbridge user.go --template-dir ./templates",
  "  structbridge --list-notations"]

/-- The answer to the question for help. -/
def helpText : Text := usageLine ++ optionLines.flatMap fun line => line.toList ++ ['\n']

/-- The answer to arguments that make no sense. -/
def usageError (message : Text) : Text :=
  usageLine ++ programName ++ ": error: ".toList ++ message ++ ['\n']

end CommandLine

end WireTypes
