import WireTypes.Text.Quoted
import WireTypes.Declaration.Header

/-! Events: what the library reports beside its answers. -/

namespace WireTypes

/-- How much an event matters. -/
inductive Severity where
  | debug
  | info
  | warning
  | error
  | critical
deriving DecidableEq, Repr

namespace Severity

/-- The rank of a severity on the scale of levels. -/
def rank : Severity → Int
  | debug => 10
  | info => 20
  | warning => 30
  | error => 40
  | critical => 50

/-- The name of a severity. -/
def name : Severity → Text
  | debug => "DEBUG".toList
  | info => "INFO".toList
  | warning => "WARNING".toList
  | error => "ERROR".toList
  | critical => "CRITICAL".toList

end Severity

/-- Something worth reporting. -/
inductive Event where
  /-- A line of a body that is no field. -/
  | skippedLine (line : Text)
  /-- A declaration whose closing brace is missing. -/
  | unclosed (name : Text) (fieldCount : Nat)
  /-- A union of several types, which a struct cannot say. -/
  | foldedUnion (union : Text)
  /-- Fields that were given tags. -/
  | tagged (names : List Text)
  /-- A text that is not converted. -/
  | rejected (cause : Rejection)
  /-- A declaration that was converted. -/
  | converted (source : Notation) (name : Text) (fieldCount : Nat)
  /-- A run of the command line that failed. -/
  | failed (message : Text)
  /-- A level that was set for all events. -/
  | configured (level : Text)
deriving DecidableEq, Repr

namespace Event

/-- How much the event matters. -/
def severity : Event → Severity
  | skippedLine _ | foldedUnion _ | configured _ => .debug
  | tagged _ | rejected _ | converted .. => .info
  | unclosed .. => .warning
  | failed _ => .error

/-- The name under which all events are reported. -/
def rootChannel : Text := "structbridge".toList

/-- The name under which the event is reported. -/
def channel : Event → Text
  | skippedLine _ | unclosed .. => "structbridge.core.parser".toList
  | foldedUnion _ => "structbridge.languages.typescript.parser".toList
  | tagged _ => "structbridge.languages.go.tags".toList
  | rejected _ | converted .. => "structbridge.converter".toList
  | failed _ => "structbridge.cli".toList
  | configured _ => rootChannel

/-- The wording of the event. -/
def message : Event → Text
  | skippedLine line => "Skipping line: ".toList ++ Text.quoted line
  | unclosed name n =>
    "Declaration ".toList ++ name ++ " has no closing brace; parsed ".toList ++ Text.ofNat n ++
      " field(s)".toList
  | foldedUnion union =>
    "Union ".toList ++ Text.quoted union ++ " has no Go equivalent, using unknown".toList
  | tagged names =>
    "Adding JSON tags to ".toList ++ Text.ofNat names.length ++ " field(s): ".toList ++
      Text.commaSeparated names
  | rejected cause => "Input rejected: ".toList ++ cause.kind
  | converted source name n =>
    "Converted ".toList ++ source.name ++ " ".toList ++ name ++ " to ".toList ++
      source.target.name ++ " (".toList ++ Text.ofNat n ++ " field(s))".toList
  | failed message => message
  | configured level => "Logging configured at level ".toList ++ level

end Event

end WireTypes
