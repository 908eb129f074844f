import WireTypes.Json.Printer
import WireTypes.Text.Case
import WireTypes.Event

/-! Logs: which events are kept at a level, and how they are written to a file. -/

namespace WireTypes

open Text

namespace Log

/-- The ranks that have names. The first name of a rank is the one it is shown by. -/
def namedRanks : List (Text × Int) := [
  ("CRITICAL".toList, 50), ("FATAL".toList, 50), ("ERROR".toList, 40), ("WARNING".toList, 30),
  ("WARN".toList, 30), ("INFO".toList, 20), ("DEBUG".toList, 10), ("NOTSET".toList, 0)]

/-- The rank of a name, whatever its case. -/
def rankOfName? (name : Text) : Option Int := namedRanks.lookup (upper name)

/-- The name of a rank. -/
def nameOfRank (rank : Int) : Text :=
  match namedRanks.find? (·.2 = rank) with
  | some (name, _) => name
  | none => "Level ".toList ++ Json.writeWhole rank

/-- A level as it is asked for. -/
inductive Level where
  | name (t : Text)
  | rank (n : Int)
deriving DecidableEq, Repr

/-- The wording about a level whose name is not known. -/
def unknownLevel (name : Text) : Text := "Unknown log level: ".toList ++ name

/-- The rank of a level, or the name that has none. -/
def Level.toRank : Level → Except Text Int
  | .rank n => .ok n
  | .name t =>
    match rankOfName? t with
    | some n => .ok n
    | none => .error t

/-- The rank that events have to reach. At rank zero nothing is set, and warnings are kept. -/
def threshold (rank : Int) : Int := if rank = 0 then Severity.warning.rank else rank

/-- The channel of a name: below the root channel, unless it is there already. -/
def channelOf (name : Text) : Text :=
  if name = Event.rootChannel ∨ (Event.rootChannel ++ ['.']).isPrefixOf name then name
  else Event.rootChannel ++ '.' :: name

/-- A message of some rank on a channel. -/
structure Record where
  rank : Int
  channel : Text
  message : Text
deriving DecidableEq, Repr

/-- The record of an event. -/
def Record.ofEvent (e : Event) : Record := ⟨e.severity.rank, e.channel, e.message⟩

/-- Whether a record is kept at a level. -/
def Record.isKept (rank : Int) (r : Record) : Bool := 0 < r.rank && threshold rank ≤ r.rank

/-- The line of a record behind the time. -/
def Record.line (time : Text) (r : Record) : Text :=
  let name := nameOfRank r.rank
  time ++ ' ' :: name ++ List.replicate (8 - name.length) ' ' ++ ' ' :: r.channel ++ ": ".toList ++
    r.message ++ ['\n']

/-- The records kept when levels are set one after the other and then some records come. Each
setting is reported at its own level. -/
def kept (levels : List Int) (records : List Record) : List Record :=
  let settings := levels.map fun rank => (rank, Record.ofEvent (.configured (nameOfRank rank)))
  (settings.filter fun (rank, r) => r.isKept rank).map (·.2) ++
    records.filter (·.isKept (levels.getLast?.getD 0))

/-- The text of a log file after records were added to it. -/
def append (before : Text) (time : Text) (records : List Record) : Text :=
  before ++ records.flatMap (·.line time)

/-- The events that are kept at a level. -/
def keptEvents (rank : Int) (events : List Event) : List Event :=
  events.filter fun e => (Record.ofEvent e).isKept rank

end Log

end WireTypes
