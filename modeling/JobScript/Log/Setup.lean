import JobScript.Log.Level
import JobScript.Text.Surrogate

/-! # Where log records go

To the console and maybe to a file, each from its own level on. How much a line on the console says
hangs on the level of the console; the file always has everything.
-/

namespace JobScript.Log

structure FileSetup where
  path : String
  level : Int
deriving DecidableEq, Repr

structure Setup where
  console : Int
  file : Option FileSetup
deriving DecidableEq, Repr

/-- What a line says besides the record: the time of day, the date with it, and the place in the code. -/
structure Stamp where
  time : String
  dateTime : String
  line : String
deriving DecidableEq, Repr

namespace Setup

/-- The file has the level of the console unless it has one of its own; empty texts count as none. -/
def ofNames (level file fileLevel : Option String) : Setup :=
  let console := levelOf level
  let own := (fileLevel.filter (· ≠ "")).map fun name => levelOf (some name)
  ⟨console, (file.filter (· ≠ "")).map fun path => ⟨path, own.getD console⟩⟩

/-- The level below which nothing is recorded at all. -/
def effective (s : Setup) : Int :=
  match s.file with
  | some file => min s.console file.level
  | none => s.console

def handlerLevels (s : Setup) : List Int := s.console :: s.file.toList.map (·.level)

/-- Records without a level above zero are never taken. -/
def takes (s : Setup) (level : Int) (r : Record) : Bool :=
  decide (0 < r.level) && decide (s.effective ≤ r.level) && decide (level ≤ r.level)

end Setup

def padRight (width : Nat) (s : String) : String :=
  s ++ String.ofList (List.replicate (width - s.length) ' ')

/-- The logger without a name is called the root. -/
def loggerName (r : Record) : String := if r.logger = "" then "root" else r.logger

def fullLine (time line : String) (r : Record) : String :=
  s!"{time} {padRight 5 (levelName r.level)} {loggerName r}:{line} — {r.message}"

def consoleLine (s : Setup) (stamp : Stamp) (r : Record) : String :=
  if s.console ≤ debugLevel then fullLine stamp.time stamp.line r
  else if s.console ≤ infoLevel then s!"{stamp.time} [{loggerName r}] {r.message}"
  else r.message

def endLine (line : String) : String := line ++ "\n"

def consoleText (s : Setup) (stamp : Stamp) (records : List Record) : String :=
  String.join ((records.filter (s.takes s.console)).map (endLine ∘ consoleLine s stamp))

/-- A line that cannot be encoded does not get into the file. -/
def fileText (s : Setup) (file : FileSetup) (stamp : Stamp) (records : List Record) : String :=
  let lines := (records.filter (s.takes file.level)).map
    (endLine ∘ fullLine stamp.dateTime stamp.line)
  String.join (lines.filter Text.isEncodable)

end JobScript.Log
