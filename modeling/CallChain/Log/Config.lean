import CallChain.Log.Record
import CallChain.Text.Percent

/-!
# Where log records go

Records below a level are dropped; the others are laid out as lines for the console and for every
attached log file.  Loggers form a hierarchy of dotted names below one root, and what is set for
the root holds for all of them.
-/

namespace CallChain.Log

/-- The level of a name; names that are none mean informative records. -/
def Level.ofText : String → Level
  | "debug" => .debug
  | "warning" => .warning
  | "error" => .error
  | _ => .info

/-- The name of a level by number. -/
def levelName (number : Int) : String :=
  if number = 0 then "NOTSET"
  else if number = 10 then "DEBUG"
  else if number = 20 then "INFO"
  else if number = 30 then "WARNING"
  else if number = 40 then "ERROR"
  else if number = 50 then "CRITICAL"
  else "Level " ++ toString number

/-- The name of a logger below the root. -/
def loggerName (name : String) : String :=
  if name = rootName ∨ Text.startsWith name (rootName ++ ".") then name else rootName ++ "." ++ name

def defaultLayout : String := "%(asctime)s - %(name)s - %(levelname)s - %(message)s"

/-- What is done with records. -/
structure Config where
  level : Int := Level.warning.number
  layout : String := defaultLayout
  /-- The log files, by their paths from the root. -/
  files : List String := []

namespace Config

/-- The level from which records are kept; level zero leaves the choice to the default. -/
def threshold (c : Config) : Int := if c.level = 0 then Level.warning.number else c.level

def accepts (c : Config) (r : Record) : Bool := c.threshold ≤ r.level

/-- A record as a line; nothing if the layout asks for what a record does not have. -/
def line? (c : Config) (stamp : String) (r : Record) : Option String :=
  (Text.Percent.renderNamed? c.layout [("asctime", .text stamp), ("name", .text r.logger),
    ("levelname", .text (levelName r.level)), ("message", .text r.message)]).map (· ++ "\n")

end Config

/-- What a user asks of the log. -/
structure Request where
  level : Int := Level.warning.number
  layout : String := defaultLayout
  file : Option String := none
  verbose : Bool := false
  debug : Bool := false

/-- The level that a request asks for. -/
def Request.effective (r : Request) : Int :=
  if r.debug then Level.debug.number
  else if r.verbose ∧ Level.info.number < r.level then Level.info.number
  else r.level

end CallChain.Log
