/-!
# Log records

A record is one message at a level, from a named logger.  What becomes of it is decided where
records are written, not where they arise.
-/

namespace CallChain.Log

/-- How much a record matters. -/
inductive Level where
  | debug
  | info
  | warning
  | error
  deriving DecidableEq

def Level.number : Level → Int
  | .debug => 10
  | .info => 20
  | .warning => 30
  | .error => 40

/-- The name at the root of all loggers. -/
def rootName : String := "callpath"

/-- One message. -/
structure Record where
  level : Int
  message : String
  logger : String := rootName

def debug (message : String) : Record := ⟨Level.debug.number, message, rootName⟩
def info (message : String) : Record := ⟨Level.info.number, message, rootName⟩
def warning (message : String) : Record := ⟨Level.warning.number, message, rootName⟩
def error (message : String) : Record := ⟨Level.error.number, message, rootName⟩

end CallChain.Log
