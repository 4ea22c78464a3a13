/-!
# Log records

* `Severity`, `Severity.rank` : how grave a record is, by name and by number;
* `Record` : one record with the name of the part that wrote it;
* `Record.keptAt` : whether a record passes a threshold;
* `Record.line` : the line a record makes on a terminal.
-/

namespace KeyRecovery.Log

inductive Severity
  | debug | info | warning | error
  deriving DecidableEq, Repr

namespace Severity

def rank : Severity → Int
  | debug => 10
  | info => 20
  | warning => 30
  | error => 40

def name : Severity → String
  | debug => "DEBUG"
  | info => "INFO"
  | warning => "WARNING"
  | error => "ERROR"

end Severity

/-- The threshold of a log that nobody has set up. -/
def defaultThreshold : Int := Severity.warning.rank

structure Record where
  severity : Severity
  logger : String
  message : String
  deriving DecidableEq

def Record.keptAt (threshold : Int) (r : Record) : Bool := threshold ≤ r.severity.rank

def Record.line (stamp : String) (r : Record) : String :=
  "[" ++ stamp ++ "] " ++ r.severity.name ++ " " ++ r.logger ++ ": " ++ r.message ++ "\n"

end KeyRecovery.Log
