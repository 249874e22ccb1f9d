/-!
# Log records

A record has a level, a source, a message, and named values.
-/

namespace CsrCensus.Log

/-- How important a record is. -/
inductive Level where
  | error
  | warn
  | info
  | debug
  | trace
deriving DecidableEq, Repr

/-- The rank of a level; more important levels have a lower one. -/
def Level.rank : Level → Nat
  | .error => 1
  | .warn => 2
  | .info => 3
  | .debug => 4
  | .trace => 5

def Level.label : Level → String
  | .error => "ERROR"
  | .warn => "WARN"
  | .info => "INFO"
  | .debug => "DEBUG"
  | .trace => "TRACE"

/-- What a record is about. -/
inductive Source where
  | loading
  | listing
  | survey
  | command
deriving DecidableEq, Repr

/-- The name of a source, by which records are selected. -/
def Source.name : Source → String
  | .loading => "csrscan_core::image::loader"
  | .listing => "csrscan_core::image::listing"
  | .survey => "csrscan_core::scan::scanner"
  | .command => "csrscan"

/-- A log record. -/
structure Record where
  level : Level
  source : Source
  message : String
  /-- Named values, in the order in which they are written. -/
  values : List (String × String)
deriving DecidableEq, Repr

/-- The name under which the message counts as a value. -/
def messageName : String := "message"

def Record.hasValue (record : Record) (name : String) : Bool :=
  name = messageName || record.values.any fun value => value.1 = name

/-- The line of a record: level, message, and the values behind it. -/
def Record.line (record : Record) : String :=
  " ".intercalate
    (record.level.label :: record.message ::
      record.values.map fun (name, value) => name ++ "=" ++ value)

end CsrCensus.Log
