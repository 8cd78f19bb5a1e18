import KidsListing.Text.Blank

/-!
# Log levels

The levels of the log with their severities.  A level is configured by its name
in any case, and a name that is none of the eight means `info`.
-/

namespace KidsListing

inductive LogLevel where
  | critical
  | error
  | warning
  | info
  | debug
  | notSet
  deriving DecidableEq, Repr

namespace LogLevel

def severity : LogLevel → Nat
  | .critical => 50
  | .error => 40
  | .warning => 30
  | .info => 20
  | .debug => 10
  | .notSet => 0

def label : LogLevel → String
  | .critical => "CRITICAL"
  | .error => "ERROR"
  | .warning => "WARNING"
  | .info => "INFO"
  | .debug => "DEBUG"
  | .notSet => "NOTSET"

/-- Upper case, as far as it bears on the names of levels: besides the ASCII
letters, only the dotless i and the long s have a single ASCII capital. -/
def capital (c : Char) : Char :=
  if c = '\u0131' then 'I' else if c = '\u017F' then 'S' else c.toUpper

def ofName? : String → Option LogLevel
  | "CRITICAL" => some .critical
  | "FATAL" => some .critical
  | "ERROR" => some .error
  | "WARNING" => some .warning
  | "WARN" => some .warning
  | "INFO" => some .info
  | "DEBUG" => some .debug
  | "NOTSET" => some .notSet
  | _ => none

def ofText (text : String) : LogLevel :=
  (ofName? (String.ofList ((Text.trim text.toList).map capital))).getD .info

end LogLevel

/-- The logger of the service. -/
structure Logger where
  level : LogLevel := .notSet
  name : String := "kids_feed"
  propagates : Bool := true
  handlers : Nat := 0
  deriving DecidableEq, Repr

/-- Configuring sets the level, keeps entries from the loggers above, and leaves
one handler in place of those there were; a missing level counts as blank. -/
def Logger.configure (logger : Logger) (level : Option String) : Logger :=
  { logger with level := LogLevel.ofText (level.getD ""), propagates := false, handlers := 1 }

end KidsListing
