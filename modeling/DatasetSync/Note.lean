import DatasetSync.Text.Inspect

/-!
# Notes

The parts of a running system write notes for whoever watches it.  A note has a severity, the part
it comes from and a text; a note that repeats a log record also names the module of the record.
-/

namespace DatasetSync

/-- How much attention a note asks for, from the least to the most. -/
inductive Severity where
  | trace
  | debug
  | info
  | warn
  | error
  deriving DecidableEq, Repr, Inhabited

namespace Severity

def label : Severity → String
  | .trace => "TRACE"
  | .debug => "DEBUG"
  | .info => "INFO"
  | .warn => "WARN"
  | .error => "ERROR"

/-- The place in the order, from one for errors to five for traces. -/
def detail : Severity → Nat
  | .error => 1
  | .warn => 2
  | .info => 3
  | .debug => 4
  | .trace => 5

end Severity

inductive Source where
  | program
  | link
  | controller
  | transport
  | logServer
  | distributor
  | records
  | config
  deriving DecidableEq, Repr, Inhabited

namespace Source

/-- The path a source is known by to those who choose which notes to see. -/
def target : Source → String
  | .program => "exsync"
  | .link => "exsync::link"
  | .controller => "exsync::driver"
  | .transport => "exsync::transport::mock"
  | .logServer => "exsync::log::server"
  | .distributor => "exsync::log::distributor"
  | .records => "exsync::log_server"
  | .config => "exsync::config"

end Source

/-- A line written for whoever watches the system. -/
structure Note where
  severity : Severity
  source : Source
  text : String
  /-- The module of a repeated log record. -/
  moduleName : Option String := none
  deriving DecidableEq, Repr, Inhabited

namespace Note

/-- A character as a console shows it: one that could steer the console is spelled out. -/
def consoleCharacter (c : Char) : String :=
  match c with
  | '\x07' => "\\x07"
  | '\x08' => "\\x08"
  | '\x0c' => "\\x0c"
  | '\x1b' => "\\x1b"
  | '\x7f' => "\\x7f"
  | _ =>
      if 0x80 ≤ c.toNat && c.toNat ≤ 0x9f then "\\u\x7b" ++ Inspect.hex c.toNat ++ "\x7d"
      else String.singleton c

def consoleText (note : Note) : String :=
  String.join (note.text.toList.map consoleCharacter)

/-- The text of a note, and the module it names. -/
def content (note : Note) : String :=
  match note.moduleName with
  | none => note.consoleText
  | some moduleName => s!"{note.consoleText} module={Inspect.quoted moduleName}"

/-- The names of what a note says: its text, and the module if it names one. -/
def fieldNames (note : Note) : List String :=
  match note.moduleName with
  | none => ["message"]
  | some _ => ["message", "module"]

end Note

end DatasetSync
