import DatasetSync.Config.Files
import DatasetSync.Demo
import DatasetSync.Note.Filter
import DatasetSync.Note.Line

/-!
# The program

The command line takes a configuration file and a number of cycles, both of which may be left out,
and runs the demonstration.  Notes that pass the filter are shown and, if a log directory is
configured, also go to a file for each day.  What the program needs of the machine it runs on is
asked of a host.
-/

namespace DatasetSync

/-- The machine a program runs on. -/
class Host (m : Type → Type) extends Disk m where
  /-- The present time. -/
  now : m Timestamp
  /-- Show a note. -/
  display : Note → m Unit
  /-- Say why the program ends early. -/
  complain : String → m Unit
  /-- Let so many milliseconds pass. -/
  wait : Nat → m Unit
  /-- Whether so many bytes of memory are to be had at once. -/
  grants : Nat → m Bool

namespace Program

structure Invocation where
  arguments : List String
  /-- Which notes are asked for. -/
  noteFilter : Option String
  /-- The user's directory for configurations. -/
  configHome : Option String
  deriving DecidableEq, Repr, Inhabited

/-- Why a program ends early. -/
inductive Failure where
  /-- What it was about to do cannot be done.  What lies behind is listed, outermost first. -/
  | refused (message : String) (causes : List String)
  /-- It met something it is not prepared for. -/
  | broken (reason : String)
  /-- It did not get so many bytes of memory. -/
  | exhausted (bytes : Nat)
  deriving DecidableEq, Repr, Inhabited

namespace Failure

def numbered (number : Nat) : List String → String
  | [] => ""
  | cause :: rest => s!"\n    {number}: {cause}" ++ numbered (number + 1) rest

/--
The failure as it is shown.  Several causes are numbered; an empty line goes before what the program
is not prepared for.
-/
def text : Failure → String
  | .refused message [] => s!"Error: {message}"
  | .refused message [cause] => s!"Error: {message}\n\nCaused by:\n    {cause}"
  | .refused message causes => s!"Error: {message}\n\nCaused by:" ++ numbered 0 causes
  | .broken reason => s!"\nThe program is broken: {reason}"
  | .exhausted bytes => s!"memory allocation of {bytes} bytes failed"

/-- The exit code of a program that fails.  One without memory ends without any. -/
def exitCode : Failure → Option UInt32
  | .refused _ _ => some 1
  | .broken _ => some 101
  | .exhausted _ => none

/-- An error and everything behind it, in words. -/
def chain : Error → List String
  | .within context cause => s!"{context}: {cause.message}" :: chain cause
  | .io reason => [(Error.io reason).message, reason]
  | error => [error.message]

def ofError (error : Error) : Failure :=
  .refused error.message ((chain error).drop 1)

def within (message : String) (error : Error) : Failure :=
  .refused message (chain error)

def ofObstacle : Obstacle → Failure
  | .refused error => .ofError error
  | .outOfRange => .broken "capacity overflow"

end Failure

/-! ## What is asked for -/

def countProblem (text : String) : String :=
  let digits := match text.toList with
    | '+' :: rest => rest
    | digits => digits
  if text.isEmpty then "cannot parse integer from empty string"
  else if digits ≠ [] ∧ digits.all Text.isDecimal then
    "number too large to fit in target type"
  else
    "invalid digit found in string"

/-- Read a number of cycles of at most 64 bits; a plus sign may stand in front. -/
def readCount (text : String) : Except Failure Nat :=
  let digits := match text.toList with
    | '+' :: rest => rest
    | digits => digits
  match Text.readDecimal? digits with
  | some count =>
      if count < Decode.wordLimit then .ok count
      else .error (.refused s!"invalid cycle count '{text}'" [countProblem text])
  | none => .error (.refused s!"invalid cycle count '{text}'" [countProblem text])

structure Plan where
  config : Config
  cycles : Nat
  filter : NoteFilter
  deriving DecidableEq, Repr, Inhabited

/-- The notes that are shown; the standard ones if nothing readable is asked for. -/
def noteFilter (asked : Option String) : Except Failure NoteFilter :=
  match asked.map NoteFilter.ofText with
  | none => .ok NoteFilter.standard
  | some (.ok filter) => .ok filter
  | some (.error .malformed) => .ok NoteFilter.standard
  | some (.error .torn) => .error (.broken "a rule for notes ends inside a character")

/-- The configuration that is run: one without channels gives way to that of the demonstration. -/
def effective (config : Config) : Config :=
  if config.link.channels.isEmpty then Demo.config else config

variable {m : Type → Type} [Monad m] [Host m]

def loadConfig (invocation : Invocation) : m (Except Failure Config) := do
  match invocation.arguments with
  | path :: _ => return (← Config.load path).mapError (.within s!"loading {path}")
  | [] =>
      return (← Config.loadStandard invocation.configHome).mapError
        (.within "loading default config")

def countCycles (invocation : Invocation) : Except Failure Nat :=
  match invocation.arguments[1]? with
  | some text => readCount text
  | none => .ok Demo.standardCycles

def plan (invocation : Invocation) : m (Except Failure Plan) := do
  match ← loadConfig invocation with
  | .error failure => return .error failure
  | .ok config =>
      return do
        let cycles ← countCycles invocation
        let filter ← noteFilter invocation.noteFilter
        return ⟨effective config, cycles, filter⟩

/-! ## Memory -/

/-- Ask the machine for blocks in order.  Those from the first on that cannot be addressed are never
asked for. -/
def reserve : List Nat → m (Except Failure Unit)
  | [] => return .ok ()
  | bytes :: rest => do
      if addressLimit ≤ bytes then
        return .ok ()
      if ← Host.grants bytes then
        reserve rest
      else
        return .error (.exhausted bytes)

/-- Ask the machine for what a link is made of.  Nothing is made of a link that is not valid. -/
def reserveLink (link : LinkConfig) : m (Except Failure Unit) :=
  reserve (if link.validate.isOk then link.blocks else [])

/-! ## Where notes go -/

def logPath (log : LogConfig) (directory : String) (now : Timestamp) : String :=
  Path.join directory s!"{log.moduleName}.log.{now.date.text}"

/-- Begin a log file; if that fails, once more in a directory made for it. -/
def beginLog (path : String) : m (Except DiskError Unit) := do
  match ← Disk.append path "" with
  | .ok _ => return .ok ()
  | .error _ =>
      match ← Disk.makeDirectories ((Path.parent? path).getD "") with
      | .error error => return .error error
      | .ok _ => Disk.append path ""

def openLog (log : LogConfig) : m (Except Failure Unit) := do
  match log.directory with
  | none => return .ok ()
  | some directory =>
      match ← Disk.makeDirectories directory with
      | .error error => return .error (.ofError (.io error.message))
      | .ok _ =>
          let answer ← beginLog (logPath log directory (← Host.now))
          return answer.mapError fun error => .broken s!"no log file: {error.message}"

/-- Show a note and write it to the log file. -/
def publish (log : LogConfig) (note : Note) : m Unit := do
  Host.display note
  match log.directory with
  | none => return ()
  | some directory =>
      let now ← Host.now
      let _ ← Disk.append (logPath log directory now) (note.line now ++ "\n")

/-- Publish the notes that pass the filter. -/
def publishAll (plan : Plan) : List Note → m Unit
  | [] => return ()
  | note :: rest => do
      if plan.filter.shows note then
        publish plan.config.log note
      publishAll plan rest

/-- The value of a trail, after its notes were published. -/
def tell {α : Type} (plan : Plan) (trail : Trail Note α) : m α := do
  publishAll plan trail.marks
  return trail.value

/-! ## The run -/

def runCycles (plan : Plan) (demo : Demo) (number : Nat) : Nat → m (Except Error Demo)
  | 0 => return .ok demo
  | remaining + 1 => do
      match ← tell plan (demo.cycle number (← Host.now)) with
      | .error error => return .error error
      | .ok demo =>
          Host.wait plan.config.cycle.milliseconds
          runCycles plan demo (number + 1) remaining

def greeting (plan : Plan) : Trail Note Unit :=
  Demo.say .info <| s!"Starting exsync demo: link {plan.config.link.instanceName} with " ++
    s!"{plan.config.link.channels.length} channel(s), {plan.cycles} cycles"

def start (plan : Plan) : m (Except Failure Demo) := do
  match ← tell plan (Demo.openLog plan.config.log (← Host.now)) with
  | .error error => return .error (.ofError error)
  | .ok station =>
      match ← reserveLink plan.config.link with
      | .error failure => return .error failure
      | .ok _ => return (Demo.start plan.config.link station).mapError .ofObstacle

def runPlan (plan : Plan) : m (Except Failure Unit) := do
  match ← openLog plan.config.log with
  | .error failure => return .error failure
  | .ok _ =>
      tell plan (greeting plan)
      match ← start plan with
      | .error failure => return .error failure
      | .ok demo =>
          match ← runCycles plan demo 0 plan.cycles with
          | .error error => return .error (.ofError error)
          | .ok demo =>
              let _ ← tell plan demo.finish
              return .ok ()

/-- Say why the program ends early, and answer its exit code. -/
def giveUp (failure : Failure) : m (Option UInt32) := do
  Host.complain failure.text
  return failure.exitCode

/-- Run the program and answer its exit code; none if it ends without any. -/
def run (invocation : Invocation) : m (Option UInt32) := do
  match ← plan invocation with
  | .error failure => giveUp failure
  | .ok plan =>
      match ← runPlan plan with
      | .error failure => giveUp failure
      | .ok _ => return some 0

end Program

end DatasetSync
