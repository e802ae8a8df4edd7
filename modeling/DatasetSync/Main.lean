import DatasetSync.Program
import Std.Time.DateTime.Timestamp

/-!
# The command line

The machine itself as a host, and the entry of the program.
-/

namespace DatasetSync

def failureCode : IO.Error → Option (Nat × String)
  | .alreadyExists _ code words | .otherError code words | .resourceBusy code words
  | .resourceVanished code words | .unsupportedOperation code words | .hardwareFault code words
  | .unsatisfiedConstraints code words | .illegalOperation code words
  | .protocolError code words | .timeExpired code words | .interrupted _ code words
  | .noFileOrDirectory _ code words | .invalidArgument _ code words
  | .permissionDenied _ code words | .resourceExhausted _ code words
  | .inappropriateType _ code words | .noSuchThing _ code words =>
      some (code.toInt32.toInt.natAbs, words)
  | .unexpectedEof | .userError _ => none

def DiskError.ofFailure (failure : IO.Error) : DiskError :=
  match failureCode failure with
  | some (2, _) => .noSuchFile
  | some (17, _) => .alreadyThere
  | some (20, _) => .notDirectory
  | some (21, _) => .isDirectory
  | some (36, _) => .nameTooLong
  | some (code, words) => .other s!"{words} (os error {code})"
  | none => .other (toString failure)

def attempt {α : Type} (path : String) (act : IO α) : IO (Except DiskError α) := do
  if Path.holdsTerminator path then
    return .error .terminatorInName
  try
    return .ok (← act)
  catch failure =>
    return .error (.ofFailure failure)

def readText (path : String) : IO (Except DiskError String) := do
  match ← attempt path (IO.FS.readBinFile path) with
  | .error error => return .error error
  | .ok content =>
      match String.fromUTF8? content with
      | some text => return .ok text
      | none => return .error .notText

def appendText (path text : String) : IO Unit := do
  let handle ← IO.FS.Handle.mk path .append
  handle.putStr text

def presentTime : IO Timestamp := do
  let nanos := (← Std.Time.Timestamp.now).toNanosecondsSinceUnixEpoch.val
  return ⟨nanos.fdiv Timestamp.nanosPerSecond, (nanos.fmod Timestamp.nanosPerSecond).toNat⟩

/-- The longest time in milliseconds that can be slept at a stretch. -/
def longestSleep : Nat := 0xffffffff

def sleep (milliseconds : Nat) : IO Unit := do
  for _ in [0:milliseconds / longestSleep] do
    IO.sleep longestSleep.toUInt32
  IO.sleep (milliseconds % longestSleep).toUInt32

/-- A figure of the machine's account of its memory, in bytes. -/
def memoryFigure (account : List String) (name : String) : Nat :=
  let figures := (account.filter (·.startsWith name)).flatMap fun line =>
    (line.splitOn " ").filterMap String.toNat?
  figures.headD 0 * 1024

def totalMemory : IO (Option Nat) := do
  match ← readText "/proc/meminfo" with
  | .error _ => return none
  | .ok text =>
      let account := text.splitOn "\n"
      return some (memoryFigure account "MemTotal:" + memoryFigure account "SwapTotal:")

instance : Host IO where
  read := readText
  write path text := attempt path (IO.FS.writeFile path text)
  append path text := attempt path (appendText path text)
  makeDirectory path := attempt path (IO.FS.createDir path)
  isThere path := return (← attempt path (IO.FS.realPath path)).isOk
  isDirectory path := do
    match ← attempt path (IO.FS.realPath path) with
    | .ok found => found.isDir
    | .error _ => return false
  now := presentTime
  display note := do IO.println (note.line (← presentTime))
  complain text := IO.eprintln text
  wait := sleep
  grants bytes := return ((← totalMemory).map fun total => decide (bytes ≤ total)).getD true

def userConfigHome : IO (Option String) := do
  let asked := (← IO.getEnv "XDG_CONFIG_HOME").filter Path.isAbsolute
  let home := (← IO.getEnv "HOME").map (Path.join · ".config")
  return asked <|> home

end DatasetSync

/-- Run the demonstration with a configuration file and a number of cycles. -/
def main (arguments : List String) : IO UInt32 := do
  let code ← DatasetSync.Program.run {
    arguments
    noteFilter := ← IO.getEnv "RUST_LOG"
    configHome := ← DatasetSync.userConfigHome }
  return code.getD 134
