import DatasetSync.Connection
import DatasetSync.Text.Inspect

/-!
# Faults and errors

A fault is what a transport reports: a numbered code and a reason.  An error is what an operation of
this library answers when it refuses or fails.  Each error has a kind and a code; a context in front
of an error changes its message only.  What is to be made can moreover be too large for the
addresses there are; then nothing is answered, and the program breaks.
-/

namespace DatasetSync

/-- The codes a transport can report. -/
inductive ErrorCode where
  | ok
  | notImplemented
  | parameterNull
  | badLinkHandle
  | badChannelHandle
  | badLogHandle
  | badSyncHandle
  | notAllowed
  | notFound
  | stringFormat
  | messageFormat
  | noData
  | bufferOverflow
  | timeout
  | badDatasetSize
  | user
  | system
  | systemSocket
  | systemSocketUsage
  | systemMalloc
  | systemLxi
  | notReady
  | serverShutdown
  | badState
  deriving DecidableEq, Repr, Inhabited

namespace ErrorCode

def all : List ErrorCode :=
  [.ok, .notImplemented, .parameterNull, .badLinkHandle, .badChannelHandle, .badLogHandle,
    .badSyncHandle, .notAllowed, .notFound, .stringFormat, .messageFormat, .noData, .bufferOverflow,
    .timeout, .badDatasetSize, .user, .system, .systemSocket, .systemSocketUsage, .systemMalloc,
    .systemLxi, .notReady, .serverShutdown, .badState]

def number : ErrorCode → Nat
  | .ok => 0
  | .notImplemented => 5000
  | .parameterNull => 5001
  | .badLinkHandle => 5002
  | .badChannelHandle => 5003
  | .badLogHandle => 5004
  | .badSyncHandle => 5005
  | .notAllowed => 5006
  | .notFound => 5007
  | .stringFormat => 5008
  | .messageFormat => 5009
  | .noData => 5010
  | .bufferOverflow => 5011
  | .timeout => 5012
  | .badDatasetSize => 5013
  | .user => 5014
  | .system => 5015
  | .systemSocket => 5016
  | .systemSocketUsage => 5017
  | .systemMalloc => 5018
  | .systemLxi => 5019
  | .notReady => 5020
  | .serverShutdown => 5021
  | .badState => 5022

def name : ErrorCode → String
  | .ok => "Ok"
  | .notImplemented => "NotImplemented"
  | .parameterNull => "ParameterNull"
  | .badLinkHandle => "BadLinkHandle"
  | .badChannelHandle => "BadChannelHandle"
  | .badLogHandle => "BadLogHandle"
  | .badSyncHandle => "BadSyncHandle"
  | .notAllowed => "NotAllowed"
  | .notFound => "NotFound"
  | .stringFormat => "StringFormat"
  | .messageFormat => "MessageFormat"
  | .noData => "NoData"
  | .bufferOverflow => "BufferOverflow"
  | .timeout => "Timeout"
  | .badDatasetSize => "BadDatasetSize"
  | .user => "User"
  | .system => "System"
  | .systemSocket => "SystemSocket"
  | .systemSocketUsage => "SystemSocketUsage"
  | .systemMalloc => "SystemMalloc"
  | .systemLxi => "SystemLxi"
  | .notReady => "NotReady"
  | .serverShutdown => "ServerShutdown"
  | .badState => "BadState"

def description : ErrorCode → String
  | .ok => "no error"
  | .notImplemented => "not implemented"
  | .parameterNull => "parameter is null"
  | .badLinkHandle => "bad link handle"
  | .badChannelHandle => "bad channel handle"
  | .badLogHandle => "bad log handle"
  | .badSyncHandle => "bad sync handle"
  | .notAllowed => "not allowed"
  | .notFound => "not found"
  | .stringFormat => "bad string format"
  | .messageFormat => "bad message format"
  | .noData => "no data"
  | .bufferOverflow => "buffer overflow"
  | .timeout => "timeout"
  | .badDatasetSize => "bad dataset size"
  | .user => "user error"
  | .system => "system error"
  | .systemSocket => "system socket error"
  | .systemSocketUsage => "system socket usage error"
  | .systemMalloc => "memory allocation failed"
  | .systemLxi => "system lxi error"
  | .notReady => "not ready"
  | .serverShutdown => "server shutdown"
  | .badState => "bad state"

def ofNumber? (value : Nat) : Option ErrorCode :=
  all.find? (·.number == value)

def ofName? (text : String) : Option ErrorCode :=
  all.find? (·.name == text)

end ErrorCode

/-- A failure reported by a transport. -/
structure Fault where
  code : ErrorCode
  reason : String
  deriving DecidableEq, Repr, Inhabited

namespace Fault

def message (fault : Fault) : String :=
  s!"{fault.code.description} ({fault.code.number}): {fault.reason}"

def inspect (fault : Fault) : String :=
  Inspect.record "TransportFault"
    [("code", fault.code.name), ("reason", Inspect.quoted fault.reason)]

end Fault

/-- The families of errors a caller can tell apart. -/
inductive ErrorKind where
  | badState
  | badDatasetSize
  | notReady
  | notAllowed
  | overflow
  | empty
  | transportAborted
  | notFound
  | invalidName
  | config
  | channel
  | io
  | serialization
  deriving DecidableEq, Repr, Inhabited

namespace ErrorKind

def name : ErrorKind → String
  | .badState => "BadState"
  | .badDatasetSize => "BadDatasetSize"
  | .notReady => "NotReady"
  | .notAllowed => "NotAllowed"
  | .overflow => "Overflow"
  | .empty => "Empty"
  | .transportAborted => "TransportAborted"
  | .notFound => "NotFound"
  | .invalidName => "InvalidName"
  | .config => "Config"
  | .channel => "Channel"
  | .io => "Io"
  | .serialization => "Serialization"

end ErrorKind

/-- Why an operation was refused or failed. -/
inductive Error where
  /-- The operation is not possible in the present state. -/
  | badState (operation : String) (state : ConnectionState)
  /-- A payload does not have the size of its dataset. -/
  | badDatasetSize (expected actual : Nat)
  /-- Something has to happen first. -/
  | notReady (reason : String)
  /-- The operation is never possible here. -/
  | notAllowed (reason : String)
  /-- A full buffer refused a record; `dropped` records have been refused so far. -/
  | overflow (dropped : Nat)
  /-- There is nothing to take out of a buffer. -/
  | empty
  /-- The transport reported a fault. -/
  | transportAborted (fault : Fault)
  /-- The thing asked for does not exist. -/
  | notFound (thing : String)
  /-- A name is empty or too long. -/
  | invalidName (reason : String)
  /-- A configuration contradicts itself or cannot be reached. -/
  | config (reason : String)
  /-- The other end of a queue is gone. -/
  | channel (reason : String)
  /-- The operating system refused. -/
  | io (reason : String)
  /-- A text is not a document of the expected shape. -/
  | serialization (reason : String)
  /-- An error with the circumstances in front. -/
  | within (context : String) (cause : Error)
  deriving DecidableEq, Repr, Inhabited

namespace Error

/-- The family of an error; circumstances do not change it. -/
def kind : Error → ErrorKind
  | .badState .. => .badState
  | .badDatasetSize .. => .badDatasetSize
  | .notReady _ => .notReady
  | .notAllowed _ => .notAllowed
  | .overflow _ => .overflow
  | .empty => .empty
  | .transportAborted _ => .transportAborted
  | .notFound _ => .notFound
  | .invalidName _ => .invalidName
  | .config _ => .config
  | .channel _ => .channel
  | .io _ => .io
  | .serialization _ => .serialization
  | .within _ cause => cause.kind

def code : Error → ErrorCode
  | .badState .. => .badState
  | .badDatasetSize .. => .badDatasetSize
  | .notReady _ => .notReady
  | .notAllowed _ => .notAllowed
  | .overflow _ => .bufferOverflow
  | .empty => .noData
  | .transportAborted fault => fault.code
  | .notFound _ => .notFound
  | .invalidName _ => .stringFormat
  | .config _ => .messageFormat
  | .channel _ => .system
  | .io _ => .system
  | .serialization _ => .messageFormat
  | .within _ cause => cause.code

def message : Error → String
  | .badState operation state => s!"Bad state: cannot {operation} while {state.name}"
  | .badDatasetSize expected actual =>
      s!"Bad dataset size: expected {expected} bytes, got {actual}"
  | .notReady reason => s!"Not ready: {reason}"
  | .notAllowed reason => s!"Not allowed: {reason}"
  | .overflow dropped => s!"Buffer overflow ({dropped} records dropped so far)"
  | .empty => "Buffer empty"
  | .transportAborted fault => s!"Transport aborted: {fault.message}"
  | .notFound thing => s!"Not found: {thing}"
  | .invalidName reason => s!"Invalid name: {reason}"
  | .config reason => s!"Configuration error: {reason}"
  | .channel reason => s!"Channel error: {reason}"
  | .io reason => s!"IO error: {reason}"
  | .serialization reason => s!"Serialization error: {reason}"
  | .within context cause => s!"{context}: {cause.message}"

def fault? : Error → Option Fault
  | .transportAborted fault => some fault
  | .within _ cause => cause.fault?
  | _ => none

/-- What lies directly behind an error, in words. -/
def source? : Error → Option String
  | .within _ cause => some cause.message
  | .io reason => some reason
  | _ => none

end Error

/-- Why something was not made. -/
inductive Obstacle where
  | refused (error : Error)
  /-- It takes more bytes than can be addressed.  Its maker never answers. -/
  | outOfRange
  deriving DecidableEq, Repr, Inhabited

/-- The least number of bytes that no block of memory has. -/
def addressLimit : Nat := 0x8000000000000000

end DatasetSync
