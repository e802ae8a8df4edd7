import DatasetSync.Calendar
import DatasetSync.Note
import DatasetSync.Text.Blank
import DatasetSync.Text.Cut

/-!
# Lines of notes

A console and a log file show a note in one line: the time, the severity, the source and the text.
Such lines can be read again; what they show apart from times is kept.
-/

namespace DatasetSync

def Note.line (note : Note) (time : Timestamp) : String :=
  let label := String.ofList (List.replicate (5 - note.severity.label.length) ' ')
  s!"{time.microText} {label}{note.severity.label} {note.source.target}: {note.content}"

/-- What a line shows of a note, apart from times. -/
structure NoteLine where
  label : String
  target : String
  content : String
  deriving DecidableEq, Repr, Inhabited

namespace NoteLine

/-- Read a line.  Where a note repeats a record, the time of the record is left out too. -/
def ofText (line : String) : NoteLine :=
  let (_, rest) := Text.cutAt [' '] line.toList
  let (label, rest) := Text.cutAt [' '] (Text.trimStart rest)
  let (target, content) := Text.cutAt [':', ' '] rest
  let target := String.ofList target
  let content := if target = Source.records.target then (Text.cutAt [' '] content).2 else content
  ⟨String.ofList label, target, String.ofList content⟩

def readAll (text : String) : List NoteLine :=
  (Text.lines text).map ofText

end NoteLine

end DatasetSync
