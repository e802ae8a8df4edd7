import DatasetSync.FileTree
import DatasetSync.Program

/-!
# Hosts in memory

A machine on which a program can be run without touching anything: files lie in a tree, the console
and the complaints are texts, and the clock stands still.  It has as much memory as one likes.
-/

namespace DatasetSync

/-- A machine in memory, on which less than so many bytes are to be had at once. -/
structure MemoryHost (memory : Nat) where
  files : FileTree
  clock : Timestamp
  /-- What the console shows so far. -/
  console : String
  /-- What was said about an early end. -/
  complaints : List String
  deriving Repr, Inhabited

namespace MemoryHost

variable {memory : Nat} {α : Type}

def onFiles (act : StateM FileTree α) : StateM (MemoryHost memory) α := fun host =>
  let (value, files) := act host.files
  (value, { host with files })

instance : Host (StateM (MemoryHost memory)) where
  read path := onFiles (Disk.read path)
  write path text := onFiles (Disk.write path text)
  append path text := onFiles (Disk.append path text)
  makeDirectory path := onFiles (Disk.makeDirectory path)
  isThere path := onFiles (Disk.isThere path)
  isDirectory path := onFiles (Disk.isDirectory path)
  now host := (host.clock, host)
  display note host := ((), { host with console := host.console ++ note.line host.clock ++ "\n" })
  complain text host := ((), { host with complaints := host.complaints ++ [text] })
  wait _ host := ((), host)
  grants bytes := return bytes < memory

end MemoryHost

end DatasetSync
