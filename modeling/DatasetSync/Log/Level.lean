import DatasetSync.Text.Blank
import DatasetSync.Text.Digits
import DatasetSync.Text.Inspect

/-!
# Levels and masks of log records

A record has a level, from errors down to debugging aids, and a mask of the kinds of activity it
belongs to.  A record without any kind always passes a mask.
-/

namespace DatasetSync.Log

/-- How important a record is, the most important first. -/
inductive Level where
  | error
  | warning
  | success
  | info
  | debug
  deriving DecidableEq, Repr

namespace Level

instance : Inhabited Level := ⟨.success⟩

/-- The place in the order of importance, from zero. -/
def rank : Level → Nat
  | .error => 0
  | .warning => 1
  | .success => 2
  | .info => 3
  | .debug => 4

def label : Level → String
  | .error => "ERROR"
  | .warning => "WARNING"
  | .success => "SUCCESS"
  | .info => "INFO"
  | .debug => "DEBUG"

def keyword : Level → String
  | .error => "error"
  | .warning => "warning"
  | .success => "success"
  | .info => "info"
  | .debug => "debug"

def name : Level → String
  | .error => "Error"
  | .warning => "Warning"
  | .success => "Success"
  | .info => "Info"
  | .debug => "Debug"

def all : List Level :=
  [.error, .warning, .success, .info, .debug]

def ofKeyword? (text : String) : Option Level :=
  all.find? (·.keyword == text)

end Level

/-- A set of kinds of activity, one bit each; bits without a name are kept. -/
structure Mask where
  bits : UInt32
  deriving DecidableEq, Repr

namespace Mask

def user : Mask := ⟨1⟩

def system : Mask := ⟨2⟩

def verbose : Mask := ⟨4⟩

/-- No kind at all, which passes every mask. -/
def always : Mask := ⟨0⟩

def union (left right : Mask) : Mask :=
  ⟨left.bits ||| right.bits⟩

instance : Inhabited Mask := ⟨user.union system⟩

def isAlways (mask : Mask) : Bool :=
  mask.bits == 0

def intersects (left right : Mask) : Bool :=
  left.bits &&& right.bits != 0

def named : List (String × Mask) :=
  [("USER", user), ("SYSTEM", system), ("VERBOSE", verbose)]

def known : UInt32 := 7

/-- The names in a mask, and its bits without a name as one number. -/
def parts (mask : Mask) : List String :=
  let names := (named.filter fun (_, kind) => mask.intersects kind).map Prod.fst
  let rest := mask.bits &&& ~~~known
  if rest = 0 then names else names ++ ["0x" ++ Inspect.hex rest.toNat]

/-- The text written to documents: the parts with bars between them. -/
def text (mask : Mask) : String :=
  " | ".intercalate mask.parts

def inspect (mask : Mask) : String :=
  if mask.isAlways then "LogTypeMask(0x0)" else s!"LogTypeMask({mask.text})"

/-- A number in base sixteen that fits into 32 bits; a plus sign may stand in front. -/
def ofHexadecimal? (digits : List Char) : Option Mask :=
  let digits := match digits with
    | '+' :: rest => rest
    | _ => digits
  match Text.readHexadecimal? digits with
  | some number => if number < UInt32.size then some ⟨number.toUInt32⟩ else none
  | none => none

/-- One part of a mask: a name, or a number in base sixteen. -/
def ofPart? (part : List Char) : Option Mask :=
  match part with
  | '0' :: 'x' :: digits => ofHexadecimal? digits
  | _ => (named.find? fun (name, _) => name.toList = part).map Prod.snd

/-- The union of parts, all of which must be readable. -/
def ofParts? : List (List Char) → Option Mask
  | [] => some always
  | part :: rest => do
      let first ← ofPart? (Text.trim part)
      let others ← ofParts? rest
      return first.union others

/-- Read a mask.  Blank text is the empty mask. -/
def ofText? (text : String) : Option Mask :=
  if text.toList.all Text.isBlank then some always
  else ofParts? (Text.splitAt '|' text.toList)

end Mask

end DatasetSync.Log
