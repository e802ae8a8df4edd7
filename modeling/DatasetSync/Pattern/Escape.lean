import DatasetSync.Pattern.Reader
import DatasetSync.Text.Digits

/-!
# Escapes in patterns

What a backslash begins: a character, a class of characters, or a condition on the place.  No table
of characters is at hand.  So a pattern that speaks of characters can neither ignore case nor name
letters, digits, blanks or words; one that speaks of bytes can, within the first 128 of them.
-/

namespace DatasetSync.Pattern

/-- What stands for a single step in a pattern. -/
inductive Primitive where
  /-- A character. -/
  | literal (value : Char)
  /-- A character that was written as the number of a byte. -/
  | byte (value : Char)
  /-- Digits, blanks or letters of words, or what is none of them. -/
  | shorthand (negated : Bool)
  /-- The characters with a property. -/
  | property
  /-- The beginning or the end of a line or of the text. -/
  | edge
  /-- A place between a word and something else, or no such place. -/
  | wordEdge
  deriving DecidableEq, Repr, Inhabited

namespace Primitive

def character? : Primitive → Option Char
  | .literal value | .byte value => some value
  | _ => none

def isAllowed (mode : Mode) : Primitive → Bool
  | .literal _ => !(mode.ofCharacters && mode.ignoresCase)
  | .byte value => if mode.ofCharacters then !mode.ignoresCase else value.toNat < 128
  | .shorthand negated => !mode.ofCharacters && !negated
  | .property => false
  | .edge => true
  | .wordEdge => !mode.ofCharacters

def isAllowedInClass (mode : Mode) : Primitive → Bool
  | .literal value | .byte value =>
      if mode.ofCharacters then !mode.ignoresCase else value.toNat < 128
  | .shorthand negated => !mode.ofCharacters && !negated
  | _ => false

end Primitive

/-- So many digits in base sixteen, with blanks between them where these mean nothing. -/
def hexDigits : Nat → PatternReader (List Char)
  | 0 => return []
  | count + 1 => do
      spaces
      let digit ← PatternReader.any
      if Text.isHexadecimal digit then return digit :: (← hexDigits count) else failure

def numbered (count : Nat) : PatternReader Char := do
  let number := Text.numberFrom 16 (← hexDigits count)
  if number.isValidChar then return Char.ofNat number else failure

def standsForItself (c : Char) : Bool :=
  c.toNat < 128 && !c.isAlphanum && c ≠ '<' && c ≠ '>'

def escape : PatternReader Primitive := do
  let c ← PatternReader.any
  match c with
  | 'x' => return .byte (← numbered 2)
  | 'u' => return .literal (← numbered 4)
  | 'U' => return .literal (← numbered 8)
  | 'p' | 'P' => return .property
  | 'd' | 's' | 'w' => return .shorthand false
  | 'D' | 'S' | 'W' => return .shorthand true
  | 'a' => return .literal '\x07'
  | 'f' => return .literal '\x0c'
  | 't' => return .literal '\t'
  | 'n' => return .literal '\n'
  | 'r' => return .literal '\r'
  | 'v' => return .literal '\x0b'
  | 'A' | 'z' => return .edge
  | 'b' | 'B' | '<' | '>' => return .wordEdge
  | _ => if standsForItself c then return .literal c else failure

end DatasetSync.Pattern
