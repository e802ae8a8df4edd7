/-!
# Digits

Reading numbers digit by digit, in bases up to sixteen, and writing them to a fixed width.
-/

namespace DatasetSync.Text

def decimal? (character : Char) : Option Nat :=
  if '0' ≤ character ∧ character ≤ '9' then some (character.toNat - '0'.toNat) else none

def hexadecimal? (character : Char) : Option Nat :=
  if 'a' ≤ character ∧ character ≤ 'f' then some (character.toNat - 'a'.toNat + 10)
  else if 'A' ≤ character ∧ character ≤ 'F' then some (character.toNat - 'A'.toNat + 10)
  else decimal? character

def isDecimal (character : Char) : Bool :=
  (decimal? character).isSome

def isHexadecimal (character : Char) : Bool :=
  (hexadecimal? character).isSome

def numberFrom (base : Nat) (digits : List Char) : Nat :=
  digits.foldl (fun number digit => number * base + (hexadecimal? digit).getD 0) 0

/-- A number in base sixteen: at least one digit, and nothing else. -/
def readHexadecimal? (text : List Char) : Option Nat :=
  if text ≠ [] ∧ text.all isHexadecimal then some (numberFrom 16 text) else none

def readDecimal? (text : List Char) : Option Nat :=
  if text ≠ [] ∧ text.all isDecimal then some (numberFrom 10 text) else none

def padded (width number : Nat) : String :=
  let digits := Nat.toDigits 10 number
  String.ofList (List.replicate (width - digits.length) '0' ++ digits)

end DatasetSync.Text
