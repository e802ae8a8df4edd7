/-!
# Ranges of characters

Classes of characters are given as lists of ranges of code points.
-/

namespace DatasetSync.Text

abbrev Range := Nat × Nat

def isWithin (ranges : List Range) (character : Char) : Bool :=
  ranges.any fun (first, last) => first ≤ character.toNat && character.toNat ≤ last

end DatasetSync.Text
