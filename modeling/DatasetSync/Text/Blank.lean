/-!
# Blank characters

White space as the character standard lists it, and trimming of it.
-/

namespace DatasetSync.Text

def isBlank (character : Char) : Bool :=
  let code := character.toNat
  (0x9 ≤ code && code ≤ 0xd) || code == 0x20 || code == 0x85 || code == 0xa0 || code == 0x1680 ||
    (0x2000 ≤ code && code ≤ 0x200a) || code == 0x2028 || code == 0x2029 || code == 0x202f ||
    code == 0x205f || code == 0x3000

def trimStart (text : List Char) : List Char :=
  text.dropWhile isBlank

def trim (text : List Char) : List Char :=
  (trimStart (trimStart text).reverse).reverse

/-- The pieces between the places where a character stands. -/
def splitAt (mark : Char) : List Char → List (List Char)
  | [] => [[]]
  | first :: rest =>
      if first = mark then [] :: splitAt mark rest
      else
        match splitAt mark rest with
        | [] => [[first]]
        | piece :: pieces => (first :: piece) :: pieces

end DatasetSync.Text
