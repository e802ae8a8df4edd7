/-!
# Cutting texts

Texts are cut at a character, at the ends of lines, or after a number of bytes.  A character of
several bytes cannot be cut in two.
-/

namespace DatasetSync.Text

/-- What is left behind a number of bytes, unless they end inside a character. -/
def dropBytes? : Nat → List Char → Option (List Char)
  | 0, text => some text
  | _ + 1, [] => none
  | count + 1, first :: rest =>
      if first.utf8Size ≤ count + 1 then dropBytes? (count + 1 - first.utf8Size) rest else none

def takeBytes? (count : Nat) (text : List Char) : Option (List Char) :=
  (dropBytes? count text).map fun rest => text.take (text.length - rest.length)

/-- The part of a text between two numbers of bytes, unless one of them lies inside a character. -/
def slice? (text : List Char) (start stop : Nat) : Option (List Char) :=
  (dropBytes? start text).bind (takeBytes? (stop - start))

/-- What stands in front of the first mark and behind it; without a mark, all stands in front. -/
def cutAt (mark : List Char) : List Char → List Char × List Char
  | [] => ([], [])
  | first :: rest =>
      if mark.isPrefixOf (first :: rest) then ([], (first :: rest).drop mark.length)
      else
        let (front, back) := cutAt mark rest
        (first :: front, back)

def withoutReturn (line : String) : String :=
  if line.toList.getLast? = some '\r' then String.ofList line.toList.dropLast else line

/-- The lines of a text; what follows the last line feed is one more line unless it is empty. -/
def lines (text : String) : List String :=
  let pieces := text.splitOn "\n"
  pieces.dropLast.map withoutReturn ++ pieces.getLast?.toList.filter (· ≠ "")

end DatasetSync.Text
