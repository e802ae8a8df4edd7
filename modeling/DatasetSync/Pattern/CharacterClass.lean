import DatasetSync.Pattern.Escape

/-!
# Classes of characters in patterns

A class stands in brackets: characters, ranges, named classes and further classes, and operators
between sets of these.  Reading a class answers how deep it is nested.
-/

namespace DatasetSync.Pattern

/-- The nesting of several things side by side; one alone adds nothing. -/
def besideDepth : List Nat → Nat
  | [] => 0
  | [depth] => depth
  | depths => depths.foldl max 0 + 1

/-- The nesting of a set: a union of items, and what an operator in front of it joins it to. -/
def setDepth (left : Option Nat) (items : List Nat) : Nat :=
  match left with
  | none => besideDepth items
  | some depth => max depth (besideDepth items) + 1

def classNames : List String :=
  ["alnum", "alpha", "ascii", "blank", "cntrl", "digit", "graph", "lower", "print", "punct",
    "space", "upper", "word", "xdigit"]

/-- What follows a class named as in `[:alpha:]`, and whether the class is negated. -/
def namedClass? (text : List Char) : Option (Bool × List Char) :=
  match text with
  | '[' :: ':' :: rest =>
      let negated := rest.head? = some '^'
      let rest := if negated then rest.drop 1 else rest
      let name := rest.takeWhile (· ≠ ':')
      match rest.drop name.length with
      | ':' :: ']' :: rest =>
          if classNames.contains (String.ofList name) then some (negated, rest) else none
      | _ => none
  | _ => none

def allowsNamed (mode : Mode) (negated : Bool) : Bool :=
  if mode.ofCharacters then !mode.ignoresCase else !negated

def allowsBrackets (mode : Mode) (negated : Bool) : Bool :=
  mode.ofCharacters || !negated

/--
The character behind blanks and the mark of a comment, which decides whether a hyphen makes a range.
Where there is none, the next character decides.
-/
def peekBehind? (spaced : Bool) (text : List Char) : Option Char :=
  let distant := match Text.trimStart text with
    | '#' :: rest => (Text.trimStart rest).head?
    | rest => rest.head?
  if spaced then distant.or text.head? else text.head?

def classPrimitive : PatternReader Primitive := do
  let primitive ← match ← PatternReader.any with
    | '\\' => escape
    | c => pure (.literal c)
  if primitive.isAllowedInClass (← PatternReader.mode) then return primitive else failure

def isRange : PatternReader Bool := do
  let progress ← get
  match progress.rest with
  | '-' :: rest =>
      let next := peekBehind? progress.mode.spaced rest
      return next ≠ some ']' && next ≠ some '-'
  | _ => return false

/-- A single item of a class, or a range whose ends are in order. -/
def classItem : PatternReader Unit := do
  let first ← classPrimitive
  spaces
  if ← isRange then
    PatternReader.char '-'
    spaces
    let last ← classPrimitive
    match first.character?, last.character? with
    | some first, some last => if last < first then failure
    | _, _ => failure

/-- Hyphens at the beginning of a class, which stand for themselves, each with its nesting. -/
def hyphens : (fuel : Nat) → PatternReader (List Nat)
  | 0 => return []
  | fuel + 1 => do
      if (← PatternReader.peek?) = some '-' then
        let _ ← classPrimitive
        spaces
        return 0 :: (← hyphens fuel)
      else
        return []

/-- The beginning of a class: the bracket, the mark of negation, and what stands for itself. -/
def classStart : PatternReader (List Nat) := do
  PatternReader.char '['
  spaces
  let negated ← PatternReader.skips "^"
  spaces
  if !allowsBrackets (← PatternReader.mode) negated then failure
  let items ← hyphens (← get).rest.length
  if items.isEmpty && (← PatternReader.peek?) = some ']' then
    let _ ← classPrimitive
    spaces
    return [0]
  else
    return items

/-- Skip an operator between two sets if one is next, and say whether there was. -/
def skipsOperator : PatternReader Bool := do
  if ← PatternReader.skips "&&" then return true
  else if ← PatternReader.skips "--" then return true
  else PatternReader.skips "~~"

/--
The inside of a class up to its closing bracket.  The nesting of the set in front of the last
operator and of the items since then is given.
-/
def classInside : (fuel : Nat) → (left : Option Nat) → (items : List Nat) → PatternReader Nat
  | 0, _, _ => failure
  | fuel + 1, left, items => do
      spaces
      if ← PatternReader.skips "]" then
        return setDepth left items
      else if ← skipsOperator then
        classInside fuel (some (setDepth left items)) []
      else if (← PatternReader.peek?) = some '[' then
        let progress ← get
        match namedClass? progress.rest with
        | some (negated, rest) =>
            if !allowsNamed progress.mode negated then failure
            set { progress with rest }
            classInside fuel left (0 :: items)
        | none =>
            let depth ← classInside fuel none (← classStart)
            classInside fuel left ((depth + 1) :: items)
      else
        classItem
        classInside fuel left (0 :: items)

def characterClass : PatternReader Nat := do
  let fuel := (← get).rest.length + 1
  return (← classInside fuel none (← classStart)) + 1

end DatasetSync.Pattern
