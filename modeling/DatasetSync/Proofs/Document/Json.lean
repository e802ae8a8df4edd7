import DatasetSync.Document.Json.Parser
import DatasetSync.Document.Json.Printer
import DatasetSync.Proofs.Text.Digits
import DatasetSync.Proofs.Text.Reader
import Mathlib.Data.List.Forall2

/-!
# JSON reads back

The indented text of a document, read again, is the document: for every tree that has nothing
foreign in it, whatever strings and integers it holds and however deep it is nested.
-/

namespace DatasetSync

/-- A tree that holds nothing foreign. -/
inductive Tree.Native : Tree → Prop where
  | null : Native .null
  | bool (value : Bool) : Native (.bool value)
  | integer (value : Int) : Native (.integer value)
  | text (value : String) : Native (.text value)
  | list {items : List Tree} (each : ∀ item ∈ items, Native item) : Native (.list items)
  | table {entries : List (String × Tree)} (each : ∀ entry ∈ entries, Native entry.2) :
      Native (.table entries)

namespace Json

open Text Text.Reader

/-! ## Strings -/

/-- The control characters that have a letter of their own after a backslash. -/
def lettered : List Char := ['\n', '\r', '\t', '\x08', '\x0c']

def pieceOf (c : Char) : Piece :=
  if c.toNat < 0x20 ∧ c ∉ lettered then .unit c.toNat else .char c

/-- Two digits in base sixteen are enough for a control character. -/
theorem piece_small {code : Nat} (small : code < 0x20) (rest : List Char) :
    piece ('\\' :: 'u' :: '0' :: '0' :: hexDigit (code / 16) :: hexDigit (code % 16) :: rest) =
      some (.unit code, rest) := by
  interval_cases code <;> rfl

theorem piece_plain {c : Char} (plain : isPlain c = true) (rest : List Char) :
    piece (c :: rest) = some (.char c, rest) := by
  have apart : c ≠ '\\' := by
    rintro rfl
    cases plain
  have unescaped : (do char '\\'; escape : Reader Piece) (c :: rest) = none :=
    bind_none (char_of_ne apart) _
  rw [piece, orElse_none unescaped, bind_some (satisfy_of_true plain)]
  rfl

theorem piece_character (c : Char) (rest : List Char) :
    piece ((character c).toList ++ rest) = some (pieceOf c, rest) := by
  unfold character
  split
  all_goals try rfl
  next quote backslash newline carriage tab backspace feed =>
    have unlettered : c ∉ lettered := by
      simp only [lettered, List.mem_cons, List.not_mem_nil, or_false, not_or]
      exact ⟨newline, carriage, tab, backspace, feed⟩
    split
    next small =>
      rw [pieceOf, if_pos ⟨small, unlettered⟩]
      simp only [String.toList_append, String.toList_ofList]
      exact piece_small small rest
    next large =>
      have plain : isPlain c = true := by
        simp [isPlain, bne_iff_ne.mpr quote, bne_iff_ne.mpr backslash, Nat.not_lt.mp large]
      rw [pieceOf, if_neg fun both => large both.1, String.toList_singleton]
      exact piece_plain plain rest

/-- A unit that is no half of a pair is a character. -/
theorem assemble?_unit {value : Nat} (small : value < 0xd800) (rest : List Piece) :
    assemble? (.unit value :: rest) = (assemble? rest).map (Char.ofNat value :: ·) := by
  have low : isLow value = false := by
    simp [isLow]
    omega
  have high : isHigh value = false := by
    simp [isHigh]
    omega
  match rest with
  | [] => simp [assemble?, low, high]
  | .char c :: rest => simp [assemble?, low, high]
  | .unit other :: rest =>
      rw [assemble?]
      simp [low, high]

theorem assemble?_pieceOf (text : List Char) : assemble? (text.map pieceOf) = some text := by
  induction text with
  | nil => rfl
  | cons c text ih =>
      rw [List.map_cons, pieceOf]
      split
      next small =>
        rw [assemble?_unit (by omega), ih, Option.map_some, Char.ofNat_toNat]
      next large =>
        rw [assemble?, ih, Option.map_some]

theorem toList_string (text : String) :
    (string text).toList = '"' :: (text.toList.flatMap fun c => (character c).toList) ++ ['"'] := by
  rw [string, String.toList_append, String.toList_append, String.toList_join, List.flatMap_map]
  rfl

theorem character_ne_nil (c : Char) : (character c).toList ≠ [] := by
  intro empty
  have read := piece_character c []
  rw [empty] at read
  cases read

theorem pieces_string (text : String) (rest : List Char) :
    pieces ((string text).toList ++ rest) = some (text.toList.map pieceOf, rest) := by
  have chain (text : List Char) :
      Chain piece ((text.flatMap fun c => (character c).toList) ++ '"' :: rest)
        (text.map pieceOf) ('"' :: rest) := by
    induction text with
    | nil => exact .nil _
    | cons c text ih =>
        rw [List.flatMap_cons, List.append_assoc]
        exact .step (piece_character c _) (character_ne_nil c) ih
  have ends : Ends piece ('"' :: rest) := .inr rfl
  have start : (string text).toList ++ rest =
      '"' :: ((text.toList.flatMap fun c => (character c).toList) ++ '"' :: rest) := by
    rw [toList_string, List.append_assoc]
    rfl
  rw [start, pieces, bind_some (char_self '"' _), bind_some ((chain text.toList).many ends)]
  rfl

theorem stringValue_string (text : String) (rest : List Char) :
    stringValue ((string text).toList ++ rest) = some (.text text, rest) := by
  rw [stringValue, bind_some (pieces_string text rest), assemble?_pieceOf]
  simp

theorem name_string (text : String) (rest : List Char) :
    name ((string text).toList ++ rest) = some (some text, rest) := by
  rw [name, bind_some (pieces_string text rest), assemble?_pieceOf]
  simp

/-! ## Numbers -/

def EndsNumber (rest : List Char) : Prop :=
  Stops (fun c => isDecimal c || c == '.' || c == 'e' || c == 'E') rest

theorem EndsNumber.digits {rest : List Char} (ends : EndsNumber rest) : Stops isDecimal rest := by
  cases rest with
  | nil => exact stops_nil _
  | cons c rest =>
      have apart := stops_cons.mp ends
      simp only [Bool.or_eq_false_iff] at apart
      exact apart.1.1.1

theorem digits_toDigits (value : Nat) {rest : List Char} (ends : EndsNumber rest) :
    digits (Nat.toDigits 10 value ++ rest) = some (Nat.toDigits 10 value, rest) := by
  have taken := takeWhile1_append (toDigits_ne_nil (by decide) value)
    (all_isDecimal_toDigits value) ends.digits
  rw [digits, bind_some taken]
  change _ = (pure (Nat.toDigits 10 value) : Reader (List Char)) rest
  refine congrFun ?_ rest
  split
  next second others zero => cases toDigits_eq_zero_cons (by decide) (by decide) zero
  next => rfl

theorem number_toString (value : Int) {rest : List Char} (ends : EndsNumber rest) :
    number ((toString value).toList ++ rest) = some (.integer value, rest) := by
  have whole : Reader.optional fraction rest = some (none, rest) ∧
      Reader.optional exponent rest = some (none, rest) := by
    cases rest with
    | nil => exact ⟨rfl, rfl⟩
    | cons c rest =>
        have apart := stops_cons.mp ends
        simp only [Bool.or_eq_false_iff] at apart
        have letter : Stops (fun c => c == 'e' || c == 'E') (c :: rest) := by
          rw [stops_cons, apart.1.2, apart.2]
          rfl
        exact ⟨optional_none (bind_none (char_of_stops (stops_cons.mpr apart.1.1.2)) _),
          optional_none (bind_none (satisfy_of_stops letter) _)⟩
  cases value with
  | ofNat number =>
      have front : Stops (· == '-') (Nat.toDigits 10 number ++ rest) := by
        obtain ⟨first, others, digits, fits⟩ := toDigits_front number
        rw [digits]
        refine stops_cons.mpr (beq_eq_false_iff_ne.mpr ?_)
        rintro rfl
        cases fits
      rw [toList_toString_ofNat, Json.number, bind_some (optional_none (char_of_stops front)),
        bind_some (digits_toDigits number ends), bind_some whole.1, bind_some whole.2,
        numberFrom_toDigits (by decide) (by decide)]
      rfl
  | negSucc number =>
      rw [toList_toString_negSucc, List.cons_append, Json.number,
        bind_some (optional_some (char_self '-' _)),
        bind_some (digits_toDigits (number + 1) ends), bind_some whole.1, bind_some whole.2,
        numberFrom_toDigits (by decide) (by decide)]
      rfl

/-! ## Blanks -/

theorem spaces_append {blanks rest : List Char} (blank : blanks.all isSpace = true)
    (stops : Stops isSpace rest) : spaces (blanks ++ rest) = some ((), rest) :=
  skip_append blank stops

theorem spaces_stops {rest : List Char} (stops : Stops isSpace rest) :
    spaces rest = some ((), rest) := by
  have nothing : ([] : List Char).all isSpace = true := rfl
  exact spaces_append nothing stops

theorem toList_indent (depth : Nat) : (indent depth).toList = List.replicate (2 * depth) ' ' :=
  String.toList_ofList

theorem indent_blank (depth : Nat) : (indent depth).toList.all isSpace = true := by
  rw [toList_indent, List.all_replicate]
  simp [isSpace]

/-! ## Brackets -/

/-- A text that a reader takes off as a value, wherever a number could end. -/
structure Spells {α : Type} (item : Reader α) (text : List Char) (value : α) : Prop where
  front : ∃ first others, text = first :: others ∧ isSpace first = false
  reads : ∀ rest, EndsNumber rest → item (text ++ rest) = some (value, rest)

section Brackets

variable {α : Type} {item : Reader α} {depth : Nat} {closing : Char} {rest : List Char}

/-- What follows an item: each further item on its own line after a comma, and the closing bracket
on the last line. -/
def following (depth : Nat) (closing : Char) (rest : List Char) : List (List Char) → List Char
  | [] => '\n' :: (indent depth).toList ++ closing :: rest
  | text :: texts =>
      ',' :: '\n' :: (indent (depth + 1)).toList ++ text ++ following depth closing rest texts

/-- The same, from the next comma or the closing bracket on. -/
def resumed (depth : Nat) (closing : Char) (rest : List Char) : List (List Char) → List Char
  | [] => closing :: rest
  | text :: texts => following depth closing rest (text :: texts)

theorem following_endsNumber (texts : List (List Char)) :
    EndsNumber (following depth closing rest texts) := by
  cases texts <;> exact stops_cons.mpr rfl

theorem spaces_following (solid : isSpace closing = false) (texts : List (List Char)) :
    spaces (following depth closing rest texts) = some ((), resumed depth closing rest texts) := by
  cases texts with
  | nil =>
      have blank : ('\n' :: (indent depth).toList).all isSpace = true := by
        rw [List.all_cons, indent_blank]
        rfl
      exact spaces_append blank (stops_cons.mpr solid)
  | cons text texts => exact spaces_stops (stops_cons.mpr rfl)

/-- An item on a line of its own, with the blanks around it. -/
theorem item_line {text : List Char} {value : α} (spells : Spells item text value)
    (solid : isSpace closing = false) (texts : List (List Char)) :
    (do let value ← item; spaces; return value : Reader α)
        (text ++ following depth closing rest texts) =
      some (value, resumed depth closing rest texts) := by
  rw [bind_some (spells.reads _ (following_endsNumber texts)),
    bind_some (spaces_following solid texts)]
  rfl

theorem spaces_line {text : List Char} {value : α} (spells : Spells item text value)
    (rest : List Char) :
    spaces ('\n' :: (indent (depth + 1)).toList ++ (text ++ rest)) = some ((), text ++ rest) := by
  have blank : ('\n' :: (indent (depth + 1)).toList).all isSpace = true := by
    rw [List.all_cons, indent_blank]
    rfl
  obtain ⟨first, others, rfl, solid⟩ := spells.front
  exact spaces_append blank (stops_cons.mpr solid)

theorem length_resumed_le (depth : Nat) (closing : Char) (rest : List Char)
    (texts : List (List Char)) :
    (resumed depth closing rest texts).length ≤ (following depth closing rest texts).length := by
  cases texts with
  | nil =>
      simp only [resumed, following, List.cons_append, List.length_cons, List.length_append]
      omega
  | cons text texts => exact Nat.le_refl _

/-- The items after the first are taken off one by one. -/
theorem following_chain {texts : List (List Char)} {values : List α}
    (spelled : List.Forall₂ (Spells item) texts values) (solid : isSpace closing = false) :
    Chain (do
        let _ ← (do char ','; spaces : Reader Unit)
        (do let value ← item; spaces; return value : Reader α))
      (resumed depth closing rest texts) values (closing :: rest) := by
  induction spelled with
  | nil => exact .nil _
  | @cons text value texts values spells spelled ih =>
      have start : resumed depth closing rest (text :: texts) =
          ',' :: ('\n' :: (indent (depth + 1)).toList ++
            (text ++ following depth closing rest texts)) := by
        simp only [resumed, following, List.cons_append, List.append_assoc]
      have comma : (do char ','; spaces : Reader Unit)
          (resumed depth closing rest (text :: texts)) =
          some ((), text ++ following depth closing rest texts) := by
        rw [start, bind_some (char_self ',' _)]
        exact spaces_line spells _
      refine .cons ?_ ?_ ih
      · rw [bind_some comma]
        exact item_line spells solid texts
      · have shorter := length_resumed_le depth closing rest texts
        rw [start]
        simp only [List.length_cons, List.length_append]
        omega

theorem toList_lines (depth : Nat) (closing : Char) (rest : List Char) (text : String)
    (texts : List String) :
    (",\n".intercalate ((text :: texts).map (indent (depth + 1) ++ ·))).toList ++
        ('\n' :: (indent depth).toList ++ closing :: rest) =
      (indent (depth + 1)).toList ++
        (text.toList ++ following depth closing rest (texts.map String.toList)) := by
  induction texts generalizing text with
  | nil => simp [following]
  | cons next texts ih =>
      rw [List.map_cons, List.map_cons, String.intercalate_cons_cons, ← List.map_cons]
      simp only [String.toList_append, List.append_assoc] at ih ⊢
      rw [ih next]
      simp [following]

/-- The marks a block stands between. -/
structure Marks (opening closing : Char) (openingText closingText : String) : Prop where
  opens : openingText.toList = [opening]
  closes : closingText.toList = [closing]
  solid : isSpace closing = false
  apart : closing ≠ ','

variable {opening : Char} {openingText closingText : String}

theorem toList_block_nil (marks : Marks opening closing openingText closingText) (depth : Nat)
    (rest : List Char) :
    (block openingText closingText depth []).toList ++ rest = opening :: closing :: rest := by
  simp [block, marks.opens, marks.closes]

theorem toList_block_cons (marks : Marks opening closing openingText closingText) (depth : Nat)
    (text : String) (texts : List String) (rest : List Char) :
    (block openingText closingText depth (text :: texts)).toList ++ rest =
      opening :: ('\n' :: (indent (depth + 1)).toList ++
        (text.toList ++ following depth closing rest (texts.map String.toList))) := by
  rw [List.cons_append, ← toList_lines]
  simp [block, marks.opens, marks.closes]

/-- Items on lines of their own between two brackets. -/
theorem bracketed_block (marks : Marks opening closing openingText closingText)
    {texts : List String} {values : List α}
    (spelled : List.Forall₂ (fun text value => Spells item text.toList value) texts values)
    (refuses : item (closing :: rest) = none) :
    bracketed opening closing item
        ((block openingText closingText depth texts).toList ++ rest) =
      some (values, rest) := by
  cases spelled with
  | nil =>
      have empty : commaSeparated item (closing :: rest) = none :=
        bind_none (bind_none refuses _) _
      rw [toList_block_nil marks, bracketed, bind_some (char_self opening _),
        bind_some (spaces_stops (stops_cons.mpr marks.solid)), bind_some (optional_none empty),
        bind_some (char_self closing _)]
      rfl
  | @cons text value texts values spells spelled =>
      have spelledOut : List.Forall₂ (Spells item) (texts.map String.toList) values :=
        List.forall₂_map_left_iff.mpr spelled
      have ends : Ends (do
          let _ ← (do char ','; spaces : Reader Unit)
          (do let value ← item; spaces; return value : Reader α)) (closing :: rest) :=
        .inr (bind_none (bind_none (char_of_ne marks.apart) _) _)
      have items : commaSeparated item
          (text.toList ++ following depth closing rest (texts.map String.toList)) =
            some (value :: values, closing :: rest) :=
        sepBy1_of_chain (item_line spells marks.solid (texts.map String.toList))
          (following_chain spelledOut marks.solid) ends
      rw [toList_block_cons marks, bracketed, bind_some (char_self opening _),
        bind_some (spaces_line spells _), bind_some (optional_some items),
        bind_some (char_self closing _)]
      rfl

/-- Each line is shorter than the block. -/
theorem length_lt_block (marks : Marks opening closing openingText closingText) {text : String}
    {texts : List String} (member : text ∈ texts) (depth : Nat) :
    text.length < (block openingText closingText depth texts).length := by
  have within {text : List Char} {texts : List (List Char)} (member : text ∈ texts) :
      text.length ≤ (following depth closing [] texts).length := by
    induction texts with
    | nil => cases member
    | cons first texts ih =>
        simp only [following, List.cons_append, List.length_cons, List.length_append]
        rcases List.mem_cons.mp member with rfl | later
        · omega
        · have := ih later
          omega
  cases texts with
  | nil => cases member
  | cons first texts =>
      have length := congrArg List.length (toList_block_cons marks depth first texts [])
      rw [List.append_nil] at length
      simp only [List.cons_append, List.length_cons, List.length_append,
        String.length_toList] at length
      rcases List.mem_cons.mp member with rfl | later
      · omega
      · have inside : text.toList ∈ texts.map String.toList := List.mem_map_of_mem later
        have bounded := within inside
        rw [String.length_toList] at bounded
        omega

end Brackets

/-! ## Values -/

theorem value_number {c : Char} (starts : (isDecimal c || c == '-') = true) (depth : Nat)
    (text : List Char) : value (depth + 1) (c :: text) = number (c :: text) := by
  rw [value, bind_some (peek?_apply _), List.head?_cons]
  refine congrFun ?_ (c :: text)
  split
  case h_7 => rfl
  all_goals
    next same =>
      cases same
      cases starts

theorem indentedItems_eq (depth : Nat) (items : List Tree) :
    indentedItems depth items = items.map (indented depth) := by
  induction items with
  | nil => rfl
  | cons item items ih => exact congrArg (indented depth item :: ·) ih

theorem indented_list (depth : Nat) (items : List Tree) :
    indented depth (.list items) =
      block "[" "]" depth (items.map (indented (depth + 1))) :=
  congrArg (block "[" "]" depth) (indentedItems_eq (depth + 1) items)

def entryLine (depth : Nat) (entry : String × Tree) : String :=
  string entry.1 ++ ": " ++ indented depth entry.2

theorem indentedEntries_eq (depth : Nat) (entries : List (String × Tree)) :
    indentedEntries depth entries = entries.map (entryLine depth) := by
  induction entries with
  | nil => rfl
  | cons entry entries ih =>
      obtain ⟨name, tree⟩ := entry
      exact congrArg (entryLine depth (name, tree) :: ·) ih

theorem indented_table (depth : Nat) (entries : List (String × Tree)) :
    indented depth (.table entries) =
      block "\x7b" "\x7d" depth (entries.map (entryLine (depth + 1))) :=
  congrArg (block "\x7b" "\x7d" depth) (indentedEntries_eq (depth + 1) entries)

theorem listMarks : Marks '[' ']' "[" "]" := ⟨rfl, rfl, rfl, by decide⟩

theorem tableMarks : Marks '\x7b' '\x7d' "\x7b" "\x7d" := ⟨rfl, rfl, rfl, by decide⟩

theorem Spells.entry {depth level : Nat} {entry : String × Tree}
    (spells : Spells (value depth) (indented level entry.2).toList entry.2) :
    Spells (Json.entry (value depth)) (entryLine level entry).toList (some entry) := by
  have start (rest : List Char) : (entryLine level entry).toList ++ rest =
      (string entry.1).toList ++ (':' :: ' ' :: ((indented level entry.2).toList ++ rest)) := by
    simp [entryLine]
  refine ⟨?_, fun rest ends => ?_⟩
  · have front := start []
    rw [List.append_nil, toList_string] at front
    exact ⟨'"', _, front, rfl⟩
  · obtain ⟨first, others, front, solid⟩ := spells.front
    have blank : spaces (' ' :: ((indented level entry.2).toList ++ rest)) =
        some ((), (indented level entry.2).toList ++ rest) := by
      have one : [' '].all isSpace = true := rfl
      refine spaces_append one ?_
      rw [front]
      exact stops_cons.mpr solid
    rw [start, Json.entry, bind_some (name_string entry.1 _),
      bind_some (spaces_stops (stops_cons.mpr rfl)), bind_some (char_self ':' _), bind_some blank,
      bind_some (spells.reads rest ends)]
    rfl

theorem table_some (entries : List (String × Tree)) :
    Json.table (entries.map some) = .table entries := by
  have all : (entries.map some).mapM id = some entries := by
    induction entries with
    | nil => rfl
    | cons entry entries ih => simp [ih]
  rw [Json.table, all]

theorem length_indented_list (level : Nat) {items : List Tree} {item : Tree}
    (member : item ∈ items) :
    (indented (level + 1) item).length < (indented level (.list items)).length := by
  rw [indented_list]
  exact length_lt_block listMarks (List.mem_map_of_mem member) level

theorem length_indented_table (level : Nat) {entries : List (String × Tree)}
    {entry : String × Tree} (member : entry ∈ entries) :
    (indented (level + 1) entry.2).length < (indented level (.table entries)).length := by
  have line : (indented (level + 1) entry.2).length ≤ (entryLine (level + 1) entry).length := by
    rw [entryLine, String.length_append]
    omega
  rw [indented_table]
  exact Nat.lt_of_le_of_lt line (length_lt_block tableMarks (List.mem_map_of_mem member) level)

theorem value_bracket (depth : Nat) (text : List Char) :
    value (depth + 1) ('[' :: text) =
      (do return .list (← bracketed '[' ']' (value depth)) : Reader Tree) ('[' :: text) :=
  rfl

theorem value_brace (depth : Nat) (text : List Char) :
    value (depth + 1) ('\x7b' :: text) =
      (do return table (← bracketed '\x7b' '\x7d' (entry (value depth))) : Reader Tree)
        ('\x7b' :: text) :=
  rfl

/-- No value starts with a closing bracket. -/
theorem value_closing (depth : Nat) (rest : List Char) : value depth (']' :: rest) = none := by
  cases depth with
  | zero => rfl
  | succ depth => rfl

theorem block_front {opening closing : Char} {openingText closingText : String}
    (marks : Marks opening closing openingText closingText) (depth : Nat) (texts : List String)
    (rest : List Char) :
    ∃ others, (block openingText closingText depth texts).toList ++ rest = opening :: others := by
  cases texts with
  | nil => exact ⟨_, toList_block_nil marks depth rest⟩
  | cons text texts => exact ⟨_, toList_block_cons marks depth text texts rest⟩

theorem not_isSpace_of_starts {c : Char} (starts : (isDecimal c || c == '-') = true) :
    isSpace c = false := by
  refine Bool.eq_false_iff.mpr fun blank => ?_
  simp only [isSpace, Bool.or_eq_true, beq_iff_eq] at blank
  rcases blank with ((rfl | rfl) | rfl) | rfl <;> cases starts

section Shapes

variable (depth level : Nat)

theorem spells_null : Spells (value (depth + 1)) (indented level .null).toList .null := by
  have text : indented level .null = "null" := rfl
  have letters : "null".toList = ['n', 'u', 'l', 'l'] := rfl
  rw [text, letters]
  exact ⟨⟨'n', _, rfl, rfl⟩, fun rest _ => rfl⟩

theorem spells_bool (truth : Bool) :
    Spells (value (depth + 1)) (indented level (.bool truth)).toList (.bool truth) := by
  cases truth with
  | false =>
      have text : indented level (.bool false) = "false" := rfl
      have letters : "false".toList = ['f', 'a', 'l', 's', 'e'] := rfl
      rw [text, letters]
      exact ⟨⟨'f', _, rfl, rfl⟩, fun rest _ => rfl⟩
  | true =>
      have text : indented level (.bool true) = "true" := rfl
      have letters : "true".toList = ['t', 'r', 'u', 'e'] := rfl
      rw [text, letters]
      exact ⟨⟨'t', _, rfl, rfl⟩, fun rest _ => rfl⟩

theorem spells_integer (number : Int) :
    Spells (value (depth + 1)) (indented level (.integer number)).toList (.integer number) := by
  have text : indented level (.integer number) = toString number := rfl
  obtain ⟨first, others, front, starts⟩ := toString_int_front number
  rw [text]
  refine ⟨⟨first, others, front, not_isSpace_of_starts starts⟩, fun rest ends => ?_⟩
  have reads := number_toString number ends
  rw [front] at reads ⊢
  rw [List.cons_append, value_number starts]
  exact reads

theorem spells_text (content : String) :
    Spells (value (depth + 1)) (indented level (.text content)).toList (.text content) := by
  have text : indented level (.text content) = string content := rfl
  have front := toList_string content
  rw [text]
  refine ⟨⟨'"', _, front, rfl⟩, fun rest ends => ?_⟩
  have reads := stringValue_string content rest
  rw [front] at reads ⊢
  exact reads

variable {depth level}

theorem spells_list {items : List Tree}
    (each : ∀ item ∈ items, Spells (value depth) (indented (level + 1) item).toList item) :
    Spells (value (depth + 1)) (indented level (.list items)).toList (.list items) := by
  have spelled : List.Forall₂ (fun text item => Spells (value depth) text.toList item)
      (items.map (indented (level + 1))) items :=
    List.forall₂_map_left_iff.mpr (List.forall₂_same.mpr each)
  have front := block_front listMarks level (items.map (indented (level + 1)))
  rw [indented_list]
  constructor
  · obtain ⟨others, bracket⟩ := front []
    rw [List.append_nil] at bracket
    exact ⟨'[', others, bracket, rfl⟩
  · intro rest ends
    obtain ⟨others, bracket⟩ := front rest
    -- The reader decides by the bracket, and then reads it once more as part of the block.
    rw [bracket, value_bracket, ← bracket,
      bind_some (bracketed_block listMarks spelled (value_closing depth rest))]
    rfl

theorem spells_table {entries : List (String × Tree)}
    (each : ∀ entry ∈ entries,
      Spells (value depth) (indented (level + 1) entry.2).toList entry.2) :
    Spells (value (depth + 1)) (indented level (.table entries)).toList (.table entries) := by
  have spelled : List.Forall₂
      (fun text entry => Spells (Json.entry (value depth)) text.toList entry)
      (entries.map (entryLine (level + 1))) (entries.map some) :=
    List.forall₂_map_left_iff.mpr (List.forall₂_map_right_iff.mpr
      (List.forall₂_same.mpr fun entry member => (each entry member).entry))
  have front := block_front tableMarks level (entries.map (entryLine (level + 1)))
  rw [indented_table]
  constructor
  · obtain ⟨others, brace⟩ := front []
    rw [List.append_nil] at brace
    exact ⟨'\x7b', others, brace, rfl⟩
  · intro rest ends
    obtain ⟨others, brace⟩ := front rest
    rw [brace, value_brace, ← brace, bind_some (bracketed_block tableMarks spelled rfl),
      table_some]
    rfl

end Shapes

/-- A value reads back at every depth that is more than the length of its text. -/
theorem value_indented {depth level : Nat} {tree : Tree} (native : tree.Native)
    (deep : (indented level tree).length < depth) :
    Spells (value depth) (indented level tree).toList tree := by
  -- On the depth, not on the tree: the depth is what the reader counts down.
  induction depth generalizing level tree with
  | zero => cases deep
  | succ depth ih =>
      cases native with
      | null => exact spells_null depth level
      | bool truth => exact spells_bool depth level truth
      | integer number => exact spells_integer depth level number
      | text content => exact spells_text depth level content
      | list each =>
          refine spells_list fun item member => ih (each item member) ?_
          have shorter := length_indented_list level member
          omega
      | table each =>
          refine spells_table fun entry member => ih (each entry member) ?_
          have shorter := length_indented_table level member
          omega

/-- A document reads back from its indented text. -/
theorem parse_pretty {tree : Tree} (native : tree.Native) : parse (pretty tree) = .ok tree := by
  have spells : Spells (value ((pretty tree).length + 1)) (pretty tree).toList tree :=
    value_indented native (Nat.lt_succ_self _)
  have stops : Stops isSpace (pretty tree).toList := by
    obtain ⟨first, others, front, solid⟩ := spells.front
    rw [front]
    exact stops_cons.mpr solid
  have reads := spells.reads [] (stops_nil _)
  rw [List.append_nil] at reads
  have whole : document ((pretty tree).length + 1) (pretty tree).toList = some (tree, []) := by
    rw [document, bind_some (spaces_stops stops), bind_some reads]
    rfl
  rw [parse, run?, whole]

end Json

end DatasetSync
