import DatasetSync.Proofs.Document.Toml.Strings
import Mathlib.Data.List.Forall2

/-!
# Plain TOML values read back

Truth values, integers that fit, strings, and lists of such values are written in one place.  What
is read there is the value again, and nothing of what follows: no integer is taken for a time or for
a number with a fraction, and a comma after the last item of a list starts no further item.
-/

namespace DatasetSync.Toml

open Text Text.Reader

/-- What comes next, if anything, cannot belong to a value. -/
def EndsValue (rest : List Char) : Prop :=
  Stops (fun c => c != '\n' && c != ',' && c != ']') rest

theorem EndsValue.stops {rest : List Char} (ends : EndsValue rest) {test : Char → Bool}
    (line : test '\n' = false) (comma : test ',' = false) (bracket : test ']' = false) :
    Stops test rest := by
  cases rest with
  | nil => exact stops_nil test
  | cons c rest =>
      have none_else := stops_cons.mp ends
      refine stops_cons.mpr ?_
      by_cases atLine : c = '\n'
      · rwa [atLine]
      by_cases atComma : c = ','
      · rwa [atComma]
      by_cases atBracket : c = ']'
      · rwa [atBracket]
      · simp [atLine, atComma, atBracket] at none_else

/-! ## Words -/

section Words

variable {reader : Reader Tree} {text rest : List Char} {tree : Tree}

theorem whole_some (reads : reader text = some (tree, rest)) (ends : EndsValue rest) :
    whole reader text = some (tree, rest) := by
  have word : Stops (fun c => !endsWord c) rest := ends.stops rfl rfl rfl
  rw [whole, bind_some reads, bind_some (peek?_apply rest)]
  cases rest with
  | nil => rfl
  | cons c rest =>
      have stopped : endsWord c = true := by simpa using stops_cons.mp word
      rw [List.head?_cons]
      dsimp only
      rw [if_pos stopped]
      rfl

theorem whole_none (refuses : reader text = none) : whole reader text = none :=
  bind_none refuses _

end Words

/-! ## Numbers -/

/-- Digits, and then nothing that belongs to a value. -/
def Numeral (text : List Char) : Prop :=
  ∃ digits rest, text = digits ++ rest ∧ digits.all isDecimal = true ∧ EndsValue rest

section Numbers

variable {text rest : List Char}

theorem Numeral.stops (numeral : Numeral text) {mark : Char} (digit : isDecimal mark = false)
    (solid : (mark != '\n' && mark != ',' && mark != ']') = true) : Stops (· == mark) text := by
  obtain ⟨digits, rest, rfl, all, ends⟩ := numeral
  cases digits with
  | nil =>
      simp only [Bool.and_eq_true, bne_iff_ne] at solid
      exact ends.stops (beq_eq_false_iff_ne.mpr solid.1.1.symm)
        (beq_eq_false_iff_ne.mpr solid.1.2.symm) (beq_eq_false_iff_ne.mpr solid.2.symm)
  | cons first digits =>
      rw [List.all_cons, Bool.and_eq_true] at all
      refine stops_cons.mpr (beq_eq_false_iff_ne.mpr ?_)
      rintro rfl
      rw [all.1] at digit
      cases digit

theorem decimal?_of_endsValue {c : Char} (ends : EndsValue (c :: rest)) : decimal? c = none := by
  have digit : isDecimal c = false := stops_cons.mp (ends.stops rfl rfl rfl)
  rw [isDecimal] at digit
  exact Option.not_isSome_iff_eq_none.mp (Bool.eq_false_iff.mp digit)

/-- What is left after two digits still has only digits in front. -/
theorem Numeral.readPair? (numeral : Numeral text) {value : Nat}
    (reads : Timestamp.readPair? text = some (value, rest)) : Numeral rest := by
  obtain ⟨digits, last, rfl, all, ends⟩ := numeral
  -- With fewer than two digits, the pair would reach into what ends the value.
  match digits with
  | [] =>
      match last with
      | [] => cases reads
      | [_] => cases reads
      | c :: d :: last =>
          rw [List.nil_append, Timestamp.readPair?, decimal?_of_endsValue ends] at reads
          cases reads
  | [first] =>
      match last with
      | [] => cases reads
      | c :: last =>
          rw [List.cons_append, List.nil_append, Timestamp.readPair?,
            decimal?_of_endsValue ends] at reads
          cases tens : decimal? first <;> rw [tens] at reads <;> cases reads
  | first :: second :: digits =>
      rw [List.all_cons, List.all_cons, Bool.and_eq_true, Bool.and_eq_true] at all
      rw [List.cons_append, List.cons_append, Timestamp.readPair?] at reads
      cases tens : decimal? first with
      | none =>
          rw [tens] at reads
          cases reads
      | some _ =>
          cases ones : decimal? second with
          | none =>
              rw [tens, ones] at reads
              cases reads
          | some _ =>
              rw [tens, ones] at reads
              cases reads
              exact ⟨digits, last, rfl, all.2.2, ends⟩

theorem pair_bind_none {α : Type} (numeral : Numeral text) (limit : Nat) {next : Nat → Reader α}
    (refuses : ∀ value rest, Numeral rest → next value rest = none) :
    (pair limit >>= next) text = none := by
  cases reads : pair limit text with
  | none => exact bind_none reads next
  | some read =>
      obtain ⟨value, rest⟩ := read
      rw [bind_some reads]
      refine refuses value rest ?_
      unfold pair at reads
      cases two : Timestamp.readPair? text with
      | none =>
          rw [two] at reads
          cases reads
      | some read =>
          obtain ⟨number, others⟩ := read
          rw [two] at reads
          have same : others = rest := by
            simp only [Option.bind_eq_bind, Option.bind_some] at reads
            split at reads
            · cases reads
              rfl
            · cases reads
          exact numeral.readPair? (same ▸ two)

/-- Digits alone are no day and no time. -/
theorem moment_numeral (numeral : Numeral text) : moment text = none := by
  have day : date text = none :=
    pair_bind_none numeral _ fun _ _ numeral =>
      pair_bind_none numeral _ fun _ _ numeral =>
        bind_none (char_of_stops (numeral.stops rfl rfl)) _
  have hour : time text = none :=
    pair_bind_none numeral _ fun _ _ numeral =>
      bind_none (char_of_stops (numeral.stops rfl rfl)) _
  exact bind_none ((orElse_none (bind_none day _) _).trans hour) _

theorem moment_minus (text : List Char) : moment ('-' :: text) = none := by
  cases text <;> rfl

theorem digitsOf_append {digits : List Char} (something : digits ≠ [])
    (all : digits.all isDecimal = true) (ends : EndsValue rest) :
    digitsOf isDecimal (digits ++ rest) = some (digits, rest) := by
  have further : Ends (do
      let _ ← Reader.optional (char '_')
      satisfy isDecimal : Reader Char) rest := by
    refine .inr ?_
    rw [bind_some (optional_none (char_of_stops (ends.stops rfl rfl rfl)))]
    exact satisfy_of_stops (ends.stops rfl rfl rfl)
  have chain {digits : List Char} (all : digits.all isDecimal = true) :
      Chain (do
        let _ ← Reader.optional (char '_')
        satisfy isDecimal : Reader Char) (digits ++ rest) digits rest := by
    induction digits with
    | nil => exact .nil rest
    | cons digit digits ih =>
        rw [List.all_cons, Bool.and_eq_true] at all
        have apart : digit ≠ '_' := by
          rintro rfl
          cases all.1
        refine .cons ?_ (Nat.lt_succ_self _) (ih all.2)
        rw [List.cons_append, bind_some (optional_none (char_of_ne apart))]
        exact satisfy_of_true all.1
  cases digits with
  | nil => exact (something rfl).elim
  | cons digit digits =>
      rw [List.all_cons, Bool.and_eq_true] at all
      rw [digitsOf, List.cons_append, bind_some (satisfy_of_true all.1),
        bind_some ((chain all.2).many further)]
      rfl

theorem decimalDigits_toDigits (number : Nat) (ends : EndsValue rest) :
    decimalDigits (Nat.toDigits 10 number ++ rest) = some (Nat.toDigits 10 number, rest) := by
  have read := digitsOf_append (toDigits_ne_nil (by decide) number)
    (all_isDecimal_toDigits number) ends
  rw [decimalDigits, bind_some read]
  change _ = (pure (Nat.toDigits 10 number) : Reader (List Char)) rest
  refine congrFun ?_ rest
  split
  next second others zero => cases toDigits_eq_zero_cons (by decide) (by decide) zero
  next => rfl

/-- The sign and the digits of an integer. -/
theorem sign_digits (value : Int) (rest : List Char) :
    ∃ minus number, Reader.optional sign ((toString value).toList ++ rest) =
        some (minus, Nat.toDigits 10 number ++ rest) ∧
      (if minus = some true then -(number : Int) else number) = value := by
  cases value with
  | ofNat number =>
      obtain ⟨first, others, digits, fits⟩ := toDigits_front number
      have unsigned : Stops (fun c => c == '+' || c == '-') (Nat.toDigits 10 number ++ rest) := by
        rw [digits]
        refine stops_cons.mpr (Bool.eq_false_iff.mpr fun signed => ?_)
        simp only [Bool.or_eq_true, beq_iff_eq] at signed
        rcases signed with rfl | rfl <;> cases fits
      refine ⟨none, number, ?_, rfl⟩
      rw [toList_toString_ofNat]
      exact optional_none (bind_none (satisfy_of_stops unsigned) _)
  | negSucc number =>
      refine ⟨some true, number + 1, ?_, rfl⟩
      rw [toList_toString_negSucc]
      rfl

theorem floating_toString (value : Int) (ends : EndsValue rest) :
    floating ((toString value).toList ++ rest) = none := by
  obtain ⟨minus, number, signed, _⟩ := sign_digits value rest
  have point : Reader.optional fraction rest = some (none, rest) :=
    optional_none (bind_none (char_of_stops (ends.stops rfl rfl rfl)) _)
  have power : Reader.optional exponent rest = some (none, rest) :=
    optional_none (bind_none (satisfy_of_stops (ends.stops rfl rfl rfl)) _)
  rw [floating, bind_some signed, bind_some (decimalDigits_toDigits number ends),
    bind_some point, bind_some power]
  rfl

def Fits (value : Int) : Prop :=
  -0x8000000000000000 ≤ value ∧ value < 0x8000000000000000

theorem decimalInteger_toString {value : Int} (fits : Fits value) (ends : EndsValue rest) :
    decimalInteger ((toString value).toList ++ rest) = some (.integer value, rest) := by
  obtain ⟨minus, number, signed, same⟩ := sign_digits value rest
  rw [decimalInteger, bind_some signed, bind_some (decimalDigits_toDigits number ends),
    numberFrom_toDigits (by decide) (by decide)]
  rw [same, fitting, if_pos]
  · rfl
  · exact fits

/-- A zero in front of an integer is the whole of it, so no letter for another base follows. -/
theorem word_zero_toString (value : Int) {mark : Char} (digit : isDecimal mark = false)
    (solid : (mark != '\n' && mark != ',' && mark != ']') = true) (ends : EndsValue rest) :
    chars ['0', mark] ((toString value).toList ++ rest) = none := by
  cases value with
  | ofNat number =>
      rw [toList_toString_ofNat]
      have later : ∀ others, Nat.toDigits 10 number = '0' :: others →
          Stops (· == mark) (others ++ rest) := by
        intro others zero
        rw [toDigits_eq_zero_cons (by decide) (by decide) zero]
        have empty : Numeral rest := ⟨[], rest, rfl, rfl, ends⟩
        exact empty.stops digit solid
      obtain ⟨first, others, digits, _⟩ := toDigits_front number
      rw [digits, List.cons_append]
      by_cases zero : first = '0'
      · subst zero
        rw [chars, bind_some (char_self '0' _), chars,
          bind_none (char_of_stops (later others digits))]
      · rw [chars, bind_none (char_of_ne zero)]
  | negSucc number =>
      rw [toList_toString_negSucc]
      rfl

theorem integer_toString {value : Int} (fits : Fits value) (ends : EndsValue rest) :
    integer ((toString value).toList ++ rest) = some (.integer value, rest) := by
  have sixteen : based "0x" 16 isHexadecimal ((toString value).toList ++ rest) = none :=
    bind_none (word_zero_toString value rfl rfl ends) _
  have eight : based "0o" 8 (fun c => '0' ≤ c && c ≤ '7')
      ((toString value).toList ++ rest) = none :=
    bind_none (word_zero_toString value rfl rfl ends) _
  have two : based "0b" 2 (fun c => c == '0' || c == '1')
      ((toString value).toList ++ rest) = none :=
    bind_none (word_zero_toString value rfl rfl ends) _
  rw [integer, orElse_none sixteen, orElse_none eight, orElse_none two]
  exact decimalInteger_toString fits ends

theorem scalar_number {c : Char} (starts : (isDecimal c || c == '-') = true) (text : List Char) :
    scalar (c :: text) =
      (whole moment <|> whole floating <|> whole integer <|> whole specialFloat) (c :: text) := by
  rw [scalar, bind_some (peek?_apply _), List.head?_cons]
  refine congrFun ?_ (c :: text)
  split
  case h_5 => rfl
  all_goals
    next same =>
      cases same
      cases starts

theorem moment_toString (value : Int) (ends : EndsValue rest) :
    moment ((toString value).toList ++ rest) = none := by
  cases value with
  | ofNat number =>
      rw [toList_toString_ofNat]
      exact moment_numeral ⟨_, rest, rfl, all_isDecimal_toDigits number, ends⟩
  | negSucc number =>
      rw [toList_toString_negSucc]
      exact moment_minus _

theorem scalar_toString {value : Int} (fits : Fits value) (ends : EndsValue rest) :
    scalar ((toString value).toList ++ rest) = some (.integer value, rest) := by
  have read : (whole moment <|> whole floating <|> whole integer <|> whole specialFloat)
      ((toString value).toList ++ rest) = some (.integer value, rest) := by
    rw [orElse_none (whole_none (moment_toString value ends)),
      orElse_none (whole_none (floating_toString value ends))]
    exact orElse_some (whole_some (integer_toString fits ends) ends) _
  obtain ⟨first, others, front, starts⟩ := toString_int_front value
  rw [front] at read ⊢
  rw [List.cons_append, scalar_number starts]
  exact read

end Numbers

/-! ## Blanks -/

section Blanks

variable {rest : List Char}

theorem spaces_append {blanks : List Char} (blank : blanks.all isSpace = true)
    (stops : Stops isSpace rest) : spaces (blanks ++ rest) = some ((), rest) :=
  skip_append blank stops

theorem spaces_stops (stops : Stops isSpace rest) : spaces rest = some ((), rest) := by
  have nothing : ([] : List Char).all isSpace = true := rfl
  exact spaces_append nothing stops

/-- What comes next is no blank, no line end and no comment. -/
def Solid (rest : List Char) : Prop :=
  Stops (fun c => isSpace c || c == '\n' || c == '\r' || c == '#') rest

theorem solid_cons {c : Char} (solid : (isSpace c || c == '\n' || c == '\r' || c == '#') = false) :
    Solid (c :: rest) := stops_cons.mpr solid

theorem Solid.space (solid : Solid rest) : Stops isSpace rest := by
  cases rest with
  | nil => exact stops_nil _
  | cons c rest =>
      have apart := stops_cons.mp solid
      simp only [Bool.or_eq_false_iff] at apart
      exact stops_cons.mpr apart.1.1.1

theorem Solid.inline (solid : Solid rest) : Inline rest := by
  cases rest with
  | nil => exact stops_nil _
  | cons c rest =>
      have apart := stops_cons.mp solid
      simp only [Bool.or_eq_false_iff] at apart
      exact stops_cons.mpr (Bool.or_eq_false_iff.mpr ⟨apart.1.1.2, apart.1.2⟩)

theorem Solid.comment (solid : Solid rest) : Stops (· == '#') rest := by
  cases rest with
  | nil => exact stops_nil _
  | cons c rest =>
      have apart := stops_cons.mp solid
      simp only [Bool.or_eq_false_iff] at apart
      exact stops_cons.mpr apart.2

theorem optional_comment (stops : Stops (· == '#') rest) :
    Reader.optional comment rest = some (none, rest) :=
  optional_none (bind_none (char_of_stops stops) _)

/-- A line end inside a list, with the blanks at the start of the next line. -/
def gapLine : Reader Unit := do
  let _ ← Reader.optional comment
  newline
  spaces

theorem gapLine_solid (solid : Solid rest) : gapLine rest = none := by
  rw [gapLine, bind_some (optional_comment solid.comment), bind_none (newline_inline solid.inline)]

theorem gap_solid (solid : Solid rest) : gap rest = some ((), rest) := by
  have none_more := many_ends (.inr (gapLine_solid solid))
  unfold gapLine at none_more
  rw [gap, bind_some (spaces_stops solid.space), bind_some none_more]
  rfl

theorem gap_line {blanks : List Char} (blank : blanks.all isSpace = true) (solid : Solid rest) :
    gap ('\n' :: (blanks ++ rest)) = some ((), rest) := by
  have next : newline ('\n' :: (blanks ++ rest)) = some ((), blanks ++ rest) := rfl
  have one : gapLine ('\n' :: (blanks ++ rest)) = some ((), rest) := by
    rw [gapLine, bind_some (optional_comment (stops_cons.mpr rfl)), bind_some next]
    exact spaces_append blank solid.space
  have shorter : rest.length < ('\n' :: (blanks ++ rest)).length := by
    rw [List.length_cons, List.length_append]
    omega
  have all := (Chain.single one shorter).many (.inr (gapLine_solid solid))
  unfold gapLine at all
  rw [gap, bind_some (spaces_stops (stops_cons.mpr rfl)), bind_some all]
  rfl

end Blanks

/-! ## Lists -/

/-- A text that a reader takes off as a tree, wherever a value can end. -/
structure Spells (reader : Reader Tree) (text : List Char) (tree : Tree) : Prop where
  front : ∃ first others, text = first :: others ∧
    (isSpace first || first == '\n' || first == '\r' || first == '#') = false
  reads : ∀ rest, EndsValue rest → reader (text ++ rest) = some (tree, rest)

section Lists

variable {item : Reader Tree} {rest : List Char}

theorem Spells.solid {text : List Char} {tree : Tree} (spells : Spells item text tree)
    (rest : List Char) : Solid (text ++ rest) := by
  obtain ⟨first, others, rfl, solid⟩ := spells.front
  exact solid_cons solid

def itemLines (rest : List Char) : List (List Char) → List Char
  | [] => ']' :: rest
  | text :: texts => ' ' :: ' ' :: ' ' :: ' ' :: (text ++ ',' :: '\n' :: itemLines rest texts)

def listItem (item : Reader Tree) : Reader Tree := do
  let tree ← item
  gap
  return tree

theorem listItem_some {text : List Char} {tree : Tree} (spells : Spells item text tree)
    (ends : EndsValue rest) (solid : Solid rest) :
    listItem item (text ++ rest) = some (tree, rest) := by
  rw [listItem, bind_some (spells.reads rest ends), bind_some (gap_solid solid)]
  rfl

theorem comma_line {text : List Char} {tree : Tree} (spells : Spells item text tree)
    (texts : List (List Char)) :
    (do char ','; gap : Reader Unit) (',' :: '\n' :: itemLines rest (text :: texts)) =
      some ((), text ++ ',' :: '\n' :: itemLines rest texts) := by
  have blank : [' ', ' ', ' ', ' '].all isSpace = true := rfl
  rw [bind_some (char_self ',' _)]
  exact gap_line blank (spells.solid _)

theorem comma_bracket (rest : List Char) :
    (do char ','; gap : Reader Unit) (',' :: '\n' :: ']' :: rest) = some ((), ']' :: rest) := by
  have blank : ([] : List Char).all isSpace = true := rfl
  rw [bind_some (char_self ',' _)]
  exact gap_line blank (solid_cons rfl)

/-- The items after the first are taken off line by line. -/
theorem itemLines_chain {texts : List (List Char)} {trees : List Tree}
    (spelled : List.Forall₂ (Spells item) texts trees) :
    Chain (do
        let _ ← (do char ','; gap : Reader Unit)
        listItem item)
      (',' :: '\n' :: itemLines rest texts) trees (',' :: '\n' :: ']' :: rest) := by
  induction spelled with
  | nil => exact .nil _
  | @cons text tree texts trees spells spelled ih =>
      refine .cons ?_ ?_ ih
      · rw [bind_some (comma_line spells texts)]
        exact listItem_some spells (stops_cons.mpr rfl) (solid_cons rfl)
      · simp only [itemLines, List.length_cons, List.length_append]
        omega

/-- The items of a list up to the bracket, with the comma that may stand after the last. -/
def commaList (item : Reader Tree) : Reader (List Tree) := do
  let items ← sepBy1 (listItem item) (do char ','; gap)
  let _ ← Reader.optional (do char ','; gap)
  return items

theorem listItems_some {text : List Char} {trees : List Tree} (starts : gap text = some ((), rest))
    {last : List Char} (items : commaList item rest = some (trees, ']' :: last)) :
    listItems item ('[' :: text) = some (trees, last) := by
  unfold commaList listItem at items
  rw [listItems, bind_some (char_self '[' _), bind_some starts, bind_some (optional_some items),
    bind_some (char_self ']' _)]
  rfl

theorem listItems_nil (refuses : item (']' :: rest) = none) :
    listItems item ('[' :: ']' :: rest) = some ([], rest) := by
  have none_there : commaList item (']' :: rest) = none :=
    bind_none (bind_none (bind_none refuses _) _) _
  unfold commaList listItem at none_there
  rw [listItems, bind_some (char_self '[' _), bind_some (gap_solid (solid_cons rfl)),
    bind_some (optional_none none_there), bind_some (char_self ']' _)]
  rfl

theorem listItems_single {text : List Char} {tree : Tree} (spells : Spells item text tree) :
    listItems item ('[' :: (text ++ ']' :: rest)) = some ([tree], rest) := by
  have bare : (do char ','; gap : Reader Unit) (']' :: rest) = none := rfl
  refine listItems_some (gap_solid (spells.solid _)) ?_
  rw [commaList, bind_some (sepBy1_of_chain
    (listItem_some spells (stops_cons.mpr rfl) (solid_cons rfl)) (.nil _)
    (.inr (bind_none bare _))), bind_some (optional_none bare)]
  rfl

theorem listItems_lines {text : List Char} {tree : Tree} {texts : List (List Char)}
    {trees : List Tree} (spells : Spells item text tree)
    (spelled : List.Forall₂ (Spells item) texts trees) (refuses : item (']' :: rest) = none) :
    listItems item ('[' :: '\n' :: itemLines rest (text :: texts)) =
      some (tree :: trees, rest) := by
  have blank : [' ', ' ', ' ', ' '].all isSpace = true := rfl
  -- The comma after the last item starts no further item.
  have stopped : Ends (do
      let _ ← (do char ','; gap : Reader Unit)
      listItem item) (',' :: '\n' :: ']' :: rest) := by
    refine .inr ?_
    rw [bind_some (comma_bracket rest)]
    exact bind_none refuses _
  refine listItems_some (gap_line blank (spells.solid _)) ?_
  rw [commaList, bind_some (sepBy1_of_chain
    (listItem_some spells (stops_cons.mpr rfl) (solid_cons rfl)) (itemLines_chain spelled) stopped),
    bind_some (optional_some (comma_bracket rest))]
  rfl

theorem toList_itemLines (texts : List String) (rest : List Char) :
    (String.join (texts.map fun text => "    " ++ text ++ ",\n")).toList ++ ']' :: rest =
      itemLines rest (texts.map String.toList) := by
  induction texts with
  | nil => rfl
  | cons text texts ih =>
      rw [List.map_cons, List.map_cons, itemLines, ← ih]
      simp

/-- However many items a list has, it reads back. -/
theorem listItems_listText {texts : List String} {trees : List Tree}
    (spelled : List.Forall₂ (fun text tree => Spells item text.toList tree) texts trees)
    (refuses : item (']' :: rest) = none) :
    listItems item ((listText texts).toList ++ rest) = some (trees, rest) := by
  cases spelled with
  | nil => exact listItems_nil refuses
  | @cons text tree texts trees spells spelled =>
      cases spelled with
      | nil =>
          have shape : (listText [text]).toList ++ rest =
              '[' :: (text.toList ++ ']' :: rest) := by
            simp [listText]
          rw [shape]
          exact listItems_single spells
      | @cons next second texts trees spellsNext spelled =>
          have shape : (listText (text :: next :: texts)).toList ++ rest =
              '[' :: '\n' :: itemLines rest ((text :: next :: texts).map String.toList) := by
            rw [← toList_itemLines]
            simp [listText]
          have later : List.Forall₂ (Spells item) ((next :: texts).map String.toList)
              (second :: trees) :=
            List.forall₂_map_left_iff.mpr (.cons spellsNext spelled)
          rw [shape]
          exact listItems_lines spells later refuses

theorem listText_front (texts : List String) :
    ∃ others, (listText texts).toList = '[' :: others := by
  match texts with
  | [] => exact ⟨_, rfl⟩
  | [text] =>
      refine ⟨text.toList ++ [']'], ?_⟩
      simp [listText]
  | text :: next :: texts =>
      refine ⟨'\n' :: itemLines [] ((text :: next :: texts).map String.toList), ?_⟩
      rw [← toList_itemLines]
      simp [listText]

end Lists

/-! ## Values -/

/-- A value that is written in one place, with lists in it nested at most so deep, if there is room
for its integers. -/
inductive Plain (room : Int → Prop) : Nat → Tree → Prop where
  | bool (depth : Nat) (value : Bool) : Plain room depth (.bool value)
  | integer (depth : Nat) {value : Int} (fits : room value) : Plain room depth (.integer value)
  | text (depth : Nat) (value : String) : Plain room depth (.text value)
  | list {depth : Nat} {items : List Tree} (each : ∀ item ∈ items, Plain room depth item) :
      Plain room (depth + 1) (.list items)

theorem value_scalar {c : Char} (bracket : c ≠ '[') (brace : c ≠ '\x7b') (depth : Nat)
    (text : List Char) : value depth (c :: text) = scalar (c :: text) := by
  cases depth with
  | zero => rfl
  | succ depth =>
      rw [value, bind_some (peek?_apply _), List.head?_cons]
      refine congrFun ?_ (c :: text)
      split
      next same => exact (bracket (Option.some.inj same)).elim
      next same => exact (brace (Option.some.inj same)).elim
      next => rfl

/-- No value starts with a closing bracket. -/
theorem value_closing (depth : Nat) (rest : List Char) : value depth (']' :: rest) = none := by
  rw [value_scalar (by decide) (by decide)]
  cases rest <;> rfl

theorem scalar_letter_f (text : List Char) :
    scalar ('f' :: text) =
      whole (do Reader.word "false"; return .bool false) ('f' :: text) := rfl

theorem scalar_letter_t (text : List Char) :
    scalar ('t' :: text) =
      whole (do Reader.word "true"; return .bool true) ('t' :: text) := rfl

theorem spells_bool (depth : Nat) (truth : Bool) :
    Spells (value depth) (toString truth).toList (.bool truth) := by
  cases truth with
  | false =>
      refine ⟨⟨'f', _, rfl, rfl⟩, fun rest ends => ?_⟩
      have text : (toString false).toList ++ rest = 'f' :: 'a' :: 'l' :: 's' :: 'e' :: rest := rfl
      have word : (do Reader.word "false"; return .bool false : Reader Tree)
          ('f' :: 'a' :: 'l' :: 's' :: 'e' :: rest) = some (.bool false, rest) := rfl
      rw [text, value_scalar (by decide) (by decide), scalar_letter_f]
      exact whole_some word ends
  | true =>
      refine ⟨⟨'t', _, rfl, rfl⟩, fun rest ends => ?_⟩
      have text : (toString true).toList ++ rest = 't' :: 'r' :: 'u' :: 'e' :: rest := rfl
      have word : (do Reader.word "true"; return .bool true : Reader Tree)
          ('t' :: 'r' :: 'u' :: 'e' :: rest) = some (.bool true, rest) := rfl
      rw [text, value_scalar (by decide) (by decide), scalar_letter_t]
      exact whole_some word ends

theorem spells_integer (depth : Nat) {number : Int} (fits : Fits number) :
    Spells (value depth) (toString number).toList (.integer number) := by
  obtain ⟨first, others, front, starts⟩ := toString_int_front number
  refine ⟨⟨first, others, front, ?_⟩, fun rest ends => ?_⟩
  · refine Bool.eq_false_iff.mpr fun blank => ?_
    simp only [isSpace, Bool.or_eq_true, beq_iff_eq] at blank
    rcases blank with (((rfl | rfl) | rfl) | rfl) | rfl <;> cases starts
  · have bracket : first ≠ '[' := by
      rintro rfl
      cases starts
    have brace : first ≠ '\x7b' := by
      rintro rfl
      cases starts
    have read := scalar_toString fits ends
    rw [front] at read ⊢
    exact (value_scalar bracket brace depth _).trans read

theorem spells_text (depth : Nat) (text : String) :
    Spells (value depth) (quoted text).toList (.text text) := by
  rw [quoted, String.toList_ofList]
  obtain ⟨first, others, front, quote⟩ := quotedChars_front text.toList
  refine ⟨⟨first, others, front, ?_⟩, fun rest ends => ?_⟩
  · rcases quote with rfl | rfl <;> rfl
  · have read := string_quotedChars text.toList (ends.stops rfl rfl rfl)
    rw [String.ofList_toList, front] at read
    rw [front]
    rcases quote with rfl | rfl
    · exact (value_scalar (by decide) (by decide) depth _).trans read
    · exact (value_scalar (by decide) (by decide) depth _).trans read

theorem value_bracket (depth : Nat) (text : List Char) :
    value (depth + 1) ('[' :: text) =
      (do return .list (← listItems (value depth)) : Reader Tree) ('[' :: text) := by
  rw [value]
  rfl

theorem spells_list {depth : Nat} {texts : List String} {items : List Tree}
    (spelled : List.Forall₂ (fun text tree => Spells (value depth) text.toList tree) texts items) :
    Spells (value (depth + 1)) (listText texts).toList (.list items) := by
  obtain ⟨others, front⟩ := listText_front texts
  refine ⟨⟨'[', others, front, rfl⟩, fun rest _ => ?_⟩
  have read := listItems_listText spelled (value_closing depth rest)
  rw [front] at read ⊢
  rw [List.cons_append] at read ⊢
  rw [value_bracket, bind_some read]
  rfl

/-- A value that is written in one place reads back. -/
theorem plain_spells {depth : Nat} {tree : Tree} (fits : Plain Fits depth tree) :
    ∃ text, plain tree = .ok text ∧ Spells (value depth) text.toList tree := by
  induction fits with
  | bool depth truth => exact ⟨_, rfl, spells_bool depth truth⟩
  | @integer depth number fits =>
      have room : integerText number = .ok (toString number) := if_pos fits
      exact ⟨_, room, spells_integer depth fits⟩
  | text depth text => exact ⟨_, rfl, spells_text depth text⟩
  | @list depth items each ih =>
      have spelled : ∃ texts, plainItems items = .ok texts ∧
          List.Forall₂ (fun text tree => Spells (value depth) text.toList tree) texts items := by
        clear each
        induction items with
        | nil => exact ⟨[], rfl, .nil⟩
        | cons item items rest =>
            obtain ⟨text, written, spells⟩ := ih item List.mem_cons_self
            obtain ⟨texts, others, spelled⟩ :=
              rest fun item member => ih item (List.mem_cons_of_mem _ member)
            refine ⟨text :: texts, ?_, .cons spells spelled⟩
            rw [plainItems, written, others]
            rfl
      obtain ⟨texts, written, spelled⟩ := spelled
      refine ⟨listText texts, ?_, spells_list spelled⟩
      rw [plain, written]
      rfl

end DatasetSync.Toml
