import DatasetSync.Proofs.Document.Toml.Values

/-!
# The lines of a TOML document

A value with its name, a header and a blank line each read back as what they say, and a text made of
such lines says one after the other.
-/

namespace DatasetSync.Toml

open Text Text.Reader

/-! ## Names -/

theorem isBare_of_isAlphanum {c : Char} (fits : (c.isAlphanum || c == '_' || c == '-') = true) :
    isBare c = true := by
  change ((decide (c.val ≥ 'A'.val ∧ c.val ≤ 'Z'.val) ||
    decide (c.val ≥ 'a'.val) && decide (c.val ≤ 'z'.val) ||
    decide (c.val ≥ '0'.val) && decide (c.val ≤ '9'.val)) || c == '_' || c == '-') = true at fits
  simp only [isBare, isDecimal, decimal?, Bool.or_eq_true, Bool.and_eq_true, decide_eq_true_eq,
    Char.le_def] at fits ⊢
  rcases fits with (((upper | lower) | digit) | underscore) | dash
  · exact .inl (.inl (.inl (.inr upper)))
  · exact .inl (.inl (.inl (.inl lower)))
  · rw [if_pos digit]
    exact .inl (.inl (.inr rfl))
  · exact .inl (.inr underscore)
  · exact .inr dash

theorem isBare_of_isBareName {name : String} (bare : isBareName name = true) :
    name.toList.all isBare = true := by
  rw [isBareName, Bool.and_eq_true] at bare
  exact List.all_eq_true.mpr fun c member =>
    isBare_of_isAlphanum (List.all_eq_true.mp bare.2 c member)

theorem bareName_front {name : String} (bare : isBareName name = true) :
    ∃ first others, name.toList = first :: others ∧ isBare first = true := by
  have all := isBare_of_isBareName bare
  cases shape : name.toList with
  | nil =>
      have none : name = "" := String.toList_inj.mp shape
      rw [none] at bare
      cases bare
  | cons first others =>
      rw [shape, List.all_cons, Bool.and_eq_true] at all
      exact ⟨first, others, rfl, all.1⟩

/-- No character of a name is taken for another mark. -/
theorem isBare_apart {c mark : Char} (fits : isBare c = true) (apart : isBare mark = false) :
    c ≠ mark := by
  rintro rfl
  rw [fits] at apart
  cases apart

section Names

variable {name : String} {rest : List Char}

theorem nameText_bare (bare : isBareName name = true) : nameText name = name :=
  if_pos bare

theorem bareName_stops (bare : isBareName name = true) (rest : List Char) :
    Stops isSpace (name.toList ++ rest) := by
  obtain ⟨first, others, shape, fits⟩ := bareName_front bare
  rw [shape]
  refine stops_cons.mpr (Bool.or_eq_false_iff.mpr ⟨?_, ?_⟩)
  · exact beq_eq_false_iff_ne.mpr (isBare_apart fits rfl)
  · exact beq_eq_false_iff_ne.mpr (isBare_apart fits rfl)

theorem simpleName_bare (bare : isBareName name = true) (stops : Stops isBare rest) :
    simpleName (name.toList ++ rest) = some (name, rest) := by
  obtain ⟨first, others, shape, _⟩ := bareName_front bare
  have something : name.toList ≠ [] := by
    rw [shape]
    exact List.cons_ne_nil _ _
  have taken := takeWhile1_append something (isBare_of_isBareName bare) stops
  rw [simpleName, bind_some (orElse_some taken _), pure_apply, String.ofList_toList]

def namePart : Reader String := do
  let part ← simpleName
  spaces
  return part

def namePoint : Reader Unit := do
  char '.'
  spaces

theorem namePart_bare (bare : isBareName name = true) (stops : Stops isBare rest)
    {last : List Char} (blanks : spaces rest = some ((), last)) :
    namePart (name.toList ++ rest) = some (name, last) := by
  rw [namePart, bind_some (simpleName_bare bare stops), bind_some blanks]
  rfl

theorem dottedName_of_parts {text last : List Char} {path : List String}
    (stops : Stops isSpace text)
    (parts : sepBy1 namePart namePoint text = some (path ++ [name], last))
    (short : path.length + 1 < depthLimit) :
    dottedName text = some ((path, name), last) := by
  unfold namePart namePoint at parts
  rw [dottedName, bind_some (spaces_stops stops), bind_some parts, List.getLast?_concat]
  dsimp only
  rw [if_pos (by rwa [List.length_append]), List.dropLast_concat]
  rfl

/-- The name in front of a value. -/
theorem dottedName_entry (bare : isBareName name = true) (rest : List Char) :
    dottedName (name.toList ++ ' ' :: '=' :: rest) = some (([], name), '=' :: rest) := by
  have one : [' '].all isSpace = true := rfl
  have stop : Stops isSpace ('=' :: rest) := stops_cons.mpr rfl
  have part : namePart (name.toList ++ ' ' :: '=' :: rest) = some (name, '=' :: rest) :=
    namePart_bare bare (stops_cons.mpr rfl) (spaces_append one stop)
  have stopped : Ends (do let _ ← namePoint; namePart) ('=' :: rest) := .inr rfl
  exact dottedName_of_parts (bareName_stops bare _) (sepBy1_of_chain part (.nil _) stopped)
    (by decide)

def pointed (names : List String) : List Char :=
  names.flatMap fun name => '.' :: name.toList

theorem pointed_stops {test : Char → Bool} (point : test '.' = false) (bracket : test ']' = false)
    (names : List String) : Stops test (pointed names ++ ']' :: rest) := by
  cases names with
  | nil => exact stops_cons.mpr bracket
  | cons name names => exact stops_cons.mpr point

theorem namePart_path (bare : isBareName name = true) (names : List String) :
    namePart (name.toList ++ (pointed names ++ ']' :: rest)) =
      some (name, pointed names ++ ']' :: rest) :=
  namePart_bare bare (pointed_stops rfl rfl names) (spaces_stops (pointed_stops rfl rfl names))

theorem pointed_chain {names : List String} (bare : ∀ name ∈ names, isBareName name = true) :
    Chain (do let _ ← namePoint; namePart) (pointed names ++ ']' :: rest) names (']' :: rest) := by
  induction names with
  | nil => exact .nil _
  | cons name names ih =>
      have first := bare name List.mem_cons_self
      have point : namePoint ('.' :: (name.toList ++ (pointed names ++ ']' :: rest))) =
          some ((), name.toList ++ (pointed names ++ ']' :: rest)) := by
        rw [namePoint, bind_some (char_self '.' _), spaces_stops (bareName_stops first _)]
      have shape : pointed (name :: names) ++ ']' :: rest =
          '.' :: (name.toList ++ (pointed names ++ ']' :: rest)) := by
        simp [pointed]
      rw [shape]
      refine .cons ?_ ?_ (ih fun other member => bare other (List.mem_cons_of_mem _ member))
      · rw [bind_some point]
        exact namePart_path first names
      · simp only [List.length_cons, List.length_append]
        omega

theorem toList_pathText {first : String} {names : List String}
    (bare : ∀ name ∈ first :: names, isBareName name = true) :
    (pathText (first :: names)).toList = first.toList ++ pointed names := by
  have plain : (first :: names).map nameText = first :: names := by
    conv_rhs => rw [← List.map_id (first :: names)]
    exact List.map_congr_left fun name member => nameText_bare (bare name member)
  rw [pathText, plain]
  clear bare plain
  induction names generalizing first with
  | nil => simp [pointed]
  | cons name names ih =>
      rw [String.intercalate_cons_cons, String.toList_append, String.toList_append, ih]
      simp [pointed]

/-- The name in a header. -/
theorem dottedName_pathText {path : List String}
    (bare : ∀ part ∈ path ++ [name], isBareName part = true)
    (short : path.length + 1 < depthLimit) (rest : List Char) :
    dottedName ((pathText (path ++ [name])).toList ++ ']' :: rest) =
      some ((path, name), ']' :: rest) := by
  obtain ⟨first, names, shape⟩ : ∃ first names, path ++ [name] = first :: names :=
    List.exists_cons_of_ne_nil (List.append_ne_nil_of_right_ne_nil _ (List.cons_ne_nil _ _))
  rw [shape] at bare
  have starts := bare first List.mem_cons_self
  have stopped : Ends (do let _ ← namePoint; namePart) (']' :: rest) := .inr rfl
  have parts : sepBy1 namePart namePoint (first.toList ++ (pointed names ++ ']' :: rest)) =
      some (first :: names, ']' :: rest) :=
    sepBy1_of_chain (namePart_path starts names)
      (pointed_chain fun other member => bare other (List.mem_cons_of_mem _ member)) stopped
  rw [← shape] at parts
  rw [shape, toList_pathText bare, List.append_assoc]
  exact dottedName_of_parts (bareName_stops starts _) parts short

end Names

/-! ## Lines -/

section Lines

variable {rest : List Char}

theorem lineEnd_newline (rest : List Char) : lineEnd ('\n' :: rest) = some ((), rest) := rfl

theorem line_of_statement {text : List Char} {said : Line} (stops : Stops isSpace text)
    (reads : statement text = some (said, '\n' :: rest)) : line text = some (said, rest) := by
  rw [line, bind_some (spaces_stops stops), bind_some reads, bind_some (lineEnd_newline rest)]
  rfl

theorem line_blank (rest : List Char) : line ('\n' :: rest) = some (.blank, rest) :=
  line_of_statement (stops_cons.mpr rfl) rfl

theorem statement_entry {c : Char} (fits : isBare c = true) (text : List Char) :
    statement (c :: text) = (do
      let ((path, name), tree) ← entry (value (depthLimit - 1))
      return .entry path name tree : Reader Line) (c :: text) := by
  rw [statement, bind_some (peek?_apply _), List.head?_cons]
  refine congrFun ?_ (c :: text)
  split
  case h_5 same => cases same
  case h_6 => rfl
  all_goals
    next same =>
      cases same
      cases fits

/-- A value with its name in front. -/
theorem line_entry {name : String} (bare : isBareName name = true) {text : List Char} {tree : Tree}
    (spells : Spells (value (depthLimit - 1)) text tree) (rest : List Char) :
    line (name.toList ++ ' ' :: '=' :: ' ' :: (text ++ '\n' :: rest)) =
      some (.entry [] name tree, rest) := by
  have one : [' '].all isSpace = true := rfl
  have blank : spaces (' ' :: (text ++ '\n' :: rest)) = some ((), text ++ '\n' :: rest) :=
    spaces_append one (spells.solid _).space
  have after : spaces ('\n' :: rest) = some ((), '\n' :: rest) :=
    spaces_stops (stops_cons.mpr rfl)
  have read : entry (value (depthLimit - 1))
      (name.toList ++ ' ' :: '=' :: ' ' :: (text ++ '\n' :: rest)) =
        some ((([], name), tree), '\n' :: rest) := by
    rw [entry, bind_some (dottedName_entry bare _), bind_some (char_self '=' _), bind_some blank,
      bind_some (spells.reads _ (stops_cons.mpr rfl)), bind_some after]
    rfl
  refine line_of_statement (bareName_stops bare _) ?_
  obtain ⟨first, others, shape, fits⟩ := bareName_front bare
  rw [shape] at read ⊢
  rw [List.cons_append] at read ⊢
  rw [statement_entry fits, bind_some read]
  rfl

section Headers

variable {path : List String} {name : String}

theorem pathText_front (bare : ∀ part ∈ path ++ [name], isBareName part = true) :
    ∃ first others, (pathText (path ++ [name])).toList = first :: others ∧ isBare first = true := by
  obtain ⟨part, names, shape⟩ : ∃ part names, path ++ [name] = part :: names :=
    List.exists_cons_of_ne_nil (List.append_ne_nil_of_right_ne_nil _ (List.cons_ne_nil _ _))
  rw [shape] at bare
  obtain ⟨first, others, front, fits⟩ := bareName_front (bare part List.mem_cons_self)
  rw [shape, toList_pathText bare, front]
  exact ⟨first, _, rfl, fits⟩

/-- A line that starts with a bracket is a header, of a list of tables if there are two. -/
theorem statement_bracket (text : List Char) :
    statement ('[' :: text) =
      ((do
          word "[["
          let place ← dottedName
          word "]]"
          return .anotherHeader place.1 place.2 : Reader Line) <|>
        (do
          char '['
          let place ← dottedName
          char ']'
          return .header place.1 place.2)) ('[' :: text) := rfl

/-- The header of a table. -/
theorem line_header (bare : ∀ part ∈ path ++ [name], isBareName part = true)
    (short : path.length + 1 < depthLimit) (rest : List Char) :
    line ('[' :: ((pathText (path ++ [name])).toList ++ ']' :: '\n' :: rest)) =
      some (.header path name, rest) := by
  have read := dottedName_pathText bare short ('\n' :: rest)
  obtain ⟨first, others, front, fits⟩ := pathText_front bare
  have single : word "[[" ('[' :: ((pathText (path ++ [name])).toList ++
      ']' :: '\n' :: rest)) = none := by
    rw [front, List.cons_append]
    exact chars_second (stops_cons.mpr (beq_eq_false_iff_ne.mpr (isBare_apart fits rfl))) []
  refine line_of_statement (stops_cons.mpr rfl) ?_
  rw [statement_bracket, orElse_none (bind_none single _), bind_some (char_self '[' _),
    bind_some read]
  rfl

/-- The header of one more table of a list. -/
theorem line_anotherHeader (bare : ∀ part ∈ path ++ [name], isBareName part = true)
    (short : path.length + 1 < depthLimit) (rest : List Char) :
    line ('[' :: '[' :: ((pathText (path ++ [name])).toList ++ ']' :: ']' :: '\n' :: rest)) =
      some (.anotherHeader path name, rest) := by
  have read := dottedName_pathText bare short (']' :: '\n' :: rest)
  have opened : word "[[" ('[' :: '[' :: ((pathText (path ++ [name])).toList ++
      ']' :: ']' :: '\n' :: rest)) =
        some ((), (pathText (path ++ [name])).toList ++ ']' :: ']' :: '\n' :: rest) := rfl
  refine line_of_statement (stops_cons.mpr rfl) ?_
  rw [statement_bracket]
  refine orElse_some ?_ _
  rw [bind_some opened, bind_some read]
  rfl

end Headers

end Lines

/-! ## Texts -/

/-- A text that says lines, whatever text follows. -/
structure Says (text : List Char) (said : List Line) : Prop where
  /-- It does not start with the mark that may stand in front of a text. -/
  front : Stops (· == '\ufeff') text
  reads : ∀ rest, Chain line (text ++ rest) said rest

namespace Says

variable {text more : List Char} {said others : List Line}

theorem nil : Says [] [] :=
  ⟨stops_nil _, fun rest => .nil rest⟩

theorem append (first : Says text said) (second : Says more others) :
    Says (text ++ more) (said ++ others) := by
  constructor
  · cases text with
    | nil => exact second.front
    | cons c text => exact first.front
  · intro rest
    rw [List.append_assoc]
    exact (first.reads (more ++ rest)).append (second.reads rest)

theorem single {c : Char} {text : List Char} {said : Line} (front : c ≠ '\ufeff')
    (reads : ∀ rest, line (c :: text ++ rest) = some (said, rest)) : Says (c :: text) [said] := by
  refine ⟨stops_cons.mpr (beq_eq_false_iff_ne.mpr front), fun rest => .single (reads rest) ?_⟩
  rw [List.length_append, List.length_cons]
  omega

theorem blank : Says ['\n'] [.blank] :=
  single (by decide) line_blank

theorem entry {name text : String} {tree : Tree} (bare : isBareName name = true)
    (spells : Spells (value (depthLimit - 1)) text.toList tree) :
    Says (nameText name ++ " = " ++ text ++ "\n").toList [.entry [] name tree] := by
  have read := line_entry bare spells
  obtain ⟨first, others, shape, fits⟩ := bareName_front bare
  have whole : (nameText name ++ " = " ++ text ++ "\n").toList =
      first :: (others ++ ' ' :: '=' :: ' ' :: (text.toList ++ ['\n'])) := by
    simp [nameText_bare bare, shape]
  rw [whole]
  refine single (isBare_apart fits rfl) fun rest => ?_
  have said := read rest
  rw [shape] at said
  simpa using said

theorem header {path : List String} {name : String}
    (bare : ∀ part ∈ path ++ [name], isBareName part = true)
    (short : path.length + 1 < depthLimit) :
    Says ("[" ++ pathText (path ++ [name]) ++ "]\n").toList [.header path name] := by
  have whole : ("[" ++ pathText (path ++ [name]) ++ "]\n").toList =
      '[' :: ((pathText (path ++ [name])).toList ++ [']', '\n']) := by simp
  rw [whole]
  refine single (by decide) fun rest => ?_
  simpa using line_header bare short rest

theorem anotherHeader {path : List String} {name : String}
    (bare : ∀ part ∈ path ++ [name], isBareName part = true)
    (short : path.length + 1 < depthLimit) :
    Says ("[[" ++ pathText (path ++ [name]) ++ "]]\n").toList [.anotherHeader path name] := by
  have whole : ("[[" ++ pathText (path ++ [name]) ++ "]]\n").toList =
      '[' :: ('[' :: ((pathText (path ++ [name])).toList ++ [']', ']', '\n'])) := by simp
  rw [whole]
  refine single (by decide) fun rest => ?_
  simpa using line_anotherHeader bare short rest

/-- Texts with blank lines between them. -/
theorem intercalate {texts : List String} {sections : List (List Line)}
    (each : List.Forall₂ (fun text said => Says text.toList said) texts sections) :
    Says ("\n".intercalate texts).toList ([.blank].intercalate sections) := by
  induction each with
  | nil => exact .nil
  | @cons text said texts sections first each ih =>
      cases each with
      | nil => simpa using first
      | cons second each =>
          rw [String.intercalate_cons_cons, String.toList_append, String.toList_append,
            List.intercalate_cons_cons, List.append_assoc, List.append_assoc]
          exact first.append (blank.append ih)

/-- A whole text of lines. -/
theorem lines {text : String} (whole : Says text.toList said) :
    Toml.lines.run? text = some said := by
  have all := whole.reads []
  rw [List.append_nil] at all
  have stopped : Ends line ([] : List Char) := .inl rfl
  have read : Toml.lines text.toList = some (said, []) := by
    rw [Toml.lines, bind_some (optional_none (char_of_stops whole.front)),
      bind_some (all.many stopped)]
    rfl
  rw [run?, read]

end Says

end DatasetSync.Toml
