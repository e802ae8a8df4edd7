import DatasetSync.Document.Toml.Parser
import DatasetSync.Document.Toml.Printer
import DatasetSync.Proofs.Text.Digits
import DatasetSync.Proofs.Text.Reader

/-!
# TOML strings read back

A string is written in the first of four forms that can hold it.  Whichever it is, the readers of
the other forms refuse it, and its own reader gives the text back.
-/

namespace DatasetSync.Toml

open Text Text.Reader

def Unquoted (rest : List Char) : Prop :=
  Stops (fun c => c == '"' || c == '\'') rest

theorem Unquoted.double {rest : List Char} (unquoted : Unquoted rest) :
    Stops (· == '"') rest := by
  cases rest with
  | nil => exact stops_nil _
  | cons c rest => exact (Bool.or_eq_false_iff.mp (stops_cons.mp unquoted)).1

theorem Unquoted.single {rest : List Char} (unquoted : Unquoted rest) :
    Stops (· == '\'') rest := by
  cases rest with
  | nil => exact stops_nil _
  | cons c rest => exact (Bool.or_eq_false_iff.mp (stops_cons.mp unquoted)).2

/-! ## Characters -/

/-- A character either needs an escape or stands for itself. -/
theorem isPlain_eq (c : Char) : isPlain c = !isControl c := by
  unfold isPlain isControl
  cases tab : c == '\t' with
  | true => simp [bne, tab]
  | false =>
      simp only [bne, tab, Bool.false_or, Bool.not_false, Bool.and_true, Bool.not_or]
      rw [← decide_not]
      simp

/-- How a character stands between double quotes. -/
inductive Written (c : Char) : List Char → Prop where
  /-- As itself. -/
  | raw (fits : (isPlain c && c != '"' && c != '\\') = true) : Written c [c]
  /-- As an escape, which cannot be taken for a backslash at the end of a line. -/
  | escape {letter : Char} {others : List Char}
      (reads : ∀ rest, Toml.escape (letter :: (others ++ rest)) = some (c, rest))
      (visible : (isSpace letter || letter == '\n' || letter == '\r') = false) :
      Written c ('\\' :: letter :: others)

theorem Written.letter {c letter : Char}
    (reads : ∀ rest, Toml.escape (letter :: rest) = some (c, rest))
    (visible : (isSpace letter || letter == '\n' || letter == '\r') = false) :
    Written c ['\\', letter] := by
  have alone : ∀ rest, Toml.escape (letter :: ([] ++ rest)) = some (c, rest) := reads
  exact .escape alone visible

theorem written_quote : Written '"' ['\\', '"'] :=
  .letter (fun _ => rfl) rfl

theorem written_newline : Written '\n' ['\\', 'n'] :=
  .letter (fun _ => rfl) rfl

/-- Four digits are enough for a control character. -/
theorem numbered_codePoint {c : Char} (control : isControl c = true) (rest : List Char) :
    numbered 4 (codePoint c.toNat ++ rest) = some (c, rest) := by
  have code : c.toNat < 0x20 ∨ c.toNat = 0x7f := by
    simp only [isControl, Bool.and_eq_true, Bool.or_eq_true, decide_eq_true_eq,
      beq_iff_eq] at control
    exact control.1
  have read {code : Nat} (small : code < 0x20 ∨ code = 0x7f) :
      numbered 4 (codePoint code ++ rest) = some (Char.ofNat code, rest) := by
    rcases small with small | rfl
    · interval_cases code <;> rfl
    · rfl
  rw [read code, Char.ofNat_toNat]

theorem escape_numbered (text : List Char) : Toml.escape ('u' :: text) = numbered 4 text := rfl

theorem written_escaped {c : Char} (quote : c ≠ '"') : Written c (escaped c) := by
  unfold escaped
  split
  next tab =>
    subst tab
    exact .letter (fun _ => rfl) rfl
  split
  next backspace =>
    subst backspace
    exact .letter (fun _ => rfl) rfl
  split
  next feed =>
    subst feed
    exact .letter (fun _ => rfl) rfl
  split
  next carriage =>
    subst carriage
    exact .letter (fun _ => rfl) rfl
  split
  next backslash =>
    subst backslash
    exact .letter (fun _ => rfl) rfl
  split
  next control =>
    have reads (rest : List Char) :
        Toml.escape ('u' :: (codePoint c.toNat ++ rest)) = some (c, rest) := by
      rw [escape_numbered, numbered_codePoint control]
    exact .escape reads rfl
  next backslash plain =>
    refine .raw ?_
    rw [isPlain_eq, Bool.eq_false_iff.mpr plain]
    simp [quote, backslash]

/-! ## Quotes -/

section Quotes

variable {quote : Char} {rest : List Char}

theorem takeWhile_quotes (count : Nat) (stops : Stops (· == quote) rest) :
    (List.replicate count quote ++ rest).takeWhile (· == quote) = List.replicate count quote := by
  have all : (List.replicate count quote).all (· == quote) = true := by simp
  have taken := takeWhile_append all stops
  exact congrArg Prod.fst (Option.some.inj taken)

theorem drop_quotes (count : Nat) :
    (List.replicate count quote ++ rest).drop (List.replicate count quote).length = rest :=
  List.drop_left

theorem innerQuotes_few {count : Nat} (present : 0 < count) (few : count ≤ 2)
    (stops : Stops (· == quote) rest) :
    innerQuotes quote (List.replicate count quote ++ rest) =
      some (List.replicate count quote, rest) := by
  rw [innerQuotes, takeWhile_quotes count stops, drop_quotes, List.length_replicate,
    if_pos ⟨present, few⟩]

theorem innerQuotes_many {count : Nat} (many : 3 ≤ count) (stops : Stops (· == quote) rest) :
    innerQuotes quote (List.replicate count quote ++ rest) = none := by
  rw [innerQuotes, takeWhile_quotes count stops, List.length_replicate, if_neg fun few => by omega]

theorem replicate_three (count : Nat) (quote : Char) (rest : List Char) :
    List.replicate count quote ++ quote :: quote :: quote :: rest =
      List.replicate (count + 3) quote ++ rest := by
  change List.replicate count quote ++ (List.replicate 3 quote ++ rest) = _
  rw [← List.append_assoc, List.replicate_append_replicate]

theorem closingQuotes_eq {count : Nat} (few : count ≤ 2) (stops : Stops (· == quote) rest) :
    closingQuotes quote (List.replicate count quote ++ quote :: quote :: quote :: rest) =
      some (List.replicate count quote, rest) := by
  rw [replicate_three, closingQuotes, takeWhile_quotes _ stops, drop_quotes,
    List.length_replicate, if_pos ⟨by omega, by omega⟩, List.drop_replicate]
  rfl

/-- Two marks are not read where one stands alone. -/
theorem chars_second (stops : Stops (· == quote) rest) (others : List Char) :
    chars (quote :: quote :: others) (quote :: rest) = none := by
  rw [chars, bind_some (char_self quote _), chars, bind_none (char_of_stops stops)]

/-- Three marks are not read where two stand alone. -/
theorem chars_third (stops : Stops (· == quote) rest) (others : List Char) :
    chars (quote :: quote :: quote :: others) (quote :: quote :: rest) = none := by
  rw [chars, bind_some (char_self quote _), chars, bind_some (char_self quote _), chars,
    bind_none (char_of_stops stops)]

end Quotes

/-! ## Strings in one line -/

def basicChar (c : Char) : List Char :=
  if c = '"' then ['\\', '"'] else if c = '\n' then ['\\', 'n'] else escaped c

theorem written_basicChar (c : Char) : Written c (basicChar c) := by
  unfold basicChar
  split
  next quote =>
    subst quote
    exact written_quote
  split
  next newline =>
    subst newline
    exact written_newline
  next quote newline => exact written_escaped quote

theorem basicContent_eq (text : List Char) : basicContent text = text.flatMap basicChar := by
  induction text with
  | nil => rfl
  | cons c text ih =>
      rw [basicContent, ih, List.flatMap_cons]
      rfl

def basicPart : Reader Char :=
  (do char '\\'; escape) <|> satisfy fun c => isPlain c && c != '"' && c != '\\'

theorem basicPart_of_written {c : Char} {text : List Char} (written : Written c text)
    (rest : List Char) : basicPart (text ++ rest) = some (c, rest) := by
  cases written with
  | raw fits =>
      have apart : c ≠ '\\' := by
        rintro rfl
        cases fits
      have unescaped : (do char '\\'; escape : Reader Char) (c :: rest) = none :=
        bind_none (char_of_ne apart) _
      have plain : satisfy (fun c => isPlain c && c != '"' && c != '\\') (c :: rest) =
          some (c, rest) := satisfy_of_true fits
      exact (orElse_none unescaped _).trans plain
  | @escape letter others reads visible =>
      have escaped : (do char '\\'; escape : Reader Char)
          ('\\' :: letter :: (others ++ rest)) = some (c, rest) := by
        rw [bind_some (char_self '\\' _)]
        exact reads rest
      exact orElse_some escaped _

theorem Written.front {c : Char} {text : List Char} (written : Written c text) :
    ∃ first others, text = first :: others ∧ first ≠ '"' := by
  cases written with
  | raw fits =>
      refine ⟨c, [], rfl, ?_⟩
      rintro rfl
      cases fits
  | @escape letter others => exact ⟨'\\', letter :: others, rfl, by decide⟩

theorem basicString_basicContent (text rest : List Char) :
    basicString ('"' :: (basicContent text ++ '"' :: rest)) = some (text, rest) := by
  have chain : Chain basicPart (basicContent text ++ '"' :: rest) text ('"' :: rest) := by
    rw [basicContent_eq]
    induction text with
    | nil => exact .nil _
    | cons c text ih =>
        obtain ⟨first, others, front, _⟩ := (written_basicChar c).front
        rw [List.flatMap_cons, List.append_assoc]
        refine .step (basicPart_of_written (written_basicChar c) _) ?_ ih
        rw [front]
        exact List.cons_ne_nil _ _
  have ends : Ends basicPart ('"' :: rest) := .inr rfl
  have content : many basicPart (basicContent text ++ '"' :: rest) = some (text, '"' :: rest) :=
    chain.many ends
  rw [basicString, bind_some (char_self '"' _)]
  unfold basicPart at content
  rw [bind_some content, bind_some (char_self '"' _)]
  rfl

theorem literalString_eq {text : List Char} (fits : fitsLiteral text = true) (rest : List Char) :
    literalString ('\'' :: (text ++ '\'' :: rest)) = some (text, rest) := by
  have plain : text.all (fun c => isPlain c && c != '\'') = true := by
    simpa only [fitsLiteral, isPlain_eq] using fits
  rw [literalString, bind_some (char_self '\'' _),
    bind_some (takeWhile_append plain (stops_cons.mpr rfl)), bind_some (char_self '\'' _)]
  rfl

/-! ## Strings of several lines -/

/-- What comes next does not start a line end. -/
def Inline (rest : List Char) : Prop :=
  Stops (fun c => c == '\n' || c == '\r') rest

theorem newline_inline {rest : List Char} (inline : Inline rest) : newline rest = none := by
  cases rest with
  | nil => rfl
  | cons c rest =>
      have apart := Bool.or_eq_false_iff.mp (stops_cons.mp inline)
      rw [newline, orElse_none (char_of_stops (stops_cons.mpr apart.1))]
      exact bind_none (char_of_stops (stops_cons.mpr apart.2)) _

section Multiline

variable {quote : Char} {part : Reader (List Char)} {rest : List Char}

/-- What a string of several lines is put together from. -/
def inner (quote : Char) (part : Reader (List Char)) : Reader (List Char) :=
  part <|> innerNewline <|> innerQuotes quote

theorem inner_part {text taken : List Char} (reads : part text = some (taken, rest)) :
    inner quote part text = some (taken, rest) :=
  orElse_some reads _

theorem inner_newline (refuses : part ('\n' :: rest) = none) :
    inner quote part ('\n' :: rest) = some (['\n'], rest) :=
  (orElse_none refuses _).trans rfl

/-- A quote is neither part of the text nor the end of a line. -/
structure Delimits (quote : Char) (part : Reader (List Char)) : Prop where
  inline : ∀ text, Inline (quote :: text)
  refuses : ∀ text, part (quote :: text) = none

theorem inner_quotes (delimits : Delimits quote part) {count : Nat} (present : 0 < count)
    (few : count ≤ 2) (stops : Stops (· == quote) rest) :
    inner quote part (List.replicate count quote ++ rest) =
      some (List.replicate count quote, rest) := by
  obtain ⟨fewer, rfl⟩ : ∃ fewer, count = fewer + 1 := ⟨count - 1, by omega⟩
  have line : innerNewline (quote :: (List.replicate fewer quote ++ rest)) = none :=
    bind_none (newline_inline (delimits.inline _)) _
  have quotes := innerQuotes_few present few stops
  rw [List.replicate_succ, List.cons_append] at quotes ⊢
  rw [inner, orElse_none (delimits.refuses _), orElse_none line, quotes]

theorem inner_ends (delimits : Delimits quote part) (count : Nat)
    (stops : Stops (· == quote) rest) :
    inner quote part (List.replicate count quote ++ quote :: quote :: quote :: rest) = none := by
  have quotes : innerQuotes quote (List.replicate (count + 3) quote ++ rest) = none :=
    innerQuotes_many (by omega) stops
  have line : innerNewline (quote :: (List.replicate (count + 2) quote ++ rest)) = none :=
    bind_none (newline_inline (delimits.inline _)) _
  rw [replicate_three]
  rw [List.replicate_succ, List.cons_append] at quotes ⊢
  rw [inner, orElse_none (delimits.refuses _), orElse_none line, quotes]

/-- The content stands for the text, up to the quotes that end the string. -/
def Assembles (quote : Char) (part : Reader (List Char)) (rest text content : List Char) : Prop :=
  ∃ parts count, count ≤ 2 ∧
    Chain (inner quote part) (content ++ quote :: quote :: quote :: rest) parts
      (List.replicate count quote ++ quote :: quote :: quote :: rest) ∧
    parts.flatten ++ List.replicate count quote = text

namespace Assembles

theorem closing {count : Nat} (few : count ≤ 2) :
    Assembles quote part rest (List.replicate count quote) (List.replicate count quote) :=
  ⟨[], count, few, .nil _, rfl⟩

theorem step {text content said taken : List Char}
    (reads : inner quote part (taken ++ (content ++ quote :: quote :: quote :: rest)) =
      some (said, content ++ quote :: quote :: quote :: rest))
    (something : taken ≠ []) (later : Assembles quote part rest text content) :
    Assembles quote part rest (said ++ text) (taken ++ content) := by
  obtain ⟨parts, count, few, chain, rfl⟩ := later
  refine ⟨said :: parts, count, few, ?_, ?_⟩
  · rw [List.append_assoc]
    exact .step reads something chain
  · rw [List.flatten_cons, List.append_assoc]

theorem newline {text content : List Char} (refuses : ∀ rest, part ('\n' :: rest) = none)
    (later : Assembles quote part rest text content) :
    Assembles quote part rest ('\n' :: text) ('\n' :: content) := by
  have one : inner quote part (['\n'] ++ (content ++ quote :: quote :: quote :: rest)) =
      some (['\n'], content ++ quote :: quote :: quote :: rest) := inner_newline (refuses _)
  exact step one (List.cons_ne_nil _ _) later

theorem quotes (delimits : Delimits quote part) {text content : List Char} {count : Nat}
    (present : 0 < count) (few : count ≤ 2)
    (stops : Stops (· == quote) (content ++ quote :: quote :: quote :: rest))
    (later : Assembles quote part rest text content) :
    Assembles quote part rest (List.replicate count quote ++ text)
      (List.replicate count quote ++ content) := by
  refine step (inner_quotes delimits present few stops) ?_ later
  rw [Ne, List.replicate_eq_nil_iff]
  omega

end Assembles

/-- A string of several lines reads back, whether it starts on a line of its own or not. -/
theorem multiline_of_assembles (delimits : Delimits quote part) {text content : List Char}
    (assembles : Assembles quote part rest text content) (stops : Stops (· == quote) rest)
    (inline : text.contains '\n' = false → Inline (content ++ quote :: quote :: quote :: rest)) :
    multiline quote part (quote :: quote :: quote ::
        ((if text.contains '\n' then ['\n'] else []) ++
          (content ++ quote :: quote :: quote :: rest))) = some (text, rest) := by
  obtain ⟨parts, count, few, chain, whole⟩ := assembles
  have marks (body : List Char) :
      chars [quote, quote, quote] (quote :: quote :: quote :: body) = some ((), body) :=
    chars_append _ _
  have starts : ∃ opened, Reader.optional Toml.newline
      ((if text.contains '\n' then ['\n'] else []) ++
        (content ++ quote :: quote :: quote :: rest)) =
      some (opened, content ++ quote :: quote :: quote :: rest) := by
    split
    next broken => exact ⟨some (), rfl⟩
    next unbroken =>
      exact ⟨none, optional_none (newline_inline (inline (Bool.eq_false_iff.mpr unbroken)))⟩
  obtain ⟨opened, starts⟩ := starts
  have read : many (inner quote part) (content ++ quote :: quote :: quote :: rest) = some (parts,
      List.replicate count quote ++ quote :: quote :: quote :: rest) :=
    chain.many (.inr (inner_ends delimits count stops))
  unfold inner at read
  rw [multiline, bind_some (marks _), bind_some starts, bind_some read,
    bind_some (closingQuotes_eq few stops), ← whole]
  rfl

/--
Every text falls into runs of characters of a class, quotes and other characters: induction along
the pieces that a string of several lines is read in.
-/
theorem pieces_induction {Holds : List Char → Prop} (quote : Char) (test : Char → Bool)
    (closing : ∀ count ≤ 2, Holds (List.replicate count quote))
    (quotes : ∀ count c text, 0 < count → count ≤ 2 → c ≠ quote → Holds (c :: text) →
      Holds (List.replicate count quote ++ c :: text))
    (triple : ∀ text, Holds text → Holds (quote :: quote :: quote :: text))
    (other : ∀ c text, c ≠ quote → test c = false → Holds text → Holds (c :: text))
    (run : ∀ taken text, taken ≠ [] → taken.all test = true → Stops test text → Holds text →
      Holds (taken ++ text))
    (text : List Char) : Holds text := by
  -- On the length: a run may take any number of characters at once.
  induction length : text.length using Nat.strong_induction_on generalizing text with
  | _ _ ih =>
      subst length
      have shorter (text' : List Char) (less : text'.length < text.length) : Holds text' :=
        ih _ less text' rfl
      match text with
      | [] => exact closing 0 (by omega)
      | c :: text =>
          by_cases first : c = quote
          · subst first
            match text with
            | [] => exact closing 1 (by omega)
            | d :: text =>
                by_cases second : d = c
                · subst second
                  match text with
                  | [] => exact closing 2 (by omega)
                  | e :: text =>
                      by_cases third : e = d
                      · subst third
                        exact triple text (shorter text (by simp only [List.length_cons]; omega))
                      · exact quotes 2 e text (by omega) (by omega) third
                          (shorter _ (by simp only [List.length_cons]; omega))
                · exact quotes 1 d text (by omega) (by omega) second
                    (shorter _ (by simp only [List.length_cons]; omega))
          · cases fits : test c with
            | false => exact other c text first fits (shorter text (Nat.lt_succ_self _))
            | true =>
                have parts : (c :: text).takeWhile test ++ (c :: text).dropWhile test = c :: text :=
                  List.takeWhile_append_dropWhile
                have length := congrArg List.length parts
                rw [List.length_append, List.takeWhile_cons_of_pos fits, List.length_cons] at length
                rw [← parts]
                refine run _ _ ?_ List.all_takeWhile (stops_dropWhile test _)
                  (shorter _ (by omega))
                rw [List.takeWhile_cons_of_pos fits]
                exact List.cons_ne_nil _ _

end Multiline

/-! ### With escapes -/

def basicRun : Reader (List Char) :=
  takeWhile1 (fun c => isPlain c && c != '"' && c != '\\') <|> continuation <|>
    (do char '\\'; return [← escape])

/-- Neither a quote nor a line end is part of a run. -/
theorem basicRun_stops {c : Char} (mark : (isPlain c && c != '"' && c != '\\') = false)
    (apart : c ≠ '\\') (rest : List Char) : basicRun (c :: rest) = none := by
  have slash : char '\\' (c :: rest) = none := char_of_ne apart
  rw [basicRun, orElse_none (takeWhile1_stops (stops_cons.mpr mark)), continuation,
    orElse_none (bind_none slash _), bind_none slash]

theorem delimits_basicRun : Delimits '"' basicRun :=
  ⟨fun _ => stops_cons.mpr rfl, basicRun_stops rfl (by decide)⟩

/-- A backslash in front of a letter is no end of a line. -/
theorem continuation_letter {letter : Char}
    (visible : (isSpace letter || letter == '\n' || letter == '\r') = false) (rest : List Char) :
    continuation ('\\' :: letter :: rest) = none := by
  simp only [Bool.or_eq_false_iff] at visible
  have inline : Inline (letter :: rest) := by
    rw [Inline, stops_cons, visible.1.2, visible.2]
    rfl
  have none_blank : ([] : List Char).all isSpace = true := rfl
  have blank : spaces (letter :: rest) = some ((), letter :: rest) :=
    skip_append none_blank (stops_cons.mpr visible.1.1)
  rw [continuation, bind_some (char_self '\\' _), bind_some blank,
    bind_none (newline_inline inline)]

theorem basicRun_escape {c letter : Char} {others : List Char}
    (reads : ∀ rest, Toml.escape (letter :: (others ++ rest)) = some (c, rest))
    (visible : (isSpace letter || letter == '\n' || letter == '\r') = false) (rest : List Char) :
    basicRun ('\\' :: letter :: (others ++ rest)) = some ([c], rest) := by
  have raw : takeWhile1 (fun c => isPlain c && c != '"' && c != '\\')
      ('\\' :: letter :: (others ++ rest)) = none := takeWhile1_stops (stops_cons.mpr rfl)
  rw [basicRun, orElse_none raw, orElse_none (continuation_letter visible _),
    bind_some (char_self '\\' _), bind_some (reads rest)]
  rfl

/-- A character that is written as itself between three double quotes, with others around it. -/
def standsRaw (c : Char) : Bool :=
  c != '"' && c != '\n' && escaped c == [c]

theorem standsRaw_iff {c : Char} :
    standsRaw c = true ↔ c ≠ '"' ∧ c ≠ '\n' ∧ escaped c = [c] := by
  simp [standsRaw, and_assoc]

theorem isPlain_of_standsRaw {c : Char} (raw : standsRaw c = true) :
    (isPlain c && c != '"' && c != '\\') = true := by
  obtain ⟨quote, _, itself⟩ := standsRaw_iff.mp raw
  have written := written_escaped quote
  rw [itself] at written
  cases written with
  | raw fits => exact fits

theorem multilineContent_run {taken : List Char} (raw : taken.all standsRaw = true)
    (text : List Char) : multilineContent 0 (taken ++ text) = taken ++ multilineContent 0 text := by
  induction taken with
  | nil => rfl
  | cons c taken ih =>
      rw [List.all_cons, Bool.and_eq_true] at raw
      obtain ⟨quote, newline, itself⟩ := standsRaw_iff.mp raw.1
      rw [List.cons_append, multilineContent, if_neg quote, if_neg newline, itself, ih raw.2]
      rfl

theorem multilineContent_other {c : Char} (quote : c ≠ '"') (count : Nat) (text : List Char) :
    multilineContent count (c :: text) =
      (if c = '\n' then [c] else escaped c) ++ multilineContent 0 text := by
  rw [multilineContent, if_neg quote]
  split <;> rfl

theorem multilineContent_quotes {c : Char} (quote : c ≠ '"') {count : Nat} (few : count ≤ 2)
    (text : List Char) :
    multilineContent 0 (List.replicate count '"' ++ c :: text) =
      List.replicate count '"' ++ multilineContent 0 (c :: text) := by
  have any (count : Nat) : multilineContent count (c :: text) = multilineContent 0 (c :: text) := by
    rw [multilineContent_other quote, multilineContent_other quote]
  match count, few with
  | 0, _ => rfl
  | 1, _ => exact congrArg ('"' :: ·) (any 1)
  | 2, _ => exact congrArg ('"' :: '"' :: ·) (any 2)

/-- What a text starts with, if it starts with no quote and is written with escapes. -/
theorem multilineContent_front {c : Char} (quote : c ≠ '"') (text : List Char) :
    ∃ first others, multilineContent 0 (c :: text) = first :: others ∧ first ≠ '"' := by
  rw [multilineContent_other quote]
  split
  next newline => exact ⟨c, _, rfl, quote⟩
  next =>
    obtain ⟨first, others, front, apart⟩ := (written_escaped quote).front
    rw [front]
    exact ⟨first, _, rfl, apart⟩

/-- What does not stand as itself is a quote, a line end or an escape. -/
theorem escaped_of_unraw {c : Char} (quote : c ≠ '"') (newline : c ≠ '\n')
    (unraw : standsRaw c = false) :
    ∃ letter others, escaped c = '\\' :: letter :: others ∧
      ∀ rest, basicRun ('\\' :: letter :: (others ++ rest)) = some ([c], rest) := by
  have written := written_escaped quote
  generalize shape : escaped c = characters at written
  cases written with
  | raw fits =>
      rw [standsRaw_iff.mpr ⟨quote, newline, shape⟩] at unraw
      cases unraw
  | @escape letter others reads visible =>
      exact ⟨letter, others, rfl, basicRun_escape reads visible⟩

theorem multilineContent_stops {text : List Char} (stops : Stops standsRaw text)
    (rest : List Char) :
    Stops (fun c => isPlain c && c != '"' && c != '\\')
      (multilineContent 0 text ++ '"' :: rest) := by
  cases text with
  | nil => exact stops_cons.mpr rfl
  | cons c text =>
      by_cases quote : c = '"'
      · subst quote
        exact stops_cons.mpr rfl
      · rw [multilineContent_other quote]
        split
        next newline =>
          subst newline
          exact stops_cons.mpr rfl
        next newline =>
          obtain ⟨letter, others, shape, _⟩ := escaped_of_unraw quote newline (stops_cons.mp stops)
          rw [shape]
          exact stops_cons.mpr rfl

theorem Assembles.escape {rest text content said others : List Char} {letter : Char}
    (reads : ∀ rest, basicRun ('\\' :: letter :: (others ++ rest)) = some (said, rest))
    (later : Assembles '"' basicRun rest text content) :
    Assembles '"' basicRun rest (said ++ text) ('\\' :: letter :: others ++ content) :=
  step (inner_part (reads _)) (List.cons_ne_nil _ _) later

theorem assembles_multilineContent (text rest : List Char) :
    Assembles '"' basicRun rest text (multilineContent 0 text) := by
  induction text using pieces_induction '"' standsRaw with
  | closing count few =>
      have content : multilineContent 0 (List.replicate count '"') = List.replicate count '"' := by
        match count, few with
        | 0, _ => rfl
        | 1, _ => rfl
        | 2, _ => rfl
      rw [content]
      exact .closing few
  | quotes count c text present few apart later =>
      rw [multilineContent_quotes apart few]
      refine later.quotes delimits_basicRun present few ?_
      obtain ⟨first, others, front, unquoted⟩ := multilineContent_front apart text
      rw [front]
      exact stops_cons.mpr (beq_eq_false_iff_ne.mpr unquoted)
  | triple text later =>
      -- Two quotes stand as they are, and the third is an escape.
      have third : ∀ rest, basicRun ('\\' :: '"' :: ([] ++ rest)) = some (['"'], rest) :=
        basicRun_escape (fun _ => rfl) rfl
      exact (later.escape third).quotes delimits_basicRun Nat.two_pos (Nat.le_refl 2)
        (stops_cons.mpr rfl)
  | other c text quote unraw later =>
      rw [multilineContent_other quote]
      split
      next newline =>
        subst newline
        exact later.newline (basicRun_stops rfl (by decide))
      next newline =>
        obtain ⟨letter, others, shape, reads⟩ := escaped_of_unraw quote newline unraw
        rw [shape]
        exact later.escape reads
  | run taken text something raw stops later =>
      have plain : taken.all (fun c => isPlain c && c != '"' && c != '\\') = true :=
        List.all_eq_true.mpr fun c member =>
          isPlain_of_standsRaw (List.all_eq_true.mp raw c member)
      have reads : basicRun (taken ++ (multilineContent 0 text ++ '"' :: '"' :: '"' :: rest)) =
          some (taken, multilineContent 0 text ++ '"' :: '"' :: '"' :: rest) :=
        orElse_some (takeWhile1_append something plain (multilineContent_stops stops _)) _
      rw [multilineContent_run raw]
      exact .step (inner_part reads) something later

/-- Without line ends, the content does not start with one. -/
theorem multilineContent_inline {text : List Char} (unbroken : text.contains '\n' = false)
    (rest : List Char) : Inline (multilineContent 0 text ++ '"' :: rest) := by
  cases text with
  | nil => exact stops_cons.mpr rfl
  | cons c text =>
      have newline : c ≠ '\n' := by
        rintro rfl
        cases unbroken
      by_cases quote : c = '"'
      · subst quote
        exact stops_cons.mpr rfl
      · rw [multilineContent_other quote, if_neg newline]
        have written := written_escaped quote
        generalize escaped c = characters at written
        cases written with
        | raw fits =>
            have carriage : c ≠ '\r' := by
              rintro rfl
              cases fits
            rw [List.append_assoc]
            refine stops_cons.mpr ?_
            simp [newline, carriage]
        | escape => exact stops_cons.mpr rfl

theorem multilineBasic_multilineContent {rest : List Char} (text : List Char)
    (stops : Stops (· == '"') rest) :
    multilineBasic ('"' :: '"' :: '"' :: ((if text.contains '\n' then ['\n'] else []) ++
      (multilineContent 0 text ++ '"' :: '"' :: '"' :: rest))) = some (text, rest) :=
  multiline_of_assembles delimits_basicRun (assembles_multilineContent text rest) stops
    fun unbroken => multilineContent_inline unbroken _

/-! ### Without escapes -/

def literalRun : Reader (List Char) :=
  takeWhile1 fun c => isPlain c && c != '\''

theorem literalRun_stops {c : Char} (mark : (isPlain c && c != '\'') = false) (rest : List Char) :
    literalRun (c :: rest) = none :=
  takeWhile1_stops (stops_cons.mpr mark)

theorem delimits_literalRun : Delimits '\'' literalRun :=
  ⟨fun _ => stops_cons.mpr rfl, literalRun_stops rfl⟩

theorem hasTriple_of_cons {quote c : Char} {text : List Char}
    (none : hasTriple quote (c :: text) = false) : hasTriple quote text = false := by
  match text with
  | [] => rfl
  | [_] => rfl
  | second :: third :: text =>
      rw [hasTriple, Bool.or_eq_false_iff] at none
      exact none.2

theorem hasTriple_of_append {quote : Char} (earlier : List Char) {text : List Char}
    (none : hasTriple quote (earlier ++ text) = false) : hasTriple quote text = false := by
  induction earlier with
  | nil => exact none
  | cons c earlier ih => exact ih (hasTriple_of_cons none)

theorem fitsMultilineLiteral_iff {text : List Char} :
    fitsMultilineLiteral text = true ↔
      (∀ c ∈ text, isPlain c = true ∨ c = '\n') ∧ hasTriple '\'' text = false := by
  simp [fitsMultilineLiteral, isPlain_eq]

theorem fitsMultilineLiteral_of_append (earlier : List Char) {text : List Char}
    (fits : fitsMultilineLiteral (earlier ++ text) = true) : fitsMultilineLiteral text = true := by
  rw [fitsMultilineLiteral_iff] at fits ⊢
  exact ⟨fun c member => fits.1 c (List.mem_append_right _ member),
    hasTriple_of_append earlier fits.2⟩

theorem assembles_literal {text : List Char} (fits : fitsMultilineLiteral text = true)
    (rest : List Char) : Assembles '\'' literalRun rest text text := by
  induction text using pieces_induction '\'' (fun c => isPlain c && c != '\'') with
  | closing count few => exact .closing few
  | quotes count c text present few apart ih =>
      have later := ih (fitsMultilineLiteral_of_append _ fits)
      exact later.quotes delimits_literalRun present few
        (stops_cons.mpr (beq_eq_false_iff_ne.mpr apart))
  | triple text =>
      have none := (fitsMultilineLiteral_iff.mp fits).2
      cases none
  | other c text quote unraw ih =>
      have plain := (fitsMultilineLiteral_iff.mp fits).1 c List.mem_cons_self
      have newline : c = '\n' := by
        refine plain.resolve_left fun plain => ?_
        rw [plain, bne_iff_ne.mpr quote] at unraw
        cases unraw
      subst newline
      exact (ih (fitsMultilineLiteral_of_append ['\n'] fits)).newline (literalRun_stops rfl)
  | run taken text something raw stops ih =>
      have later := ih (fitsMultilineLiteral_of_append taken fits)
      have stops' : Stops (fun c => isPlain c && c != '\'')
          (text ++ '\'' :: '\'' :: '\'' :: rest) := by
        cases text with
        | nil => exact stops_cons.mpr rfl
        | cons c text => exact stops
      exact .step (inner_part (takeWhile1_append something raw stops')) something later

theorem multilineLiteral_eq {text rest : List Char} (fits : fitsMultilineLiteral text = true)
    (stops : Stops (· == '\'') rest) :
    multilineLiteral ('\'' :: '\'' :: '\'' :: ((if text.contains '\n' then ['\n'] else []) ++
      (text ++ '\'' :: '\'' :: '\'' :: rest))) = some (text, rest) := by
  refine multiline_of_assembles delimits_literalRun (assembles_literal fits rest) stops ?_
  intro unbroken
  cases text with
  | nil => exact stops_cons.mpr rfl
  | cons c text =>
      have newline : c ≠ '\n' := by
        rintro rfl
        cases unbroken
      have plain : isPlain c = true :=
        ((fitsMultilineLiteral_iff.mp fits).1 c List.mem_cons_self).resolve_right newline
      have carriage : c ≠ '\r' := by
        rintro rfl
        cases plain
      refine stops_cons.mpr ?_
      simp [newline, carriage]

/-! ## Any string -/

section AnyString

variable {text rest : List Char}

theorem multilineBasic_single (rest : List Char) : multilineBasic ('\'' :: rest) = none := rfl

theorem basicString_single (rest : List Char) : basicString ('\'' :: rest) = none := rfl

/-- One mark in front, and another after what does not start with it, are not three. -/
theorem multiline_of_single {quote : Char} {part : Reader (List Char)} {content : List Char}
    (front : Stops (· == quote) content) (stops : Stops (· == quote) rest) :
    multiline quote part (quote :: (content ++ quote :: rest)) = none := by
  refine bind_none ?_ _
  cases content with
  | nil => exact chars_third stops []
  | cons c content =>
      have apart : Stops (· == quote) (c :: (content ++ quote :: rest)) := front
      exact chars_second apart [quote]

theorem string_basicContent (text : List Char) (unquoted : Unquoted rest) :
    string ('"' :: (basicContent text ++ '"' :: rest)) =
      some (.text (String.ofList text), rest) := by
  have front : Stops (· == '"') (basicContent text) := by
    cases text with
    | nil => exact stops_nil _
    | cons c text =>
        obtain ⟨first, others, shape, apart⟩ := (written_basicChar c).front
        rw [basicContent_eq, List.flatMap_cons, shape]
        exact stops_cons.mpr (beq_eq_false_iff_ne.mpr apart)
  have several : multilineBasic ('"' :: (basicContent text ++ '"' :: rest)) = none :=
    multiline_of_single front unquoted.double
  have read := (orElse_none several _).trans
    (orElse_some (basicString_basicContent text rest) (multilineLiteral <|> literalString))
  rw [string, bind_some read]
  rfl

theorem string_literal (fits : fitsLiteral text = true) (unquoted : Unquoted rest) :
    string ('\'' :: (text ++ '\'' :: rest)) = some (.text (String.ofList text), rest) := by
  have front : Stops (· == '\'') text := by
    cases text with
    | nil => exact stops_nil _
    | cons c text =>
        rw [fitsLiteral, List.all_cons] at fits
        simp only [Bool.and_eq_true, bne_iff_ne] at fits
        exact stops_cons.mpr (beq_eq_false_iff_ne.mpr fits.1.2)
  have several : multilineLiteral ('\'' :: (text ++ '\'' :: rest)) = none :=
    multiline_of_single front unquoted.single
  have read : (multilineBasic <|> basicString <|> multilineLiteral <|> literalString)
      ('\'' :: (text ++ '\'' :: rest)) = some (text, rest) := by
    rw [orElse_none (multilineBasic_single _), orElse_none (basicString_single _),
      orElse_none several]
    exact literalString_eq fits rest
  rw [string, bind_some read]
  rfl

theorem string_multilineContent (text : List Char) (unquoted : Unquoted rest) :
    string ('"' :: '"' :: '"' :: ((if text.contains '\n' then ['\n'] else []) ++
      (multilineContent 0 text ++ '"' :: '"' :: '"' :: rest))) =
        some (.text (String.ofList text), rest) := by
  rw [string, bind_some (orElse_some (multilineBasic_multilineContent text unquoted.double) _)]
  rfl

theorem string_multilineLiteral (fits : fitsMultilineLiteral text = true)
    (unquoted : Unquoted rest) :
    string ('\'' :: '\'' :: '\'' :: ((if text.contains '\n' then ['\n'] else []) ++
      (text ++ '\'' :: '\'' :: '\'' :: rest))) = some (.text (String.ofList text), rest) := by
  rw [string, bind_some ((orElse_none (multilineBasic_single _) _).trans
    ((orElse_none (basicString_single _) _).trans
      (orElse_some (multilineLiteral_eq fits unquoted.single) _)))]
  rfl

theorem delimited_append {mark : String} {marks : List Char} (spelled : mark.toList = marks)
    (content : List Char) :
    delimited mark text content ++ rest =
      marks ++ ((if 1 < mark.length && text.contains '\n' then ['\n'] else []) ++
        (content ++ (marks ++ rest))) := by
  simp only [delimited, spelled, List.append_assoc]

/-- Whatever form a string is written in, it reads back. -/
theorem string_quotedChars (text : List Char) (unquoted : Unquoted rest) :
    string (quotedChars text ++ rest) = some (.text (String.ofList text), rest) := by
  have basic : string (delimited "\"" text (basicContent text) ++ rest) =
      some (.text (String.ofList text), rest) := by
    rw [delimited_append rfl]
    exact string_basicContent text unquoted
  have several : string (delimited "\"\"\"" text (multilineContent 0 text) ++ rest) =
      some (.text (String.ofList text), rest) := by
    rw [delimited_append rfl]
    exact string_multilineContent text unquoted
  unfold quotedChars
  split
  · exact basic
  split
  next fits =>
    rw [delimited_append rfl]
    exact string_literal fits unquoted
  split
  · exact several
  split
  next fits =>
    rw [delimited_append rfl]
    exact string_multilineLiteral fits unquoted
  split
  · exact several
  · exact basic

theorem quotedChars_front (text : List Char) :
    ∃ first others, quotedChars text = first :: others ∧ (first = '"' ∨ first = '\'') := by
  unfold quotedChars
  split
  · exact ⟨'"', _, rfl, .inl rfl⟩
  split
  · exact ⟨'\'', _, rfl, .inr rfl⟩
  split
  · exact ⟨'"', _, rfl, .inl rfl⟩
  split
  · exact ⟨'\'', _, rfl, .inr rfl⟩
  split
  · exact ⟨'"', _, rfl, .inl rfl⟩
  · exact ⟨'"', _, rfl, .inl rfl⟩

end AnyString

end DatasetSync.Toml
