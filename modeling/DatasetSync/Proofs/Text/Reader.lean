import DatasetSync.Text.Reader

/-!
# What readers read

Equations for readers that are combined: what a sequence, an alternative or a repetition comes to,
given what its parts come to on the same text.
-/

namespace DatasetSync.Text.Reader

variable {α β : Type}

/-! ## Sequences and alternatives -/

@[simp] theorem pure_apply (value : α) (text : List Char) :
    (pure value : Reader α) text = some (value, text) := rfl

section Combined

variable {reader : Reader α} {text rest : List Char} {value : α}

theorem bind_some (reads : reader text = some (value, rest)) (next : α → Reader β) :
    (reader >>= next) text = next value rest := by
  change (reader text).bind (fun read => next read.1 read.2) = _
  rw [reads]
  rfl

theorem bind_none (refuses : reader text = none) (next : α → Reader β) :
    (reader >>= next) text = none := by
  change (reader text).bind (fun read => next read.1 read.2) = _
  rw [refuses]
  rfl

theorem orElse_some (reads : reader text = some (value, rest)) (other : Reader α) :
    (reader <|> other) text = some (value, rest) := by
  change (reader text <|> other text) = _
  rw [reads]
  rfl

theorem orElse_none (refuses : reader text = none) (other : Reader α) :
    (reader <|> other) text = other text := by
  change (reader text <|> other text) = _
  rw [refuses]
  rfl

theorem optional_some (reads : reader text = some (value, rest)) :
    optional reader text = some (some value, rest) := by
  rw [optional, reads]

theorem optional_none (refuses : reader text = none) :
    optional reader text = some (none, text) := by
  rw [optional, refuses]

end Combined

@[simp] theorem peek?_apply (text : List Char) : peek? text = some (text.head?, text) := rfl

/-! ## Characters -/

section Characters

variable {test : Char → Bool} {c : Char} {rest : List Char}

/-- What comes next, if anything, is not of a class. -/
def Stops (test : Char → Bool) (rest : List Char) : Prop :=
  rest.head?.any test = false

theorem stops_nil (test : Char → Bool) : Stops test [] := rfl

theorem stops_cons : Stops test (c :: rest) ↔ test c = false := Iff.rfl

theorem stops_dropWhile (test : Char → Bool) (text : List Char) :
    Stops test (text.dropWhile test) := by
  induction text with
  | nil => exact stops_nil test
  | cons first text ih =>
      cases fits : test first with
      | true => rwa [List.dropWhile_cons_of_pos fits]
      | false =>
          rw [List.dropWhile_cons_of_neg (Bool.eq_false_iff.mp fits)]
          exact stops_cons.mpr fits

theorem satisfy_of_true (fits : test c = true) : satisfy test (c :: rest) = some (c, rest) :=
  if_pos fits

theorem satisfy_of_stops (stops : Stops test rest) : satisfy test rest = none := by
  cases rest with
  | nil => rfl
  | cons first rest => exact if_neg (by rw [stops_cons.mp stops]; exact Bool.false_ne_true)

@[simp] theorem char_self (c : Char) (rest : List Char) : char c (c :: rest) = some ((), rest) := by
  have same : satisfy (· == c) (c :: rest) = some (c, rest) :=
    satisfy_of_true (beq_self_eq_true c)
  rw [char, same]
  rfl

theorem char_of_stops (stops : Stops (· == c) rest) : char c rest = none := by
  rw [char, satisfy_of_stops stops]
  rfl

theorem char_of_ne {other : Char} (apart : other ≠ c) : char c (other :: rest) = none :=
  char_of_stops (beq_eq_false_iff_ne.mpr apart)

@[simp] theorem chars_append (expected rest : List Char) :
    chars expected (expected ++ rest) = some ((), rest) := by
  induction expected with
  | nil => rfl
  | cons first expected ih =>
      rw [chars, List.cons_append, bind_some (char_self first _)]
      exact ih

theorem takeWhile_append {taken : List Char} (fits : taken.all test = true)
    (stops : Stops test rest) : takeWhile test (taken ++ rest) = some (taken, rest) := by
  have none_more : rest.takeWhile test = [] ∧ rest.dropWhile test = rest := by
    cases rest with
    | nil => exact ⟨rfl, rfl⟩
    | cons first rest =>
        have apart : ¬ test first = true := by
          rw [stops_cons.mp stops]
          exact Bool.false_ne_true
        exact ⟨List.takeWhile_cons_of_neg apart, List.dropWhile_cons_of_neg apart⟩
  have all := List.all_eq_true.mp fits
  rw [takeWhile, List.takeWhile_append_of_pos all, List.dropWhile_append_of_pos all, none_more.1,
    none_more.2, List.append_nil]

theorem takeWhile_stops (stops : Stops test rest) : takeWhile test rest = some ([], rest) := by
  have nothing : ([] : List Char).all test = true := rfl
  exact takeWhile_append nothing stops

/-- Skipping a class of characters. -/
theorem skip_append {skipped : List Char} (fits : skipped.all test = true)
    (stops : Stops test rest) :
    (do let _ ← takeWhile test : Reader Unit) (skipped ++ rest) = some ((), rest) := by
  rw [bind_some (takeWhile_append fits stops)]
  rfl

theorem takeWhile1_append {taken : List Char} (something : taken ≠ [])
    (fits : taken.all test = true) (stops : Stops test rest) :
    takeWhile1 test (taken ++ rest) = some (taken, rest) := by
  rw [takeWhile1, bind_some (takeWhile_append fits stops)]
  cases taken with
  | nil => exact (something rfl).elim
  | cons first taken => rfl

theorem takeWhile1_stops (stops : Stops test rest) : takeWhile1 test rest = none := by
  rw [takeWhile1, bind_some (takeWhile_stops stops)]
  rfl

end Characters

/-! ## Repetitions -/

/-- A reader takes values off the front one after the other, and something of the text each time. -/
inductive Chain (reader : Reader α) : List Char → List α → List Char → Prop where
  | nil (text : List Char) : Chain reader text [] text
  | cons {text rest last : List Char} {value : α} {values : List α}
      (reads : reader text = some (value, rest)) (shorter : rest.length < text.length)
      (later : Chain reader rest values last) : Chain reader text (value :: values) last

/-- There is nothing left, or the reader refuses what is left. -/
def Ends (reader : Reader α) (text : List Char) : Prop :=
  text = [] ∨ reader text = none

section Repeated

variable {reader : Reader α} {text middle last : List Char} {values others : List α}

theorem Chain.append (first : Chain reader text values middle)
    (second : Chain reader middle others last) : Chain reader text (values ++ others) last := by
  induction first with
  | nil text => exact second
  | cons reads shorter later ih => exact .cons reads shorter (ih second)

/-- One more value, which takes up some text. -/
theorem Chain.step {taken rest : List Char} {value : α}
    (reads : reader (taken ++ rest) = some (value, rest)) (something : taken ≠ [])
    (later : Chain reader rest values last) :
    Chain reader (taken ++ rest) (value :: values) last := by
  refine .cons reads ?_ later
  have positive := List.length_pos_iff.mpr something
  rw [List.length_append]
  omega

theorem Chain.single {value : α} (reads : reader text = some (value, last))
    (shorter : last.length < text.length) : Chain reader text [value] last :=
  .cons reads shorter (.nil last)

theorem Chain.repeated (chain : Chain reader text values last) (ends : Ends reader last)
    {bound : List Char} (enough : text.length ≤ bound.length) :
    Reader.repeated reader bound text = (values, last) := by
  -- The bound is only counted down, so any text that is long enough will do.
  induction chain generalizing bound with
  | nil text =>
      cases text with
      | nil => cases bound <;> rfl
      | cons first rest =>
          cases bound with
          | nil => cases enough
          | cons _ bound =>
              have refuses := ends.resolve_left (List.cons_ne_nil first rest)
              rw [Reader.repeated, refuses]
  | @cons text rest last value values reads shorter later ih =>
      cases text with
      | nil => cases shorter
      | cons first others =>
          cases bound with
          | nil => cases enough
          | cons _ bound =>
              have within : rest.length ≤ bound.length := by
                simp only [List.length_cons] at shorter enough
                omega
              rw [Reader.repeated, reads]
              dsimp only
              rw [ih ends within]

/-- A repeated reader takes all values of a chain that cannot go on. -/
theorem Chain.many (chain : Chain reader text values last) (ends : Ends reader last) :
    Reader.many reader text = some (values, last) := by
  rw [Reader.many, chain.repeated ends (Nat.le_refl _)]

theorem many_ends (ends : Ends reader text) : Reader.many reader text = some ([], text) :=
  (Chain.nil text).many ends

theorem sepBy1_of_chain {between : Reader β} {value : α}
    (reads : reader text = some (value, middle))
    (chain : Chain (do let _ ← between; reader) middle values last)
    (ends : Ends (do let _ ← between; reader) last) :
    sepBy1 reader between text = some (value :: values, last) := by
  rw [sepBy1, bind_some reads, bind_some (chain.many ends)]
  rfl

end Repeated

end DatasetSync.Text.Reader
