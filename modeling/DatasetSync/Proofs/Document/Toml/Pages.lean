import DatasetSync.Proofs.Document.Toml.Building
import Mathlib.Data.List.Nodup

/-!
# TOML documents read back

A document of plain values, tables and lists of tables is written section by section.  Read again,
it is the document without the values that are absent, and with the plain values of each table in
front.
-/

namespace DatasetSync.Toml

/-! ## What a text keeps -/

mutual

def kept : Tree → Tree
  | .list items => .list (keptItems items)
  | .table entries => .table (keptWhere false entries ++ keptWhere true entries)
  | tree => tree

def keptItems : List Tree → List Tree
  | [] => []
  | item :: rest => kept item :: keptItems rest

/-- What a text keeps of the entries that have headers of their own, or of those that have none. -/
def keptWhere (titled : Bool) : List (String × Tree) → List (String × Tree)
  | [] => []
  | (_, .null) :: rest => keptWhere titled rest
  | (name, tree) :: rest =>
      if hasHeader tree = titled then (name, kept tree) :: keptWhere titled rest
      else keptWhere titled rest

end

theorem keptItems_eq (items : List Tree) : keptItems items = items.map kept := by
  induction items with
  | nil => rfl
  | cons item items ih => rw [keptItems, ih, List.map_cons]

section Entries

variable {tree : Tree} (name : String) (rest : List (String × Tree))

theorem keptWhere_null (titled : Bool) :
    keptWhere titled ((name, .null) :: rest) = keptWhere titled rest := by
  rw [keptWhere]

theorem keptWhere_cons (present : tree ≠ .null) (titled : Bool) :
    keptWhere titled ((name, tree) :: rest) =
      if hasHeader tree = titled then (name, kept tree) :: keptWhere titled rest
      else keptWhere titled rest := by
  rw [keptWhere]
  exact present

theorem plainLines_cons (present : tree ≠ .null) :
    plainLines ((name, tree) :: rest) =
      if hasHeader tree then plainLines rest
      else do
        let value ← plain tree
        return nameText name ++ " = " ++ value ++ "\n" ++ (← plainLines rest) := by
  rw [plainLines]
  exact present

end Entries

/-! ## Documents that can be written -/

/-- The names of the entries need no quotes, and none occurs twice. -/
structure Named (entries : List (String × Tree)) : Prop where
  bare : ∀ entry ∈ entries, isBareName entry.1 = true
  distinct : (entries.map Prod.fst).Nodup

theorem names_apart {entry : String × Tree} {entries : List (String × Tree)}
    (distinct : ((entry :: entries).map Prod.fst).Nodup) :
    ∀ other ∈ entries, other.1 ≠ entry.1 := fun other member same =>
  (List.nodup_cons.mp distinct).1 (List.mem_map.mpr ⟨other, member, same⟩)

theorem Named.tail {entry : String × Tree} {entries : List (String × Tree)}
    (named : Named (entry :: entries)) : Named entries :=
  ⟨fun other member => named.bare other (List.mem_cons_of_mem _ member),
    (List.nodup_cons.mp named.distinct).2⟩

/-- A tree that can be written, with tables nested at most so deep. -/
inductive Writable (room : Int → Prop) : Nat → Tree → Prop where
  | null (depth : Nat) : Writable room depth .null
  | plain (depth : Nat) {tree : Tree} (fits : Plain room (depthLimit - 1) tree) :
      Writable room depth tree
  | table {depth : Nat} {entries : List (String × Tree)} (named : Named entries)
      (each : ∀ entry ∈ entries, Writable room depth entry.2) :
      Writable room (depth + 1) (.table entries)
  | tables {depth : Nat} {items : List Tree} (something : items ≠ [])
      (tables : items.all isTable = true) (each : ∀ item ∈ items, Writable room depth item) :
      Writable room depth (.list items)

section Shape

variable {room : Int → Prop} {depth : Nat} {tree : Tree}

theorem Plain.not_isTable (fits : Plain room depth tree) : isTable tree = false := by
  cases fits <;> rfl

theorem Plain.not_hasHeader (fits : Plain room depth tree) : hasHeader tree = false := by
  cases fits with
  | bool => rfl
  | integer => rfl
  | text => rfl
  | @list depth items each =>
      cases items with
      | nil => rfl
      | cons item items =>
          have first := (each item List.mem_cons_self).not_isTable
          rw [hasHeader, List.all_cons, first]
          rfl

theorem Plain.ne_null (fits : Plain room depth tree) : tree ≠ .null := by
  rintro rfl
  cases fits

theorem Plain.kept (fits : Plain room depth tree) : kept tree = tree := by
  induction fits with
  | bool => rfl
  | integer => rfl
  | text => rfl
  | @list depth items each ih =>
      have same : items.map Toml.kept = items :=
        (List.map_congr_left ih).trans (List.map_id items)
      rw [Toml.kept, keptItems_eq, same]

theorem Plain.mono {more : Int → Prop} (wider : ∀ value, room value → more value)
    (fits : Plain room depth tree) : Plain more depth tree := by
  induction fits with
  | bool depth value => exact .bool depth value
  | integer depth fits => exact .integer depth (wider _ fits)
  | text depth value => exact .text depth value
  | list each ih => exact .list ih

theorem Writable.mono {more : Int → Prop} (wider : ∀ value, room value → more value)
    (writable : Writable room depth tree) : Writable more depth tree := by
  induction writable with
  | null depth => exact .null depth
  | plain depth fits => exact .plain depth (fits.mono wider)
  | table named each ih => exact .table named ih
  | tables something tables each ih => exact .tables something tables ih

/-- An entry is absent, is written in one place or has headers of its own. -/
theorem Writable.kind (writable : Writable room depth tree) :
    tree = .null ∨ Plain room (depthLimit - 1) tree ∨ hasHeader tree = true := by
  cases writable with
  | null => exact .inl rfl
  | plain _ fits => exact .inr (.inl fits)
  | table => exact .inr (.inr rfl)
  | @tables depth items something tables each =>
      refine .inr (.inr ?_)
      rw [hasHeader, tables, Bool.and_true, Bool.not_eq_true', List.isEmpty_eq_false_iff]
      exact something

end Shape

/-! ## Pages -/

abbrev SayEach (texts : List String) (said : List (List Line)) : Prop :=
  List.Forall₂ (fun text lines => Says text.toList lines) texts said

def Titled (path : List String) (name : String) (tree : Tree) : Prop :=
  ∃ texts said node, sections (path ++ [name]) false tree = .ok texts ∧ SayEach texts said ∧
    node.toTree = kept tree ∧
    ∀ plug origin before current, Focus path plug → before.lookup name = none →
      ∃ latest, Builds said.flatten (plug (.table origin before)) current
        (plug (.table origin (before ++ [(name, node)]))) latest

/-- The lines and the sections of a table fill it. -/
def Fills (path : List String) (entries : List (String × Tree)) : Prop :=
  ∃ lines said texts others nodes, plainLines entries = .ok lines ∧ Says lines.toList said ∧
    entrySections path entries = .ok texts ∧ SayEach texts others ∧
    Node.entriesToTrees nodes = keptWhere false entries ++ keptWhere true entries ∧
    ∀ plug origin, Focus path plug →
      ∃ latest, Builds (said ++ others.flatten) (plug (.table origin [])) path
        (plug (.table origin nodes)) latest

theorem lookup_concat_ne {name other : String} {before : List (String × Node)}
    (apart : other ≠ name) (fresh : before.lookup other = none) (node : Node) :
    (before ++ [(name, node)]).lookup other = none := by
  rw [List.lookup_append, fresh, List.lookup_cons, beq_eq_false_iff_ne.mpr apart]
  rfl

theorem entriesToTrees_append (first second : List (String × Node)) :
    Node.entriesToTrees (first ++ second) =
      Node.entriesToTrees first ++ Node.entriesToTrees second := by
  induction first with
  | nil => rfl
  | cons entry first ih =>
      obtain ⟨name, node⟩ := entry
      rw [List.cons_append, Node.entriesToTrees, Node.entriesToTrees, ih, List.cons_append]

def FillsPlain (entries : List (String × Tree)) : Prop :=
  ∃ lines said nodes, plainLines entries = .ok lines ∧ Says lines.toList said ∧
    Node.entriesToTrees nodes = keptWhere false entries ∧
    (∀ node ∈ nodes, ∃ tree, (node.1, tree) ∈ entries ∧ hasHeader tree = false) ∧
    ∀ path plug origin before, Focus path plug →
      (∀ entry ∈ entries, before.lookup entry.1 = none) →
      Builds said (plug (.table origin before)) path
        (plug (.table origin (before ++ nodes))) path

def FillsTitled (path : List String) (entries : List (String × Tree)) : Prop :=
  ∃ texts said nodes, entrySections path entries = .ok texts ∧ SayEach texts said ∧
    Node.entriesToTrees nodes = keptWhere true entries ∧
    ∀ plug origin before current, Focus path plug →
      (∀ entry ∈ entries, hasHeader entry.2 = true → before.lookup entry.1 = none) →
      ∃ latest, Builds said.flatten (plug (.table origin before)) current
        (plug (.table origin (before ++ nodes))) latest

section Parts

variable {path : List String} {name : String} {tree : Tree} {entries : List (String × Tree)}

theorem ne_null_of_hasHeader (titled : hasHeader tree = true) : tree ≠ .null := by
  rintro rfl
  cases titled

theorem FillsPlain.nil : FillsPlain [] := by
  refine ⟨"", [], [], rfl, .nil, rfl, List.forall_mem_nil _, ?_⟩
  intro path plug origin before focus fresh
  rw [List.append_nil]
  exact .nil _ _

/-- An entry that has no line of its own. -/
theorem FillsPlain.skip (later : FillsPlain entries)
    (unwritten : plainLines ((name, tree) :: entries) = plainLines entries)
    (unkept : keptWhere false ((name, tree) :: entries) = keptWhere false entries) :
    FillsPlain ((name, tree) :: entries) := by
  obtain ⟨lines, said, nodes, written, spoken, trees, origins, builds⟩ := later
  refine ⟨lines, said, nodes, unwritten.trans written, spoken, trees.trans unkept.symm, ?_, ?_⟩
  · intro node member
    obtain ⟨other, there, untitled⟩ := origins node member
    exact ⟨other, List.mem_cons_of_mem _ there, untitled⟩
  · intro path plug origin before focus fresh
    exact builds path plug origin before focus
      fun other member => fresh other (List.mem_cons_of_mem _ member)

theorem FillsPlain.entry (bare : isBareName name = true) (fits : Plain Fits (depthLimit - 1) tree)
    (apart : ∀ other ∈ entries, other.1 ≠ name) (later : FillsPlain entries) :
    FillsPlain ((name, tree) :: entries) := by
  obtain ⟨lines, said, nodes, written, spoken, trees, origins, builds⟩ := later
  obtain ⟨text, plainText, spells⟩ := plain_spells fits
  have untitled : hasHeader tree = false := fits.not_hasHeader
  refine ⟨nameText name ++ " = " ++ text ++ "\n" ++ lines, .entry [] name tree :: said,
    (name, .leaf tree) :: nodes, ?_, ?_, ?_, ?_, ?_⟩
  · rw [plainLines_cons name entries fits.ne_null, untitled, if_neg Bool.false_ne_true,
      plainText, written]
    rfl
  · rw [String.toList_append]
    exact (Says.entry bare spells).append spoken
  · rw [keptWhere_cons name entries fits.ne_null, if_pos untitled, Node.entriesToTrees,
      Node.toTree, trees, fits.kept]
  · intro node member
    rcases List.mem_cons.mp member with rfl | member
    · exact ⟨tree, List.mem_cons_self, untitled⟩
    · obtain ⟨other, there, untitled⟩ := origins node member
      exact ⟨other, List.mem_cons_of_mem _ there, untitled⟩
  · intro path plug origin before focus fresh
    have added := focus.entry origin (fresh _ List.mem_cons_self) tree
    have rest := builds path plug origin (before ++ [(name, .leaf tree)]) focus
      fun other member => lookup_concat_ne (apart other member)
        (fresh other (List.mem_cons_of_mem _ member)) _
    rw [List.append_assoc] at rest
    exact added.append rest

theorem fillsPlain_of_kinds (named : Named entries)
    (kinds : ∀ entry ∈ entries,
      entry.2 = .null ∨ Plain Fits (depthLimit - 1) entry.2 ∨ hasHeader entry.2 = true) :
    FillsPlain entries := by
  induction entries with
  | nil => exact .nil
  | cons entry entries ih =>
      obtain ⟨name, tree⟩ := entry
      have later := ih named.tail fun other member => kinds other (List.mem_cons_of_mem _ member)
      rcases kinds (name, tree) List.mem_cons_self with absent | fits | titled
      · change tree = .null at absent
        subst absent
        exact later.skip rfl (keptWhere_null name entries false)
      · exact .entry (named.bare _ List.mem_cons_self) fits (names_apart named.distinct) later
      · have present := ne_null_of_hasHeader titled
        refine later.skip ?_ ?_
        · rw [plainLines_cons name entries present, if_pos titled]
        · rw [keptWhere_cons name entries present, if_neg (by rw [titled]; decide)]

theorem FillsTitled.nil : FillsTitled path [] := by
  refine ⟨[], [], [], by rw [entrySections], .nil, rfl, ?_⟩
  intro plug origin before current focus fresh
  rw [List.append_nil]
  exact ⟨current, .nil _ _⟩

theorem FillsTitled.skip (later : FillsTitled path entries) (untitled : hasHeader tree = false) :
    FillsTitled path ((name, tree) :: entries) := by
  obtain ⟨texts, said, nodes, written, each, trees, builds⟩ := later
  refine ⟨texts, said, nodes, ?_, each, ?_, ?_⟩
  · rw [entrySections, untitled, if_neg Bool.false_ne_true, written]
    rfl
  · by_cases present : tree = .null
    · rw [present, keptWhere_null, trees]
    · rw [keptWhere_cons name entries present, if_neg (by rw [untitled]; decide), trees]
  · intro plug origin before current focus fresh
    exact builds plug origin before current focus
      fun other member => fresh other (List.mem_cons_of_mem _ member)

theorem FillsTitled.entry (titled : hasHeader tree = true) (first : Titled path name tree)
    (apart : ∀ other ∈ entries, other.1 ≠ name) (later : FillsTitled path entries) :
    FillsTitled path ((name, tree) :: entries) := by
  obtain ⟨texts, said, nodes, written, each, trees, builds⟩ := later
  obtain ⟨firstTexts, firstSaid, node, firstWritten, firstEach, firstTree, firstBuilds⟩ := first
  refine ⟨firstTexts ++ texts, firstSaid ++ said, (name, node) :: nodes, ?_,
    List.rel_append firstEach each, ?_, ?_⟩
  · rw [entrySections, if_pos titled, firstWritten, written]
    rfl
  · rw [keptWhere_cons name entries (ne_null_of_hasHeader titled), if_pos titled,
      Node.entriesToTrees, firstTree, trees]
  · intro plug origin before current focus fresh
    obtain ⟨middle, added⟩ := firstBuilds plug origin before current focus
      (fresh _ List.mem_cons_self titled)
    obtain ⟨latest, rest⟩ := builds plug origin (before ++ [(name, node)]) middle focus
      fun other member titled => lookup_concat_ne (apart other member)
        (fresh other (List.mem_cons_of_mem _ member) titled) _
    rw [List.append_assoc] at rest
    refine ⟨latest, ?_⟩
    rw [List.flatten_append]
    exact added.append rest

theorem fillsTitled_of_titles (distinct : (entries.map Prod.fst).Nodup)
    (titles : ∀ entry ∈ entries, hasHeader entry.2 = true → Titled path entry.1 entry.2) :
    FillsTitled path entries := by
  induction entries with
  | nil => exact .nil
  | cons entry entries ih =>
      obtain ⟨name, tree⟩ := entry
      have later := ih (List.nodup_cons.mp distinct).2
        fun other member => titles other (List.mem_cons_of_mem _ member)
      cases titled : hasHeader tree with
      | false => exact later.skip titled
      | true =>
          exact .entry titled (titles _ List.mem_cons_self titled) (names_apart distinct) later

theorem fills_of_parts (named : Named entries)
    (kinds : ∀ entry ∈ entries,
      entry.2 = .null ∨ Plain Fits (depthLimit - 1) entry.2 ∨ hasHeader entry.2 = true)
    (titles : ∀ entry ∈ entries, hasHeader entry.2 = true → Titled path entry.1 entry.2) :
    Fills path entries := by
  obtain ⟨lines, said, nodes, written, spoken, trees, origins, builds⟩ :=
    fillsPlain_of_kinds named kinds
  obtain ⟨texts, others, more, sections, each, moreTrees, moreBuilds⟩ :=
    fillsTitled_of_titles named.distinct titles
  refine ⟨lines, said, texts, others, nodes ++ more, written, spoken, sections, each, ?_, ?_⟩
  · rw [entriesToTrees_append, trees, moreTrees]
  · intro plug origin focus
    have first := builds path plug origin [] focus fun _ _ => rfl
    -- A plain value and a value with headers never share a name.
    have fresh : ∀ entry ∈ entries, hasHeader entry.2 = true → nodes.lookup entry.1 = none := by
      intro entry member titled
      refine List.lookup_eq_none_iff.mpr fun node there => ?_
      obtain ⟨tree, plainMember, untitled⟩ := origins node there
      refine bne_iff_ne.mpr fun same => ?_
      have one := List.inj_on_of_nodup_map named.distinct member plainMember same
      rw [one, untitled] at titled
      cases titled
    obtain ⟨latest, second⟩ := moreBuilds plug origin nodes path focus fresh
    exact ⟨latest, first.append second⟩

variable {name : String}

theorem titled_table (bare : ∀ part ∈ path ++ [name], isBareName part = true)
    (short : path.length + 1 < depthLimit) (fills : Fills (path ++ [name]) entries) :
    Titled path name (.table entries) := by
  obtain ⟨lines, said, texts, others, nodes, written, spoken, headed, each, trees, builds⟩ := fills
  refine ⟨("[" ++ pathText (path ++ [name]) ++ "]\n" ++ lines) :: texts,
    (.header path name :: said) :: others, .table .header nodes, ?_, ?_, ?_, ?_⟩
  · rw [sections, written, headed]
    rfl
  · refine .cons ?_ each
    rw [String.toList_append]
    exact (Says.header bare short).append spoken
  · rw [Node.toTree, trees, kept]
  · intro plug origin before current focus fresh
    obtain ⟨latest, filled⟩ := builds _ .header (focus.enter origin fresh)
    exact ⟨latest, (focus.header origin fresh current).append filled⟩

/-- The sections of a table of a list, after a header that adds the table to the list. -/
theorem item_part (bare : ∀ part ∈ path ++ [name], isBareName part = true)
    (short : path.length + 1 < depthLimit) (fills : Fills (path ++ [name]) entries) :
    ∃ texts said node, sections (path ++ [name]) true (.table entries) = .ok texts ∧
      SayEach texts said ∧ node.toTree = kept (.table entries) ∧
      ∀ plug origin before earlier root current, Focus path plug → before.lookup name = none →
        Builds [.anotherHeader path name] root current
          (plug (.table origin (before ++ [(name, .tables (earlier ++ [Node.begun]))])))
          (path ++ [name]) →
        ∃ latest, Builds said.flatten root current
          (plug (.table origin (before ++ [(name, .tables (earlier ++ [node]))]))) latest := by
  obtain ⟨lines, said, texts, others, nodes, written, spoken, headed, each, trees, builds⟩ := fills
  refine ⟨("[[" ++ pathText (path ++ [name]) ++ "]]\n" ++ lines) :: texts,
    (.anotherHeader path name :: said) :: others, .table .header nodes, ?_, ?_, ?_, ?_⟩
  · rw [sections, written, headed]
    rfl
  · refine .cons ?_ each
    rw [String.toList_append]
    exact (Says.anotherHeader bare short).append spoken
  · rw [Node.toTree, trees, kept]
  · intro plug origin before earlier root current focus fresh begins
    obtain ⟨latest, filled⟩ := builds _ .header (focus.enterAnother origin fresh earlier)
    exact ⟨latest, begins.append filled⟩

theorem items_part (bare : ∀ part ∈ path ++ [name], isBareName part = true)
    (short : path.length + 1 < depthLimit) {pages : List (List (String × Tree))}
    (fills : ∀ entries ∈ pages, Fills (path ++ [name]) entries) :
    ∃ texts said nodes, itemSections (path ++ [name]) (pages.map .table) = .ok texts ∧
      SayEach texts said ∧ Node.itemsToTrees nodes = keptItems (pages.map .table) ∧
      ∀ plug origin before earlier current, Focus path plug → before.lookup name = none →
        ∃ latest, Builds said.flatten
          (plug (.table origin (before ++ [(name, .tables earlier)]))) current
          (plug (.table origin (before ++ [(name, .tables (earlier ++ nodes))]))) latest := by
  induction pages with
  | nil =>
      refine ⟨[], [], [], by rw [List.map_nil, itemSections], .nil, rfl, ?_⟩
      intro plug origin before earlier current focus fresh
      rw [List.append_nil]
      exact ⟨current, .nil _ _⟩
  | cons entries pages ih =>
      obtain ⟨firstTexts, firstSaid, node, first, firstEach, firstTree, firstBuilds⟩ :=
        item_part bare short (fills entries List.mem_cons_self)
      obtain ⟨texts, said, nodes, written, each, trees, builds⟩ :=
        ih fun other member => fills other (List.mem_cons_of_mem _ member)
      refine ⟨firstTexts ++ texts, firstSaid ++ said, node :: nodes, ?_,
        List.rel_append firstEach each, ?_, ?_⟩
      · rw [List.map_cons, itemSections, first, written]
        rfl
      · rw [List.map_cons, keptItems, Node.itemsToTrees, firstTree, trees]
      · intro plug origin before earlier current focus fresh
        obtain ⟨middle, added⟩ := firstBuilds plug origin before earlier _ current focus fresh
          (focus.anotherHeader origin fresh earlier current)
        obtain ⟨latest, rest⟩ :=
          builds plug origin before (earlier ++ [node]) middle focus fresh
        rw [List.append_assoc] at rest
        refine ⟨latest, ?_⟩
        rw [List.flatten_append]
        exact added.append rest

theorem titled_tables (bare : ∀ part ∈ path ++ [name], isBareName part = true)
    (short : path.length + 1 < depthLimit) {pages : List (List (String × Tree))}
    (something : pages ≠ []) (fills : ∀ entries ∈ pages, Fills (path ++ [name]) entries) :
    Titled path name (.list (pages.map .table)) := by
  obtain ⟨entries, pages, rfl⟩ := List.exists_cons_of_ne_nil something
  obtain ⟨firstTexts, firstSaid, node, first, firstEach, firstTree, firstBuilds⟩ :=
    item_part bare short (fills entries List.mem_cons_self)
  obtain ⟨texts, said, nodes, written, each, trees, builds⟩ :=
    items_part bare short fun other member => fills other (List.mem_cons_of_mem _ member)
  refine ⟨firstTexts ++ texts, firstSaid ++ said, .tables (node :: nodes), ?_,
    List.rel_append firstEach each, ?_, ?_⟩
  · rw [sections, List.map_cons, itemSections, first, written]
    rfl
  · rw [Node.toTree, List.map_cons, kept, keptItems, Node.itemsToTrees, firstTree, trees]
  · intro plug origin before current focus fresh
    obtain ⟨middle, added⟩ := firstBuilds plug origin before [] _ current focus fresh
      (focus.firstHeader origin fresh current)
    obtain ⟨latest, rest⟩ := builds plug origin before [node] middle focus fresh
    refine ⟨latest, ?_⟩
    rw [List.flatten_append]
    exact added.append rest

end Parts

/-! ## Documents -/

theorem eq_map_table {items : List Tree} (tables : items.all isTable = true) :
    ∃ pages : List (List (String × Tree)), items = pages.map Tree.table := by
  induction items with
  | nil => exact ⟨[], rfl⟩
  | cons item items ih =>
      rw [List.all_cons, Bool.and_eq_true] at tables
      obtain ⟨pages, rfl⟩ := ih tables.2
      cases item with
      | table entries => exact ⟨entries :: pages, rfl⟩
      | _ => cases tables.1

/-- A table that can be written is filled by its lines and sections. -/
theorem fills_of_writable {depth : Nat} {entries : List (String × Tree)}
    (writable : Writable Fits depth (.table entries)) {path : List String}
    (bare : ∀ part ∈ path, isBareName part = true) (short : path.length + depth < depthLimit) :
    Fills path entries := by
  -- A table is not plain, so that only the depth of the tables counts down.
  induction depth generalizing entries path with
  | zero =>
      cases writable with
      | plain _ fits => cases fits
  | succ depth ih =>
      cases writable with
      | plain _ fits => cases fits
      | table named each =>
          refine fills_of_parts named (fun entry member => (each entry member).kind) ?_
          intro entry member titled
          obtain ⟨name, tree⟩ := entry
          have within : ∀ part ∈ path ++ [name], isBareName part = true := by
            intro part there
            rcases List.mem_append.mp there with outer | last
            · exact bare part outer
            · rw [List.mem_singleton.mp last]
              exact named.bare _ member
          have header : path.length + 1 < depthLimit := by omega
          have deeper : (path ++ [name]).length + depth < depthLimit := by
            rw [List.length_append, List.length_singleton]
            omega
          have inner := each _ member
          cases tree with
          | table children => exact titled_table within header (ih inner within deeper)
          | list items =>
              rw [hasHeader, Bool.and_eq_true] at titled
              obtain ⟨pages, rfl⟩ := eq_map_table titled.2
              have something : pages ≠ [] := by
                rintro rfl
                cases titled.1
              refine titled_tables within header something fun children there => ?_
              have item : Tree.table children ∈ pages.map Tree.table := List.mem_map_of_mem there
              cases inner with
              | plain _ fits =>
                  cases fits with
                  | list each => cases each _ item
              | tables _ _ each => exact ih (each _ item) within deeper
          | _ => cases titled

/-- A text without lines says nothing. -/
theorem Says.eq_nil {said : List Line} (empty : Says [] said) : said = [] := by
  cases empty.reads [] with
  | nil => rfl
  | cons reads shorter => cases shorter

/-- A document reads back as what its text keeps of it. -/
theorem parse_print {depth : Nat} {entries : List (String × Tree)}
    (writable : Writable Fits depth (.table entries)) (short : depth < depthLimit) :
    ∃ text, print (.table entries) = .ok text ∧ parse text = .ok (kept (.table entries)) := by
  obtain ⟨lines, said, texts, others, nodes, written, spoken, sections, each, trees, builds⟩ :=
    fills_of_writable writable (List.forall_mem_nil _) (by rwa [List.length_nil, Nat.zero_add])
  obtain ⟨latest, filled⟩ := builds id .header .here
  have whole : ∃ all, SayEach (if lines.isEmpty then texts else lines :: texts) all ∧
      all.flatten = said ++ others.flatten := by
    -- A document without plain values starts with its first header, not with an empty section.
    split
    next empty =>
      have none : lines = "" := by simpa using empty
      rw [none] at spoken
      rw [spoken.eq_nil]
      exact ⟨others, each, rfl⟩
    next => exact ⟨said :: others, .cons spoken each, rfl⟩
  obtain ⟨all, sayEach, flat⟩ := whole
  have built : build Node.begun [] ([.blank].intercalate all) = some (.table .header nodes) := by
    have finished := filled []
    rw [List.append_nil] at finished
    rw [build_intercalate, flat]
    exact finished
  refine ⟨"\n".intercalate (if lines.isEmpty then texts else lines :: texts), ?_, ?_⟩
  · rw [print, written, sections]
    rfl
  · rw [parse, (Says.intercalate sayEach).lines]
    dsimp only
    rw [built, kept]
    dsimp only
    rw [Node.toTree, trees]

end DatasetSync.Toml
