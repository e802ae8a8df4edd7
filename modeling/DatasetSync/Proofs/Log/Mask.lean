import DatasetSync.Log.Level
import DatasetSync.Proofs.Text.Digits
import Mathlib.Data.List.Forall2

/-!
# Masks read back

The text of a mask lists the names of its bits and gives the bits without a name as one number.
Read again, it is the same mask, whatever bits are set.
-/

namespace DatasetSync

namespace Text

/-! ## Pieces of a text -/

section Split

variable {mark : Char} {piece : List Char}

theorem splitAt_of_not_mem (absent : mark ∉ piece) : splitAt mark piece = [piece] := by
  induction piece with
  | nil => rfl
  | cons c piece ih =>
      rw [List.mem_cons, not_or] at absent
      rw [splitAt, if_neg (Ne.symm absent.1), ih absent.2]

theorem splitAt_append (absent : mark ∉ piece) (rest : List Char) :
    splitAt mark (piece ++ mark :: rest) = piece :: splitAt mark rest := by
  induction piece with
  | nil => rw [List.nil_append, splitAt, if_pos rfl]
  | cons c piece ih =>
      rw [List.mem_cons, not_or] at absent
      rw [List.cons_append, splitAt, if_neg (Ne.symm absent.1), ih absent.2]

end Split

theorem trimStart_append {blanks text : List Char} (blank : blanks.all isBlank = true)
    (solid : (text.head?.any isBlank) = false) : trimStart (blanks ++ text) = text := by
  rw [trimStart, List.dropWhile_append_of_pos (List.all_eq_true.mp blank)]
  cases text with
  | nil => rfl
  | cons c text => exact List.dropWhile_cons_of_neg (Bool.eq_false_iff.mp solid)

/-- Trimming takes away the blanks around a text that neither starts nor ends with one. -/
theorem trim_append {before text after : List Char} (something : text ≠ [])
    (first : (text.head?.any isBlank) = false) (last : (text.getLast?.any isBlank) = false)
    (lead : before.all isBlank = true) (trail : after.all isBlank = true) :
    trim (before ++ (text ++ after)) = text := by
  have front : ((text ++ after).head?.any isBlank) = false := by
    cases text with
    | nil => exact (something rfl).elim
    | cons c text => exact first
  have back : (text.reverse.head?.any isBlank) = false := by rwa [List.head?_reverse]
  have trailing : after.reverse.all isBlank = true := by rwa [List.all_reverse]
  rw [trim, trimStart_append lead front, List.reverse_append, trimStart_append trailing back,
    List.reverse_reverse]

end Text

namespace Log.Mask

/-! ## Parts -/

/-- A text that stands for a mask between bars. -/
structure Part (text : String) (mask : Mask) : Prop where
  something : text.toList ≠ []
  first : (text.toList.head?.any Text.isBlank) = false
  last : (text.toList.getLast?.any Text.isBlank) = false
  unbarred : '|' ∉ text.toList
  reads : ofPart? text.toList = some mask

def unions (masks : List Mask) : Mask :=
  masks.foldr union always

theorem ofParts?_joined {text : String} {mask : Mask} {texts : List String} {masks : List Mask}
    (part : Part text mask) (parts : List.Forall₂ Part texts masks) {lead : List Char}
    (blank : lead.all Text.isBlank = true) (unbarred : '|' ∉ lead) :
    ofParts? (Text.splitAt '|' (lead ++ (" | ".intercalate (text :: texts)).toList)) =
      some (unions (mask :: masks)) := by
  have trail : [' '].all Text.isBlank = true := rfl
  -- The blank after a bar leads the next part, which is why the lead is not fixed.
  induction parts generalizing text mask lead with
  | nil =>
      have whole : '|' ∉ lead ++ text.toList := by
        rw [List.mem_append, not_or]
        exact ⟨unbarred, part.unbarred⟩
      have nothing : ([] : List Char).all Text.isBlank = true := rfl
      have trimmed := Text.trim_append part.something part.first part.last blank nothing
      rw [List.append_nil] at trimmed
      rw [String.intercalate_singleton, Text.splitAt_of_not_mem whole, ofParts?, trimmed,
        part.reads]
      rfl
  | @cons next other texts masks nextPart parts ih =>
      have whole : '|' ∉ lead ++ (text.toList ++ [' ']) := by
        rw [List.mem_append, List.mem_append, not_or, not_or]
        exact ⟨unbarred, part.unbarred, by decide⟩
      have shape : lead ++ (" | ".intercalate (text :: next :: texts)).toList =
          lead ++ (text.toList ++ [' ']) ++
            '|' :: ([' '] ++ (" | ".intercalate (next :: texts)).toList) := by
        rw [String.intercalate_cons_cons, String.toList_append, String.toList_append]
        simp
      rw [shape, Text.splitAt_append whole, ofParts?,
        Text.trim_append part.something part.first part.last blank trail, part.reads,
        ih nextPart trail (by decide)]
      rfl

theorem toList_intercalate_front (between text : String) (texts : List String) :
    ∃ more, (between.intercalate (text :: texts)).toList = text.toList ++ more := by
  cases texts with
  | nil => exact ⟨[], by simp⟩
  | cons next texts =>
      rw [String.intercalate_cons_cons, String.toList_append, String.toList_append,
        List.append_assoc]
      exact ⟨_, rfl⟩

theorem ofText?_joined {texts : List String} {masks : List Mask}
    (parts : List.Forall₂ Part texts masks) :
    ofText? (" | ".intercalate texts) = some (unions masks) := by
  cases parts with
  | nil => rfl
  | @cons text mask texts masks part parts =>
      have none : ([] : List Char).all Text.isBlank = true := rfl
      have read := ofParts?_joined part parts none List.not_mem_nil
      rw [List.nil_append] at read
      have solid : ¬ (" | ".intercalate (text :: texts)).toList.all Text.isBlank = true := by
        obtain ⟨more, front⟩ := toList_intercalate_front " | " text texts
        obtain ⟨c, others, shape⟩ := List.exists_cons_of_ne_nil part.something
        have first := part.first
        rw [shape] at first
        change Text.isBlank c = false at first
        rw [front, shape, List.cons_append, List.all_cons, first, Bool.false_and]
        exact Bool.false_ne_true
      rw [ofText?, if_neg solid, read]

/-! ## Bits -/

theorem part_named : ∀ entry ∈ named, Part entry.1 entry.2 := by
  intro entry member
  simp only [named, List.mem_cons, List.not_mem_nil, or_false] at member
  rcases member with rfl | rfl | rfl <;>
    exact ⟨by decide, by decide, by decide, by decide, by decide⟩

/-- The digits of a number are neither blanks nor bars nor signs. -/
theorem digits_solid (number : Nat) : ∀ digit ∈ Nat.toDigits 16 number,
    Text.isBlank digit = false ∧ digit ≠ '|' ∧ digit ≠ '+' := by
  refine Text.forall_mem_toDigits (by decide) (fun digit small => ?_) number
  interval_cases digit <;> decide

theorem ofHexadecimal?_toDigits (bits : UInt32) :
    ofHexadecimal? (Nat.toDigits 16 bits.toNat) = some ⟨bits⟩ := by
  have read := Text.readHexadecimal?_toDigits bits.toNat
  have unsigned : '+' ∉ Nat.toDigits 16 bits.toNat :=
    fun plus => (digits_solid _ _ plus).2.2 rfl
  generalize Nat.toDigits 16 bits.toNat = digits at read unsigned
  cases digits with
  | nil => cases read
  | cons first rest =>
      have apart : first ≠ '+' := fun same => unsigned (same ▸ List.mem_cons_self)
      simp [ofHexadecimal?, apart, read, bits.toNat_lt_size]

theorem part_hexadecimal (bits : UInt32) : Part ("0x" ++ Inspect.hex bits.toNat) ⟨bits⟩ := by
  have shape : ("0x" ++ Inspect.hex bits.toNat).toList =
      '0' :: 'x' :: Nat.toDigits 16 bits.toNat := by
    simp [Inspect.hex]
  have solid := digits_solid bits.toNat
  refine ⟨?_, ?_, ?_, ?_, ?_⟩ <;> rw [shape]
  · exact List.cons_ne_nil _ _
  · rfl
  · have digits := Text.toDigits_ne_nil (by decide : 1 < 16) bits.toNat
    rw [List.getLast?_cons_cons, List.getLast?_cons, List.getLast?_eq_getLast_of_ne_nil digits]
    exact (solid _ (List.getLast_mem digits)).1
  · intro bar
    rcases List.mem_cons.mp bar with zero | bar
    · cases zero
    rcases List.mem_cons.mp bar with letter | bar
    · cases letter
    · exact (solid _ bar).2.1 rfl
  · exact ofHexadecimal?_toDigits bits

theorem union_always (mask : Mask) : mask.union always = mask := by
  simp [union, always]

theorem union_assoc (first second third : Mask) :
    (first.union second).union third = first.union (second.union third) := by
  simp [union, UInt32.or_assoc]

theorem unions_append (first second : List Mask) :
    unions (first ++ second) = (unions first).union (unions second) := by
  induction first with
  | nil => simp [unions, union, always]
  | cons mask first ih =>
      have step : unions (mask :: first ++ second) = mask.union (unions (first ++ second)) := rfl
      rw [step, ih, ← union_assoc]
      rfl

/-- Only the bits that have a name decide which names a mask has. -/
theorem intersects_known (mask : Mask) : ∀ entry ∈ named,
    mask.intersects entry.2 = (Mask.mk (mask.bits &&& known)).intersects entry.2 := by
  intro entry member
  have within : known &&& entry.2.bits = entry.2.bits := by
    revert entry
    decide
  rw [intersects, intersects, UInt32.and_assoc, within]

/-- The names of a mask stand for the bits that have one. -/
theorem unions_named (mask : Mask) :
    unions ((named.filter fun entry => mask.intersects entry.2).map Prod.snd) =
      ⟨mask.bits &&& known⟩ := by
  have small : ∃ bits : Fin 8, mask.bits &&& known = bits.val.toUInt32 := by
    refine ⟨⟨(mask.bits &&& known).toNat, ?_⟩, ?_⟩
    · rw [UInt32.toNat_and]
      exact Nat.lt_succ_of_le Nat.and_le_right
    · simp
  have each : ∀ bits : Fin 8,
      unions ((named.filter fun entry => (Mask.mk bits.val.toUInt32).intersects entry.2).map
        Prod.snd) = ⟨bits.val.toUInt32⟩ := by decide
  obtain ⟨bits, same⟩ := small
  rw [List.filter_congr (intersects_known mask), same]
  exact each bits

/-- The bits that have a name and those that have none make up the mask. -/
theorem union_known (mask : Mask) :
    (Mask.mk (mask.bits &&& known)).union ⟨mask.bits &&& ~~~known⟩ = mask := by
  have bits : (mask.bits &&& known) ||| (mask.bits &&& ~~~known) = mask.bits := by
    apply UInt32.eq_of_toBitVec_eq
    ext place
    simp only [UInt32.toBitVec_or, UInt32.toBitVec_and, UInt32.toBitVec_not, BitVec.getElem_or,
      BitVec.getElem_and, BitVec.getElem_not]
    rw [← Bool.and_or_distrib_left, Bool.or_not_self, Bool.and_true]
  rw [union, bits]

theorem parts_part (mask : Mask) :
    ∃ masks, List.Forall₂ Part mask.parts masks ∧ unions masks = mask := by
  have names : List.Forall₂ Part
      ((named.filter fun entry => mask.intersects entry.2).map Prod.fst)
      ((named.filter fun entry => mask.intersects entry.2).map Prod.snd) := by
    refine List.forall₂_map_left_iff.mpr (List.forall₂_map_right_iff.mpr
      (List.forall₂_same.mpr fun entry member => ?_))
    exact part_named entry (List.mem_of_mem_filter member)
  have whole := union_known mask
  unfold parts
  dsimp only
  split
  next none =>
    refine ⟨_, names, ?_⟩
    rw [none] at whole
    exact (unions_named mask).trans ((union_always _).symm.trans whole)
  next =>
    refine ⟨_, List.rel_append names (.cons (part_hexadecimal _) .nil), ?_⟩
    have last : unions [⟨mask.bits &&& ~~~known⟩] = ⟨mask.bits &&& ~~~known⟩ := union_always _
    rw [unions_append, unions_named, last, whole]

/-- A mask reads back from its text. -/
theorem ofText?_text (mask : Mask) : ofText? mask.text = some mask := by
  obtain ⟨masks, parts, whole⟩ := parts_part mask
  rw [text, ofText?_joined parts, whole]

end Log.Mask

end DatasetSync
