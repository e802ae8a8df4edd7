import DatasetSync.Text.Digits
import Mathlib.Tactic.IntervalCases

/-!
# Digits read back

The digits of a number, in any base up to sixteen, are digits of the class they should be in, make
up the number again, and start with a zero only if there is nothing else.
-/

namespace DatasetSync.Text

/-! ## Single digits -/

theorem hexadecimal?_digitChar {digit : Nat} (small : digit < 16) :
    hexadecimal? (Nat.digitChar digit) = some digit := by
  interval_cases digit <;> rfl

theorem decimal?_digitChar {digit : Nat} (small : digit < 10) :
    decimal? (Nat.digitChar digit) = some digit := by
  interval_cases digit <;> rfl

theorem digitChar_ne_zero {digit : Nat} (small : digit < 16) (positive : 0 < digit) :
    Nat.digitChar digit ≠ '0' := by
  interval_cases digit <;> decide

/-! ## Numbers -/

section Numbers

variable {base : Nat}

theorem numberFrom_concat (digits : List Char) (last : Char) :
    numberFrom base (digits ++ [last]) =
      numberFrom base digits * base + (hexadecimal? last).getD 0 := by
  rw [numberFrom, List.foldl_append]
  rfl

/-- The digits of a number make it up. -/
theorem numberFrom_toDigits (many : 1 < base) (few : base ≤ 16) (number : Nat) :
    numberFrom base (Nat.toDigits base number) = number := by
  induction number using Nat.strong_induction_on with
  | _ number ih =>
      rw [Nat.toDigits_eq_if many]
      split
      next small =>
        have read := hexadecimal?_digitChar (Nat.lt_of_lt_of_le small few)
        rw [← List.nil_append [Nat.digitChar number], numberFrom_concat, read]
        simp [numberFrom]
      next large =>
        have below : number / base < number := Nat.div_lt_self (by omega) many
        have read := hexadecimal?_digitChar
          (Nat.lt_of_lt_of_le (Nat.mod_lt number (by omega)) few)
        rw [numberFrom_concat, ih _ below, read, Nat.mul_comm]
        exact Nat.div_add_mod number base

/-- What holds of every digit below the base holds of all digits of a number. -/
theorem forall_mem_toDigits {Holds : Char → Prop} (many : 1 < base)
    (each : ∀ digit < base, Holds (Nat.digitChar digit)) (number : Nat) :
    ∀ digit ∈ Nat.toDigits base number, Holds digit := by
  induction number using Nat.strong_induction_on with
  | _ number ih =>
      rw [Nat.toDigits_eq_if many]
      intro digit member
      split at member
      next small =>
        rw [List.mem_singleton.mp member]
        exact each number small
      next large =>
        have below : number / base < number := Nat.div_lt_self (by omega) many
        rcases List.mem_append.mp member with earlier | last
        · exact ih _ below digit earlier
        · rw [List.mem_singleton.mp last]
          exact each _ (Nat.mod_lt number (by omega))

theorem toDigits_ne_nil (many : 1 < base) (number : Nat) : Nat.toDigits base number ≠ [] := by
  rw [Nat.toDigits_eq_if many]
  split
  · exact List.cons_ne_nil _ _
  · exact List.append_ne_nil_of_right_ne_nil _ (List.cons_ne_nil _ _)

/-- No zero stands in front of a number. -/
theorem head?_toDigits_ne_zero (many : 1 < base) (few : base ≤ 16) {number : Nat}
    (positive : 0 < number) : (Nat.toDigits base number).head? ≠ some '0' := by
  induction number using Nat.strong_induction_on with
  | _ number ih =>
      rw [Nat.toDigits_eq_if many]
      split
      next small =>
        intro zero
        exact digitChar_ne_zero (Nat.lt_of_lt_of_le small few) positive (Option.some.inj zero)
      next large =>
        have below : number / base < number := Nat.div_lt_self positive many
        have rest := ih _ below (Nat.div_pos (by omega) (by omega))
        cases earlier : Nat.toDigits base (number / base) with
        | nil => exact (toDigits_ne_nil many _ earlier).elim
        | cons first others =>
            rw [earlier] at rest
            exact rest

/-- A zero in front of a number stands alone. -/
theorem toDigits_eq_zero_cons (many : 1 < base) (few : base ≤ 16) {number : Nat}
    {rest : List Char} (zero : Nat.toDigits base number = '0' :: rest) : rest = [] := by
  rcases Nat.eq_zero_or_pos number with rfl | positive
  · rw [Nat.toDigits_of_lt_base (by omega)] at zero
    exact (List.cons.inj zero).2.symm
  · have front := head?_toDigits_ne_zero many few positive
    rw [zero] at front
    exact (front rfl).elim

end Numbers

theorem all_isDecimal_toDigits (number : Nat) :
    (Nat.toDigits 10 number).all isDecimal = true := by
  refine List.all_eq_true.mpr (forall_mem_toDigits (by decide) (fun digit small => ?_) number)
  rw [isDecimal, decimal?_digitChar small]
  rfl

theorem all_isHexadecimal_toDigits (number : Nat) :
    (Nat.toDigits 16 number).all isHexadecimal = true := by
  refine List.all_eq_true.mpr (forall_mem_toDigits (by decide) (fun digit small => ?_) number)
  rw [isHexadecimal, hexadecimal?_digitChar small]
  rfl

theorem readHexadecimal?_toDigits (number : Nat) :
    readHexadecimal? (Nat.toDigits 16 number) = some number := by
  have there : Nat.toDigits 16 number ≠ [] := toDigits_ne_nil (by decide) number
  rw [readHexadecimal?, if_pos ⟨there, all_isHexadecimal_toDigits number⟩,
    numberFrom_toDigits (by decide) (by decide)]

/-! ## Integers -/

theorem toList_toString_ofNat (number : Nat) :
    (toString (Int.ofNat number)).toList = Nat.toDigits 10 number := by
  change (String.ofList (Nat.toDigits 10 number)).toList = _
  rw [String.toList_ofList]

theorem toList_toString_negSucc (number : Nat) :
    (toString (Int.negSucc number)).toList = '-' :: Nat.toDigits 10 (number + 1) := by
  change ("-" ++ String.ofList (Nat.toDigits 10 (number + 1))).toList = _
  simp only [String.toList_append, String.toList_ofList]
  rfl

/-- Digits stand in front of a natural number. -/
theorem toDigits_front (number : Nat) :
    ∃ first others, Nat.toDigits 10 number = first :: others ∧ isDecimal first = true := by
  cases digits : Nat.toDigits 10 number with
  | nil => exact (toDigits_ne_nil (by decide) number digits).elim
  | cons first others =>
      have all := all_isDecimal_toDigits number
      rw [digits, List.all_cons, Bool.and_eq_true] at all
      exact ⟨first, others, rfl, all.1⟩

/-- A digit or a minus sign stands in front of an integer. -/
theorem toString_int_front (value : Int) :
    ∃ first others, (toString value).toList = first :: others ∧
      (isDecimal first || first == '-') = true := by
  cases value with
  | ofNat number =>
      obtain ⟨first, others, digits, fits⟩ := toDigits_front number
      refine ⟨first, others, ?_, ?_⟩
      · rw [toList_toString_ofNat, digits]
      · rw [fits]
        rfl
  | negSucc number => exact ⟨'-', _, toList_toString_negSucc number, rfl⟩

end DatasetSync.Text
