import EnclaveFleet.Proofs.Json.FlatObject
import Mathlib.Data.List.TakeWhile

/-!
# Texts that the reader of JSON gives up

Beside being no JSON a text can hold an integer of too many digits or containers on too many levels.

* `parseWithin_digits`: a text of digits, too many of them
* `parseWithin_brackets`: a text with more brackets at its front than levels are read
-/
namespace EnclaveFleet.Json
set_option autoImplicit false

/-! ## Integers of too many digits -/

theorem number_of_digits {c : Char} {cs : List Char} (hzero : c ≠ '0')
    (hall : ∀ d ∈ c :: cs, isDigit d) (hlength : Text.Numeral.maxDigits < (c :: cs).length) :
    number (c :: cs) = .error (.numeralTooLong (c :: cs).length) := by
  have hminus : c ≠ '-' := by
    rintro rfl
    exact absurd (hall '-' (by simp)) (by decide)
  have hwhole : integerPart? (c :: cs) = some (c :: cs, []) := by
    rw [integerPart?]
    · rw [List.takeWhile_eq_self_iff.mpr hall, List.dropWhile_eq_nil_iff.mpr hall]
      rfl
    · intro rest h
      exact hzero (List.cons.inj h).1
  rw [number]
  · rw [unsignedNumber, hwhole]
    simp only [fraction?, exponent?, Option.map_none, Option.getD_none, Option.isNone_none,
      Bool.and_self, if_true]
    rw [if_neg (by omega)]
  · intro rest h
    exact hminus (List.cons.inj h).1

theorem value_of_digit {c : Char} (hc : isDigit c) (steps levels : Nat) (cs : List Char) :
    value (steps + 1) levels (c :: cs) = number (c :: cs) := by
  have hne : ∀ d : Char, isDigit d = false → c ≠ d := by
    rintro d hd rfl
    rw [hc] at hd
    cases hd
  rw [value]
  all_goals
    intro rest h
    exact hne _ (by decide) (List.cons.inj h).1

theorem parseWithin_digits {c : Char} {cs : List Char} (hzero : c ≠ '0')
    (hall : ∀ d ∈ c :: cs, isDigit d) (hlength : Text.Numeral.maxDigits < (c :: cs).length)
    (levels : Nat) :
    parseWithin levels (c :: cs) = .error (.numeralTooLong (c :: cs).length) := by
  have hc : isDigit c := hall c (by simp)
  have hblank : c ∉ [' ', '\t', '\n', '\r'] := by
    intro hmem
    have hnone : [' ', '\t', '\n', '\r'].all (!isDigit ·) = true := by decide
    have hn := List.all_eq_true.mp hnone c hmem
    rw [hc] at hn
    cases hn
  rw [parseWithin, skipBlanks_cons hblank, value_of_digit hc, number_of_digits hzero hall hlength]

/-! ## Arrays on too many levels -/

/-- Two steps open a bracket that another one follows. -/
theorem value_brackets (rest : List Char) : ∀ levels steps : Nat,
    value (2 * levels + 1 + steps) levels (List.replicate (levels + 1) '[' ++ rest) =
      .error (.tooDeep .array)
  | 0, steps => by
    rw [Nat.mul_zero, Nat.zero_add, Nat.add_comm]
    rfl
  | levels + 1, steps => by
    have hsteps : 2 * (levels + 1) + 1 + steps = (2 * levels + 1 + steps) + 1 + 1 := by omega
    have ih := value_brackets rest levels steps
    rw [hsteps, List.replicate_succ, List.replicate_succ, List.cons_append, List.cons_append]
    rw [List.replicate_succ, List.cons_append] at ih
    rw [value]
    simp only [skipBlanks_cons (show '[' ∉ [' ', '\t', '\n', '\r'] by decide)]
    split
    · next heq => exact absurd (List.cons.inj heq).1 (by decide)
    · rw [elements, ih]
      rfl

theorem parseWithin_brackets (levels : Nat) (rest : List Char) :
    parseWithin levels (List.replicate (levels + 1) '[' ++ rest) = .error (.tooDeep .array) := by
  have hsteps : 2 * (List.replicate (levels + 1) '[' ++ rest).length + 1 =
      2 * levels + 1 + (2 * rest.length + 2) := by
    rw [List.length_append, List.length_replicate]
    omega
  have hskip : skipBlanks (List.replicate (levels + 1) '[' ++ rest) =
      List.replicate (levels + 1) '[' ++ rest := skipBlanks_cons (c := '[') (by decide) _
  rw [parseWithin, hskip, hsteps, value_brackets]

end EnclaveFleet.Json
