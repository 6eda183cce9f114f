import EnclaveFleet.Json.Basic
import Mathlib.Algebra.Order.Field.Power
import Mathlib.Data.Rat.Cast.Order
import Mathlib.Tactic.Linarith
import Mathlib.Tactic.NormNum
import Mathlib.Tactic.Positivity
import Mathlib.Tactic.Ring

/-!
# Values that count as nothing

* `Vacant`: null, false, zero and the empty values; a decimal is zero if it is nearer to zero than to
  every number of double precision
* `LastField`: the value that a name has the last time it comes
* `underflows_iff`, `isFilled_iff`, `getLast_eq_some_iff`: they are what is computed
-/
namespace EnclaveFleet
set_option autoImplicit false

/-! ## Underflow -/

/-- At most half of 2 ^ (-1074), the least number of double precision beyond zero. -/
def Real.Vanishes (mantissa : Nat) (exponent : Int) : Prop :=
  2 * ((mantissa : ℚ) * 10 ^ exponent) ≤ 2 ^ (-1074 : ℤ)

/-- The rough estimate goes no further: three places of two are less than one of ten. -/
theorem Real.estimate_iff (k m places : Nat) :
    ((m = 0 ∨ m.log2 + (k + 1) ≤ 3 * places) ∨ m * 2 ^ k ≤ 10 ^ places) ↔
      m * 2 ^ k ≤ 10 ^ places := by
  constructor
  · rintro ((rfl | h) | h)
    · rw [Nat.zero_mul]
      exact Nat.zero_le _
    · calc m * 2 ^ k ≤ 2 ^ (m.log2 + 1) * 2 ^ k :=
            Nat.mul_le_mul_right _ (Nat.le_of_lt Nat.lt_log2_self)
        _ = 2 ^ (m.log2 + (k + 1)) := by rw [← Nat.pow_add, Nat.add_assoc, Nat.add_comm 1 k]
        _ ≤ 2 ^ (3 * places) := Nat.pow_le_pow_right (by decide) h
        _ = 8 ^ places := by rw [Nat.pow_mul]
        _ ≤ 10 ^ places := Nat.pow_le_pow_left (by decide) places
    · exact h
  · exact .inr

theorem Real.underflows_eq (m : Nat) (e : Int) :
    underflows m e = true ↔ m * 2 ^ 1075 ≤ 10 ^ (-e).toNat := by
  have hpow : ∀ a b : Nat, Nat.pow a b = a ^ b := fun a b => rfl
  have hsum : 1075 + 1 = 1076 := rfl
  have hestimate := estimate_iff 1075 m (-e).toNat
  rw [hsum] at hestimate
  simp only [underflows, hpow, Bool.or_eq_true, decide_eq_true_eq]
  rw [hestimate]

/-- The comparison without fractions. -/
theorem Real.le_pow_iff (k m : Nat) (e : Int) :
    m * 2 ^ (k + 1) ≤ 10 ^ (-e).toNat ↔ 2 * ((m : ℚ) * 10 ^ e) ≤ 2 ^ (-(k : ℤ)) := by
  obtain ⟨p, rfl⟩ | hpos : (∃ p : Nat, e = -(p : ℤ)) ∨ 0 < e := by
    obtain h | h := Int.lt_or_le 0 e
    · exact .inr h
    · exact .inl ⟨(-e).toNat, by omega⟩
  · have hplaces : (-(-(p : ℤ))).toNat = p := by omega
    have hten : (0 : ℚ) < 10 ^ p := by positivity
    have htwo : (0 : ℚ) < 2 ^ k := by positivity
    have hleft : 2 * ((m : ℚ) * (10 ^ p)⁻¹) = 2 * m / 10 ^ p := by ring
    have hright : ((2 : ℚ) ^ k)⁻¹ = 1 / 2 ^ k := by ring
    have hcross : (2 * (m : ℚ) * 2 ^ k ≤ 1 * 10 ^ p) ↔ 2 * m * 2 ^ k ≤ 1 * 10 ^ p := by norm_cast
    have hpow : m * 2 ^ (k + 1) = 2 * m * 2 ^ k := by rw [Nat.pow_succ]; ring
    rw [hplaces, zpow_neg, zpow_neg, zpow_natCast, zpow_natCast, hleft, hright,
      div_le_div_iff₀ hten htwo, hcross, hpow, Nat.one_mul]
  · have hplaces : (-e).toNat = 0 := by omega
    have hsmall : (2 : ℚ) ^ (-(k : ℤ)) ≤ 1 := zpow_le_one_of_nonpos₀ (by norm_num) (by omega)
    have hlarge : (1 : ℚ) ≤ 10 ^ e := one_le_zpow₀ (by norm_num) (by omega)
    rw [hplaces, Nat.pow_zero]
    rcases Nat.eq_zero_or_pos m with rfl | hm
    · simp only [Nat.cast_zero, zero_mul, mul_zero]
      exact iff_of_true (by omega) (by positivity)
    · have hone : (1 : ℚ) ≤ m := by exact_mod_cast hm
      have htwo : 2 ≤ m * 2 ^ (k + 1) := by
        rw [Nat.pow_succ]
        nlinarith [Nat.two_pow_pos k]
      have hprod : (1 : ℚ) ≤ m * 10 ^ e := one_le_mul_of_one_le_of_one_le hone hlarge
      exact iff_of_false (by omega) (by linarith)

theorem Real.underflows_iff (m : Nat) (e : Int) : underflows m e = true ↔ Vanishes m e := by
  have hsum : 1074 + 1 = 1075 := rfl
  have hcompare := le_pow_iff 1074 m e
  rw [hsum] at hcompare
  exact (underflows_eq m e).trans hcompare

namespace Json

/-! ## Empty values -/

inductive Vacant : Json → Prop
  | null : Vacant .null
  | no : Vacant (.bool false)
  | zero : Vacant (.int 0)
  | underflow {negative : Bool} {mantissa : Nat} {exponent : Int}
      (h : Real.Vanishes mantissa exponent) : Vacant (.real (.decimal negative mantissa exponent))
  | text : Vacant (.text "")
  | array : Vacant (.array [])
  | object : Vacant (.object [])

theorem isFilled_iff {j : Json} : j.isFilled = true ↔ ¬Vacant j := by
  constructor
  · intro h hvacant
    cases hvacant with
    | underflow hzero =>
      rw [isFilled, Real.isZero, (Real.underflows_iff _ _).mpr hzero] at h
      cases h
    | _ => simp [isFilled] at h
  · intro h
    cases j with
    | null => exact absurd .null h
    | bool b =>
      cases b with
      | false => exact absurd .no h
      | true => rfl
    | int n =>
      refine decide_eq_true fun hzero => ?_
      subst hzero
      exact h .zero
    | real r =>
      cases r with
      | decimal negative mantissa exponent =>
        rw [isFilled, Real.isZero, Bool.not_eq_true', Bool.eq_false_iff, ne_eq,
          Real.underflows_iff]
        exact fun hzero => h (.underflow hzero)
      | infinite negative => rfl
      | nan => rfl
    | text s =>
      refine decide_eq_true fun hempty => ?_
      subst hempty
      exact h .text
    | array items =>
      cases items with
      | nil => exact absurd .array h
      | cons item items => rfl
    | object fields =>
      cases fields with
      | nil => exact absurd .object h
      | cons field fields => rfl

/-! ## The last field of a name -/

def LastField (fields : List (String × Json)) (name : String) (j : Json) : Prop :=
  ∃ before after, fields = before ++ (name, j) :: after ∧ ∀ f ∈ after, f.1 ≠ name

theorem getLast_eq_some_iff {name : String} {fields : List (String × Json)} {j : Json} :
    getLast? name fields = some j ↔ LastField fields name j := by
  rw [getLast?, List.lookup_eq_some_iff]
  constructor
  · rintro ⟨after, before, hcut, hafter⟩
    refine ⟨before.reverse, after.reverse, ?_, fun f hf => ?_⟩
    · rw [← List.reverse_reverse fields, hcut, List.reverse_append, List.reverse_cons,
        List.append_assoc, List.singleton_append]
    · exact fun hname => by simpa [hname] using hafter f (List.mem_reverse.mp hf)
  · rintro ⟨before, after, rfl, hafter⟩
    refine ⟨after.reverse, before.reverse, by simp, fun f hf => ?_⟩
    simpa using (hafter f (List.mem_reverse.mp hf)).symm

end Json
end EnclaveFleet
