import EnclaveFleet.Bytes.Base64
import EnclaveFleet.Shell.Quote

/-!
# Base64 as a word of the shell

* `isPlain_of_mem_encode`: an encoded text needs no quotes
* `encode_ne_nil`: it is empty for no bytes only
-/
namespace EnclaveFleet.Base64
set_option autoImplicit false

theorem isPlain_symbol (n : Nat) : Shell.isPlain (symbol n) := by
  have hsmall : (List.range 64).all (fun n => Shell.isPlain (symbol n)) = true := by decide
  by_cases hn : n < 64
  · exact List.all_eq_true.mp hsmall n (List.mem_range.mpr hn)
  · have hslash : symbol n = '/' := by
      rw [symbol, if_neg (by omega), if_neg (by omega), if_neg (by omega), if_neg (by omega)]
    rw [hslash]
    decide

theorem isPlain_of_mem_encode {bs : List UInt8} {c : Char} (h : c ∈ encode bs) :
    Shell.isPlain c := by
  have hpad : Shell.isPlain '=' := by decide
  induction bs using encode.induct with
  | case1 => simp [encode] at h
  | case2 a =>
    simp only [encode, List.mem_cons, List.not_mem_nil, or_false] at h
    obtain rfl | rfl | rfl | rfl := h <;> simp [isPlain_symbol, hpad]
  | case3 a b =>
    simp only [encode, List.mem_cons, List.not_mem_nil, or_false] at h
    obtain rfl | rfl | rfl | rfl := h <;> simp [isPlain_symbol, hpad]
  | case4 a b d rest ih =>
    simp only [encode, List.mem_cons] at h
    obtain rfl | rfl | rfl | rfl | h := h
    · exact isPlain_symbol _
    · exact isPlain_symbol _
    · exact isPlain_symbol _
    · exact isPlain_symbol _
    · exact ih h

theorem encode_ne_nil {bs : List UInt8} (h : bs ≠ []) : encode bs ≠ [] := by
  cases bs using encode.fun_cases with
  | case1 => exact absurd rfl h
  | case2 a => simp [encode]
  | case3 a b => simp [encode]
  | case4 a b c rest => simp [encode]

end EnclaveFleet.Base64
