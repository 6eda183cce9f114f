import EnclaveFleet.Settings.Acceptance
import EnclaveFleet.Shell.Quote
import EnclaveFleet.Text.CaseMap

/-!
# Settings that pass

* `problems_eq`: the problems of the fields come before those of the mode
* `accepts_of_check`: every configured key of the secret is a name of a variable
* `fleetSize_of_check`, `natGateways_of_check`: the bounds of the numbers
* `VariableName.isPlain_of_isRest`, `VariableName.ascii_of_isRest`: what names are made of
* `VariableName.accepts_upper`: they are names in upper case too
* `ok_of_toOption`: whether settings pass can be computed
-/
namespace EnclaveFleet
set_option autoImplicit false

theorem ok_of_toOption {ε α : Type} {x : Except ε α} {a : α} (h : x.toOption = some a) :
    x = .ok a := by
  cases x with
  | error e => cases h
  | ok b =>
    cases h
    rfl

namespace VariableName

theorem isRest_of_isStart {c : Char} (h : isStart c) : isRest c := by
  rw [isStart, Bool.or_eq_true] at h
  rw [isRest, Bool.or_eq_true, Char.isAlphanum, Bool.or_eq_true]
  obtain h | h := h
  · exact .inl (.inl h)
  · exact .inr h

theorem isRest_of_accepts {cs : List Char} (h : accepts cs) : ∀ c ∈ cs, isRest c := by
  cases cs with
  | nil => simp
  | cons c cs =>
    rw [accepts, Bool.and_eq_true] at h
    obtain ⟨hstart, hrest⟩ := h
    intro d hd
    obtain rfl | hd := List.mem_cons.mp hd
    · exact isRest_of_isStart hstart
    · exact List.all_eq_true.mp hrest d hd

theorem ne_nil_of_accepts {cs : List Char} (h : accepts cs) : cs ≠ [] := by
  rintro rfl
  cases h

theorem isPlain_of_isRest {c : Char} (h : isRest c) : Shell.isPlain c := by
  rw [isRest, Bool.or_eq_true, decide_eq_true_eq] at h
  rw [Shell.isPlain, Bool.or_eq_true]
  obtain h | rfl := h
  · exact .inl h
  · exact .inr (by decide)

theorem ascii_of_isRest {c : Char} (h : isRest c) : c.toNat < 0x80 := by
  rw [isRest, Bool.or_eq_true, decide_eq_true_eq] at h
  obtain h | rfl := h
  · have halpha : c.isAlpha = (c.isUpper || c.isLower) := rfl
    have hupper : c.isUpper = decide (c.val ≥ 'A'.val ∧ c.val ≤ 'Z'.val) := rfl
    have hlower : c.isLower = (c.val ≥ 'a'.val && c.val ≤ 'z'.val) := rfl
    simp only [Char.isAlphanum, halpha, hupper, hlower, Char.isDigit, Bool.or_eq_true,
      Bool.and_eq_true, decide_eq_true_eq, UInt32.le_iff_toNat_le, ge_iff_le] at h
    have hnat : c.toNat = c.val.toNat := rfl
    have hZ : 'Z'.val.toNat = 90 := rfl
    have hz : 'z'.val.toNat = 122 := rfl
    have h9 : '9'.val.toNat = 57 := rfl
    omega
  · decide

/-- What names are made of is in ASCII, where it can be computed what holds of it. -/
theorem holds_of_isRest {p : Char → Bool}
    (hall : (List.range 0x80).all (fun n => !isRest (Char.ofNat n) || p (Char.ofNat n)) = true)
    {c : Char} (h : isRest c) : p c := by
  have hc := List.all_eq_true.mp hall c.toNat (List.mem_range.mpr (ascii_of_isRest h))
  rw [Char.ofNat_toNat, h] at hc
  exact hc

theorem isStart_toUpper {c : Char} (h : isStart c) : isStart c.toUpper := by
  have hc := holds_of_isRest (p := fun c => !isStart c || isStart c.toUpper) (by decide)
    (isRest_of_isStart h)
  simpa [h] using hc

theorem isRest_toUpper {c : Char} (h : isRest c) : isRest c.toUpper :=
  holds_of_isRest (p := fun c => isRest c.toUpper) (by decide) h

theorem accepts_upper {cs : List Char} (h : accepts cs) : accepts (Text.upper cs) := by
  have hrest : ∀ c ∈ cs, isRest c := isRest_of_accepts h
  rw [Text.upper_of_ascii cs fun c hc => ascii_of_isRest (hrest c hc)]
  cases cs with
  | nil => cases h
  | cons c cs =>
    rw [accepts, Bool.and_eq_true] at h
    rw [List.map_cons, accepts, Bool.and_eq_true, List.all_map]
    refine ⟨isStart_toUpper h.1, List.all_eq_true.mpr fun d hd => ?_⟩
    exact isRest_toUpper (hrest d (by simp [hd]))

end VariableName

namespace Settings

theorem problems_eq {s : Settings} {files : Tree} {problems : List Problem}
    (h : s.problems files = .ok problems) :
    ∃ boot, s.bootProblems files = .ok boot ∧ problems = s.fieldProblems ++ boot := by
  unfold Settings.problems at h
  cases hboot : s.bootProblems files with
  | error fault =>
    rw [hboot] at h
    cases h
  | ok boot =>
    rw [hboot] at h
    cases h
    exact ⟨boot, rfl, rfl⟩

theorem problems_of_check {s : Settings} {files : Tree} (h : s.check files = .ok ()) :
    s.fieldProblems = [] ∧ s.bootProblems files = .ok [] := by
  obtain ⟨boot, hboot, hall⟩ := problems_eq ((check_eq_ok_iff s files).mp h)
  obtain ⟨hfield, rfl⟩ := List.append_eq_nil_iff.mp hall.symm
  exact ⟨hfield, hboot⟩

theorem of_problemIf {condition : Bool} {p : Problem} (h : problemIf condition p = []) :
    condition = false := by
  cases condition with
  | false => rfl
  | true => cases h

theorem fleetSize_of_check {s : Settings} {files : Tree} (h : s.check files = .ok ()) :
    1 ≤ s.fleetSize := by
  have hf := (problems_of_check h).1
  simp only [fieldProblems, List.append_eq_nil_iff] at hf
  have hsize := of_problemIf hf.1.1.1.1.1.2
  rw [decide_eq_false_iff_not] at hsize
  omega

theorem natGateways_of_check {s : Settings} {files : Tree} (h : s.check files = .ok ()) :
    0 ≤ s.natGateways := by
  have hf := (problems_of_check h).1
  simp only [fieldProblems, List.append_eq_nil_iff] at hf
  have hnumber := of_problemIf hf.1.1.1.2
  rw [decide_eq_false_iff_not] at hnumber
  omega

theorem accepts_of_check {s : Settings} {files : Tree} (h : s.check files = .ok ()) :
    ∀ key ∈ s.secretKeys, VariableName.accepts key.toList := by
  have hkeys : s.keyProblems = [] := by
    have hf := (problems_of_check h).1
    simp only [fieldProblems, List.append_eq_nil_iff] at hf
    exact hf.2
  rw [keyProblems, List.map_eq_nil_iff, List.filter_eq_nil_iff] at hkeys
  intro key hkey
  simpa using hkeys key hkey

end Settings
end EnclaveFleet
