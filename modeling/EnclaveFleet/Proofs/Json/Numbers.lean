import EnclaveFleet.Json.Reader
import EnclaveFleet.Proofs.Json.Grammar
import EnclaveFleet.Proofs.Text.Numerals
import Mathlib.Data.List.TakeWhile

/-!
# Reading numbers

* `Delimited`: what can stand behind a value
* `integerPart_eq_some_iff`, `fraction_eq_some_iff`, `exponent_eq_some_iff`: the parts of a number
* `numeral_of_number`: what is read is a number
* `number_of_numeral`: and a number is read, unless it is an integer of too many digits
-/
namespace EnclaveFleet.Json
set_option autoImplicit false

/-- A blank, a comma, a closing bracket or brace, or nothing more. -/
def Delimited (rest : List Char) : Prop :=
  ∀ c, rest.head? = some c → c ∈ [' ', '\t', '\n', '\r', ',', ']', '}']

/-! ## Digits -/

theorem isDigit_iff {c : Char} : isDigit c = true ↔ '0' ≤ c ∧ c ≤ '9' := by
  simp [isDigit]

theorem decimal_iff {cs : List Char} : Decimal cs ↔ cs ≠ [] ∧ ∀ c ∈ cs, isDigit c = true := by
  simp only [Decimal, isDigit_iff]

theorem ofDigits_map_digitValue (cs : List Char) :
    Text.Numeral.ofDigits (cs.map digitValue) = decimalValue cs := by
  rw [Text.Numeral.ofDigits_eq, ← List.map_reverse]
  rfl

/-- No digit comes next. -/
def Stops (rest : List Char) : Prop := ∀ c, rest.head? = some c → isDigit c = false

theorem takeWhile_digits {cs rest : List Char} (h : ∀ c ∈ cs, isDigit c = true) (hrest : Stops rest) :
    (cs ++ rest).takeWhile isDigit = cs ∧ (cs ++ rest).dropWhile isDigit = rest := by
  have hstop : rest.takeWhile isDigit = [] ∧ rest.dropWhile isDigit = rest := by
    cases rest with
    | nil => exact ⟨rfl, rfl⟩
    | cons c rest =>
      have hc : isDigit c = false := hrest c rfl
      simp [hc]
  rw [List.takeWhile_append_of_pos h, List.dropWhile_append_of_pos h, hstop.1, hstop.2,
    List.append_nil]
  exact ⟨rfl, rfl⟩

theorem stops_dropWhile (cs : List Char) : Stops (cs.dropWhile isDigit) := fun c hc => by
  have hnot := List.head?_dropWhile_not isDigit cs
  rw [hc] at hnot
  simpa using hnot

/-- Digits are cut off as far as they go; there must be one. -/
theorem cutDigits_eq_some_iff {α : Type} (f : List Char → α) {cs : List Char} {a : α} {rest : Rest} :
    (if (cs.takeWhile isDigit).isEmpty then none
      else some (f (cs.takeWhile isDigit), cs.dropWhile isDigit)) = some (a, rest) ↔
    ∃ ds, a = f ds ∧ Decimal ds ∧ Stops rest ∧ cs = ds ++ rest := by
  simp only [decimal_iff]
  constructor
  · intro h
    split at h
    · cases h
    · next hne =>
      obtain ⟨rfl, rfl⟩ := Prod.mk.inj (Option.some.inj h)
      refine ⟨_, rfl, ⟨fun hnil => hne (by rw [hnil]; rfl), fun c hc => ?_⟩, stops_dropWhile cs,
        List.takeWhile_append_dropWhile.symm⟩
      exact List.mem_takeWhile_imp hc
  · rintro ⟨ds, rfl, ⟨hne, hall⟩, hstops, rfl⟩
    obtain ⟨htake, hdrop⟩ := takeWhile_digits hall hstops
    rw [htake, hdrop, if_neg (by simpa using hne)]

/-! ## The parts of a number -/

theorem integerPart_eq_some_iff {cs whole : List Char} {rest : Rest} :
    integerPart? cs = some (whole, rest) ↔
      Whole whole ∧ (whole = ['0'] ∨ Stops rest) ∧ cs = whole ++ rest := by
  by_cases hzero : ∃ tail, cs = '0' :: tail
  · obtain ⟨tail, rfl⟩ := hzero
    rw [integerPart?, Option.some.injEq, Prod.mk.injEq]
    constructor
    · rintro ⟨rfl, rfl⟩
      exact ⟨⟨⟨by simp, by simp⟩, fun _ => rfl⟩, .inl rfl, rfl⟩
    · rintro ⟨⟨⟨hne, -⟩, hsingle⟩, -, hcut⟩
      obtain ⟨c, more, rfl⟩ := List.exists_cons_of_ne_nil hne
      obtain ⟨rfl, htail⟩ := List.cons.inj hcut
      obtain ⟨-, rfl⟩ := List.cons.inj (hsingle rfl)
      exact ⟨rfl, htail⟩
  · have hread : integerPart? cs = if (cs.takeWhile isDigit).isEmpty then none
        else some (cs.takeWhile isDigit, cs.dropWhile isDigit) := by
      rw [integerPart?]
      exact fun tail htail => hzero ⟨tail, htail⟩
    rw [hread]
    refine (cutDigits_eq_some_iff id).trans ?_
    constructor
    · rintro ⟨ds, rfl, hds, hstops, rfl⟩
      refine ⟨⟨hds, fun hhead => ?_⟩, .inr hstops, rfl⟩
      obtain ⟨tail, htail⟩ := List.head?_eq_some_iff.mp hhead
      exact absurd ⟨tail ++ rest, by rw [htail]; rfl⟩ hzero
    · rintro ⟨⟨hds, -⟩, hor, rfl⟩
      refine ⟨whole, rfl, hds, hor.resolve_left ?_, rfl⟩
      rintro rfl
      exact hzero ⟨rest, rfl⟩

theorem fraction_eq_some_iff {cs places : List Char} {rest : Rest} :
    fraction? cs = some (places, rest) ↔
      Decimal places ∧ Stops rest ∧ cs = '.' :: (places ++ rest) := by
  by_cases hpoint : ∃ tail, cs = '.' :: tail
  · obtain ⟨tail, rfl⟩ := hpoint
    rw [fraction?]
    refine (cutDigits_eq_some_iff id).trans ?_
    constructor
    · rintro ⟨ds, rfl, hds, hstops, rfl⟩
      exact ⟨hds, hstops, rfl⟩
    · rintro ⟨hds, hstops, hcut⟩
      exact ⟨places, rfl, hds, hstops, (List.cons.inj hcut).2⟩
  · rw [fraction?]
    · refine iff_of_false nofun ?_
      rintro ⟨-, -, rfl⟩
      exact hpoint ⟨_, rfl⟩
    · exact fun tail htail => hpoint ⟨tail, htail⟩

theorem exponentDigits_eq_some_iff {cs : List Char} {n : Nat} {rest : Rest} :
    exponentDigits? cs = some (n, rest) ↔
      ∃ ds, n = decimalValue ds ∧ Decimal ds ∧ Stops rest ∧ cs = ds ++ rest := by
  rw [exponentDigits?, ofDigits_map_digitValue]
  exact cutDigits_eq_some_iff decimalValue

theorem ne_of_decimal {c : Char} {cs : List Char} (h : Decimal (c :: cs)) {d : Char}
    (hd : isDigit d = false) : c ≠ d := by
  rintro rfl
  rw [(decimal_iff.mp h).2 c (by simp)] at hd
  cases hd

theorem exponent_eq_some_iff {cs : List Char} {n : Int} {rest : Rest} :
    exponent? cs = some (n, rest) ↔
      ∃ text, text ≠ [] ∧ Exponent text n ∧ Stops rest ∧ cs = text ++ rest := by
  constructor
  · intro h
    unfold exponent? at h
    split at h
    · next c tail =>
      split at h
      · next hc =>
        split at h
        · next tail =>
          obtain ⟨⟨m, later⟩, hm, h⟩ := Option.map_eq_some_iff.mp h
          obtain ⟨rfl, rfl⟩ := Prod.mk.inj h
          obtain ⟨ds, rfl, hds, hstops, rfl⟩ := exponentDigits_eq_some_iff.mp hm
          exact ⟨c :: '-' :: ds, by simp, .minus hc hds, hstops, rfl⟩
        · next tail =>
          obtain ⟨⟨m, later⟩, hm, h⟩ := Option.map_eq_some_iff.mp h
          obtain ⟨rfl, rfl⟩ := Prod.mk.inj h
          obtain ⟨ds, rfl, hds, hstops, rfl⟩ := exponentDigits_eq_some_iff.mp hm
          exact ⟨c :: '+' :: ds, by simp, .plus hc hds, hstops, rfl⟩
        · obtain ⟨⟨m, later⟩, hm, h⟩ := Option.map_eq_some_iff.mp h
          obtain ⟨rfl, rfl⟩ := Prod.mk.inj h
          obtain ⟨ds, rfl, hds, hstops, rfl⟩ := exponentDigits_eq_some_iff.mp hm
          exact ⟨c :: ds, by simp, .unsigned hc hds, hstops, rfl⟩
      · cases h
    · cases h
  · rintro ⟨text, hne, hexponent, hstops, rfl⟩
    cases hexponent with
    | none => exact absurd rfl hne
    | @unsigned c ds hc hds =>
      have hread := exponentDigits_eq_some_iff.mpr ⟨ds, rfl, hds, hstops, rfl⟩
      obtain ⟨d, more, rfl⟩ := List.exists_cons_of_ne_nil hds.1
      rw [List.cons_append, exponent?, if_pos hc, hread]
      · rfl
      · exact fun _ heq => ne_of_decimal hds (by decide) (List.cons.inj heq).1
      · exact fun _ heq => ne_of_decimal hds (by decide) (List.cons.inj heq).1
    | @plus c ds hc hds =>
      have hread := exponentDigits_eq_some_iff.mpr ⟨ds, rfl, hds, hstops, rfl⟩
      rw [List.cons_append, List.cons_append, exponent?, if_pos hc, hread]
      rfl
    | @minus c ds hc hds =>
      have hread := exponentDigits_eq_some_iff.mpr ⟨ds, rfl, hds, hstops, rfl⟩
      rw [List.cons_append, List.cons_append, exponent?, if_pos hc, hread]
      rfl

/-! ## What is read is a number -/

theorem fraction_of_read (cs : List Char) :
    ∃ text, Fraction text (((fraction? cs).map (·.1)).getD []) ∧
      cs = text ++ ((fraction? cs).map (·.2)).getD cs ∧ ((fraction? cs).isNone ↔ text = []) := by
  cases hread : fraction? cs with
  | none => exact ⟨[], .none, rfl, by simp⟩
  | some found =>
    obtain ⟨hplaces, -, hcut⟩ := fraction_eq_some_iff.mp hread
    exact ⟨'.' :: found.1, .places hplaces, hcut, by simp⟩

theorem exponent_of_read (cs : List Char) :
    ∃ text, Exponent text (((exponent? cs).map (·.1)).getD 0) ∧
      cs = text ++ ((exponent? cs).map (·.2)).getD cs ∧ ((exponent? cs).isNone ↔ text = []) := by
  cases hread : exponent? cs with
  | none => exact ⟨[], .none, rfl, by simp⟩
  | some found =>
    obtain ⟨text, hne, htext, -, hcut⟩ := exponent_eq_some_iff.mp hread
    exact ⟨text, htext, hcut, by simpa using hne⟩

theorem Fraction.places_eq_nil {places : List Char} (h : Fraction [] places) : places = [] := by
  cases h
  rfl

theorem numeral_of_unsignedNumber {negative : Bool} {cs : List Char} {j : Json} {rest : Rest}
    (h : unsignedNumber negative cs = .ok (j, rest)) :
    ∃ text, Numeral (sign negative ++ text) j ∧ cs = text ++ rest := by
  unfold unsignedNumber at h
  split at h
  · cases h
  · next whole after hread =>
    obtain ⟨hwhole, -, rfl⟩ := integerPart_eq_some_iff.mp hread
    obtain ⟨fraction, hfraction, hcut, hnone⟩ := fraction_of_read after
    obtain ⟨exponent, hexponent, hcut', hnone'⟩ :=
      exponent_of_read (((fraction? after).map (·.2)).getD after)
    simp only [ofDigits_map_digitValue] at h
    split at h
    · next hboth =>
      rw [Bool.and_eq_true, hnone, hnone'] at hboth
      obtain ⟨rfl, rfl⟩ := hboth
      split at h
      · obtain ⟨rfl, hrest⟩ := Prod.mk.inj (Except.ok.inj h)
        rw [hfraction.places_eq_nil, List.append_nil]
        refine ⟨whole, .int negative hwhole, ?_⟩
        rw [List.nil_append, hrest] at hcut'
        rw [hcut, List.nil_append, hcut']
      · cases h
    · next hboth =>
      obtain ⟨rfl, hrest⟩ := Prod.mk.inj (Except.ok.inj h)
      refine ⟨whole ++ (fraction ++ exponent), .real negative hwhole hfraction hexponent ?_, ?_⟩
      · rw [Bool.and_eq_true, hnone, hnone'] at hboth
        exact fun hnil => hboth (List.append_eq_nil_iff.mp hnil)
      · rw [hrest] at hcut'
        rw [hcut, hcut']
        simp only [List.append_assoc]

theorem numeral_of_number {cs : List Char} {j : Json} {rest : Rest}
    (h : number cs = .ok (j, rest)) : ∃ text, Numeral text j ∧ cs = text ++ rest := by
  unfold number at h
  split at h
  · obtain ⟨text, htext, rfl⟩ := numeral_of_unsignedNumber h
    exact ⟨'-' :: text, htext, rfl⟩
  · obtain ⟨text, htext, rfl⟩ := numeral_of_unsignedNumber h
    exact ⟨text, htext, rfl⟩

/-! ## A number is read -/

/-- The reader gets the result, or it gives the text up. -/
def Yields {α : Type} (r : Except ReadError α) (a : α) : Prop :=
  r = .ok a ∨ ∃ e, r = .error e ∧ e ≠ .malformed

theorem Delimited.ne {rest : List Char} (h : Delimited rest) {c : Char}
    (hc : c ∉ [' ', '\t', '\n', '\r', ',', ']', '}']) : rest.head? ≠ some c :=
  fun hhead => hc (h c hhead)

theorem Delimited.stops {rest : List Char} (h : Delimited rest) : Stops rest := fun c hc => by
  have hnone : [' ', '\t', '\n', '\r', ',', ']', '}'].all (!isDigit ·) = true := by decide
  simpa using List.all_eq_true.mp hnone c (h c hc)

theorem fraction_eq_none {cs : List Char} (h : cs.head? ≠ some '.') : fraction? cs = none := by
  rw [fraction?]
  rintro tail rfl
  exact h rfl

theorem exponent_eq_none {cs : List Char} (h : cs.head? ≠ some 'e') (h' : cs.head? ≠ some 'E') :
    exponent? cs = none := by
  cases cs with
  | nil => rfl
  | cons c cs =>
    simp only [List.head?_cons, ne_eq, Option.some.injEq] at h h'
    rw [exponent?.eq_def]
    simp [h, h']

/-- What an exponent begins with, or what stands behind a number. -/
theorem head_of_exponent {text : List Char} {n : Int} {rest : List Char} (h : Exponent text n)
    (hrest : Delimited rest) : Stops (text ++ rest) ∧ (text ++ rest).head? ≠ some '.' := by
  have hletter : ∀ {c : Char} {cs : List Char}, c = 'e' ∨ c = 'E' →
      Stops (c :: cs) ∧ (c :: cs).head? ≠ some '.' := by
    intro c cs hc
    refine ⟨fun d hd => ?_, fun hd => ?_⟩
    · obtain rfl : c = d := by simpa using hd
      obtain rfl | rfl := hc <;> decide
    · obtain rfl : c = '.' := by simpa using hd
      simp at hc
  cases h with
  | none => exact ⟨hrest.stops, hrest.ne (by decide)⟩
  | unsigned hc _ => exact hletter hc
  | plus hc _ => exact hletter hc
  | minus hc _ => exact hletter hc

theorem unsignedNumber_of_int (negative : Bool) {whole rest : List Char} (h : Whole whole)
    (hrest : Delimited rest) :
    Yields (unsignedNumber negative (whole ++ rest))
      (.int (signed negative (decimalValue whole)), rest) := by
  have hwhole := integerPart_eq_some_iff.mpr ⟨h, .inr hrest.stops, rfl⟩
  have hfraction := fraction_eq_none (hrest.ne (c := '.') (by decide))
  have hexponent := exponent_eq_none (hrest.ne (c := 'e') (by decide))
    (hrest.ne (c := 'E') (by decide))
  rw [unsignedNumber, hwhole]
  simp only [hfraction, Option.map_none, Option.getD_none, hexponent, Option.isNone_none,
    Bool.and_self, if_true, List.append_nil, ofDigits_map_digitValue]
  split
  · exact .inl rfl
  · exact .inr ⟨_, rfl, by simp⟩

theorem fraction_read {text places tail : List Char} (h : Fraction text places)
    (hstops : Stops tail) (hpoint : tail.head? ≠ some '.') :
    ((fraction? (text ++ tail)).map (·.1)).getD [] = places ∧
      ((fraction? (text ++ tail)).map (·.2)).getD (text ++ tail) = tail ∧
      ((fraction? (text ++ tail)).isNone ↔ text = []) := by
  cases h with
  | none =>
    rw [List.nil_append, fraction_eq_none hpoint]
    simp
  | places hplaces =>
    rw [List.cons_append, fraction_eq_some_iff.mpr ⟨hplaces, hstops, rfl⟩]
    simp

theorem exponent_read {text : List Char} {n : Int} {rest : List Char} (h : Exponent text n)
    (hrest : Delimited rest) :
    ((exponent? (text ++ rest)).map (·.1)).getD 0 = n ∧
      ((exponent? (text ++ rest)).map (·.2)).getD (text ++ rest) = rest ∧
      ((exponent? (text ++ rest)).isNone ↔ text = []) := by
  by_cases hnil : text = []
  · subst hnil
    cases h
    rw [List.nil_append, exponent_eq_none (hrest.ne (by decide)) (hrest.ne (by decide))]
    simp
  · rw [exponent_eq_some_iff.mpr ⟨text, hnil, h, hrest.stops, rfl⟩]
    simp [hnil]

/-- Behind the digits in front of the point comes no digit. -/
theorem stops_of_parts {fraction places exponent rest : List Char} {power : Int}
    (hfraction : Fraction fraction places) (hexponent : Exponent exponent power)
    (hrest : Delimited rest) : Stops (fraction ++ (exponent ++ rest)) := by
  cases hfraction with
  | none => exact (head_of_exponent hexponent hrest).1
  | places _ =>
    intro c hc
    obtain rfl : '.' = c := by simpa using hc
    decide

theorem unsignedNumber_of_real (negative : Bool) {whole fraction places exponent rest : List Char}
    {power : Int} (hwhole : Whole whole) (hfraction : Fraction fraction places)
    (hexponent : Exponent exponent power) (hne : fraction ++ exponent ≠ [])
    (hrest : Delimited rest) :
    unsignedNumber negative (whole ++ (fraction ++ (exponent ++ rest))) =
      .ok (.real (.decimal negative (decimalValue (whole ++ places)) (power - places.length)),
        rest) := by
  have hread := integerPart_eq_some_iff.mpr
    ⟨hwhole, .inr (stops_of_parts hfraction hexponent hrest), rfl⟩
  obtain ⟨hstops, hpoint⟩ := head_of_exponent hexponent hrest
  obtain ⟨hplaces, hafter, hnone⟩ := fraction_read hfraction hstops hpoint
  obtain ⟨hpower, hlast, hnone'⟩ := exponent_read hexponent hrest
  have hboth : ¬((fraction? (fraction ++ (exponent ++ rest))).isNone &&
      (exponent? (exponent ++ rest)).isNone) := by
    rw [Bool.and_eq_true, hnone, hnone']
    rintro ⟨rfl, rfl⟩
    exact hne rfl
  rw [unsignedNumber, hread]
  simp only [hplaces, hafter, hpower, hlast, ofDigits_map_digitValue]
  rw [if_neg hboth]

theorem number_of_whole {whole : List Char} (h : Whole whole) (negative : Bool) (tail : List Char) :
    number (sign negative ++ (whole ++ tail)) = unsignedNumber negative (whole ++ tail) := by
  cases negative with
  | true => rfl
  | false =>
    obtain ⟨c, more, rfl⟩ := List.exists_cons_of_ne_nil h.1.1
    rw [sign, if_neg (by decide), List.nil_append, number]
    exact fun _ heq => ne_of_decimal h.1 (by decide) (List.cons.inj heq).1

theorem number_of_numeral {text : List Char} {j : Json} {rest : List Char} (h : Numeral text j)
    (hrest : Delimited rest) : Yields (number (text ++ rest)) (j, rest) := by
  cases h with
  | int negative hwhole =>
    rw [List.append_assoc, number_of_whole hwhole]
    exact unsignedNumber_of_int negative hwhole hrest
  | real negative hwhole hfraction hexponent hne =>
    rw [List.append_assoc, List.append_assoc, List.append_assoc, number_of_whole hwhole]
    exact .inl (unsignedNumber_of_real negative hwhole hfraction hexponent hne hrest)

end EnclaveFleet.Json
