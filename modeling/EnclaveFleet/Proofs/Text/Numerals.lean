import EnclaveFleet.Proofs.Text.Trimming
import EnclaveFleet.Text.Numeral
import Mathlib.Data.Nat.Digits.Defs

/-!
# The grammar of integer numerals

* `Numeral.Digits`, `Numeral.Sign`: the parts of a numeral
* `Numeral.Denotes pad cs n`: the text is a numeral of the integer, with characters of the class
  `pad` around it
* `Numeral.parse?_eq_some_iff`: the integers that are read are those that the texts denote, with the
  blanks around them that may stand there
* `Numeral.denotes_toString`: the decimal text of an integer denotes it
-/
namespace EnclaveFleet.Text
set_option autoImplicit false

/-! ## Decimal digits -/

theorem exists_of_digit {c : Char} {d : Nat} (h : digit? c = some d) :
    ∃ z ∈ scriptZeros, d < 10 ∧ c.toNat = z + d := by
  unfold digit? at h
  obtain ⟨z, hz, rfl⟩ := Option.map_eq_some_iff.mp h
  have hrange := List.find?_some hz
  simp only [Bool.and_eq_true, decide_eq_true_eq] at hrange
  exact ⟨z, List.mem_of_find?_eq_some hz, by omega, by omega⟩

/-- What can be computed for the digits of all scripts holds of them. -/
theorem holds_of_digit {p : Char → Bool}
    (hall : (scriptZeros.all fun z => (List.range 10).all fun d => p (Char.ofNat (z + d))) = true)
    {c : Char} {d : Nat} (h : digit? c = some d) : p c := by
  obtain ⟨z, hz, hd, hc⟩ := exists_of_digit h
  have hscript := List.all_eq_true.mp hall z hz
  have hdigit := List.all_eq_true.mp hscript d (List.mem_range.mpr hd)
  rw [← hc, Char.ofNat_toNat] at hdigit
  exact hdigit

theorem isBlank_of_digit {c : Char} {d : Nat} (h : digit? c = some d) : isBlank c = false := by
  have hnot := holds_of_digit (p := fun c => !isBlank c) (by decide +kernel) h
  simpa using hnot

theorem digit_of_isDigit {c : Char} (h : c.isDigit) :
    digit? c = some (c.toNat - '0'.toNat) := by
  have hrange : 0x30 ≤ c.toNat ∧ c.toNat < 0x30 + 10 := by
    simp only [Char.isDigit, Bool.and_eq_true, decide_eq_true_eq, ge_iff_le,
      UInt32.le_iff_toNat_le] at h
    have hzero : '0'.val.toNat = 48 := rfl
    have hnine : '9'.val.toNat = 57 := rfl
    have hnat : c.toNat = c.val.toNat := rfl
    omega
  unfold digit? scriptZeros
  rw [List.find?_cons_of_pos (by simpa using hrange)]
  rfl

namespace Numeral

/-! ## The grammar -/

/-- Decimal digits and their values, with single underscores between them. -/
inductive Digits : List Char → List Nat → Prop
  | last {c : Char} {d : Nat} (h : digit? c = some d) : Digits [c] [d]
  | next {c : Char} {d : Nat} {cs : List Char} {ds : List Nat} (h : digit? c = some d)
      (hrest : Digits cs ds) : Digits (c :: cs) (d :: ds)
  | parted {c : Char} {d : Nat} {cs : List Char} {ds : List Nat} (h : digit? c = some d)
      (hrest : Digits cs ds) : Digits (c :: '_' :: cs) (d :: ds)

inductive Sign : List Char → Int → Prop
  | none : Sign [] 1
  | plus : Sign ['+'] 1
  | minus : Sign ['-'] (-1)

inductive Denotes (pad : Char → Bool) : List Char → Int → Prop
  | numeral {before sign body after : List Char} {unit : Int} {ds : List Nat}
      (hbefore : ∀ c ∈ before, pad c) (hsign : Sign sign unit) (hbody : Digits body ds)
      (hlength : ds.length ≤ maxDigits) (hafter : ∀ c ∈ after, pad c) :
      Denotes pad (before ++ (sign ++ body) ++ after) (unit * (Nat.ofDigits 10 ds.reverse : Nat))

/-! ## Digits -/

/-- In front of the rest of a numeral a digit is counted, and an underscore behind it is not. -/
theorem digits?_cons_eq_some_iff {c : Char} {tail : Option (List Nat)} {ds : List Nat} :
    (do return (← digit? c) :: (← tail)) = some ds ↔
      ∃ d more, digit? c = some d ∧ tail = some more ∧ ds = d :: more := by
  simp only [Option.pure_def, Option.bind_eq_bind, Option.bind_eq_some_iff, Option.some.injEq]
  constructor
  · rintro ⟨d, hd, more, hmore, rfl⟩
    exact ⟨d, more, hd, hmore, rfl⟩
  · rintro ⟨d, more, hd, hmore, rfl⟩
    exact ⟨d, hd, more, hmore, rfl⟩

theorem Digits.head {cs : List Char} {ds : List Nat} (h : Digits cs ds) :
    ∃ c rest, cs = c :: rest ∧ (digit? c).isSome := by
  cases h with
  | last h => exact ⟨_, _, rfl, by rw [h]; rfl⟩
  | next h _ => exact ⟨_, _, rfl, by rw [h]; rfl⟩
  | parted h _ => exact ⟨_, _, rfl, by rw [h]; rfl⟩

theorem Digits.ne_cons {cs : List Char} {ds : List Nat} (h : Digits cs ds) {e : Char}
    (he : digit? e = none) (rest : List Char) : cs ≠ e :: rest := by
  rintro rfl
  obtain ⟨c, more, hcons, hdigit⟩ := h.head
  rw [← (List.cons.inj hcons).1, he] at hdigit
  cases hdigit

theorem digits_of_read {cs : List Char} {ds : List Nat} (h : digits? cs = some ds) :
    Digits cs ds := by
  fun_induction digits? cs generalizing ds with
  | case1 => cases h
  | case2 c =>
    obtain ⟨d, hd, rfl⟩ := Option.map_eq_some_iff.mp h
    exact .last hd
  | case3 c rest ih =>
    obtain ⟨d, more, hd, hmore, rfl⟩ := digits?_cons_eq_some_iff.mp h
    exact .parted hd (ih hmore)
  | case4 c e rest _ ih =>
    obtain ⟨d, more, hd, hmore, rfl⟩ := digits?_cons_eq_some_iff.mp h
    exact .next hd (ih hmore)

theorem read_of_digits {cs : List Char} {ds : List Nat} (h : Digits cs ds) :
    digits? cs = some ds := by
  induction h with
  | last h =>
    rw [digits?, h]
    rfl
  | @next c d cs ds h hrest ih =>
    obtain ⟨e, rest, rfl, -⟩ := hrest.head
    rw [digits?]
    · exact digits?_cons_eq_some_iff.mpr ⟨d, ds, h, ih, rfl⟩
    · rintro rfl
      exact hrest.ne_cons (by decide) rest rfl
  | @parted c d cs ds h hrest ih =>
    rw [digits?]
    exact digits?_cons_eq_some_iff.mpr ⟨d, ds, h, ih, rfl⟩

theorem Digits.cases_of_mem {cs : List Char} {ds : List Nat} (h : Digits cs ds) {c : Char}
    (hc : c ∈ cs) : c = '_' ∨ ∃ d, digit? c = some d := by
  induction h with
  | last h =>
    rw [List.mem_singleton.mp hc]
    exact .inr ⟨_, h⟩
  | next h _ ih =>
    obtain rfl | hc := List.mem_cons.mp hc
    · exact .inr ⟨_, h⟩
    · exact ih hc
  | parted h _ ih =>
    obtain rfl | hc := List.mem_cons.mp hc
    · exact .inr ⟨_, h⟩
    · obtain rfl | hc := List.mem_cons.mp hc
      · exact .inl rfl
      · exact ih hc

/-! ## Values -/

theorem ofDigits_eq (ds : List Nat) : ofDigits ds = Nat.ofDigits 10 ds.reverse := by
  induction ds using List.reverseRecOn with
  | nil => rfl
  | append_singleton ds d ih =>
    have hstep : ofDigits (ds ++ [d]) = 10 * ofDigits ds + d := by simp [ofDigits]
    rw [hstep, ih, List.reverse_append, List.reverse_singleton, List.singleton_append,
      Nat.ofDigits_cons, Nat.add_comm]

theorem magnitude?_eq_some_iff {cs : List Char} {n : Nat} :
    magnitude? cs = some n ↔
      ∃ ds, Digits cs ds ∧ ds.length ≤ maxDigits ∧ n = Nat.ofDigits 10 ds.reverse := by
  unfold magnitude?
  rw [Option.bind_eq_bind, Option.bind_eq_some_iff]
  constructor
  · rintro ⟨ds, hread, h⟩
    split at h
    · next hlength =>
      rw [← Option.some.inj h, ofDigits_eq]
      exact ⟨ds, digits_of_read hread, hlength, rfl⟩
    · cases h
  · rintro ⟨ds, hds, hlength, rfl⟩
    refine ⟨ds, read_of_digits hds, ?_⟩
    rw [if_pos hlength, ofDigits_eq]

/-! ## Signs -/

/-- A numeral without anything around it. -/
def Signed (cs : List Char) (n : Int) : Prop :=
  ∃ sign body unit ds, Sign sign unit ∧ Digits body ds ∧ ds.length ≤ maxDigits ∧
    cs = sign ++ body ∧ n = unit * (Nat.ofDigits 10 ds.reverse : Nat)

theorem signed_of_read {cs : List Char} {n : Int} (h : signed? cs = some n) : Signed cs n := by
  unfold signed? at h
  split at h
  · next rest =>
    obtain ⟨m, hm, rfl⟩ := Option.map_eq_some_iff.mp h
    obtain ⟨k, hk, hcast⟩ := Option.bind_eq_some_iff.mp hm
    obtain ⟨ds, hds, hlength, rfl⟩ := magnitude?_eq_some_iff.mp hk
    rw [← Option.some.inj hcast]
    exact ⟨['-'], rest, -1, ds, .minus, hds, hlength, rfl, by simp⟩
  · next rest =>
    obtain ⟨k, hk, rfl⟩ := Option.map_eq_some_iff.mp h
    obtain ⟨ds, hds, hlength, rfl⟩ := magnitude?_eq_some_iff.mp hk
    exact ⟨['+'], rest, 1, ds, .plus, hds, hlength, rfl, by simp⟩
  · obtain ⟨k, hk, rfl⟩ := Option.map_eq_some_iff.mp h
    obtain ⟨ds, hds, hlength, rfl⟩ := magnitude?_eq_some_iff.mp hk
    exact ⟨[], cs, 1, ds, .none, hds, hlength, rfl, by simp⟩

theorem read_of_signed {cs : List Char} {n : Int} (h : Signed cs n) : signed? cs = some n := by
  obtain ⟨sign, body, unit, ds, hsign, hbody, hlength, rfl, rfl⟩ := h
  have hread : magnitude? body = some (Nat.ofDigits 10 ds.reverse) :=
    magnitude?_eq_some_iff.mpr ⟨ds, hbody, hlength, rfl⟩
  cases hsign with
  | none =>
    rw [List.nil_append, signed?, hread]
    · simp
    · exact fun rest => hbody.ne_cons (by decide) rest
    · exact fun rest => hbody.ne_cons (by decide) rest
  | plus =>
    rw [List.singleton_append, signed?, hread]
    simp
  | minus =>
    rw [List.singleton_append, signed?, hread]
    simp

theorem bare_of_signed {cs : List Char} {n : Int} (h : Signed cs n) : Bare isPadding cs := by
  obtain ⟨sign, body, unit, ds, hsign, hbody, -, rfl, -⟩ := h
  apply bare_of_forall
  intro c hc
  obtain hc | hc := List.mem_append.mp hc
  · cases hsign with
    | none => cases hc
    | plus =>
      rw [List.mem_singleton.mp hc]
      decide
    | minus =>
      rw [List.mem_singleton.mp hc]
      decide
  · obtain rfl | ⟨d, hd⟩ := hbody.cases_of_mem hc
    · decide
    · rw [isPadding, isBlank_of_digit hd]
      rfl

/-! ## Whole texts -/

theorem denotes_iff {pad : Char → Bool} {cs : List Char} {n : Int} :
    Denotes pad cs n ↔ ∃ before core after, (∀ c ∈ before, pad c) ∧ Signed core n ∧
      (∀ c ∈ after, pad c) ∧ cs = before ++ core ++ after := by
  constructor
  · rintro ⟨hbefore, hsign, hbody, hlength, hafter⟩
    exact ⟨_, _, _, hbefore, ⟨_, _, _, _, hsign, hbody, hlength, rfl, rfl⟩, hafter, rfl⟩
  · rintro ⟨before, core, after, hbefore, ⟨sign, body, unit, ds, hsign, hbody, hlength, rfl, rfl⟩,
      hafter, rfl⟩
    exact .numeral hbefore hsign hbody hlength hafter

theorem parse?_eq_some_iff {cs : List Char} {n : Int} :
    parse? cs = some n ↔ Denotes isPadding cs n := by
  rw [denotes_iff]
  constructor
  · intro h
    obtain ⟨before, after, hbefore, hafter, hcut⟩ := exists_around isPadding cs
    exact ⟨before, _, after, hbefore, signed_of_read h, hafter, hcut⟩
  · rintro ⟨before, core, after, hbefore, hcore, hafter, rfl⟩
    unfold parse?
    rw [trimWhile_around (bare_of_signed hcore) hbefore hafter]
    exact read_of_signed hcore

theorem parse?_eq_none_iff {cs : List Char} :
    parse? cs = none ↔ ∀ n, ¬Denotes isPadding cs n := by
  rw [Option.eq_none_iff_forall_ne_some]
  simp only [ne_eq, parse?_eq_some_iff]

theorem not_allBlank_of_denotes {pad : Char → Bool} {cs : List Char} {n : Int}
    (h : Denotes pad cs n) : allBlank cs = false := by
  obtain ⟨_, _, hbody, _, _⟩ := h
  obtain ⟨c, rest, rfl, hdigit⟩ := hbody.head
  obtain ⟨d, hd⟩ := Option.isSome_iff_exists.mp hdigit
  simp [allBlank, isBlank_of_digit hd]

/-! ## Decimal texts -/

theorem digits_of_isDigit {cs : List Char} (hne : cs ≠ []) (h : ∀ c ∈ cs, c.isDigit) :
    Digits cs (cs.map fun c => c.toNat - '0'.toNat) := by
  induction cs with
  | nil => exact absurd rfl hne
  | cons c cs ih =>
    have hc : digit? c = some (c.toNat - '0'.toNat) := digit_of_isDigit (h c (by simp))
    by_cases hcs : cs = []
    · subst hcs
      exact .last hc
    · exact .next hc (ih hcs fun d hd => h d (by simp [hd]))

/-- The decimal digits of a number have its value. -/
theorem digits_repr (n : Nat) :
    ∃ ds, Digits n.repr.toList ds ∧ ds.length = (Nat.toDigits 10 n).length ∧
      Nat.ofDigits 10 ds.reverse = n := by
  rw [Nat.repr_eq_ofList_toDigits, String.toList_ofList]
  refine ⟨_, digits_of_isDigit Nat.toDigits_ne_nil ?_, List.length_map _, ?_⟩
  · intro c hc
    exact Nat.isDigit_of_mem_toDigits (by decide) (by decide) hc
  · rw [← ofDigits_eq, ofDigits, List.foldl_map]
    exact Nat.ofDigitChars_toDigits (by decide) (by decide)

theorem signed_toString {n : Int} (h : n.natAbs < 10 ^ maxDigits) :
    Signed (toString n).toList n := by
  have hlength : (Nat.toDigits 10 n.natAbs).length ≤ maxDigits :=
    Nat.toDigits_length 10 n.natAbs maxDigits (by decide) h
  obtain ⟨ds, hds, hcount, hvalue⟩ := digits_repr n.natAbs
  have hrepr : toString n = n.repr := rfl
  rw [hrepr, Int.repr_eq_if]
  rw [← hcount] at hlength
  by_cases hn : 0 ≤ n
  · have habs : n.toNat = n.natAbs := by omega
    rw [if_pos hn, habs]
    refine ⟨[], _, 1, ds, .none, hds, hlength, rfl, ?_⟩
    rw [hvalue]
    omega
  · have habs : (-n).toNat = n.natAbs := by omega
    rw [if_neg hn, habs]
    refine ⟨['-'], _, -1, ds, .minus, hds, hlength, by simp, ?_⟩
    rw [hvalue]
    omega

theorem denotes_toString {pad : Char → Bool} {before after : List Char} {n : Int}
    (hn : n.natAbs < 10 ^ maxDigits) (hbefore : ∀ c ∈ before, pad c)
    (hafter : ∀ c ∈ after, pad c) : Denotes pad (before ++ (toString n).toList ++ after) n :=
  denotes_iff.mpr ⟨before, _, after, hbefore, signed_toString hn, hafter, rfl⟩

end Numeral
end EnclaveFleet.Text
