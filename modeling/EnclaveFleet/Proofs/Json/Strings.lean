import EnclaveFleet.Json.Reader
import EnclaveFleet.Proofs.Json.Grammar

/-!
# Reading strings

* `hexPoint_eq_some_iff`, `escaped_eq_some_iff`: the escapes of the reader are those of the grammar
* `spells_of_stringTail`: what is read is the inside of a string
* `stringTail_of_spells`: and the inside of a string is read, whatever comes behind it
-/
namespace EnclaveFleet.Json
set_option autoImplicit false

/-! ## Escapes -/

theorem bounds_of_hexDigit {c : Char} {n : Nat} (h : hexDigit? c = some n) :
    c.toNat < 0x80 ∧ n < 16 := by
  have hle : ∀ x y : Char, x ≤ y ↔ x.toNat ≤ y.toNat := fun x y => UInt32.le_iff_toNat_le
  have h0 : '0'.toNat = 48 := rfl
  have h9 : '9'.toNat = 57 := rfl
  have ha : 'a'.toNat = 97 := rfl
  have hf : 'f'.toNat = 102 := rfl
  have hA : 'A'.toNat = 65 := rfl
  have hF : 'F'.toNat = 70 := rfl
  simp only [hexDigit?, hle, h0, h9, ha, hf, hA, hF] at h
  split at h
  · have hn := Option.some.inj h
    omega
  · split at h
    · have hn := Option.some.inj h
      omega
    · split at h
      · have hn := Option.some.inj h
        omega
      · cases h

theorem hexDigit_eq_some_iff {c : Char} {n : Nat} : hexDigit? c = some n ↔ HexDigit c n := by
  constructor
  · intro h
    have hsmall : ∀ k < 0x80, ∀ n < 16, hexDigit? (Char.ofNat k) = some n →
        HexDigit (Char.ofNat k) n := by
      unfold HexDigit
      decide +kernel
    obtain ⟨hc, hn⟩ := bounds_of_hexDigit h
    have hdigit := hsmall c.toNat hc n hn
    rw [Char.ofNat_toNat] at hdigit
    exact hdigit h
  · have hlower : ∀ n < 16, "0123456789abcdef".toList[n]?.all (hexDigit? · = some n) := by
      decide +kernel
    have hupper : ∀ n < 16, "0123456789ABCDEF".toList[n]?.all (hexDigit? · = some n) := by
      decide +kernel
    rintro (h | h)
    · obtain ⟨hn, -⟩ := List.getElem?_eq_some_iff.mp h
      have hdigit := hlower n hn
      rw [h] at hdigit
      exact of_decide_eq_true hdigit
    · obtain ⟨hn, -⟩ := List.getElem?_eq_some_iff.mp h
      have hdigit := hupper n hn
      rw [h] at hdigit
      exact of_decide_eq_true hdigit

theorem hexPoint_eq_some_iff {a b c d : Char} {n : Nat} :
    hexPoint? a b c d = some n ↔ HexPoint a b c d n := by
  have hvalue : ∀ w x y z : Nat,
      Nat.ofDigits 16 [z, y, x, w] = w * 0x1000 + x * 0x100 + y * 0x10 + z := fun w x y z => by
    simp only [Nat.ofDigits_cons, Nat.ofDigits_nil]
    omega
  simp only [hexPoint?, Option.bind_eq_bind, Option.bind_eq_some_iff, hexDigit_eq_some_iff,
    HexPoint, hvalue, pure, Option.some.injEq]
  constructor
  · rintro ⟨w, hw, x, hx, y, hy, z, hz, rfl⟩
    exact ⟨w, x, y, z, hw, hx, hy, hz, rfl⟩
  · rintro ⟨w, x, y, z, hw, hx, hy, hz, rfl⟩
    exact ⟨w, hw, x, hx, y, hy, z, hz, rfl⟩

theorem escaped_eq_some_iff {c e : Char} : escaped? c = some e ↔ (c, e) ∈ escapes := by
  unfold escaped?
  split <;> simp_all [escapes, eq_comm]

/-! ## What is read is a string -/

theorem spells_of_stringTail {cs : List Char} {found : List Char} {rest : Rest}
    (h : stringTail cs = some (found, rest)) :
    ∃ body, cs = body ++ '"' :: rest ∧ Spells body found := by
  induction cs using stringTail.induct generalizing found with
  | case1 =>
    rw [stringTail] at h
    cases h
  | case2 tail =>
    rw [stringTail] at h
    cases h
    exact ⟨[], rfl, .nil⟩
  | case3 a b c d e f g k later ihlater ihrest =>
    rw [stringTail] at h
    simp only [Option.bind_eq_bind, Option.bind_eq_some_iff, hexPoint_eq_some_iff] at h
    obtain ⟨n, hn, m, hm, h⟩ := h
    split at h
    · next hpair =>
      rw [Bool.and_eq_true] at hpair
      obtain ⟨⟨inner, after⟩, hinner, h⟩ := Option.bind_eq_some_iff.mp h
      obtain ⟨rfl, rfl⟩ := Prod.mk.inj (Option.some.inj h)
      obtain ⟨body, rfl, hbody⟩ := ihlater hinner
      exact ⟨_, rfl, .pair hn hm hpair.1 hpair.2 hbody⟩
    · next halone =>
      obtain ⟨⟨inner, after⟩, hinner, h⟩ := Option.bind_eq_some_iff.mp h
      obtain ⟨rfl, rfl⟩ := Prod.mk.inj (Option.some.inj h)
      obtain ⟨body, hcut, hbody⟩ := ihrest hinner
      refine ⟨'\\' :: 'u' :: a :: b :: c :: d :: body, by rw [hcut]; rfl, .point hn ?_ hbody⟩
      rintro hhigh e' f' g' k' m' later' rfl hm' hlow
      obtain ⟨rfl, rfl, rfl, rfl, -⟩ : e = e' ∧ f = f' ∧ g = g' ∧ k = k' ∧ later = later' ++ _ := by
        simpa using hcut
      have heq : some m = some m' :=
        (hexPoint_eq_some_iff.mpr hm).symm.trans (hexPoint_eq_some_iff.mpr hm')
      cases heq
      exact halone (by rw [hhigh, hlow]; rfl)
  | case4 a b c d tail hnext ih =>
    rw [stringTail] at h
    · simp only [Option.bind_eq_bind, Option.bind_eq_some_iff, hexPoint_eq_some_iff] at h
      obtain ⟨n, hn, ⟨inner, after⟩, hinner, h⟩ := h
      obtain ⟨rfl, rfl⟩ := Prod.mk.inj (Option.some.inj h)
      obtain ⟨body, rfl, hbody⟩ := ih hinner
      refine ⟨_, rfl, .point hn ?_ hbody⟩
      rintro - e f g k m later rfl
      exact absurd rfl (hnext e f g k _)
    · exact hnext
  | case5 c tail hnext hnext' ih =>
    rw [stringTail] at h
    · simp only [Option.bind_eq_bind, Option.bind_eq_some_iff, escaped_eq_some_iff] at h
      obtain ⟨e, he, ⟨inner, after⟩, hinner, h⟩ := h
      obtain ⟨rfl, rfl⟩ := Prod.mk.inj (Option.some.inj h)
      obtain ⟨body, rfl, hbody⟩ := ih hinner
      exact ⟨_, rfl, .escape he hbody⟩
    · exact hnext
    · exact hnext'
  | case6 c tail hquote h1 h2 h3 hlow =>
    rw [stringTail, if_pos hlow] at h
    · cases h
    all_goals assumption
  | case7 c tail hquote h1 h2 h3 hlow ih =>
    rw [stringTail, if_neg hlow] at h
    · obtain ⟨⟨inner, after⟩, hinner, h⟩ := Option.bind_eq_some_iff.mp h
      obtain ⟨rfl, rfl⟩ := Prod.mk.inj (Option.some.inj h)
      have hslash : c ≠ '\\' := fun hc => by
        cases tail with
        | nil =>
          rw [stringTail] at hinner
          cases hinner
        | cons d tail => exact h3 d tail hc rfl
      obtain ⟨body, rfl, hbody⟩ := ih hinner
      exact ⟨c :: body, rfl, .plain (by omega) hquote hslash hbody⟩
    all_goals assumption

/-! ## A string is read -/

theorem u_notMem_escapes {e : Char} : ('u', e) ∉ escapes := by
  simp [escapes]

/-- Behind a backslash and a `u` the inside of a string goes on with four digits. -/
theorem hexPoint_of_spells {body found later : List Char} {rest : Rest} {e f g k : Char}
    (h : Spells body found)
    (hcut : body ++ '"' :: rest = '\\' :: 'u' :: e :: f :: g :: k :: later) :
    ∃ m body', HexPoint e f g k m ∧ body = '\\' :: 'u' :: e :: f :: g :: k :: body' := by
  cases h with
  | nil => exact absurd (List.cons.inj hcut).1 (by decide)
  | plain _ _ hslash _ => exact absurd (List.cons.inj hcut).1 hslash
  | escape he _ =>
    obtain rfl := (List.cons.inj (List.cons.inj hcut).2).1
    exact absurd he u_notMem_escapes
  | @pair a b c d _ _ _ _ n _ body _ hn _ _ _ _ =>
    obtain ⟨rfl, rfl, rfl, rfl, -⟩ : a = e ∧ b = f ∧ c = g ∧ d = k ∧ _ = later := by
      simpa using hcut
    exact ⟨n, _, hn, rfl⟩
  | @point a b c d n body _ hn _ _ =>
    obtain ⟨rfl, rfl, rfl, rfl, -⟩ : a = e ∧ b = f ∧ c = g ∧ d = k ∧ _ = later := by
      simpa using hcut
    exact ⟨n, body, hn, rfl⟩

theorem stringTail_of_spells {body found : List Char} (h : Spells body found) (rest : Rest) :
    stringTail (body ++ '"' :: rest) = some (found, rest) := by
  induction h with
  | nil => rw [List.nil_append, stringTail]
  | @plain c body cs hlow hquote hslash _ ih =>
    rw [List.cons_append, stringTail, if_neg (by omega), ih]
    · rfl
    · exact hquote
    all_goals
      intros
      contradiction
  | @escape c e body cs he _ ih =>
    have hu : c ≠ 'u' := by
      rintro rfl
      exact u_notMem_escapes he
    rw [List.cons_append, List.cons_append, stringTail, escaped_eq_some_iff.mpr he, ih]
    · rfl
    all_goals
      intros
      contradiction
  | @pair a b c d e f g k n m body cs hn hm hhigh hlow _ ih =>
    simp only [List.cons_append]
    rw [stringTail, hexPoint_eq_some_iff.mpr hn, hexPoint_eq_some_iff.mpr hm, ih]
    simp [hhigh, hlow]
  | @point a b c d n body cs hn halone hbody ih =>
    simp only [List.cons_append]
    -- the reader looks at two escapes in a row together
    by_cases hnext : ∃ e f g k later, body ++ '"' :: rest = '\\' :: 'u' :: e :: f :: g :: k :: later
    · obtain ⟨e, f, g, k, later, hcut⟩ := hnext
      obtain ⟨m, body', hm, rfl⟩ := hexPoint_of_spells hbody hcut
      have hpair : ¬(Points.isHigh n && Points.isLow m) := fun hpair => by
        rw [Bool.and_eq_true] at hpair
        exact halone hpair.1 e f g k m body' rfl hm hpair.2
      simp only [List.cons_append] at ih ⊢
      rw [stringTail, hexPoint_eq_some_iff.mpr hn, hexPoint_eq_some_iff.mpr hm, ih]
      simp only [Option.bind_eq_bind, Option.bind_some]
      rw [if_neg hpair]
      rfl
    · rw [stringTail, hexPoint_eq_some_iff.mpr hn, ih]
      · rfl
      · exact fun e f g k later hcut => hnext ⟨e, f, g, k, later, hcut⟩

end EnclaveFleet.Json
