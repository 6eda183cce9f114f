import EnclaveFleet.Bytes.Base64
import Mathlib.Algebra.Group.Nat.Defs
import Mathlib.Data.List.Basic

/-!
# Base64 as a regrouping of bits

RFC 4648, section 4, says what text stands for some bytes: their bits in groups of six, with zeros to
fill the last group, a letter for each group, and padding to fill the last four letters.

* `bits`, `bits_append`: the bits of a number, cut in two
* `flatMap_injective`: groups of one width are found again
* `alphabet`, `letter`: table 1 of the RFC
* `Writes text bytes`: the text stands for the bytes
* `Writes.bytes_unique`, `Writes.text_unique`: in both directions there is one only
* `writes_iff`, `decode_eq_some_iff`: `encode` and `decode?` are the two directions
-/
namespace EnclaveFleet.Base64
set_option autoImplicit false

/-! ## Bits -/

/-- The lowest bits of a number, the highest of them first. -/
def bits : Nat → Nat → List Bool
  | 0, _ => []
  | width + 1, n => bits width (n / 2) ++ [decide (n % 2 = 1)]

theorem length_bits (width n : Nat) : (bits width n).length = width := by
  induction width generalizing n with
  | zero => rfl
  | succ width ih => rw [bits, List.length_append, ih, List.length_singleton]

theorem bits_append (high low x : Nat) {y : Nat} (h : y < 2 ^ low) :
    bits (high + low) (x * 2 ^ low + y) = bits high x ++ bits low y := by
  induction low generalizing y with
  | zero =>
    obtain rfl : y = 0 := by omega
    simp [bits]
  | succ low ih =>
    have hpow : x * 2 ^ (low + 1) = 2 * (x * 2 ^ low) := by
      rw [Nat.pow_succ, ← Nat.mul_assoc, Nat.mul_comm]
    have hhalf : (x * 2 ^ (low + 1) + y) / 2 = x * 2 ^ low + y / 2 := by omega
    have hlast : (x * 2 ^ (low + 1) + y) % 2 = y % 2 := by omega
    have hy : y / 2 < 2 ^ low := by
      rw [Nat.pow_succ] at h
      omega
    rw [← Nat.add_assoc, bits, hhalf, hlast, ih hy, bits, List.append_assoc]

theorem bits_zero (width : Nat) : bits width 0 = List.replicate width false := by
  induction width with
  | zero => rfl
  | succ width ih => rw [bits, Nat.zero_div, ih, List.replicate_succ']; rfl

theorem bits_injective {width x y : Nat} (hx : x < 2 ^ width) (hy : y < 2 ^ width)
    (h : bits width x = bits width y) : x = y := by
  induction width generalizing x y with
  | zero => omega
  | succ width ih =>
    rw [Nat.pow_succ] at hx hy
    obtain ⟨hhigh, hlow⟩ := List.append_inj' h rfl
    have hhalf : x / 2 = y / 2 := ih (by omega) (by omega) hhigh
    have hlast : (x % 2 = 1) ↔ (y % 2 = 1) := by simpa using hlow
    omega

/-- Groups of one width can be found again. -/
theorem flatMap_injective {α : Type} {width : Nat} (hwidth : 0 < width) {f : α → List Bool}
    (hlength : ∀ a, (f a).length = width) (hf : Function.Injective f) :
    Function.Injective (List.flatMap f) := by
  intro as
  induction as with
  | nil =>
    intro bs h
    cases bs with
    | nil => rfl
    | cons b bs =>
      have hb := congrArg List.length h
      simp only [List.flatMap_nil, List.flatMap_cons, List.length_append, List.length_nil,
        hlength] at hb
      omega
  | cons a as ih =>
    intro bs h
    cases bs with
    | nil =>
      have ha := congrArg List.length h
      simp only [List.flatMap_nil, List.flatMap_cons, List.length_append, List.length_nil,
        hlength] at ha
      omega
    | cons b bs =>
      rw [List.flatMap_cons, List.flatMap_cons] at h
      obtain ⟨hhead, htail⟩ := List.append_inj h (by rw [hlength, hlength])
      rw [hf hhead, ih htail]

theorem length_flatMap {α : Type} {width : Nat} {f : α → List Bool}
    (hlength : ∀ a, (f a).length = width) (as : List α) :
    (as.flatMap f).length = width * as.length := by
  induction as with
  | nil => rfl
  | cons a as ih => rw [List.flatMap_cons, List.length_append, hlength, ih, List.length_cons,
      Nat.mul_succ, Nat.add_comm]

/-! ## What a text stands for -/

/-- Table 1 of RFC 4648. -/
def alphabet : List Char :=
  "ABCDEFGHIJKLMNOPQRSTUVWXYZabcdefghijklmnopqrstuvwxyz0123456789+/".toList

def letter (value : Fin 64) : Char := alphabet.get (value.cast (by decide))

def valueBits (value : Fin 64) : List Bool := bits 6 value

def byteBits (b : UInt8) : List Bool := bits 8 b.toNat

def Writes (text : List Char) (bytes : List UInt8) : Prop :=
  ∃ (values : List (Fin 64)) (zeros pads : Nat), zeros < 6 ∧ pads < 4 ∧ 4 ∣ text.length ∧
    text = values.map letter ++ List.replicate pads '=' ∧
    values.flatMap valueBits = bytes.flatMap byteBits ++ List.replicate zeros false

/-! ## One text and one list of bytes -/

theorem symbol_eq_letter : ∀ value : Fin 64, symbol value = letter value := by
  decide +kernel

theorem symbolValue_letter : ∀ value : Fin 64, symbolValue? (letter value) = some value.val := by
  decide +kernel

theorem letter_ne_pad : ∀ value : Fin 64, letter value ≠ '=' := by
  decide +kernel

theorem letter_injective : Function.Injective letter := fun v w h => by
  have hv := symbolValue_letter v
  rw [h, symbolValue_letter w] at hv
  exact Fin.ext (Option.some.inj hv).symm

theorem length_valueBits (v : Fin 64) : (valueBits v).length = 6 := length_bits 6 v

theorem length_byteBits (b : UInt8) : (byteBits b).length = 8 := length_bits 8 b.toNat

theorem flatMap_valueBits_injective : Function.Injective (List.flatMap valueBits) :=
  flatMap_injective (by decide) length_valueBits fun v w h =>
    Fin.ext (bits_injective v.isLt w.isLt h)

theorem flatMap_byteBits_injective : Function.Injective (List.flatMap byteBits) :=
  flatMap_injective (by decide) length_byteBits fun a b h =>
    UInt8.toNat_inj.mp (bits_injective a.toNat_lt b.toNat_lt h)

theorem takeWhile_letters (values : List (Fin 64)) (pads : Nat) :
    (values.map letter ++ List.replicate pads '=').takeWhile (· ≠ '=') = values.map letter := by
  have hletters : ∀ c ∈ values.map letter, (decide (c ≠ '=')) = true := fun c hc => by
    obtain ⟨v, -, rfl⟩ := List.mem_map.mp hc
    simpa using letter_ne_pad v
  rw [List.takeWhile_append_of_pos hletters, List.takeWhile_replicate]
  simp

theorem length_eq_of_regrouped {values : List (Fin 64)} {bytes : List UInt8} {zeros : Nat}
    (h : values.flatMap valueBits = bytes.flatMap byteBits ++ List.replicate zeros false) :
    6 * values.length = 8 * bytes.length + zeros := by
  have hlength := congrArg List.length h
  rwa [List.length_append, List.length_replicate, length_flatMap length_valueBits,
    length_flatMap length_byteBits] at hlength

theorem Writes.bytes_unique {text : List Char} {bytes other : List UInt8} (h : Writes text bytes)
    (hother : Writes text other) : bytes = other := by
  obtain ⟨values, zeros, pads, hzeros, -, -, rfl, hbits⟩ := h
  obtain ⟨values', zeros', pads', hzeros', -, -, htext, hbits'⟩ := hother
  have hvalues : values = values' := by
    have hletters := congrArg (List.takeWhile (· ≠ '=')) htext
    rw [takeWhile_letters, takeWhile_letters] at hletters
    exact List.map_injective_iff.mpr letter_injective hletters
  subst hvalues
  have hlength := length_eq_of_regrouped hbits
  have hlength' := length_eq_of_regrouped hbits'
  obtain rfl : zeros = zeros' := by omega
  rw [hbits] at hbits'
  exact flatMap_byteBits_injective (List.append_cancel_right hbits')

theorem Writes.text_unique {text other : List Char} {bytes : List UInt8} (h : Writes text bytes)
    (hother : Writes other bytes) : text = other := by
  obtain ⟨values, zeros, pads, hzeros, hpads, hfour, rfl, hbits⟩ := h
  obtain ⟨values', zeros', pads', hzeros', hpads', hfour', rfl, hbits'⟩ := hother
  have hlength := length_eq_of_regrouped hbits
  have hlength' := length_eq_of_regrouped hbits'
  obtain rfl : zeros = zeros' := by omega
  obtain rfl : values = values' := flatMap_valueBits_injective (hbits.trans hbits'.symm)
  simp only [List.length_append, List.length_map, List.length_replicate] at hfour hfour'
  obtain rfl : pads = pads' := by omega
  rfl

theorem Writes.length_eq {text : List Char} {bytes : List UInt8} (h : Writes text bytes) :
    text.length = 4 * ((bytes.length + 2) / 3) := by
  obtain ⟨values, zeros, pads, hzeros, hpads, hfour, rfl, hbits⟩ := h
  have hlength := length_eq_of_regrouped hbits
  simp only [List.length_append, List.length_map, List.length_replicate] at hfour ⊢
  omega

/-- Padding stands at the end only, and less than three times. -/
theorem Writes.padded {text : List Char} {bytes : List UInt8} (h : Writes text bytes) :
    ∃ letters pads, pads < 3 ∧ (∀ c ∈ letters, c ∈ alphabet) ∧
      text = letters ++ List.replicate pads '=' := by
  obtain ⟨values, zeros, pads, hzeros, hpads, hfour, rfl, hbits⟩ := h
  have hlength := length_eq_of_regrouped hbits
  simp only [List.length_append, List.length_map, List.length_replicate] at hfour
  refine ⟨values.map letter, pads, by omega, fun c hc => ?_, rfl⟩
  obtain ⟨v, -, rfl⟩ := List.mem_map.mp hc
  exact List.get_mem alphabet _

/-! ## Encoding -/

theorem bits_cut (high low n : Nat) :
    bits (high + low) n = bits high (n / 2 ^ low) ++ bits low (n % 2 ^ low) := by
  rw [← bits_append high low _ (Nat.mod_lt n (Nat.two_pow_pos low)), Nat.div_add_mod']

theorem byteBits_six_two (a : UInt8) :
    byteBits a = bits 6 (a.toNat / 4) ++ bits 2 (a.toNat % 4) := bits_cut 6 2 a.toNat

theorem byteBits_four_four (b : UInt8) :
    byteBits b = bits 4 (b.toNat / 16) ++ bits 4 (b.toNat % 16) := bits_cut 4 4 b.toNat

theorem byteBits_two_six (c : UInt8) :
    byteBits c = bits 2 (c.toNat / 64) ++ bits 6 (c.toNat % 64) := bits_cut 2 6 c.toNat

theorem bits_two_four (x : Nat) {y : Nat} (hy : y < 16) :
    bits 6 (x * 16 + y) = bits 2 x ++ bits 4 y := bits_append 2 4 x hy

theorem bits_four_two (x : Nat) {y : Nat} (hy : y < 4) :
    bits 6 (x * 4 + y) = bits 4 x ++ bits 2 y := bits_append 4 2 x hy

theorem symbol_of_lt {n : Nat} (h : n < 64) : symbol n = letter ⟨n, h⟩ := symbol_eq_letter ⟨n, h⟩

theorem Writes.cons_group {text : List Char} {bytes : List UInt8} (h : Writes text bytes)
    {values : List (Fin 64)} {group : List UInt8} (hfour : values.length = 4)
    (hgroup : values.flatMap valueBits = group.flatMap byteBits) :
    Writes (values.map letter ++ text) (group ++ bytes) := by
  obtain ⟨rest, zeros, pads, hzeros, hpads, hrest, rfl, hbits⟩ := h
  refine ⟨values ++ rest, zeros, pads, hzeros, hpads, ?_, ?_, ?_⟩
  · rw [List.length_append, List.length_map, hfour]
    exact (Nat.dvd_add_right (Nat.dvd_refl 4)).mpr hrest
  · rw [List.map_append, List.append_assoc]
  · rw [List.flatMap_append, List.flatMap_append, hgroup, hbits, List.append_assoc]

section groups

variable (a b c : UInt8)

theorem first_lt : a.toNat / 4 < 64 := by
  have ha := a.toNat_lt
  omega

theorem second_lt : a.toNat % 4 * 16 + b.toNat / 16 < 64 := by
  have hb := b.toNat_lt
  omega

theorem third_lt : b.toNat % 16 * 4 + c.toNat / 64 < 64 := by
  have hc := c.toNat_lt
  omega

theorem fourth_lt : c.toNat % 64 < 64 := Nat.mod_lt _ (by decide)

theorem groups_of_three :
    [⟨_, first_lt a⟩, ⟨_, second_lt a b⟩, ⟨_, third_lt b c⟩, ⟨_, fourth_lt c⟩].flatMap valueBits =
      [a, b, c].flatMap byteBits := by
  have hb := b.toNat_lt
  have hc := c.toNat_lt
  simp only [List.flatMap_cons, List.flatMap_nil, valueBits, byteBits_six_two a,
    byteBits_four_four b, byteBits_two_six c, bits_two_four _ (by omega : b.toNat / 16 < 16),
    bits_four_two _ (by omega : c.toNat / 64 < 4), List.append_assoc]

theorem groups_of_two (h : b.toNat % 16 * 4 < 64) :
    [⟨_, first_lt a⟩, ⟨_, second_lt a b⟩, ⟨_, h⟩].flatMap valueBits =
      [a, b].flatMap byteBits ++ List.replicate 2 false := by
  have hb := b.toNat_lt
  have hzeros := bits_four_two (b.toNat % 16) (y := 0) (by decide)
  rw [Nat.add_zero, bits_zero 2] at hzeros
  simp only [List.flatMap_cons, List.flatMap_nil, valueBits, byteBits_six_two a,
    byteBits_four_four b, bits_two_four _ (by omega : b.toNat / 16 < 16), hzeros,
    List.append_assoc, List.append_nil]

theorem groups_of_one (h : a.toNat % 4 * 16 < 64) :
    [⟨_, first_lt a⟩, ⟨_, h⟩].flatMap valueBits = [a].flatMap byteBits ++ List.replicate 4 false := by
  have hzeros := bits_two_four (a.toNat % 4) (y := 0) (by decide)
  rw [Nat.add_zero, bits_zero 4] at hzeros
  simp only [List.flatMap_cons, List.flatMap_nil, valueBits, byteBits_six_two a, hzeros,
    List.append_assoc, List.append_nil]

end groups

theorem writes_encode (bytes : List UInt8) : Writes (encode bytes) bytes := by
  induction bytes using encode.induct with
  | case1 => exact ⟨[], 0, 0, by simp [encode]⟩
  | case2 a =>
    have h : a.toNat % 4 * 16 < 64 := by omega
    refine ⟨[⟨_, first_lt a⟩, ⟨_, h⟩], 4, 2, by decide, by decide, by simp [encode], ?_,
      groups_of_one a h⟩
    rw [encode, symbol_of_lt (first_lt a), symbol_of_lt h]
    rfl
  | case3 a b =>
    have h : b.toNat % 16 * 4 < 64 := by omega
    refine ⟨[⟨_, first_lt a⟩, ⟨_, second_lt a b⟩, ⟨_, h⟩], 2, 1, by decide, by decide,
      by simp [encode], ?_, groups_of_two a b h⟩
    rw [encode, symbol_of_lt (first_lt a), symbol_of_lt (second_lt a b), symbol_of_lt h]
    rfl
  | case4 a b c rest ih =>
    rw [encode, symbol_of_lt (first_lt a), symbol_of_lt (second_lt a b),
      symbol_of_lt (third_lt b c), symbol_of_lt (fourth_lt c)]
    exact ih.cons_group rfl (groups_of_three a b c)

theorem writes_iff {text : List Char} {bytes : List UInt8} :
    Writes text bytes ↔ text = encode bytes :=
  ⟨fun h => h.text_unique (writes_encode bytes), fun h => h ▸ writes_encode bytes⟩

/-! ## Decoding -/

theorem symbolValue_of_lt {n : Nat} (h : n < 64) : symbolValue? (symbol n) = some n := by
  rw [symbol_of_lt h, symbolValue_letter]

theorem symbol_ne_pad {n : Nat} (h : n < 64) : symbol n ≠ '=' := by
  rw [symbol_of_lt h]
  exact letter_ne_pad _

theorem ofNat_of_eq {n : Nat} {a : UInt8} (h : n = a.toNat) : UInt8.ofNat n = a := by
  rw [h, UInt8.ofNat_toNat]

theorem decode_encode (bytes : List UInt8) : decode? (encode bytes) = some bytes := by
  induction bytes using encode.induct with
  | case1 => rfl
  | case2 a =>
    have h : a.toNat % 4 * 16 < 64 := by omega
    have ha : UInt8.ofNat (a.toNat / 4 * 4 + a.toNat % 4 * 16 / 16) = a := ofNat_of_eq (by omega)
    rw [encode, decode?, symbolValue_of_lt (first_lt a), symbolValue_of_lt h]
    simp only [Option.bind_eq_bind, Option.bind_some, Nat.mul_mod_left, if_true, ha]
  | case3 a b =>
    have h : b.toNat % 16 * 4 < 64 := by omega
    have hb := b.toNat_lt
    have ha : UInt8.ofNat (a.toNat / 4 * 4 + (a.toNat % 4 * 16 + b.toNat / 16) / 16) = a :=
      ofNat_of_eq (by omega)
    have hb : UInt8.ofNat ((a.toNat % 4 * 16 + b.toNat / 16) % 16 * 16 + b.toNat % 16 * 4 / 4) = b :=
      ofNat_of_eq (by omega)
    rw [encode, decode?, symbolValue_of_lt (first_lt a), symbolValue_of_lt (second_lt a b),
      symbolValue_of_lt h]
    · simp only [Option.bind_eq_bind, Option.bind_some, Nat.mul_mod_left, if_true, ha, hb]
    · exact symbol_ne_pad h
  | case4 a b c rest ih =>
    have hb := b.toNat_lt
    have hc := c.toNat_lt
    have ha : UInt8.ofNat (a.toNat / 4 * 4 + (a.toNat % 4 * 16 + b.toNat / 16) / 16) = a :=
      ofNat_of_eq (by omega)
    have hb : UInt8.ofNat ((a.toNat % 4 * 16 + b.toNat / 16) % 16 * 16 +
        (b.toNat % 16 * 4 + c.toNat / 64) / 4) = b := ofNat_of_eq (by omega)
    have hc : UInt8.ofNat ((b.toNat % 16 * 4 + c.toNat / 64) % 4 * 64 + c.toNat % 64) = c :=
      ofNat_of_eq (by omega)
    have hs := symbol_ne_pad (fourth_lt c)
    rw [encode, decode?, symbolValue_of_lt (first_lt a), symbolValue_of_lt (second_lt a b),
      symbolValue_of_lt (third_lt b c), symbolValue_of_lt (fourth_lt c), ih]
    · simp only [Option.bind_eq_bind, Option.bind_some, ha, hb, hc, pure]
    · exact fun _ h => absurd h hs
    · exact fun h => absurd h hs

theorem eq_symbol_of_symbolValue {c : Char} {value : Nat} (h : symbolValue? c = some value) :
    value < 64 ∧ c = symbol value := by
  have hle : ∀ x y : Char, x ≤ y ↔ x.toNat ≤ y.toNat := fun x y => UInt32.le_iff_toNat_le
  have hA : 'A'.toNat = 65 := rfl
  have hZ : 'Z'.toNat = 90 := rfl
  have ha : 'a'.toNat = 97 := rfl
  have hz : 'z'.toNat = 122 := rfl
  have h0 : '0'.toNat = 48 := rfl
  have h9 : '9'.toNat = 57 := rfl
  simp only [symbolValue?, hle, hA, hZ, ha, hz, h0, h9] at h
  split at h
  · next hc =>
    obtain rfl := Option.some.inj h
    refine ⟨by omega, ?_⟩
    rw [symbol, if_pos (by omega), hA, Nat.add_sub_cancel' hc.1, Char.ofNat_toNat]
  · split at h
    · next hc =>
      obtain rfl := Option.some.inj h
      refine ⟨by omega, ?_⟩
      rw [symbol, if_neg (by omega), if_pos (by omega), ha, Nat.add_sub_cancel,
        Nat.add_sub_cancel' hc.1, Char.ofNat_toNat]
    · split at h
      · next hc =>
        obtain rfl := Option.some.inj h
        refine ⟨by omega, ?_⟩
        rw [symbol, if_neg (by omega), if_neg (by omega), if_pos (by omega), h0,
          Nat.add_sub_cancel, Nat.add_sub_cancel' hc.1, Char.ofNat_toNat]
      · split at h
        · next hc =>
          obtain rfl := Option.some.inj h
          exact ⟨by decide, hc⟩
        · split at h
          · next hc =>
            obtain rfl := Option.some.inj h
            exact ⟨by decide, hc⟩
          · cases h

theorem toNat_ofNat_of_lt {n : Nat} (h : n < 256) : (UInt8.ofNat n).toNat = n := by
  rw [UInt8.toNat_ofNat']
  exact Nat.mod_eq_of_lt h

theorem eq_encode_of_decode {text : List Char} {bytes : List UInt8} (h : decode? text = some bytes) :
    text = encode bytes := by
  induction text using decode?.induct generalizing bytes with
  | case1 =>
    cases h
    rfl
  | case2 p q =>
    simp only [decode?, Option.bind_eq_bind, Option.bind_eq_some_iff] at h
    obtain ⟨x, hx, y, hy, h⟩ := h
    obtain ⟨hx, rfl⟩ := eq_symbol_of_symbolValue hx
    obtain ⟨hy, rfl⟩ := eq_symbol_of_symbolValue hy
    split at h
    · next hzeros =>
      obtain rfl := Option.some.inj h
      have hbyte := toNat_ofNat_of_lt (by omega : x * 4 + y / 16 < 256)
      have h1 : (x * 4 + y / 16) / 4 = x := by omega
      have h2 : (x * 4 + y / 16) % 4 * 16 = y := by omega
      rw [encode, hbyte, h1, h2]
    · cases h
  | case3 p q r hr =>
    rw [decode?] at h
    · simp only [Option.bind_eq_bind, Option.bind_eq_some_iff] at h
      obtain ⟨x, hx, y, hy, z, hz, h⟩ := h
      obtain ⟨hx, rfl⟩ := eq_symbol_of_symbolValue hx
      obtain ⟨hy, rfl⟩ := eq_symbol_of_symbolValue hy
      obtain ⟨hz, rfl⟩ := eq_symbol_of_symbolValue hz
      split at h
      · next hzeros =>
        obtain rfl := Option.some.inj h
        have hfirst := toNat_ofNat_of_lt (by omega : x * 4 + y / 16 < 256)
        have hsecond := toNat_ofNat_of_lt (by omega : y % 16 * 16 + z / 4 < 256)
        have h1 : (x * 4 + y / 16) / 4 = x := by omega
        have h2 : (x * 4 + y / 16) % 4 * 16 + (y % 16 * 16 + z / 4) / 16 = y := by omega
        have h3 : (y % 16 * 16 + z / 4) % 16 * 4 = z := by omega
        rw [encode, hfirst, hsecond, h1, h2, h3]
      · cases h
    · exact hr
  | case4 p q r s rest hpads hpad ih =>
    rw [decode?] at h
    · simp only [Option.bind_eq_bind, Option.bind_eq_some_iff] at h
      obtain ⟨x, hx, y, hy, z, hz, w, hw, found, hfound, h⟩ := h
      obtain ⟨hx, rfl⟩ := eq_symbol_of_symbolValue hx
      obtain ⟨hy, rfl⟩ := eq_symbol_of_symbolValue hy
      obtain ⟨hz, rfl⟩ := eq_symbol_of_symbolValue hz
      obtain ⟨hw, rfl⟩ := eq_symbol_of_symbolValue hw
      obtain rfl := Option.some.inj h
      have hfirst := toNat_ofNat_of_lt (by omega : x * 4 + y / 16 < 256)
      have hsecond := toNat_ofNat_of_lt (by omega : y % 16 * 16 + z / 4 < 256)
      have hthird := toNat_ofNat_of_lt (by omega : z % 4 * 64 + w < 256)
      have h1 : (x * 4 + y / 16) / 4 = x := by omega
      have h2 : (x * 4 + y / 16) % 4 * 16 + (y % 16 * 16 + z / 4) / 16 = y := by omega
      have h3 : (y % 16 * 16 + z / 4) % 16 * 4 + (z % 4 * 64 + w) / 64 = z := by omega
      have h4 : (z % 4 * 64 + w) % 64 = w := by omega
      rw [encode, hfirst, hsecond, hthird, h1, h2, h3, h4, ih hfound]
    · exact hpads
    · exact hpad
  | case5 text h1 h2 h3 h4 =>
    rw [decode?] at h
    · cases h
    · exact h1
    · exact h2
    · exact h3
    · exact h4

/-- The decoder knows the text of the bytes and no other one. -/
theorem decode_eq_some_iff {text : List Char} {bytes : List UInt8} :
    decode? text = some bytes ↔ Writes text bytes := by
  rw [writes_iff]
  constructor
  · exact eq_encode_of_decode
  · rintro rfl
    exact decode_encode bytes

end EnclaveFleet.Base64
