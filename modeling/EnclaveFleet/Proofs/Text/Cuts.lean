import EnclaveFleet.Text.Encoding

/-!
# Cuts at characters of ASCII

No character of ASCII takes part in writing a surrogate, nor in joining two of them, so a text falls
apart there.

* `Points.ofChars_append_cons`, `Points.ofUnits_append_cons`: the two ways to read a text
* `pairedChars`: the characters of `String.paired`
* `paired_eq_self_of_no_mark`: a text without surrogates stays as it is
* `pairedChars_append_cons`: neighbours are joined on both sides of the cut on their own
* `pairedChars_of_ascii`, `mem_of_mem_pairedChars`: what is in ASCII stays and nothing comes to it
-/
namespace EnclaveFleet
set_option autoImplicit false

def isAscii (c : Char) : Bool := c.toNat < 0x80

namespace Points

theorem ne_mark_of_isAscii {c : Char} (h : isAscii c) : c ≠ mark := by
  rintro rfl
  revert h
  decide

theorem ofChars_cons {c : Char} (h : c ≠ mark) (cs : List Char) :
    ofChars (c :: cs) = c.toNat :: ofChars cs := by
  cases cs with
  | nil => rfl
  | cons d cs => rw [ofChars, if_neg (by simp [h]), if_neg (by simp [h])]

theorem ofChars_append_cons {c : Char} (h : isAscii c) (xs ys : List Char) :
    ofChars (xs ++ c :: ys) = ofChars xs ++ c.toNat :: ofChars ys := by
  have hc : c ≠ mark := ne_mark_of_isAscii h
  fun_induction ofChars xs with
  | case1 => exact ofChars_cons hc ys
  | case2 x =>
    -- A mark at the end would take the next character with it if that stood for a surrogate.
    have hstand : isSurrogate (c.toNat - shift) = false := by
      rw [isAscii, decide_eq_true_eq] at h
      have hzero : c.toNat - shift = 0 := by
        rw [shift]
        omega
      rw [hzero]
      rfl
    rw [List.singleton_append, ofChars, if_neg (by simp [hc]), if_neg (by simp [hstand]),
      ofChars_cons hc]
    rfl
  | case3 x d cs hmark ih =>
    rw [List.cons_append, List.cons_append, ofChars, if_pos hmark, ih, List.cons_append]
  | case4 x d cs hmark hstand ih =>
    rw [List.cons_append, List.cons_append, ofChars, if_neg hmark, if_pos hstand, ih,
      List.cons_append]
  | case5 x d cs hmark hstand ih =>
    rw [List.cons_append, List.cons_append, ofChars, if_neg hmark, if_neg hstand,
      ← List.cons_append, ih, List.cons_append]

theorem ofChars_append_of_no_mark {front : List Char} (h : mark ∉ front) (cs : List Char) :
    ofChars (front ++ cs) = front.map Char.toNat ++ ofChars cs := by
  induction front with
  | nil => rfl
  | cons c front ih =>
    obtain ⟨hc, hfront⟩ : mark ≠ c ∧ mark ∉ front := by simpa using h
    rw [List.cons_append, ofChars_cons hc.symm, ih hfront, List.map_cons, List.cons_append]

theorem ofChars_of_no_mark {cs : List Char} (h : mark ∉ cs) : ofChars cs = cs.map Char.toNat := by
  have hall := ofChars_append_of_no_mark h []
  rwa [List.append_nil, show ofChars [] = [] from rfl, List.append_nil] at hall

theorem ofChars_of_ascii {cs : List Char} (h : ∀ c ∈ cs, isAscii c) :
    ofChars cs = cs.map Char.toNat :=
  ofChars_of_no_mark fun hmark => ne_mark_of_isAscii (h mark hmark) rfl

theorem isSurrogate_toNat (c : Char) : isSurrogate c.toNat = false := by
  have hvalid : c.toNat < 0xD800 ∨ 0xDFFF < c.toNat ∧ c.toNat < 0x110000 := c.valid
  simp only [isSurrogate, Bool.and_eq_false_iff, decide_eq_false_iff_not]
  omega

theorem pointChars_toNat {c : Char} (h : c ≠ mark) : pointChars c.toNat = [c] := by
  rw [pointChars, isSurrogate_toNat, Char.ofNat_toNat, if_neg (by simp), if_neg h]

theorem toChars_of_no_mark {cs : List Char} (h : mark ∉ cs) : toChars (cs.map Char.toNat) = cs := by
  induction cs with
  | nil => rfl
  | cons c cs ih =>
    obtain ⟨hc, hcs⟩ : mark ≠ c ∧ mark ∉ cs := by simpa using h
    rw [List.map_cons, toChars, List.flatMap_cons, pointChars_toNat hc.symm]
    exact congrArg (c :: ·) (ih hcs)

theorem ofUnits_cons {n : Nat} (h : isHigh n = false) (us : List Nat) :
    ofUnits (n :: us) = n :: ofUnits us := by
  cases us with
  | nil => rfl
  | cons u us => rw [ofUnits, if_neg (by simp [h])]

theorem isHigh_of_ascii {n : Nat} (h : n < 0x80) : isHigh n = false := by
  simp only [isHigh, Bool.and_eq_false_iff, decide_eq_false_iff_not]
  omega

theorem ofUnits_append_cons {n : Nat} (h : n < 0x80) (us vs : List Nat) :
    ofUnits (us ++ n :: vs) = ofUnits us ++ n :: ofUnits vs := by
  have hhigh : isHigh n = false := isHigh_of_ascii h
  have hlow : isLow n = false := by
    simp only [isLow, Bool.and_eq_false_iff, decide_eq_false_iff_not]
    omega
  fun_induction ofUnits us with
  | case1 => exact ofUnits_cons hhigh vs
  | case2 u =>
    rw [List.singleton_append, ofUnits, if_neg (by simp [hlow]), ofUnits_cons hhigh]
    rfl
  | case3 u v us hpair ih =>
    rw [List.cons_append, List.cons_append, ofUnits, if_pos hpair, ih, List.cons_append]
  | case4 u v us hpair ih =>
    rw [List.cons_append, List.cons_append, ofUnits, if_neg hpair, ← List.cons_append, ih,
      List.cons_append]

theorem mem_of_mem_ofUnits {n : Nat} (h : n < 0x80) {us : List Nat} (hn : n ∈ ofUnits us) :
    n ∈ us := by
  fun_induction ofUnits us with
  | case1 => exact hn
  | case2 u => exact hn
  | case3 u v us hpair ih =>
    have hbeyond : n ≠ joinPair u v := by
      unfold joinPair
      omega
    have hrest := ih ((List.mem_cons.mp hn).resolve_left hbeyond)
    simp [hrest]
  | case4 u v us hpair ih =>
    obtain rfl | hrest := List.mem_cons.mp hn
    · simp
    · exact List.mem_cons_of_mem u (ih hrest)

theorem mem_of_mem_toUnits {n : Nat} (h : n < 0x80) {ps : Points} (hn : n ∈ toUnits ps) :
    n ∈ ps := by
  obtain ⟨m, hm, hunit⟩ := List.mem_flatMap.mp hn
  rw [pointUnits] at hunit
  split at hunit
  · rw [List.mem_singleton.mp hunit]
    exact hm
  · simp only [List.mem_cons, List.not_mem_nil, or_false] at hunit
    omega

theorem mem_of_mem_ofChars {c : Char} (h : isAscii c) {cs : List Char}
    (hc : c.toNat ∈ ofChars cs) : c ∈ cs := by
  rw [isAscii, decide_eq_true_eq] at h
  fun_induction ofChars cs with
  | case1 => cases hc
  | case2 x =>
    rw [Char.toNat_inj.mp (List.mem_singleton.mp hc)]
    simp
  | case3 x d cs hmark ih =>
    obtain heq | hrest := List.mem_cons.mp hc
    · rw [Char.toNat_inj.mp heq]
      simp
    · simp [ih hrest]
  | case4 x d cs hmark hstand ih =>
    have hhigh : c.toNat ≠ d.toNat - shift := by
      have hsur := hstand.2
      simp only [isSurrogate, Bool.and_eq_true, decide_eq_true_eq] at hsur
      omega
    have hrest := ih ((List.mem_cons.mp hc).resolve_left hhigh)
    simp [hrest]
  | case5 x d cs hmark hstand ih =>
    obtain heq | hrest := List.mem_cons.mp hc
    · rw [Char.toNat_inj.mp heq]
      simp
    · exact List.mem_cons_of_mem x (ih hrest)

theorem eq_toNat_of_mem_pointChars {c : Char} (h : isAscii c) (hnul : c ≠ '\x00') {n : Nat}
    (hc : c ∈ pointChars n) : n = c.toNat := by
  have hmark : c ≠ mark := ne_mark_of_isAscii h
  rw [isAscii, decide_eq_true_eq] at h
  rw [pointChars] at hc
  split at hc
  · next hsur =>
    simp only [isSurrogate, Bool.and_eq_true, decide_eq_true_eq] at hsur
    simp only [List.mem_cons, hmark, List.not_mem_nil, or_false, false_or] at hc
    have hstand : (Char.ofNat (n + shift)).toNat = n + shift :=
      toNat_ofNat _ (.inr (by simp only [shift]; omega))
    rw [hc, hstand] at h
    omega
  · split at hc
    · simp [hmark] at hc
    · rw [List.mem_singleton] at hc
      by_cases hvalid : n.isValidChar
      · rw [hc, toNat_ofNat n hvalid]
      · refine absurd ?_ hnul
        rw [hc, Char.ofNat, dif_neg hvalid]
        rfl

/-- Without surrogates there is nothing to join. -/
theorem paired_eq_self {ps : Points} (h : ∀ n ∈ ps, isSurrogate n = false ∧ n < 0x110000) :
    paired ps = ps := by
  rw [paired]
  induction ps with
  | nil => rfl
  | cons n ps ih =>
    have hrest := ih fun m hm => h m (by simp [hm])
    obtain ⟨hsur, hn⟩ := h n (by simp)
    simp only [isSurrogate, Bool.and_eq_false_iff, decide_eq_false_iff_not] at hsur
    rw [toUnits, List.flatMap_cons, pointUnits]
    by_cases hsmall : n < 0x10000
    · have hhigh : isHigh n = false := by
        simp only [isHigh, Bool.and_eq_false_iff, decide_eq_false_iff_not]
        omega
      rw [if_pos hsmall, List.singleton_append, ofUnits_cons hhigh]
      exact congrArg (n :: ·) hrest
    · have hpair : (isHigh (0xD800 + (n - 0x10000) / 0x400) &&
          isLow (0xDC00 + (n - 0x10000) % 0x400)) = true := by
        simp only [isHigh, isLow, Bool.and_eq_true, decide_eq_true_eq]
        omega
      have hjoin : joinPair (0xD800 + (n - 0x10000) / 0x400) (0xDC00 + (n - 0x10000) % 0x400) =
          n := by
        unfold joinPair
        omega
      rw [if_neg hsmall, List.cons_append, List.singleton_append, ofUnits, if_pos hpair, hjoin]
      exact congrArg (n :: ·) hrest

theorem paired_append_cons {n : Nat} (h : n < 0x80) (ps qs : Points) :
    paired (ps ++ n :: qs) = paired ps ++ n :: paired qs := by
  have hunits : pointUnits n = [n] := by
    rw [pointUnits, if_pos (by omega)]
  have hcut : toUnits (ps ++ n :: qs) = toUnits ps ++ n :: toUnits qs := by
    rw [toUnits, List.flatMap_append, List.flatMap_cons, hunits]
    rfl
  rw [paired, hcut, ofUnits_append_cons h]
  rfl

end Points

/-! ## Neighbours joined -/

def pairedChars (cs : List Char) : List Char :=
  (Points.ofChars cs).paired.toChars

theorem toList_paired (s : String) : s.paired.toList = pairedChars s.toList := by
  rw [String.paired, String.ofPoints, String.toList_ofList]
  rfl

theorem pairedChars_eq_self {cs : List Char} (h : Points.mark ∉ cs) : pairedChars cs = cs := by
  have hpoints : ∀ n ∈ cs.map Char.toNat, Points.isSurrogate n = false ∧ n < 0x110000 := by
    intro n hn
    obtain ⟨c, _, rfl⟩ := List.mem_map.mp hn
    have hvalid : c.toNat < 0xD800 ∨ 0xDFFF < c.toNat ∧ c.toNat < 0x110000 := c.valid
    exact ⟨Points.isSurrogate_toNat c, by omega⟩
  rw [pairedChars, Points.ofChars_of_no_mark h, Points.paired_eq_self hpoints,
    Points.toChars_of_no_mark h]

theorem paired_eq_self_of_no_mark {s : String} (h : Points.mark ∉ s.toList) : s.paired = s := by
  rw [← String.toList_inj, toList_paired, pairedChars_eq_self h]

theorem pairedChars_append_cons {c : Char} (h : isAscii c) (xs ys : List Char) :
    pairedChars (xs ++ c :: ys) = pairedChars xs ++ c :: pairedChars ys := by
  have hsmall : c.toNat < 0x80 := by simpa [isAscii] using h
  rw [pairedChars, Points.ofChars_append_cons h, Points.paired_append_cons hsmall, Points.toChars,
    List.flatMap_append, List.flatMap_cons, Points.pointChars_toNat (Points.ne_mark_of_isAscii h)]
  rfl

theorem pairedChars_append_left {xs : List Char} (h : ∀ c ∈ xs, isAscii c) (ys : List Char) :
    pairedChars (xs ++ ys) = xs ++ pairedChars ys := by
  induction xs with
  | nil => rfl
  | cons x xs ih =>
    have hcut := pairedChars_append_cons (h x (by simp)) [] (xs ++ ys)
    have hrest := ih fun c hc => h c (by simp [hc])
    rw [hrest] at hcut
    exact hcut

theorem pairedChars_of_ascii {cs : List Char} (h : ∀ c ∈ cs, isAscii c) : pairedChars cs = cs :=
  pairedChars_eq_self fun hmark => Points.ne_mark_of_isAscii (h Points.mark hmark) rfl

theorem pairedChars_append_right {ys : List Char} (h : ∀ c ∈ ys, isAscii c) (xs : List Char) :
    pairedChars (xs ++ ys) = pairedChars xs ++ ys := by
  cases ys with
  | nil => rw [List.append_nil, List.append_nil]
  | cons y ys =>
    have hys : ∀ c ∈ ys, isAscii c := fun c hc => h c (by simp [hc])
    rw [pairedChars_append_cons (h y (by simp)), pairedChars_of_ascii hys]

theorem pairedChars_append_of_ends {xs : List Char} (h : xs.getLast?.any isAscii)
    (ys : List Char) : pairedChars (xs ++ ys) = pairedChars xs ++ pairedChars ys := by
  cases hlast : xs.getLast? with
  | none => simp [hlast] at h
  | some c =>
    obtain ⟨init, rfl⟩ := List.getLast?_eq_some_iff.mp hlast
    have hc : isAscii c := by simpa using h
    have hinit : pairedChars (init ++ [c]) = pairedChars init ++ [c] :=
      pairedChars_append_cons hc init []
    rw [List.append_assoc, List.singleton_append, pairedChars_append_cons hc, hinit,
      List.append_assoc, List.singleton_append]

theorem pairedChars_append_of_starts {ys : List Char} (h : ys.head?.any isAscii)
    (xs : List Char) : pairedChars (xs ++ ys) = pairedChars xs ++ pairedChars ys := by
  cases ys with
  | nil => cases h
  | cons c ys =>
    have hc : isAscii c := by simpa using h
    have hhead : pairedChars (c :: ys) = c :: pairedChars ys := pairedChars_append_cons hc [] ys
    rw [pairedChars_append_cons hc, hhead]

/-- The character NUL also stands for what is no code point. -/
theorem mem_of_mem_pairedChars {c : Char} (h : isAscii c) (hnul : c ≠ '\x00') {cs : List Char}
    (hc : c ∈ pairedChars cs) : c ∈ cs := by
  have hsmall : c.toNat < 0x80 := by simpa [isAscii] using h
  obtain ⟨n, hn, hpoint⟩ := List.mem_flatMap.mp hc
  obtain rfl := Points.eq_toNat_of_mem_pointChars h hnul hpoint
  exact Points.mem_of_mem_ofChars h
    (Points.mem_of_mem_toUnits hsmall (Points.mem_of_mem_ofUnits hsmall hn))

/-! ## Ends of texts -/

def startsAscii (s : String) : Bool := s.toList.head?.any isAscii

def endsAscii (s : String) : Bool := s.toList.getLast?.any isAscii

theorem startsAscii_append {s : String} (h : startsAscii s) (t : String) :
    startsAscii (s ++ t) := by
  rw [startsAscii] at h ⊢
  rw [String.toList_append]
  cases hs : s.toList with
  | nil => simp [hs] at h
  | cons c cs => simpa [hs] using h

theorem endsAscii_append (s : String) {t : String} (h : endsAscii t) : endsAscii (s ++ t) := by
  rw [endsAscii] at h ⊢
  rw [String.toList_append, List.getLast?_append]
  cases ht : t.toList.getLast? with
  | none => simp [ht] at h
  | some c => simpa [ht] using h

theorem ne_empty_of_startsAscii {s : String} (h : startsAscii s) : s ≠ "" := by
  rintro rfl
  cases h

theorem ne_empty_of_endsAscii {s : String} (h : endsAscii s) : s ≠ "" := by
  rintro rfl
  cases h

theorem paired_append_of_ends {s : String} (h : endsAscii s) (t : String) :
    (s ++ t).paired = s.paired ++ t.paired := by
  rw [← String.toList_inj, toList_paired, String.toList_append, String.toList_append,
    toList_paired, toList_paired]
  exact pairedChars_append_of_ends h t.toList

theorem paired_append_of_starts {t : String} (h : startsAscii t) (s : String) :
    (s ++ t).paired = s.paired ++ t.paired := by
  rw [← String.toList_inj, toList_paired, String.toList_append, String.toList_append,
    toList_paired, toList_paired]
  exact pairedChars_append_of_starts h s.toList

end EnclaveFleet
