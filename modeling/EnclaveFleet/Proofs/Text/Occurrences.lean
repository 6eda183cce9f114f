import EnclaveFleet.Files.Path
import EnclaveFleet.Text.Quoted

/-!
# Which characters occur

* `mem_toString`: the numeral of an integer is a sign and digits
* `isPrintable_of_mem_quotedText`: a text in quotes has printable characters only
* `notMem_intercalate`: nothing comes to texts that are joined
* `notMem_parse_text`: a path has the characters of its spelling
-/
namespace EnclaveFleet
set_option autoImplicit false

/-! ## Numerals -/

theorem isDigit_of_mem_repr {n : Nat} {c : Char} (h : c ∈ n.repr.toList) : c.isDigit := by
  rw [Nat.repr_eq_ofList_toDigits, String.toList_ofList] at h
  exact Nat.isDigit_of_mem_toDigits (by decide) (by decide) h

theorem mem_toString {n : Int} {c : Char} (h : c ∈ (toString n).toList) : c = '-' ∨ c.isDigit := by
  have hrepr : toString n = n.repr := rfl
  rw [hrepr, Int.repr_eq_if] at h
  split at h
  · exact .inr (isDigit_of_mem_repr h)
  · rw [String.toList_append, List.mem_append] at h
    obtain hsign | hdigit := h
    · exact .inl (List.mem_singleton.mp hsign)
    · exact .inr (isDigit_of_mem_repr hdigit)

theorem notMem_toString {c : Char} (hsign : c ≠ '-') (hdigit : c.isDigit = false) (n : Int) :
    c ∉ (toString n).toList := by
  intro h
  obtain rfl | h := mem_toString h
  · exact hsign rfl
  · rw [h] at hdigit
    cases hdigit

/-! ## Texts in quotes -/

namespace Text

theorem isPrintable_hexDigits (width n : Nat) : ∀ c ∈ hexDigits width n, isPrintable c := by
  have hdigits : ((List.range 16).map hexDigit).all isPrintable := by decide
  induction width generalizing n with
  | zero => exact fun c hc => nomatch hc
  | succ width ih =>
    intro c hc
    unfold hexDigits at hc
    obtain hc | hc := List.mem_append.mp hc
    · exact ih (n / 16) c hc
    · have hlast : n % 16 ∈ List.range 16 := List.mem_range.mpr (by omega)
      rw [List.mem_singleton.mp hc]
      exact List.all_eq_true.mp hdigits _ (List.mem_map_of_mem hlast)

theorem isPrintable_escapePoint (n : Nat) : ∀ c ∈ escapePoint n, isPrintable c := by
  have hform : ∃ kind width, isPrintable kind ∧
      escapePoint n = '\\' :: kind :: hexDigits width n := by
    unfold escapePoint
    split
    · exact ⟨'x', 2, by decide, rfl⟩
    · split
      · exact ⟨'u', 4, by decide, rfl⟩
      · exact ⟨'U', 8, by decide, rfl⟩
  obtain ⟨kind, width, hkind, hescape⟩ := hform
  have hbackslash : isPrintable '\\' := by decide
  intro c hc
  rw [hescape, List.mem_cons, List.mem_cons] at hc
  obtain rfl | rfl | hc := hc
  · exact hbackslash
  · exact hkind
  · exact isPrintable_hexDigits width n c hc

theorem escape_cases {quote : Char} (hquote : isPrintable quote) (n : Nat) :
    escape quote n = escapePoint n ∨ (∃ c, isPrintable c ∧ escape quote n = ['\\', c]) ∨
      ∃ c, isPrintable c ∧ escape quote n = [c] := by
  have hbackslash : isPrintable '\\' := by decide
  simp only [escape]
  split
  · exact .inl rfl
  · split
    · next hself =>
      simp only [Bool.or_eq_true, decide_eq_true_eq] at hself
      obtain hself | hself := hself
      · exact .inr (.inl ⟨quote, hquote, by rw [hself]⟩)
      · exact .inr (.inl ⟨'\\', hbackslash, by rw [hself]⟩)
    · split
      · exact .inr (.inl ⟨'n', by decide, rfl⟩)
      · split
        · exact .inr (.inl ⟨'r', by decide, rfl⟩)
        · split
          · exact .inr (.inl ⟨'t', by decide, rfl⟩)
          · split
            · next hprintable => exact .inr (.inr ⟨_, hprintable, rfl⟩)
            · exact .inl rfl

theorem isPrintable_escape {quote : Char} (hquote : isPrintable quote) (n : Nat) :
    ∀ c ∈ escape quote n, isPrintable c := by
  have hbackslash : isPrintable '\\' := by decide
  obtain hpoint | ⟨d, hd, hpair⟩ | ⟨d, hd, hself⟩ := escape_cases hquote n
  · rw [hpoint]
    exact isPrintable_escapePoint n
  · rw [hpair]
    simp [hbackslash, hd]
  · rw [hself]
    simp [hd]

theorem isPrintable_quoteFor (ps : Points) : isPrintable (quoteFor ps) := by
  unfold quoteFor
  split <;> decide

theorem isPrintable_of_mem_quotedText {s : String} {c : Char} (h : c ∈ s.quotedText.toList) :
    isPrintable c := by
  have hquote := isPrintable_quoteFor s.points
  rw [String.quotedText, String.toList_ofList, quoted, List.mem_cons, List.mem_append,
    List.mem_singleton, List.mem_flatMap] at h
  obtain rfl | ⟨n, _, hc⟩ | rfl := h
  · exact hquote
  · exact isPrintable_escape hquote n c hc
  · exact hquote

end Text

/-! ## Texts that are cut and joined -/

theorem notMem_append {c : Char} {s t : String} :
    c ∉ (s ++ t).toList ↔ c ∉ s.toList ∧ c ∉ t.toList := by
  rw [String.toList_append, List.mem_append, not_or]

theorem notMem_intercalate {c : Char} {sep : String} (hsep : c ∉ sep.toList) {texts : List String}
    (h : ∀ t ∈ texts, c ∉ t.toList) : c ∉ (sep.intercalate texts).toList := by
  induction texts with
  | nil => exact fun hc => nomatch hc
  | cons t texts ih =>
    obtain ⟨ht, htexts⟩ := List.forall_mem_cons.mp h
    cases texts with
    | nil => simpa using ht
    | cons next texts =>
      rw [String.intercalate_cons_cons, notMem_append, notMem_append]
      exact ⟨⟨ht, hsep⟩, ih htexts⟩

theorem Text.mem_of_mem_splitAt {sep c : Char} {cs piece : List Char}
    (hpiece : piece ∈ splitAt sep cs) (hc : c ∈ piece) : c ∈ cs := by
  induction cs generalizing piece with
  | nil =>
    rw [List.mem_singleton.mp hpiece] at hc
    exact hc
  | cons d cs ih =>
    unfold splitAt at hpiece
    split at hpiece
    · obtain rfl | hpiece := List.mem_cons.mp hpiece
      · cases hc
      · exact List.mem_cons_of_mem d (ih hpiece hc)
    · split at hpiece
      · next hnil => exact absurd hnil (splitAt_ne_nil sep cs)
      · next first rest hcons =>
        obtain rfl | hpiece := List.mem_cons.mp hpiece
        · obtain rfl | hc := List.mem_cons.mp hc
          · exact List.mem_cons_self
          · exact List.mem_cons_of_mem d (ih (hcons ▸ List.mem_cons_self) hc)
        · exact List.mem_cons_of_mem d (ih (hcons ▸ List.mem_cons_of_mem first hpiece) hc)

theorem notMem_parse_text {c : Char} (hslash : c ≠ '/') (hdot : c ≠ '.') {s : String}
    (h : c ∉ s.toList) : c ∉ (Path.parse s).text.toList := by
  have hsep : c ∉ "/".toList := by simpa using hslash
  have hnames : c ∉ ("/".intercalate (Path.parse s).names).toList := by
    refine notMem_intercalate hsep fun name hname hc => ?_
    obtain ⟨piece, hpiece, rfl⟩ := List.mem_map.mp (List.mem_filter.mp hname).1
    rw [String.toList_ofList] at hc
    exact h (Text.mem_of_mem_splitAt hpiece hc)
  unfold Path.text
  cases (Path.parse s).anchor with
  | relative =>
    show c ∉ (if (Path.parse s).names.isEmpty then "." else _).toList
    split
    · simpa using hdot
    · exact hnames
  | root => exact notMem_append.mpr ⟨hsep, hnames⟩
  | doubleRoot => exact notMem_append.mpr ⟨by simpa using hslash, hnames⟩

end EnclaveFleet
