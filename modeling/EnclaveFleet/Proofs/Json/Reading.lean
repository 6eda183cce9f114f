import EnclaveFleet.Proofs.Json.Limits
import EnclaveFleet.Proofs.Json.Numbers
import EnclaveFleet.Proofs.Json.Strings

/-!
# Reading texts

The reader takes the texts of the grammar and no others, and it finds the values that they denote.
It can give up a text of the grammar, but it calls none malformed.

* `Sound`, `sound`: what is read in so many steps is of the grammar
* `Complete`, `complete`: a piece of the grammar is read in as many steps as it has characters
* `document_of_parseWithin`, `parseWithin_of_document`: whole texts
* `parseWithin_eq_malformed_iff`: texts that are outside of the grammar, unless they are given up
-/
namespace EnclaveFleet.Json
set_option autoImplicit false

/-! ## Blanks -/

theorem exists_blanks (cs : List Char) : ∃ b, Blanks b ∧ cs = b ++ skipBlanks cs := by
  refine ⟨_, fun c hc => ?_, List.takeWhile_append_dropWhile.symm⟩
  have hblank := List.mem_takeWhile_imp hc
  simpa [or_assoc] using hblank

theorem skipBlanks_append {b : List Char} (hb : Blanks b) {c : Char}
    (hc : c ∉ [' ', '\t', '\n', '\r']) (cs : List Char) : skipBlanks (b ++ c :: cs) = c :: cs := by
  have hall : ∀ d ∈ b, (decide (d = ' ') || decide (d = '\t') || decide (d = '\n') ||
      decide (d = '\r')) = true := fun d hd => by
    simpa [or_assoc] using hb d hd
  rw [skipBlanks, List.dropWhile_append_of_pos hall]
  exact skipBlanks_cons hc cs

theorem delimited_append {b : List Char} (hb : Blanks b) {c : Char} (hc : c ∈ [',', ']', '}'])
    (cs : List Char) : Delimited (b ++ c :: cs) := by
  intro d hd
  cases b with
  | nil =>
    obtain rfl : c = d := by simpa using hd
    exact List.mem_append_right [' ', '\t', '\n', '\r'] hc
  | cons e b =>
    obtain rfl : e = d := by simpa using hd
    exact List.mem_append_left [',', ']', '}'] (hb e List.mem_cons_self)

/-! ## What is read is of the grammar -/

theorem bind_eq_ok_iff {α β : Type} {r : Except ReadError α} {f : α → Except ReadError β} {b : β} :
    (r >>= f) = .ok b ↔ ∃ a, r = .ok a ∧ f a = .ok b := by
  cases r with
  | error e => exact iff_of_false nofun nofun
  | ok a => simp [bind, Except.bind]

/-- What is read in so many steps. -/
structure Sound (steps : Nat) : Prop where
  value {levels : Nat} {cs : List Char} {j : Json} {rest : Rest}
    (h : value steps levels cs = .ok (j, rest)) : ∃ text, Denotes text (.value j) ∧ cs = text ++ rest
  members {levels : Nat} {cs : List Char} {fs : List (String × Json)} {rest : Rest}
    (h : members steps levels cs = .ok (fs, rest)) :
    ∃ text, Denotes text (.fields fs) ∧ cs = text ++ rest
  elements {levels : Nat} {cs : List Char} {js : List Json} {rest : Rest}
    (h : elements steps levels cs = .ok (js, rest)) :
    ∃ text, Denotes text (.items js) ∧ cs = text ++ rest

theorem value_sound {steps : Nat} (ih : Sound steps) {levels : Nat} {cs : List Char} {j : Json}
    {rest : Rest} (h : value (steps + 1) levels cs = .ok (j, rest)) :
    ∃ text, Denotes text (.value j) ∧ cs = text ++ rest := by
  rw [value.eq_def] at h
  simp only at h
  split at h
  · split at h
    · cases h
    · next found after hread =>
      obtain ⟨rfl, rfl⟩ := Prod.mk.inj (Except.ok.inj h)
      obtain ⟨body, rfl, hbody⟩ := spells_of_stringTail hread
      exact ⟨_, .text hbody, by simp⟩
  · next tail =>
    obtain ⟨b, hb, hcut⟩ := exists_blanks tail
    split at h
    · cases h
    · split at h
      · next after hskip =>
        obtain ⟨rfl, rfl⟩ := Prod.mk.inj (Except.ok.inj h)
        exact ⟨_, .emptyObject hb, by rw [hcut, hskip]; simp⟩
      · obtain ⟨⟨fs, after⟩, hfields, h⟩ := bind_eq_ok_iff.mp h
        obtain ⟨rfl, rfl⟩ := Prod.mk.inj (Except.ok.inj h)
        obtain ⟨text, htext, hcut'⟩ := ih.members hfields
        exact ⟨_, .object hb htext, by rw [hcut, hcut']; simp⟩
  · next tail =>
    obtain ⟨b, hb, hcut⟩ := exists_blanks tail
    split at h
    · cases h
    · split at h
      · next after hskip =>
        obtain ⟨rfl, rfl⟩ := Prod.mk.inj (Except.ok.inj h)
        exact ⟨_, .emptyArray hb, by rw [hcut, hskip]; simp⟩
      · obtain ⟨⟨js, after⟩, hitems, h⟩ := bind_eq_ok_iff.mp h
        obtain ⟨rfl, rfl⟩ := Prod.mk.inj (Except.ok.inj h)
        obtain ⟨text, htext, hcut'⟩ := ih.elements hitems
        exact ⟨_, .array hb htext, by rw [hcut, hcut']; simp⟩
  · cases h
    exact ⟨['n', 'u', 'l', 'l'], .name (by simp [names]), rfl⟩
  · cases h
    exact ⟨['t', 'r', 'u', 'e'], .name (by simp [names]), rfl⟩
  · cases h
    exact ⟨['f', 'a', 'l', 's', 'e'], .name (by simp [names]), rfl⟩
  · cases h
    exact ⟨['N', 'a', 'N'], .name (by simp [names]), rfl⟩
  · cases h
    exact ⟨['I', 'n', 'f', 'i', 'n', 'i', 't', 'y'], .name (by simp [names]), rfl⟩
  · cases h
    exact ⟨['-', 'I', 'n', 'f', 'i', 'n', 'i', 't', 'y'], .name (by simp [names]), rfl⟩
  · obtain ⟨text, htext, rfl⟩ := numeral_of_number h
    exact ⟨text, .numeral htext, rfl⟩

theorem members_sound {steps : Nat} (ih : Sound steps) {levels : Nat} {cs : List Char}
    {fs : List (String × Json)} {rest : Rest}
    (h : members (steps + 1) levels cs = .ok (fs, rest)) :
    ∃ text, Denotes text (.fields fs) ∧ cs = text ++ rest := by
  rw [members.eq_def] at h
  split at h
  · next steps' levels' tail heq =>
    cases heq
    split at h
    · cases h
    · next name after hread =>
      obtain ⟨body, rfl, hname⟩ := spells_of_stringTail hread
      obtain ⟨u, hu, hcut⟩ := exists_blanks after
      split at h
      · next after' hskip =>
        obtain ⟨v, hv, hcutName⟩ := exists_blanks after'
        obtain ⟨⟨j, last⟩, hvalue, h⟩ := bind_eq_ok_iff.mp h
        obtain ⟨text, htext, hcutValue⟩ := ih.value hvalue
        obtain ⟨w, hw, hcutLast⟩ := exists_blanks last
        simp only at h
        split at h
        · next hclose =>
          obtain ⟨rfl, rfl⟩ := Prod.mk.inj (Except.ok.inj h)
          refine ⟨_, .lastField hname hu hv htext hw, ?_⟩
          rw [hcut, hskip, hcutName, hcutValue, hcutLast, hclose]
          simp
        · next more hcomma =>
          obtain ⟨⟨others, final⟩, hothers, h⟩ := bind_eq_ok_iff.mp h
          obtain ⟨rfl, rfl⟩ := Prod.mk.inj (Except.ok.inj h)
          obtain ⟨x, hx, hcutMore⟩ := exists_blanks more
          obtain ⟨text', htext', hcutOthers⟩ := ih.members hothers
          refine ⟨_, .field hname hu hv htext hw hx htext', ?_⟩
          rw [hcut, hskip, hcutName, hcutValue, hcutLast, hcomma, hcutMore, hcutOthers]
          simp
        · cases h
      · cases h
  · cases h

theorem elements_sound {steps : Nat} (ih : Sound steps) {levels : Nat} {cs : List Char}
    {js : List Json} {rest : Rest} (h : elements (steps + 1) levels cs = .ok (js, rest)) :
    ∃ text, Denotes text (.items js) ∧ cs = text ++ rest := by
  rw [elements.eq_def] at h
  simp only at h
  obtain ⟨⟨v, last⟩, hvalue, h⟩ := bind_eq_ok_iff.mp h
  obtain ⟨text, htext, hcut⟩ := ih.value hvalue
  obtain ⟨b, hb, hcutLast⟩ := exists_blanks last
  simp only at h
  split at h
  · next hclose =>
    obtain ⟨rfl, rfl⟩ := Prod.mk.inj (Except.ok.inj h)
    refine ⟨_, .lastItem htext hb, ?_⟩
    rw [hcut, hcutLast, hclose]
    simp
  · next more hcomma =>
    obtain ⟨⟨others, final⟩, hothers, h⟩ := bind_eq_ok_iff.mp h
    obtain ⟨rfl, rfl⟩ := Prod.mk.inj (Except.ok.inj h)
    obtain ⟨b', hb', hcutMore⟩ := exists_blanks more
    obtain ⟨text', htext', hcutOthers⟩ := ih.elements hothers
    refine ⟨_, .item htext hb hb' htext', ?_⟩
    rw [hcut, hcutLast, hcomma, hcutMore, hcutOthers]
    simp
  · cases h

theorem sound (steps : Nat) : Sound steps := by
  induction steps with
  | zero =>
    refine ⟨fun h => ?_, fun h => ?_, fun h => ?_⟩
    · cases h
    · cases h
    · cases h
  | succ steps ih => exact ⟨value_sound ih, members_sound ih, elements_sound ih⟩

/-! ## What is of the grammar is read -/

theorem Yields.bind {α β : Type} {r : Except ReadError α} {f : α → Except ReadError β} {a : α}
    {b : β} (h : Yields r a) (hf : Yields (f a) b) : Yields (r >>= f) b := by
  obtain rfl | ⟨e, rfl, he⟩ := h
  · exact hf
  · exact .inr ⟨e, rfl, he⟩

/-- What no piece of the grammar begins with. -/
def outside : List Char := [' ', '\t', '\n', '\r', ',', ']', '}']

/-- A number begins with a digit, or with a minus and a digit. -/
theorem head_of_numeral {text : List Char} {j : Json} (h : Numeral text j) :
    ∃ negative d cs, text = sign negative ++ d :: cs ∧ isDigit d := by
  have hhead : ∀ {whole : List Char}, Whole whole → ∃ d cs, whole = d :: cs ∧ isDigit d := by
    intro whole hwhole
    obtain ⟨hne, hall⟩ := decimal_iff.mp hwhole.1
    obtain ⟨d, cs, rfl⟩ := List.exists_cons_of_ne_nil hne
    exact ⟨d, cs, rfl, hall d List.mem_cons_self⟩
  cases h with
  | int negative hwhole =>
    obtain ⟨d, cs, rfl, hd⟩ := hhead hwhole
    exact ⟨negative, d, cs, rfl, hd⟩
  | real negative hwhole =>
    obtain ⟨d, cs, rfl, hd⟩ := hhead hwhole
    exact ⟨negative, d, _, rfl, hd⟩

theorem head_of_denotes {text : List Char} {part : Part} (h : Denotes text part) :
    ∃ c cs, text = c :: cs ∧ c ∉ outside := by
  induction h with
  | name h =>
    simp only [names, List.mem_cons, Prod.mk.injEq, List.not_mem_nil, or_false] at h
    obtain ⟨rfl, -⟩ | ⟨rfl, -⟩ | ⟨rfl, -⟩ | ⟨rfl, -⟩ | ⟨rfl, -⟩ | ⟨rfl, -⟩ := h
    all_goals exact ⟨_, _, rfl, by decide⟩
  | numeral h =>
    obtain ⟨negative, d, cs, rfl, hd⟩ := head_of_numeral h
    cases negative with
    | true => exact ⟨'-', d :: cs, rfl, by decide⟩
    | false =>
      have hnone : outside.all (!isDigit ·) = true := by decide
      refine ⟨d, cs, rfl, fun hmem => ?_⟩
      simpa [hd] using List.all_eq_true.mp hnone d hmem
  | lastItem _ _ ih =>
    obtain ⟨c, cs, rfl, hc⟩ := ih
    exact ⟨c, _, rfl, hc⟩
  | item _ _ _ _ ih =>
    obtain ⟨c, cs, rfl, hc⟩ := ih
    exact ⟨c, _, rfl, hc⟩
  | _ => exact ⟨_, _, rfl, by decide⟩

theorem skipBlanks_denotes {b text : List Char} {part : Part} (hb : Blanks b)
    (h : Denotes text part) (rest : List Char) : skipBlanks (b ++ (text ++ rest)) = text ++ rest := by
  obtain ⟨c, cs, rfl, hc⟩ := head_of_denotes h
  exact skipBlanks_append hb (fun hmem => hc (List.mem_append_left [',', ']', '}'] hmem)) _

/-- The piece is read by its reader, in as many steps as it has characters. -/
def Complete (text : List Char) : Part → Prop
  | .value j => ∀ steps levels rest, text.length ≤ steps → Delimited rest →
      Yields (value steps levels (text ++ rest)) (j, rest)
  | .items js => ∀ steps levels rest, text.length ≤ steps →
      Yields (elements steps levels (text ++ rest)) (js, rest)
  | .fields fs => ∀ steps levels rest, text.length ≤ steps →
      Yields (members steps levels (text ++ rest)) (fs, rest)

theorem value_of_numeral {text : List Char} {j : Json} (h : Numeral text j) (steps levels : Nat)
    (rest : List Char) : value (steps + 1) levels (text ++ rest) = number (text ++ rest) := by
  obtain ⟨negative, d, cs, rfl, hd⟩ := head_of_numeral h
  cases negative with
  | false => exact value_of_digit hd steps levels (cs ++ rest)
  | true =>
    have hI : d ≠ 'I' := by
      rintro rfl
      exact absurd hd (by decide)
    have hcut : sign true ++ d :: cs ++ rest = '-' :: d :: (cs ++ rest) := rfl
    rw [hcut, value]
    all_goals
      intro tail heq
      simp [hI] at heq

theorem value_array {b text : List Char} (hb : Blanks b) {js : List Json}
    (h : Denotes text (.items js)) (steps levels : Nat) (rest : List Char) :
    value (steps + 1) (levels + 1) ('[' :: (b ++ text) ++ rest) =
      elements steps levels (text ++ rest) >>= fun found => .ok (.array found.1, found.2) := by
  have hskip := skipBlanks_denotes hb h rest
  rw [List.cons_append, List.append_assoc, value.eq_def]
  simp only [hskip]
  obtain ⟨c, cs, rfl, hc⟩ := head_of_denotes h
  split
  · next heq =>
    obtain rfl := (List.cons.inj heq).1
    exact absurd (by decide) hc
  · rfl

theorem value_fields {b text : List Char} (hb : Blanks b) {fs : List (String × Json)}
    (h : Denotes text (.fields fs)) (steps levels : Nat) (rest : List Char) :
    value (steps + 1) (levels + 1) ('{' :: (b ++ text) ++ rest) =
      members steps levels (text ++ rest) >>= fun found => .ok (.object found.1, found.2) := by
  have hskip := skipBlanks_denotes hb h rest
  rw [List.cons_append, List.append_assoc, value.eq_def]
  simp only [hskip]
  obtain ⟨c, cs, rfl, hc⟩ := head_of_denotes h
  split
  · next heq =>
    obtain rfl := (List.cons.inj heq).1
    exact absurd (by decide) hc
  · rfl

section readers

variable {steps levels : Nat} {rest b : List Char}

theorem yields_emptyArray (hb : Blanks b) :
    Yields (value (steps + 1) levels ('[' :: (b ++ [']']) ++ rest)) (.array [], rest) := by
  cases levels with
  | zero => exact .inr ⟨_, rfl, by decide⟩
  | succ levels =>
    rw [List.cons_append, List.append_assoc, List.singleton_append, value]
    simp only [skipBlanks_append hb (show ']' ∉ [' ', '\t', '\n', '\r'] by decide)]
    exact .inl rfl

theorem yields_array {text : List Char} {js : List Json} (hb : Blanks b)
    (h : Denotes text (.items js))
    (hitems : ∀ levels, Yields (elements steps levels (text ++ rest)) (js, rest)) :
    Yields (value (steps + 1) levels ('[' :: (b ++ text) ++ rest)) (.array js, rest) := by
  cases levels with
  | zero => exact .inr ⟨_, rfl, by decide⟩
  | succ levels =>
    rw [value_array hb h]
    exact (hitems levels).bind (.inl rfl)

theorem yields_emptyObject (hb : Blanks b) :
    Yields (value (steps + 1) levels ('{' :: (b ++ ['}']) ++ rest)) (.object [], rest) := by
  cases levels with
  | zero => exact .inr ⟨_, rfl, by decide⟩
  | succ levels =>
    rw [List.cons_append, List.append_assoc, List.singleton_append, value]
    simp only [skipBlanks_append hb (show '}' ∉ [' ', '\t', '\n', '\r'] by decide)]
    exact .inl rfl

theorem yields_object {text : List Char} {fs : List (String × Json)} (hb : Blanks b)
    (h : Denotes text (.fields fs))
    (hfields : ∀ levels, Yields (members steps levels (text ++ rest)) (fs, rest)) :
    Yields (value (steps + 1) levels ('{' :: (b ++ text) ++ rest)) (.object fs, rest) := by
  cases levels with
  | zero => exact .inr ⟨_, rfl, by decide⟩
  | succ levels =>
    rw [value_fields hb h]
    exact (hfields levels).bind (.inl rfl)

variable {cs : List Char} {j : Json}

theorem yields_lastItem (hb : Blanks b)
    (hvalue : Yields (value steps levels (cs ++ (b ++ ']' :: rest))) (j, b ++ ']' :: rest)) :
    Yields (elements (steps + 1) levels (cs ++ (b ++ [']']) ++ rest)) ([j], rest) := by
  rw [List.append_assoc, List.append_assoc, List.singleton_append, elements]
  refine hvalue.bind ?_
  simp only [skipBlanks_append hb (show ']' ∉ [' ', '\t', '\n', '\r'] by decide)]
  exact .inl rfl

theorem yields_item {b' others : List Char} {js : List Json} (hb : Blanks b) (hb' : Blanks b')
    (h : Denotes others (.items js))
    (hvalue : Yields (value steps levels (cs ++ (b ++ ',' :: (b' ++ (others ++ rest)))))
      (j, b ++ ',' :: (b' ++ (others ++ rest))))
    (hothers : Yields (elements steps levels (others ++ rest)) (js, rest)) :
    Yields (elements (steps + 1) levels (cs ++ (b ++ ',' :: (b' ++ others)) ++ rest))
      (j :: js, rest) := by
  simp only [List.append_assoc, List.cons_append]
  rw [elements]
  refine hvalue.bind ?_
  simp only [skipBlanks_append hb (show ',' ∉ [' ', '\t', '\n', '\r'] by decide),
    skipBlanks_denotes hb' h]
  exact hothers.bind (.inl rfl)

variable {body name u v w : List Char} (hname : Spells body name) (hu : Blanks u) (hv : Blanks v)
  (h : Denotes cs (.value j)) (hw : Blanks w)

include hname hu hv h hw

theorem yields_lastField
    (hvalue : Yields (value steps levels (cs ++ (w ++ '}' :: rest))) (j, w ++ '}' :: rest)) :
    Yields (members (steps + 1) levels
      ('"' :: (body ++ '"' :: (u ++ ':' :: (v ++ (cs ++ (w ++ ['}']))))) ++ rest))
      ([(String.ofList name, j)], rest) := by
  simp only [List.append_assoc, List.cons_append, List.nil_append]
  rw [members]
  simp only [stringTail_of_spells hname,
    skipBlanks_append hu (show ':' ∉ [' ', '\t', '\n', '\r'] by decide),
    skipBlanks_denotes hv h]
  refine hvalue.bind ?_
  simp only [skipBlanks_append hw (show '}' ∉ [' ', '\t', '\n', '\r'] by decide)]
  exact .inl rfl

theorem yields_field {x others : List Char} {fs : List (String × Json)} (hx : Blanks x)
    (hrest : Denotes others (.fields fs))
    (hvalue : Yields (value steps levels (cs ++ (w ++ ',' :: (x ++ (others ++ rest)))))
      (j, w ++ ',' :: (x ++ (others ++ rest))))
    (hothers : Yields (members steps levels (others ++ rest)) (fs, rest)) :
    Yields (members (steps + 1) levels
      ('"' :: (body ++ '"' :: (u ++ ':' :: (v ++ (cs ++ (w ++ ',' :: (x ++ others)))))) ++ rest))
      ((String.ofList name, j) :: fs, rest) := by
  simp only [List.append_assoc, List.cons_append]
  rw [members]
  simp only [stringTail_of_spells hname,
    skipBlanks_append hu (show ':' ∉ [' ', '\t', '\n', '\r'] by decide),
    skipBlanks_denotes hv h]
  refine hvalue.bind ?_
  simp only [skipBlanks_append hw (show ',' ∉ [' ', '\t', '\n', '\r'] by decide),
    skipBlanks_denotes hx hrest]
  exact hothers.bind (.inl rfl)

end readers

theorem exists_step {text : List Char} {part : Part} (h : Denotes text part) {steps : Nat}
    (hsteps : text.length ≤ steps) : ∃ k, steps = k + 1 := by
  obtain ⟨c, cs, rfl, -⟩ := head_of_denotes h
  rw [List.length_cons] at hsteps
  exact ⟨steps - 1, by omega⟩

/-- By induction on the derivation: the parts of a piece are shorter than the piece, and behind a
value stands what closes it or a comma. -/
theorem complete {text : List Char} {part : Part} (h : Denotes text part) : Complete text part := by
  induction h with
  | name h =>
    intro steps levels rest hsteps _
    obtain ⟨steps, rfl⟩ := exists_step (.name h) hsteps
    simp only [names, List.mem_cons, Prod.mk.injEq, List.not_mem_nil, or_false] at h
    obtain ⟨rfl, rfl⟩ | ⟨rfl, rfl⟩ | ⟨rfl, rfl⟩ | ⟨rfl, rfl⟩ | ⟨rfl, rfl⟩ | ⟨rfl, rfl⟩ := h
    all_goals exact .inl rfl
  | numeral h =>
    intro steps levels rest hsteps hrest
    obtain ⟨steps, rfl⟩ := exists_step (.numeral h) hsteps
    rw [value_of_numeral h]
    exact number_of_numeral h hrest
  | text h =>
    intro steps levels rest hsteps _
    obtain ⟨steps, rfl⟩ := exists_step (.text h) hsteps
    rw [List.cons_append, List.append_assoc, List.singleton_append, value]
    simp only [stringTail_of_spells h]
    exact .inl rfl
  | emptyArray hb =>
    intro steps levels rest hsteps _
    obtain ⟨steps, rfl⟩ := exists_step (.emptyArray hb) hsteps
    exact yields_emptyArray hb
  | array hb h ih =>
    intro steps levels rest hsteps _
    obtain ⟨steps, rfl⟩ := exists_step (.array hb h) hsteps
    simp only [List.length_cons, List.length_append] at hsteps
    exact yields_array hb h fun levels => ih steps levels rest (by omega)
  | emptyObject hb =>
    intro steps levels rest hsteps _
    obtain ⟨steps, rfl⟩ := exists_step (.emptyObject hb) hsteps
    exact yields_emptyObject hb
  | object hb h ih =>
    intro steps levels rest hsteps _
    obtain ⟨steps, rfl⟩ := exists_step (.object hb h) hsteps
    simp only [List.length_cons, List.length_append] at hsteps
    exact yields_object hb h fun levels => ih steps levels rest (by omega)
  | lastItem h hb ih =>
    intro steps levels rest hsteps
    obtain ⟨steps, rfl⟩ := exists_step (.lastItem h hb) hsteps
    simp only [List.length_append, List.length_cons] at hsteps
    refine yields_lastItem hb (ih steps levels _ (by omega) ?_)
    exact delimited_append hb (by decide) rest
  | item h hb hb' hothers ih ihothers =>
    intro steps levels rest hsteps
    obtain ⟨steps, rfl⟩ := exists_step (.item h hb hb' hothers) hsteps
    simp only [List.length_append, List.length_cons] at hsteps
    refine yields_item hb hb' hothers (ih steps levels _ (by omega) ?_)
      (ihothers steps levels rest (by omega))
    exact delimited_append hb (by decide) _
  | lastField hname hu hv h hw ih =>
    intro steps levels rest hsteps
    obtain ⟨steps, rfl⟩ := exists_step (.lastField hname hu hv h hw) hsteps
    simp only [List.length_append, List.length_cons] at hsteps
    refine yields_lastField hname hu hv h hw (ih steps levels _ (by omega) ?_)
    exact delimited_append hw (by decide) rest
  | field hname hu hv h hw hx hothers ih ihothers =>
    intro steps levels rest hsteps
    obtain ⟨steps, rfl⟩ := exists_step (.field hname hu hv h hw hx hothers) hsteps
    simp only [List.length_append, List.length_cons] at hsteps
    refine yields_field hname hu hv h hw hx hothers (ih steps levels _ (by omega) ?_)
      (ihothers steps levels rest (by omega))
    exact delimited_append hw (by decide) _

/-! ## Whole texts -/

theorem document_of_parseWithin {levels : Nat} {cs : List Char} {j : Json}
    (h : parseWithin levels cs = .ok j) : Document cs j := by
  unfold parseWithin at h
  split at h
  · cases h
  · next v rest hvalue =>
    split at h
    · next hend =>
      obtain rfl := Except.ok.inj h
      obtain ⟨b, hb, hcut⟩ := exists_blanks cs
      obtain ⟨b', hb', hcut'⟩ := exists_blanks rest
      obtain ⟨text, htext, hread⟩ := (sound _).value hvalue
      rw [List.isEmpty_iff.mp hend, List.append_nil] at hcut'
      exact ⟨b, text, b', hb, htext, hb', by rw [hcut, hread, hcut']⟩
    · cases h

theorem delimited_of_blanks {b : List Char} (hb : Blanks b) : Delimited b := fun c hc =>
  List.mem_append_left [',', ']', '}'] (hb c (List.mem_of_mem_head? hc))

theorem parseWithin_of_document {cs : List Char} {j : Json} (h : Document cs j) (levels : Nat) :
    Yields (parseWithin levels cs) j := by
  obtain ⟨b, text, b', hb, htext, hb', rfl⟩ := h
  have hsteps : text.length ≤ 2 * (b ++ (text ++ b')).length + 1 := by
    simp only [List.length_append]
    omega
  have hend : skipBlanks b' = [] := List.dropWhile_eq_nil_iff.mpr fun c hc => by
    simpa [or_assoc] using hb' c hc
  rw [parseWithin, skipBlanks_denotes hb htext]
  obtain hvalue | ⟨e, he, hne⟩ := complete htext _ levels b' hsteps (delimited_of_blanks hb')
  · rw [hvalue]
    simp only [hend]
    exact .inl rfl
  · rw [he]
    exact .inr ⟨e, rfl, hne⟩

/-- A text that is not given up is read just where it is of the grammar. -/
theorem parseWithin_eq_ok_iff {levels : Nat} {cs : List Char}
    (h : ∀ e, parseWithin levels cs = .error e → e = .malformed) {j : Json} :
    parseWithin levels cs = .ok j ↔ Document cs j := by
  refine ⟨document_of_parseWithin, fun hdoc => ?_⟩
  obtain hread | ⟨e, he, hne⟩ := parseWithin_of_document hdoc levels
  · exact hread
  · exact absurd (h e he) hne

theorem parseWithin_eq_malformed_iff {levels : Nat} {cs : List Char}
    (h : ∀ e, parseWithin levels cs = .error e → e = .malformed) :
    parseWithin levels cs = .error .malformed ↔ ¬∃ j, Document cs j := by
  simp only [← parseWithin_eq_ok_iff h]
  cases hread : parseWithin levels cs with
  | ok j => simp
  | error e => simp [h e hread]

end EnclaveFleet.Json
