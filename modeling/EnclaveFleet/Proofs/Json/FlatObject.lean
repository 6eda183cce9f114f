import EnclaveFleet.Json.Reader
import EnclaveFleet.Json.Writer
import EnclaveFleet.Proofs.Settings.Accepted
import EnclaveFleet.Proofs.Text.Cuts

/-!
# Objects of words

* `flat`: an object whose values are texts
* `parse_render_flat`: where names and texts are words, the object is read back from what is written
* `getLast_flat`: a name that occurs more than once has the same value each time when it is computed
  from the name
-/
namespace EnclaveFleet.Json
set_option autoImplicit false

/-- Letters, digits and underscores stand for themselves in a text. -/
def IsWord (s : String) : Prop := ∀ c ∈ s.toList, VariableName.isRest c

theorem plain_of_isRest {c : Char} (h : VariableName.isRest c) :
    c ≠ '"' ∧ c ≠ '\\' ∧ 0x20 ≤ c.toNat := by
  have hplain := VariableName.isPlain_of_isRest h
  refine ⟨?_, ?_, ?_⟩
  · rintro rfl
    exact absurd hplain (by decide)
  · rintro rfl
    exact absurd hplain (by decide)
  · have hc := VariableName.holds_of_isRest (p := fun c => 0x20 ≤ c.toNat) (by decide) h
    simpa using hc

theorem renderText_word {s : String} (h : IsWord s) :
    renderText s = '"' :: (s.toList ++ ['"']) := by
  have hascii : ∀ c ∈ s.toList, isAscii c := fun c hc => by
    simpa [isAscii] using VariableName.ascii_of_isRest (h c hc)
  have hpoint : ∀ c ∈ s.toList, renderPoint c.toNat = [c] := by
    intro c hc
    obtain ⟨hquote, hslash, hlow⟩ := plain_of_isRest (h c hc)
    have hsmall : c.toNat < 0x80 := VariableName.ascii_of_isRest (h c hc)
    have h22 : c.toNat ≠ 0x22 := fun e => hquote (Char.toNat_inj.mp e)
    have h5C : c.toNat ≠ 0x5C := fun e => hslash (Char.toNat_inj.mp e)
    have hsur : Points.isSurrogate c.toNat = false := by
      simp only [Points.isSurrogate, Bool.and_eq_false_iff, decide_eq_false_iff_not]
      omega
    rw [renderPoint, if_neg h22, if_neg h5C, if_neg (by simp [hsur]; omega), Char.ofNat_toNat]
  have hpoints : s.points.flatMap renderPoint = s.toList := by
    rw [String.points, Points.ofChars_of_ascii hascii, List.flatMap_map]
    calc s.toList.flatMap (fun c => renderPoint c.toNat)
        = s.toList.flatMap (fun c => [c]) := by
          rw [List.flatMap_def, List.map_congr_left hpoint, ← List.flatMap_def]
      _ = s.toList := by simp
  rw [renderText, hpoints]

theorem stringTail_word {cs : List Char} (h : ∀ c ∈ cs, VariableName.isRest c) (rest : List Char) :
    stringTail (cs ++ '"' :: rest) = some (cs, rest) := by
  induction cs with
  | nil => rw [List.nil_append, stringTail]
  | cons c cs ih =>
    obtain ⟨hquote, hslash, hlow⟩ := plain_of_isRest (h c (by simp))
    have htail := ih fun d hd => h d (by simp [hd])
    rw [List.cons_append, stringTail]
    · rw [if_neg (by omega), htail]
      rfl
    all_goals simp_all

theorem value_word {s : String} (h : IsWord s) (steps levels : Nat) (rest : List Char) :
    value (steps + 1) levels (renderText s ++ rest) = .ok (.text s, rest) := by
  have htail : stringTail (s.toList ++ '"' :: rest) = some (s.toList, rest) :=
    stringTail_word h rest
  rw [renderText_word h, List.cons_append, List.append_assoc, List.singleton_append, value]
  simp only [htail, String.ofList_toList]

/-! ## Fields -/

def texts (fields : List (String × String)) : List (String × Json) :=
  fields.map fun f => (f.1, .text f.2)

def flat (fields : List (String × String)) : Json := .object (texts fields)

def Words (fields : List (String × String)) : Prop := ∀ f ∈ fields, IsWord f.1 ∧ IsWord f.2

theorem skipBlanks_cons {c : Char} (h : c ∉ [' ', '\t', '\n', '\r']) (cs : List Char) :
    skipBlanks (c :: cs) = c :: cs := by
  simp only [List.mem_cons, List.not_mem_nil, or_false, not_or] at h
  simp [skipBlanks, h]

theorem skipBlanks_renderText {s : String} (h : IsWord s) (rest : List Char) :
    skipBlanks (renderText s ++ rest) = renderText s ++ rest := by
  rw [renderText_word h]
  exact skipBlanks_cons (by simp) _

/-- The first field is read; what follows it decides how the reader goes on. -/
theorem members_word {name s : String} (hname : IsWord name) (hs : IsWord s) (steps levels : Nat)
    (rest : List Char) :
    members (steps + 2) levels (renderText name ++ ':' :: (renderText s ++ rest)) =
      match skipBlanks rest with
      | '}' :: rest => .ok ([(name, .text s)], rest)
      | ',' :: rest => do
        let (fields, rest) ← members (steps + 1) levels (skipBlanks rest)
        return ((name, .text s) :: fields, rest)
      | _ => .error .malformed := by
  have htail : stringTail (name.toList ++ '"' :: (':' :: (renderText s ++ rest))) =
      some (name.toList, ':' :: (renderText s ++ rest)) := stringTail_word hname _
  have hcolon := skipBlanks_cons (c := ':') (by simp) (renderText s ++ rest)
  rw [renderText_word hname, List.cons_append, List.append_assoc, List.singleton_append, members]
  simp only [htail, hcolon, skipBlanks_renderText hs, value_word hs, String.ofList_toList]
  rfl

theorem renderFields_texts_one (name s : String) :
    renderFields (texts [(name, s)]) = renderText name ++ ':' :: renderText s := rfl

theorem renderFields_texts_cons {name s : String} {fields : List (String × String)}
    (hne : fields ≠ []) :
    renderFields (texts ((name, s) :: fields)) =
      renderText name ++ ':' :: (renderText s ++ ',' :: renderFields (texts fields)) := by
  obtain ⟨f, fields, rfl⟩ := List.exists_cons_of_ne_nil hne
  rfl

theorem renderFields_texts_quote {fields : List (String × String)} (hne : fields ≠ [])
    (h : Words fields) : ∃ cs, renderFields (texts fields) = '"' :: cs := by
  obtain ⟨⟨name, s⟩, fields, rfl⟩ := List.exists_cons_of_ne_nil hne
  have hname : renderText name = '"' :: (name.toList ++ ['"']) :=
    renderText_word (h (name, s) (by simp)).1
  by_cases hlast : fields = []
  · subst hlast
    rw [renderFields_texts_one, hname]
    exact ⟨_, rfl⟩
  · rw [renderFields_texts_cons hlast, hname]
    exact ⟨_, rfl⟩

theorem members_texts {fields : List (String × String)} (hne : fields ≠ []) (h : Words fields)
    (steps levels : Nat) (hsteps : fields.length < steps) (rest : List Char) :
    members steps levels (renderFields (texts fields) ++ '}' :: rest) =
      .ok (texts fields, rest) := by
  induction fields generalizing steps with
  | nil => exact absurd rfl hne
  | cons f fields ih =>
    obtain ⟨name, s⟩ := f
    obtain ⟨hname, hs⟩ : IsWord name ∧ IsWord s := h (name, s) (by simp)
    have hwords : Words fields := fun f hf => h f (by simp [hf])
    rw [List.length_cons] at hsteps
    obtain ⟨steps, rfl⟩ : ∃ k, steps = k + 2 := ⟨steps - 2, by omega⟩
    by_cases hlast : fields = []
    · subst hlast
      have hread := members_word hname hs steps levels ('}' :: rest)
      rw [skipBlanks_cons (by simp)] at hread
      rw [renderFields_texts_one, List.append_assoc, List.cons_append, hread]
      rfl
    · have hrest := ih hlast hwords (steps + 1) (by omega)
      have hread := members_word hname hs steps levels
        (',' :: (renderFields (texts fields) ++ '}' :: rest))
      have hblank : skipBlanks (renderFields (texts fields) ++ '}' :: rest) =
          renderFields (texts fields) ++ '}' :: rest := by
        obtain ⟨cs, hcs⟩ := renderFields_texts_quote hlast hwords
        rw [hcs]
        exact skipBlanks_cons (by simp) _
      rw [skipBlanks_cons (by simp)] at hread
      simp only [hblank, hrest] at hread
      rw [renderFields_texts_cons hlast, List.append_assoc, List.cons_append, List.append_assoc,
        List.cons_append, hread]
      rfl

theorem length_texts_le (fields : List (String × String)) :
    fields.length ≤ (renderFields (texts fields)).length := by
  induction fields with
  | nil => simp
  | cons f fields ih =>
    obtain ⟨name, s⟩ := f
    by_cases hlast : fields = []
    · subst hlast
      rw [renderFields_texts_one]
      simp only [List.length_cons, List.length_append, List.length_nil]
      omega
    · rw [renderFields_texts_cons hlast]
      simp only [List.length_cons, List.length_append]
      omega

theorem value_object {c : Char} (hblank : c ∉ [' ', '\t', '\n', '\r']) (hc : c ≠ '}')
    (steps levels : Nat) (cs : List Char) :
    value (steps + 1) (levels + 1) ('{' :: c :: cs) = do
      let (fields, rest) ← members steps levels (c :: cs)
      return (.object fields, rest) := by
  rw [value]
  simp only [skipBlanks_cons hblank]
  split
  · next heq =>
    injection heq with hhead
    exact absurd hhead hc
  · rfl

theorem parseWithin_render_flat {fields : List (String × String)} (hne : fields ≠ [])
    (h : Words fields) (levels : Nat) :
    parseWithin (levels + 1) (flat fields).render.toList = .ok (flat fields) := by
  have hlength := length_texts_le fields
  have htext : (flat fields).render.toList = '{' :: (renderFields (texts fields) ++ ['}']) := by
    rw [render, String.toList_ofList]
    rfl
  obtain ⟨cs, hcs⟩ := renderFields_texts_quote hne h
  have hread := members_texts hne h (2 * ((cs ++ ['}']).length + 1 + 1)) levels
    (by
      rw [hcs, List.length_cons] at hlength
      rw [List.length_append]
      omega) []
  rw [hcs, List.cons_append] at hread htext
  rw [htext, parseWithin, skipBlanks_cons (by simp), List.length_cons, List.length_cons,
    value_object (by simp) (by simp), hread]
  rfl

theorem parse_render_flat {fields : List (String × String)} (hne : fields ≠ [])
    (h : Words fields) : parse (flat fields).render.toList = .ok (flat fields) := by
  have hlength : (flat fields).render.toList.length =
      (renderFields (texts fields) ++ ['}']).length + 1 := by
    rw [render, String.toList_ofList]
    rfl
  rw [parse, hlength, parseWithin_render_flat hne h]

theorem getLast_flat (f : String → String) {names : List String} {name : String}
    (h : name ∈ names) :
    getLast? name (texts (names.map fun n => (n, f n))) = some (.text (f name)) := by
  have hmem : name ∈ names.reverse := List.mem_reverse.mpr h
  rw [getLast?, texts, List.map_map, ← List.map_reverse]
  generalize names.reverse = ns at hmem
  induction ns with
  | nil => cases hmem
  | cons n ns ih =>
    rw [List.map_cons, List.lookup_cons]
    by_cases hn : name = n
    · subst hn
      simp
    · have hrest := ih ((List.mem_cons.mp hmem).resolve_left hn)
      have hbeq : (name == n) = false := by simpa using hn
      simp only [Function.comp_apply, hbeq]
      exact hrest

end EnclaveFleet.Json
