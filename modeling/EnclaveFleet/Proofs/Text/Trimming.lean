import EnclaveFleet.Text.Blank
import Mathlib.Data.List.DropRight

/-!
# Texts without their surroundings

What is trimmed off a text is a class of characters at its two ends. The rest begins and ends
outside of the class, and it is the only part between such ends that does.

* `Bare`: a text that begins and ends outside of the class
* `bare_trimWhile`, `exists_around`: what is left, and where it stands in the text
* `trimWhile_around`: a bare text is left, whatever of the class is put around it
* `bare_iff`: a text is bare when nothing is trimmed off
-/
namespace EnclaveFleet
set_option autoImplicit false

/-! ## The end of a text -/

theorem rdropWhile_append_of_all {p : Char → Bool} {tail : List Char} (h : ∀ c ∈ tail, p c)
    (cs : List Char) : (cs ++ tail).rdropWhile p = cs.rdropWhile p := by
  induction tail using List.reverseRecOn with
  | nil => rw [List.append_nil]
  | append_singleton tail c ih =>
    have hc : p c := h c (by simp)
    rw [← List.append_assoc, List.rdropWhile_concat_pos _ _ _ hc]
    exact ih fun d hd => h d (by simp [hd])

theorem getLast_rdropWhile {p : Char → Bool} {cs : List Char} {c : Char}
    (h : (cs.rdropWhile p).getLast? = some c) : ¬p c := by
  obtain ⟨front, hfront⟩ := List.getLast?_eq_some_iff.mp h
  have hlast := List.rdropWhile_last_not p cs (by simp [hfront])
  simpa [hfront] using hlast

namespace Text

/-! ## Both ends -/

structure Bare (p : Char → Bool) (cs : List Char) : Prop where
  starts : ∀ c, cs.head? = some c → p c = false
  ends : ∀ c, cs.getLast? = some c → p c = false

variable {p : Char → Bool} {cs : List Char}

theorem bare_of_forall (h : ∀ c ∈ cs, p c = false) : Bare p cs where
  starts := fun c hc => h c (List.mem_of_head? hc)
  ends := fun c hc => h c (List.mem_of_getLast? hc)

theorem head_dropWhile {c : Char} (h : (cs.dropWhile p).head? = some c) : p c = false := by
  have hnot := List.head?_dropWhile_not p cs
  rw [h] at hnot
  exact hnot

theorem bare_trimWhile (p : Char → Bool) (cs : List Char) : Bare p (trimWhile p cs) where
  starts := by
    intro c hc
    obtain ⟨more, hmore⟩ := List.head?_eq_some_iff.mp hc
    obtain ⟨after, hafter⟩ : trimWhile p cs <+: cs.dropWhile p := List.rdropWhile_prefix p _
    have hhead : (cs.dropWhile p).head? = some c := by
      rw [← hafter, hmore]
      rfl
    exact head_dropWhile hhead
  ends := by
    intro c hc
    have hnot : ¬p c := getLast_rdropWhile hc
    simpa using hnot

theorem exists_around (p : Char → Bool) (cs : List Char) :
    ∃ before after, (∀ c ∈ before, p c) ∧ (∀ c ∈ after, p c) ∧
      cs = before ++ trimWhile p cs ++ after := by
  have hend : trimWhile p cs ++ (cs.dropWhile p).rtakeWhile p = cs.dropWhile p :=
    List.rdropWhile_append_rtakeWhile
  refine ⟨cs.takeWhile p, (cs.dropWhile p).rtakeWhile p, ?_, ?_, ?_⟩
  · intro c hc
    exact List.mem_takeWhile_imp hc
  · intro c hc
    exact List.mem_rtakeWhile_imp hc
  · rw [List.append_assoc, hend, List.takeWhile_append_dropWhile]

theorem mem_of_mem_trimWhile {c : Char} (h : c ∈ trimWhile p cs) : c ∈ cs := by
  obtain ⟨before, after, -, -, hcut⟩ := exists_around p cs
  rw [hcut]
  simp [h]

theorem trimWhile_eq_nil_iff : trimWhile p cs = [] ↔ ∀ c ∈ cs, p c := by
  constructor
  · intro h c hc
    obtain ⟨before, after, hbefore, hafter, hcut⟩ := exists_around p cs
    rw [h, List.append_nil] at hcut
    rw [hcut, List.mem_append] at hc
    exact hc.elim (hbefore c) (hafter c)
  · intro h
    unfold trimWhile
    rw [List.dropWhile_eq_nil_iff.mpr h]
    rfl

theorem trimWhile_around (h : Bare p cs) {before after : List Char} (hbefore : ∀ c ∈ before, p c)
    (hafter : ∀ c ∈ after, p c) : trimWhile p (before ++ cs ++ after) = cs := by
  by_cases hcs : cs = []
  · subst hcs
    apply trimWhile_eq_nil_iff.mpr
    intro c hc
    rw [List.append_nil, List.mem_append] at hc
    exact hc.elim (hbefore c) (hafter c)
  · obtain ⟨first, rest, hfirst⟩ := List.exists_cons_of_ne_nil hcs
    have hself : cs.rdropWhile p = cs := by
      rw [List.rdropWhile_eq_self_iff]
      intro hne
      simp [h.ends _ (List.getLast?_eq_some_getLast hne)]
    have hstart : p first = false := h.starts first (by rw [hfirst]; rfl)
    have hdrop : (before ++ cs ++ after).dropWhile p = cs ++ after := by
      rw [List.append_assoc, List.dropWhile_append_of_pos hbefore, hfirst, List.cons_append,
        List.dropWhile_cons_of_neg (by simp [hstart])]
    unfold trimWhile
    rw [hdrop]
    exact (rdropWhile_append_of_all hafter cs).trans hself

theorem bare_iff : Bare p cs ↔ trimWhile p cs = cs := by
  constructor
  · intro h
    have hplain := trimWhile_around h (fun c hc => nomatch hc : ∀ c ∈ [], p c)
      (fun c hc => nomatch hc : ∀ c ∈ [], p c)
    rwa [List.nil_append, List.append_nil] at hplain
  · intro h
    rw [← h]
    exact bare_trimWhile p cs

end Text
end EnclaveFleet
